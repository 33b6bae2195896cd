import Mathlib.Data.List.Basic

/-!
# Copying through a buffer

The loop that moves bytes from a reader to a writer through a buffer: fill the
buffer when it is empty, write from it, drop what was written.  A poll runs the
loop until a half is not ready, the reader is at its end, or something fails.
What the halves do is a script of results, so that a poll is a function of the
state and the script.

Main results:

- Theorem {lit}`copyBuf_balanced`: what was read is what was written followed by
  what is in the buffer.
- Theorem {lit}`copyBuf_eof`: a copy ends well only at the end of the input, with
  nothing left to write.
- Theorem {lit}`copyBuf_append`: a copy interrupted only by waiting is the copy of
  the joined scripts.
- Theorem {lit}`copyBuf_ready`: with both halves ready, the copy delivers the rest
  of the input.
- Theorem {lit}`copyBuf_chunks`: what the calls of a poll take from the reader is
  what the copy receives.
- Theorem {lit}`copyBuf_readsFrom`: a copy whose reader is a stream has a part of
  the stream, and all of it once it has ended well.
-/

namespace BufferedCopy

universe u

variable {β : Type u}

/-- A copy under way: all that was read so far, what of it is still in the
buffer, and all that was written. -/
structure Copy (β : Type u) where
  received : List β
  buffer : List β
  written : List β
deriving DecidableEq, Repr

/-- A copy that has not begun. -/
def Copy.start : Copy β where
  received := []
  buffer := []
  written := []

/-- What a half does when the loop calls it. -/
inductive Io (β : Type u) where
  /-- The reader hands over bytes; none at the end of its input. -/
  | read (bytes : List β)
  | readFailed
  /-- The writer takes up to this many bytes. -/
  | write (n : Nat)
  | writeFailed
deriving DecidableEq, Repr

/-- How the loop ends. -/
inductive CopyEnd where
  | eof
  | errored
deriving DecidableEq, Repr

/-- One call of the loop: it goes on with the copy this leaves, or ends.  Results
of the half that is not called are passed over. -/
def copyCall (c : Copy β) (io : Io β) : Except CopyEnd (Copy β) :=
  match c.buffer, io with
  | [], .read [] => .error .eof
  | [], .read (b :: bytes) =>
      .ok { c with received := c.received ++ b :: bytes, buffer := b :: bytes }
  | [], .readFailed => .error .errored
  | [], _ => .ok c
  -- A writer that takes nothing is an error.
  | _ :: _, .write 0 => .error .errored
  | b :: buffer, .write (n + 1) =>
      .ok { c with buffer := buffer.drop n, written := c.written ++ b :: buffer.take n }
  | _ :: _, .writeFailed => .error .errored
  | _ :: _, _ => .ok c

/-- One poll.  It waits, with `none`, when the script has run out: a half is not
ready. -/
def copyBuf (c : Copy β) : List (Io β) → Copy β × Option CopyEnd
  | [] => (c, none)
  | io :: script =>
      match copyCall c io with
      | .ok next => copyBuf next script
      | .error result => (c, some result)

/-- A copy that had to wait goes on where it stopped. -/
theorem copyBuf_append (c : Copy β) (before after : List (Io β)) :
    copyBuf c (before ++ after) =
      if (copyBuf c before).2 = none then copyBuf (copyBuf c before).1 after
      else copyBuf c before := by
  induction before generalizing c with
  | nil => rfl
  | cons io before ih =>
      rw [List.cons_append, copyBuf, copyBuf]
      cases hcall : copyCall c io with
      | ok next => simpa only using ih next
      | error result => simp

/-! ## What a copy keeps -/

/-- What was read is what was written followed by what is buffered. -/
def Copy.Balanced (c : Copy β) : Prop :=
  c.received = c.written ++ c.buffer

theorem Copy.start_balanced : (Copy.start : Copy β).Balanced :=
  rfl

variable {c : Copy β}

theorem Copy.Balanced.written_prefix (h : c.Balanced) : c.written <+: c.received :=
  ⟨c.buffer, h.symm⟩

variable {io : Io β} {next : Copy β}

theorem copyCall_balanced (h : c.Balanced) (hcall : copyCall c io = .ok next) : next.Balanced := by
  unfold Copy.Balanced at h ⊢
  unfold copyCall at hcall
  split at hcall <;> cases hcall
  all_goals simp_all

/-- A poll keeps the balance. -/
theorem copyBuf_balanced (h : c.Balanced) (script : List (Io β)) :
    (copyBuf c script).1.Balanced := by
  induction script generalizing c with
  | nil => exact h
  | cons io script ih =>
      rw [copyBuf]
      cases hcall : copyCall c io with
      | ok next => exact ih (copyCall_balanced h hcall)
      | error result => exact h

theorem copyCall_eof (hcall : copyCall c io = .error .eof) : c.buffer = [] ∧ io = .read [] := by
  unfold copyCall at hcall
  split at hcall <;> simp_all

/-- A copy ends well only when the reader is at its end and the buffer empty. -/
theorem copyBuf_eof {script : List (Io β)} (h : (copyBuf c script).2 = some .eof) :
    (copyBuf c script).1.buffer = [] ∧ .read [] ∈ script := by
  induction script generalizing c with
  | nil => cases h
  | cons io script ih =>
      rw [copyBuf] at h ⊢
      cases hcall : copyCall c io with
      | ok next =>
          rw [hcall] at h
          have hnext := ih h
          exact ⟨hnext.1, List.mem_cons_of_mem io hnext.2⟩
      | error result =>
          rw [hcall] at h
          cases h
          have hend := copyCall_eof hcall
          exact ⟨hend.1, hend.2 ▸ List.mem_cons_self⟩

/-- A call takes nothing back. -/
theorem copyCall_grows (hcall : copyCall c io = .ok next) :
    c.received <+: next.received ∧ c.written <+: next.written := by
  unfold copyCall at hcall
  split at hcall <;> cases hcall <;> simp

/-- A poll takes nothing back. -/
theorem copyBuf_grows (c : Copy β) (script : List (Io β)) :
    c.received <+: (copyBuf c script).1.received ∧
      c.written <+: (copyBuf c script).1.written := by
  induction script generalizing c with
  | nil => exact ⟨List.prefix_refl _, List.prefix_refl _⟩
  | cons io script ih =>
      rw [copyBuf]
      cases hcall : copyCall c io with
      | ok next =>
          have hnext := copyCall_grows hcall
          exact ⟨hnext.1.trans (ih next).1, hnext.2.trans (ih next).2⟩
      | error result => exact ⟨List.prefix_refl _, List.prefix_refl _⟩

/-! ## The calls of the reader -/

/-- What a call takes from the reader. -/
def taken (c : Copy β) (io : Io β) : List β :=
  match c.buffer, io with
  | [], .read bytes => bytes
  | _, _ => []

/-- What each call of a poll takes from the reader. -/
def chunks (c : Copy β) : List (Io β) → List (List β)
  | [] => []
  | io :: script =>
      taken c io ::
        match copyCall c io with
        | .ok next => chunks next script
        | .error _ => []

theorem copyCall_taken (hcall : copyCall c io = .ok next) :
    next.received = c.received ++ taken c io := by
  rcases c with ⟨received, _ | ⟨b, buffer⟩, written⟩
  · rcases io with ⟨_ | bytes⟩ | _ | _ | _ <;> cases hcall <;> simp [taken]
  · rcases io with _ | _ | ⟨_ | n⟩ | _ <;> cases hcall <;> simp [taken]

theorem taken_of_error {result : CopyEnd} (hcall : copyCall c io = .error result) :
    taken c io = [] := by
  rcases c with ⟨received, _ | ⟨b, buffer⟩, written⟩
  · rcases io with ⟨_ | bytes⟩ | _ | _ | _ <;> cases hcall <;> rfl
  · rfl

/-- A poll receives what its calls take from the reader. -/
theorem copyBuf_chunks (c : Copy β) (script : List (Io β)) :
    (copyBuf c script).1.received = c.received ++ (chunks c script).flatten := by
  induction script generalizing c with
  | nil => simp [copyBuf, chunks]
  | cons io script ih =>
      rw [copyBuf, chunks]
      cases hcall : copyCall c io with
      | ok next => simp only [ih, copyCall_taken hcall, List.flatten_cons, List.append_assoc]
      | error result => simp [taken_of_error hcall]

/-! ## Reading from a stream -/

section Stream

variable [DecidableEq β]

/-- A read that a stream can answer of which `got` has been read: it holds
`source` so far and is at its end if `ended`. -/
def deliverable (source : List β) (ended : Bool) (got : List β) : Io β → Bool
  | .read [] => ended && decide (got = source)
  | .read (b :: bytes) => decide (got ++ b :: bytes <+: source)
  | _ => true

/-- The reads of a poll are those of a stream.  The reader is called only when the
buffer is empty. -/
def readsFrom (source : List β) (ended : Bool) (c : Copy β) : List (Io β) → Bool
  | [] => true
  | io :: script =>
      (!c.buffer.isEmpty || deliverable source ended c.received io) &&
        match copyCall c io with
        | .ok next => readsFrom source ended next script
        | .error _ => true

theorem copyCall_readsFrom {source : List β} {ended : Bool} (hc : c.received <+: source)
    (hio : (!c.buffer.isEmpty || deliverable source ended c.received io) = true)
    (hcall : copyCall c io = .ok next) : next.received <+: source := by
  unfold copyCall at hcall
  split at hcall <;> cases hcall
  case h_2 hbuffer => simpa [hbuffer, deliverable] using hio
  all_goals exact hc

/-- What a copy has read from a stream is a part of it, and all of it if the copy
has ended well. -/
theorem copyBuf_readsFrom {source : List β} {ended : Bool} {script : List (Io β)}
    (hc : c.received <+: source) (hscript : readsFrom source ended c script = true) :
    (copyBuf c script).1.received <+: source ∧
      ((copyBuf c script).2 = some .eof →
        ended = true ∧ (copyBuf c script).1.received = source) := by
  induction script generalizing c with
  | nil => exact ⟨hc, nofun⟩
  | cons io script ih =>
      simp only [readsFrom, Bool.and_eq_true] at hscript
      obtain ⟨hio, hrest⟩ := hscript
      rw [copyBuf]
      cases hcall : copyCall c io with
      | ok next =>
          rw [hcall] at hrest
          exact ih (copyCall_readsFrom hc hio hcall) hrest
      | error result =>
          refine ⟨hc, fun heof => ?_⟩
          cases heof
          obtain ⟨hbuffer, rfl⟩ := copyCall_eof hcall
          simpa [hbuffer, deliverable] using hio

end Stream

/-! ## Delivery -/

/-- Halves that are ready: the writer takes all that is buffered, the reader
hands over the rest of its input and its end. -/
def readyScript (buffer rest : List β) : List (Io β) :=
  [.write buffer.length, .read rest, .write rest.length, .read []]

theorem copyBuf_flush (c : Copy β) (script : List (Io β)) :
    copyBuf c (.write c.buffer.length :: script) =
      copyBuf { c with buffer := [], written := c.written ++ c.buffer } script := by
  rcases c with ⟨received, buffer, written⟩
  cases buffer <;> simp [copyBuf, copyCall]

/-- With both halves ready the copy delivers all that is left and ends well. -/
theorem copyBuf_ready (c : Copy β) (rest : List β) :
    copyBuf c (readyScript c.buffer rest) =
      ({ received := c.received ++ rest, buffer := [],
         written := c.written ++ c.buffer ++ rest }, some .eof) := by
  rw [readyScript, copyBuf_flush]
  cases rest with
  | nil => simp [copyBuf, copyCall]
  | cons b rest => simp [copyBuf, copyCall]

/-- The reader of a copy with both halves ready can be a stream that has ended. -/
theorem readsFrom_ready [DecidableEq β] (c : Copy β) (rest : List β) :
    readsFrom (c.received ++ rest) true c (readyScript c.buffer rest) = true := by
  rcases c with ⟨received, buffer, written⟩
  cases buffer <;> cases rest <;> simp [readyScript, readsFrom, copyCall, deliverable]

end BufferedCopy
