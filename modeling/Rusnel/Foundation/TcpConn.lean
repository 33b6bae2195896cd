import Rusnel.Foundation.Text
import Mathlib.Data.List.Infix

/-!
# Exact reads from a connection

A task that reads a connection piece by piece, each piece into a buffer it has
allocated, and writes to it in between.  The peer sends some bytes and then
closes its side; a read that wants more than is left fails.  Indexing outside a
buffer aborts the task.

{lit}`Takes` is the contract of a reader: which bytes it takes off the
connection, which it writes, what it returns, and that it fails if the bytes
break off.  Contracts compose along the reader.

Main results:

- Theorem {lit}`Takes.bind`: the contracts of two readers in sequence.
-/

namespace Tcp

open Text

/-- A connection: what the peer sends and is not yet read, and what was written
to it. -/
structure TcpConn where
  input : List UInt8
  written : List UInt8
deriving DecidableEq, Repr

/-- A task on a connection: its outcome, and the connection it leaves. -/
structure ConnTask (α : Type) where
  run : TcpConn → Except Failure α × TcpConn

instance : Monad ConnTask where
  pure a := ⟨fun c => (.ok a, c)⟩
  bind x f := ⟨fun c =>
    match x.run c with
    | (.ok a, c) => (f a).run c
    | (.error e, c) => (.error e, c)⟩

/-- Give up with a message. -/
def fail {α : Type} (message : String) : ConnTask α :=
  ⟨fun c => (.error (.err message), c)⟩

/-- Write all of the bytes. -/
def writeAll (bytes : List UInt8) : ConnTask Unit :=
  ⟨fun c => (.ok (), { c with written := c.written ++ bytes })⟩

/-- Fill the first `n` bytes of a buffer. -/
def readExact (buf : List UInt8) (n : Nat) : ConnTask (List UInt8) :=
  ⟨fun c =>
    if buf.length < n then (.error .abort, c)
    else if c.input.length < n then (.error (.err "early eof"), { c with input := [] })
    else (.ok (c.input.take n ++ buf.drop n), { c with input := c.input.drop n })⟩

/-- The byte at an index of a buffer. -/
def index (buf : List UInt8) (i : Nat) : Except Failure UInt8 :=
  match buf[i]? with
  | some b => .ok b
  | none => .error .abort

/-- The bytes of a buffer between two indices. -/
def range (buf : List UInt8) (start stop : Nat) : Except Failure (List UInt8) :=
  if start ≤ stop ∧ stop ≤ buf.length then .ok ((buf.drop start).take (stop - start))
  else .error .abort

/-- A computation without the connection. -/
def lift {α : Type} (x : Except Failure α) : ConnTask α :=
  ⟨fun c => (x, c)⟩

variable {buf : List UInt8}

theorem index_of_lt {i : Nat} (hi : i < buf.length) : index buf i = .ok (buf.getD i 0) := by
  simp [index, List.getElem?_eq_getElem hi]

theorem range_of_le {start stop : Nat} (hstart : start ≤ stop) (hstop : stop ≤ buf.length) :
    range buf start stop = .ok ((buf.drop start).take (stop - start)) :=
  if_pos ⟨hstart, hstop⟩

/-- A slice to the end of the bytes. -/
theorem range_to_end {start : Nat} (hstart : start ≤ buf.length) :
    range buf start buf.length = .ok (buf.drop start) := by
  rw [range_of_le hstart (Nat.le_refl _), List.take_of_length_le]
  rw [List.length_drop]

section Steps

variable {α β : Type}

theorem bind_ok {x : ConnTask β} {c c' : TcpConn} {b : β} (h : x.run c = (.ok b, c'))
    (f : β → ConnTask α) : (x >>= f).run c = (f b).run c' := by
  simp only [bind, h]

theorem bind_error {x : ConnTask β} {c c' : TcpConn} {e : Failure} (h : x.run c = (.error e, c'))
    (f : β → ConnTask α) : (x >>= f).run c = (.error e, c') := by
  simp only [bind, h]

theorem bind_writeAll (bytes : List UInt8) (f : Unit → ConnTask α) (c : TcpConn) :
    (writeAll bytes >>= f).run c = (f ()).run { c with written := c.written ++ bytes } :=
  rfl

theorem bind_index {i : Nat} (hi : i < buf.length) (f : UInt8 → ConnTask α) (c : TcpConn) :
    (lift (index buf i) >>= f).run c = (f (buf.getD i 0)).run c :=
  bind_ok (by rw [lift, index_of_lt hi]) f

/-- Two tasks that end alike go on alike. -/
theorem bind_congr_run {x y : ConnTask β} {c c' : TcpConn} (h : x.run c = y.run c')
    (f : β → ConnTask α) : (x >>= f).run c = (y >>= f).run c' := by
  simp only [bind, h]

end Steps

/-! ## Tasks that write nothing -/

section Silent

variable {α β : Type}

def Silent (x : ConnTask α) : Prop :=
  ∀ c, (x.run c).2.written = c.written

theorem Silent.pure (a : α) : Silent (Pure.pure a : ConnTask α) :=
  fun _ => rfl

theorem Silent.fail (message : String) : Silent (Tcp.fail message : ConnTask α) :=
  fun _ => rfl

theorem Silent.readExact (buf : List UInt8) (n : Nat) : Silent (Tcp.readExact buf n) := by
  intro c
  simp only [Tcp.readExact]
  split_ifs <;> rfl

theorem Silent.bind {x : ConnTask β} {f : β → ConnTask α} (hx : Silent x)
    (hf : ∀ b, Silent (f b)) : Silent (x >>= f) := by
  intro c
  have hwritten := hx c
  rcases hrun : x.run c with ⟨_ | b, c'⟩
  · rw [hrun] at hwritten
    rw [bind_error hrun, hwritten]
  · rw [hrun] at hwritten
    rw [bind_ok hrun, hf b, hwritten]

end Silent

/-! ## Contracts -/

/-- The task takes `bytes` off the connection, writes `out` and returns `a`; if
the bytes break off, it fails. -/
structure Takes {α : Type} (x : ConnTask α) (bytes out : List UInt8) (a : α) : Prop where
  reads : ∀ rest written, x.run ⟨bytes ++ rest, written⟩ = (.ok a, ⟨rest, written ++ out⟩)
  cut : ∀ part written, part <+: bytes → part ≠ bytes →
    ∃ c, x.run ⟨part, written⟩ = (.error (.err "early eof"), c)

namespace Takes

variable {α β : Type}

theorem pure (a : α) : Takes (Pure.pure a) [] [] a where
  reads rest written := by simp [Pure.pure]
  cut _ _ hpart hne := absurd (List.prefix_nil.mp hpart) hne

variable {bytes out : List UInt8}

/-- Filling the front of a buffer that is long enough. -/
theorem readExact {n : Nat} (hn : bytes.length = n) (hbuf : n ≤ buf.length) :
    Takes (readExact buf n) bytes [] (bytes ++ buf.drop n) where
  reads rest written := by
    subst hn
    simp [Tcp.readExact, Nat.not_lt.mpr hbuf]
  cut part written hpart hne := by
    have hlen : part.length < n := by
      have hle := hpart.length_le
      have hneLen : part.length ≠ bytes.length := fun h => hne (hpart.eq_of_length h)
      omega
    exact ⟨⟨[], written⟩, by simp [Tcp.readExact, Nat.not_lt.mpr hbuf, hlen]⟩

/-- Filling a new buffer. -/
theorem readExact_fresh {n : Nat} (hn : bytes.length = n) :
    Takes (Tcp.readExact (List.replicate n 0) n) bytes [] bytes := by
  have hread : Takes (Tcp.readExact (List.replicate n 0) n) bytes []
      (bytes ++ (List.replicate n 0).drop n) :=
    .readExact hn (by rw [List.length_replicate])
  simpa using hread

variable {x : ConnTask α}

/-- What follows a reader starts behind the bytes it takes. -/
theorem run_bind {a : α} (hx : Takes x bytes out a) (f : α → ConnTask β)
    (rest written : List UInt8) :
    (x >>= f).run ⟨bytes ++ rest, written⟩ = (f a).run ⟨rest, written ++ out⟩ :=
  bind_ok (hx.reads rest written) f

/-- A reader that is cut ends the sequence. -/
theorem run_bind_cut {bytes out part : List UInt8} {a : α} (hx : Takes x bytes out a)
    (f : α → ConnTask β) (hpart : part <+: bytes) (hne : part ≠ bytes) (written : List UInt8) :
    ∃ c, (x >>= f).run ⟨part, written⟩ = (.error (.err "early eof"), c) := by
  obtain ⟨c, hc⟩ := hx.cut part written hpart hne
  exact ⟨c, bind_error hc f⟩

/-- The contracts of two readers in sequence. -/
theorem bind {f : α → ConnTask β} {bytes bytes' out out' : List UInt8} {a : α} {b : β}
    (hx : Takes x bytes out a) (hf : Takes (f a) bytes' out' b) :
    Takes (x >>= f) (bytes ++ bytes') (out ++ out') b where
  reads rest written := by
    rw [List.append_assoc, hx.run_bind, hf.reads, List.append_assoc]
  cut part written hpart hne := by
    rcases List.prefix_or_prefix_of_prefix hpart (List.prefix_append bytes bytes') with hin | hout
    · by_cases heq : part = bytes
      · -- the cut falls between the two
        subst heq
        have hnil : [] ≠ bytes' := by
          rintro rfl
          exact hne (List.append_nil _).symm
        obtain ⟨c, hc⟩ := hf.cut [] (written ++ out) List.nil_prefix hnil
        have hfirst := hx.run_bind f [] written
        rw [List.append_nil] at hfirst
        exact ⟨c, hfirst.trans hc⟩
      · exact hx.run_bind_cut f hin heq written
    · obtain ⟨part', rfl⟩ := hout
      have hpart' : part' <+: bytes' := (List.prefix_append_right_inj bytes).mp hpart
      obtain ⟨c, hc⟩ := hf.cut part' (written ++ out) hpart' fun h => hne (by rw [h])
      exact ⟨c, (hx.run_bind f part' written).trans hc⟩

/-- A reader whose result is put into another form. -/
theorem map {a : α} (hx : Takes x bytes out a) (g : α → β) :
    Takes (x >>= fun a => Pure.pure (g a)) bytes out (g a) := by
  have h := hx.bind (f := fun a => Pure.pure (g a)) (.pure (g a))
  rwa [List.append_nil, List.append_nil] at h

theorem of_value {a b : α} (hx : Takes x bytes out a) (hvalue : a = b) : Takes x bytes out b :=
  hvalue ▸ hx

end Takes

end Tcp
