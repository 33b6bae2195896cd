import Rusnel.Foundation.ByteStream

/-!
# The receiving end of a stream of items

One side appends items to a stream, the last of them maybe cut; the bytes arrive
at the other side in order, in pieces of any size, while more is written.  A
reader takes one item at a time off the bytes that have arrived.

Main results:

- Theorem {lit}`Inbox.Follows.take`: what a reader takes is the next item that
  was written, however the bytes arrived.
- Theorem {lit}`Inbox.Follows.drained`: once all bytes have arrived and no item
  can be taken, all items were.
-/

namespace ByteStream

variable {α ε : Type}

/-- A stream that holds these items, and behind them at most a part of another. -/
def Framed (d : List UInt8 → Except ε (α × List UInt8)) (write : α → List UInt8)
    (written : List α) (wire : List UInt8) : Prop :=
  (∀ a ∈ written, Delimits d (write a) a) ∧
    ∃ rest, wire = written.flatMap write ++ rest ∧ ∀ part, part <+: rest → ∃ e, d part = .error e

/-- The first item of a stream of which a part is there: either it is read off
that part, or nothing is. -/
theorem Framed.read {d : List UInt8 → Except ε (α × List UInt8)} {write : α → List UInt8}
    {written : List α} {wire part left : List UInt8} {a : α} (h : Framed d write written wire)
    (hpart : part <+: wire) (hread : d part = .ok (a, left)) :
    ∃ more, written = a :: more ∧ part = write a ++ left := by
  obtain ⟨hitems, rest, rfl, hrest⟩ := h
  cases written with
  | nil =>
      obtain ⟨e, he⟩ := hrest part hpart
      rw [he] at hread
      cases hread
  | cons b more =>
      have hb := hitems b List.mem_cons_self
      rw [List.flatMap_cons, List.append_assoc] at hpart
      rcases List.prefix_or_prefix_of_prefix hpart (List.prefix_append _ _) with hin | ⟨q, rfl⟩
      · by_cases heq : part = write b
        · have hwhole := hb.reads []
          rw [List.append_nil, ← heq, hread] at hwhole
          cases hwhole
          exact ⟨more, rfl, by rw [List.append_nil]; exact heq⟩
        · obtain ⟨e, he⟩ := hb.cut part hin heq
          rw [he] at hread
          cases hread
      · rw [hb.reads q] at hread
        cases hread
        exact ⟨more, rfl, rfl⟩

/-- The rest of a stream behind some of its items. -/
theorem Framed.drop {d : List UInt8 → Except ε (α × List UInt8)} {write : α → List UInt8}
    {items more : List α} {wire : List UInt8} (h : Framed d write (items ++ more) wire) :
    Framed d write more (wire.drop (items.flatMap write).length) := by
  obtain ⟨hitems, rest, rfl, hrest⟩ := h
  refine ⟨fun a ha => hitems a (List.mem_append_right items ha), rest, ?_, hrest⟩
  rw [List.flatMap_append, List.append_assoc, List.drop_left]

/-- The receiving end: how many bytes have arrived, how many of them were taken,
and the items taken. -/
structure Inbox (α : Type) where
  arrived : Nat
  taken : Nat
  items : List α
deriving DecidableEq, Repr

namespace Inbox

def empty (α : Type) : Inbox α where
  arrived := 0
  taken := 0
  items := []

/-- Up to `n` more bytes of the stream arrive. -/
def arrive (box : Inbox α) (wire : List UInt8) (n : Nat) : Inbox α :=
  { box with arrived := min wire.length (box.arrived + n) }

/-- The bytes that have arrived and were not taken. -/
def unread (box : Inbox α) (wire : List UInt8) : List UInt8 :=
  (wire.take box.arrived).drop box.taken

/-- Take the next item; the reader waits if it is not there as a whole. -/
def take (d : List UInt8 → Except ε (α × List UInt8)) (wire : List UInt8) (box : Inbox α) :
    Option (α × Inbox α) :=
  match d (box.unread wire) with
  | .error _ => none
  | .ok (a, left) =>
      some (a, { box with taken := box.arrived - left.length, items := box.items ++ [a] })

theorem take_eq_some {d : List UInt8 → Except ε (α × List UInt8)} {wire : List UInt8}
    {box box' : Inbox α} {a : α} (h : box.take d wire = some (a, box')) :
    ∃ left, d (box.unread wire) = .ok (a, left) ∧
      box' = { box with taken := box.arrived - left.length, items := box.items ++ [a] } := by
  unfold take at h
  split at h
  · cases h
  · rename_i a' left hread
    cases h
    exact ⟨left, hread, rfl⟩

/-- The items taken are the first that were written, and the bytes taken are
theirs. -/
structure Follows (write : α → List UInt8) (written : List α) (wire : List UInt8)
    (box : Inbox α) : Prop where
  taken_le : box.taken ≤ box.arrived
  arrived_le : box.arrived ≤ wire.length
  items : box.items <+: written
  bytes : wire.take box.taken = box.items.flatMap write

namespace Follows

variable {write : α → List UInt8} {written : List α} {wire : List UInt8} {box : Inbox α}

theorem empty (write : α → List UInt8) (written : List α) (wire : List UInt8) :
    Follows write written wire (Inbox.empty α) where
  taken_le := Nat.le_refl 0
  arrived_le := Nat.zero_le _
  items := List.nil_prefix
  bytes := rfl

/-- The writer goes on. -/
theorem mono (h : box.Follows write written wire) {written' : List α} {wire' : List UInt8}
    (hwritten : written <+: written') (hwire : wire <+: wire') :
    box.Follows write written' wire' where
  taken_le := h.taken_le
  arrived_le := h.arrived_le.trans hwire.length_le
  items := h.items.trans hwritten
  bytes := by
    obtain ⟨more, rfl⟩ := hwire
    rw [List.take_append_of_le_length (h.taken_le.trans h.arrived_le), h.bytes]

theorem arrive (h : box.Follows write written wire) (n : Nat) :
    (box.arrive wire n).Follows write written wire where
  taken_le := by
    have hle := h.taken_le
    have hlen := h.arrived_le
    simp only [Inbox.arrive]
    omega
  arrived_le := Nat.min_le_left _ _
  items := h.items
  bytes := h.bytes

/-- The bytes taken, counted. -/
theorem taken_eq (h : box.Follows write written wire) :
    (box.items.flatMap write).length = box.taken := by
  have hlen := h.taken_le.trans h.arrived_le
  rw [← h.bytes, List.length_take, Nat.min_eq_left hlen]

/-- What a reader takes is the next item. -/
theorem take {d : List UInt8 → Except ε (α × List UInt8)} (h : box.Follows write written wire)
    (hframed : Framed d write written wire) {a : α} {box' : Inbox α}
    (htake : box.take d wire = some (a, box')) : box'.Follows write written wire := by
  obtain ⟨left, hread, rfl⟩ := take_eq_some htake
  obtain ⟨more, rfl⟩ := h.items
  have hrest := hframed.drop
  rw [h.taken_eq] at hrest
  have hpart : box.unread wire <+: wire.drop box.taken :=
    (List.take_prefix box.arrived wire).drop _
  obtain ⟨more, rfl, hunread⟩ := hrest.read hpart hread
  have hlen : (box.unread wire).length = box.arrived - box.taken := by
    rw [unread, List.length_drop, List.length_take, Nat.min_eq_left h.arrived_le]
  have hsum := congrArg List.length hunread
  rw [hlen, List.length_append] at hsum
  have hle := h.taken_le
  have htaken : box.arrived - left.length = box.taken + (write a).length := by omega
  refine ⟨Nat.sub_le _ _, h.arrived_le, ?_, ?_⟩
  · exact ⟨more, by simp⟩
  · rw [hunread] at hpart
    obtain ⟨tail, htail⟩ := hpart
    dsimp only
    rw [htaken, List.take_add, h.bytes, ← htail, List.append_assoc, List.take_left,
      List.flatMap_append, List.flatMap_singleton]

/-- Once everything has arrived and no item can be taken, all items were. -/
theorem drained {d : List UInt8 → Except ε (α × List UInt8)}
    (h : box.Follows write written wire) (hframed : Framed d write written wire)
    (harrived : box.arrived = wire.length) (hnone : box.take d wire = none) :
    box.items = written := by
  obtain ⟨more, rfl⟩ := h.items
  obtain ⟨hitems, rest, hwire, -⟩ := hframed.drop
  cases more with
  | nil => rw [List.append_nil]
  | cons a more =>
      have hunread : box.unread wire = write a ++ (more.flatMap write ++ rest) := by
        rw [unread, harrived, List.take_length, ← h.taken_eq, hwire, List.flatMap_cons,
          List.append_assoc]
      have hread := (hitems a List.mem_cons_self).reads (more.flatMap write ++ rest)
      rw [Inbox.take, hunread, hread] at hnone
      cases hnone

end Follows

end Inbox

end ByteStream
