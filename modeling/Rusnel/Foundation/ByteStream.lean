import Mathlib.Data.List.Infix
import Mathlib.Tactic.Ring

/-!
# Delimited items on a byte stream

A byte stream that carries items one after another is read by a decoder that
takes one item off the front.  The stream may be cut anywhere, so besides
reading back what was written a decoder has to fail on every proper part of an
item.  Both together are {lit}`Delimits`; from it follow the laws of a reader
that loops until the first error.

Main results:

- Theorem {lit}`fromLeBytes_toLeBytes`: fixed-width little-endian numbers
  round-trip.
- Theorem {lit}`readPrefixed_delimits`: a length-prefixed body is delimited.
- Theorem {lit}`drain_flatMap`: the looping reader obtains exactly the written
  items, then an error.
- Theorem {lit}`drain_cut`: on a cut stream it obtains the first items, then
  an error.
-/

namespace ByteStream

/-! ## Little-endian numbers -/

/-- The `width` little-endian bytes of a number, high bits dropped. -/
def toLeBytes : Nat → Nat → List UInt8
  | 0, _ => []
  | width + 1, n => UInt8.ofNat n :: toLeBytes width (n / 256)

/-- The number a list of little-endian bytes denotes. -/
def fromLeBytes : List UInt8 → Nat
  | [] => 0
  | b :: bs => b.toNat + 256 * fromLeBytes bs

@[simp]
theorem toLeBytes_length (width n : Nat) : (toLeBytes width n).length = width := by
  induction width generalizing n with
  | zero => rfl
  | succ width ih => simp [toLeBytes, ih]

/-- A number that fits is read back from its bytes. -/
theorem fromLeBytes_toLeBytes {width n : Nat} (h : n < 256 ^ width) :
    fromLeBytes (toLeBytes width n) = n := by
  induction width generalizing n with
  | zero =>
      have hn : n = 0 := by simpa using h
      simp [toLeBytes, fromLeBytes, hn]
  | succ width ih =>
      have hdiv : n / 256 < 256 ^ width := by
        rw [Nat.div_lt_iff_lt_mul (by decide)]
        rwa [Nat.pow_succ] at h
      have hsplit := Nat.mod_add_div n 256
      simp only [toLeBytes, fromLeBytes, ih hdiv, UInt8.toNat_ofNat']
      omega

/-! ## Reading one item -/

/-- Take exactly `n` bytes, or report how many there were before the end. -/
def readExact (n : Nat) (input : List UInt8) : Except Nat (List UInt8 × List UInt8) :=
  if n ≤ input.length then .ok (input.take n, input.drop n) else .error input.length

theorem readExact_append {n : Nat} {bytes rest : List UInt8} (h : bytes.length = n) :
    readExact n (bytes ++ rest) = .ok (bytes, rest) := by
  subst n
  simp [readExact]

theorem readExact_short {n : Nat} {input : List UInt8} (h : input.length < n) :
    readExact n input = .error input.length := by
  simp [readExact, Nat.not_le.mpr h]

/-- A read that has what it wants leaves what comes later. -/
theorem readExact_more {n : Nat} {input bytes rest : List UInt8}
    (h : readExact n input = .ok (bytes, rest)) (more : List UInt8) :
    readExact n (input ++ more) = .ok (bytes, rest ++ more) := by
  unfold readExact at h
  split_ifs at h with hlen
  cases h
  have hlonger : n ≤ (input ++ more).length := by
    rw [List.length_append]
    omega
  rw [readExact, if_pos hlonger, List.take_append_of_le_length hlen,
    List.drop_append_of_le_length hlen]

variable {ε α : Type*}

/-- `d` takes the item `a` written as `bytes` off any stream that starts with
it, and fails on every proper part of `bytes`. -/
structure Delimits (d : List UInt8 → Except ε (α × List UInt8))
    (bytes : List UInt8) (a : α) : Prop where
  reads : ∀ rest, d (bytes ++ rest) = .ok (a, rest)
  cut : ∀ part, part <+: bytes → part ≠ bytes → ∃ e, d part = .error e

/-- What goes wrong when a length-prefixed body cannot be read. -/
inductive PrefixedError where
  | lengthCut (got : Nat)
  | overCap (length : Nat)
  | bodyCut (got : Nat)
deriving DecidableEq, Repr

/-- Read a body preceded by its length in `width` little-endian bytes; lengths
above `cap` are refused before the body is read. -/
def readPrefixed (width cap : Nat) (input : List UInt8) :
    Except PrefixedError (List UInt8 × List UInt8) :=
  match readExact width input with
  | .error got => .error (.lengthCut got)
  | .ok (lenBuf, rest) =>
      let len := fromLeBytes lenBuf
      if cap < len then .error (.overCap len)
      else
        match readExact len rest with
        | .error got => .error (.bodyCut got)
        | .ok (body, rest) => .ok (body, rest)

variable {width cap : Nat}

theorem readPrefixed_more {input body rest : List UInt8}
    (h : readPrefixed width cap input = .ok (body, rest)) (more : List UInt8) :
    readPrefixed width cap (input ++ more) = .ok (body, rest ++ more) := by
  unfold readPrefixed at h
  split at h
  · cases h
  · rename_i lenBuf behind hlen
    dsimp only at h
    split_ifs at h with hcap
    split at h
    · cases h
    · rename_i hbody
      cases h
      simp only [readPrefixed, readExact_more hlen, if_neg hcap, readExact_more hbody]

/-- More bytes may complete the item. -/
def PrefixedError.isCut : PrefixedError → Bool
  | .lengthCut _ | .bodyCut _ => true
  | .overCap _ => false

/-- A proper part of a body within the cap, written behind its length, is cut. -/
theorem readPrefixed_cut {body part : List UInt8} (hwidth : body.length < 256 ^ width)
    (hcap : body.length ≤ cap) (hpart : part <+: toLeBytes width body.length ++ body)
    (hne : part ≠ toLeBytes width body.length ++ body) :
    ∃ e, readPrefixed width cap part = .error e ∧ e.isCut = true := by
  have hlt : part.length < width + body.length := by
    have hle := hpart.length_le
    have hneLen : part.length ≠ (toLeBytes width body.length ++ body).length :=
      fun h => hne (hpart.eq_of_length h)
    simp only [List.length_append, toLeBytes_length] at hle hneLen
    omega
  by_cases hshort : part.length < width
  · exact ⟨.lengthCut part.length, by simp [readPrefixed, readExact_short hshort], rfl⟩
  · -- The cut lies in the body: the length was read in full.
    obtain ⟨shown, rfl⟩ : toLeBytes width body.length <+: part :=
      List.prefix_of_prefix_length_le (List.prefix_append _ _) hpart
        (by rw [toLeBytes_length]; omega)
    have hshown : shown.length < body.length := by
      simp only [List.length_append, toLeBytes_length] at hlt
      omega
    refine ⟨.bodyCut shown.length, ?_, rfl⟩
    simp only [readPrefixed]
    rw [readExact_append (toLeBytes_length _ _)]
    simp only [fromLeBytes_toLeBytes hwidth, if_neg (Nat.not_lt.mpr hcap),
      readExact_short hshown]

/-- A body within the cap, written behind its length, is delimited. -/
theorem readPrefixed_delimits {body : List UInt8} (hwidth : body.length < 256 ^ width)
    (hcap : body.length ≤ cap) :
    Delimits (readPrefixed width cap) (toLeBytes width body.length ++ body) body where
  reads rest := by
    simp only [readPrefixed, List.append_assoc]
    rw [readExact_append (toLeBytes_length _ _)]
    simp only [fromLeBytes_toLeBytes hwidth, if_neg (Nat.not_lt.mpr hcap)]
    rw [readExact_append rfl]
  cut part hpart hne := by
    obtain ⟨e, he, _⟩ := readPrefixed_cut hwidth hcap hpart hne
    exact ⟨e, he⟩

/-- A body above the cap is refused by its length, whatever follows. -/
theorem readPrefixed_overCap {body : List UInt8} (hwidth : body.length < 256 ^ width)
    (hcap : cap < body.length) (rest : List UInt8) :
    readPrefixed width cap (toLeBytes width body.length ++ body ++ rest)
      = .error (.overCap body.length) := by
  simp only [readPrefixed, List.append_assoc]
  rw [readExact_append (toLeBytes_length _ _)]
  simp only [fromLeBytes_toLeBytes hwidth, if_pos hcap]

/-! ## Reading until the first error -/

/-- Take items off the stream until the decoder fails; the error is absent only
if the fuel ran out. -/
def drain (d : List UInt8 → Except ε (α × List UInt8)) :
    Nat → List UInt8 → List α × Option ε
  | 0, _ => ([], none)
  | fuel + 1, input =>
      match d input with
      | .error e => ([], some e)
      | .ok (a, rest) =>
          let (items, e) := drain d fuel rest
          (a :: items, e)

variable {fuel : Nat}

theorem drain_error {d : List UInt8 → Except ε (α × List UInt8)} {input : List UInt8} {e : ε}
    (hfuel : 0 < fuel) (h : d input = .error e) : drain d fuel input = ([], some e) := by
  obtain ⟨fuel, rfl⟩ := Nat.exists_eq_add_of_lt hfuel
  simp [drain, h]

theorem drain_ok {d : List UInt8 → Except ε (α × List UInt8)} {input rest : List UInt8} {a : α}
    (h : d input = .ok (a, rest)) :
    drain d (fuel + 1) input = (a :: (drain d fuel rest).1, (drain d fuel rest).2) := by
  simp [drain, h]

section Items

variable {d : List UInt8 → Except ε (α × List UInt8)} {write : α → List UInt8} {items : List α}

/-- Every item written is nonempty, so `length + 1` rounds are enough to read
any part of the stream; it yields the first items and then an error. -/
theorem drain_cut (hitems : ∀ a ∈ items, Delimits d (write a) a ∧ write a ≠ []) {e₀ : ε}
    (hnil : d [] = .error e₀) {part : List UInt8} (hpart : part <+: items.flatMap write)
    (hfuel : part.length < fuel) : ∃ got e, drain d fuel part = (got, some e) ∧ got <+: items := by
  induction items generalizing part fuel with
  | nil =>
      have hpart : part = [] := by simpa using hpart
      subst part
      exact ⟨[], e₀, drain_error (by omega) hnil, List.prefix_refl _⟩
  | cons a items ih =>
      obtain ⟨hdelim, hne⟩ := hitems a List.mem_cons_self
      rw [List.flatMap_cons] at hpart
      rcases List.prefix_or_prefix_of_prefix hpart (List.prefix_append _ _) with hin | hout
      · by_cases heq : part = write a
        · subst part
          obtain ⟨fuel, rfl⟩ := Nat.exists_eq_add_of_lt hfuel
          have hread : d (write a) = .ok (a, []) := by simpa using hdelim.reads []
          have hpos : 0 < (write a).length + fuel := by
            have := List.length_pos_iff.mpr hne
            omega
          refine ⟨[a], e₀, ?_, List.prefix_append [a] items⟩
          rw [drain_ok hread, drain_error hpos hnil]
        · obtain ⟨e, he⟩ := hdelim.cut part hin heq
          exact ⟨[], e, drain_error (by omega) he, List.nil_prefix⟩
      · obtain ⟨rest, rfl⟩ := hout
        have hrest : rest <+: items.flatMap write :=
          (List.prefix_append_right_inj (write a)).mp hpart
        obtain ⟨fuel, rfl⟩ : ∃ n, fuel = n + 1 := ⟨fuel - 1, by omega⟩
        have hpos := List.length_pos_iff.mpr hne
        have hfuel' : rest.length < fuel := by
          rw [List.length_append] at hfuel
          omega
        obtain ⟨got, e, hgot, hprefix⟩ :=
          ih (fun b hb => hitems b (List.mem_cons_of_mem a hb)) hrest hfuel'
        refine ⟨a :: got, e, ?_, (List.prefix_cons_inj a).mpr hprefix⟩
        rw [drain_ok (hdelim.reads rest), hgot]

/-- The looping reader obtains exactly the items that were written, whatever
undecodable rest follows them. -/
theorem drain_flatMap_append (hitems : ∀ a ∈ items, Delimits d (write a) a ∧ write a ≠ [])
    {rest : List UInt8} {e : ε} (hrest : d rest = .error e)
    (hfuel : (items.flatMap write).length < fuel) :
    drain d fuel (items.flatMap write ++ rest) = (items, some e) := by
  induction items generalizing fuel with
  | nil => exact drain_error (by omega) hrest
  | cons a items ih =>
      obtain ⟨hdelim, hne⟩ := hitems a List.mem_cons_self
      have hpos := List.length_pos_iff.mpr hne
      obtain ⟨fuel, rfl⟩ : ∃ n, fuel = n + 1 := ⟨fuel - 1, by omega⟩
      rw [List.flatMap_cons, List.length_append] at hfuel
      have hfuel' : (items.flatMap write).length < fuel := by omega
      have hitems' := ih (fun b hb => hitems b (List.mem_cons_of_mem a hb)) hfuel'
      rw [List.flatMap_cons, List.append_assoc, drain_ok (hdelim.reads _), hitems']

/-- Whatever follows the items, the looping reader obtains them first. -/
theorem drain_starts (hitems : ∀ a ∈ items, Delimits d (write a) a ∧ write a ≠ [])
    (rest : List UInt8) (hfuel : (items.flatMap write).length < fuel) :
    items <+: (drain d fuel (items.flatMap write ++ rest)).1 := by
  induction items generalizing fuel with
  | nil => exact List.nil_prefix
  | cons a items ih =>
      obtain ⟨hdelim, hne⟩ := hitems a List.mem_cons_self
      have hpos := List.length_pos_iff.mpr hne
      obtain ⟨fuel, rfl⟩ : ∃ n, fuel = n + 1 := ⟨fuel - 1, by omega⟩
      rw [List.flatMap_cons, List.length_append] at hfuel
      have hitems' := ih (fun b hb => hitems b (List.mem_cons_of_mem a hb))
        (show (items.flatMap write).length < fuel by omega)
      rw [List.flatMap_cons, List.append_assoc, drain_ok (hdelim.reads _)]
      exact (List.prefix_cons_inj a).mpr hitems'

/-- The looping reader obtains exactly the items that were written. -/
theorem drain_flatMap (hitems : ∀ a ∈ items, Delimits d (write a) a ∧ write a ≠ []) {e₀ : ε}
    (hnil : d [] = .error e₀) (hfuel : (items.flatMap write).length < fuel) :
    drain d fuel (items.flatMap write) = (items, some e₀) := by
  have h := drain_flatMap_append hitems hnil hfuel
  rwa [List.append_nil] at h

end Items

end ByteStream
