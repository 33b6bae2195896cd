import Rusnel.Foundation.Text
import Mathlib.Data.List.TakeDrop
import Mathlib.Tactic.SplitIfs

/-!
# UTF-8 text and its bytes

Facts that let a program on the bytes of a text be read as one on its
characters.  Offsets between characters are good places to slice; a byte below
`0x80` is a character of its own, so looking for an ASCII separator among the
bytes finds the separator; and a lossy decoding gives an encoded text back, and
one replacement character for a character that is cut.

Main results:

- Theorem {lit}`slice_append`: the slice between two character boundaries.
- Theorem {lit}`findIdx?_asBytes`: the offset of the first ASCII separator.
- Theorem {lit}`fromUtf8Lossy_utf8EncodeChar`: decoding an encoded character.
- Theorem {lit}`fromUtf8Lossy_cut`: decoding a character that is cut.
- Theorem {lit}`fromUtf8Lossy_take`: the texts that survive being cut.
-/

namespace Text

@[simp]
theorem asBytes_nil : asBytes [] = [] := rfl

@[simp]
theorem asBytes_cons (c : Char) (s : List Char) :
    asBytes (c :: s) = String.utf8EncodeChar c ++ asBytes s := rfl

@[simp]
theorem asBytes_append (s t : List Char) : asBytes (s ++ t) = asBytes s ++ asBytes t :=
  List.flatMap_append

/-! ## Slicing between characters -/

theorem dropBytes_cons (c : Char) (s : List Char) (n : Nat) :
    dropBytes (c.utf8Size + n) (c :: s) = dropBytes n s := by
  obtain ⟨k, hk⟩ : ∃ k, c.utf8Size = k + 1 := ⟨_, (Nat.sub_add_cancel c.utf8Size_pos).symm⟩
  have hsucc : c.utf8Size + n = k + n + 1 := by omega
  rw [hsucc, dropBytes, if_pos (by omega), ← hsucc, Nat.add_sub_cancel_left]

theorem takeBytes_cons (c : Char) (s : List Char) (n : Nat) :
    takeBytes (c.utf8Size + n) (c :: s) = (takeBytes n s).map (c :: ·) := by
  obtain ⟨k, hk⟩ : ∃ k, c.utf8Size = k + 1 := ⟨_, (Nat.sub_add_cancel c.utf8Size_pos).symm⟩
  have hsucc : c.utf8Size + n = k + n + 1 := by omega
  rw [hsucc, takeBytes, if_pos (by omega), ← hsucc, Nat.add_sub_cancel_left]

theorem length_asBytes_cons (c : Char) (s : List Char) :
    (asBytes (c :: s)).length = c.utf8Size + (asBytes s).length := by
  rw [asBytes_cons, List.length_append, String.length_utf8EncodeChar]

theorem dropBytes_append (s t : List Char) : dropBytes (asBytes s).length (s ++ t) = some t := by
  induction s with
  | nil => simp [dropBytes]
  | cons c s ih => rw [length_asBytes_cons, List.cons_append, dropBytes_cons, ih]

theorem takeBytes_append (s t : List Char) : takeBytes (asBytes s).length (s ++ t) = some s := by
  induction s with
  | nil => simp [takeBytes]
  | cons c s ih =>
      rw [length_asBytes_cons, List.cons_append, takeBytes_cons, ih, Option.map_some]

/-- The slice between two character boundaries. -/
theorem slice_append (s part t : List Char) :
    slice (s ++ (part ++ t)) (asBytes s).length ((asBytes s).length + (asBytes part).length)
      = .ok part := by
  rw [slice, if_pos (Nat.le_add_right _ _), dropBytes_append, Option.bind_some,
    Nat.add_sub_cancel_left, takeBytes_append]

/-! ## ASCII separators -/

/-- A byte below `0x80` encodes the character of that value. -/
theorem eq_of_mem_utf8EncodeChar {c : Char} {b : UInt8} (hb : b < 0x80)
    (hmem : b ∈ String.utf8EncodeChar c) : c.toNat = b.toNat := by
  rw [UInt8.lt_iff_toNat_lt] at hb
  change b.toNat < 128 at hb
  have hmod : ∀ n, (UInt8.ofNat n).toNat = n % 256 := fun n => UInt8.toNat_ofNat'
  unfold String.utf8EncodeChar at hmem
  simp only at hmem
  -- in a longer encoding every byte is at least 0x80
  split_ifs at hmem with h1 h2 h3 <;>
    simp only [List.mem_cons, List.not_mem_nil, or_false] at hmem
  · subst hmem
    rw [hmod]
    change c.val.toNat = _
    omega
  · rcases hmem with rfl | rfl <;> rw [hmod] at hb <;> omega
  · rcases hmem with rfl | rfl | rfl <;> rw [hmod] at hb <;> omega
  · rcases hmem with rfl | rfl | rfl | rfl <;> rw [hmod] at hb <;> omega

section Separator

variable {sep : Char} (hsep : sep.toNat < 128)

include hsep

/-- An ASCII character is its own byte. -/
theorem utf8EncodeChar_ascii : String.utf8EncodeChar sep = [sep.toUInt8] := by
  have hval : sep.val.toNat ≤ 127 := Nat.le_of_lt_succ hsep
  simp only [String.utf8EncodeChar, if_pos hval]
  rfl

theorem toNat_toUInt8 : sep.toUInt8.toNat = sep.toNat := by
  have hmod : sep.toUInt8.toNat = sep.toNat % 256 := UInt8.toNat_ofNat'
  omega

/-- Only the separator is encoded with its byte. -/
theorem eq_of_toUInt8_mem {c : Char} (hmem : sep.toUInt8 ∈ String.utf8EncodeChar c) :
    c = sep := by
  have hlow : sep.toUInt8 < 0x80 := by
    rw [UInt8.lt_iff_toNat_lt, toNat_toUInt8 hsep]
    exact hsep
  exact Char.toNat_inj.mp ((eq_of_mem_utf8EncodeChar hlow hmem).trans (toNat_toUInt8 hsep))

/-- A text starts with the separator if its bytes do. -/
theorem head?_asBytes (s : List Char) :
    (asBytes s).head? = some sep.toUInt8 ↔ s.head? = some sep := by
  cases s with
  | nil => simp
  | cons c s =>
      constructor
      · intro h
        have hne : String.utf8EncodeChar c ≠ [] := by
          intro hnil
          have hlen := String.length_utf8EncodeChar c
          have hpos := c.utf8Size_pos
          rw [hnil, List.length_nil] at hlen
          omega
        rw [asBytes_cons, List.head?_append_of_ne_nil _ hne] at h
        rw [List.head?_cons, eq_of_toUInt8_mem hsep (List.mem_of_mem_head? h)]
      · rintro ⟨⟩
        simp [utf8EncodeChar_ascii hsep]

/-- No separator among the characters, none among the bytes. -/
theorem findIdx?_asBytes_none {s : List Char} (hs : sep ∉ s) :
    (asBytes s).findIdx? (· == sep.toUInt8) = none := by
  rw [List.findIdx?_eq_none_iff]
  intro b hb
  rw [beq_eq_false_iff_ne]
  rintro rfl
  obtain ⟨c, hc, hin⟩ := List.mem_flatMap.mp hb
  exact hs (eq_of_toUInt8_mem hsep hin ▸ hc)

/-- The first separator among the bytes is the first one among the characters. -/
theorem findIdx?_asBytes {s t : List Char} (hs : sep ∉ s) :
    (asBytes (s ++ sep :: t)).findIdx? (· == sep.toUInt8) = some (asBytes s).length := by
  rw [asBytes_append, List.findIdx?_append, findIdx?_asBytes_none hsep hs, asBytes_cons,
    utf8EncodeChar_ascii hsep]
  simp [List.findIdx?_cons]

end Separator

/-! ## Lossy decoding -/

theorem toNat_ofNat_of_lt {n : Nat} (h : n < 256) : (UInt8.ofNat n).toNat = n := by
  rw [UInt8.toNat_ofNat']
  omega

theorem lossyStart_one {n : Nat} (h : n < 0x80) :
    lossyStart (.ofNat n) = ([Char.ofNat n], none) := by
  have hn := toNat_ofNat_of_lt (by omega : n < 256)
  rw [lossyStart, if_pos (by rw [UInt8.lt_iff_toNat_lt, hn]; exact h), hn]

theorem lossyStart_two {n : Nat} (hlow : 0xc2 ≤ n) (hhigh : n < 0xe0) :
    lossyStart (.ofNat n) = ([], some ⟨1, 0x80, 0xbf, n % 32⟩) := by
  have hn := toNat_ofNat_of_lt (by omega : n < 256)
  simp only [lossyStart, UInt8.lt_iff_toNat_lt, hn]
  rw [if_neg (by change ¬n < 128; omega), if_neg (by change ¬n < 194; omega),
    if_pos (by change n < 224; omega)]

theorem lossyStart_three {n : Nat} (hlow : 0xe0 ≤ n) (hhigh : n < 0xf0) :
    lossyStart (.ofNat n) = ([], some ⟨2, if n = 0xe0 then 0xa0 else 0x80,
      if n = 0xed then 0x9f else 0xbf, n % 16⟩) := by
  have hn := toNat_ofNat_of_lt (by omega : n < 256)
  simp only [lossyStart, UInt8.lt_iff_toNat_lt, ← UInt8.toNat_inj, hn]
  rw [if_neg (by change ¬n < 128; omega), if_neg (by change ¬n < 194; omega),
    if_neg (by change ¬n < 224; omega), if_pos (by change n < 240; omega)]
  rfl

theorem lossyStart_four {n : Nat} (hlow : 0xf0 ≤ n) (hhigh : n < 0xf5) :
    lossyStart (.ofNat n) = ([], some ⟨3, if n = 0xf0 then 0x90 else 0x80,
      if n = 0xf4 then 0x8f else 0xbf, n % 8⟩) := by
  have hn := toNat_ofNat_of_lt (by omega : n < 256)
  simp only [lossyStart, UInt8.lt_iff_toNat_lt, ← UInt8.toNat_inj, hn]
  rw [if_neg (by change ¬n < 128; omega), if_neg (by change ¬n < 194; omega),
    if_neg (by change ¬n < 224; omega), if_neg (by change ¬n < 240; omega),
    if_pos (by change n < 245; omega)]
  rfl

/-- A byte in the range that is owed. -/
theorem lossyStep_some {p : Pending} {n : Nat} (hlow : p.low.toNat ≤ n)
    (hhigh : n ≤ p.high.toNat) :
    lossyStep (some p) (.ofNat n) =
      if p.left = 1 then ([Char.ofNat (p.value * 64 + n % 64)], none)
      else ([], some ⟨p.left - 1, 0x80, 0xbf, p.value * 64 + n % 64⟩) := by
  have hn := toNat_ofNat_of_lt (Nat.lt_of_le_of_lt hhigh p.high.toNat_lt)
  have hrange : p.low ≤ UInt8.ofNat n ∧ UInt8.ofNat n ≤ p.high := by
    rw [UInt8.le_iff_toNat_le, UInt8.le_iff_toNat_le, hn]
    exact ⟨hlow, hhigh⟩
  rw [lossyStep, if_pos hrange, hn]

/-- The bytes of a character, as numbers. -/
inductive Encoded (v : Nat) : List Nat → Prop where
  | one (h : v < 0x80) : Encoded v [v]
  | two (hlow : 0x80 ≤ v) (hhigh : v < 0x800) : Encoded v [v / 64 + 0xc0, v % 64 + 0x80]
  | three (hlow : 0x800 ≤ v) (hhigh : v < 0x10000) (hscalar : v < 0xd800 ∨ 0xdfff < v) :
      Encoded v [v / 4096 + 0xe0, v / 64 % 64 + 0x80, v % 64 + 0x80]
  | four (hlow : 0x10000 ≤ v) (hhigh : v < 0x110000) :
      Encoded v [v / 262144 + 0xf0, v / 4096 % 64 + 0x80, v / 64 % 64 + 0x80, v % 64 + 0x80]

theorem exists_encoded (c : Char) :
    ∃ bytes, Encoded c.toNat bytes ∧ String.utf8EncodeChar c = bytes.map UInt8.ofNat := by
  have hvalid : c.toNat < 0xd800 ∨ 0xdfff < c.toNat ∧ c.toNat < 0x110000 := c.valid
  have hval : c.val.toNat = c.toNat := rfl
  simp only [String.utf8EncodeChar, hval]
  split_ifs with h1 h2 h3
  · exact ⟨_, .one (by omega), rfl⟩
  · refine ⟨_, .two (by omega) (by omega), ?_⟩
    rw [Nat.mod_eq_of_lt (by omega : c.toNat / 64 < 32)]
    rfl
  · refine ⟨_, .three (by omega) (by omega) (by omega), ?_⟩
    rw [Nat.mod_eq_of_lt (by omega : c.toNat / 4096 < 16)]
    rfl
  · refine ⟨_, .four (by omega) (by omega), ?_⟩
    rw [Nat.mod_eq_of_lt (by omega : c.toNat / 262144 < 8)]
    rfl

theorem fromUtf8Lossy_cons {pending next : Option Pending} {byte : UInt8} {chars : List Char}
    (hstep : lossyStep pending byte = (chars, next)) (bytes : List UInt8) :
    fromUtf8Lossy pending (byte :: bytes) = chars ++ fromUtf8Lossy next bytes := by
  cases pending <;> simp only [fromUtf8Lossy, hstep]

/-- A character under way, of which the given bytes are still to come. -/
inductive Owed (v : Nat) : Option Pending → List Nat → Prop where
  | last {p : Pending} {n : Nat} (hleft : p.left = 1) (hlow : p.low.toNat ≤ n)
      (hhigh : n ≤ p.high.toNat) (hvalue : p.value * 64 + n % 64 = v) : Owed v (some p) [n]
  | more {p : Pending} {n : Nat} {bytes : List Nat} (hleft : p.left ≠ 1)
      (hlow : p.low.toNat ≤ n) (hhigh : n ≤ p.high.toNat)
      (hrest : Owed v (some ⟨p.left - 1, 0x80, 0xbf, p.value * 64 + n % 64⟩) bytes) :
      Owed v (some p) (n :: bytes)

theorem Owed.completes {v : Nat} {pending : Option Pending} {owed : List Nat}
    (h : Owed v pending owed) (bytes : List UInt8) :
    fromUtf8Lossy pending (owed.map UInt8.ofNat ++ bytes)
      = Char.ofNat v :: fromUtf8Lossy none bytes := by
  induction h with
  | last hleft hlow hhigh hvalue =>
      have hstep := lossyStep_some hlow hhigh
      rw [if_pos hleft, hvalue] at hstep
      simpa using fromUtf8Lossy_cons hstep bytes
  | more hleft hlow hhigh hrest ih =>
      have hstep := lossyStep_some hlow hhigh
      rw [if_neg hleft] at hstep
      simpa using (fromUtf8Lossy_cons hstep _).trans ih

theorem Owed.cut {v : Nat} {pending : Option Pending} {owed : List Nat}
    (h : Owed v pending owed) {k : Nat} (hk : k < owed.length) :
    fromUtf8Lossy pending ((owed.map UInt8.ofNat).take k) = [replacement] := by
  induction h generalizing k with
  | last hleft hlow hhigh hvalue =>
      have hzero : k = 0 := by simpa using hk
      subst hzero
      rfl
  | more hleft hlow hhigh hrest ih =>
      cases k with
      | zero => rfl
      | succ k =>
          have hstep := lossyStep_some hlow hhigh
          rw [if_neg hleft] at hstep
          simpa using (fromUtf8Lossy_cons hstep _).trans (ih (by simpa using hk))

/-- The last six bits, in a byte of the plain continuation range. -/
theorem Owed.of_last {v value m : Nat} (hvalue : value * 64 + m % 64 = v) :
    Owed v (some ⟨1, 0x80, 0xbf, value⟩) [m % 64 + 0x80] := by
  refine .last rfl ?_ ?_ ?_
  · change 0x80 ≤ _
    omega
  · change _ ≤ 0xbf
    omega
  · change value * 64 + _ = v
    omega

/-- The first byte of a longer character leaves the others owed.  Only the
range of the second byte depends on the first one: it excludes what a shorter
form or a surrogate would be. -/
theorem Encoded.cases {v : Nat} {bytes : List Nat} (h : Encoded v bytes) :
    (bytes = [v] ∧ v < 0x80) ∨
      ∃ first owed p, bytes = first :: owed ∧ lossyStart (.ofNat first) = ([], some p) ∧
        Owed v (some p) owed := by
  cases h with
  | one h => exact .inl ⟨rfl, h⟩
  | two hlow hhigh =>
      exact .inr ⟨_, _, _, rfl, lossyStart_two (by omega) (by omega), .of_last (by omega)⟩
  | three hlow hhigh hscalar =>
      refine .inr ⟨_, _, _, rfl, lossyStart_three (by omega) (by omega), ?_⟩
      refine .more (by simp) ?_ ?_ (.of_last ?_)
      · change (if _ then (0xa0 : UInt8) else 0x80).toNat ≤ _
        split_ifs
        · change 0xa0 ≤ _
          omega
        · change 0x80 ≤ _
          omega
      · change _ ≤ (if _ then (0x9f : UInt8) else 0xbf).toNat
        split_ifs
        · change _ ≤ 0x9f
          omega
        · change _ ≤ 0xbf
          omega
      · change ((v / 4096 + 0xe0) % 16 * 64 + _) * 64 + _ = v
        omega
  | four hlow hhigh =>
      refine .inr ⟨_, _, _, rfl, lossyStart_four (by omega) (by omega), ?_⟩
      refine .more (by simp) ?_ ?_ (.more (by simp) ?_ ?_ (.of_last ?_))
      · change (if _ then (0x90 : UInt8) else 0x80).toNat ≤ _
        split_ifs
        · change 0x90 ≤ _
          omega
        · change 0x80 ≤ _
          omega
      · change _ ≤ (if _ then (0x8f : UInt8) else 0xbf).toNat
        split_ifs
        · change _ ≤ 0x8f
          omega
        · change _ ≤ 0xbf
          omega
      · change 0x80 ≤ _
        omega
      · change _ ≤ 0xbf
        omega
      · change (((v / 262144 + 0xf0) % 8 * 64 + _) * 64 + _) * 64 + _ = v
        omega

theorem fromUtf8Lossy_start {next : Option Pending} {byte : UInt8} {chars : List Char}
    (hstart : lossyStart byte = (chars, next)) (bytes : List UInt8) :
    fromUtf8Lossy none (byte :: bytes) = chars ++ fromUtf8Lossy next bytes :=
  fromUtf8Lossy_cons (show lossyStep none byte = _ from hstart) bytes

theorem fromUtf8Lossy_utf8EncodeChar (c : Char) (bytes : List UInt8) :
    fromUtf8Lossy none (String.utf8EncodeChar c ++ bytes) = c :: fromUtf8Lossy none bytes := by
  have hc : Char.ofNat c.toNat = c := Char.ofNat_toNat c
  obtain ⟨encoded, hencoded, heq⟩ := exists_encoded c
  rw [heq]
  rcases hencoded.cases with ⟨rfl, hlow⟩ | ⟨first, owed, p, rfl, hstart, howed⟩
  · simpa [hc] using fromUtf8Lossy_start (lossyStart_one hlow) bytes
  · have hfirst := fromUtf8Lossy_start hstart (owed.map UInt8.ofNat ++ bytes)
    simpa [hc] using hfirst.trans (howed.completes bytes)

/-- The bytes of a text decode to it. -/
theorem fromUtf8Lossy_asBytes (s : List Char) : fromUtf8Lossy none (asBytes s) = s := by
  induction s with
  | nil => rfl
  | cons c s ih => rw [asBytes_cons, fromUtf8Lossy_utf8EncodeChar, ih]

/-- A character that is cut is decoded as one replacement character. -/
theorem fromUtf8Lossy_cut (c : Char) {k : Nat} (hpos : 0 < k) (hk : k < c.utf8Size) :
    fromUtf8Lossy none ((String.utf8EncodeChar c).take k) = [replacement] := by
  obtain ⟨encoded, hencoded, heq⟩ := exists_encoded c
  have hlen : c.utf8Size = encoded.length := by
    rw [← String.length_utf8EncodeChar, heq, List.length_map]
  obtain ⟨k, rfl⟩ : ∃ n, k = n + 1 := ⟨k - 1, by omega⟩
  rw [heq]
  rcases hencoded.cases with ⟨rfl, -⟩ | ⟨first, owed, p, rfl, hstart, howed⟩
  · simp only [List.length_cons, List.length_nil] at hlen
    omega
  · rw [List.length_cons] at hlen
    have hfirst := fromUtf8Lossy_start hstart ((owed.map UInt8.ofNat).take k)
    simpa using hfirst.trans (howed.cut (by omega))

/-- The text whose bytes, cut at `n`, are decoded to it again: one that is not
cut, or one that ends in a replacement character that is cut. -/
def SurvivesCut (n : Nat) (s : List Char) : Prop :=
  (asBytes s).length ≤ n ∨
    ∃ t k, s = t ++ [replacement] ∧ 0 < k ∧ k < 3 ∧ (asBytes t).length + k = n

theorem utf8Size_replacement : replacement.utf8Size = 3 := by decide

/-- Whether a text survives depends on what is left of the limit behind its first
character. -/
theorem survivesCut_cons {n : Nat} {c : Char} {s : List Char} (hc : c.utf8Size ≤ n) :
    SurvivesCut n (c :: s) ↔ SurvivesCut (n - c.utf8Size) s := by
  simp only [SurvivesCut, length_asBytes_cons]
  refine or_congr (by omega) ⟨?_, ?_⟩
  · rintro ⟨t, k, htext, hpos, hk, hlen⟩
    cases t with
    | nil =>
        obtain ⟨rfl, -⟩ := List.cons.inj htext
        rw [utf8Size_replacement] at hc
        simp only [asBytes_nil, List.length_nil] at hlen
        omega
    | cons c' t =>
        obtain ⟨rfl, rfl⟩ := List.cons.inj htext
        rw [length_asBytes_cons] at hlen
        exact ⟨t, k, rfl, hpos, hk, by omega⟩
  · rintro ⟨t, k, rfl, hpos, hk, hlen⟩
    exact ⟨c :: t, k, rfl, hpos, hk, by rw [length_asBytes_cons]; omega⟩

/-- A character the limit cuts survives only as the last one, a replacement. -/
theorem survivesCut_short {n : Nat} {c : Char} {s : List Char} (hc : n < c.utf8Size) :
    SurvivesCut n (c :: s) ↔ 0 < n ∧ c = replacement ∧ s = [] := by
  simp only [SurvivesCut, length_asBytes_cons]
  constructor
  · rintro (hlen | ⟨t, k, htext, hpos, hk, hlen⟩)
    · omega
    · cases t with
      | nil =>
          obtain ⟨rfl, rfl⟩ := List.cons.inj htext
          simp only [asBytes_nil, List.length_nil] at hlen
          exact ⟨by omega, rfl, rfl⟩
      | cons c' t =>
          obtain ⟨rfl, rfl⟩ := List.cons.inj htext
          rw [length_asBytes_cons] at hlen
          omega
  · rintro ⟨hpos, rfl, rfl⟩
    rw [utf8Size_replacement] at hc
    exact .inr ⟨[], n, rfl, hpos, hc, by simp⟩

/-- Cutting the bytes of a text and decoding them. -/
theorem fromUtf8Lossy_take (n : Nat) (s : List Char) :
    fromUtf8Lossy none ((asBytes s).take n) = s ↔ SurvivesCut n s := by
  induction s generalizing n with
  | nil => simp [SurvivesCut, fromUtf8Lossy]
  | cons c s ih =>
      have hsize := String.length_utf8EncodeChar c
      rw [asBytes_cons, List.take_append, hsize]
      rcases Nat.lt_or_ge n c.utf8Size with hc | hc
      · rw [survivesCut_short hc, Nat.sub_eq_zero_of_le (Nat.le_of_lt hc), List.take_zero,
          List.append_nil]
        rcases Nat.eq_zero_or_pos n with rfl | hpos
        · simp [fromUtf8Lossy]
        · rw [fromUtf8Lossy_cut c hpos hc, List.cons.injEq]
          exact ⟨fun ⟨hc, hs⟩ => ⟨hpos, hc.symm, hs.symm⟩, fun ⟨_, hc, hs⟩ => ⟨hc.symm, hs.symm⟩⟩
      · rw [survivesCut_cons hc, List.take_of_length_le (by omega), fromUtf8Lossy_utf8EncodeChar,
          List.cons.injEq, ih]
        simp

/-! ## Lengths -/

theorem lossyStart_length (byte : UInt8) :
    (lossyStart byte).1.length + (lossyStart byte).2.toList.length = 1 := by
  unfold lossyStart
  split_ifs <;> rfl

/-- A byte adds one character at most, those under way included. -/
theorem lossyStep_length (pending : Option Pending) (byte : UInt8) :
    (lossyStep pending byte).1.length + (lossyStep pending byte).2.toList.length ≤
      pending.toList.length + 1 := by
  have hstart := lossyStart_length byte
  cases pending with
  | none => simp only [lossyStep, Option.toList_none, List.length_nil]; omega
  | some p =>
      simp only [lossyStep, Option.toList_some, List.length_singleton]
      split_ifs
      · simp
      · simp
      · simp only [List.length_cons]
        omega

/-- Decoding gives no more characters than there are bytes, apart from the
replacement of one that was under way. -/
theorem length_fromUtf8Lossy_le (pending : Option Pending) (bytes : List UInt8) :
    (fromUtf8Lossy pending bytes).length ≤ pending.toList.length + bytes.length := by
  induction bytes generalizing pending with
  | nil => cases pending <;> simp [fromUtf8Lossy]
  | cons byte bytes ih =>
      have hlen := lossyStep_length pending byte
      rcases hstep : lossyStep pending byte with ⟨chars, next⟩
      have hrest := ih next
      rw [hstep] at hlen
      dsimp only at hlen
      rw [fromUtf8Lossy_cons hstep, List.length_append, List.length_cons]
      omega

end Text
