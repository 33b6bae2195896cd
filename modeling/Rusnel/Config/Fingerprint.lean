import Rusnel.Config.Tls
import Rusnel.Foundation.Utf8
import Rusnel.Foundation.NetText

/-!
# Fingerprints as text

What the parser of certificate fingerprints makes of a text.  It counts bytes,
cuts the text into pieces of two bytes and hands each piece to the integer
parser of the standard library.  A piece may cut a character, and the integer
parser knows a plus sign; apart from that, what is read is hexadecimal digits.

Main results:

- Theorem {lit}`parseFingerprint_aborts_iff`: the texts on which the parser panics.
- Theorem {lit}`parseFingerprint_hexText_iff`: the accepted texts that are digits.
- Theorem {lit}`parseFingerprint_spelled`: every spelling of a digest is accepted.
-/

namespace Rusnel
namespace Config

open Text

/-! ## Pieces of two bytes -/

/-- Two characters the integer parser reads as a number: two digits, or a plus
sign and a digit. -/
inductive Pair : Char → Char → Nat → Prop where
  | digits {c d : Char} {m n : Nat} (hm : toDigit 16 c = some m) (hn : toDigit 16 d = some n) :
      Pair c d (m * 16 + n)
  | plus {d : Char} {n : Nat} (hn : toDigit 16 d = some n) : Pair '+' d n

/-- A text of pairs, and the bytes they are read as. -/
inductive Pairs : List Char → List UInt8 → Prop where
  | nil : Pairs [] []
  | cons {c d : Char} {n : Nat} {s : List Char} {bytes : List UInt8} (hpair : Pair c d n)
      (hrest : Pairs s bytes) : Pairs (c :: d :: s) (.ofNat n :: bytes)

/-- A text in which, behind some pairs, a piece of two bytes cuts a character. -/
inductive Straddled : List Char → Prop where
  | first {c : Char} {s : List Char} (hc : 2 < c.utf8Size) : Straddled (c :: s)
  | second {c d : Char} {s : List Char} (hc : c.utf8Size = 1) (hd : 1 < d.utf8Size) :
      Straddled (c :: d :: s)
  | behind {c d : Char} {n : Nat} {s : List Char} (hpair : Pair c d n) (hrest : Straddled s) :
      Straddled (c :: d :: s)

/-- Hexadecimal digits, two for each byte. -/
inductive HexText : List Char → List UInt8 → Prop where
  | nil : HexText [] []
  | cons {c d : Char} {m n : Nat} {s : List Char} {bytes : List UInt8}
      (hm : toDigit 16 c = some m) (hn : toDigit 16 d = some n) (hrest : HexText s bytes) :
      HexText (c :: d :: s) (.ofNat (m * 16 + n) :: bytes)

variable {c d : Char}

theorem toDigit_lt {radix d : Nat} (h : toDigit radix c = some d) : d < radix := by
  simp only [toDigit, Option.filter_eq_some_iff, decide_eq_true_eq] at h
  exact h.2

theorem toNat_of_toDigit {radix d : Nat} (h : toDigit radix c = some d) :
    48 ≤ c.toNat ∧ c.toNat < 128 := by
  simp only [toDigit, Option.filter_eq_some_iff, decide_eq_true_eq] at h
  obtain ⟨hvalue, -⟩ := h
  split_ifs at hvalue with h0 ha hA
  · have hlow : 48 ≤ c.toNat := h0.1
    have hhigh : c.toNat ≤ 57 := h0.2
    omega
  · have hlow : 97 ≤ c.toNat := ha.1
    have hhigh : c.toNat ≤ 122 := ha.2
    omega
  · have hlow : 65 ≤ c.toNat := hA.1
    have hhigh : c.toNat ≤ 90 := hA.2
    omega

theorem utf8Size_of_toDigit {radix d : Nat} (h : toDigit radix c = some d) : c.utf8Size = 1 := by
  rw [← String.length_utf8EncodeChar, utf8EncodeChar_ascii (toNat_of_toDigit h).2]
  rfl

theorem Pair.utf8Size {n : Nat} (h : Pair c d n) : c.utf8Size = 1 ∧ d.utf8Size = 1 := by
  cases h with
  | digits hm hn =>
      exact ⟨utf8Size_of_toDigit hm, utf8Size_of_toDigit hn⟩
  | plus hn => exact ⟨by decide, utf8Size_of_toDigit hn⟩

theorem radixDigits_single {acc n : Nat} (hacc : acc ≤ 15) :
    radixDigits 16 255 acc [c] = .ok n ↔ ∃ d, toDigit 16 c = some d ∧ n = acc * 16 + d := by
  unfold radixDigits
  cases hc : toDigit 16 c with
  | none => simp
  | some d =>
      have hd := toDigit_lt hc
      dsimp only
      rw [if_pos (by omega), radixDigits, Except.ok.injEq]
      constructor
      · rintro rfl
        exact ⟨d, rfl, rfl⟩
      · rintro ⟨_, hd', rfl⟩
        cases hd'
        rfl

theorem radixDigits_pair {n : Nat} :
    radixDigits 16 255 0 [c, d] = .ok n ↔
      ∃ m k, toDigit 16 c = some m ∧ toDigit 16 d = some k ∧ n = m * 16 + k := by
  rw [radixDigits]
  cases hc : toDigit 16 c with
  | none => simp
  | some m =>
      have hm := toDigit_lt hc
      dsimp only
      rw [if_pos (by omega), Nat.zero_mul, Nat.zero_add, radixDigits_single (by omega)]
      constructor
      · rintro ⟨k, hk, rfl⟩
        exact ⟨m, k, rfl, hk, rfl⟩
      · rintro ⟨_, k, hm', hk, rfl⟩
        cases hm'
        exact ⟨k, hk, rfl⟩

/-- The integer parser on two characters. -/
theorem fromStrRadix_pair {n : Nat} : fromStrRadix 16 255 [c, d] = .ok n ↔ Pair c d n := by
  by_cases hc : c = '+'
  · subst hc
    have hsign : fromStrRadix 16 255 ['+', d] = radixDigits 16 255 0 [d] := rfl
    rw [hsign, radixDigits_single (by omega)]
    constructor
    · rintro ⟨k, hk, rfl⟩
      rw [Nat.zero_mul, Nat.zero_add]
      exact .plus hk
    · rintro (⟨hm, -⟩ | ⟨hn⟩)
      · have hnone : toDigit 16 '+' = none := by decide
        cases hnone.symm.trans hm
      · exact ⟨n, hn, by omega⟩
  · have hplain : fromStrRadix 16 255 [c, d] = radixDigits 16 255 0 [c, d] := by
      unfold fromStrRadix
      split <;> simp_all
    rw [hplain, radixDigits_pair]
    constructor
    · rintro ⟨m, k, hm, hk, rfl⟩
      exact .digits hm hk
    · rintro (⟨hm, hk⟩ | ⟨-⟩)
      · exact ⟨_, _, hm, hk, rfl⟩
      · exact absurd rfl hc

/-- The integer parser on a character that is not ASCII. -/
theorem fromStrRadix_wide (hc : c.utf8Size ≠ 1) :
    ∃ message, fromStrRadix 16 255 [c] = .error message := by
  have hdigit : toDigit 16 c = none := by
    cases hd : toDigit 16 c with
    | none => rfl
    | some d => exact absurd (utf8Size_of_toDigit hd) hc
  have hplus : c ≠ '+' := by
    rintro rfl
    exact hc (by decide)
  have hminus : c ≠ '-' := by
    rintro rfl
    exact hc (by decide)
  have hplain : fromStrRadix 16 255 [c] = radixDigits 16 255 0 [c] := by
    unfold fromStrRadix
    split <;> simp_all
  rw [hplain, radixDigits, hdigit]
  exact ⟨_, rfl⟩

/-! ## The loop over the pieces -/

section Loop

variable {done : List Char} {i : Nat} (hdone : (asBytes done).length = i * 2) (n : Nat)
include hdone

theorem slice_piece (part rest : List Char) (hpart : (asBytes part).length = 2) :
    slice (done ++ (part ++ rest)) (i * 2) (i * 2 + 2) = .ok part := by
  have h := slice_append done part rest
  rwa [hdone, hpart] at h

theorem slice_cut {rest : List Char} (hrest : takeBytes 2 rest = none) :
    slice (done ++ rest) (i * 2) (i * 2 + 2) = .error .abort := by
  rw [slice, if_pos (by omega), ← hdone, dropBytes_append, Option.bind_some,
    Nat.add_sub_cancel_left, hrest]

/-- A piece that cuts a character ends the loop in a panic. -/
theorem fingerprintBytes_cut {rest : List Char} (hrest : takeBytes 2 rest = none) :
    fingerprintBytes (done ++ rest) i (n + 1) = .error .abort := by
  rw [fingerprintBytes, slice_cut hdone hrest]
  rfl

/-- A piece the integer parser does not read ends the loop with an error. -/
theorem fingerprintBytes_unread {part rest : List Char} (hpart : (asBytes part).length = 2)
    {message : String} (hread : fromStrRadix 16 255 part = .error message) :
    ∃ message, fingerprintBytes (done ++ (part ++ rest)) i (n + 1) = .error (.err message) := by
  rw [fingerprintBytes, slice_piece hdone part rest hpart]
  simp only [bind, Except.bind, hread]
  exact ⟨_, rfl⟩

/-- A pair is read, and the loop goes on behind it. -/
theorem fingerprintBytes_pair {k : Nat} (hpair : Pair c d k) (rest : List Char) :
    fingerprintBytes (done ++ c :: d :: rest) i (n + 1)
      = (fingerprintBytes (done ++ [c, d] ++ rest) (i + 1) n).map (.ofNat k :: ·) := by
  have hsize := hpair.utf8Size
  have hpart : (asBytes [c, d]).length = 2 := by
    rw [length_asBytes_cons, length_asBytes_cons, hsize.1, hsize.2]
    rfl
  have hslice := slice_piece hdone [c, d] rest hpart
  have htext : done ++ c :: d :: rest = done ++ ([c, d] ++ rest) := rfl
  rw [htext, fingerprintBytes, hslice]
  simp only [bind, Except.bind, fromStrRadix_pair.mpr hpair, List.append_assoc]
  cases fingerprintBytes (done ++ ([c, d] ++ rest)) (i + 1) n <;> rfl

end Loop

/-- How a text of at least two bytes starts. -/
theorem piece_cases {rest : List Char} (hrest : 2 ≤ (asBytes rest).length) :
    (∃ c d s, rest = c :: d :: s ∧ c.utf8Size = 1 ∧ d.utf8Size = 1) ∨
      (∃ c s, rest = c :: s ∧ c.utf8Size = 2) ∨
      (takeBytes 2 rest = none ∧
        ((∃ c s, rest = c :: s ∧ 2 < c.utf8Size) ∨
          ∃ c d s, rest = c :: d :: s ∧ c.utf8Size = 1 ∧ 1 < d.utf8Size)) := by
  rcases rest with _ | ⟨c, s⟩
  · simp at hrest
  · have hpos := c.utf8Size_pos
    rcases Nat.lt_trichotomy c.utf8Size 2 with hc | hc | hc
    · have hone : c.utf8Size = 1 := by omega
      rcases s with _ | ⟨d, s⟩
      · rw [length_asBytes_cons, hone] at hrest
        simp at hrest
      · have hdpos := d.utf8Size_pos
        by_cases hd : d.utf8Size = 1
        · exact .inl ⟨c, d, s, rfl, hone, hd⟩
        · have hwide : 1 < d.utf8Size := by omega
          refine .inr (.inr ⟨?_, .inr ⟨c, d, s, rfl, hone, hwide⟩⟩)
          have hstep := takeBytes_cons c (d :: s) 1
          rw [hone] at hstep
          rw [hstep, takeBytes, if_neg (by omega), Option.map_none]
    · exact .inr (.inl ⟨c, s, rfl, hc⟩)
    · refine .inr (.inr ⟨?_, .inl ⟨c, s, rfl, hc⟩⟩)
      rw [takeBytes, if_neg (by omega)]

variable {bytes : List UInt8} {s : List Char}

theorem pairs_cons_iff :
    Pairs (c :: d :: s) bytes ↔
      ∃ n tail, Pair c d n ∧ Pairs s tail ∧ bytes = .ofNat n :: tail := by
  constructor
  · rintro (_ | ⟨hpair, hrest⟩)
    exact ⟨_, _, hpair, hrest, rfl⟩
  · rintro ⟨n, tail, hpair, hrest, rfl⟩
    exact .cons hpair hrest

/-- Behind a pair of ASCII characters, only the rest can be cut. -/
theorem straddled_cons_iff (hc : c.utf8Size = 1) (hd : d.utf8Size = 1) :
    Straddled (c :: d :: s) ↔ (∃ n, Pair c d n) ∧ Straddled s := by
  constructor
  · rintro (hwide | ⟨-, hwide⟩ | ⟨hpair, hrest⟩)
    · omega
    · omega
    · exact ⟨⟨_, hpair⟩, hrest⟩
  · rintro ⟨⟨n, hpair⟩, hrest⟩
    exact .behind hpair hrest

/-- A character that is not ASCII is in no pair. -/
theorem Pairs.head_utf8Size (h : Pairs (c :: s) bytes) : c.utf8Size = 1 := by
  cases h with
  | cons hpair hrest => exact hpair.utf8Size.1

/-- A result of the loop that is right for a text: the bytes of its pairs, a panic
if a character is cut, and an error for anything else. -/
structure Reads (result : Except Failure (List UInt8)) (text : List Char) : Prop where
  ok : ∀ bytes, result = .ok bytes ↔ Pairs text bytes
  abort : result = .error .abort ↔ Straddled text

theorem Reads.nil : Reads (.ok []) [] where
  ok bytes := by
    constructor
    · rintro ⟨⟩
      exact .nil
    · rintro ⟨⟩
      rfl
  abort := by
    constructor
    · rintro ⟨⟩
    · rintro ⟨⟩

theorem Pair.unique {m n : Nat} (hm : Pair c d m) (hn : Pair c d n) : m = n :=
  Except.ok.inj ((fromStrRadix_pair.mpr hm).symm.trans (fromStrRadix_pair.mpr hn))

theorem Reads.pair {k : Nat} {result : Except Failure (List UInt8)} (hpair : Pair c d k)
    (h : Reads result s) : Reads (result.map (.ofNat k :: ·)) (c :: d :: s) where
  ok bytes := by
    rw [pairs_cons_iff]
    constructor
    · intro hok
      cases result with
      | error e => cases hok
      | ok tail =>
          cases hok
          exact ⟨k, tail, hpair, (h.ok tail).mp rfl, rfl⟩
    · rintro ⟨n, tail, hn, htail, rfl⟩
      rw [(h.ok tail).mpr htail, hn.unique hpair]
      rfl
  abort := by
    rw [straddled_cons_iff hpair.utf8Size.1 hpair.utf8Size.2, ← h.abort]
    constructor
    · intro habort
      cases result with
      | error e => exact ⟨⟨k, hpair⟩, habort⟩
      | ok tail => cases habort
    · rintro ⟨-, habort⟩
      rw [habort]
      rfl

theorem Reads.unread {message : String} (hc : c.utf8Size = 1) (hd : d.utf8Size = 1)
    (hnone : ∀ k, ¬Pair c d k) : Reads (.error (.err message)) (c :: d :: s) where
  ok bytes := by simp [pairs_cons_iff, hnone]
  abort := by simp [straddled_cons_iff hc hd, hnone]

/-- A character of two bytes is a piece of its own, and no pair. -/
theorem Reads.twoBytes {message : String} (hc : c.utf8Size = 2) :
    Reads (.error (.err message)) (c :: s) where
  ok bytes := by
    refine ⟨nofun, fun hpairs => ?_⟩
    have hone := hpairs.head_utf8Size
    omega
  abort := by
    refine ⟨nofun, fun hstraddled => ?_⟩
    cases hstraddled with
    | first hwide => omega
    | second hone _ => omega
    | behind hpair _ =>
        have hone := hpair.utf8Size.1
        omega

theorem Reads.first (hc : 2 < c.utf8Size) : Reads (.error .abort) (c :: s) where
  ok bytes := by
    refine ⟨nofun, fun hpairs => ?_⟩
    have hone := hpairs.head_utf8Size
    omega
  abort := ⟨fun _ => .first hc, fun _ => rfl⟩

theorem Reads.second (hc : c.utf8Size = 1) (hd : 1 < d.utf8Size) :
    Reads (.error .abort) (c :: d :: s) where
  ok bytes := by
    refine ⟨nofun, fun hpairs => ?_⟩
    obtain ⟨n, tail, hpair, -⟩ := pairs_cons_iff.mp hpairs
    have hone := hpair.utf8Size.2
    omega
  abort := ⟨fun _ => .second hc hd, fun _ => rfl⟩

/-- What the loop returns for the rest of a text. -/
theorem fingerprintBytes_reads {done rest : List Char} {i n : Nat}
    (hdone : (asBytes done).length = i * 2) (hrest : (asBytes rest).length = n * 2) :
    Reads (fingerprintBytes (done ++ rest) i n) rest := by
  induction n generalizing done rest i with
  | zero =>
      have hnil : rest = [] := by
        cases rest with
        | nil => rfl
        | cons c s =>
            have hpos := c.utf8Size_pos
            rw [length_asBytes_cons] at hrest
            omega
      subst hnil
      exact .nil
  | succ n ih =>
      rcases piece_cases (by omega : 2 ≤ (asBytes rest).length) with
        ⟨c, d, s, rfl, hc, hd⟩ | ⟨c, s, rfl, hc⟩ | ⟨hcut, hwide⟩
      · have hpart : (asBytes [c, d]).length = 2 := by
          rw [length_asBytes_cons, length_asBytes_cons, hc, hd]
          rfl
        cases hread : fromStrRadix 16 255 [c, d] with
        | error message =>
            obtain ⟨message, herror⟩ := @fingerprintBytes_unread _ _ hdone n _ s hpart _ hread
            change fingerprintBytes (done ++ c :: d :: s) i (n + 1) = _ at herror
            rw [herror]
            refine .unread hc hd fun k hpair => ?_
            cases hread.symm.trans (fromStrRadix_pair.mpr hpair)
        | ok k =>
            have hpair := fromStrRadix_pair.mp hread
            have hdone' : (asBytes (done ++ [c, d])).length = (i + 1) * 2 := by
              rw [asBytes_append, List.length_append, hdone, hpart]
              omega
            have hrest' : (asBytes s).length = n * 2 := by
              rw [length_asBytes_cons, length_asBytes_cons, hc, hd] at hrest
              omega
            rw [fingerprintBytes_pair hdone n hpair]
            exact (ih hdone' hrest').pair hpair
      · have hpart : (asBytes [c]).length = 2 := by
          rw [length_asBytes_cons, hc]
          rfl
        obtain ⟨_, hread⟩ := fromStrRadix_wide (by omega : c.utf8Size ≠ 1)
        obtain ⟨message, herror⟩ := @fingerprintBytes_unread _ _ hdone n _ s hpart _ hread
        change fingerprintBytes (done ++ c :: s) i (n + 1) = _ at herror
        rw [herror]
        exact .twoBytes hc
      · rw [fingerprintBytes_cut hdone n hcut]
        rcases hwide with ⟨c, s, rfl, hc⟩ | ⟨c, d, s, rfl, hc, hd⟩
        · exact .first hc
        · exact .second hc hd

/-! ## The whole parser -/

theorem parseFingerprint_reads {s : String} (hlen : (asBytes (fingerprintText s)).length = 64) :
    Reads (parseFingerprint s) (fingerprintText s) := by
  rw [parseFingerprint, if_neg (not_not.mpr hlen)]
  exact @fingerprintBytes_reads [] _ 0 32 rfl hlen

/-- The parser panics exactly if the text has the right number of bytes and a
piece of two bytes cuts a character of it. -/
theorem parseFingerprint_aborts_iff (s : String) :
    parseFingerprint s = .error .abort ↔
      (asBytes (fingerprintText s)).length = 64 ∧ Straddled (fingerprintText s) := by
  by_cases hlen : (asBytes (fingerprintText s)).length = 64
  · rw [(parseFingerprint_reads hlen).abort]
    simp [hlen]
  · rw [parseFingerprint, if_pos hlen]
    simp [hlen]

/-- A text of 63 characters with one of two bytes behind the first digit. -/
theorem parseFingerprint_aborts :
    parseFingerprint (.ofList ('0' :: 'é' :: List.replicate 61 '0')) = .error .abort := by
  decide +kernel

/-! ## Digits only -/

variable {text : List Char}

theorem Pairs.length_asBytes (h : Pairs text bytes) :
    (asBytes text).length = text.length ∧ text.length = bytes.length * 2 := by
  induction h with
  | nil => exact ⟨rfl, rfl⟩
  | cons hpair hrest ih =>
      rw [length_asBytes_cons, length_asBytes_cons, hpair.utf8Size.1, hpair.utf8Size.2]
      simp only [List.length_cons]
      omega

theorem HexText.digit (h : HexText text bytes) : ∀ c ∈ text, (toDigit 16 c).isSome := by
  induction h with
  | nil => simp
  | cons hm hn _ ih =>
      exact List.forall_mem_cons.mpr ⟨by rw [hm]; rfl,
        List.forall_mem_cons.mpr ⟨by rw [hn]; rfl, ih⟩⟩

/-- Pairs are digits exactly if there is no sign among them. -/
theorem Pairs.hexText_iff (h : Pairs text bytes) : HexText text bytes ↔ '+' ∉ text := by
  constructor
  · intro hhex hsign
    exact absurd (hhex.digit '+' hsign) (by decide)
  · intro hsign
    induction h with
    | nil => exact .nil
    | cons hpair hrest ih =>
        rw [List.mem_cons, List.mem_cons, not_or, not_or] at hsign
        cases hpair with
        | digits hm hn => exact .cons hm hn (ih hsign.2.2)
        | plus hn => exact absurd rfl hsign.1

variable {digest : List UInt8}

theorem parseFingerprint_pairs {s : String} (h : parseFingerprint s = .ok digest) :
    (asBytes (fingerprintText s)).length = 64 ∧ Pairs (fingerprintText s) digest := by
  by_cases hlen : (asBytes (fingerprintText s)).length = 64
  · exact ⟨hlen, ((parseFingerprint_reads hlen).ok digest).mp h⟩
  · rw [parseFingerprint, if_pos hlen] at h
    cases h

/-- An accepted text is 64 digits, two for each byte of the digest, exactly if it
has no plus sign. -/
theorem parseFingerprint_hexText_iff {s : String} {digest : List UInt8}
    (h : parseFingerprint s = .ok digest) :
    ((fingerprintText s).length = 64 ∧ HexText (fingerprintText s) digest) ↔
      '+' ∉ fingerprintText s := by
  obtain ⟨hlen, hpairs⟩ := parseFingerprint_pairs h
  have hchars : (fingerprintText s).length = 64 := hpairs.length_asBytes.1.symm.trans hlen
  rw [← hpairs.hexText_iff]
  exact ⟨fun hboth => hboth.2, fun hhex => ⟨hchars, hhex⟩⟩

theorem parseFingerprint_hexText_zeros :
    HexText (fingerprintText (.ofList (List.replicate 64 '0'))) (List.replicate 32 0) := by
  have hparse : parseFingerprint (.ofList (List.replicate 64 '0')) = .ok (List.replicate 32 0) := by
    decide +kernel
  exact ((parseFingerprint_hexText_iff hparse).mpr (by decide +kernel)).2

/-- Signs in place of the first digit of each byte. -/
theorem parseFingerprint_signs :
    parseFingerprint (.ofList (List.replicate 32 ['+', 'f']).flatten)
        = .ok (List.replicate 32 15) ∧
      '+' ∈ fingerprintText (.ofList (List.replicate 32 ['+', 'f']).flatten) := by
  decide +kernel

/-! ## Every spelling -/

/-- Format a digest: the algorithm and lowercase digits. -/
def formatFingerprint (digest : List UInt8) : String :=
  "sha256:" ++ .ofList (digest.flatMap lowerHex)

theorem HexText.pairs (h : HexText text bytes) : Pairs text bytes := by
  induction h with
  | nil => exact .nil
  | cons hm hn _ ih => exact .cons (.digits hm hn) ih

theorem HexText.filter_colons (h : HexText text bytes) : text.filter (· ≠ ':') = text := by
  refine List.filter_eq_self.mpr fun c hc => ?_
  have hdigit := h.digit c hc
  rw [decide_eq_true_iff]
  rintro rfl
  exact absurd hdigit (by decide)

theorem hexText_format (digest : List UInt8) :
    HexText (digest.flatMap lowerHex) digest := by
  induction digest with
  | nil => exact .nil
  | cons b digest ih =>
      have hb := b.toNat_lt
      have hhigh := Net.toDigit_digitChar (Nat.le_refl 16) (by omega : b.toNat / 16 < 16)
      have hlow := Net.toDigit_digitChar (Nat.le_refl 16) (by omega : b.toNat % 16 < 16)
      have hbyte : UInt8.ofNat (b.toNat / 16 * 16 + b.toNat % 16) = b := by
        rw [Nat.div_add_mod', UInt8.ofNat_toNat]
      have hcons := HexText.cons hhigh hlow ih
      rwa [hbyte] at hcons

/-- Colons between the digits are dropped, and the digits are what is left. -/
structure Spelled (text : List Char) (digest : List UInt8) : Prop where
  hex : HexText (text.filter (· ≠ ':')) digest
  length : digest.length = 32

theorem Spelled.mem (h : Spelled text digest) : ∀ c ∈ text, c = ':' ∨ (toDigit 16 c).isSome := by
  intro c hc
  by_cases hcolon : c = ':'
  · exact .inl hcolon
  · exact .inr (h.hex.digit c (List.mem_filter.mpr ⟨hc, by simpa using hcolon⟩))

theorem Spelled.ne_nil (h : Spelled text digest) : text ≠ [] := by
  rintro rfl
  have hlen := h.hex.pairs.length_asBytes.2
  rw [h.length] at hlen
  cases hlen

theorem isWhitespace_of_toDigit (hc : (toDigit 16 c).isSome) : isWhitespace c = false := by
  obtain ⟨d, hd⟩ := Option.isSome_iff_exists.mp hc
  have hrange := toNat_of_toDigit hd
  simp only [isWhitespace, Bool.or_eq_false_iff, Bool.and_eq_false_iff, decide_eq_false_iff_not,
    beq_eq_false_iff_ne]
  omega

/-- The algorithm in front of a digest, in either case or not at all. -/
def algorithms : List (List Char) :=
  [[], "sha256:".toList, "SHA256:".toList]

/-- The parser gets to the digits of every spelling. -/
theorem fingerprintText_spelled (h : Spelled text digest) {algorithm before after : List Char}
    (halgorithm : algorithm ∈ algorithms) (hbefore : ∀ c ∈ before, isWhitespace c = true)
    (hafter : ∀ c ∈ after, isWhitespace c = true) :
    fingerprintText (.ofList (before ++ (algorithm ++ text ++ after)))
      = text.filter (· ≠ ':') := by
  have hblank : ∀ c ∈ algorithm ++ text, isWhitespace c = false := by
    intro c hc
    rcases List.mem_append.mp hc with hc | hc
    · have hall : ∀ a ∈ algorithms, a.all (fun c => !isWhitespace c) := by decide
      simpa using List.all_eq_true.mp (hall algorithm halgorithm) c hc
    · rcases h.mem c hc with rfl | hdigit
      · decide
      · exact isWhitespace_of_toDigit hdigit
  have hhead : ∀ c, (toDigit 16 c).isSome = false → c ≠ ':' → text.head? ≠ some c := by
    intro c hdigit hcolon hhead
    rcases h.mem c (List.mem_of_head? hhead) with rfl | hsome
    · exact hcolon rfl
    · rw [hdigit] at hsome
      cases hsome
  have hlower : stripStart "sha256:".toList text = none :=
    stripStart_of_head_ne (hhead 's' (by decide) (by decide))
  have hupper : stripStart "SHA256:".toList text = none :=
    stripStart_of_head_ne (hhead 'S' (by decide) (by decide))
  have htrim : trim (before ++ (algorithm ++ text ++ after)) = algorithm ++ text :=
    trim_append hbefore hafter (by simp [h.ne_nil]) hblank
  simp only [fingerprintText, String.toList_ofList, htrim]
  simp only [algorithms, List.mem_cons, List.not_mem_nil, or_false] at halgorithm
  rcases halgorithm with rfl | rfl | rfl
  · rw [List.nil_append, hlower, hupper]
    rfl
  · rw [stripStart_append]
    rfl
  · have hcase : stripStart "sha256:".toList ("SHA256:".toList ++ text) = none :=
      stripStart_of_head_ne (c := 's') (by simp)
    rw [hcase, stripStart_append]
    rfl

theorem parseFingerprint_of_text {s : String} (hlen : digest.length = 32)
    (hhex : HexText (fingerprintText s) digest) : parseFingerprint s = .ok digest := by
  have hbytes := hhex.pairs.length_asBytes
  exact ((parseFingerprint_reads (by omega)).ok digest).mpr hhex.pairs

/-- Every spelling of a digest is accepted, the formatted one among them. -/
theorem parseFingerprint_spelled {digest : List UInt8} (hlen : digest.length = 32) :
    (∀ text algorithm before after, HexText (text.filter (· ≠ ':')) digest →
      algorithm ∈ algorithms → (∀ c ∈ before, isWhitespace c = true) →
      (∀ c ∈ after, isWhitespace c = true) →
      parseFingerprint (.ofList (before ++ (algorithm ++ text ++ after))) = .ok digest) ∧
    parseFingerprint (formatFingerprint digest) = .ok digest := by
  have hspelled : ∀ text algorithm before after, HexText (text.filter (· ≠ ':')) digest →
      algorithm ∈ algorithms → (∀ c ∈ before, isWhitespace c = true) →
      (∀ c ∈ after, isWhitespace c = true) →
      parseFingerprint (.ofList (before ++ (algorithm ++ text ++ after))) = .ok digest := by
    intro text algorithm before after hhex halgorithm hbefore hafter
    have htext := fingerprintText_spelled ⟨hhex, hlen⟩ halgorithm hbefore hafter
    exact parseFingerprint_of_text hlen (by rwa [htext])
  have hdigits := hexText_format digest
  rw [← hdigits.filter_colons] at hdigits
  have hparse := hspelled _ "sha256:".toList [] [] hdigits (by decide) nofun nofun
  rw [List.nil_append, List.append_nil, String.ofList_append, String.ofList_toList] at hparse
  exact ⟨hspelled, hparse⟩

/-- A digest with every digit in upper case, colons between the bytes and blanks around it. -/
theorem parseFingerprint_spelled_colons :
    parseFingerprint (.ofList (" ".toList ++ ("SHA256:".toList
      ++ (List.replicate 32 "AB:".toList).flatten ++ "\n".toList)))
      = .ok (List.replicate 32 0xab) :=
  (parseFingerprint_spelled (by decide)).1 _ _ _ _
    (by
      have hbyte : ∀ n, HexText ((List.replicate n "AB:".toList).flatten.filter (· ≠ ':'))
          (List.replicate n 0xab) := by
        intro n
        induction n with
        | zero => exact .nil
        | succ n ih =>
            have hcons := HexText.cons (c := 'A') (d := 'B') (m := 10) (n := 11) rfl rfl ih
            simpa [List.replicate_succ] using hcons
      exact hbyte 32)
    (by decide) (List.forall_mem_singleton.mpr rfl) (List.forall_mem_singleton.mpr rfl)

end Config
end Rusnel
