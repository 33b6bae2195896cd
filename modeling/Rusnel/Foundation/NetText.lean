import Rusnel.Foundation.Net
import Mathlib.Algebra.Ring.Nat
import Mathlib.Tactic.SplitIfs

/-!
# Text and byte forms of addresses

How the standard library prints an address, and that its parsers read the
printed form back.  An IPv6 address is printed with its longest run of zero
groups elided, or around an IPv4 address if it is a mapped one.  The byte form
of an address is its octets in network order.

Main results:

- Theorem {lit}`readNumber_toDigits`: a printed number is read back up to the
  first character that is not a digit.
- Theorems {lit}`parseIpv4_display` and {lit}`parseIpv6_display`: printing and
  parsing are inverse.
- Theorem {lit}`parseIpv4_display_v6`: no printed IPv6 address is read as an
  IPv4 address.
- Theorem {lit}`Ipv6Addr.fromOctets_octets`: an address is the one of its
  octets.
-/

namespace Net

open Text

/-! ## Numbers -/

theorem toDigit_digitChar {radix d : Nat} (hradix : radix ≤ 16) (hd : d < radix) :
    toDigit radix d.digitChar = some d := by
  have hvalue : ∀ d : Fin 16, toDigit 16 d.val.digitChar = some d.val := by decide
  have h16 := hvalue ⟨d, by omega⟩
  simp only [toDigit, Option.filter_eq_some_iff, decide_eq_true_eq] at h16 ⊢
  exact ⟨h16.1, hd⟩

variable {rest : List Char}

section Digits

variable {radix : Nat} (hone : 1 < radix) (hradix : radix ≤ 16)

include hone hradix

omit hradix in
/-- Induction on a printed number by its last digit. -/
theorem toDigits_induction {P : Nat → List Char → Prop}
    (hdigit : ∀ d, d < radix → P d [d.digitChar])
    (hmore : ∀ n, n / radix ≠ 0 → P (n / radix) (Nat.toDigits radix (n / radix)) →
      P n (Nat.toDigits radix (n / radix) ++ [(n % radix).digitChar])) (n : Nat) :
    P n (Nat.toDigits radix n) := by
  induction n using Nat.strong_induction_on with
  | _ n ih =>
      by_cases hn : n < radix
      · rw [Nat.toDigits_of_lt_base hn]
        exact hdigit n hn
      · have hpos : n / radix ≠ 0 := by
          rw [Nat.div_ne_zero_iff]
          omega
        rw [Nat.toDigits_of_base_le hone (by omega)]
        exact hmore n hpos (ih _ (Nat.div_lt_self (by omega) hone))

/-- Every printed character is a digit. -/
theorem isSome_toDigit_of_mem (n : Nat) :
    ∀ c ∈ Nat.toDigits radix n, (toDigit radix c).isSome := by
  refine toDigits_induction hone (P := fun _ digits => ∀ c ∈ digits, (toDigit radix c).isSome)
    (fun d hd => ?_) (fun n _ ih => ?_) n
  · simp [toDigit_digitChar hradix hd]
  · have hmod : n % radix < radix := Nat.mod_lt _ (by omega)
    intro c hc
    rcases List.mem_append.mp hc with hc | hc
    · exact ih c hc
    · simp [List.mem_singleton.mp hc, toDigit_digitChar hradix hmod]

/-- A character that is no digit is not printed. -/
theorem not_mem_toDigits {c : Char} (hc : toDigit radix c = none) (n : Nat) :
    c ∉ Nat.toDigits radix n := by
  intro hmem
  have hdigit := isSome_toDigit_of_mem hone hradix n c hmem
  rw [hc] at hdigit
  cases hdigit

/-- The printed digits have the value of the number. -/
theorem foldl_toDigits (n : Nat) :
    (Nat.toDigits radix n).foldl (fun acc c => acc * radix + (toDigit radix c).getD 0) 0 = n := by
  refine toDigits_induction hone (P := fun n digits =>
    digits.foldl (fun acc c => acc * radix + (toDigit radix c).getD 0) 0 = n)
    (fun d hd => ?_) (fun n _ ih => ?_) n
  · simp [toDigit_digitChar hradix hd]
  · have hmod : n % radix < radix := Nat.mod_lt _ (by omega)
    rw [List.foldl_append, ih]
    simp only [List.foldl_cons, List.foldl_nil, toDigit_digitChar hradix hmod, Option.getD_some]
    exact Nat.div_add_mod' n radix

omit hradix in
/-- Only zero is printed with a leading zero. -/
theorem head_toDigits {n : Nat} (hn : n ≠ 0) : (Nat.toDigits radix n).head? ≠ some '0' := by
  revert hn
  refine toDigits_induction hone (P := fun n digits => n ≠ 0 → digits.head? ≠ some '0')
    (fun d _ hd => ?_) (fun n hpos ih _ => ?_) n
  · simp [hd]
  · rw [List.head?_append_of_ne_nil _ Nat.toDigits_ne_nil]
    exact ih hpos

/-- A printed number that is within the limits is read back up to the first
character that is not a digit. -/
theorem readNumber_toDigits {maxDigits max n : Nat} {zero : Bool} (hmax : n ≤ max)
    (hpos : 0 < maxDigits) (hlen : n < radix ^ maxDigits)
    (hrest : ∀ c ∈ rest.head?, toDigit radix c = none) :
    readNumber radix maxDigits max zero (Nat.toDigits radix n ++ rest) = some (n, rest) := by
  have hdigits : (Nat.toDigits radix n ++ rest).takeWhile (fun c => (toDigit radix c).isSome)
      = Nat.toDigits radix n := by
    rw [List.takeWhile_append_of_pos (isSome_toDigit_of_mem hone hradix n)]
    cases rest with
    | nil => simp
    | cons c rest => simp [hrest c rfl]
  have hcount : (Nat.toDigits radix n).length ≤ maxDigits :=
    (Nat.length_toDigits_le_iff hone hpos).mpr hlen
  have hsome : (Nat.toDigits radix n).length ≠ 0 := by simp
  have hzero : ((Nat.toDigits radix n ++ rest).head? == some '0' &&
      decide (1 < (Nat.toDigits radix n).length)) = false := by
    by_cases hn : n = 0
    · simp [hn]
    · rw [List.head?_append_of_ne_nil _ Nat.toDigits_ne_nil]
      simp [head_toDigits hone hn]
  simp only [readNumber, hdigits, foldl_toDigits hone hradix]
  rw [if_neg (by omega), Bool.and_assoc, hzero, Bool.and_false, if_neg Bool.false_ne_true,
    if_neg (by omega), List.drop_left]

end Digits

variable {s : List Char}

/-- What a number reader leaves is a rest of its input. -/
theorem readNumber_rest {radix maxDigits max n : Nat} {zero : Bool}
    (h : readNumber radix maxDigits max zero s = some (n, rest)) : ∃ k, rest = s.drop k := by
  simp only [readNumber] at h
  split_ifs at h
  simp only [Option.some.injEq, Prod.mk.injEq] at h
  exact ⟨_, h.2.symm⟩

/-- A number needs a digit to start with. -/
theorem readNumber_cons {radix maxDigits max : Nat} {zero : Bool} {c : Char}
    (hc : toDigit radix c = none) : readNumber radix maxDigits max zero (c :: s) = none := by
  simp [readNumber, hc]

/-! ## IPv4 -/

/-- Print an IPv4 address: four decimal numbers separated by dots. -/
def Ipv4Addr.display (ip : Ipv4Addr) : List Char :=
  Nat.toDigits 10 ip.a.toNat ++ '.' :: (Nat.toDigits 10 ip.b.toNat ++ '.' ::
    (Nat.toDigits 10 ip.c.toNat ++ '.' :: Nat.toDigits 10 ip.d.toNat))

/-- Parse an IPv4 address.  The library first refuses texts of more than 15
bytes, which the reader never accepts. -/
def parseIpv4 : List Char → Option Ipv4Addr :=
  parseWith readIpv4Addr

theorem length_octet_le (n : UInt8) : (Nat.toDigits 10 n.toNat).length ≤ 3 := by
  have hn := n.toNat_lt
  exact (Nat.length_toDigits_le_iff (by decide) (by decide)).mpr (by omega)

/-- A printed IPv4 address is short. -/
theorem Ipv4Addr.length_display_le (ip : Ipv4Addr) : ip.display.length ≤ 15 := by
  have ha := length_octet_le ip.a
  have hb := length_octet_le ip.b
  have hc := length_octet_le ip.c
  have hd := length_octet_le ip.d
  simp only [display, List.length_append, List.length_cons]
  omega

theorem readNumber_octet (n : UInt8) (hrest : ∀ c ∈ rest.head?, toDigit 10 c = none) :
    readNumber 10 3 255 false (Nat.toDigits 10 n.toNat ++ rest) = some (n.toNat, rest) := by
  have hn := n.toNat_lt
  exact readNumber_toDigits (by decide) (by decide) (by omega) (by decide) (by omega) hrest

/-- A printed IPv4 address is read back up to the first character that is not a
digit. -/
theorem readIpv4Addr_display (ip : Ipv4Addr) (rest : List Char)
    (hrest : ∀ c ∈ rest.head?, toDigit 10 c = none) :
    readIpv4Addr (ip.display ++ rest) = some (ip, rest) := by
  have hdot : ∀ (s : List Char), ∀ c ∈ ('.' :: s).head?, toDigit 10 c = none := by
    intro s c hc
    cases hc
    decide
  simp [readIpv4Addr, Ipv4Addr.display, readSeparator, readNumber_octet _ (hdot _),
    readNumber_octet _ hrest]

theorem parseIpv4_display (ip : Ipv4Addr) : parseIpv4 ip.display = some ip := by
  have hread := readIpv4Addr_display ip [] (by simp)
  rw [List.append_nil] at hread
  simp only [parseIpv4, parseWith, hread]

/-- An IPv4 address is not read where there is no dot. -/
theorem readIpv4Addr_of_not_mem (hdot : '.' ∉ s) : readIpv4Addr s = none := by
  cases hread : readNumber 10 3 255 false s with
  | none => simp [readIpv4Addr, readSeparator, hread]
  | some got =>
      obtain ⟨n, rest⟩ := got
      obtain ⟨k, rfl⟩ := readNumber_rest hread
      have hnext : readSeparator '.' 1 (readNumber 10 3 255 false) (s.drop k) = none := by
        cases hdrop : s.drop k with
        | nil => rfl
        | cons c rest =>
            have hc : c ≠ '.' := by
              rintro rfl
              exact hdot (List.mem_of_mem_drop (hdrop ▸ List.mem_cons_self))
            simp [readSeparator, hc]
      simp [readIpv4Addr, readSeparator, hread] at hnext ⊢
      simp [hnext]

/-- An IPv4 address starts with a digit. -/
theorem readIpv4Addr_cons {c : Char} (hc : toDigit 10 c = none) : readIpv4Addr (c :: s) = none := by
  simp [readIpv4Addr, readSeparator, readNumber_cons hc]

/-! ## Big-endian pairs -/

/-- The two bytes of a number, high byte first. -/
def toBeBytes (n : UInt16) : List UInt8 :=
  [.ofNat (n.toNat / 256), .ofNat (n.toNat % 256)]

/-- The number of two bytes, high byte first. -/
def fromBeBytes (high low : UInt8) : UInt16 :=
  .ofNat (high.toNat * 256 + low.toNat)

@[simp]
theorem fromBeBytes_toBeBytes (n : UInt16) :
    fromBeBytes (.ofNat (n.toNat / 256)) (.ofNat (n.toNat % 256)) = n := by
  have hn := n.toNat_lt
  apply UInt16.toNat_inj.mp
  rw [fromBeBytes, UInt16.toNat_ofNat', UInt8.toNat_ofNat', UInt8.toNat_ofNat']
  omega

/-! ## IPv6 -/

/-- The IPv4 address a mapped address stands for. -/
def Ipv6Addr.toIpv4Mapped (ip : Ipv6Addr) : Option Ipv4Addr :=
  match ip.segments with
  | [s0, s1, s2, s3, s4, s5, ab, cd] =>
      if [s0, s1, s2, s3, s4, s5] = [0, 0, 0, 0, 0, 0xffff] then
        some ⟨.ofNat (ab.toNat / 256), .ofNat (ab.toNat % 256),
          .ofNat (cd.toNat / 256), .ofNat (cd.toNat % 256)⟩
      else none
  | _ => none

/-- A run of groups. -/
structure Span where
  start : Nat
  len : Nat
deriving DecidableEq, Repr

/-- The longest run of zero groups, the first one of several: one pass that
keeps the longest run so far and the run that is going on. -/
def longestZeros : Nat → Span → Span → List UInt16 → Span
  | _, longest, _, [] => longest
  | i, longest, current, segment :: segments =>
      if segment = 0 then
        let current : Span := ⟨if current.len = 0 then i else current.start, current.len + 1⟩
        longestZeros (i + 1) (if longest.len < current.len then current else longest) current
          segments
      else longestZeros (i + 1) longest ⟨0, 0⟩ segments

/-- Print a group in hexadecimal. -/
def displayGroup (segment : UInt16) : List Char :=
  Nat.toDigits 16 segment.toNat

/-- Print groups that follow another one. -/
def displayNext (segments : List UInt16) : List Char :=
  segments.flatMap fun segment => ':' :: displayGroup segment

/-- Print a part of an address. -/
def fmtSubslice : List UInt16 → List Char
  | [] => []
  | first :: segments => displayGroup first ++ displayNext segments

/-- Print an IPv6 address. -/
def Ipv6Addr.display (ip : Ipv6Addr) : List Char :=
  match ip.toIpv4Mapped with
  | some ipv4 => ':' :: ':' :: 'f' :: 'f' :: 'f' :: 'f' :: ':' :: ipv4.display
  | none =>
      let zeroes := longestZeros 0 ⟨0, 0⟩ ⟨0, 0⟩ ip.segments
      if 1 < zeroes.len then
        fmtSubslice (ip.segments.take zeroes.start) ++ ':' :: ':' ::
          fmtSubslice (ip.segments.drop (zeroes.start + zeroes.len))
      else fmtSubslice ip.segments

theorem length_displayGroup_le (segment : UInt16) : (displayGroup segment).length ≤ 4 := by
  have hn := segment.toNat_lt
  exact (Nat.length_toDigits_le_iff (by decide) (by decide)).mpr (by omega)

theorem length_displayNext_le (segments : List UInt16) :
    (displayNext segments).length ≤ 5 * segments.length := by
  induction segments with
  | nil => simp [displayNext]
  | cons segment segments ih =>
      have hgroup := length_displayGroup_le segment
      simp only [displayNext, List.flatMap_cons, List.length_append, List.length_cons] at ih ⊢
      omega

theorem length_fmtSubslice_le (segments : List UInt16) :
    (fmtSubslice segments).length ≤ 5 * segments.length := by
  cases segments with
  | nil => simp [fmtSubslice]
  | cons first segments =>
      have hgroup := length_displayGroup_le first
      have hnext := length_displayNext_le segments
      simp only [fmtSubslice, List.length_append, List.length_cons]
      omega

/-- A printed IPv6 address is short. -/
theorem Ipv6Addr.length_display_le (ip : Ipv6Addr) : ip.display.length ≤ 82 := by
  have hgroups := ip.segments_length
  unfold display
  split
  · next ipv4 _ =>
      have hipv4 := ipv4.length_display_le
      simp only [List.length_cons]
      omega
  · dsimp only
    split_ifs
    · have hhead := length_fmtSubslice_le
        (ip.segments.take (longestZeros 0 ⟨0, 0⟩ ⟨0, 0⟩ ip.segments).start)
      have htail := length_fmtSubslice_le (ip.segments.drop
        ((longestZeros 0 ⟨0, 0⟩ ⟨0, 0⟩ ip.segments).start +
          (longestZeros 0 ⟨0, 0⟩ ⟨0, 0⟩ ip.segments).len))
      simp only [List.length_append, List.length_cons, List.length_take, List.length_drop]
        at hhead htail ⊢
      omega
    · have hall := length_fmtSubslice_le ip.segments
      omega

/-- The span is a run of zeros in the groups. -/
def Span.Zeros (span : Span) (segments : List UInt16) : Prop :=
  ∃ head tail, segments = head ++ List.replicate span.len 0 ++ tail ∧ head.length = span.start

variable {segments : List UInt16}

theorem Span.Zeros.split {span : Span} (h : span.Zeros segments) :
    segments = segments.take span.start ++ List.replicate span.len 0 ++
      segments.drop (span.start + span.len) := by
  obtain ⟨head, tail, rfl, hstart⟩ := h
  have hlength : (head ++ List.replicate span.len 0).length = span.start + span.len := by
    simp [hstart]
  rw [List.drop_left' hlength, List.append_assoc head, List.take_left' hstart,
    List.append_assoc]

/-- The pass ends with a run of zeros: so is the longest one among the groups
passed so far, and the current one is at their end. -/
theorem longestZeros_zeros {passed segments : List UInt16} {longest current : Span}
    (hlongest : longest.Zeros passed)
    (hcurrent : current.len = 0 ∨
      ∃ head, passed = head ++ List.replicate current.len 0 ∧ head.length = current.start) :
    (longestZeros passed.length longest current segments).Zeros (passed ++ segments) := by
  induction segments generalizing passed longest current with
  | nil => simpa [longestZeros] using hlongest
  | cons segment segments ih =>
      obtain ⟨head, tail, hpassed, hstart⟩ := hlongest
      have hkept : longest.Zeros (passed ++ [segment]) :=
        ⟨head, tail ++ [segment], by simp [hpassed], hstart⟩
      have hsplit : passed ++ segment :: segments = (passed ++ [segment]) ++ segments := by simp
      have hlength : passed.length + 1 = (passed ++ [segment]).length := by simp
      simp only [longestZeros]
      rw [hsplit, hlength]
      by_cases hzero : segment = 0
      · subst hzero
        -- The current run grows by this group, or starts with it.
        have hgrown : ∃ head', passed ++ [0] = head' ++ List.replicate (current.len + 1) 0 ∧
            head'.length = if current.len = 0 then passed.length else current.start := by
          rcases hcurrent with hnone | ⟨head', hrun, hhead'⟩
          · exact ⟨passed, by simp [hnone], by simp [hnone]⟩
          · by_cases hnone : current.len = 0
            · exact ⟨passed, by simp [hnone], by simp [hnone]⟩
            · refine ⟨head', ?_, by simp [hnone, hhead']⟩
              rw [hrun, List.append_assoc, List.replicate_succ']
        rw [if_pos rfl]
        apply ih
        · split
          · obtain ⟨head', hrun, hhead'⟩ := hgrown
            exact ⟨head', [], by simpa using hrun, hhead'⟩
          · exact hkept
        · exact .inr hgrown
      · rw [if_neg hzero]
        exact ih hkept (.inl rfl)

/-- The end of a part of a printed address: nothing, or the elision. -/
def Closes (rest : List Char) : Prop :=
  rest = [] ∨ ∃ after, rest = ':' :: ':' :: after

theorem Closes.head (h : Closes rest) : ∀ c ∈ rest.head?, toDigit 16 c = none := by
  rcases h with rfl | ⟨after, rfl⟩
  · simp
  · intro c hc
    cases hc
    decide

theorem Closes.readSeparator (h : Closes rest) (index : Nat) :
    readSeparator ':' index (readNumber 16 4 65535 true) rest = none := by
  have hnil : readNumber 16 4 65535 true [] = none := rfl
  have hcolon : toDigit 16 ':' = none := by decide
  rcases h with rfl | ⟨after, rfl⟩ <;> by_cases hindex : index = 0 <;>
    simp [Net.readSeparator, hindex, hnil, readNumber_cons hcolon]

theorem readNumber_group (segment : UInt16) (hrest : ∀ c ∈ rest.head?, toDigit 16 c = none) :
    readNumber 16 4 65535 true (displayGroup segment ++ rest) = some (segment.toNat, rest) := by
  have hn := segment.toNat_lt
  exact readNumber_toDigits (by decide) (by decide) (by omega) (by decide) (by omega) hrest

/-- What follows a printed group is not a digit. -/
theorem head_displayNext (hrest : Closes rest) :
    ∀ c ∈ (displayNext segments ++ rest).head?, toDigit 16 c = none := by
  cases segments with
  | nil => exact hrest.head
  | cons segment segments =>
      intro c hc
      cases hc
      decide

theorem not_mem_displayGroup (segment : UInt16) : '.' ∉ displayGroup segment :=
  not_mem_toDigits (by decide) (by decide) (by decide) _

theorem not_mem_displayNext (segments : List UInt16) : '.' ∉ displayNext segments := by
  simp [displayNext, not_mem_displayGroup]

theorem not_mem_fmtSubslice (segments : List UInt16) : '.' ∉ fmtSubslice segments := by
  cases segments with
  | nil => simp [fmtSubslice]
  | cons segment segments =>
      simp [fmtSubslice, not_mem_displayGroup, not_mem_displayNext]

/-- Where there is no dot, no embedded IPv4 address is read. -/
theorem readSeparator_ipv4 (hdot : '.' ∉ s) (index : Nat) :
    readSeparator ':' index readIpv4Addr s = none := by
  by_cases hindex : index = 0
  · simp [readSeparator, hindex, readIpv4Addr_of_not_mem hdot]
  · cases s with
    | nil => simp [readSeparator, hindex]
    | cons c rest =>
        have hrest : '.' ∉ rest := fun h => hdot (List.mem_cons_of_mem c h)
        simp [readSeparator, hindex, readIpv4Addr_of_not_mem hrest]

/-- Groups after the first are read back; the reader stops at the end of the
part or when it has as many as it may. -/
theorem readGroups_displayNext {limit left : Nat} (hleft : left < limit)
    (hlen : segments.length ≤ left) (hrest : Closes rest) (hdot : '.' ∉ rest) :
    readGroups limit left (displayNext segments ++ rest) = (segments, false, rest) := by
  induction left generalizing segments with
  | zero =>
      have hnil : segments = [] := List.length_eq_zero_iff.mp (by omega)
      simp [hnil, readGroups, displayNext]
  | succ left ih =>
      have hindex : limit - (left + 1) ≠ 0 := by omega
      have hnodot : '.' ∉ displayNext segments ++ rest := by
        simp [not_mem_displayNext, hdot]
      simp only [readGroups, readSeparator_ipv4 hnodot, ite_self]
      cases segments with
      | nil => simp [displayNext, hrest.readSeparator]
      | cons segment segments =>
          have htail : segments.length ≤ left := by simpa using hlen
          have hread : readSeparator ':' (limit - (left + 1)) (readNumber 16 4 65535 true)
              (displayNext (segment :: segments) ++ rest)
              = some (segment.toNat, displayNext segments ++ rest) := by
            simp only [readSeparator, if_neg hindex, displayNext, List.flatMap_cons,
              List.cons_append, if_true, List.append_assoc]
            exact readNumber_group segment (head_displayNext hrest)
          simp [hread, ih (by omega) htail]

/-- A printed part is read back. -/
theorem readGroups_fmtSubslice {limit : Nat} (hlen : segments.length ≤ limit) (hrest : Closes rest)
    (hdot : '.' ∉ rest) :
    readGroups limit limit (fmtSubslice segments ++ rest) = (segments, false, rest) := by
  cases limit with
  | zero =>
      have hnil : segments = [] := List.length_eq_zero_iff.mp (by omega)
      simp [hnil, readGroups, fmtSubslice]
  | succ left =>
      have hnodot : '.' ∉ fmtSubslice segments ++ rest := by
        simp [not_mem_fmtSubslice, hdot]
      simp only [readGroups, readSeparator_ipv4 hnodot, ite_self, Nat.sub_self]
      cases segments with
      | nil => simp [fmtSubslice, hrest.readSeparator]
      | cons segment segments =>
          have htail : segments.length ≤ left := by simpa using hlen
          have hread : readSeparator ':' 0 (readNumber 16 4 65535 true)
              (fmtSubslice (segment :: segments) ++ rest)
              = some (segment.toNat, displayNext segments ++ rest) := by
            simp only [readSeparator, if_true, fmtSubslice, List.append_assoc]
            exact readNumber_group segment (head_displayNext hrest)
          simp [hread, readGroups_displayNext (Nat.lt_succ_self left) htail hrest hdot]

/-- An address printed in full is read back. -/
theorem readIpv6Addr_full (ip : Ipv6Addr) :
    readIpv6Addr (fmtSubslice ip.segments) = some (ip, []) := by
  have hread : readGroups 8 8 (fmtSubslice ip.segments ++ []) = (ip.segments, false, []) :=
    readGroups_fmtSubslice (by simp [ip.segments_length]) (.inl rfl) (by simp)
  rw [List.append_nil] at hread
  simp [readIpv6Addr, hread, ip.segments_length, joinGroups]

/-- An address printed around an elided run of at least two zero groups is read
back. -/
theorem readIpv6Addr_elided {ip : Ipv6Addr} {head tail : List UInt16} {len : Nat}
    (hsegments : ip.segments = head ++ List.replicate len 0 ++ tail) (hlen : 1 < len) :
    readIpv6Addr (fmtSubslice head ++ ':' :: ':' :: fmtSubslice tail) = some (ip, []) := by
  have hcount : head.length + len + tail.length = 8 := by
    have hlength := ip.segments_length
    rw [hsegments] at hlength
    simp only [List.length_append, List.length_replicate] at hlength
    omega
  have hhead : readGroups 8 8 (fmtSubslice head ++ ':' :: ':' :: fmtSubslice tail)
      = (head, false, ':' :: ':' :: fmtSubslice tail) :=
    readGroups_fmtSubslice (by omega) (.inr ⟨_, rfl⟩) (by simp [not_mem_fmtSubslice])
  have htail : readGroups (8 - (head.length + 1)) (8 - (head.length + 1))
      (fmtSubslice tail ++ []) = (tail, false, []) :=
    readGroups_fmtSubslice (by omega) (.inl rfl) (by simp)
  rw [List.append_nil] at htail
  have hpad : 8 - head.length - tail.length = len := by omega
  have hjoin : joinGroups head tail = some ip := by
    simp only [joinGroups, hpad, ← hsegments, ip.segments_length, dite_true]
  simp only [readIpv6Addr, hhead, if_neg (by omega : ¬head.length = 8), Bool.false_eq_true,
    if_false, htail, hjoin, Option.map_some]

/-- The groups after the elision of an IPv4-mapped address. -/
theorem readGroups_mapped (ipv4 : Ipv4Addr) :
    readGroups 7 7 ('f' :: 'f' :: 'f' :: 'f' :: ':' :: ipv4.display)
      = ([0xffff, fromBeBytes ipv4.a ipv4.b, fromBeBytes ipv4.c ipv4.d], true, []) := by
  have hgroup : readNumber 16 4 65535 true ('f' :: 'f' :: 'f' :: 'f' :: ':' :: ipv4.display)
      = some (0xffff, ':' :: ipv4.display) := by
    apply readNumber_group 0xffff
    intro c hc
    cases hc
    decide
  have hv4 : readIpv4Addr ipv4.display = some (ipv4, []) := by
    simpa using readIpv4Addr_display ipv4 [] (by simp)
  have hnone : readIpv4Addr ('f' :: 'f' :: 'f' :: 'f' :: ':' :: ipv4.display) = none :=
    readIpv4Addr_cons (by decide)
  simp [readGroups, readSeparator, hnone, hgroup, hv4, fromBeBytes]

/-- An IPv4-mapped address is read back. -/
theorem readIpv6Addr_mapped {ip : Ipv6Addr} {ipv4 : Ipv4Addr}
    (hmapped : ip.toIpv4Mapped = some ipv4) :
    readIpv6Addr (':' :: ':' :: 'f' :: 'f' :: 'f' :: 'f' :: ':' :: ipv4.display)
      = some (ip, []) := by
  obtain ⟨segments, hlength⟩ := ip
  match segments, hlength with
  | [s0, s1, s2, s3, s4, s5, ab, cd], hlength =>
      simp only [Ipv6Addr.toIpv4Mapped] at hmapped
      split_ifs at hmapped with hzeros
      simp only [List.cons.injEq, and_true] at hzeros
      obtain ⟨rfl, rfl, rfl, rfl, rfl, rfl⟩ := hzeros
      cases hmapped
      have hhead : ∀ after, readGroups 8 8 (':' :: ':' :: after)
          = ([], false, ':' :: ':' :: after) := by
        intro after
        have hnumber : readNumber 16 4 65535 true (':' :: ':' :: after) = none :=
          readNumber_cons (by decide)
        have hipv4 : readIpv4Addr (':' :: ':' :: after) = none := readIpv4Addr_cons (by decide)
        simp [readGroups, readSeparator, hnumber, hipv4]
      simp [readIpv6Addr, hhead, readGroups_mapped, joinGroups]

/-- Printing an IPv6 address and parsing it gives the address back. -/
theorem parseIpv6_display (ip : Ipv6Addr) : parseIpv6 ip.display = some ip := by
  have hread : readIpv6Addr ip.display = some (ip, []) := by
    cases hmapped : ip.toIpv4Mapped with
    | some ipv4 => simpa [Ipv6Addr.display, hmapped] using readIpv6Addr_mapped hmapped
    | none =>
        have hzeros : (longestZeros 0 ⟨0, 0⟩ ⟨0, 0⟩ ip.segments).Zeros ([] ++ ip.segments) :=
          longestZeros_zeros ⟨[], [], rfl, rfl⟩ (.inl rfl)
        simp only [Ipv6Addr.display, hmapped]
        split
        · next hlen => exact readIpv6Addr_elided hzeros.split hlen
        · exact readIpv6Addr_full ip
  simp only [parseIpv6, parseWith, hread]

/-- A text that starts with an IPv4 address is no IPv6 address: read as the last
two groups, it leaves no room for an elision. -/
theorem readIpv6Addr_of_ipv4 {r : Ipv4Addr × List Char} (h : readIpv4Addr s = some r) :
    readIpv6Addr s = none := by
  simp [readIpv6Addr, readGroups, readSeparator, h]

theorem readIpv4Addr_of_ipv6 {ip : Ipv6Addr} (h : parseIpv6 s = some ip) :
    readIpv4Addr s = none := by
  cases hread : readIpv4Addr s with
  | none => rfl
  | some r => simp [parseIpv6, parseWith, readIpv6Addr_of_ipv4 hread] at h

/-- No printed IPv6 address is read as an IPv4 address. -/
theorem parseIpv4_display_v6 (ip : Ipv6Addr) : parseIpv4 ip.display = none := by
  simp only [parseIpv4, parseWith, readIpv4Addr_of_ipv6 (parseIpv6_display ip)]

/-! ## Octets -/

/-- The octets of an IPv4 address. -/
def Ipv4Addr.octets (ip : Ipv4Addr) : List UInt8 :=
  [ip.a, ip.b, ip.c, ip.d]

/-- The octets of an IPv6 address, each group high byte first. -/
def Ipv6Addr.octets (ip : Ipv6Addr) : List UInt8 :=
  ip.segments.flatMap toBeBytes

/-- The IPv6 address of sixteen octets. -/
def Ipv6Addr.fromOctets (octets : List UInt8) : Ipv6Addr where
  segments := (List.range 8).map fun i =>
    fromBeBytes (octets.getD (2 * i) 0) (octets.getD (2 * i + 1) 0)
  segments_length := by simp

/-- An address has eight groups. -/
theorem Ipv6Addr.exists_groups (ip : Ipv6Addr) :
    ∃ s0 s1 s2 s3 s4 s5 s6 s7, ip.segments = [s0, s1, s2, s3, s4, s5, s6, s7] := by
  obtain ⟨segments, hlength⟩ := ip
  match segments, hlength with
  | [s0, s1, s2, s3, s4, s5, s6, s7], _ => exact ⟨s0, s1, s2, s3, s4, s5, s6, s7, rfl⟩

@[simp]
theorem Ipv6Addr.length_octets (ip : Ipv6Addr) : ip.octets.length = 16 := by
  obtain ⟨s0, s1, s2, s3, s4, s5, s6, s7, hsegments⟩ := ip.exists_groups
  simp [octets, hsegments, toBeBytes]

@[simp]
theorem Ipv6Addr.fromOctets_octets (ip : Ipv6Addr) : fromOctets ip.octets = ip := by
  obtain ⟨s0, s1, s2, s3, s4, s5, s6, s7, hsegments⟩ := ip.exists_groups
  have hgroups : (fromOctets ip.octets).segments = ip.segments := by
    simp [octets, fromOctets, hsegments, toBeBytes, List.range_succ]
  cases ip
  simp_all [fromOctets]

end Net
