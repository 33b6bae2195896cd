import Rusnel.Foundation.ByteStream

/-!
# MessagePack items

Numbers and strings in MessagePack, and the lengths of arrays.  All three start
with a number in one of a few widths: a small one is part of the first byte, a
wider one follows a marker byte in big-endian order.  The writer takes the first
width that fits; the reader goes by the marker.

Main results:

- Theorem {lit}`Header.read_write`: a number is read back in front of any rest.
- Theorem {lit}`readStr_writeStr`: so is a string.
-/

namespace MessagePack

open ByteStream

/-- How one kind of item writes its leading number: numbers below {lit}`small`
are added to the byte {lit}`base`, others follow a marker in its width. -/
structure Header where
  base : Nat
  small : Nat
  wide : List (UInt8 × Nat)
  base_add_small : base + small ≤ 256
  /-- No marker is taken for a small number. -/
  apart : ∀ w ∈ wide, ¬(base ≤ w.1.toNat ∧ w.1.toNat < base + small)
  distinct : ∀ w ∈ wide, ∀ w' ∈ wide, w.1 = w'.1 → w = w'

namespace Header

/-- Write a number in the first width that holds it. -/
def write (h : Header) (n : Nat) : List UInt8 :=
  if n < h.small then [UInt8.ofNat (h.base + n)]
  else
    match h.wide.find? fun w => decide (n < 256 ^ w.2) with
    | some (marker, width) => marker :: (toLeBytes width n).reverse
    | none => []

/-- Read a number by its first byte. -/
def read (h : Header) : List UInt8 → Option (Nat × List UInt8)
  | [] => none
  | marker :: rest =>
      if h.base ≤ marker.toNat ∧ marker.toNat < h.base + h.small then
        some (marker.toNat - h.base, rest)
      else
        match h.wide.find? fun w => w.1 == marker with
        | none => none
        | some (_, width) =>
            match readExact width rest with
            | .error _ => none
            | .ok (bytes, rest) => some (fromLeBytes bytes.reverse, rest)

/-- Some width holds the number. -/
def Fits (h : Header) (n : Nat) : Prop :=
  n < h.small ∨ ∃ w ∈ h.wide, n < 256 ^ w.2

/-- The reader finds the width of a marker. -/
theorem find_marker (h : Header) {marker : UInt8} {width : Nat}
    (hw : (marker, width) ∈ h.wide) :
    (h.wide.find? fun w => w.1 == marker) = some (marker, width) := by
  cases hfind : h.wide.find? fun w => w.1 == marker with
  | none =>
      have hnone := List.find?_eq_none.mp hfind _ hw
      simp at hnone
  | some found =>
      have hmem := List.mem_of_find?_eq_some hfind
      have hmarker := List.find?_some hfind
      rw [h.distinct found hmem _ hw (by simpa using hmarker)]

/-- The writer finds a width for a number that fits. -/
theorem find_width (h : Header) {n : Nat} (hfits : h.Fits n) (hlarge : ¬n < h.small) :
    ∃ marker width, (h.wide.find? fun w => decide (n < 256 ^ w.2)) = some (marker, width) ∧
      (marker, width) ∈ h.wide ∧ n < 256 ^ width := by
  obtain ⟨w, hw, hlt⟩ := hfits.resolve_left hlarge
  cases hfind : h.wide.find? fun w => decide (n < 256 ^ w.2) with
  | none =>
      have hnone := List.find?_eq_none.mp hfind w hw
      exact absurd hlt (by simpa using hnone)
  | some found =>
      exact ⟨found.1, found.2, rfl, List.mem_of_find?_eq_some hfind,
        by simpa using List.find?_some hfind⟩

/-- A number that fits is read back in front of any rest. -/
theorem read_write (h : Header) {n : Nat} (hfits : h.Fits n) (rest : List UInt8) :
    h.read (h.write n ++ rest) = some (n, rest) := by
  by_cases hsmall : n < h.small
  · have hbyte : (UInt8.ofNat (h.base + n)).toNat = h.base + n := by
      have hbase := h.base_add_small
      rw [UInt8.toNat_ofNat', Nat.mod_eq_of_lt (by omega)]
    have hrange : h.base ≤ h.base + n ∧ h.base + n < h.base + h.small := by omega
    simp only [write, if_pos hsmall, List.cons_append, List.nil_append, read, hbyte,
      if_pos hrange, Nat.add_sub_cancel_left]
  · obtain ⟨marker, width, hfind, hmem, hwidth⟩ := h.find_width hfits hsmall
    simp only [write, if_neg hsmall, hfind, List.cons_append, read,
      if_neg (h.apart _ hmem), h.find_marker hmem]
    rw [readExact_append (by simp)]
    simp only [List.reverse_reverse, fromLeBytes_toLeBytes hwidth]

end Header

/-- Unsigned integers. -/
def uint : Header where
  base := 0x00
  small := 128
  wide := [(0xcc, 1), (0xcd, 2), (0xce, 4), (0xcf, 8)]
  base_add_small := by decide
  apart := by decide
  distinct := by decide

/-- Lengths of strings, in bytes. -/
def strLen : Header where
  base := 0xa0
  small := 32
  wide := [(0xd9, 1), (0xda, 2), (0xdb, 4)]
  base_add_small := by decide
  apart := by decide
  distinct := by decide

/-- Lengths of arrays, in items. -/
def arrayLen : Header where
  base := 0x90
  small := 16
  wide := [(0xdc, 2), (0xdd, 4)]
  base_add_small := by decide
  apart := by decide
  distinct := by decide

theorem uint_fits (n : UInt64) : uint.Fits n.toNat :=
  .inr ⟨(0xcf, 8), by decide, n.toNat_lt⟩

theorem strLen_fits {n : Nat} (h : n < 2 ^ 32) : strLen.Fits n :=
  .inr ⟨(0xdb, 4), by decide, h⟩

theorem arrayLen_fits {n : Nat} (h : n < 2 ^ 32) : arrayLen.Fits n :=
  .inr ⟨(0xdd, 4), by decide, h⟩

/-! ## Strings -/

/-- The UTF-8 bytes of a text. -/
def utf8 (s : String) : List UInt8 :=
  s.toByteArray.data.toList

theorem utf8_ofList (chars : List Char) :
    utf8 (String.ofList chars) = chars.flatMap String.utf8EncodeChar := by
  simp [utf8, List.utf8Encode]

/-- Write a text behind its length. -/
def writeStr (s : String) : List UInt8 :=
  strLen.write (utf8 s).length ++ utf8 s

/-- Read a text; its bytes must be valid UTF-8. -/
def readStr (input : List UInt8) : Option (String × List UInt8) :=
  match strLen.read input with
  | none => none
  | some (len, rest) =>
      match readExact len rest with
      | .error _ => none
      | .ok (bytes, rest) => (String.fromUTF8? ⟨bytes.toArray⟩).map (·, rest)

theorem fromUTF8_utf8 (s : String) : String.fromUTF8? ⟨(utf8 s).toArray⟩ = some s := by
  have hbytes : (⟨(utf8 s).toArray⟩ : ByteArray) = s.toByteArray := by
    simp [utf8]
  rw [hbytes, String.fromUTF8?, dif_pos s.isValidUTF8]
  rfl

/-- A text is read back in front of any rest. -/
theorem readStr_writeStr {s : String} (h : (utf8 s).length < 2 ^ 32) (rest : List UInt8) :
    readStr (writeStr s ++ rest) = some (s, rest) := by
  simp only [readStr, writeStr, List.append_assoc, strLen.read_write (strLen_fits h)]
  rw [readExact_append rfl]
  simp only [fromUTF8_utf8, Option.map_some]

end MessagePack
