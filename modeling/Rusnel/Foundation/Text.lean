import Mathlib.Data.List.Basic

/-!
# Text with byte offsets

A text is its list of characters; offsets count the bytes of its UTF-8
encoding.  Slicing at an offset that is out of range or inside a character is
an abort, never a value, so a program that only slices at good offsets can be
told apart from one that does not.
-/

namespace Text

/-- How a fallible text function can go wrong: it returns an error with a
message, or it aborts. -/
inductive Failure where
  | err (message : String)
  | abort
deriving DecidableEq, Repr

/-- A sequence that succeeds has a first part that does. -/
theorem bind_eq_ok {ε α β : Type} {x : Except ε α} {f : α → Except ε β} {b : β}
    (h : (x >>= f) = .ok b) : ∃ a, x = .ok a ∧ f a = .ok b := by
  cases x with
  | error e => cases h
  | ok a => exact ⟨a, rfl, h⟩

/-- The UTF-8 bytes of a text. -/
def asBytes (s : List Char) : List UInt8 :=
  s.flatMap String.utf8EncodeChar

/-- A multi-byte character under way: how many bytes are to come, the range the
next one must be in, and the value so far. -/
structure Pending where
  left : Nat
  low : UInt8
  high : UInt8
  value : Nat

/-- The replacement character. -/
def replacement : Char := Char.ofNat 0xfffd

/-- What a byte starts: a character of its own, a longer one, or nothing valid.
The ranges of the second byte exclude overlong forms and surrogates. -/
def lossyStart (byte : UInt8) : List Char × Option Pending :=
  if byte < 0x80 then ([Char.ofNat byte.toNat], none)
  else if byte < 0xc2 then ([replacement], none)
  else if byte < 0xe0 then ([], some ⟨1, 0x80, 0xbf, byte.toNat % 32⟩)
  else if byte < 0xf0 then
    ([], some ⟨2, if byte = 0xe0 then 0xa0 else 0x80, if byte = 0xed then 0x9f else 0xbf,
      byte.toNat % 16⟩)
  else if byte < 0xf5 then
    ([], some ⟨3, if byte = 0xf0 then 0x90 else 0x80, if byte = 0xf4 then 0x8f else 0xbf,
      byte.toNat % 8⟩)
  else ([replacement], none)

/-- One byte of a lossy decoding.  A byte that does not continue the character
under way replaces it and starts anew. -/
def lossyStep (pending : Option Pending) (byte : UInt8) : List Char × Option Pending :=
  match pending with
  | none => lossyStart byte
  | some p =>
      if p.low ≤ byte ∧ byte ≤ p.high then
        let value := p.value * 64 + byte.toNat % 64
        if p.left = 1 then ([Char.ofNat value], none)
        else ([], some ⟨p.left - 1, 0x80, 0xbf, value⟩)
      else
        let (chars, pending) := lossyStart byte
        (replacement :: chars, pending)

/-- Decode UTF-8, replacing what is not valid. -/
def fromUtf8Lossy : Option Pending → List UInt8 → List Char
  | none, [] => []
  | some _, [] => [replacement]
  | pending, byte :: bytes =>
      let (chars, pending) := lossyStep pending byte
      chars ++ fromUtf8Lossy pending bytes

/-- Drop exactly `n` bytes; `none` when `n` is not a character boundary. -/
def dropBytes : Nat → List Char → Option (List Char)
  | 0, s => some s
  | _ + 1, [] => none
  | n + 1, c :: s => if c.utf8Size ≤ n + 1 then dropBytes (n + 1 - c.utf8Size) s else none

/-- Keep exactly `n` bytes; `none` when `n` is not a character boundary. -/
def takeBytes : Nat → List Char → Option (List Char)
  | 0, _ => some []
  | _ + 1, [] => none
  | n + 1, c :: s =>
      if c.utf8Size ≤ n + 1 then (takeBytes (n + 1 - c.utf8Size) s).map (c :: ·) else none

/-- The slice of bytes `i` up to, not including, `j`. -/
def slice (s : List Char) (i j : Nat) : Except Failure (List Char) :=
  match (if i ≤ j then (dropBytes i s).bind (takeBytes (j - i)) else none) with
  | some part => .ok part
  | none => .error .abort

/-- Value of an ASCII digit in a radix of at most 36. -/
def toDigit (radix : Nat) (c : Char) : Option Nat :=
  let value :=
    if '0' ≤ c ∧ c ≤ '9' then some (c.toNat - '0'.toNat)
    else if 'a' ≤ c ∧ c ≤ 'z' then some (c.toNat - 'a'.toNat + 10)
    else if 'A' ≤ c ∧ c ≤ 'Z' then some (c.toNat - 'A'.toNat + 10)
    else none
  value.filter (· < radix)

/-- Accumulate decimal digits, failing on any other character and as soon as
the value passes `max`. -/
def decimalDigits (max : Nat) : Nat → List Char → Option Nat
  | acc, [] => some acc
  | acc, c :: s =>
      match toDigit 10 c with
      | none => none
      | some d => if acc * 10 + d ≤ max then decimalDigits max (acc * 10 + d) s else none

/-- Parse an unsigned decimal number of value at most `max`: an optional plus
sign, then at least one digit; leading zeros are accepted. -/
def parseUnsigned (max : Nat) (s : List Char) : Option Nat :=
  let digits := match s with
    | '+' :: rest => rest
    | _ => s
  if digits = [] then none else decimalDigits max 0 digits

/-- Parse a `u16`. -/
def parseU16 (s : List Char) : Option UInt16 :=
  (parseUnsigned 65535 s).map UInt16.ofNat

/-- Accumulate digits of a radix, with the message of the error that stops it. -/
def radixDigits (radix max : Nat) : Nat → List Char → Except String Nat
  | acc, [] => .ok acc
  | acc, c :: s =>
      match toDigit radix c with
      | none => .error "invalid digit found in string"
      | some d =>
          if acc * radix + d ≤ max then radixDigits radix max (acc * radix + d) s
          else .error "number too large to fit in target type"

/-- Parse an unsigned number of value at most `max` in a radix of at most 36: an
optional plus sign, then at least one digit. -/
def fromStrRadix (radix max : Nat) (s : List Char) : Except String Nat :=
  match s with
  | [] => .error "cannot parse integer from empty string"
  | ['+'] | ['-'] => .error "invalid digit found in string"
  | '+' :: rest => radixDigits radix max 0 rest
  | _ => radixDigits radix max 0 s

/-- A byte as {lit}`:02x` formats it. -/
def lowerHex (b : UInt8) : List Char :=
  [(b.toNat / 16).digitChar, (b.toNat % 16).digitChar]

/-- A character with the Unicode property `White_Space`. -/
def isWhitespace (c : Char) : Bool :=
  let n := c.toNat
  (0x9 ≤ n && n ≤ 0xd) || n == 0x20 || n == 0x85 || n == 0xa0 || n == 0x1680 ||
    (0x2000 ≤ n && n ≤ 0x200a) || n == 0x2028 || n == 0x2029 || n == 0x202f || n == 0x205f ||
    n == 0x3000

/-- Drop the whitespace at both ends. -/
def trim (s : List Char) : List Char :=
  ((s.dropWhile isWhitespace).reverse.dropWhile isWhitespace).reverse

/-- The text after a given start. -/
def stripStart : List Char → List Char → Option (List Char)
  | [], s => some s
  | _ :: _, [] => none
  | p :: start, c :: s => if p = c then stripStart start s else none

/-- The text occurs in another one. -/
def occursIn (text : List Char) : List Char → Bool
  | [] => text.isEmpty
  | c :: s => (stripStart text (c :: s)).isSome || occursIn text s

/-- Split at the first occurrence of `sep`, which is dropped. -/
def splitOnce (sep : Char) : List Char → Option (List Char × List Char)
  | [] => none
  | c :: rest =>
      if c = sep then some ([], rest)
      else (splitOnce sep rest).map fun parts => (c :: parts.1, parts.2)

/-- Split at the last occurrence of `sep`, which is dropped. -/
def rsplitOnce (sep : Char) (s : List Char) : Option (List Char × List Char) :=
  match s with
  | [] => none
  | c :: rest =>
      match rsplitOnce sep rest with
      | some (head, tail) => some (c :: head, tail)
      | none => if c = sep then some ([], rest) else none

/-- The first separator is the one no other precedes. -/
theorem splitOnce_append {sep : Char} {s : List Char} (hs : sep ∉ s) (t : List Char) :
    splitOnce sep (s ++ sep :: t) = some (s, t) := by
  induction s with
  | nil => simp [splitOnce]
  | cons c s ih =>
      rw [List.mem_cons, not_or] at hs
      simp [splitOnce, Ne.symm hs.1, ih hs.2]

theorem rsplitOnce_eq_none {sep : Char} {s : List Char} (hs : sep ∉ s) :
    rsplitOnce sep s = none := by
  induction s with
  | nil => rfl
  | cons c s ih =>
      rw [List.mem_cons, not_or] at hs
      simp [rsplitOnce, ih hs.2, Ne.symm hs.1]

/-- The last separator is the one no other follows. -/
theorem rsplitOnce_append {sep : Char} (s : List Char) {t : List Char} (ht : sep ∉ t) :
    rsplitOnce sep (s ++ sep :: t) = some (s, t) := by
  induction s with
  | nil => simp [rsplitOnce, rsplitOnce_eq_none ht]
  | cons c s ih => simp [rsplitOnce, ih]

/-- A text splits at its last separator in one way only. -/
theorem append_sep_inj {sep : Char} {s s' t t' : List Char} (ht : sep ∉ t) (ht' : sep ∉ t')
    (h : s ++ sep :: t = s' ++ sep :: t') : s = s' ∧ t = t' := by
  have hsplit := rsplitOnce_append s ht
  rw [h, rsplitOnce_append s' ht'] at hsplit
  exact (Prod.mk.inj (Option.some.inj hsplit)).imp Eq.symm Eq.symm

/-! ## Trimming and stripping -/

theorem dropWhile_append {p : Char → Bool} {s t : List Char} (hs : ∀ c ∈ s, p c = true)
    (ht : ∀ c ∈ t.head?, p c = false) : (s ++ t).dropWhile p = t := by
  induction s with
  | nil =>
      cases t with
      | nil => rfl
      | cons c t => simp [ht c rfl]
  | cons c s ih =>
      obtain ⟨hc, hs⟩ := List.forall_mem_cons.mp hs
      rw [List.cons_append, List.dropWhile_cons_of_pos hc, ih hs]

/-- Whitespace around a text without whitespace at its ends is dropped. -/
theorem trim_append {before s after : List Char} (hbefore : ∀ c ∈ before, isWhitespace c = true)
    (hafter : ∀ c ∈ after, isWhitespace c = true) (hne : s ≠ [])
    (hs : ∀ c ∈ s, isWhitespace c = false) : trim (before ++ (s ++ after)) = s := by
  have hhead : ∀ c ∈ (s ++ after).head?, isWhitespace c = false := by
    intro c hc
    rw [List.head?_append_of_ne_nil _ hne] at hc
    exact hs c (List.mem_of_head? hc)
  have hback : ∀ c ∈ s.reverse.head?, isWhitespace c = false := by
    intro c hc
    exact hs c (List.mem_reverse.mp (List.mem_of_head? hc))
  have hreverse : ∀ c ∈ after.reverse, isWhitespace c = true := fun c hc =>
    hafter c (List.mem_reverse.mp hc)
  rw [trim, dropWhile_append hbefore hhead, List.reverse_append,
    dropWhile_append hreverse hback, List.reverse_reverse]

theorem stripStart_append (start s : List Char) : stripStart start (start ++ s) = some s := by
  induction start with
  | nil => rfl
  | cons c start ih => simp [stripStart, ih]

theorem stripStart_of_head_ne {c : Char} {start s : List Char} (hhead : s.head? ≠ some c) :
    stripStart (c :: start) s = none := by
  cases s with
  | nil => rfl
  | cons d s =>
      have hne : c ≠ d := fun heq => hhead (by rw [heq]; rfl)
      rw [stripStart, if_neg hne]

end Text
