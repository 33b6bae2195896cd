import Mathlib.Data.UInt
import Mathlib.Data.List.Basic

/-!
# JSON values

A JSON value and the readers of the types that records are made of.  A record is
read from an object by the names of its fields, in any order and with others
beside them, or from an array of exactly as many items.  Why a value is refused
is not told.

Main results:

- Theorem {lit}`arrayOf_map`: a list whose items are read back is read back.
-/

namespace Json

/-- A number: a natural number, a negative one, or the bits of a float. -/
inductive Number where
  | posInt (n : UInt64)
  | negInt (n : Int64)
  | float (bits : UInt64)
deriving DecidableEq, Repr

/-- A value.  The names of an object's members are told apart by the first. -/
inductive Value where
  | null
  | bool (b : Bool)
  | number (n : Number)
  | string (s : String)
  | array (items : List Value)
  | object (members : List (String × Value))

/-! ## Writers -/

/-- A 64-bit number. -/
def ofU64 (n : UInt64) : Value :=
  .number (.posInt n)

/-- A text that may be missing. -/
def ofOption : Option String → Value
  | none => .null
  | some s => .string s

/-! ## Readers -/

/-- Read a 64-bit number. -/
def u64 : Value → Option UInt64
  | .number (.posInt n) => some n
  | _ => none

/-- Read a text. -/
def text : Value → Option String
  | .string s => some s
  | _ => none

/-- Read a text that may be missing. -/
def optionalText : Value → Option (Option String)
  | .null => some none
  | v => (text v).map some

/-- Read a list. -/
def arrayOf {α : Type} (read : Value → Option α) : Value → Option (List α)
  | .array items => items.mapM read
  | _ => none

/-- The fields of a record, in the order of their names.  A member that an object
does not have reads as null. -/
def fields (names : List String) : Value → Option (List Value)
  | .object members => some (names.map fun name => (members.lookup name).getD .null)
  | .array items => if items.length = names.length then some items else none
  | _ => none

/-- A list whose items are read back is read back. -/
theorem arrayOf_map {α β : Type} {read : Value → Option β} {write : α → Value} {f : α → β}
    (h : ∀ a, read (write a) = some (f a)) (items : List α) :
    arrayOf read (.array (items.map write)) = some (items.map f) := by
  induction items with
  | nil => rfl
  | cons a items ih =>
      rw [arrayOf] at ih ⊢
      rw [List.map_cons, List.mapM_cons, h, ih]
      rfl

end Json
