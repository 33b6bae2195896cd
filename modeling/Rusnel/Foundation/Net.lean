import Rusnel.Foundation.Text

/-!
# Internet addresses

The address types of the standard library and the parsers behind their text
forms.  A parser returns the value and the unread rest; on failure nothing has
been read.  The IPv6 parser follows the library's: up to eight groups, at most
one run of elided groups, and an IPv4 tail in the last two groups.
-/

namespace Net

open Text

/-- An IPv4 address by its four octets. -/
structure Ipv4Addr where
  a : UInt8
  b : UInt8
  c : UInt8
  d : UInt8
deriving DecidableEq, Repr

/-- An IPv6 address by its eight groups. -/
structure Ipv6Addr where
  segments : List UInt16
  segments_length : segments.length = 8
deriving DecidableEq, Repr

/-- An address of either family. -/
inductive IpAddr where
  | v4 (ip : Ipv4Addr)
  | v6 (ip : Ipv6Addr)
deriving DecidableEq, Repr

/-- An address with a port, as a socket is bound to or connected to.  The IPv6
form also carries a flow label and a scope. -/
inductive SocketAddr where
  | v4 (ip : Ipv4Addr) (port : UInt16)
  | v6 (ip : Ipv6Addr) (port : UInt16) (flowinfo scopeId : UInt32)
deriving DecidableEq, Repr

/-- Pair an address with a port; the IPv6 extras are zero. -/
def SocketAddr.new (ip : IpAddr) (port : UInt16) : SocketAddr :=
  match ip with
  | .v4 ip => .v4 ip port
  | .v6 ip => .v6 ip port 0 0

/-- The port of a socket address. -/
def SocketAddr.port : SocketAddr → UInt16
  | .v4 _ port => port
  | .v6 _ port _ _ => port

/-- The address of a socket address. -/
def SocketAddr.ip : SocketAddr → IpAddr
  | .v4 ip _ => .v4 ip
  | .v6 ip _ _ _ => .v6 ip

/-- The wildcard address `0.0.0.0`. -/
def Ipv4Addr.unspecified : Ipv4Addr := ⟨0, 0, 0, 0⟩

/-- The loopback address `127.0.0.1`. -/
def Ipv4Addr.localhost : Ipv4Addr := ⟨127, 0, 0, 1⟩

/-- The wildcard address `::`. -/
def Ipv6Addr.unspecified : Ipv6Addr := ⟨[0, 0, 0, 0, 0, 0, 0, 0], rfl⟩

/-- The loopback address `::1`. -/
def Ipv6Addr.localhost : Ipv6Addr := ⟨[0, 0, 0, 0, 0, 0, 0, 1], rfl⟩

/-- The address stands for every local one. -/
def IpAddr.isUnspecified : IpAddr → Bool
  | .v4 ip => ip == .unspecified
  | .v6 ip => ip == .unspecified

/-! ## Parsers -/

/-- Read a run of digits as a number: between one and `maxDigits` digits, no
superfluous leading zero unless allowed, and a value of at most `max`. -/
def readNumber (radix maxDigits max : Nat) (allowZeroPrefix : Bool) (s : List Char) :
    Option (Nat × List Char) :=
  let digits := s.takeWhile fun c => (toDigit radix c).isSome
  let value := digits.foldl (fun acc c => acc * radix + (toDigit radix c).getD 0) 0
  if digits.length = 0 ∨ maxDigits < digits.length then none
  else if !allowZeroPrefix && s.head? == some '0' && decide (1 < digits.length) then none
  else if max < value then none
  else some (value, s.drop digits.length)

/-- Read an item, preceded by the separator unless it is the first one. -/
def readSeparator {α : Type} (sep : Char) (index : Nat)
    (inner : List Char → Option (α × List Char)) (s : List Char) :
    Option (α × List Char) :=
  if index = 0 then inner s
  else
    match s with
    | c :: rest => if c = sep then inner rest else none
    | [] => none

/-- Read four decimal octets separated by dots. -/
def readIpv4Addr (s : List Char) : Option (Ipv4Addr × List Char) := do
  let octet := readNumber 10 3 255 false
  let (a, s) ← readSeparator '.' 0 octet s
  let (b, s) ← readSeparator '.' 1 octet s
  let (c, s) ← readSeparator '.' 2 octet s
  let (d, s) ← readSeparator '.' 3 octet s
  pure (⟨.ofNat a, .ofNat b, .ofNat c, .ofNat d⟩, s)

/-- Read up to `limit` colon-separated groups, the first argument of the
recursion being how many are left.  The flag tells whether the last two groups
came from an embedded IPv4 address. -/
def readGroups (limit : Nat) : Nat → List Char → List UInt16 × Bool × List Char
  | 0, s => ([], false, s)
  | left + 1, s =>
      let index := limit - (left + 1)
      let embedded :=
        if index < limit - 1 then readSeparator ':' index readIpv4Addr s else none
      match embedded with
      | some (ip, rest) =>
          ([.ofNat (ip.a.toNat * 256 + ip.b.toNat), .ofNat (ip.c.toNat * 256 + ip.d.toNat)],
            true, rest)
      | none =>
          match readSeparator ':' index (readNumber 16 4 65535 true) s with
          | some (group, rest) =>
              let (groups, v4, rest) := readGroups limit left rest
              (.ofNat group :: groups, v4, rest)
          | none => ([], false, s)

/-- Pad a head and a tail of groups with zeros in between. -/
def joinGroups (head tail : List UInt16) : Option Ipv6Addr :=
  let segments := head ++ List.replicate (8 - head.length - tail.length) 0 ++ tail
  if h : segments.length = 8 then some ⟨segments, h⟩ else none

/-- Read an IPv6 address: eight groups, or fewer around one `::`. -/
def readIpv6Addr (s : List Char) : Option (Ipv6Addr × List Char) :=
  let (head, headV4, s) := readGroups 8 8 s
  if head.length = 8 then (joinGroups head []).map (·, s)
  else if headV4 then none
  else
    match s with
    | ':' :: ':' :: s =>
        let limit := 8 - (head.length + 1)
        let (tail, _, s) := readGroups limit limit s
        (joinGroups head tail).map (·, s)
    | _ => none

/-- A text form must be read to its end. -/
def parseWith {α : Type} (inner : List Char → Option (α × List Char)) (s : List Char) :
    Option α :=
  match inner s with
  | some (value, []) => some value
  | _ => none

/-- Parse an IPv6 address. -/
def parseIpv6 : List Char → Option Ipv6Addr :=
  parseWith readIpv6Addr

/-- Parse an address of either family, trying IPv4 first. -/
def parseIpAddr : List Char → Option IpAddr :=
  parseWith fun s =>
    match readIpv4Addr s with
    | some (ip, rest) => some (.v4 ip, rest)
    | none => (readIpv6Addr s).map fun (ip, rest) => (.v6 ip, rest)

end Net
