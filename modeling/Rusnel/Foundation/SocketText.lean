import Rusnel.Foundation.NetGrammar

/-!
# Socket addresses as text

A socket address is printed as `host:port`, with an IPv6 host in brackets; the
IPv6 form may carry a scope.  Only such literals are parsed.  A name is looked
up: an address string that is no literal is split at its last colon and its host
is handed to a resolver.

Main results:

- Theorem {lit}`parseSocketAddr_colon`: which texts `host:port` are socket
  addresses.
- Theorem {lit}`toSocketAddrs_colon`: every other host is looked up.
-/

namespace Net

open Text

/-- Print a socket address. -/
def SocketAddr.display : SocketAddr → List Char
  | .v4 ip port => ip.display ++ ':' :: Nat.toDigits 10 port.toNat
  | .v6 ip port _ scopeId =>
      '[' :: (ip.display ++ (if scopeId = 0 then [] else '%' :: Nat.toDigits 10 scopeId.toNat) ++
        ']' :: ':' :: Nat.toDigits 10 port.toNat)

/-- Read `:port`. -/
def readSocketPort (s : List Char) : Option (UInt16 × List Char) :=
  match s with
  | ':' :: s => (readNumber 10 s.length 65535 true s).map fun r => (.ofNat r.1, r.2)
  | _ => none

/-- Read `%scope`. -/
def readScopeId (s : List Char) : Option (UInt32 × List Char) :=
  match s with
  | '%' :: s => (readNumber 10 s.length 4294967295 true s).map fun r => (.ofNat r.1, r.2)
  | _ => none

/-- Read an IPv6 address and the scope that may follow it. -/
def readScopedIpv6 (s : List Char) : Option ((Ipv6Addr × UInt32) × List Char) :=
  (readIpv6Addr s).map fun r =>
    match readScopeId r.2 with
    | some (scopeId, rest) => ((r.1, scopeId), rest)
    | none => ((r.1, 0), r.2)

/-- Parse the inside of the brackets: an IPv6 address and its scope. -/
def parseScopedIpv6 : List Char → Option (Ipv6Addr × UInt32) :=
  parseWith readScopedIpv6

/-- Read `address:port` with an IPv4 address. -/
def readSocketAddrV4 (s : List Char) : Option (SocketAddr × List Char) :=
  (readIpv4Addr s).bind fun r =>
    (readSocketPort r.2).map fun p => (.v4 r.1 p.1, p.2)

/-- Read `[address]:port` with an IPv6 address. -/
def readSocketAddrV6 (s : List Char) : Option (SocketAddr × List Char) :=
  match s with
  | '[' :: s =>
      (readScopedIpv6 s).bind fun r =>
        match r.2 with
        | ']' :: rest => (readSocketPort rest).map fun p => (.v6 r.1.1 p.1 0 r.1.2, p.2)
        | _ => none
  | _ => none

/-- Parse a socket address. -/
def parseSocketAddr : List Char → Option SocketAddr :=
  parseWith fun s => (readSocketAddrV4 s).or (readSocketAddrV6 s)

/-- The addresses of an address string: the literal, or what the resolver knows
for the host before the last colon. -/
def toSocketAddrs (resolve : List Char → UInt16 → List SocketAddr) (s : List Char) :
    List SocketAddr :=
  match parseSocketAddr s with
  | some addr => [addr]
  | none =>
      match rsplitOnce ':' s with
      | some (host, port) =>
          match parseU16 port with
          | some port => resolve host port
          | none => []
      | none => []

/-! ## Ports -/

theorem colon_not_mem_toDigits (n : Nat) : ':' ∉ Nat.toDigits 10 n :=
  not_mem_toDigits (by decide) (by decide) (by decide) n

/-- The digits of a port are read as that port. -/
theorem readSocketPort_toDigits (port : UInt16) :
    readSocketPort (':' :: Nat.toDigits 10 port.toNat) = some (port, []) := by
  have hport := port.toNat_lt
  have hpos : 0 < (Nat.toDigits 10 port.toNat).length :=
    List.length_pos_iff.mpr Nat.toDigits_ne_nil
  have hlen := (Nat.length_toDigits_le_iff (n := port.toNat) (by decide : 1 < 10) hpos).mp
    (Nat.le_refl _)
  have hread : readNumber 10 (Nat.toDigits 10 port.toNat).length 65535 true
      (Nat.toDigits 10 port.toNat ++ []) = some (port.toNat, []) :=
    readNumber_toDigits (by decide) (by decide) (by omega) hpos hlen (by simp)
  rw [List.append_nil] at hread
  simp [readSocketPort, hread]

variable {s : List Char}

/-- What is read as a port at the end of a text. -/
theorem readSocketPort_eq_some {port : UInt16} (h : readSocketPort s = some (port, [])) :
    ∃ digits, s = ':' :: digits ∧ ':' ∉ digits := by
  unfold readSocketPort at h
  split at h
  · rename_i digits
    obtain ⟨r, hr, hport⟩ := Option.map_eq_some_iff.mp h
    obtain ⟨n, rest⟩ := r
    obtain ⟨-, rfl⟩ := Prod.mk.inj hport
    obtain ⟨read, hread⟩ := readNumber_eq_some hr
    refine ⟨digits, rfl, ?_⟩
    rw [hread.text, List.append_nil]
    exact fun hmem => absurd (hread.digit _ hmem) (by decide)
  · cases h

/-! ## Scopes -/

theorem readNumber_maxDigits {radix max m m' : Nat} {zero : Bool} (hm : s.length ≤ m)
    (hm' : s.length ≤ m') : readNumber radix m max zero s = readNumber radix m' max zero s := by
  have hlen := (List.takeWhile_sublist (l := s) fun c => (toDigit radix c).isSome).length_le
  simp only [readNumber, Nat.not_lt.mpr (hlen.trans hm), Nat.not_lt.mpr (hlen.trans hm')]

theorem readScopeId_stopsAt {stop : Char} (hdigit : toDigit 10 stop = none)
    (hpercent : stop ≠ '%') : StopsAt stop readScopeId := by
  intro s t
  cases s with
  | nil => simp [readScopeId, hpercent]
  | cons c s =>
      by_cases hc : c = '%'
      · subst hc
        have hread : StopsAt stop (readNumber 10 (s ++ stop :: t).length 4294967295 true) :=
          readNumber_stopsAt hdigit
        have hdigits : readNumber 10 (s ++ stop :: t).length 4294967295 true s
            = readNumber 10 s.length 4294967295 true s :=
          readNumber_maxDigits (by simp) (Nat.le_refl _)
        simp only [readScopeId, List.cons_append, hread s t, hdigits, Option.map_map]
        rfl
      · simp [readScopeId, hc]

/-- A scoped address is read in front of the closing bracket. -/
theorem readScopedIpv6_stopsAt : StopsAt ']' readScopedIpv6 := by
  intro s t
  have hip : StopsAt ']' readIpv6Addr :=
    readIpv6Addr_stopsAt (by decide) (by decide) (by decide)
  have hscope : StopsAt ']' readScopeId := readScopeId_stopsAt (by decide) (by decide)
  simp only [readScopedIpv6, hip s t, Option.map_map]
  cases readIpv6Addr s with
  | none => rfl
  | some r =>
      simp only [Option.map_some, Function.comp_apply, hscope r.2 t]
      cases readScopeId r.2 <;> rfl

variable {rest : List Char}

theorem readNumber_suffix {radix maxDigits max n : Nat} {zero : Bool}
    (h : readNumber radix maxDigits max zero s = some (n, rest)) : rest <:+ s := by
  obtain ⟨digits, hread⟩ := readNumber_eq_some h
  exact ⟨digits, hread.text.symm⟩

theorem readGroups_suffix (limit : Nat) (s : List Char) :
    (readGroups limit limit s).2.2 <:+ s := by
  obtain ⟨pieces, hread⟩ := readGroups_pieces (Nat.le_refl limit) s
  exact ⟨_, hread.text.symm⟩

theorem readIpv6Addr_suffix {ip : Ipv6Addr} (h : readIpv6Addr s = some (ip, rest)) :
    rest <:+ s := by
  have hhead := readGroups_suffix 8 s
  simp only [readIpv6Addr] at h
  generalize readGroups 8 8 s = r at h hhead
  obtain ⟨groups, v4, after⟩ := r
  dsimp only at h hhead
  split_ifs at h
  · obtain ⟨_, -, hrest⟩ := Option.map_eq_some_iff.mp h
    rw [← (Prod.mk.inj hrest).2]
    exact hhead
  · split at h
    · rename_i after
      obtain ⟨_, -, hrest⟩ := Option.map_eq_some_iff.mp h
      rw [← (Prod.mk.inj hrest).2]
      have htail := readGroups_suffix (8 - (groups.length + 1)) after
      exact htail.trans (((List.suffix_cons _ _).trans (List.suffix_cons _ _)).trans hhead)
    · cases h

theorem readScopeId_suffix {scopeId : UInt32} (h : readScopeId s = some (scopeId, rest)) :
    rest <:+ s := by
  unfold readScopeId at h
  split at h
  · obtain ⟨r, hread, hr⟩ := Option.map_eq_some_iff.mp h
    rw [← (Prod.mk.inj hr).2]
    exact (readNumber_suffix hread).trans (List.suffix_cons _ _)
  · cases h

theorem readScopedIpv6_suffix {r : Ipv6Addr × UInt32} (h : readScopedIpv6 s = some (r, rest)) :
    rest <:+ s := by
  obtain ⟨⟨ip, after⟩, hip, hscope⟩ := Option.map_eq_some_iff.mp h
  have hafter := readIpv6Addr_suffix hip
  dsimp only at hscope
  split at hscope
  · rename_i hread
    rw [← (Prod.mk.inj hscope).2]
    exact (readScopeId_suffix hread).trans hafter
  · rw [← (Prod.mk.inj hscope).2]
    exact hafter

/-- An address without a scope is one with scope zero. -/
theorem parseScopedIpv6_of_ipv6 {ip : Ipv6Addr} (h : parseIpv6 s = some ip) :
    parseScopedIpv6 s = some (ip, 0) := by
  have hread := parseWith_eq_some.mp h
  exact parseWith_eq_some.mpr (by simp [readScopedIpv6, hread, readScopeId])

/-! ## Literals -/

/-- A socket address with an IPv4 host. -/
theorem readSocketAddrV4_eq_some {a : SocketAddr} :
    readSocketAddrV4 s = some (a, []) ↔
      ∃ ip port digits, s = Ipv4Addr.display ip ++ digits ∧
        readSocketPort digits = some (port, []) ∧ a = .v4 ip port := by
  simp only [readSocketAddrV4, Option.bind_eq_some_iff, Option.map_eq_some_iff, Prod.exists,
    Prod.mk.injEq]
  constructor
  · rintro ⟨ip, rest, hip, port, _, hport, rfl, rfl⟩
    exact ⟨ip, port, rest, (readIpv4Addr_eq_some hip).1, hport, rfl⟩
  · rintro ⟨ip, port, digits, rfl, hport, rfl⟩
    obtain ⟨number, rfl, -⟩ := readSocketPort_eq_some hport
    have hread := readIpv4Addr_display ip (':' :: number) (by simp; decide)
    exact ⟨ip, ':' :: number, hread, port, [], hport, rfl, rfl⟩

/-- A socket address with an IPv6 host. -/
theorem readSocketAddrV6_eq_some {a : SocketAddr} :
    readSocketAddrV6 s = some (a, []) ↔
      ∃ inner ip scopeId port digits, s = '[' :: (inner ++ ']' :: digits) ∧
        parseScopedIpv6 inner = some (ip, scopeId) ∧
        readSocketPort digits = some (port, []) ∧ a = .v6 ip port 0 scopeId := by
  constructor
  · intro h
    unfold readSocketAddrV6 at h
    split at h
    · rename_i s
      obtain ⟨⟨⟨ip, scopeId⟩, rest⟩, hip, h⟩ := Option.bind_eq_some_iff.mp h
      dsimp only at h
      split at h
      · rename_i digits
        obtain ⟨⟨port, _⟩, hport, ha⟩ := Option.map_eq_some_iff.mp h
        obtain ⟨rfl, rfl⟩ := Prod.mk.inj ha
        obtain ⟨inner, rfl⟩ := readScopedIpv6_suffix hip
        rw [readScopedIpv6_stopsAt inner digits] at hip
        obtain ⟨⟨r, rest⟩, hinner, hr⟩ := Option.map_eq_some_iff.mp hip
        obtain ⟨rfl, hrest⟩ := Prod.mk.inj hr
        obtain rfl : rest = [] := List.append_left_eq_self.mp hrest
        exact ⟨inner, ip, scopeId, port, digits, rfl, parseWith_eq_some.mpr hinner, hport, rfl⟩
      · cases h
    · cases h
  · rintro ⟨inner, ip, scopeId, port, digits, rfl, hinner, hport, rfl⟩
    have hread := readScopedIpv6_stopsAt inner digits
    rw [parseWith_eq_some.mp hinner] at hread
    simp [readSocketAddrV6, hread, hport]

/-- The hosts that are literals in front of a port, and the address they give:
an IPv4 address, or an IPv6 address in brackets. -/
inductive LiteralHost (port : UInt16) : List Char → SocketAddr → Prop
  | v4 {ip : Ipv4Addr} : LiteralHost port ip.display (.v4 ip port)
  | v6 {inner : List Char} {ip : Ipv6Addr} {scopeId : UInt32}
      (hinner : parseScopedIpv6 inner = some (ip, scopeId)) :
      LiteralHost port ('[' :: (inner ++ [']'])) (.v6 ip port 0 scopeId)

/-- A text with a port behind its last colon has one host and one port. -/
theorem readSocketPort_unique {s host digits : List Char} {port port' : UInt16}
    (hport : readSocketPort digits = some (port', []))
    (htext : host ++ ':' :: Nat.toDigits 10 port.toNat = s ++ digits) :
    host = s ∧ port' = port := by
  obtain ⟨number, rfl, hnumber⟩ := readSocketPort_eq_some hport
  obtain ⟨rfl, rfl⟩ := append_sep_inj (colon_not_mem_toDigits port.toNat) hnumber htext
  rw [readSocketPort_toDigits] at hport
  exact ⟨rfl, (Prod.mk.inj (Option.some.inj hport)).1.symm⟩

theorem readSocketAddrV4_bracket (s : List Char) : readSocketAddrV4 ('[' :: s) = none := by
  rw [readSocketAddrV4, readIpv4Addr_cons (by decide)]
  rfl

/-- Which texts `host:port` are socket addresses. -/
theorem parseSocketAddr_colon (host : List Char) (port : UInt16) (a : SocketAddr) :
    parseSocketAddr (host ++ ':' :: Nat.toDigits 10 port.toNat) = some a ↔
      LiteralHost port host a := by
  rw [parseSocketAddr, parseWith_eq_some, Option.or_eq_some_iff]
  constructor
  · rintro (h | ⟨-, h⟩)
    · obtain ⟨ip, port', digits, htext, hport, rfl⟩ := readSocketAddrV4_eq_some.mp h
      obtain ⟨rfl, rfl⟩ := readSocketPort_unique hport htext
      exact .v4
    · obtain ⟨inner, ip, scopeId, port', digits, htext, hinner, hport, rfl⟩ :=
        readSocketAddrV6_eq_some.mp h
      have htext' : host ++ ':' :: Nat.toDigits 10 port.toNat
          = '[' :: (inner ++ [']']) ++ digits := by simpa using htext
      obtain ⟨rfl, rfl⟩ := readSocketPort_unique hport htext'
      exact .v6 hinner
  · intro h
    cases h with
    | v4 =>
        exact .inl (readSocketAddrV4_eq_some.mpr
          ⟨_, port, _, rfl, readSocketPort_toDigits port, rfl⟩)
    | @v6 inner ip scopeId hinner =>
        refine .inr ⟨readSocketAddrV4_bracket _, readSocketAddrV6_eq_some.mpr
          ⟨inner, ip, scopeId, port, _, ?_, hinner, readSocketPort_toDigits port, rfl⟩⟩
        simp

/-! ## Resolution -/

theorem decimalDigits_append (max acc : Nat) (s t : List Char) :
    decimalDigits max acc (s ++ t) = (decimalDigits max acc s).bind (decimalDigits max · t) := by
  induction s generalizing acc with
  | nil => rfl
  | cons c s ih =>
      simp only [List.cons_append, decimalDigits]
      cases toDigit 10 c with
      | none => rfl
      | some d =>
          dsimp only
          split_ifs
          · exact ih _
          · rfl

theorem decimalDigits_toDigits {max n : Nat} (hn : n ≤ max) :
    decimalDigits max 0 (Nat.toDigits 10 n) = some n := by
  induction n using Nat.strongRecOn with
  | ind n ih =>
      by_cases hsmall : n < 10
      · rw [Nat.toDigits_of_lt_base hsmall, decimalDigits,
          toDigit_digitChar (by decide) hsmall]
        simp [hn, decimalDigits]
      · have hdigit : toDigit 10 (n % 10).digitChar = some (n % 10) :=
          toDigit_digitChar (by decide) (Nat.mod_lt _ (by decide))
        have hvalue : n / 10 * 10 + n % 10 = n := by omega
        rw [Nat.toDigits_of_base_le (by decide) (by omega), decimalDigits_append,
          ih (n / 10) (by omega) (by omega), Option.bind_some, decimalDigits, hdigit]
        simp [hvalue, hn, decimalDigits]

theorem parseUnsigned_of_head {max : Nat} (hne : s ≠ []) (hplus : s.head? ≠ some '+') :
    parseUnsigned max s = decimalDigits max 0 s := by
  cases s with
  | nil => exact absurd rfl hne
  | cons c s =>
      have hc : c ≠ '+' := fun hc => hplus (by rw [hc]; rfl)
      simp [parseUnsigned, hc]

/-- The printed form of a port is that port. -/
theorem parseU16_toDigits (port : UInt16) : parseU16 (Nat.toDigits 10 port.toNat) = some port := by
  have hport := port.toNat_lt
  have hplus : (Nat.toDigits 10 port.toNat).head? ≠ some '+' := by
    intro hhead
    exact not_mem_toDigits (by decide) (by decide) (by decide) _ (List.mem_of_head? hhead)
  rw [parseU16, parseUnsigned_of_head Nat.toDigits_ne_nil hplus,
    decimalDigits_toDigits (by omega), Option.map_some, UInt16.ofNat_toNat]

theorem mem_of_decimalDigits {max acc n : Nat} (h : decimalDigits max acc s = some n) :
    ∀ c ∈ s, (toDigit 10 c).isSome := by
  induction s generalizing acc with
  | nil => simp
  | cons c s ih =>
      unfold decimalDigits at h
      split at h
      · cases h
      · rename_i d hd
        split_ifs at h
        exact List.forall_mem_cons.mpr ⟨by rw [hd]; rfl, ih h⟩

/-- The text of a port: digits, maybe behind a plus sign. -/
theorem mem_of_parseU16 {port : UInt16} (h : parseU16 s = some port) :
    s ≠ [] ∧ ∀ c ∈ s, c = '+' ∨ (toDigit 10 c).isSome := by
  obtain ⟨n, hn, -⟩ := Option.map_eq_some_iff.mp h
  cases s with
  | nil => simp [parseUnsigned] at hn
  | cons c s =>
      refine ⟨by simp, ?_⟩
      by_cases hc : c = '+'
      · subst hc
        simp only [parseUnsigned] at hn
        split_ifs at hn
        exact List.forall_mem_cons.mpr ⟨.inl rfl, fun c hc => .inr (mem_of_decimalDigits hn c hc)⟩
      · rw [parseUnsigned_of_head (by simp) (by simpa using hc)] at hn
        exact fun c hc => .inr (mem_of_decimalDigits hn c hc)

/-- The host of an address string is looked up unless it is a literal. -/
theorem toSocketAddrs_colon (resolve : List Char → UInt16 → List SocketAddr)
    (host : List Char) (port : UInt16) :
    toSocketAddrs resolve (host ++ ':' :: Nat.toDigits 10 port.toNat) =
      match parseSocketAddr (host ++ ':' :: Nat.toDigits 10 port.toNat) with
      | some addr => [addr]
      | none => resolve host port := by
  simp only [toSocketAddrs, rsplitOnce_append _ (colon_not_mem_toDigits port.toNat),
    parseU16_toDigits]

end Net
