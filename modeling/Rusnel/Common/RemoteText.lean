import Rusnel.Foundation.SocketText
import Rusnel.Common.AddrTokens

/-!
# Remotes as text

Which remote a spec text stands for, read off the token grammar: what the parser
makes of an IPv6 address without brackets, and whether a parsed remote can be
written out and parsed again.  The parser drops the brackets of any token but
puts them back only around IPv6 addresses.

Main results:

- Theorem {lit}`fromStr_ipv6`: an IPv6 address without brackets is rejected,
  unless it is two decimal ports around `::`.
- Theorem {lit}`fromStr_fullForm`: which parsed remotes are parsed again from
  their full form.
-/

namespace Rusnel

open Net Text

/-! ## The stages of the parser -/

/-- The marker in front of a spec. -/
def directionMarker : Direction → List Char
  | .forward => []
  | .reverse => "R:".toList

/-- The suffix that names the protocol. -/
def protocolSuffix : Option Protocol → List Char
  | none => []
  | some .tcp => "/tcp".toList
  | some .udp => "/udp".toList

/-- A spec text: the direction marker, the address tokens and the protocol. -/
def specText (direction : Direction) (body : List Char) (protocol : Option Protocol) : String :=
  .ofList (directionMarker direction ++ (body ++ protocolSuffix protocol))

/-- A text that is not taken for one with a direction marker. -/
def Unmarked (s : List Char) : Prop :=
  s ≠ "R".toList ∧ ∀ rest, s ≠ 'R' :: ':' :: rest

variable {s : List Char}

theorem unmarked_of_head (hhead : s.head? ≠ some 'R') : Unmarked s := by
  constructor
  · rintro rfl
    exact hhead rfl
  · rintro rest rfl
    exact hhead rfl

theorem Unmarked.append (hs : Unmarked s) (hne : s ≠ []) (t : List Char) : Unmarked (s ++ t) := by
  rcases s with _ | ⟨c, _ | ⟨d, s⟩⟩
  · exact absurd rfl hne
  · have hc : c ≠ 'R' := fun hc => hs.1 (by rw [hc]; rfl)
    exact unmarked_of_head (by simpa using hc)
  · refine ⟨by simp, fun rest heq => ?_⟩
    obtain ⟨rfl, htail⟩ := List.cons.inj heq
    obtain ⟨rfl, -⟩ := List.cons.inj htail
    exact hs.2 s rfl

/-- The marker is recognised in front of a text that does not start with it. -/
theorem parseDirection_marker (direction : Direction) (hne : s ≠ [])
    (hs : direction = .forward → Unmarked s) :
    parseDirection (directionMarker direction ++ s) = .ok (direction, s) := by
  cases direction with
  | reverse => simp [directionMarker, parseDirection, hne]
  | forward =>
      obtain ⟨hmarker, hrest⟩ := hs rfl
      change parseDirection s = _
      unfold parseDirection
      split
      · exact absurd rfl (hrest _)
      · rw [if_neg hmarker]

variable {protocol : Option Protocol} {body : List Char}

/-- The protocol behind the last slash is recognised. -/
theorem parseProtocol_suffix (hslash : protocol = none → '/' ∉ body) :
    parseProtocol (body ++ protocolSuffix protocol) = .ok (protocol, body) := by
  match protocol with
  | none => simp [protocolSuffix, parseProtocol, rsplitOnce_eq_none (hslash rfl)]
  | some .tcp =>
      have hsplit : rsplitOnce '/' (body ++ '/' :: "tcp".toList) = some (body, "tcp".toList) :=
        rsplitOnce_append body (by decide)
      simp only [String.reduceToList] at hsplit
      simp [protocolSuffix, parseProtocol, hsplit]
  | some .udp =>
      have hsplit : rsplitOnce '/' (body ++ '/' :: "udp".toList) = some (body, "udp".toList) :=
        rsplitOnce_append body (by decide)
      simp only [String.reduceToList] at hsplit
      simp [protocolSuffix, parseProtocol, hsplit]

/-- The parser gets to the tokens of a spec text. -/
theorem fromStr_specText (direction : Direction) (hne : body ≠ [])
    (hbody : direction = .forward → Unmarked body) (hslash : protocol = none → '/' ∉ body) :
    RemoteRequest.fromStr (specText direction body protocol)
      = bodyToRequest direction protocol body := by
  have hdir := parseDirection_marker direction (s := body ++ protocolSuffix protocol)
    (by simp [hne]) fun hforward => (hbody hforward).append hne _
  simp only [RemoteRequest.fromStr, specText, String.toList_ofList, hdir, bind,
    Except.bind, parseProtocol_suffix hslash]

/-! ## Failing means an error -/

theorem bind_ne_abort {α β : Type} {x : Except Failure α} {f : α → Except Failure β}
    (hx : x ≠ .error .abort) (hf : ∀ a, f a ≠ .error .abort) : (x >>= f) ≠ .error .abort := by
  cases x with
  | error e => exact fun h => hx (by cases h; rfl)
  | ok a => exact hf a

theorem orInvalid_ne_abort {α : Type} (value : Option α) (message : String) :
    orInvalid value message ≠ .error .abort := by
  cases value <;> simp [orInvalid, invalid]

theorem tokensToKind_ne_abort (tokens : List (List Char)) (protocol : Option Protocol) :
    tokensToKind tokens protocol ≠ .error .abort := by
  have hport : ∀ s what, parsePort s what ≠ .error .abort := fun s what =>
    orInvalid_ne_abort _ _
  have hip : ∀ s what, parseIp s what ≠ .error .abort := fun s what => orInvalid_ne_abort _ _
  unfold tokensToKind
  split
  · simp [invalid]
  · unfold parseOneToken
    split_ifs
    · simp
    · exact bind_ne_abort (hport _ _) fun _ => by simp
  · unfold parseTwoTokens
    split_ifs
    · exact bind_ne_abort (hport _ _) fun _ => by simp
    · exact bind_ne_abort (hport _ _) fun _ => by simp
  · unfold parseThreeTokens
    split_ifs
    · exact bind_ne_abort (hip _ _) fun _ => bind_ne_abort (hport _ _) fun _ => by simp
    · exact bind_ne_abort (hport _ _) fun _ => bind_ne_abort (hport _ _) fun _ => by simp
  · exact bind_ne_abort (hip _ _) fun _ => bind_ne_abort (hport _ _) fun _ =>
      bind_ne_abort (hport _ _) fun _ => by simp
  · simp [invalid]

theorem tokensToStdioKind_ne_abort (tokens : List (List Char)) (protocol : Option Protocol) :
    tokensToStdioKind tokens protocol ≠ .error .abort := by
  have hport : ∀ s what, parsePort s what ≠ .error .abort := fun s what =>
    orInvalid_ne_abort _ _
  unfold tokensToStdioKind
  split_ifs
  · simp [invalid]
  · dsimp only
    split
    · exact bind_ne_abort (hport _ _) fun _ => by simp
    · exact bind_ne_abort (hport _ _) fun _ => by simp
    · simp [invalid]
    · simp [invalid]

/-- No text makes the parser panic. -/
theorem fromStr_ne_abort (input : String) : RemoteRequest.fromStr input ≠ .error .abort := by
  have hdirection : parseDirection input.toList ≠ .error .abort := by
    unfold parseDirection
    split <;> split_ifs <;> simp [invalid]
  have hprotocol : ∀ s, parseProtocol s ≠ .error .abort := by
    intro s
    unfold parseProtocol
    split
    · split_ifs <;> simp [invalid]
    · simp
  refine bind_ne_abort hdirection fun d => bind_ne_abort (hprotocol _) fun p =>
    bind_ne_abort (splitAddrTokens_ne_abort _) fun tokens => ?_
  unfold tokensToRequest
  split_ifs
  · simp [invalid]
  · exact bind_ne_abort (tokensToStdioKind_ne_abort _ _) fun _ => by simp
  · exact bind_ne_abort (tokensToKind_ne_abort _ _) fun _ => by simp

/-- A text that is not accepted is an error. -/
theorem fromStr_fails_iff (input : String) :
    (∃ message, RemoteRequest.fromStr input = invalid message) ↔
      ∀ r, RemoteRequest.fromStr input ≠ .ok r := by
  constructor
  · rintro ⟨message, h⟩ r hr
    cases h.symm.trans hr
  · intro h
    match hparse : RemoteRequest.fromStr input with
    | .ok r => exact absurd hparse (h r)
    | .error (.err message) => exact ⟨message, rfl⟩
    | .error .abort => exact absurd hparse (fromStr_ne_abort input)

/-! ## IPv6 addresses without brackets -/

/-- The tokens of a text without brackets are its pieces. -/
theorem AddrTokens.of_intercalate {first : List Char} {pieces tokens : List (List Char)}
    (hpieces : ∀ p ∈ first :: pieces, ':' ∉ p ∧ p.head? ≠ some '[')
    (hne : [':'].intercalate (first :: pieces) ≠ [])
    (h : AddrTokens ([':'].intercalate (first :: pieces)) tokens) : tokens = first :: pieces := by
  induction pieces generalizing first tokens with
  | nil =>
      have hfirst := hpieces first (by simp)
      rw [List.intercalate_singleton] at h hne
      exact h.of_token (.plain hfirst.1 hfirst.2) hne
  | cons next pieces ih =>
      have hfirst := hpieces first (by simp)
      rw [List.intercalate_cons_cons, List.append_assoc] at h
      obtain ⟨hrest, tail, rfl, htail⟩ := AddrTokens.of_colon (.plain hfirst.1 hfirst.2) h
      rw [ih (fun p hp => hpieces p (List.mem_cons_of_mem _ hp)) hrest htail]

theorem addrPiece_plain {piece : List Char} (h : AddrPiece piece) :
    ':' ∉ piece ∧ piece.head? ≠ some '[' := by
  refine ⟨h.colon, fun hhead => ?_⟩
  rcases h _ (List.mem_of_head? hhead) with hdigit | hdot
  · exact absurd hdigit (by decide)
  · exact absurd hdot (by decide)

theorem unbracket_of_head {s : List Char} (hhead : s.head? ≠ some '[') : unbracket s = s := by
  simp [unbracket, hhead]

/-- The full form needs an address in front. -/
theorem tokensToKind_hexPiece {t₀ t₁ t₂ t₃ : List Char} {rest : List (List Char)}
    (h : HexPiece t₀) (protocol : Option Protocol) (kind : RemoteKind) :
    tokensToKind (t₀ :: t₁ :: t₂ :: t₃ :: rest) protocol ≠ .ok kind := by
  cases rest with
  | nil =>
      have hip : parseIp t₀ "local host" = invalid "Invalid local host" := by
        rw [parseIp, unbracket_of_head (addrPiece_plain h.addrPiece).2, h.parseIpAddr]
        rfl
      simp [tokensToKind, parseFourTokens, hip, bind, Except.bind]
  | cons t₄ rest => simp [tokensToKind]

/-- Two decimal ports around `::`. -/
def PortPair (s : List Char) : Prop :=
  ∃ x z, s = x ++ ':' :: ':' :: z ∧ (parseU16 x).isSome ∧ (parseU16 z).isSome

variable {r : RemoteRequest}

/-- What an accepted body was split into. -/
theorem bodyToRequest_eq_ok {direction : Direction}
    (h : bodyToRequest direction protocol body = .ok r) :
    ∃ tokens, AddrTokens body tokens ∧ (tokens.head? ≠ some stdioKeyword →
      ∃ kind, tokensToKind tokens protocol = .ok kind ∧ r = ⟨direction, kind, false⟩) := by
  obtain ⟨tokens, htokens, h⟩ := bind_eq_ok h
  refine ⟨tokens, splitAddrTokens_eq_ok.mp htokens, fun hstdio => ?_⟩
  exact ((tokensToRequest_eq_ok h).resolve_left fun hleft => hstdio hleft.1).2

variable {tokens : List (List Char)}

/-- The tokens of a body determine the request. -/
theorem bodyToRequest_of_tokens {direction : Direction} {kind : RemoteKind}
    (htokens : AddrTokens body tokens) (hstdio : tokens.head? ≠ some stdioKeyword)
    (hkind : tokensToKind tokens protocol = .ok kind) :
    bodyToRequest direction protocol body = .ok ⟨direction, kind, false⟩ := by
  simp [bodyToRequest, tokensToRequest, splitAddrTokens_eq_ok.mpr htokens, hstdio, hkind, bind,
    Except.bind]

theorem hexPiece_ne_stdio {piece : List Char} (h : HexPiece piece) : piece ≠ stdioKeyword := by
  rintro rfl
  exact absurd (h 's' (by decide)) (by decide)

/-- Behind a group, four or more tokens are rejected. -/
theorem bodyToRequest_pieces {direction : Direction} {first : List Char} {pieces : List (List Char)}
    (hfirst : HexPiece first) (hpieces : ∀ p ∈ pieces, AddrPiece p) (hlen : 3 ≤ pieces.length)
    (r : RemoteRequest) :
    bodyToRequest direction protocol ([':'].intercalate (first :: pieces)) ≠ .ok r := by
  intro h
  obtain ⟨tokens, htokens, hkind⟩ := bodyToRequest_eq_ok h
  match pieces, hlen with
  | t₁ :: t₂ :: t₃ :: rest, _ =>
      have hall : ∀ p ∈ first :: t₁ :: t₂ :: t₃ :: rest, ':' ∉ p ∧ p.head? ≠ some '[' :=
        List.forall_mem_cons.mpr ⟨addrPiece_plain hfirst.addrPiece,
          fun p hp => addrPiece_plain (hpieces p hp)⟩
      obtain rfl := htokens.of_intercalate hall (by simp [List.intercalate_cons_cons])
      obtain ⟨kind, hkind, -⟩ := hkind (by simpa using hexPiece_ne_stdio hfirst)
      exact tokensToKind_hexPiece hfirst protocol kind hkind

theorem parsePort_eq_ok {what : String} {port : UInt16} :
    parsePort s what = .ok port ↔ parseU16 s = some port := by
  unfold parsePort orInvalid
  cases parseU16 s <;> simp [invalid]

/-- A port token is neither a keyword nor bracketed. -/
theorem parseU16_plain {port : UInt16} (h : parseU16 s = some port) :
    AddrToken s ∧ s ≠ socksKeyword ∧ s ≠ stdioKeyword := by
  have hmem := (mem_of_parseU16 h).2
  refine ⟨.plain (fun hc => ?_) (fun hc => ?_), ?_, ?_⟩
  · exact absurd (hmem _ hc) (by decide)
  · exact absurd (hmem _ (List.mem_of_head? hc)) (by decide)
  · rintro rfl
    exact absurd (hmem 's' (by decide)) (by decide)
  · rintro rfl
    exact absurd (hmem 's' (by decide)) (by decide)

/-- Three tokens that start with a group are ports around a host. -/
theorem tokensToKind_three {t₀ t₁ t₂ : List Char} {kind : RemoteKind} (hfirst : HexPiece t₀)
    (h : tokensToKind [t₀, t₁, t₂] protocol = .ok kind) :
    (parseU16 t₀).isSome ∧ (parseU16 t₂).isSome := by
  have hip : parseIp t₀ "local host" = invalid "Invalid local host" := by
    rw [parseIp, unbracket_of_head (addrPiece_plain hfirst.addrPiece).2, hfirst.parseIpAddr]
    rfl
  simp only [tokensToKind, parseThreeTokens, hip] at h
  split_ifs at h
  · cases h
  · obtain ⟨localPort, hlocal, h⟩ := bind_eq_ok h
    obtain ⟨remotePort, hremote, -⟩ := bind_eq_ok h
    rw [parsePort_eq_ok.mp hlocal, parsePort_eq_ok.mp hremote]
    exact ⟨rfl, rfl⟩

/-- Two ports around `::` are read as a local port, an empty host and a port. -/
theorem bodyToRequest_portPair {x z : List Char} {localPort remotePort : UInt16}
    (hx : parseU16 x = some localPort) (hz : parseU16 z = some remotePort)
    (direction : Direction) (protocol : Option Protocol) :
    bodyToRequest direction protocol (x ++ ':' :: ':' :: z) = .ok
      ⟨direction, makeHostPortKind (.new anyV4 localPort) ⟨"", remotePort⟩ protocol, false⟩ := by
  have hxt := parseU16_plain hx
  have hzt := parseU16_plain hz
  have hempty : AddrToken [] := .plain (by simp) (by simp)
  have htokens : AddrTokens (x ++ ':' :: ([] ++ ':' :: z)) [x, [], z] :=
    .cons hxt.1 (by simp) (.cons hempty (mem_of_parseU16 hz).1
      (.last hzt.1 (mem_of_parseU16 hz).1))
  refine bodyToRequest_of_tokens htokens (by simpa using hxt.2.2) ?_
  simp [tokensToKind, parseThreeTokens, hzt.2.1, parsePort, orInvalid, hx, hz, unbracket, bind,
    Except.bind]

/-- An address without brackets is accepted exactly if it is a pair of ports. -/
theorem bodyToRequest_ipv6 {ip : Ipv6Addr} (hs : parseIpv6 s = some ip) (direction : Direction)
    (protocol : Option Protocol) :
    (∃ r, bodyToRequest direction protocol s = .ok r) ↔ PortPair s := by
  constructor
  · rintro ⟨r, h⟩
    obtain ⟨first, pieces, rfl, htext⟩ := parseIpv6_pieces hs
    rcases Nat.lt_or_ge pieces.length 3 with hlen | hlen
    · rcases htext.shape with hlong | ⟨head, tail, htail, rfl⟩
      · omega
      · -- so few pieces leave room for one on either side of the elision
        obtain ⟨rfl, z, rfl⟩ : head = [] ∧ ∃ z, tail = [z] := by
          have hpos := List.length_pos_iff.mpr htail
          simp only [List.length_append, List.length_cons] at hlen
          exact ⟨List.length_eq_zero_iff.mp (by omega), List.length_eq_one_iff.mp (by omega)⟩
        obtain ⟨tokens, htokens, hkind⟩ := bodyToRequest_eq_ok h
        have hall : ∀ p ∈ first :: [] :: [z], ':' ∉ p ∧ p.head? ≠ some '[' :=
          List.forall_mem_cons.mpr ⟨addrPiece_plain htext.first.addrPiece,
            fun p hp => addrPiece_plain (htext.piece p hp)⟩
        obtain rfl := htokens.of_intercalate hall (by simp [List.intercalate_cons_cons])
        obtain ⟨kind, hkind, -⟩ := hkind (by simpa using hexPiece_ne_stdio htext.first)
        exact ⟨first, z, by simp [List.intercalate_cons_cons], tokensToKind_three htext.first hkind⟩
    · exact absurd h (bodyToRequest_pieces htext.first htext.piece hlen r)
  · rintro ⟨x, z, rfl, hx, hz⟩
    obtain ⟨localPort, hx⟩ := Option.isSome_iff_exists.mp hx
    obtain ⟨remotePort, hz⟩ := Option.isSome_iff_exists.mp hz
    exact ⟨_, bodyToRequest_portPair hx hz direction protocol⟩

/-- An address with a port behind it has too many tokens. -/
theorem bodyToRequest_ipv6_port {s port : List Char} {ip : Ipv6Addr} (hs : parseIpv6 s = some ip)
    (hport : ∀ c ∈ port, (toDigit 10 c).isSome) (direction : Direction)
    (protocol : Option Protocol) (r : RemoteRequest) :
    bodyToRequest direction protocol (s ++ ':' :: port) ≠ .ok r := by
  obtain ⟨first, pieces, rfl, htext⟩ := parseIpv6_pieces hs
  have hjoin : [':'].intercalate (first :: pieces) ++ ':' :: port
      = [':'].intercalate (first :: (pieces ++ [port])) := by
    simp [intercalate_cons]
  rw [hjoin]
  apply bodyToRequest_pieces htext.first
  · intro p hp
    rcases List.mem_append.mp hp with hp | hp
    · exact htext.piece p hp
    · rw [List.mem_singleton.mp hp]
      exact (HexPiece.of_decimal hport).addrPiece
  · rcases htext.shape with hlong | ⟨head, tail, htail, rfl⟩
    · simp only [List.length_append, List.length_singleton]
      omega
    · have hpos := List.length_pos_iff.mpr htail
      simp only [List.length_append, List.length_cons, List.length_nil]
      omega

/-- An IPv6 address is a body the parser's first stages leave alone. -/
theorem ipv6_body {ip : Ipv6Addr} (hs : parseIpv6 s = some ip) :
    s ≠ [] ∧ s.head? ≠ some 'R' ∧ '/' ∉ s := by
  have hmem := mem_of_parseIpv6 hs
  refine ⟨List.ne_nil_of_mem (colon_mem_of_parseIpv6 hs), fun hhead => ?_, fun hslash => ?_⟩
  · exact absurd (hmem _ (List.mem_of_head? hhead)) (by decide)
  · exact absurd (hmem _ hslash) (by decide)

/-- An IPv6 address without brackets is rejected, unless it is two decimal ports
around `::`; with a port behind it, it is always rejected. -/
theorem fromStr_ipv6 (s : String) (hs : (parseIpv6 s.toList).isSome) (direction : Direction)
    (protocol : Option Protocol) :
    (∀ port : List Char, (∀ c ∈ port, (toDigit 10 c).isSome) →
      ∃ message, RemoteRequest.fromStr (specText direction (s.toList ++ ':' :: port) protocol)
        = invalid message) ∧
    ((∃ message, RemoteRequest.fromStr (specText direction s.toList protocol)
        = invalid message) ↔ ¬PortPair s.toList) := by
  obtain ⟨ip, hip⟩ := Option.isSome_iff_exists.mp hs
  obtain ⟨hne, hhead, hslash⟩ := ipv6_body hip
  constructor
  · intro port hport
    have hbody : '/' ∉ s.toList ++ ':' :: port := by
      rw [List.mem_append, List.mem_cons]
      rintro (hmem | hmem | hmem)
      · exact hslash hmem
      · exact absurd hmem (by decide)
      · exact absurd (hport _ hmem) (by decide)
    have hmarked := (unmarked_of_head hhead).append hne (':' :: port)
    rw [fromStr_fails_iff, fromStr_specText direction (by simp) (fun _ => hmarked) fun _ => hbody]
    exact bodyToRequest_ipv6_port hip hport direction protocol
  · rw [fromStr_fails_iff,
      fromStr_specText direction hne (fun _ => unmarked_of_head hhead) fun _ => hslash,
      ← bodyToRequest_ipv6 hip direction protocol, not_exists]

theorem fromStr_ipv6_loopback :
    (∃ message, RemoteRequest.fromStr (specText .reverse "::1:80".toList (some .tcp))
      = invalid message) ∧
    ∃ message, RemoteRequest.fromStr (specText .reverse "::1".toList (some .tcp))
      = invalid message := by
  have h := fromStr_ipv6 "::1" (by decide +kernel) .reverse (some .tcp)
  have hport : ∀ c ∈ ['8', '0'], (toDigit 10 c).isSome :=
    List.forall_mem_cons.mpr ⟨by decide, List.forall_mem_singleton.mpr (by decide)⟩
  refine ⟨h.1 ['8', '0'] hport, h.2.mpr ?_⟩
  rintro ⟨x, z, htext, hx, -⟩
  cases x with
  | nil => cases hx
  | cons c x =>
      have htext' : ':' :: [':', '1'] = c :: (x ++ ':' :: ':' :: z) := htext
      obtain ⟨rfl, -⟩ := List.cons.inj htext'
      obtain ⟨port, hport⟩ := Option.isSome_iff_exists.mp hx
      exact absurd ((mem_of_parseU16 hport).2 ':' (by simp)) (by decide)

/-- The address `1::2` is read as local port 1, an empty host and port 2. -/
theorem fromStr_ipv6_ports :
    (parseIpv6 "1::2".toList).isSome ∧
      RemoteRequest.fromStr "1::2" = .ok (.new .forward (.tcp (.new anyV4 1) ⟨"", 2⟩)) := by
  decide +kernel

/-! ## Writing a remote out -/

/-- The host as an address string shows it: in brackets if it is an IPv6 address. -/
def hostToken (host : List Char) : List Char :=
  if (parseIpv6 host).isSome then '[' :: (host ++ [']']) else host

theorem toAddrString_toList (hp : HostPort) :
    hp.toAddrString.toList
      = hostToken hp.host.toList ++ ':' :: Nat.toDigits 10 hp.port.toNat := by
  have hport : (toString hp.port).toList = Nat.toDigits 10 hp.port.toNat := Nat.toList_repr
  unfold HostPort.toAddrString hostToken
  split_ifs <;> simp [hport]

/-- The full form of a static tunnel: both addresses and the protocol. -/
def RemoteRequest.fullForm (r : RemoteRequest) : Option String :=
  match r.kind with
  | .tcp localAddr remote =>
      some (specText r.direction (localAddr.display ++ ':' :: remote.toAddrString.toList)
        (some .tcp))
  | .udp localAddr remote =>
      some (specText r.direction (localAddr.display ++ ':' :: remote.toAddrString.toList)
        (some .udp))
  | .socks5 _ => none

/-- The local host as the full form shows it. -/
def ipToken : IpAddr → List Char
  | .v4 ip => ip.display
  | .v6 ip => '[' :: (ip.display ++ [']'])

theorem display_new (ip : IpAddr) (port : UInt16) :
    (SocketAddr.new ip port).display = ipToken ip ++ ':' :: Nat.toDigits 10 port.toNat := by
  cases ip <;> simp [SocketAddr.new, SocketAddr.display, ipToken]

theorem unbracket_brackets (inner : List Char) :
    unbracket ('[' :: (inner ++ [']'])) = inner := by
  have hlen : 2 ≤ (asBytes ('[' :: (inner ++ [']']))).length := by
    have hopen := Char.utf8Size_pos '['
    have hclose := Char.utf8Size_pos ']'
    simp only [length_asBytes_cons, asBytes_append, List.length_append]
    omega
  rw [unbracket, if_pos ⟨hlen, rfl, by simp [List.getLast?_cons]⟩]
  simp

/-- An IPv6 address in brackets is a token. -/
theorem addrToken_ipv6 {ip : Ipv6Addr} (hs : parseIpv6 s = some ip) :
    AddrToken ('[' :: (s ++ [']'])) :=
  .bracketed fun hclose => absurd (mem_of_parseIpv6 hs _ hclose) (by decide)

/-- The local host is read back. -/
theorem ipToken_spec (ip : IpAddr) :
    AddrToken (ipToken ip) ∧ parseIpAddr (unbracket (ipToken ip)) = some ip := by
  cases ip with
  | v4 ip =>
      have hplain := addrPiece_plain ip.addrPiece_display
      refine ⟨.plain hplain.1 hplain.2, ?_⟩
      rw [ipToken, unbracket_of_head hplain.2]
      exact parseIpAddr_eq_some.mpr (parseIpv4_display ip)
  | v6 ip =>
      refine ⟨addrToken_ipv6 (parseIpv6_display ip), ?_⟩
      rw [ipToken, unbracket_brackets]
      exact parseIpAddr_eq_some.mpr (parseIpv6_display ip)

theorem ipToken_ne_stdio (ip : IpAddr) : ipToken ip ≠ stdioKeyword := by
  intro heq
  have hparse := (ipToken_spec ip).2
  have hstdio : parseIpAddr (unbracket stdioKeyword) = none := by decide +kernel
  rw [heq, hstdio] at hparse
  cases hparse

/-- An address does not start like a direction marker. -/
theorem head?_display_new (ip : IpAddr) (port : UInt16) (s : List Char) :
    ((SocketAddr.new ip port).display ++ s).head? ≠ some 'R' := by
  rw [display_new, List.append_assoc, List.head?_append, List.cons_append, List.head?_cons]
  intro hhead
  rcases Option.or_eq_some_iff.mp hhead with hip | ⟨-, hcolon⟩
  · cases ip with
    | v4 ip => exact absurd (ip.addrPiece_display 'R' (List.mem_of_head? hip)) (by decide)
    | v6 ip => simp [ipToken] at hip
  · exact absurd hcolon (by decide)

/-- A host as the parser takes it from a token: one without brackets, or the
inside of a pair. -/
def HostText (host : List Char) : Prop :=
  (':' ∉ host ∧ host.head? ≠ some '[') ∨ ']' ∉ host

theorem AddrToken.hostText {t : List Char} (ht : AddrToken t) : HostText (unbracket t) := by
  cases ht with
  | plain hcolon hhead =>
      rw [unbracket_of_head hhead]
      exact .inl ⟨hcolon, hhead⟩
  | bracketed hclose =>
      rw [unbracket_brackets]
      exact .inr hclose

theorem AddrTokens.mem (h : AddrTokens s tokens) : ∀ t ∈ tokens, AddrToken t := by
  induction h with
  | nil => simp
  | last ht hne => simpa using ht
  | cons ht hne hrest ih => exact List.forall_mem_cons.mpr ⟨ht, ih⟩

/-- What is parsed has a local address without extras.  Unless it is a SOCKS5 tunnel,
its host is the default or comes from a token. -/
theorem tokensToKind_eq_ok {kind : RemoteKind} (h : tokensToKind tokens protocol = .ok kind) :
    ∃ ip port, kind = .socks5 (.new ip port) ∨ ∃ remote,
      kind = makeHostPortKind (.new ip port) remote protocol ∧
        (remote.host = "0.0.0.0" ∨ ∃ t ∈ tokens, remote.host = String.ofList (unbracket t)) := by
  unfold tokensToKind at h
  split at h
  · cases h
  · unfold parseOneToken at h
    split_ifs at h
    · cases h
      exact ⟨_, _, .inl rfl⟩
    · obtain ⟨port, -, h⟩ := bind_eq_ok h
      cases h
      exact ⟨_, _, .inr ⟨_, rfl, .inl rfl⟩⟩
  · unfold parseTwoTokens at h
    split_ifs at h
    · obtain ⟨port, -, h⟩ := bind_eq_ok h
      cases h
      exact ⟨_, _, .inl rfl⟩
    · obtain ⟨port, -, h⟩ := bind_eq_ok h
      cases h
      exact ⟨_, _, .inr ⟨_, rfl, .inr ⟨_, by simp, rfl⟩⟩⟩
  · unfold parseThreeTokens at h
    split_ifs at h
    · obtain ⟨ip, -, h⟩ := bind_eq_ok h
      obtain ⟨port, -, h⟩ := bind_eq_ok h
      cases h
      exact ⟨_, _, .inl rfl⟩
    · obtain ⟨localPort, -, h⟩ := bind_eq_ok h
      obtain ⟨port, -, h⟩ := bind_eq_ok h
      cases h
      exact ⟨_, _, .inr ⟨_, rfl, .inr ⟨_, by simp, rfl⟩⟩⟩
  · obtain ⟨ip, -, h⟩ := bind_eq_ok h
    obtain ⟨localPort, -, h⟩ := bind_eq_ok h
    obtain ⟨port, -, h⟩ := bind_eq_ok h
    cases h
    exact ⟨_, _, .inr ⟨_, rfl, .inr ⟨_, by simp, rfl⟩⟩⟩
  · cases h

/-- What is parsed is a SOCKS5 tunnel or has a host that can be written as a token. -/
theorem tokensToKind_static {kind : RemoteKind} (htokens : ∀ t ∈ tokens, AddrToken t)
    (h : tokensToKind tokens protocol = .ok kind) :
    (∃ a, kind = .socks5 a) ∨ ∃ ip port remote,
      kind = makeHostPortKind (.new ip port) remote protocol ∧ HostText remote.host.toList := by
  obtain ⟨ip, port, hsocks | ⟨remote, hkind, hhost⟩⟩ := tokensToKind_eq_ok h
  · exact .inl ⟨_, hsocks⟩
  · refine .inr ⟨ip, port, remote, hkind, ?_⟩
    rcases hhost with hdefault | ⟨t, ht, htoken⟩
    · rw [hdefault]
      exact .inr (by decide)
    · rw [htoken, String.toList_ofList]
      exact (htokens t ht).hostText

/-- What an accepted text without the stdio flag was split into. -/
theorem fromStr_eq_ok {input : String} (h : RemoteRequest.fromStr input = .ok r)
    (hstdio : r.stdio = false) :
    ∃ protocol body tokens kind, AddrTokens body tokens ∧
      tokensToKind tokens protocol = .ok kind ∧ r = ⟨r.direction, kind, false⟩ := by
  obtain ⟨direction, protocol, body, tokens, htokens, h⟩ := fromStr_tokens h
  rcases tokensToRequest_eq_ok h with ⟨-, -, kind, -, rfl⟩ | ⟨-, kind, hkind, rfl⟩
  · cases hstdio
  · exact ⟨protocol, body, tokens, kind, splitAddrTokens_eq_ok.mp htokens, hkind, rfl⟩

/-- The full form is read back if its host is a token that is unwrapped to it. -/
theorem bodyToRequest_fullForm {ip : IpAddr} {port : UInt16} {remote : HostPort}
    (htoken : AddrToken (hostToken remote.host.toList))
    (hhost : unbracket (hostToken remote.host.toList) = remote.host.toList)
    (direction : Direction) (protocol : Protocol) :
    bodyToRequest direction (some protocol)
        ((SocketAddr.new ip port).display ++ ':' :: remote.toAddrString.toList)
      = .ok ⟨direction, makeHostPortKind (.new ip port) remote (some protocol), false⟩ := by
  have hport := parseU16_toDigits port
  have hremote := parseU16_toDigits remote.port
  obtain ⟨hip, hparse⟩ := ipToken_spec ip
  have htokens : AddrTokens
      (ipToken ip ++ ':' :: (Nat.toDigits 10 port.toNat ++ ':' :: (hostToken remote.host.toList ++
        ':' :: Nat.toDigits 10 remote.port.toNat)))
      [ipToken ip, Nat.toDigits 10 port.toNat, hostToken remote.host.toList,
        Nat.toDigits 10 remote.port.toNat] :=
    .cons hip (by simp) (.cons (parseU16_plain hport).1 (by simp) (.cons htoken
      Nat.toDigits_ne_nil (.last (parseU16_plain hremote).1 Nat.toDigits_ne_nil)))
  rw [display_new, toAddrString_toList, List.append_assoc, List.cons_append]
  refine bodyToRequest_of_tokens htokens (by simpa using ipToken_ne_stdio ip) ?_
  simp [tokensToKind, parseFourTokens, parseIp, parsePort, orInvalid, hparse, hport, hremote,
    hhost, bind, Except.bind]

/-- Without closing brackets, every colon ends a token. -/
theorem AddrTokens.length_of_not_mem {s : List Char} {tokens : List (List Char)}
    (h : AddrTokens s tokens) (hne : s ≠ []) (hclose : ']' ∉ s) :
    tokens.length = s.count ':' + 1 ∧ s.head? ≠ some '[' := by
  have hplain : ∀ {t : List Char}, AddrToken t → ']' ∉ t → ':' ∉ t ∧ t.head? ≠ some '[' := by
    intro t ht hclose
    cases ht with
    | plain hcolon hhead => exact ⟨hcolon, hhead⟩
    | bracketed _ => simp at hclose
  induction h with
  | nil => exact absurd rfl hne
  | last ht _ =>
      obtain ⟨hcolon, hhead⟩ := hplain ht hclose
      exact ⟨by simp [List.count_eq_zero.mpr hcolon], hhead⟩
  | @cons t rest tokens ht hrest _ ih =>
      rw [List.mem_append, List.mem_cons, not_or, not_or] at hclose
      obtain ⟨hcolon, hhead⟩ := hplain ht hclose.1
      have hlen := (ih hrest hclose.2.2).1
      refine ⟨by simp [List.count_append, List.count_eq_zero.mpr hcolon, hlen], ?_⟩
      cases t with
      | nil => simp
      | cons c t => simpa using hhead

/-- A host that is no IPv6 address but has a colon or an opening bracket in it
is not read back. -/
theorem bodyToRequest_fullForm_fails {ip : IpAddr} {port : UInt16} {remote : HostPort}
    (hipv6 : parseIpv6 remote.host.toList = none) (hclose : ']' ∉ remote.host.toList)
    (hcolon : ':' ∈ remote.host.toList ∨ remote.host.toList.head? = some '[')
    (direction : Direction) (protocol : Option Protocol) (r : RemoteRequest) :
    bodyToRequest direction protocol
      ((SocketAddr.new ip port).display ++ ':' :: remote.toAddrString.toList) ≠ .ok r := by
  intro h
  obtain ⟨tokens, htokens, hkind⟩ := bodyToRequest_eq_ok h
  have htoken : hostToken remote.host.toList = remote.host.toList := by simp [hostToken, hipv6]
  rw [display_new, toAddrString_toList, htoken, List.append_assoc, List.cons_append] at htokens
  obtain ⟨-, _, rfl, hafter⟩ := htokens.of_colon (ipToken_spec ip).1
  obtain ⟨hne, tokens, rfl, hrest⟩ := hafter.of_colon (parseU16_plain (parseU16_toDigits port)).1
  obtain ⟨kind, hkind, -⟩ := hkind (by simpa using ipToken_ne_stdio ip)
  have hport : ']' ∉ Nat.toDigits 10 remote.port.toNat := fun hmem =>
    absurd ((mem_of_parseU16 (parseU16_toDigits remote.port)).2 _ hmem) (by decide)
  obtain ⟨hlen, hhead⟩ := hrest.length_of_not_mem hne (by simp [hclose, hport])
  rcases hcolon with hcolon | hbracket
  · have hcount := List.count_pos_iff.mpr hcolon
    simp only [List.count_append, List.count_cons_self] at hlen
    match tokens, hlen with
    | [], hlen | [_], hlen | [_, _], hlen =>
        simp only [List.length_cons, List.length_nil] at hlen
        omega
    | _ :: _ :: _ :: _, _ => cases hkind
  · cases hhost : remote.host.toList with
    | nil => simp [hhost] at hbracket
    | cons c host =>
        rw [hhost] at hbracket hhead
        exact hhead hbracket

/-- The hosts the full form can carry: IPv6 addresses, and texts without a colon
or an opening bracket in front. -/
def Writable (host : List Char) : Prop :=
  (parseIpv6 host).isSome ∨ (':' ∉ host ∧ host.head? ≠ some '[')

/-- A parsed static tunnel: a local address without extras, a host taken from a
token. -/
theorem fromStr_static {input : String} {localAddr : SocketAddr} {remote : HostPort}
    (h : RemoteRequest.fromStr input = .ok r) (hstdio : r.stdio = false)
    (hkind : r.kind = .tcp localAddr remote ∨ r.kind = .udp localAddr remote) :
    (∃ ip port, localAddr = .new ip port) ∧ HostText remote.host.toList := by
  obtain ⟨protocol, body, tokens, kind, htokens, hparsed, hr⟩ := fromStr_eq_ok h hstdio
  have hkind' : kind = .tcp localAddr remote ∨ kind = .udp localAddr remote := by
    rw [hr] at hkind
    exact hkind
  rcases tokensToKind_static htokens.mem hparsed with ⟨a, rfl⟩ | ⟨ip, port, remote', rfl, hhost⟩
  · simp at hkind'
  · unfold makeHostPortKind at hkind'
    split at hkind'
    · obtain ⟨rfl, rfl⟩ : SocketAddr.new ip port = localAddr ∧ remote' = remote := by
        simpa using hkind'
      exact ⟨⟨ip, port, rfl⟩, hhost⟩
    · obtain ⟨rfl, rfl⟩ : SocketAddr.new ip port = localAddr ∧ remote' = remote := by
        simpa using hkind'
      exact ⟨⟨ip, port, rfl⟩, hhost⟩

/-- The full form of a static tunnel is a spec text. -/
theorem fullForm_static {localAddr : SocketAddr} {remote : HostPort} (hstdio : r.stdio = false)
    (hkind : r.kind = .tcp localAddr remote ∨ r.kind = .udp localAddr remote) :
    ∃ protocol, r = ⟨r.direction, makeHostPortKind localAddr remote (some protocol), false⟩ ∧
      r.fullForm = some (specText r.direction
        (localAddr.display ++ ':' :: remote.toAddrString.toList) (some protocol)) := by
  obtain ⟨direction, kind, stdio⟩ := r
  dsimp only at hstdio hkind
  subst hstdio
  rcases hkind with rfl | rfl
  · exact ⟨.tcp, rfl, rfl⟩
  · exact ⟨.udp, rfl, rfl⟩

/-- A writable host is a token that is unwrapped to it. -/
theorem Writable.hostToken {host : List Char} (h : Writable host) :
    AddrToken (hostToken host) ∧ unbracket (hostToken host) = host := by
  unfold Rusnel.hostToken
  split_ifs with hipv6
  · obtain ⟨ip, hip⟩ := Option.isSome_iff_exists.mp hipv6
    exact ⟨addrToken_ipv6 hip, unbracket_brackets host⟩
  · obtain ⟨hcolon, hhead⟩ := h.resolve_left hipv6
    exact ⟨.plain hcolon hhead, unbracket_of_head hhead⟩

/-- Which parsed remotes are parsed again from their full form. -/
theorem fromStr_fullForm {input : String} {r : RemoteRequest} {localAddr : SocketAddr}
    {remote : HostPort} (h : RemoteRequest.fromStr input = .ok r) (hstdio : r.stdio = false)
    (hkind : r.kind = .tcp localAddr remote ∨ r.kind = .udp localAddr remote) :
    r.fullForm.map RemoteRequest.fromStr = some (.ok r) ↔ Writable remote.host.toList := by
  obtain ⟨⟨ip, port, rfl⟩, hhost⟩ := fromStr_static h hstdio hkind
  obtain ⟨protocol, hr, hform⟩ := fullForm_static hstdio hkind
  have hhead := head?_display_new ip port (':' :: remote.toAddrString.toList)
  have hbody := @fromStr_specText (some protocol) _ r.direction (by simp)
    (fun _ => unmarked_of_head hhead) (by simp)
  rw [hform, Option.map_some, hbody, Option.some.injEq]
  constructor
  · intro hparsed
    by_contra hnot
    rw [Writable, not_or, Option.not_isSome_iff_eq_none] at hnot
    have hcolon : ':' ∈ remote.host.toList ∨ remote.host.toList.head? = some '[' := by
      by_contra hplain
      rw [not_or] at hplain
      exact hnot.2 hplain
    exact bodyToRequest_fullForm_fails hnot.1 (hhost.resolve_left hnot.2) hcolon _ _ _ hparsed
  · intro hwritable
    obtain ⟨htoken, hunwrap⟩ := hwritable.hostToken
    rw [bodyToRequest_fullForm htoken hunwrap]
    exact congrArg Except.ok hr.symm

theorem fromStr_fullForm_ipv6 :
    RemoteRequest.fromStr "R:[::1]:80/udp"
        = .ok (.new .reverse (.udp (.new anyV4 80) ⟨"::1", 80⟩)) ∧
      (RemoteRequest.new .reverse (.udp (.new anyV4 80) ⟨"::1", 80⟩)).fullForm.map
        RemoteRequest.fromStr = some (.ok (.new .reverse (.udp (.new anyV4 80) ⟨"::1", 80⟩))) := by
  have hparse : RemoteRequest.fromStr "R:[::1]:80/udp"
      = .ok (.new .reverse (.udp (.new anyV4 80) ⟨"::1", 80⟩)) := by decide +kernel
  exact ⟨hparse, (fromStr_fullForm hparse rfl (.inr rfl)).mpr (.inl (by decide +kernel))⟩

/-- A scoped IPv6 host is accepted in brackets, and written out without them. -/
theorem fromStr_fullForm_scoped :
    RemoteRequest.fromStr "[fe80::1%eth0]:80"
        = .ok (.new .forward (.tcp (.new anyV4 80) ⟨"fe80::1%eth0", 80⟩)) ∧
      (RemoteRequest.new .forward (.tcp (.new anyV4 80) ⟨"fe80::1%eth0", 80⟩)).fullForm
        = some "0.0.0.0:80:fe80::1%eth0:80/tcp" ∧
      RemoteRequest.fromStr "0.0.0.0:80:fe80::1%eth0:80/tcp"
        = invalid "Invalid format: Unexpected number of address parts" := by
  decide +kernel

end Rusnel
