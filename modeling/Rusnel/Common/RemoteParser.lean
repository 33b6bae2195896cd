import Rusnel.Common.Remote

/-!
# Parsing a remote

The text grammar of a `--remote` flag: an optional `R:`, colon-separated
address tokens in which `[...]` is atomic, and an optional `/tcp` or `/udp`.
The scanner works on byte offsets as the source does, so a slice inside a
character would show up as an abort.

Main results:

- Theorem {lit}`fromStr_stdio`: an accepted stdio remote is a forward TCP or
  UDP remote.
-/

namespace Rusnel

open Net Text

/-- Reject with a message. -/
abbrev invalid {α : Type} (message : String) : Except Failure α :=
  .error (.err message)

/-- Turn an absent value into an error. -/
def orInvalid {α : Type} (value : Option α) (message : String) : Except Failure α :=
  match value with
  | some a => .ok a
  | none => invalid message

/-- Strip a leading `R:` marker. -/
def parseDirection (s : List Char) : Except Failure (Direction × List Char) :=
  match s with
  | 'R' :: ':' :: rest =>
      if rest = [] then invalid "Invalid format: Missing details after R:"
      else .ok (.reverse, rest)
  | _ =>
      if s = "R".toList then invalid "Invalid format: Missing details after R"
      else .ok (.forward, s)

/-- Pop a trailing `/tcp` or `/udp`; any other suffix is an error. -/
def parseProtocol (s : List Char) : Except Failure (Option Protocol × List Char) :=
  match rsplitOnce '/' s with
  | some (head, tail) =>
      if tail = "tcp".toList then .ok (some .tcp, head)
      else if tail = "udp".toList then .ok (some .udp, head)
      else invalid "Invalid protocol: Must be 'tcp' or 'udp'"
  | none => .ok (none, s)

/-- Offset of the first byte equal to `b` at or after `i`. -/
def positionFrom (bytes : List UInt8) (i : Nat) (b : UInt8) : Option Nat :=
  ((bytes.drop i).findIdx? (· == b)).map (i + ·)

/-- The scanning loop of {lit}`splitAddrTokens` from byte offset `i`.  Every
iteration moves past at least one byte, so the text's length bounds it. -/
def splitAddrTokensFrom (s : List Char) (bytes : List UInt8) :
    Nat → Nat → Except Failure (List (List Char))
  | 0, _ => .ok []
  | fuel + 1, i =>
      if i < bytes.length then
        if bytes[i]? = some '['.toUInt8 then do
          let close ← orInvalid (positionFrom bytes (i + 1) ']'.toUInt8)
            "Invalid format: unterminated '['"
          let token ← slice s i (close + 1)
          let i := close + 1
          if i < bytes.length then
            if bytes[i]? ≠ some ':'.toUInt8 then
              invalid "Invalid format: expected ':' after ']'"
            else if i + 1 = bytes.length then
              invalid "Invalid format: trailing ':' after ']'"
            else do
              let rest ← splitAddrTokensFrom s bytes fuel (i + 1)
              .ok (token :: rest)
          else .ok [token]
        else do
          let next := (positionFrom bytes i ':'.toUInt8).getD bytes.length
          let token ← slice s i next
          if next < bytes.length then
            if next + 1 = bytes.length then
              invalid "Invalid format: trailing ':'"
            else do
              let rest ← splitAddrTokensFrom s bytes fuel (next + 1)
              .ok (token :: rest)
          else .ok [token]
      else .ok []

/-- Split on `:` while treating `[...]` as a single token, kept with its
brackets. -/
def splitAddrTokens (s : List Char) : Except Failure (List (List Char)) :=
  let bytes := asBytes s
  splitAddrTokensFrom s bytes bytes.length 0

/-- Remove a pair of surrounding brackets. -/
def unbracket (s : List Char) : List Char :=
  if 2 ≤ (asBytes s).length ∧ s.head? = some '[' ∧ s.getLast? = some ']' then
    s.tail.dropLast
  else s

/-- Parse an address token. -/
def parseIp (s : List Char) (what : String) : Except Failure IpAddr :=
  orInvalid (parseIpAddr (unbracket s)) ("Invalid " ++ what)

/-- Parse a port token. -/
def parsePort (s : List Char) (what : String) : Except Failure UInt16 :=
  orInvalid (parseU16 s) ("Invalid " ++ what)

/-- The wildcard default for an omitted local host. -/
def anyV4 : IpAddr := .v4 .unspecified

/-- The default host of a SOCKS5 listener. -/
def socksDefaultLocal : IpAddr := .v4 .localhost

/-- The default port of a SOCKS5 listener. -/
def socksDefaultPort : UInt16 := 1080

/-- The token that asks for a SOCKS5 tunnel. -/
def socksKeyword : List Char := "socks".toList

/-- The token that asks for a stdio tunnel. -/
def stdioKeyword : List Char := "stdio".toList

/-- Build the kind of a static tunnel; TCP unless a suffix says otherwise. -/
def makeHostPortKind (localAddr : SocketAddr) (remote : HostPort)
    (protocol : Option Protocol) : RemoteKind :=
  match protocol.getD .tcp with
  | .tcp => .tcp localAddr remote
  | .udp => .udp localAddr remote

/-- The forms `socks` and `port`. -/
def parseOneToken (token : List Char) (protocol : Option Protocol) :
    Except Failure RemoteKind :=
  if token = socksKeyword then
    .ok (.socks5 (.new socksDefaultLocal socksDefaultPort))
  else do
    let port ← parsePort token "remote port"
    .ok (makeHostPortKind (.new anyV4 port) ⟨"0.0.0.0", port⟩ protocol)

/-- The forms `port:socks` and `host:port`. -/
def parseTwoTokens (t₀ t₁ : List Char) (protocol : Option Protocol) :
    Except Failure RemoteKind :=
  if t₁ = socksKeyword then do
    let localPort ← parsePort t₀ "remote port"
    .ok (.socks5 (.new socksDefaultLocal localPort))
  else do
    let remoteHost := String.ofList (unbracket t₀)
    let remotePort ← parsePort t₁ "remote port"
    .ok (makeHostPortKind (.new anyV4 remotePort) ⟨remoteHost, remotePort⟩ protocol)

/-- The forms `local-host:local-port:socks` and `local-port:host:port`. -/
def parseThreeTokens (t₀ t₁ t₂ : List Char) (protocol : Option Protocol) :
    Except Failure RemoteKind :=
  if t₂ = socksKeyword then do
    let localHost ← parseIp t₀ "local host"
    let localPort ← parsePort t₁ "local port"
    .ok (.socks5 (.new localHost localPort))
  else do
    let localPort ← parsePort t₀ "local port"
    let remoteHost := String.ofList (unbracket t₁)
    let remotePort ← parsePort t₂ "remote port"
    .ok (makeHostPortKind (.new anyV4 localPort) ⟨remoteHost, remotePort⟩ protocol)

/-- The full form `local-host:local-port:host:port`. -/
def parseFourTokens (t₀ t₁ t₂ t₃ : List Char) (protocol : Option Protocol) :
    Except Failure RemoteKind := do
  let localHost ← parseIp t₀ "local host"
  let localPort ← parsePort t₁ "local port"
  let remoteHost := String.ofList (unbracket t₂)
  let remotePort ← parsePort t₃ "remote port"
  .ok (makeHostPortKind (.new localHost localPort) ⟨remoteHost, remotePort⟩ protocol)

/-- Combine address tokens with the protocol suffix; the shape is determined by
the token count. -/
def tokensToKind (tokens : List (List Char)) (protocol : Option Protocol) :
    Except Failure RemoteKind :=
  match tokens with
  | [] => invalid "Invalid format: Missing parts"
  | [t₀] => parseOneToken t₀ protocol
  | [t₀, t₁] => parseTwoTokens t₀ t₁ protocol
  | [t₀, t₁, t₂] => parseThreeTokens t₀ t₁ t₂ protocol
  | [t₀, t₁, t₂, t₃] => parseFourTokens t₀ t₁ t₂ t₃ protocol
  | _ => invalid "Invalid format: Unexpected number of address parts"

/-- The tokens after a leading `stdio`.  The local address is a dummy that is
never bound. -/
def tokensToStdioKind (tokens : List (List Char)) (protocol : Option Protocol) :
    Except Failure RemoteKind :=
  if socksKeyword ∈ tokens then
    invalid "Invalid format: stdio cannot be combined with socks"
  else
    let localAddr := SocketAddr.new anyV4 0
    match tokens with
    | [t₀] => do
        let port ← parsePort t₀ "remote port"
        .ok (makeHostPortKind localAddr ⟨"127.0.0.1", port⟩ protocol)
    | [t₀, t₁] => do
        let remoteHost := String.ofList (unbracket t₀)
        let remotePort ← parsePort t₁ "remote port"
        .ok (makeHostPortKind localAddr ⟨remoteHost, remotePort⟩ protocol)
    | [] => invalid "Invalid format: stdio requires a remote host:port or port"
    | _ => invalid "Invalid format: stdio expects '<host>:<port>' or '<port>'"

/-- The last part of {lit}`from_str`, once the tokens are split. -/
def tokensToRequest (direction : Direction) (protocolHint : Option Protocol)
    (tokens : List (List Char)) : Except Failure RemoteRequest :=
  if tokens.head? = some stdioKeyword then
    if direction = .reverse then
      invalid "Invalid format: stdio cannot be reversed"
    else do
      let kind ← tokensToStdioKind tokens.tail protocolHint
      .ok { direction := direction, kind := kind, stdio := true }
  else do
    let kind ← tokensToKind tokens protocolHint
    .ok { direction := direction, kind := kind, stdio := false }

/-- What is left to do once the marker and the protocol are stripped. -/
def bodyToRequest (direction : Direction) (protocolHint : Option Protocol) (body : List Char) :
    Except Failure RemoteRequest :=
  splitAddrTokens body >>= tokensToRequest direction protocolHint

/-- Parse one `--remote` flag. -/
def RemoteRequest.fromStr (input : String) : Except Failure RemoteRequest := do
  let (direction, afterDir) ← parseDirection input.toList
  let (protocolHint, body) ← parseProtocol afterDir
  bodyToRequest direction protocolHint body

/-- The tokens of an accepted remote are those of a stdio remote, which is a forward
one, or of one with a listener. -/
theorem tokensToRequest_eq_ok {direction : Direction} {protocol : Option Protocol}
    {tokens : List (List Char)} {r : RemoteRequest}
    (h : tokensToRequest direction protocol tokens = .ok r) :
    (tokens.head? = some stdioKeyword ∧ direction = .forward ∧
      ∃ kind, tokensToStdioKind tokens.tail protocol = .ok kind ∧ r = ⟨direction, kind, true⟩) ∨
    (tokens.head? ≠ some stdioKeyword ∧
      ∃ kind, tokensToKind tokens protocol = .ok kind ∧ r = ⟨direction, kind, false⟩) := by
  unfold tokensToRequest at h
  split_ifs at h with hstdio hdirection
  · obtain ⟨kind, hkind, hr⟩ := bind_eq_ok h
    cases hr
    refine .inl ⟨hstdio, ?_, kind, hkind, rfl⟩
    cases direction with
    | forward => rfl
    | reverse => exact absurd rfl hdirection
  · obtain ⟨kind, hkind, hr⟩ := bind_eq_ok h
    cases hr
    exact .inr ⟨hstdio, kind, hkind, rfl⟩

/-- An accepted remote was made from tokens. -/
theorem fromStr_tokens {input : String} {r : RemoteRequest}
    (h : RemoteRequest.fromStr input = .ok r) :
    ∃ direction protocol body tokens, splitAddrTokens body = .ok tokens ∧
      tokensToRequest direction protocol tokens = .ok r := by
  obtain ⟨⟨direction, afterDir⟩, -, h⟩ := bind_eq_ok h
  obtain ⟨⟨protocol, body⟩, -, h⟩ := bind_eq_ok h
  obtain ⟨tokens, htokens, h⟩ := bind_eq_ok h
  exact ⟨direction, protocol, body, tokens, htokens, h⟩

/-! ## Stdio remotes -/

theorem makeHostPortKind_ne_socks5 (localAddr : SocketAddr) (remote : HostPort)
    (protocol : Option Protocol) (a : SocketAddr) :
    makeHostPortKind localAddr remote protocol ≠ .socks5 a := by
  unfold makeHostPortKind
  cases protocol.getD .tcp <;> simp

/-- A stdio remote has a static target, and a local address without extras. -/
theorem tokensToStdioKind_eq_ok {tokens : List (List Char)} {protocol : Option Protocol}
    {kind : RemoteKind} (h : tokensToStdioKind tokens protocol = .ok kind) :
    ∃ ip port remote, kind = makeHostPortKind (.new ip port) remote protocol := by
  unfold tokensToStdioKind at h
  split at h
  · cases h
  · split at h
    · rcases bind_eq_ok h with ⟨port, _, hkind⟩
      cases hkind
      exact ⟨_, _, _, rfl⟩
    · rcases bind_eq_ok h with ⟨port, _, hkind⟩
      cases hkind
      exact ⟨_, _, _, rfl⟩
    · cases h
    · cases h

/-- An accepted stdio remote is a forward TCP or UDP remote. -/
theorem fromStr_stdio {input : String} {r : RemoteRequest}
    (h : RemoteRequest.fromStr input = .ok r) (hstdio : r.stdio = true) :
    r.direction = .forward ∧ ∀ a, r.kind ≠ .socks5 a := by
  obtain ⟨direction, protocol, body, tokens, -, h⟩ := fromStr_tokens h
  rcases tokensToRequest_eq_ok h with ⟨-, rfl, kind, hkind, rfl⟩ | ⟨-, kind, -, rfl⟩
  · obtain ⟨ip, port, remote, rfl⟩ := tokensToStdioKind_eq_ok hkind
    exact ⟨rfl, makeHostPortKind_ne_socks5 _ _ _⟩
  · cases hstdio

end Rusnel
