import Rusnel.Common.RemoteText

/-!
# Short forms of a remote

A remote may leave out its local host, its local port or its remote host, its
direction and its protocol.  What is left out has a default, and the short text
means the same as the one with the default written out.

Main results:

- Theorem {lit}`fromStr_shortForms`: every short form is parsed like its full
  form, the marker only turns the direction, and the suffix only picks the
  protocol.
-/

namespace Rusnel

open Net Text

/-! ## Ports and hosts -/

/-- The value of a text of decimal digits. -/
def decimalValue (p : List Char) : Nat :=
  p.foldl (fun n c => n * 10 + (toDigit 10 c).getD 0) 0

/-- The text of a port: decimal digits with a value that fits. -/
structure PortText (p : List Char) : Prop where
  ne_nil : p ≠ []
  digit : ∀ c ∈ p, (toDigit 10 c).isSome
  le_max : decimalValue p ≤ 65535

/-- The text of a host: one token of an address, without a slash. -/
structure HostToken (h : List Char) : Prop where
  token : AddrToken h
  slash : '/' ∉ h

/-- Digits only raise the value. -/
theorem le_foldl_digits (s : List Char) (acc : Nat) :
    acc ≤ s.foldl (fun n c => n * 10 + (toDigit 10 c).getD 0) acc := by
  induction s generalizing acc with
  | nil => exact Nat.le_refl acc
  | cons c s ih =>
      have hrest := ih (acc * 10 + (toDigit 10 c).getD 0)
      rw [List.foldl_cons]
      omega

/-- Digits whose value is within the bound are read to that value. -/
theorem decimalDigits_of_le {max acc : Nat} {s : List Char}
    (hdigit : ∀ c ∈ s, (toDigit 10 c).isSome)
    (hmax : s.foldl (fun n c => n * 10 + (toDigit 10 c).getD 0) acc ≤ max) :
    decimalDigits max acc s
      = some (s.foldl (fun n c => n * 10 + (toDigit 10 c).getD 0) acc) := by
  induction s generalizing acc with
  | nil => rfl
  | cons c s ih =>
      obtain ⟨d, hd⟩ := Option.isSome_iff_exists.mp (hdigit c List.mem_cons_self)
      have hle := le_foldl_digits s (acc * 10 + d)
      simp only [List.foldl_cons, hd, Option.getD_some] at hmax ⊢
      rw [decimalDigits, hd]
      dsimp only
      rw [if_pos (by omega)]
      exact ih (fun c hc => hdigit c (List.mem_cons_of_mem _ hc)) hmax

variable {p : List Char}

/-- A port is read to its value. -/
theorem PortText.parse (hp : PortText p) : parseU16 p = some (.ofNat (decimalValue p)) := by
  have hplus : p.head? ≠ some '+' := fun hhead =>
    absurd (hp.digit _ (List.mem_of_head? hhead)) (by decide)
  rw [parseU16, parseUnsigned_of_head hp.ne_nil hplus,
    decimalDigits_of_le hp.digit hp.le_max]
  rfl

/-- A port can stand as a token. -/
theorem PortText.token (hp : PortText p) : AddrToken p :=
  (parseU16_plain hp.parse).1

/-- No port is mistaken for a protocol suffix. -/
theorem PortText.slash (hp : PortText p) : '/' ∉ p := fun hslash =>
  absurd (hp.digit _ hslash) (by decide)

/-- No port is mistaken for the direction marker. -/
theorem PortText.head (hp : PortText p) : p.head? ≠ some 'R' := fun hhead =>
  absurd (hp.digit _ (List.mem_of_head? hhead)) (by decide)

/-! ## From tokens to a request -/

/-- Tokens with colons between them. -/
def joined (tokens : List (List Char)) : List Char :=
  [':'].intercalate tokens

theorem joined_cons (t next : List Char) (rest : List (List Char)) :
    joined (t :: next :: rest) = t ++ ':' :: joined (next :: rest) := by
  simp [joined, List.intercalate_cons_cons]

/-- Tokens that can be joined and split again. -/
structure Joinable (tokens : List (List Char)) : Prop where
  part : ∀ t ∈ tokens, AddrToken t ∧ '/' ∉ t
  ne_nil : tokens ≠ []
  last : tokens.getLast? ≠ some []

variable {t : List Char}

/-- One token can be joined. -/
theorem Joinable.single (ht : AddrToken t ∧ '/' ∉ t) (hne : t ≠ []) : Joinable [t] where
  part := List.forall_mem_singleton.mpr ht
  ne_nil := by simp
  last := by simpa using hne

variable {tokens : List (List Char)}

/-- A token can be put in front. -/
theorem Joinable.cons (ht : AddrToken t ∧ '/' ∉ t) (h : Joinable tokens) :
    Joinable (t :: tokens) where
  part := List.forall_mem_cons.mpr ⟨ht, h.part⟩
  ne_nil := by simp
  last := by
    cases tokens with
    | nil => exact absurd rfl h.ne_nil
    | cons next tokens => simpa using h.last

/-- The tokenizer takes joined tokens apart again. -/
theorem addrTokens_joined (h : Joinable tokens) :
    joined tokens ≠ [] ∧ AddrTokens (joined tokens) tokens := by
  induction tokens with
  | nil => exact absurd rfl h.ne_nil
  | cons t tokens ih =>
      obtain ⟨ht, htokens⟩ := List.forall_mem_cons.mp h.part
      cases tokens with
      | nil =>
          have hone : joined [t] = t := List.intercalate_singleton
          have hne : t ≠ [] := fun hnil => h.last (by rw [hnil]; rfl)
          rw [hone]
          exact ⟨hne, .last ht.1 hne⟩
      | cons next tokens =>
          obtain ⟨hrest, hsplit⟩ := ih ⟨htokens, by simp, by simpa using h.last⟩
          rw [joined_cons]
          exact ⟨by simp, .cons ht.1 hrest hsplit⟩

/-- Joining brings no slash in. -/
theorem slash_joined (htokens : ∀ t ∈ tokens, '/' ∉ t) : '/' ∉ joined tokens := by
  induction tokens with
  | nil => simp [joined]
  | cons t tokens ih =>
      obtain ⟨ht, htokens⟩ := List.forall_mem_cons.mp htokens
      cases tokens with
      | nil => simpa [joined] using ht
      | cons next tokens =>
          rw [joined_cons, List.mem_append, List.mem_cons]
          rintro (hmem | hmem | hmem)
          · exact ht hmem
          · exact absurd hmem (by decide)
          · exact ih htokens hmem

/-- A token other than `R` in front of others is no marker. -/
theorem AddrToken.unmarked (ht : AddrToken t) (hne : t ≠ "R".toList) (rest : List Char) :
    Unmarked (t ++ ':' :: rest) := by
  cases ht with
  | bracketed hclose => exact unmarked_of_head (by simp)
  | plain hcolon hhead =>
      rcases t with _ | ⟨c, _ | ⟨d, t⟩⟩
      · exact unmarked_of_head (by simp)
      · have hc : c ≠ 'R' := fun hc => hne (by rw [hc]; rfl)
        exact unmarked_of_head (by simpa using hc)
      · have hd : d ≠ ':' := fun hd => hcolon (by simp [hd])
        refine ⟨by simp, fun rest' heq => ?_⟩
        obtain ⟨-, htail⟩ := List.cons.inj heq
        exact hd (List.cons.inj htail).1

variable {direction : Direction}

/-- The parser splits a spec text of joined tokens into these tokens. -/
theorem fromStr_joined (protocol : Option Protocol) (htokens : Joinable tokens)
    (hmarked : direction = .forward → Unmarked (joined tokens)) :
    RemoteRequest.fromStr (specText direction (joined tokens) protocol)
      = tokensToRequest direction protocol tokens := by
  obtain ⟨hjoined, hsplit⟩ := addrTokens_joined htokens
  have hslash : '/' ∉ joined tokens := slash_joined fun t ht => (htokens.part t ht).2
  rw [fromStr_specText direction hjoined hmarked fun _ => hslash, bodyToRequest,
    splitAddrTokens_eq_ok.mpr hsplit]
  rfl

/-! ## The forms of an address -/

/-- The wildcard host, as it is written. -/
def anyHost : List Char := "0.0.0.0".toList

/-- The loopback host, as it is written. -/
def loopbackHost : List Char := "127.0.0.1".toList

/-- Both texts are the same remote, whatever the marker and the suffix. -/
def SameRemote (direction : Direction) (protocol : Option Protocol)
    (short full : List (List Char)) : Prop :=
  RemoteRequest.fromStr (specText direction (joined short) protocol)
    = RemoteRequest.fromStr (specText direction (joined full) protocol)

/-- The host that stands for every interface. -/
theorem parseIp_anyHost (what : String) : parseIp anyHost what = .ok anyV4 := by
  have hparse : parseIpAddr (unbracket anyHost) = some anyV4 := by decide +kernel
  rw [parseIp, hparse]
  rfl

/-- The host that stands for the loopback interface. -/
theorem parseIp_loopbackHost (what : String) :
    parseIp loopbackHost what = .ok socksDefaultLocal := by
  have hparse : parseIpAddr (unbracket loopbackHost) = some socksDefaultLocal := by decide +kernel
  rw [parseIp, hparse]
  rfl

section Forms

variable {p lp h : List Char} (protocol : Option Protocol)

/-- A port alone is local and remote port. -/
theorem tokensToKind_port (hp : PortText p) :
    tokensToKind [p] protocol = tokensToKind [anyHost, p, anyHost, p] protocol := by
  have hport := hp.parse
  have hsocks := (parseU16_plain hport).2.1
  have hhost : String.ofList (unbracket anyHost) = "0.0.0.0" := by decide +kernel
  simp [tokensToKind, parseOneToken, parseFourTokens, hsocks, parseIp_anyHost, hhost, parsePort,
    hport, orInvalid, bind, Except.bind]

/-- A host and a port listen on the same port locally. -/
theorem tokensToKind_hostPort (hp : PortText p) :
    tokensToKind [h, p] protocol = tokensToKind [anyHost, p, h, p] protocol := by
  have hport := hp.parse
  have hsocks := (parseU16_plain hport).2.1
  simp [tokensToKind, parseTwoTokens, parseFourTokens, hsocks, parseIp_anyHost, parsePort, hport,
    orInvalid, bind, Except.bind]

/-- A local port without a host listens on every interface. -/
theorem tokensToKind_localPort (hp : PortText p) :
    tokensToKind [lp, h, p] protocol = tokensToKind [anyHost, lp, h, p] protocol := by
  have hport := hp.parse
  have hsocks := (parseU16_plain hport).2.1
  simp [tokensToKind, parseThreeTokens, parseFourTokens, hsocks, parseIp_anyHost, bind,
    Except.bind]

/-- SOCKS5 without a port listens on the loopback interface, port 1080. -/
theorem tokensToKind_socks :
    tokensToKind [socksKeyword] protocol
      = tokensToKind [loopbackHost, "1080".toList, socksKeyword] protocol := by
  have hport : parsePort "1080".toList "local port" = .ok socksDefaultPort := by decide +kernel
  simp only [tokensToKind, parseOneToken, parseThreeTokens, if_true, parseIp_loopbackHost, hport,
    bind, Except.bind]

/-- SOCKS5 without a host listens on the loopback interface. -/
theorem tokensToKind_portSocks (hp : PortText p) :
    tokensToKind [p, socksKeyword] protocol
      = tokensToKind [loopbackHost, p, socksKeyword] protocol := by
  have hport := hp.parse
  simp [tokensToKind, parseTwoTokens, parseThreeTokens, parseIp_loopbackHost, parsePort, hport,
    orInvalid, bind, Except.bind]

/-- On stdio a port alone is one of the loopback interface. -/
theorem tokensToStdioKind_port (hp : PortText p) :
    tokensToStdioKind [p] protocol = tokensToStdioKind [loopbackHost, p] protocol := by
  have hport := hp.parse
  have hsocks := (parseU16_plain hport).2.1
  have hloopback : loopbackHost ≠ socksKeyword := by decide
  have hhost : String.ofList (unbracket loopbackHost) = "127.0.0.1" := by decide +kernel
  simp [tokensToStdioKind, Ne.symm hsocks, Ne.symm hloopback, hhost, parsePort, hport, orInvalid,
    bind, Except.bind]

end Forms

/-! ## Direction and protocol -/

/-- The kind over UDP; a SOCKS5 tunnel has no protocol to choose. -/
def RemoteKind.overUdp : RemoteKind → RemoteKind
  | .tcp localAddr remote => .udp localAddr remote
  | kind => kind

/-- The kind a suffix asks for. -/
def RemoteKind.over (kind : RemoteKind) : Protocol → RemoteKind
  | .tcp => kind
  | .udp => kind.overUdp

/-- The protocol of a static remote is put in at the end. -/
theorem ok_makeHostPortKind_over (localAddr : SocketAddr) (remote : HostPort)
    (protocol : Protocol) :
    Except.ok (makeHostPortKind localAddr remote (some protocol))
      = (Except.ok (makeHostPortKind localAddr remote none) : Except Failure RemoteKind).map
        (·.over protocol) := by
  cases protocol <;> rfl

/-- A map commutes with what comes before it. -/
theorem bind_map_eq {α β γ : Type} {φ : β → γ} (x : Except Failure α)
    {f : α → Except Failure γ} {g : α → Except Failure β} (hfg : ∀ a, f a = (g a).map φ) :
    (x >>= f) = (x >>= g).map φ := by
  cases x with
  | error e => rfl
  | ok a => exact hfg a

/-- The suffix only picks the protocol. -/
theorem tokensToKind_over (tokens : List (List Char)) (protocol : Protocol) :
    tokensToKind tokens (some protocol) = (tokensToKind tokens none).map (·.over protocol) := by
  have hsocks : ∀ a, Except.ok (RemoteKind.socks5 a)
      = (Except.ok (RemoteKind.socks5 a) : Except Failure RemoteKind).map (·.over protocol) := by
    intro a
    cases protocol <;> rfl
  unfold tokensToKind
  split
  · rfl
  · unfold parseOneToken
    split_ifs
    · exact hsocks _
    · exact bind_map_eq _ fun _ => ok_makeHostPortKind_over _ _ _
  · unfold parseTwoTokens
    split_ifs
    · exact bind_map_eq _ fun _ => hsocks _
    · exact bind_map_eq _ fun _ => ok_makeHostPortKind_over _ _ _
  · unfold parseThreeTokens
    split_ifs
    · exact bind_map_eq _ fun _ => bind_map_eq _ fun _ => hsocks _
    · exact bind_map_eq _ fun _ => bind_map_eq _ fun _ => ok_makeHostPortKind_over _ _ _
  · exact bind_map_eq _ fun _ => bind_map_eq _ fun _ => bind_map_eq _ fun _ =>
      ok_makeHostPortKind_over _ _ _
  · rfl

/-- A protocol picks the kind of a stdio remote that is read without one. -/
theorem tokensToStdioKind_over (tokens : List (List Char)) (protocol : Protocol) :
    tokensToStdioKind tokens (some protocol)
      = (tokensToStdioKind tokens none).map (·.over protocol) := by
  unfold tokensToStdioKind
  split_ifs
  · rfl
  · dsimp only
    split
    · exact bind_map_eq _ fun _ => ok_makeHostPortKind_over _ _ _
    · exact bind_map_eq _ fun _ => ok_makeHostPortKind_over _ _ _
    · rfl
    · rfl

/-- A request over the protocol a suffix asks for. -/
def RemoteRequest.over (r : RemoteRequest) (protocol : Protocol) : RemoteRequest :=
  { r with kind := r.kind.over protocol }

/-- The same for the whole text behind the direction. -/
theorem bodyToRequest_over (direction : Direction) (body : List Char) (protocol : Protocol) :
    bodyToRequest direction (some protocol) body
      = (bodyToRequest direction none body).map (·.over protocol) := by
  refine bind_map_eq _ fun tokens => ?_
  unfold tokensToRequest
  split_ifs
  · rfl
  · rw [tokensToStdioKind_over]
    cases tokensToStdioKind tokens.tail none <;> rfl
  · rw [tokensToKind_over]
    cases tokensToKind tokens none <;> rfl

variable {protocol : Option Protocol} {r : RemoteRequest}

/-- A remote that is not on stdio can be turned. -/
theorem bodyToRequest_reverse {body : List Char} (h : bodyToRequest .forward protocol body = .ok r)
    (hstdio : r.stdio = false) :
    bodyToRequest .reverse protocol body = .ok { r with direction := .reverse } := by
  obtain ⟨tokens, htokens, h⟩ := bind_eq_ok h
  rw [bodyToRequest, htokens]
  change tokensToRequest .reverse protocol tokens = _
  rcases tokensToRequest_eq_ok h with ⟨-, -, kind, -, rfl⟩ | ⟨hhead, kind, hkind, rfl⟩
  · cases hstdio
  · rw [tokensToRequest, if_neg hhead, hkind]
    rfl

/-- Behind the marker comes the whole text if there is no marker. -/
theorem parseDirection_eq_ok {s rest : List Char} (h : parseDirection s = .ok (direction, rest)) :
    s = directionMarker direction ++ rest ∧ (direction = .forward → Unmarked s) ∧
      (direction = .reverse → rest ≠ []) := by
  unfold parseDirection at h
  split at h
  · split_ifs at h with hne
    cases h
    exact ⟨rfl, by simp, fun _ => hne⟩
  · rename_i hmarker
    split_ifs at h with hsingle
    cases h
    exact ⟨rfl, fun _ => ⟨hsingle, hmarker⟩, by simp⟩

/-- What an accepted text consists of. -/
theorem fromStr_parts {input : String} (h : RemoteRequest.fromStr input = .ok r) :
    ∃ direction protocol rest body, input.toList = directionMarker direction ++ rest ∧
      (direction = .forward → Unmarked rest) ∧ rest ≠ [] ∧
      parseProtocol rest = .ok (protocol, body) ∧
      bodyToRequest direction protocol body = .ok r := by
  obtain ⟨⟨direction, rest⟩, hdirection, h⟩ := bind_eq_ok h
  obtain ⟨⟨protocol, body⟩, hprotocol, hbody⟩ := bind_eq_ok h
  obtain ⟨hinput, hmarked, hreverse⟩ := parseDirection_eq_ok hdirection
  refine ⟨direction, protocol, rest, body, hinput, fun hforward => ?_, ?_, hprotocol, hbody⟩
  · subst hforward
    have hall := hmarked rfl
    rwa [hinput] at hall
  · rintro rfl
    cases hprotocol
    cases hbody

/-- A remote has the direction it was read for. -/
theorem bodyToRequest_direction {body : List Char}
    (h : bodyToRequest direction protocol body = .ok r) : r.direction = direction := by
  obtain ⟨tokens, -, h⟩ := bind_eq_ok h
  rcases tokensToRequest_eq_ok h with ⟨-, -, kind, -, rfl⟩ | ⟨-, kind, -, rfl⟩ <;> rfl

/-- A forward remote that is not on stdio is turned by the marker. -/
theorem fromStr_turned {input : String} (h : RemoteRequest.fromStr input = .ok r)
    (hforward : r.direction = .forward) (hstdio : r.stdio = false) :
    RemoteRequest.fromStr ("R:" ++ input) = .ok { r with direction := .reverse } := by
  obtain ⟨direction, protocol, rest, body, hinput, -, hne, hprotocol, hbody⟩ := fromStr_parts h
  obtain rfl : direction = .forward := (bodyToRequest_direction hbody).symm.trans hforward
  have hturned : parseDirection ("R:" ++ input).toList = .ok (.reverse, rest) := by
    have htext : ("R:" ++ input).toList = directionMarker .reverse ++ rest := by
      rw [String.toList_append, hinput]
      rfl
    rw [htext]
    exact parseDirection_marker .reverse hne (by simp)
  rw [RemoteRequest.fromStr, hturned]
  change (parseProtocol rest >>= fun p => bodyToRequest .reverse p.1 p.2) = _
  rw [hprotocol]
  exact bodyToRequest_reverse hbody hstdio

/-- The suffix picks the protocol of a remote that has none. -/
theorem fromStr_suffixed {input : String} (h : RemoteRequest.fromStr input = .ok r)
    (hslash : '/' ∉ input.toList) (protocol : Protocol) :
    RemoteRequest.fromStr (.ofList (input.toList ++ protocolSuffix (some protocol)))
      = .ok (r.over protocol) := by
  obtain ⟨direction, hint, rest, body, hinput, hmarked, hne, hprotocol, hbody⟩ := fromStr_parts h
  rw [hinput, List.mem_append, not_or] at hslash
  have hnone : parseProtocol rest = .ok (none, rest) := by
    simpa [protocolSuffix] using @parseProtocol_suffix none rest fun _ => hslash.2
  cases hprotocol.symm.trans hnone
  have hspec : String.ofList (input.toList ++ protocolSuffix (some protocol))
      = specText direction rest (some protocol) := by
    rw [specText, hinput, List.append_assoc]
  rw [hspec, fromStr_specText direction hne hmarked (by simp), bodyToRequest_over, hbody]
  rfl

/-! ## All forms -/

theorem PortText.part (hp : PortText p) : AddrToken p ∧ '/' ∉ p :=
  ⟨hp.token, hp.slash⟩

theorem HostToken.part {h : List Char} (hh : HostToken h) : AddrToken h ∧ '/' ∉ h :=
  ⟨hh.token, hh.slash⟩

/-- The keywords and default hosts can be joined. -/
theorem part_keywords : (AddrToken socksKeyword ∧ '/' ∉ socksKeyword) ∧
    (AddrToken stdioKeyword ∧ '/' ∉ stdioKeyword) ∧ (AddrToken anyHost ∧ '/' ∉ anyHost) ∧
    (AddrToken loopbackHost ∧ '/' ∉ loopbackHost) := by
  refine ⟨⟨.plain ?_ ?_, ?_⟩, ⟨.plain ?_ ?_, ?_⟩, ⟨.plain ?_ ?_, ?_⟩, ⟨.plain ?_ ?_, ?_⟩⟩ <;> decide

/-- Joined tokens start as the first one does. -/
theorem head?_joined (hne : t ≠ []) (tokens : List (List Char)) :
    (joined (t :: tokens)).head? = t.head? := by
  cases tokens with
  | nil => simp [joined]
  | cons next tokens => rw [joined_cons, List.head?_append_of_ne_nil _ hne]

/-- Texts that start with a token that is no marker are compared by what is made
of their tokens. -/
theorem sameRemote_of_tokens {short full : List (List Char)} (hshort : Joinable short)
    (hfull : Joinable (t :: full)) (hmarked : direction = .forward → Unmarked (joined short))
    (ht : t ≠ [] ∧ t.head? ≠ some 'R') (hrequest : tokensToRequest direction protocol short
      = tokensToRequest direction protocol (t :: full)) :
    SameRemote direction protocol short (t :: full) := by
  have hmarked' : Unmarked (joined (t :: full)) :=
    unmarked_of_head (by rw [head?_joined ht.1]; exact ht.2)
  rw [SameRemote, fromStr_joined protocol hshort hmarked,
    fromStr_joined protocol hfull fun _ => hmarked', hrequest]

/-- Off stdio the request is decided by the kind. -/
theorem tokensToRequest_of_kind {t t' : List Char} {tokens tokens' : List (List Char)}
    (ht : t ≠ stdioKeyword) (ht' : t' ≠ stdioKeyword)
    (hkind : tokensToKind (t :: tokens) protocol = tokensToKind (t' :: tokens') protocol)
    (direction : Direction) :
    tokensToRequest direction protocol (t :: tokens)
      = tokensToRequest direction protocol (t' :: tokens') := by
  rw [tokensToRequest, if_neg (by simpa using ht), tokensToRequest, if_neg (by simpa using ht'),
    hkind]

section Same

variable (direction : Direction) (protocol : Option Protocol) {p lp h : List Char}

/-- `port` is `0.0.0.0:port:0.0.0.0:port`. -/
theorem sameRemote_port (hp : PortText p) :
    SameRemote direction protocol [p] [anyHost, p, anyHost, p] := by
  have hlast := Joinable.single hp.part hp.ne_nil
  have hany := part_keywords.2.2.1
  refine sameRemote_of_tokens hlast (.cons hany (.cons hp.part (.cons hany hlast)))
    (fun _ => unmarked_of_head ?_) (by decide) ?_
  · rw [head?_joined hp.ne_nil]
    exact hp.head
  · exact tokensToRequest_of_kind (parseU16_plain hp.parse).2.2 (by decide)
      (tokensToKind_port protocol hp) direction

/-- `host:port` is `0.0.0.0:port:host:port`, unless the host is a keyword or reads as a
marker. -/
theorem sameRemote_hostPort (hh : HostToken h) (hp : PortText p) (hstdio : h ≠ stdioKeyword)
    (hmarker : direction = .forward → h ≠ "R".toList) :
    SameRemote direction protocol [h, p] [anyHost, p, h, p] := by
  have hlast := Joinable.single hp.part hp.ne_nil
  have hpair := Joinable.cons hh.part hlast
  refine sameRemote_of_tokens hpair (.cons part_keywords.2.2.1 (.cons hp.part hpair))
    (fun hforward => ?_) (by decide) ?_
  · rw [joined_cons]
    exact hh.token.unmarked (hmarker hforward) _
  · exact tokensToRequest_of_kind hstdio (by decide) (tokensToKind_hostPort protocol hp) direction

/-- `port:host:port` is `0.0.0.0:port:host:port`. -/
theorem sameRemote_localPort (hlp : PortText lp) (hh : HostToken h) (hp : PortText p) :
    SameRemote direction protocol [lp, h, p] [anyHost, lp, h, p] := by
  have htriple := Joinable.cons hlp.part (.cons hh.part (.single hp.part hp.ne_nil))
  refine sameRemote_of_tokens htriple (.cons part_keywords.2.2.1 htriple)
    (fun _ => unmarked_of_head ?_) (by decide) ?_
  · rw [head?_joined hlp.ne_nil]
    exact hlp.head
  · exact tokensToRequest_of_kind (parseU16_plain hlp.parse).2.2 (by decide)
      (tokensToKind_localPort protocol hp) direction

/-- `socks` is `127.0.0.1:1080:socks`. -/
theorem sameRemote_socks :
    SameRemote direction protocol [socksKeyword]
      [loopbackHost, "1080".toList, socksKeyword] := by
  have hlast := Joinable.single part_keywords.1 (by decide)
  have hport : AddrToken "1080".toList ∧ '/' ∉ "1080".toList :=
    ⟨.plain (by decide) (by decide), by decide⟩
  refine sameRemote_of_tokens hlast (.cons part_keywords.2.2.2 (.cons hport hlast))
    (fun _ => unmarked_of_head (by decide)) (by decide) ?_
  exact tokensToRequest_of_kind (by decide) (by decide) (tokensToKind_socks protocol) direction

/-- `port:socks` is `127.0.0.1:port:socks`. -/
theorem sameRemote_portSocks (hp : PortText p) :
    SameRemote direction protocol [p, socksKeyword] [loopbackHost, p, socksKeyword] := by
  have hpair := Joinable.cons hp.part (.single part_keywords.1 (by decide))
  refine sameRemote_of_tokens hpair (.cons part_keywords.2.2.2 hpair)
    (fun _ => unmarked_of_head ?_) (by decide) ?_
  · rw [head?_joined hp.ne_nil]
    exact hp.head
  · exact tokensToRequest_of_kind (parseU16_plain hp.parse).2.2 (by decide)
      (tokensToKind_portSocks protocol hp) direction

/-- `stdio:port` is `stdio:127.0.0.1:port`. -/
theorem sameRemote_stdio (hp : PortText p) :
    SameRemote direction protocol [stdioKeyword, p] [stdioKeyword, loopbackHost, p] := by
  have hlast := Joinable.single hp.part hp.ne_nil
  have hstdio := part_keywords.2.1
  refine sameRemote_of_tokens (.cons hstdio hlast)
    (.cons hstdio (.cons part_keywords.2.2.2 hlast)) (fun _ => unmarked_of_head ?_) (by decide) ?_
  · rw [head?_joined (by decide)]
    decide
  · simp only [tokensToRequest, List.head?_cons, if_true, List.tail_cons,
      tokensToStdioKind_port protocol hp]

end Same

/-- Short forms mean their full forms, the marker only turns the direction, and
the suffix only picks the protocol. -/
theorem fromStr_shortForms (direction : Direction) (protocol : Option Protocol) :
    (∀ p, PortText p → SameRemote direction protocol [p] [anyHost, p, anyHost, p]) ∧
    (∀ h p, HostToken h → PortText p → h ≠ stdioKeyword →
      (direction = .forward → h ≠ "R".toList) →
      SameRemote direction protocol [h, p] [anyHost, p, h, p]) ∧
    (∀ lp h p, PortText lp → HostToken h → PortText p →
      SameRemote direction protocol [lp, h, p] [anyHost, lp, h, p]) ∧
    SameRemote direction protocol [socksKeyword] [loopbackHost, "1080".toList, socksKeyword] ∧
    (∀ p, PortText p →
      SameRemote direction protocol [p, socksKeyword] [loopbackHost, p, socksKeyword]) ∧
    (∀ p, PortText p →
      SameRemote direction protocol [stdioKeyword, p] [stdioKeyword, loopbackHost, p]) ∧
    (∀ input r, RemoteRequest.fromStr input = .ok r → r.direction = .forward →
      r.stdio = false →
      RemoteRequest.fromStr ("R:" ++ input) = .ok { r with direction := .reverse }) ∧
    ∀ input r, RemoteRequest.fromStr input = .ok r → '/' ∉ input.toList →
      RemoteRequest.fromStr (input ++ "/tcp") = .ok r ∧
        RemoteRequest.fromStr (input ++ "/udp") = .ok { r with kind := r.kind.overUdp } := by
  refine ⟨fun p hp => sameRemote_port direction protocol hp,
    fun h p hh hp hstdio hmarker => sameRemote_hostPort direction protocol hh hp hstdio hmarker,
    fun lp h p hlp hh hp => sameRemote_localPort direction protocol hlp hh hp,
    sameRemote_socks direction protocol, fun p hp => sameRemote_portSocks direction protocol hp,
    fun p hp => sameRemote_stdio direction protocol hp,
    fun input r h hforward hstdio => fromStr_turned h hforward hstdio, fun input r h hslash => ?_⟩
  have htext : ∀ t : String, input ++ t = .ofList (input.toList ++ t.toList) := by
    intro t
    rw [← String.toList_inj]
    simp
  rw [htext, htext]
  exact ⟨fromStr_suffixed h hslash .tcp, fromStr_suffixed h hslash .udp⟩

/-- A host that starts with the marker's letter, and one that is that letter behind a
marker. -/
theorem fromStr_shortForms_samples :
    RemoteRequest.fromStr "Router:80" = RemoteRequest.fromStr "0.0.0.0:80:Router:80" ∧
      RemoteRequest.fromStr "R:R:80/udp" = RemoteRequest.fromStr "R:0.0.0.0:80:R:80/udp" := by
  have hport : PortText "80".toList :=
    ⟨by decide, List.forall_mem_cons.mpr ⟨by decide, List.forall_mem_singleton.mpr (by decide)⟩,
      by decide⟩
  have hrouter : HostToken "Router".toList := ⟨.plain (by decide) (by decide), by decide⟩
  have hletter : HostToken "R".toList := ⟨.plain (by decide) (by decide), by decide⟩
  have hforward := (fromStr_shortForms .forward none).2.1 _ _ hrouter hport (by decide)
    (fun _ => by decide)
  have hreverse := (fromStr_shortForms .reverse (some .udp)).2.1 _ _ hletter hport (by decide)
    (fun hdir => by cases hdir)
  exact ⟨hforward, hreverse⟩

end Rusnel
