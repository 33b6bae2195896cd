import Rusnel.Common.RemoteText
import Rusnel.Common.Wire
import Rusnel.EndToEnd.Routing
import Rusnel.EndToEnd.SocksConnect

/-!
# Hello and openers, byte for byte

The routing results speak of messages.  Here the messages are followed through
their encoding: what the client writes for its remotes, what the server makes of
the bytes, what it answers and what the client makes of the answer; and the same
for the opener of a conn, with payload right behind it in both directions.

Main results:

- Theorem {lit}`hello_over_wire`: an accepted hello is registered exactly as the
  client declared it, and the reply always fits the client's cap.
- Theorem {lit}`conn_opened_over_wire`: every opener a handler sends fits the cap,
  and the exchange leaves the payload of both sides untouched.
-/

namespace Rusnel
namespace EndToEnd

open ByteStream Net Text MessagePack Server Client

/-! ## The hello -/

section Hello

variable (codecs : ControlCodecs)

/-- `client_send_session_hello` up to its wait: what it puts on the stream. -/
def writeSessionHello (hello : SessionHello) : List UInt8 × Except String Unit :=
  writeFramed codecs.sessionHello [] hello

/-- Read a hello off a stream. -/
def serverReceiveSessionHello (recv : List UInt8) : Except String SessionHello :=
  (readFramed codecs.sessionHello recv).map Prod.fst

/-- What the server puts on the stream as its verdict. -/
def serverReplySessionHello (response : SessionHelloResponse) :
    List UInt8 × Except String Unit :=
  writeFramed codecs.sessionHelloResponse [] response

/-- `client_send_session_hello` from its wait on. -/
def readSessionHelloResponse (hello : SessionHello) (recv : List UInt8) :
    Except String (List UInt64) := do
  let (response, _) ← readFramed codecs.sessionHelloResponse recv
  clientSendSessionHello hello response

end Hello

/-- The local address of a tunnel is one without extras. -/
def Plain (kind : RemoteKind) : Prop :=
  ∃ ip port, kind.localAddr = .new ip port

theorem plain_makeHostPortKind (ip : IpAddr) (port : UInt16) (remote : HostPort)
    (protocol : Option Protocol) : Plain (makeHostPortKind (.new ip port) remote protocol) := by
  unfold makeHostPortKind
  cases protocol.getD .tcp <;> exact ⟨ip, port, rfl⟩

theorem plain_tokensToKind {tokens : List (List Char)} {protocol : Option Protocol}
    {kind : RemoteKind} (h : tokensToKind tokens protocol = .ok kind) : Plain kind := by
  obtain ⟨ip, port, rfl | ⟨remote, rfl, -⟩⟩ := tokensToKind_eq_ok h
  · exact ⟨ip, port, rfl⟩
  · exact plain_makeHostPortKind ..

/-- A parsed remote loses nothing on the wire. -/
theorem onWire_of_fromStr {text : String} {r : RemoteRequest}
    (h : RemoteRequest.fromStr text = .ok r) : r.onWire = r := by
  have hplain : Plain r.kind := by
    obtain ⟨direction, protocol, body, tokens, -, h⟩ := fromStr_tokens h
    rcases tokensToRequest_eq_ok h with ⟨-, -, kind, hkind, rfl⟩ | ⟨-, kind, hkind, rfl⟩
    · obtain ⟨ip, port, remote, rfl⟩ := tokensToStdioKind_eq_ok hkind
      exact plain_makeHostPortKind ..
    · exact plain_tokensToKind hkind
  obtain ⟨ip, port, hlocal⟩ := hplain
  have hkind : r.kind.onWire = r.kind := by
    cases hr : r.kind <;> rw [hr] at hlocal <;> cases ip <;> cases hlocal <;> rfl
  rw [RemoteRequest.onWire, hkind]

/-- A hello of parsed remotes loses nothing on the wire. -/
theorem hello_onWire_of_fromStr {hello : SessionHello}
    (h : ∀ r ∈ hello.remotes, ∃ text, RemoteRequest.fromStr text = .ok r) :
    hello.onWire = hello := by
  have hremotes : hello.remotes.map RemoteRequest.onWire = hello.remotes := by
    rw [List.map_congr_left (g := id), List.map_id]
    intro r hr
    obtain ⟨text, htext⟩ := h r hr
    exact onWire_of_fromStr htext
  rw [SessionHello.onWire, hremotes]

/-- A hello that the server has read was within its cap, and arrived. -/
theorem serverReceive_eq {codecs : ControlCodecs} (laws : codecs.Lawful)
    {hello received : SessionHello} {wire : List UInt8}
    (hwrite : writeSessionHello codecs hello = (wire, .ok ()))
    (hread : serverReceiveSessionHello codecs wire = .ok received) :
    received = hello.onWire ∧
      ∃ body, codecs.sessionHello.toBytes hello = .ok body ∧ body.length ≤ maxControlMsg := by
  unfold serverReceiveSessionHello at hread
  match hframe : readFramed codecs.sessionHello wire with
  | .error e =>
      rw [hframe] at hread
      cases hread
  | .ok (msg, rest) =>
      rw [hframe] at hread
      cases hread
      have hall : wire <+: wire ++ [] := List.prefix_append _ _
      obtain ⟨hmsg, -, hbody⟩ :=
        readFramed_of_prefix (laws.sessionHello hello) hwrite hall hframe
      exact ⟨hmsg, hbody⟩

/-- Ids take less room than the declarations they answer. -/
theorem reply_fits {codecs : ControlCodecs} (laws : codecs.Lawful) {hello : SessionHello}
    {ids : List UInt64} {body : List UInt8} (hlen : ids.length = hello.remotes.length)
    (hbody : codecs.sessionHello.toBytes hello = .ok body) (hcap : body.length ≤ maxControlMsg) :
    ∃ reply, codecs.sessionHelloResponse.toBytes (.ok ids) = .ok reply ∧
      reply.length ≤ maxControlMsg := by
  obtain ⟨reply, hreply, hsize⟩ := laws.sessionHelloResponse_size ids
  have hremotes := laws.sessionHello_size hello body hbody
  refine ⟨reply, hreply, ?_⟩
  simp only [maxControlMsg] at hcap ⊢
  omega

/-- However the registrations of any number of clients interleave: once a hello
of parsed remotes was read off the wire and accepted,

- the reply is delimited for the client, and its call returns the ids the server
  assigned;
- for each remote, in the order declared, the server holds a tunnel of the
  remote's direction and kind under the id at the remote's position. -/
theorem hello_over_wire {codecs : ControlCodecs} (laws : codecs.Lawful) {cfg : ServerConfig}
    {acts : List Action} {sys : System} (hrun : run cfg acts = some sys) {c : Nat} {s : Session}
    (hs : sys.sessions[c]? = some s) {hello received : SessionHello}
    (hparsed : ∀ r ∈ hello.remotes, ∃ text, RemoteRequest.fromStr text = .ok r)
    {wire : List UInt8} (hwrite : writeSessionHello codecs hello = (wire, .ok ()))
    (hread : serverReceiveSessionHello codecs wire = .ok received)
    (hremotes : s.remotes = some received.remotes) {ids : List UInt64}
    (hanswer : s.answer = some (.ok ids)) :
    (∃ reply, serverReplySessionHello codecs (.ok ids) = (reply, .ok ()) ∧
      Delimits (readFramed codecs.sessionHelloResponse) reply (.ok ids) ∧
      readSessionHelloResponse codecs hello reply = .ok ids) ∧
    ∀ (i : Nat) (r : RemoteRequest), hello.remotes[i]? = some r →
      ∃ t, s.tunnels[i]? = some t ∧ ids[i]? = some t.id ∧ t.direction = r.direction ∧
        t.kind = r.kind := by
  have hsession := ((run_lawful hrun).sessions c s hs).1
  obtain ⟨hreceived, body, hbody, hcap⟩ := serverReceive_eq laws hwrite hread
  rw [hello_onWire_of_fromStr hparsed] at hreceived
  rw [hreceived] at hremotes
  have hlen := reply_length hsession hremotes hanswer
  obtain ⟨reply, hreply, hfits⟩ := reply_fits laws hlen hbody hcap
  have hsmall : reply.length < 2 ^ 32 := Nat.lt_of_le_of_lt hfits (by decide)
  have hinv := (laws.sessionHelloResponse (.ok ids)).inverts hreply hsmall
  have hdelimits := readFramed_delimits hreply hinv hfits
  refine ⟨⟨_, writeFramed_ok hreply hsmall [], ?_, ?_⟩, ?_⟩
  · exact hdelimits
  · have hreturned := hdelimits.reads []
    rw [List.append_nil] at hreturned
    simp only [readSessionHelloResponse, List.nil_append]
    rw [hreturned]
    simp [bind, Except.bind, clientSendSessionHello, hlen]
  · intro i r hr
    exact tunnel_of_remote hsession hremotes hanswer hr

/-- The hello of a client started with `R:80` and `socks`. -/
def typedHello : SessionHello :=
  ⟨[.new .reverse (.tcp (.v4 ⟨0, 0, 0, 0⟩ 80) ⟨"0.0.0.0", 80⟩),
    .new .forward (.socks5 (.v4 ⟨127, 0, 0, 1⟩ 1080))]⟩

/-- Two clients register at the same time, each with remotes as their users wrote
them; the second hello is the one whose bytes are followed. -/
def typedRun : List Action :=
  let first : List SessionAction :=
    [.handshake true, .hello (.ok ⟨[.new .forward (.socks5 (.v4 ⟨127, 0, 0, 1⟩ 1080))]⟩)]
  let second : List SessionAction :=
    [.handshake true, .hello (.ok typedHello)]
  let register : List SessionAction := [.allocTunnelId, .insertClientTunnel, .insertTunnel]
  [.accept (.v4 ⟨10, 0, 0, 1⟩ 40000), .accept (.v4 ⟨10, 0, 0, 2⟩ 40000)] ++
    first.map (.session 0) ++ second.map (.session 1) ++ register.map (.session 1) ++
    register.map (.session 0) ++ register.map (.session 1) ++
    [.session 0 (.replyHello (.ok ())), .session 1 (.replyHello (.ok ()))]

theorem hello_over_wire_typed :
    ∃ sys s reply, run ⟨true, true, none⟩ typedRun = some sys ∧ sys.sessions[1]? = some s ∧
      serverReplySessionHello messagePack (.ok [1, 3]) = (reply, .ok ()) ∧
      readSessionHelloResponse messagePack typedHello reply = .ok [1, 3] ∧
      ∃ t, s.tunnels[0]? = some t ∧ t.id = 1 ∧ t.direction = .reverse := by
  have hrun := (Option.some_get
    (show (run ⟨true, true, none⟩ typedRun).isSome = true by decide +kernel)).symm
  have hparsed : ∀ r ∈ typedHello.remotes, ∃ text, RemoteRequest.fromStr text = .ok r := by
    intro r hr
    rcases List.mem_cons.mp hr with rfl | hr
    · exact ⟨"R:80", by decide +kernel⟩
    · rcases List.mem_singleton.mp hr with rfl
      exact ⟨"socks", by decide +kernel⟩
  have hread : serverReceiveSessionHello messagePack
      (writeSessionHello messagePack typedHello).1 = .ok typedHello := by
    decide +kernel
  have hwrite : writeSessionHello messagePack typedHello =
      ((writeSessionHello messagePack typedHello).1, .ok ()) := rfl
  obtain ⟨⟨reply, hreply, -, hresult⟩, htunnels⟩ :=
    hello_over_wire messagePack_lawful hrun (c := 1) rfl hparsed hwrite hread rfl rfl
  obtain ⟨t, ht, hid, hdirection, -⟩ := htunnels 0 _ rfl
  exact ⟨_, _, reply, hrun, rfl, hreply, hresult, t, ht, (Option.some.inj hid).symm, hdirection⟩

/-! ## Openers -/

/-- Read an opener off the front of a stream. -/
def receiveOpenConn (codecs : ControlCodecs) (recv : List UInt8) :
    Except String (OpenConn × List UInt8) :=
  readFramed codecs.openConn recv

/-- What the accepting side replies to what an opener was resolved to. -/
def openConnVerdict {δ : Type} : Except String δ → OpenConnResponse
  | .ok _ => .ok
  | .error reason => .failed reason

/-- `send_open_conn` from its wait on: its result, and what is left on the stream. -/
def readOpenConnResponse (codecs : ControlCodecs) (recv : List UInt8) :
    Except String (Except String Unit × List UInt8) := do
  let (response, rest) ← readFramed codecs.openConnResponse recv
  pure (sendOpenConn response, rest)

/-- The dynamic fields that handlers announce: none for a static tunnel, the
target of a decoded CONNECT, or that of a datagram of an association. -/
inductive Announced : Option DynamicTarget → Prop where
  | static : Announced none
  | connect {input written : List UInt8} {target : HostPort}
      (h : socksHandshake input = (written, .ok (.connect target))) :
      Announced (some (.tcp target))
  | datagram {buf payload : List UInt8} {target : HostPort}
      (h : parseSocksUdpHeader buf = .ok (target, payload)) : Announced (some (.udp target))

/-! ### Their size -/

theorem utf8_append (s t : String) : utf8 (s ++ t) = utf8 s ++ utf8 t := by
  simp [utf8]

/-- A character takes four bytes at most. -/
theorem length_utf8_ofList_le (chars : List Char) :
    (utf8 (String.ofList chars)).length ≤ 4 * chars.length := by
  rw [utf8_ofList]
  induction chars with
  | nil => simp
  | cons c chars ih =>
      have hsize : (String.utf8EncodeChar c).length ≤ 4 := by
        rw [String.length_utf8EncodeChar]
        exact c.utf8Size_le_four
      rw [List.flatMap_cons, List.length_append, List.length_cons]
      omega

/-- A host decoded from a name field has few characters. -/
theorem length_domain_le {name : List UInt8} {len : UInt8} (h : name.length ≤ len.toNat) :
    (fromUtf8Lossy none name).length ≤ 255 := by
  have hlossy := length_fromUtf8Lossy_le none name
  have hlen := len.toNat_lt
  simp only [Option.toList_none, List.length_nil] at hlossy
  omega

theorem length_utf8_host_le {host : List Char} (h : host.length ≤ 255) :
    (utf8 (String.ofList host)).length ≤ 1020 := by
  have hbytes := length_utf8_ofList_le host
  omega

theorem length_utf8_ipv4_le (ip : Ipv4Addr) :
    (utf8 (String.ofList ip.display)).length ≤ 1020 := by
  have hdisplay := ip.length_display_le
  exact length_utf8_host_le (by omega)

theorem length_utf8_ipv6_le (ip : Ipv6Addr) :
    (utf8 (String.ofList ip.display)).length ≤ 1020 := by
  have hdisplay := ip.length_display_le
  exact length_utf8_host_le (by omega)

/-- The host of a decoded request is short. -/
theorem readSocksAddr_host {atyp : UInt8} {input written : List UInt8} {target : HostPort}
    (h : readSocksAddr atyp input = (written, .ok target)) :
    (utf8 target.host).length ≤ 1020 := by
  unfold readSocksAddr at h
  split_ifs at h
  · obtain ⟨⟨addr, rest⟩, -, h⟩ := bind_eq_ok (Prod.mk.inj h).2
    obtain ⟨port, -, h⟩ := bind_eq_ok h
    cases h
    exact length_utf8_ipv4_le _
  · obtain ⟨⟨len, rest⟩, -, h⟩ := bind_eq_ok (Prod.mk.inj h).2
    obtain ⟨⟨domain, rest⟩, hdomain, h⟩ := bind_eq_ok h
    obtain ⟨port, -, h⟩ := bind_eq_ok h
    cases h
    exact length_utf8_host_le (length_domain_le (length_readTcp hdomain).le)
  · obtain ⟨⟨addr, rest⟩, -, h⟩ := bind_eq_ok (Prod.mk.inj h).2
    obtain ⟨port, -, h⟩ := bind_eq_ok h
    cases h
    exact length_utf8_ipv6_le _
  · cases (Prod.mk.inj h).2

/-- The host of a CONNECT is short. -/
theorem socksHandshake_host {input written : List UInt8} {target : HostPort}
    (h : socksHandshake input = (written, .ok (.connect target))) :
    (utf8 target.host).length ≤ 1020 := by
  obtain ⟨-, atyp, rest, reply, haddr⟩ := socksHandshake_connect h
  exact readSocksAddr_host haddr

/-- The host of a datagram's header is short. -/
theorem parseSocksUdpHeader_host {buf payload : List UInt8} {target : HostPort}
    (h : parseSocksUdpHeader buf = .ok (target, payload)) :
    (utf8 target.host).length ≤ 1020 := by
  unfold parseSocksUdpHeader at h
  dsimp only at h
  split_ifs at h
  · cases h
    exact length_utf8_ipv4_le _
  · cases h
    exact length_utf8_ipv6_le _
  · cases h
    exact length_utf8_host_le (length_domain_le (List.length_take_le _ _))

theorem Announced.host_le {dynamic : Option DynamicTarget} (h : Announced dynamic)
    (id : UInt64) : (utf8 (OpenConn.host ⟨id, dynamic⟩)).length ≤ 1020 := by
  cases h with
  | static =>
      change (utf8 "").length ≤ 1020
      decide
  | connect h => exact socksHandshake_host h
  | datagram h => exact parseSocksUdpHeader_host h

/-! ### Verdicts -/

theorem length_utf8_id_le (id : UInt64) : (utf8 (toString id)).length ≤ 80 := by
  have hid : toString id = String.ofList (Nat.toDigits 10 id.toNat) := rfl
  have hdigits : (Nat.toDigits 10 id.toNat).length ≤ 20 := by
    have hlt := id.toNat_lt
    exact (Nat.length_toDigits_le_iff (by decide) (by decide)).mpr (by omega)
  have hbytes := length_utf8_ofList_le (Nat.toDigits 10 id.toNat)
  rw [hid]
  omega

/-- A text around an id. -/
theorem length_utf8_around_id {before after : String} (id : UInt64)
    (hbefore : (utf8 before).length ≤ 100) (hafter : (utf8 after).length ≤ 100) :
    (utf8 (before ++ toString id ++ after)).length ≤ 280 := by
  have hid := length_utf8_id_le id
  rw [utf8_append, utf8_append, List.length_append, List.length_append]
  omega

/-- The reasons for which the server refuses an opener are short. -/
theorem lookupOpenConn_reason {st : ServerState} {opener : OpenConn} {reason : String}
    (h : lookupOpenConn st opener = .error reason) : (utf8 reason).length ≤ 280 := by
  unfold lookupOpenConn at h
  split at h
  · cases h
    have hid := length_utf8_id_le opener.tunnelId
    have htext : (utf8 "unknown tunnel id ").length = 18 := by decide
    rw [utf8_append, List.length_append, htext]
    omega
  · split at h
    · next hdispatch =>
        cases h
        unfold resolveDispatch at hdispatch
        split_ifs at hdispatch
        · cases hdispatch
          exact length_utf8_around_id _ (by decide) (by decide)
        · split at hdispatch <;> cases hdispatch <;>
            exact length_utf8_around_id _ (by decide) (by decide)
    · cases h

/-- The reason of the server's verdict is short. -/
theorem verdict_reason_le (st : ServerState) (opener : OpenConn) :
    (utf8 (openConnVerdict (lookupOpenConn st opener)).reason).length ≤ 280 := by
  cases hlookup : lookupOpenConn st opener with
  | ok resolved => exact (by decide : (utf8 "").length ≤ 280)
  | error reason => exact lookupOpenConn_reason hlookup

/-- The opening of a conn towards the server, in any state of its registry, with
payload sent right behind the opener and right behind the reply:

- the opener is written, and the server reads it as it is and leaves the payload;
- its verdict is written, and the initiator's call succeeds exactly if the opener
  was resolved, fails with the reason otherwise, and leaves the payload. -/
theorem conn_opened_over_wire {codecs : ControlCodecs} (laws : codecs.Lawful)
    {dynamic : Option DynamicTarget} (h : Announced dynamic) (id : UInt64) (st : ServerState)
    (payload replyPayload : List UInt8) :
    ∃ wire reply, writeFramed codecs.openConn [] ⟨id, dynamic⟩ = (wire, .ok ()) ∧
      receiveOpenConn codecs (wire ++ payload) = .ok (⟨id, dynamic⟩, payload) ∧
      writeFramed codecs.openConnResponse []
        (openConnVerdict (lookupOpenConn st ⟨id, dynamic⟩)) = (reply, .ok ()) ∧
      readOpenConnResponse codecs (reply ++ replyPayload) =
        .ok (match lookupOpenConn st ⟨id, dynamic⟩ with
          | .ok _ => .ok ()
          | .error reason => .error ("conn open rejected: " ++ reason), replyPayload) := by
  have hhost := h.host_le id
  obtain ⟨opener, hopener, hopenerSize⟩ := laws.openConn_size ⟨id, dynamic⟩
  have hopenerCap : opener.length ≤ maxControlMsg := by
    simp only [maxControlMsg]
    omega
  have hreason := verdict_reason_le st ⟨id, dynamic⟩
  obtain ⟨verdict, hverdict, hverdictSize⟩ :=
    laws.openConnResponse_size (openConnVerdict (lookupOpenConn st ⟨id, dynamic⟩))
  have hverdictCap : verdict.length ≤ maxControlMsg := by
    simp only [maxControlMsg]
    omega
  have hread := readFramed_conveys (laws.openConn ⟨id, dynamic⟩) hopener hopenerCap payload
  have hreply := readFramed_conveys (laws.openConnResponse _) hverdict hverdictCap replyPayload
  refine ⟨_, _, writeFramed_ok hopener (Nat.lt_of_le_of_lt hopenerCap (by decide)) [], hread,
    writeFramed_ok hverdict (Nat.lt_of_le_of_lt hverdictCap (by decide)) [], ?_⟩
  rw [readOpenConnResponse, List.nil_append, hreply]
  cases lookupOpenConn st ⟨id, dynamic⟩ <;> rfl

/-- A CONNECT to `a.b:80`, with payload behind the opener, on a server that knows
no tunnel. -/
theorem conn_opened_over_wire_refused :
    ∃ wire reply, receiveOpenConn messagePack (wire ++ [1, 2]) =
        .ok (⟨7, some (.tcp ⟨"a.b", 80⟩)⟩, [1, 2]) ∧
      readOpenConnResponse messagePack (reply ++ []) =
        .ok (.error "conn open rejected: unknown tunnel id 7", []) := by
  have hconnect : socksHandshake [5, 1, 0, 5, 1, 0, 3, 3, 97, 46, 98, 0, 80] =
      ([5, 0], .ok (.connect ⟨"a.b", 80⟩)) := by decide +kernel
  obtain ⟨wire, reply, -, hread, -, hreply⟩ :=
    conn_opened_over_wire messagePack_lawful (.connect hconnect) 7 ServerState.new [1, 2] []
  exact ⟨wire, reply, hread, hreply⟩

end EndToEnd
end Rusnel
