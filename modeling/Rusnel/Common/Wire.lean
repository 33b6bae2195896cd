import Rusnel.Foundation.Codec
import Rusnel.Foundation.NetText
import Rusnel.Common.ControlFrame

/-!
# Control messages on the wire

The bodies of the hello, of conn openers and of their replies.  Records are
arrays of their fields, variants go by their names, and an address is a pair of
its octets and its port: the flow label and the scope of an IPv6 address are not
sent.  A peer that leaves out the last field of a tunnel declaration declares no
stdio tunnel.

Main results:

- Theorem {lit}`sessionHello_conveys`: a hello within the cap arrives, with its
  local addresses stripped of what is not sent.
- Theorem {lit}`openConn_conveys`: an opener with a short host arrives.
- Theorem {lit}`readFramed_conveys`: so does its frame, in front of anything.
- Theorem {lit}`messagePack_lawful`: these codecs have what the later results assume
  of a serializer.
-/

namespace Rusnel

open ByteStream Net MessagePack

/-! ## Addresses -/

def ipv4AddrCodec : Codec Ipv4Addr :=
  (Codec.record 4 (Codec.u8.both (Codec.u8.both (Codec.u8.both Codec.u8)))).via
    (fun octets => some ⟨octets.1, octets.2.1, octets.2.2.1, octets.2.2.2⟩)
    (fun ip => (ip.a, ip.b, ip.c, ip.d))

def ipv6AddrCodec : Codec Ipv6Addr :=
  Codec.u8.array.via
    (fun octets => if octets.length = 16 then some (.fromOctets octets) else none)
    Ipv6Addr.octets

def socketAddrV4Codec : Codec (Ipv4Addr × UInt16) :=
  Codec.record 2 (ipv4AddrCodec.both Codec.u16)

def socketAddrV6Codec : Codec (Ipv6Addr × UInt16) :=
  Codec.record 2 (ipv6AddrCodec.both Codec.u16)

/-- The family of an address, by name. -/
def socketAddrVariant : SocketAddr → String
  | .v4 _ _ => "V4"
  | .v6 _ _ _ _ => "V6"

def socketAddrCodec : Codec SocketAddr :=
  Codec.enum socketAddrVariant
    (fun
      | .v4 ip port => some (socketAddrV4Codec.write (ip, port))
      | .v6 ip port _ _ => some (socketAddrV6Codec.write (ip, port)))
    (fun _ => none)
    (fun variant input =>
      if variant = "V4" then do
        let ((ip, port), rest) ← socketAddrV4Codec.read input
        pure (.v4 ip port, rest)
      else if variant = "V6" then do
        let ((ip, port), rest) ← socketAddrV6Codec.read input
        pure (.v6 ip port 0 0, rest)
      else none)

theorem ipv4Addr_conveys (ip : Ipv4Addr) : ipv4AddrCodec.Conveys ip ip := by
  have hoctets := (Codec.u8_conveys ip.a).both ((Codec.u8_conveys ip.b).both
    ((Codec.u8_conveys ip.c).both (Codec.u8_conveys ip.d)))
  unfold ipv4AddrCodec
  exact Codec.Conveys.via (hoctets.record (by decide)) rfl

theorem ipv6Addr_conveys (ip : Ipv6Addr) : ipv6AddrCodec.Conveys ip ip := by
  have hlen : ip.octets.length < 2 ^ 32 := by simp
  have hitems : ∀ octet ∈ ip.octets, Codec.u8.Conveys octet (id octet) :=
    fun octet _ => Codec.u8_conveys octet
  have hoctets := Codec.Conveys.array hitems hlen
  rw [List.map_id] at hoctets
  exact hoctets.via (by simp)

/-- An address arrives without the IPv6 extras. -/
theorem socketAddr_conveys (a : SocketAddr) :
    socketAddrCodec.Conveys a (.new a.ip a.port) := by
  unfold socketAddrCodec
  cases a with
  | v4 ip port =>
      have hpair := ((ipv4Addr_conveys ip).both (Codec.u16_conveys port)).record
        (by decide : 2 < 2 ^ 32)
      refine Codec.enum_conveys_content "V4" rfl (by decide) rfl fun rest => ?_
      have hread : socketAddrV4Codec.read (socketAddrV4Codec.write (ip, port) ++ rest) =
          some ((ip, port), rest) := hpair rest
      simp [hread, SocketAddr.new, SocketAddr.ip, SocketAddr.port]
  | v6 ip port flowinfo scopeId =>
      have hpair := ((ipv6Addr_conveys ip).both (Codec.u16_conveys port)).record
        (by decide : 2 < 2 ^ 32)
      refine Codec.enum_conveys_content "V6" rfl (by decide) rfl fun rest => ?_
      have hread : socketAddrV6Codec.read (socketAddrV6Codec.write (ip, port) ++ rest) =
          some ((ip, port), rest) := hpair rest
      simp [hread, SocketAddr.new, SocketAddr.ip, SocketAddr.port]

/-! ## Tunnel declarations -/

def hostPortCodec : Codec HostPort :=
  (Codec.record 2 (Codec.str.both Codec.u16)).via
    (fun fields => some ⟨fields.1, fields.2⟩)
    (fun hp => (hp.host, hp.port))

/-- The direction of a tunnel, by name. -/
def Direction.variant : Direction → String
  | .forward => "Forward"
  | .reverse => "Reverse"

def directionCodec : Codec Direction :=
  Codec.enum Direction.variant (fun _ => none)
    (fun variant =>
      if variant = "Forward" then some .forward
      else if variant = "Reverse" then some .reverse
      else none)
    (fun _ _ => none)

/-- The kind of a tunnel, by name. -/
def RemoteKind.variant : RemoteKind → String
  | .tcp _ _ => "Tcp"
  | .udp _ _ => "Udp"
  | .socks5 _ => "Socks5"

/-- The fields of a tunnel with a static target. -/
def staticFieldsCodec : Codec (SocketAddr × HostPort) :=
  Codec.record 2 (socketAddrCodec.both hostPortCodec)

def remoteKindCodec : Codec RemoteKind :=
  Codec.enum RemoteKind.variant
    (fun
      | .tcp a remote => some (staticFieldsCodec.write (a, remote))
      | .udp a remote => some (staticFieldsCodec.write (a, remote))
      | .socks5 a => some ((Codec.record 1 socketAddrCodec).write a))
    (fun _ => none)
    (fun variant input =>
      if variant = "Tcp" then do
        let ((a, remote), rest) ← staticFieldsCodec.read input
        pure (.tcp a remote, rest)
      else if variant = "Udp" then do
        let ((a, remote), rest) ← staticFieldsCodec.read input
        pure (.udp a remote, rest)
      else if variant = "Socks5" then do
        let (a, rest) ← (Codec.record 1 socketAddrCodec).read input
        pure (.socks5 a, rest)
      else none)

/-- A declaration.  The reader takes a missing third field for its default. -/
def remoteRequestCodec : Codec RemoteRequest where
  write r :=
    arrayLen.write 3 ++
      (directionCodec.write r.direction ++
        (remoteKindCodec.write r.kind ++ Codec.bool.write r.stdio))
  read input := do
    let (fields, rest) ← arrayLen.read input
    if fields ≠ 2 ∧ fields ≠ 3 then none
    else
      let (direction, rest) ← directionCodec.read rest
      let (kind, rest) ← remoteKindCodec.read rest
      if fields = 2 then pure (⟨direction, kind, false⟩, rest)
      else
        let (stdio, rest) ← Codec.bool.read rest
        pure (⟨direction, kind, stdio⟩, rest)

def sessionHelloCodec : Codec SessionHello :=
  (Codec.record 1 remoteRequestCodec.array).via (fun remotes => some ⟨remotes⟩)
    SessionHello.remotes

/-- What arrives of a tunnel's kind. -/
def RemoteKind.onWire : RemoteKind → RemoteKind
  | .tcp a remote => .tcp (.new a.ip a.port) remote
  | .udp a remote => .udp (.new a.ip a.port) remote
  | .socks5 a => .socks5 (.new a.ip a.port)

/-- What arrives of a declaration. -/
def RemoteRequest.onWire (r : RemoteRequest) : RemoteRequest :=
  { r with kind := r.kind.onWire }

/-- What arrives of a hello. -/
def SessionHello.onWire (hello : SessionHello) : SessionHello :=
  ⟨hello.remotes.map RemoteRequest.onWire⟩

/-- A host and a port arrive as they were sent, if the host's length can be written. -/
theorem hostPort_conveys {hp : HostPort} (h : (utf8 hp.host).length < 2 ^ 32) :
    hostPortCodec.Conveys hp hp := by
  apply Codec.Conveys.via
  · exact ((Codec.str_conveys h).both (Codec.u16_conveys hp.port)).record (by decide)
  · rfl

theorem direction_conveys (d : Direction) : directionCodec.Conveys d d := by
  unfold directionCodec
  cases d with
  | forward => exact Codec.enum_conveys_unit "Forward" rfl (by decide) rfl rfl
  | reverse => exact Codec.enum_conveys_unit "Reverse" rfl (by decide) rfl (by decide)

/-- Of a listener's address only the ip and the port arrive. -/
theorem staticFields_conveys (a : SocketAddr) {remote : HostPort}
    (h : (utf8 remote.host).length < 2 ^ 32) :
    staticFieldsCodec.Conveys (a, remote) (.new a.ip a.port, remote) :=
  ((socketAddr_conveys a).both (hostPort_conveys h)).record (by decide)

/-- The host a tunnel names has a length that can be written. -/
def RemoteKind.Writable : RemoteKind → Prop
  | .tcp _ remote | .udp _ remote => (utf8 remote.host).length < 2 ^ 32
  | .socks5 _ => True

/-- A kind arrives without the flow info and scope of its address. -/
theorem remoteKind_conveys {kind : RemoteKind} (h : kind.Writable) :
    remoteKindCodec.Conveys kind kind.onWire := by
  unfold remoteKindCodec
  cases kind with
  | tcp a remote =>
      refine Codec.enum_conveys_content "Tcp" rfl (by decide) rfl fun rest => ?_
      simp [staticFields_conveys a h rest, RemoteKind.onWire]
  | udp a remote =>
      refine Codec.enum_conveys_content "Udp" rfl (by decide) rfl fun rest => ?_
      simp [staticFields_conveys a h rest, RemoteKind.onWire]
  | socks5 a =>
      have haddr := (socketAddr_conveys a).record (by decide : 1 < 2 ^ 32)
      refine Codec.enum_conveys_content "Socks5" rfl (by decide) rfl fun rest => ?_
      simp [haddr rest, RemoteKind.onWire]

/-- So does a remote. -/
theorem remoteRequest_conveys {r : RemoteRequest} (h : r.kind.Writable) :
    remoteRequestCodec.Conveys r r.onWire := by
  intro rest
  have hfields : arrayLen.Fits 3 := arrayLen_fits (by decide)
  simp [remoteRequestCodec, List.append_assoc, arrayLen.read_write hfields,
    direction_conveys r.direction _, remoteKind_conveys h _, Codec.bool_conveys r.stdio _,
    RemoteRequest.onWire]

/-! ## Sizes -/

/-- A host is no longer than what it is written in. -/
theorem hostPort_length (hp : HostPort) :
    (utf8 hp.host).length ≤ (hostPortCodec.write hp).length := by
  simp only [hostPortCodec, Codec.via, Codec.record, Codec.both, Codec.str, writeStr,
    List.length_append]
  omega

theorem staticFields_length (a : SocketAddr) (remote : HostPort) :
    (utf8 remote.host).length ≤ (staticFieldsCodec.write (a, remote)).length := by
  have hhost := hostPort_length remote
  simp only [staticFieldsCodec, Codec.record, Codec.both, List.length_append]
  omega

/-- A kind that takes few bytes names a host that can be written. -/
theorem RemoteKind.writable_of_length {kind : RemoteKind}
    (h : (remoteKindCodec.write kind).length < 2 ^ 32) : kind.Writable := by
  cases kind with
  | tcp a remote =>
      have hhost := staticFields_length a remote
      simp only [remoteKindCodec, Codec.enum, List.length_cons, List.length_append] at h
      simp only [Writable]
      omega
  | udp a remote =>
      have hhost := staticFields_length a remote
      simp only [remoteKindCodec, Codec.enum, List.length_cons, List.length_append] at h
      simp only [Writable]
      omega
  | socks5 a => trivial

/-- A declaration takes more bytes than an id of the reply. -/
theorem remoteRequest_length_ge (r : RemoteRequest) :
    13 ≤ (remoteRequestCodec.write r).length := by
  have hfields : (arrayLen.write 3).length = 1 := by decide
  have hdirection : (directionCodec.write r.direction).length = 8 := by
    cases r.direction <;> decide
  have hkind : 4 ≤ (remoteKindCodec.write r.kind).length := by
    have htcp : (writeStr "Tcp").length = 4 := by decide
    have hudp : (writeStr "Udp").length = 4 := by decide
    have hsocks : (writeStr "Socks5").length = 7 := by decide
    cases r.kind <;>
      simp only [remoteKindCodec, Codec.enum, RemoteKind.variant, List.length_cons,
        List.length_append, htcp, hudp, hsocks] <;> omega
  simp only [remoteRequestCodec, List.length_append, hfields, hdirection]
  omega

/-- A kind is no longer than its remote. -/
theorem remoteRequest_length_kind (r : RemoteRequest) :
    (remoteKindCodec.write r.kind).length ≤ (remoteRequestCodec.write r).length := by
  simp only [remoteRequestCodec, List.length_append]
  omega

theorem sessionHello_write (hello : SessionHello) :
    sessionHelloCodec.write hello =
      arrayLen.write 1 ++ (arrayLen.write hello.remotes.length ++
        hello.remotes.flatMap remoteRequestCodec.write) := rfl

/-- A hello that takes few bytes arrives. -/
theorem sessionHello_conveys {hello : SessionHello}
    (h : (sessionHelloCodec.write hello).length < 2 ^ 32) :
    sessionHelloCodec.Conveys hello hello.onWire := by
  rw [sessionHello_write] at h
  simp only [List.length_append] at h
  have hremotes : ∀ r ∈ hello.remotes, remoteRequestCodec.Conveys r r.onWire := by
    intro r hr
    have hitem := Codec.length_write_le_flatMap remoteRequestCodec hr
    have hkind := remoteRequest_length_kind r
    exact remoteRequest_conveys (RemoteKind.writable_of_length (by omega))
  have hcount : hello.remotes.length < 2 ^ 32 := by
    have hitems := Codec.length_flatMap_write_ge fun r (_ : r ∈ hello.remotes) =>
      remoteRequest_length_ge r
    omega
  apply Codec.Conveys.via
  · exact (Codec.Conveys.array hremotes hcount).record (by decide)
  · rfl

/-! ## Conn openers -/

/-- The protocol of an announced target, by name. -/
def DynamicTarget.variant : DynamicTarget → String
  | .tcp _ => "Tcp"
  | .udp _ => "Udp"

def dynamicTargetCodec : Codec DynamicTarget :=
  Codec.enum DynamicTarget.variant
    (fun dyn => some (hostPortCodec.write dyn.target))
    (fun _ => none)
    (fun variant input =>
      if variant = "Tcp" then do
        let (target, rest) ← hostPortCodec.read input
        pure (.tcp target, rest)
      else if variant = "Udp" then do
        let (target, rest) ← hostPortCodec.read input
        pure (.udp target, rest)
      else none)

def openConnCodec : Codec OpenConn :=
  (Codec.record 2 (Codec.u64.both dynamicTargetCodec.option)).via
    (fun fields => some ⟨fields.1, fields.2⟩)
    (fun opener => (opener.tunnelId, opener.dynamic))

/-- The verdict on an opener, by name. -/
def OpenConnResponse.variant : OpenConnResponse → String
  | .ok => "Ok"
  | .failed _ => "Failed"

def openConnResponseCodec : Codec OpenConnResponse :=
  Codec.enum OpenConnResponse.variant
    (fun
      | .ok => none
      | .failed reason => some (writeStr reason))
    (fun variant => if variant = "Ok" then some .ok else none)
    (fun variant input =>
      if variant = "Failed" then do
        let (reason, rest) ← readStr input
        pure (.failed reason, rest)
      else none)

/-- The host an opener announces. -/
def OpenConn.host (opener : OpenConn) : String :=
  match opener.dynamic with
  | none => ""
  | some dyn => dyn.target.host

/-- A dynamic target arrives as it was sent. -/
theorem dynamicTarget_conveys {dyn : DynamicTarget}
    (h : (utf8 dyn.target.host).length < 2 ^ 32) : dynamicTargetCodec.Conveys dyn dyn := by
  unfold dynamicTargetCodec
  cases dyn with
  | tcp target =>
      refine Codec.enum_conveys_content "Tcp" rfl (by decide) rfl fun rest => ?_
      have hread : hostPortCodec.read (hostPortCodec.write target ++ rest) =
          some (target, rest) := hostPort_conveys h rest
      simp [DynamicTarget.target, hread]
  | udp target =>
      refine Codec.enum_conveys_content "Udp" rfl (by decide) rfl fun rest => ?_
      have hread : hostPortCodec.read (hostPortCodec.write target ++ rest) =
          some (target, rest) := hostPort_conveys h rest
      simp [DynamicTarget.target, hread]

/-- An opener arrives as it was sent. -/
theorem openConn_conveys {opener : OpenConn} (h : (utf8 opener.host).length < 2 ^ 32) :
    openConnCodec.Conveys opener opener := by
  have hdynamic : dynamicTargetCodec.option.Conveys opener.dynamic opener.dynamic := by
    rcases opener with ⟨tunnelId, _ | dyn⟩
    · exact Codec.option_conveys_none _
    · exact (dynamicTarget_conveys h).option rfl (by decide)
  apply Codec.Conveys.via
  · exact ((Codec.u64_conveys opener.tunnelId).both hdynamic).record (by decide)
  · rfl

/-- A reply arrives as it was sent. -/
theorem openConnResponse_conveys {response : OpenConnResponse}
    (h : ∀ reason, response = .failed reason → (utf8 reason).length < 2 ^ 32) :
    openConnResponseCodec.Conveys response response := by
  unfold openConnResponseCodec
  cases response with
  | ok => exact Codec.enum_conveys_unit "Ok" rfl (by decide) rfl rfl
  | failed reason =>
      refine Codec.enum_conveys_content "Failed" rfl (by decide) rfl fun rest => ?_
      simp [readStr_writeStr (h reason rfl)]

/-- An opener takes little more than the host it announces. -/
theorem openConn_length_le (opener : OpenConn) :
    (openConnCodec.write opener).length ≤ 40 + (utf8 opener.host).length := by
  have hfields : (arrayLen.write 2).length = 1 := by decide
  rcases opener with ⟨tunnelId, _ | dyn⟩ <;> have hid := uint_length_le tunnelId.toNat
  · simp only [openConnCodec, Codec.via, Codec.record, Codec.both, Codec.option, Codec.u64,
      Codec.number, List.length_append, List.length_cons, List.length_nil, hfields]
    omega
  · have hname : (writeStr dyn.variant).length = 4 := by
      cases dyn <;> simp only [DynamicTarget.variant] <;> decide
    have hhost := writeStr_length_le dyn.target.host
    have hport := uint_length_le dyn.target.port.toNat
    simp only [openConnCodec, Codec.via, Codec.record, Codec.both, Codec.option, Codec.u64,
      Codec.u16, Codec.str, Codec.number, dynamicTargetCodec, Codec.enum, hostPortCodec,
      List.length_append, List.length_cons, hfields, hname, OpenConn.host] at hid ⊢
    omega

theorem openConn_length_ge (opener : OpenConn) :
    (utf8 opener.host).length ≤ (openConnCodec.write opener).length := by
  rcases opener with ⟨tunnelId, _ | dyn⟩
  · exact (by decide : (utf8 "").length = 0).trans_le (Nat.zero_le _)
  · have hhost := hostPort_length dyn.target
    simp only [openConnCodec, Codec.via, Codec.record, Codec.both, Codec.option,
      dynamicTargetCodec, Codec.enum, List.length_append, List.length_cons, OpenConn.host]
    omega

/-- A codec as the body codec of a message type.  Bytes behind the value are not
looked at. -/
def serde {T : Type} (c : Codec T) : SerdeHelper T where
  toBytes msg := .ok (c.write msg)
  fromBytes body :=
    match c.read body with
    | some (msg, _) => .ok msg
    | none => .error "invalid message"

/-! ## What is assumed of the serializer -/

section Frames

variable {T : Type} {codec : SerdeHelper T} {a b : T} {body : List UInt8}

/-- What was written for `a`, if a frame can hold it, is decoded as `b`. -/
def SerdeHelper.Conveys (codec : SerdeHelper T) (a b : T) : Prop :=
  ∀ body, codec.toBytes a = .ok body → body.length < 2 ^ 32 → codec.fromBytes body = .ok b

/-- What a codec conveys in a body that can be framed, its serializer does. -/
theorem serde_conveys {c : Codec T} (h : (c.write a).length < 2 ^ 32 → c.Conveys a b) :
    (serde c).Conveys a b := by
  intro body hbody hlen
  cases hbody
  simp only [serde, (h hlen).read_write]

theorem SerdeHelper.Conveys.inverts (h : codec.Conveys a a) (hbody : codec.toBytes a = .ok body)
    (hlen : body.length < 2 ^ 32) : codec.Inverts a := by
  intro body' hbody'
  cases hbody.symm.trans hbody'
  exact h body hbody hlen

/-- The frame of a message that arrives as `b`, read in front of anything. -/
theorem readFramed_conveys (h : codec.Conveys a b) (hbody : codec.toBytes a = .ok body)
    (hcap : body.length ≤ maxControlMsg) (rest : List UInt8) :
    readFramed codec (toLeBytes 4 body.length ++ body ++ rest) = .ok (b, rest) := by
  have hbytes : body.length < 256 ^ 4 := Nat.lt_of_le_of_lt hcap (by decide)
  simp only [readFramed, (readPrefixed_delimits hbytes hcap).reads rest, h body hbody hbytes]

/-- A frame that was read leaves what comes later. -/
theorem readFramed_more {recv rest : List UInt8} (h : readFramed codec recv = .ok (a, rest))
    (more : List UInt8) : readFramed codec (recv ++ more) = .ok (a, rest ++ more) := by
  unfold readFramed at h
  split at h
  · cases h
  · rename_i body behind hbody
    split at h <;> cases h
    rename_i hmsg
    simp only [readFramed, readPrefixed_more hbody, hmsg]

/-- What is read from the part of a stream that has arrived is what the message at
its front arrives as, and no byte behind it is read. -/
theorem readFramed_of_prefix {arrives : T} (h : codec.Conveys a arrives)
    {wire recv behind rest : List UInt8} (hwrite : writeFramed codec [] a = (wire, .ok ()))
    (hrecv : recv <+: wire ++ behind) (hread : readFramed codec recv = .ok (b, rest)) :
    b = arrives ∧ recv = wire ++ rest ∧
      ∃ body, codec.toBytes a = .ok body ∧ body.length ≤ maxControlMsg := by
  have hsent : writeFramed codec [] a = ([] ++ wire, .ok ()) := hwrite
  obtain ⟨body, hbody, hlen, hwire⟩ := writeFramed_wire hsent
  obtain ⟨late, hlate⟩ := hrecv
  have hall := readFramed_more hread late
  rw [hlate, hwire] at hall
  by_cases hcap : body.length ≤ maxControlMsg
  · rw [readFramed_conveys h hbody hcap] at hall
    obtain ⟨rfl, hbehind⟩ : arrives = b ∧ behind = rest ++ late := by simpa using hall
    refine ⟨rfl, ?_, body, hbody, hcap⟩
    rw [hbehind, ← List.append_assoc] at hlate
    exact List.append_cancel_right hlate
  · rw [readFramed_overCap hlen (Nat.not_le.mp hcap) behind] at hall
    cases hall

end Frames

/-- The body codecs of the control messages, as a serializer derives them. -/
structure ControlCodecs where
  sessionHello : SerdeHelper SessionHello
  sessionHelloResponse : SerdeHelper SessionHelloResponse
  openConn : SerdeHelper OpenConn
  openConnResponse : SerdeHelper OpenConnResponse

/-- Why an opener is refused. -/
def OpenConnResponse.reason : OpenConnResponse → String
  | .ok => ""
  | .failed reason => reason

/-- What the results on the wire take from the serializer: what arrives of each
message, and bounds on the sizes of the bodies. -/
structure ControlCodecs.Lawful (codecs : ControlCodecs) : Prop where
  sessionHello : ∀ msg, codecs.sessionHello.Conveys msg msg.onWire
  sessionHelloResponse : ∀ msg, codecs.sessionHelloResponse.Conveys msg msg
  openConn : ∀ msg, codecs.openConn.Conveys msg msg
  openConnResponse : ∀ msg, codecs.openConnResponse.Conveys msg msg
  /-- A declaration takes more bytes than an id of the reply. -/
  sessionHello_size : ∀ msg body, codecs.sessionHello.toBytes msg = .ok body →
    13 * msg.remotes.length ≤ body.length
  sessionHelloResponse_size : ∀ ids, ∃ body,
    codecs.sessionHelloResponse.toBytes (.ok ids) = .ok body ∧ body.length ≤ 10 + 9 * ids.length
  /-- Openers and their replies take little more than the text they carry. -/
  openConn_size : ∀ msg, ∃ body, codecs.openConn.toBytes msg = .ok body ∧
    body.length ≤ 40 + (utf8 msg.host).length
  openConnResponse_size : ∀ msg, ∃ body, codecs.openConnResponse.toBytes msg = .ok body ∧
    body.length ≤ 13 + (utf8 msg.reason).length

/-! ## MessagePack -/

/-- The codecs of this module. -/
def messagePack : ControlCodecs where
  sessionHello := serde sessionHelloCodec
  sessionHelloResponse := sessionHelloResponseCodec
  openConn := serde openConnCodec
  openConnResponse := serde openConnResponseCodec

/-- The serializer of the repository obeys the laws. -/
theorem messagePack_lawful : messagePack.Lawful where
  sessionHello msg := serde_conveys sessionHello_conveys
  sessionHelloResponse msg body hbody hlen := by
    cases hbody
    exact sessionHelloResponse_inverts (SessionHelloResponse.encodable_of_length hlen) _ rfl
  openConn msg := serde_conveys fun hlen => openConn_conveys (by
    have hhost := openConn_length_ge msg
    omega)
  openConnResponse msg := serde_conveys fun hlen => openConnResponse_conveys (by
    rintro reason rfl
    simp only [openConnResponseCodec, Codec.enum, writeStr, List.length_cons,
      List.length_append] at hlen
    omega)
  sessionHello_size msg body hbody := by
    cases hbody
    have hitems := Codec.length_flatMap_write_ge fun r (_ : r ∈ msg.remotes) =>
      remoteRequest_length_ge r
    rw [sessionHello_write]
    simp only [List.length_append]
    omega
  sessionHelloResponse_size ids := by
    refine ⟨_, rfl, ?_⟩
    have hname : (writeStr "Ok").length = 3 := by decide
    have hone : (arrayLen.write 1).length = 1 := by decide
    have hitems : ∀ id ∈ ids, (Codec.u64.write id).length ≤ 9 :=
      fun id _ => uint_length_le id.toNat
    have hids := Codec.length_array_write_le hitems
    simp only [SessionHelloResponse.toBytes, Codec.record, List.length_cons, List.length_append,
      hname, hone]
    omega
  openConn_size msg := ⟨_, rfl, openConn_length_le msg⟩
  openConnResponse_size msg := by
    refine ⟨_, rfl, ?_⟩
    cases msg with
    | ok => decide
    | failed reason =>
        have hname : (writeStr "Failed").length = 7 := by decide
        have hbytes := writeStr_length_le reason
        simp only [openConnResponseCodec, Codec.enum, OpenConnResponse.variant,
          OpenConnResponse.reason, List.length_cons, List.length_append, hname]
        omega

end Rusnel
