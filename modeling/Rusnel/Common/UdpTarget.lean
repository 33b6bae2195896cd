import Rusnel.Common.RemoteText
import Rusnel.Common.UdpRelay

/-!
# The target of a UDP tunnel

The accepting side of a UDP conn: the address it relays to, and the pump that
takes the target's datagrams off its socket.  A TCP conn connects to whatever
its address string resolves to; a UDP conn parses the string as a literal.  The
pump compares the source of a datagram with the address it sends to.

Main results:

- Theorem {lit}`udp_resolves_like_tcp`: when a UDP conn has an address wherever a
  TCP conn has one.
- Theorem {lit}`pump_forwards_replies`: for which targets the pump forwards the
  target's replies and nothing else.
-/

namespace Rusnel

open Net UdpRelay

/-! ## Resolution -/

/-- The address the socket is bound to, of the family of the target. -/
def bindAddr : SocketAddr → SocketAddr
  | .v4 _ _ => .v4 .unspecified 0
  | .v6 _ _ _ _ => .v6 .unspecified 0 0 0

/-- The addresses of `tunnel_udp_server`: the one to relay to, and the one to
bind. -/
def tunnelUdpServer (request : RemoteRequest) : Except String (SocketAddr × SocketAddr) :=
  match request.remoteAddrString with
  | none => .error "UDP server tunnel requires a host:port remote"
  | some remoteAddr =>
      match parseSocketAddr remoteAddr.toList with
      | none => .error "Failed to parse remote address"
      | some remoteAddr => .ok (remoteAddr, bindAddr remoteAddr)

/-- The addresses `tunnel_tcp_server` tries to connect to. -/
def tunnelTcpServer (resolve : List Char → UInt16 → List SocketAddr) (request : RemoteRequest) :
    Except String (List SocketAddr) :=
  match request.remoteAddrString with
  | none => .error "TCP server tunnel requires a host:port remote"
  | some remoteAddr => .ok (toSocketAddrs resolve remoteAddr.toList)

/-- The hosts that are literals: addresses, and IPv6 addresses that come with
their brackets and maybe a scope. -/
def AddressLiteral (host : List Char) : Prop :=
  (parseIpAddr host).isSome ∨
    ∃ inner, host = '[' :: (inner ++ [']']) ∧ (parseScopedIpv6 inner).isSome

/-- An address in front of a port, as an address string shows it. -/
theorem parseSocketAddr_ip {hp : HostPort} {ip : IpAddr}
    (hip : parseIpAddr hp.host.toList = some ip) :
    parseSocketAddr hp.toAddrString.toList = some (.new ip hp.port) := by
  rw [toAddrString_toList, parseSocketAddr_colon]
  have hparse := parseIpAddr_eq_some.mp hip
  cases ip with
  | v4 ip =>
      have hv6 : parseIpv6 hp.host.toList = none := by
        rw [Option.eq_none_iff_forall_ne_some]
        intro ip' hip'
        cases hip.symm.trans (parseIpAddr_v6 hip')
      rw [hostToken, hv6, parseIpv4_eq_some.mp hparse]
      exact .v4
  | v6 ip =>
      dsimp only at hparse
      rw [hostToken, hparse]
      exact .v6 (parseScopedIpv6_of_ipv6 hparse)

/-- An address string is a socket address exactly if its host is a literal. -/
theorem parseSocketAddr_isSome_iff (hp : HostPort) :
    (parseSocketAddr hp.toAddrString.toList).isSome ↔ AddressLiteral hp.host.toList := by
  constructor
  · intro h
    obtain ⟨a, ha⟩ := Option.isSome_iff_exists.mp h
    rw [toAddrString_toList, parseSocketAddr_colon, hostToken] at ha
    split_ifs at ha with hv6
    · obtain ⟨ip, hip⟩ := Option.isSome_iff_exists.mp hv6
      exact .inl (by rw [parseIpAddr_v6 hip]; rfl)
    · generalize hp.host.toList = host at ha
      cases ha with
      | @v4 ip =>
          exact .inl (by rw [parseIpAddr_v4 (parseIpv4_display ip)]; rfl)
      | v6 hinner => exact .inr ⟨_, rfl, by rw [hinner]; rfl⟩
  · rintro (h | ⟨inner, hhost, hinner⟩)
    · obtain ⟨ip, hip⟩ := Option.isSome_iff_exists.mp h
      rw [parseSocketAddr_ip hip]
      rfl
    · obtain ⟨⟨ip, scopeId⟩, hip⟩ := Option.isSome_iff_exists.mp hinner
      have hv6 : parseIpv6 ('[' :: (inner ++ [']'])) = none := by
        rw [Option.eq_none_iff_forall_ne_some]
        intro ip' hip'
        exact absurd (mem_of_parseIpv6 hip' '[' (by simp)) (by decide)
      have hparse : parseSocketAddr hp.toAddrString.toList = some (.v6 ip hp.port 0 scopeId) := by
        rw [toAddrString_toList, parseSocketAddr_colon, hhost, hostToken, hv6]
        exact .v6 hip
      rw [hparse]
      rfl

/-- The addresses of an address string. -/
theorem toSocketAddrs_toAddrString (resolve : List Char → UInt16 → List SocketAddr)
    (hp : HostPort) :
    toSocketAddrs resolve hp.toAddrString.toList =
      match parseSocketAddr hp.toAddrString.toList with
      | some addr => [addr]
      | none => resolve hp.host.toList hp.port := by
  have haddrs := toSocketAddrs_colon resolve (hostToken hp.host.toList) hp.port
  rw [← toAddrString_toList] at haddrs
  rw [haddrs]
  cases hparse : parseSocketAddr hp.toAddrString.toList with
  | some addr => rfl
  | none =>
      have hv6 : ¬(parseIpv6 hp.host.toList).isSome := by
        intro hv6
        obtain ⟨ip, hip⟩ := Option.isSome_iff_exists.mp hv6
        rw [parseSocketAddr_ip (parseIpAddr_v6 hip)] at hparse
        cases hparse
      rw [hostToken, if_neg hv6]

/-- When a UDP conn has an address wherever a TCP conn has one: exactly if the
host is a literal or does not resolve.  If it has one, it is the one of TCP. -/
theorem udp_resolves_like_tcp (resolve : List Char → UInt16 → List SocketAddr) (hp : HostPort)
    (direction : Direction) (localAddr : SocketAddr) (stdio : Bool) :
    ((∀ addrs, tunnelTcpServer resolve ⟨direction, .tcp localAddr hp, stdio⟩ = .ok addrs →
        addrs ≠ [] → ∃ target, tunnelUdpServer ⟨direction, .udp localAddr hp, stdio⟩ = .ok target) ↔
      AddressLiteral hp.host.toList ∨ resolve hp.host.toList hp.port = []) ∧
    ∀ target, tunnelUdpServer ⟨direction, .udp localAddr hp, stdio⟩ = .ok target →
      tunnelTcpServer resolve ⟨direction, .tcp localAddr hp, stdio⟩ = .ok [target.1] := by
  simp only [tunnelTcpServer, tunnelUdpServer, RemoteRequest.remoteAddrString,
    toSocketAddrs_toAddrString, ← parseSocketAddr_isSome_iff]
  cases parseSocketAddr hp.toAddrString.toList with
  | some addr =>
      refine ⟨by simp, ?_⟩
      rintro target htarget
      cases htarget
      rfl
  | none => simp

/-- A name that resolves is no UDP target. -/
theorem udp_resolves_like_tcp_name :
    RemoteRequest.fromStr "example.com:53/udp"
        = .ok (.new .forward (.udp (.new anyV4 53) ⟨"example.com", 53⟩)) ∧
      tunnelTcpServer (fun _ port => [.v4 ⟨192, 0, 2, 1⟩ port])
          (.new .forward (.tcp (.new anyV4 53) ⟨"example.com", 53⟩))
        = .ok [.v4 ⟨192, 0, 2, 1⟩ 53] ∧
      tunnelUdpServer (.new .forward (.udp (.new anyV4 53) ⟨"example.com", 53⟩))
        = .error "Failed to parse remote address" := by
  decide +kernel

/-! ## Replies -/

/-- The pump's receive buffer, the stream it writes and the bytes it has counted
if there is a counter. -/
structure SocketPump where
  buf : List UInt8
  send : List UInt8
  bytesOut : Option UInt64
deriving DecidableEq, Repr

/-- The loop of `pump_socket_to_stream` over the datagrams that arrive, until the
first error. -/
def pumpSocketToStream (udpAddress : SocketAddr) :
    SocketPump → List Arrival → SocketPump × Except String Unit
  | s, [] => (s, .ok ())
  | s, a :: arrivals =>
      let (len, buf) := recvInto s.buf a.data
      if a.src ≠ udpAddress then
        pumpSocketToStream udpAddress { s with buf := buf } arrivals
      else
        match writeDatagram s.send (buf.take len) with
        | (send, .error e) => ({ s with buf := buf, send := send }, .error e)
        | (send, .ok ()) =>
            pumpSocketToStream udpAddress
              { buf := buf, send := send, bytesOut := s.bytesOut.map (· + .ofNat len) } arrivals

/-- The address the system reports as the source of a target's replies.  What is
sent to the wildcard address goes to the loopback address and is answered from
there. -/
def replySource : SocketAddr → SocketAddr
  | .v4 ip port => .v4 (if ip = .unspecified then .localhost else ip) port
  | .v6 ip port flowinfo scopeId =>
      .v6 (if ip = .unspecified then .localhost else ip) port flowinfo scopeId

/-- The pump forwards the datagrams of one source and drops all others. -/
def ForwardsFrom (udpAddress source : SocketAddr) : Prop :=
  ∀ (s : SocketPump) (arrivals : List Arrival),
    (pumpSocketToStream udpAddress s arrivals).2 = .ok () ∧
      (pumpSocketToStream udpAddress s arrivals).1.send = s.send ++
        (arrivals.filter (·.src = source)).flatMap fun a => datagramBytes (a.data.take maxDatagram)

/-- The pump forwards what comes from the address it sends to. -/
theorem forwardsFrom_self (udpAddress : SocketAddr) : ForwardsFrom udpAddress udpAddress := by
  intro s arrivals
  induction arrivals generalizing s with
  | nil => simp [pumpSocketToStream]
  | cons a arrivals ih =>
      by_cases hsrc : a.src = udpAddress
      · have hlen : (a.data.take maxDatagram).length ≤ maxDatagram := List.length_take_le _ _
        have hwrite := writeDatagram_ok hlen s.send
        have hnext := ih ⟨(recvInto s.buf a.data).2, s.send ++ datagramBytes
          (a.data.take maxDatagram), s.bytesOut.map (· + .ofNat (recvInto s.buf a.data).1)⟩
        simp only [pumpSocketToStream, recvInto_take, hwrite, hsrc, ne_eq, not_true_eq_false,
          if_false]
        simpa [hsrc] using hnext
      · have hnext := ih { s with buf := (recvInto s.buf a.data).2 }
        simp only [pumpSocketToStream, ne_eq, hsrc, not_false_eq_true, if_true]
        simpa [hsrc] using hnext

/-- The pump forwards from one source only. -/
theorem ForwardsFrom.eq {udpAddress source : SocketAddr} (h : ForwardsFrom udpAddress source) :
    source = udpAddress := by
  have hone := (h ⟨[], [], none⟩ [⟨source, []⟩]).2
  rw [(forwardsFrom_self udpAddress _ _).2] at hone
  by_contra hne
  simp only [List.nil_append, List.filter_cons, List.filter_nil, hne, decide_false, decide_true,
    if_true, Bool.false_eq_true, if_false, List.flatMap_nil, List.flatMap_cons,
    List.append_nil] at hone
  exact datagramBytes_ne_nil _ hone.symm

theorem replySource_new_iff (ip : IpAddr) (port : UInt16) :
    replySource (.new ip port) = .new ip port ↔ ip.isUnspecified = false := by
  cases ip with
  | v4 ip =>
      by_cases hip : ip = .unspecified
      · subst hip
        simp [replySource, SocketAddr.new, IpAddr.isUnspecified, Ipv4Addr.unspecified,
          Ipv4Addr.localhost]
      · simp [replySource, SocketAddr.new, IpAddr.isUnspecified, hip]
  | v6 ip =>
      by_cases hip : ip = .unspecified
      · subst hip
        simp [replySource, SocketAddr.new, IpAddr.isUnspecified, Ipv6Addr.unspecified,
          Ipv6Addr.localhost]
      · simp [replySource, SocketAddr.new, IpAddr.isUnspecified, hip]

/-- For an address as target, the pump forwards the target's replies and nothing
else exactly if it is not the wildcard address. -/
theorem pump_forwards_replies {r : RemoteRequest} {localAddr : SocketAddr} {remote : HostPort}
    {ip : IpAddr} (hkind : r.kind = .udp localAddr remote)
    (hip : parseIpAddr remote.host.toList = some ip) :
    ∃ target, tunnelUdpServer r = .ok (target, bindAddr target) ∧
      (ForwardsFrom target (replySource target) ↔ ip.isUnspecified = false) := by
  refine ⟨.new ip remote.port, ?_, ?_⟩
  · simp only [tunnelUdpServer, RemoteRequest.remoteAddrString, hkind, parseSocketAddr_ip hip]
  · rw [← replySource_new_iff ip remote.port]
    constructor
    · exact ForwardsFrom.eq
    · intro heq
      rw [heq]
      exact forwardsFrom_self _

theorem pump_forwards_replies_loopback :
    RemoteRequest.fromStr "5353:[::1]:53/udp"
        = .ok (.new .forward (.udp (.new anyV4 5353) ⟨"::1", 53⟩)) ∧
      ∃ target,
        tunnelUdpServer (.new .forward (.udp (.new anyV4 5353) ⟨"::1", 53⟩))
            = .ok (target, bindAddr target) ∧
          ForwardsFrom target (replySource target) := by
  have hkind : (RemoteRequest.new .forward (.udp (.new anyV4 5353) ⟨"::1", 53⟩)).kind
      = .udp (.new anyV4 5353) ⟨"::1", 53⟩ := rfl
  have hip : parseIpAddr "::1".toList = some (.v6 .localhost) := by decide +kernel
  obtain ⟨target, htarget, hforwards⟩ := pump_forwards_replies hkind hip
  exact ⟨by decide +kernel, target, htarget, hforwards.mpr (by decide)⟩

/-- With the default host the target's reply is dropped. -/
theorem pump_forwards_replies_default :
    RemoteRequest.fromStr "53/udp"
        = .ok (.new .forward (.udp (.new anyV4 53) ⟨"0.0.0.0", 53⟩)) ∧
      tunnelUdpServer (.new .forward (.udp (.new anyV4 53) ⟨"0.0.0.0", 53⟩))
        = .ok (.v4 .unspecified 53, .v4 .unspecified 0) ∧
      replySource (.v4 .unspecified 53) = .v4 .localhost 53 ∧
      (pumpSocketToStream (.v4 .unspecified 53) ⟨[], [], none⟩
        [⟨.v4 .localhost 53, [1, 2, 3]⟩]).1.send = [] := by
  decide +kernel

end Rusnel
