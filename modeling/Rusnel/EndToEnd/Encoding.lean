import Rusnel.Client.Dispatch
import Rusnel.Common.Datagram
import Rusnel.Common.RemoteParser
import Rusnel.Server.Session

/-!
# Encodings of the data plane

After the opener a stream carries payload, either as it is or as length-prefixed
datagrams.  Which of the two is decided on each side on its own: by the handler
that opened the conn, and by what the opener was dispatched to.  {lit}`Payload`
shows that the handlers, as they run, keep to what is decided here.

Main results:

- Theorem {lit}`transparent_iff`: payload passes unchanged both ways exactly when
  the two sides use the same encoding.
- Theorem {lit}`encodings_agree_iff`: for a parsed remote they do unless it is a
  UDP remote on stdio.
-/

namespace Rusnel
namespace EndToEnd

open Server Client

/-! ## The two encodings -/

/-- How payload is laid out on a stream. -/
inductive Encoding where
  /-- The bytes as they are. -/
  | raw
  /-- Datagrams, each after its length. -/
  | datagrams
deriving DecidableEq, Repr

namespace Encoding

/-- What a handler writes for the chunks its application side hands it. -/
def write : Encoding → List Datagram → List UInt8
  | .raw, chunks => chunks.flatten
  | .datagrams, chunks => (writeDatagrams [] chunks).1

/-- What a handler hands its application side for the bytes of a stream. -/
def read : Encoding → List UInt8 → List Datagram
  | .raw, bytes => [bytes]
  | .datagrams, bytes => (readDatagrams bytes).1

/-- Payload written by one side comes out unchanged on the other: the same bytes
and, if they were datagrams, the same datagrams. -/
def Delivers (writer reader : Encoding) : Prop :=
  ∀ chunks : List Datagram, (∀ chunk ∈ chunks, chunk.length ≤ maxDatagram) →
    (reader.read (writer.write chunks)).flatten = chunks.flatten ∧
      (writer = .datagrams → reader.read (writer.write chunks) = chunks)

/-- Payload passes unchanged in both directions. -/
def Transparent (initiator acceptor : Encoding) : Prop :=
  Delivers initiator acceptor ∧ Delivers acceptor initiator

theorem delivers_self (e : Encoding) : Delivers e e := by
  intro chunks hlen
  cases e with
  | raw => simp [read, write]
  | datagrams =>
      have hread : read .datagrams (write .datagrams chunks) = chunks := by
        simp only [read, write, writeDatagrams_ok hlen, List.nil_append,
          readDatagrams_flatMap hlen]
      rw [hread]
      exact ⟨rfl, fun _ => rfl⟩

/-- A byte on its own is no datagram. -/
theorem not_delivers_raw_datagrams : ¬Delivers .raw .datagrams := by
  intro h
  have hone := (h [[65]] (by decide)).1
  revert hone
  decide

/-- A datagram written out raw shows its length. -/
theorem not_delivers_datagrams_raw : ¬Delivers .datagrams .raw := by
  intro h
  have hone := (h [[65]] (by decide)).1
  revert hone
  decide

/-- Payload passes unchanged both ways exactly under equal encodings. -/
theorem transparent_iff {initiator acceptor : Encoding} :
    Transparent initiator acceptor ↔ initiator = acceptor := by
  constructor
  · rintro ⟨hout, _⟩
    cases initiator <;> cases acceptor
    · rfl
    · exact absurd hout not_delivers_raw_datagrams
    · exact absurd hout not_delivers_datagrams_raw
    · rfl
  · rintro rfl
    exact ⟨delivers_self _, delivers_self _⟩

end Encoding

/-! ## The handlers on either side -/

/-- The handlers that open conns. -/
inductive InitiatorHandler where
  | tunnelTcpClient
  | tunnelUdpClient
  | tunnelSocksClient
  | tunnelStdioClient
deriving DecidableEq, Repr

/-- The handler a client runs for a forward remote. -/
def handleForwardTunnel (remote : RemoteRequest) : InitiatorHandler :=
  if remote.stdio then .tunnelStdioClient
  else
    match remote.kind with
    | .socks5 _ => .tunnelSocksClient
    | .tcp _ _ => .tunnelTcpClient
    | .udp _ _ => .tunnelUdpClient

/-- The handler a server runs for a reverse tunnel. -/
def spawnReverseHandler (tunnel : TunnelEntry) : InitiatorHandler :=
  match tunnel.kind with
  | .tcp _ _ => .tunnelTcpClient
  | .udp _ _ => .tunnelUdpClient
  | .socks5 _ => .tunnelSocksClient

/-- The handler that opens the conns of a remote registered as `tunnel`. -/
def initiator (r : RemoteRequest) (tunnel : TunnelEntry) : InitiatorHandler :=
  match r.direction with
  | .forward => handleForwardTunnel r
  | .reverse => spawnReverseHandler tunnel

/-- The encoding of a conn that a handler opens with this dynamic field, if it
opens such conns.  The SOCKS5 handler announces a TCP target for `CONNECT` and a
UDP target for each destination of an association. -/
def InitiatorHandler.encoding : InitiatorHandler → Option DynamicTarget → Option Encoding
  | .tunnelTcpClient, none => some .raw
  | .tunnelUdpClient, none => some .datagrams
  | .tunnelStdioClient, none => some .raw
  | .tunnelSocksClient, some (.tcp _) => some .raw
  | .tunnelSocksClient, some (.udp _) => some .datagrams
  | _, _ => none

/-- The encoding of the handler a server dispatches a conn to. -/
def forwardEncoding : ForwardDispatch → Encoding
  | .tcp _ => .raw
  | .udp _ => .datagrams

/-- The encoding of the handler a client dispatches a conn to. -/
def reverseEncoding : ReverseDispatch → Encoding
  | .tcp _ => .raw
  | .udp _ => .datagrams

/-- The encoding on the side that accepts a conn of a remote registered as
`tunnel`, or the reason it replies. -/
def acceptor (r : RemoteRequest) (tunnel : TunnelEntry) (dynamic : Option DynamicTarget) :
    Except String Encoding :=
  match r.direction with
  | .forward => (resolveDispatch tunnel dynamic).map forwardEncoding
  | .reverse => (resolveReverseDispatch r dynamic).map reverseEncoding

/-! ## Agreement -/

/-- The encoding that belongs to a protocol. -/
def protocolEncoding : Protocol → Encoding
  | .tcp => .raw
  | .udp => .datagrams

/-- The accepting side uses the encoding of the conn's protocol. -/
theorem acceptor_eq {r : RemoteRequest} {tunnel : TunnelEntry}
    (hdir : tunnel.direction = r.direction) (hkind : tunnel.kind = r.kind)
    {dynamic : Option DynamicTarget} {protocol : Protocol} {address : HostPort}
    (h : connTarget r.kind dynamic = some (protocol, address)) :
    acceptor r tunnel dynamic = .ok (protocolEncoding protocol) := by
  rcases r with ⟨direction, kind, stdio⟩
  simp only at hdir hkind h
  rcases kind with ⟨a, remote⟩ | ⟨a, remote⟩ | ⟨a⟩ <;>
    rcases dynamic with _ | ⟨target⟩ | ⟨target⟩ <;> cases h <;> cases direction <;>
    simp [acceptor, resolveDispatch, resolveReverseDispatch, hdir, hkind, Except.map,
      forwardEncoding, reverseEncoding, protocolEncoding, DynamicTarget.protocol]

/-- A handler with a socket opens conns that fit the remote, in the encoding of
the conn's protocol. -/
theorem initiator_encoding_socket {r : RemoteRequest} {tunnel : TunnelEntry}
    (hkind : tunnel.kind = r.kind) (hstdio : r.stdio = false)
    {dynamic : Option DynamicTarget} {e : Encoding}
    (h : (initiator r tunnel).encoding dynamic = some e) :
    ∃ protocol address, connTarget r.kind dynamic = some (protocol, address) ∧
      e = protocolEncoding protocol := by
  rcases r with ⟨direction, kind, stdio⟩
  simp only at hkind hstdio h ⊢
  rcases kind with ⟨a, remote⟩ | ⟨a, remote⟩ | ⟨a⟩ <;>
    rcases dynamic with _ | ⟨target⟩ | ⟨target⟩ <;> cases direction <;>
    simp_all [initiator, handleForwardTunnel, spawnReverseHandler, InitiatorHandler.encoding,
      connTarget, protocolEncoding, DynamicTarget.protocol]

/-- The stdio handler opens one raw conn, whatever the remote's protocol. -/
theorem initiator_encoding_stdio {r : RemoteRequest} {tunnel : TunnelEntry}
    (hstdio : r.stdio = true) (hforward : r.direction = .forward)
    (hstatic : ∀ a, r.kind ≠ .socks5 a) {dynamic : Option DynamicTarget} {e : Encoding}
    (h : (initiator r tunnel).encoding dynamic = some e) :
    e = .raw ∧ ∃ protocol address, connTarget r.kind dynamic = some (protocol, address) ∧
      (protocol = .udp ↔ ∃ a remote, r.kind = .udp a remote) := by
  have hhandler : initiator r tunnel = .tunnelStdioClient := by
    simp [initiator, hforward, handleForwardTunnel, hstdio]
  rw [hhandler] at h
  cases dynamic with
  | some target => cases h
  | none =>
      cases h
      refine ⟨rfl, ?_⟩
      rcases hkind : r.kind with ⟨a, remote⟩ | ⟨a, remote⟩ | ⟨a⟩
      · exact ⟨.tcp, remote, rfl, by simp⟩
      · exact ⟨.udp, remote, rfl, by simp⟩
      · exact absurd hkind (hstatic a)

/-- Every conn that a handler opens on a registered remote from a parsed flag is
dispatched, and payload passes unchanged both ways unless the remote is a UDP
remote on stdio. -/
theorem encodings_agree_iff {input : String} {r : RemoteRequest}
    (hparse : RemoteRequest.fromStr input = .ok r) (st : ServerState) (client : ClientEntry)
    (id : UInt64) {dynamic : Option DynamicTarget} {e : Encoding}
    (hopen : (initiator r (st.tunnelEntry client id r)).encoding dynamic = some e) :
    ∃ e', acceptor r (st.tunnelEntry client id r) dynamic = .ok e' ∧
      (Encoding.Transparent e e' ↔
        ¬(r.stdio = true ∧ ∃ a remote, r.kind = .udp a remote)) := by
  simp only [Encoding.transparent_iff]
  cases hstdio : r.stdio with
  | false =>
      rcases initiator_encoding_socket rfl hstdio hopen with ⟨protocol, address, htarget, rfl⟩
      exact ⟨_, acceptor_eq rfl rfl htarget, by simp⟩
  | true =>
      have hflag := fromStr_stdio hparse hstdio
      rcases initiator_encoding_stdio hstdio hflag.1 hflag.2 hopen with
        ⟨rfl, protocol, address, htarget, hudp⟩
      refine ⟨_, acceptor_eq rfl rfl htarget, ?_⟩
      rw [← hudp]
      cases protocol <;> simp [protocolEncoding]

/-- A UDP association over a reverse SOCKS5 tunnel. -/
theorem encodings_agree_reverse_socks :
    ∃ e', acceptor (.new .reverse (.socks5 (.v4 ⟨127, 0, 0, 1⟩ 1080)))
        (ServerState.new.tunnelEntry ⟨1, .v4 ⟨10, 0, 0, 1⟩ 40000, 0⟩ 1
          (.new .reverse (.socks5 (.v4 ⟨127, 0, 0, 1⟩ 1080))))
        (some (.udp ⟨"10.1.1.1", 53⟩)) = .ok e' ∧
      Encoding.Transparent .datagrams e' := by
  have hparse : RemoteRequest.fromStr "R:socks" =
      .ok (.new .reverse (.socks5 (.v4 ⟨127, 0, 0, 1⟩ 1080))) := by
    decide +kernel
  have hopen : (initiator (.new .reverse (.socks5 (.v4 ⟨127, 0, 0, 1⟩ 1080)))
      (ServerState.new.tunnelEntry ⟨1, .v4 ⟨10, 0, 0, 1⟩ 40000, 0⟩ 1
        (.new .reverse (.socks5 (.v4 ⟨127, 0, 0, 1⟩ 1080))))).encoding
      (some (.udp ⟨"10.1.1.1", 53⟩)) = some .datagrams :=
    rfl
  rcases encodings_agree_iff hparse ServerState.new _ 1 hopen with ⟨e', haccept, hiff⟩
  exact ⟨e', haccept, hiff.mpr (by rintro ⟨hstdio, _⟩; cases hstdio)⟩

/-- A UDP remote on stdio parses, and its one conn is opened and acknowledged, but
five bytes typed in reach no datagram of the target, and a two-byte datagram of
the target is printed with its length in front. -/
theorem stdio_udp_garbled :
    ∃ r tunnel, RemoteRequest.fromStr "stdio:1.1.1.1:53/udp" = .ok r ∧
      tunnel = ServerState.new.tunnelEntry ⟨1, .v4 ⟨10, 0, 0, 1⟩ 40000, 0⟩ 1 r ∧
      (initiator r tunnel).encoding none = some .raw ∧
      acceptor r tunnel none = .ok .datagrams ∧
      Encoding.read .datagrams (Encoding.write .raw [[104, 101, 108, 108, 111]]) = [] ∧
      Encoding.read .raw (Encoding.write .datagrams [[104, 105]]) = [[2, 0, 104, 105]] ∧
      ¬Encoding.Transparent .raw .datagrams := by
  refine ⟨⟨.forward, .udp (.v4 ⟨0, 0, 0, 0⟩ 0) ⟨"1.1.1.1", 53⟩, true⟩, _, by decide +kernel,
    rfl, rfl, rfl, by decide +kernel, by decide +kernel, ?_⟩
  intro htransparent
  exact Encoding.not_delivers_raw_datagrams htransparent.1

end EndToEnd
end Rusnel
