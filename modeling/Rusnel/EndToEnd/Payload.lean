import Rusnel.EndToEnd.Encoding
import Rusnel.EndToEnd.Stdio
import Rusnel.EndToEnd.UdpTunnel

/-!
# What the handlers put on their streams

{lit}`Encoding` says which encoding belongs to a handler.  Here this is compared
with the handlers as they run: what they have written on the stream are the first
bytes of what they took up, and what they have handed on are the first of the
chunks that have arrived, both in that encoding, in every state of every run.

The TCP handlers, a SOCKS5 `CONNECT` and the stdio handler are relays; a conn of a
UDP tunnel or association and its accepting side are those of {lit}`UdpTunnel`.

Main results:

- Theorem {lit}`InitiatorHandler.Shows.governed`: a handler that opens conns keeps to
  its encoding.
- Theorem {lit}`acceptor_governed`: so does what an opener is dispatched to.
-/

namespace Rusnel
namespace EndToEnd

open ByteStream TcpRelay UdpRelay UdpTunnel

/-! ## Transcripts -/

/-- What one side of a conn has done with its stream. -/
structure Transcript where
  /-- Taken up from the application side. -/
  taken : List Datagram
  /-- The bytes it has written on the stream. -/
  wire : List UInt8
  /-- The bytes of the other side that have arrived. -/
  arrived : List UInt8
  /-- Handed on to the application side. -/
  handed : List Datagram

/-- A side that keeps to an encoding, in both directions. -/
structure Encoding.Governs (e : Encoding) (t : Transcript) : Prop where
  writes : t.wire <+: e.write t.taken
  reads : t.handed.flatten <+: (e.read t.arrived).flatten
  /-- Datagrams are handed on as they arrived, and not in other pieces. -/
  whole : e = .datagrams → t.handed <+: e.read t.arrived

theorem Encoding.governs_datagrams {t : Transcript}
    (hfits : ∀ payload ∈ t.taken, payload.length ≤ maxDatagram)
    (hwrites : t.wire <+: t.taken.flatMap datagramBytes)
    (hreads : t.handed <+: (readDatagrams t.arrived).1) : Encoding.datagrams.Governs t where
  writes := by
    rw [Encoding.write, writeDatagrams_ok hfits, List.nil_append]
    exact hwrites
  reads := hreads.flatten
  whole _ := hreads

/-! ## Relays -/

/-- A relay whose QUIC stream is the stream of the conn. -/
def relayTranscript (r : TcpRelay.Relay) : Transcript where
  taken := [r.clientToServer.copy.received]
  wire := r.clientToServer.copy.written
  arrived := r.serverToClient.copy.received
  handed := [r.serverToClient.copy.written]

/-- A relay passes the bytes on as they are. -/
theorem relay_governed {acts : List TcpRelay.Action} {r : TcpRelay.Relay}
    (hrun : TcpRelay.run .init acts = some r) : Encoding.raw.Governs (relayTranscript r) where
  writes := by
    have hout := run_flow_lawful hrun .clientToServer
    simpa [relayTranscript, Encoding.write, Relay.flow] using hout.balanced.written_prefix
  reads := by
    have hin := run_flow_lawful hrun .serverToClient
    simpa [relayTranscript, Encoding.read, Relay.flow] using hin.balanced.written_prefix
  whole h := by cases h

/-- So does the stdio handler, which differs in how it leaves stdout. -/
theorem stdio_governed {acts : List TcpRelay.Action} {r : TcpRelay.Relay}
    (hrun : Transition.run stdioStep .init acts = some r) :
    Encoding.raw.Governs (relayTranscript r) := by
  have hstep (r : Relay) (a : TcpRelay.Action) :
      stdioStep (keepStdout r) a = (TcpRelay.step r a).map keepStdout := keepStdout_step r a
  have hkept := Transition.run_map hstep .init acts
  obtain ⟨relay, hrelay, rfl⟩ := Option.map_eq_some_iff.mp (hkept.symm.trans hrun)
  change Encoding.raw.Governs (relayTranscript relay)
  exact relay_governed hrelay

/-! ## Conns of a UDP listener -/

/-- The task of a conn, where the other side may not have been started. -/
def connTranscript (link : Link) (circuit : Option Circuit) : Transcript where
  taken := link.taken.map Prod.snd
  wire := link.wire
  arrived := (circuit.map fun c => c.wire.take c.back.arrived).getD []
  handed := link.replies

/-- The pumps at the accepting side. -/
def pumpsTranscript (link : Link) (c : Circuit) : Transcript where
  taken := c.answers
  wire := c.wire
  arrived := link.wire.take c.forth.arrived
  handed := c.emitted

/-- What was taken off a stream is what its bytes start with. -/
theorem items_of_follows {box : Inbox Datagram} {written : List Datagram} {wire : List UInt8}
    (h : box.Follows datagramBytes written wire)
    (hshort : ∀ payload ∈ written, payload.length ≤ maxDatagram) :
    box.items <+: (readDatagrams (wire.take box.arrived)).1 := by
  have hbytes : box.items.flatMap datagramBytes <+: wire.take box.arrived := by
    rw [← h.bytes]
    exact List.take_prefix_take_left h.taken_le
  obtain ⟨more, hmore⟩ := hbytes
  rw [← hmore]
  refine drain_starts (fun payload hpayload => ?_) more (by rw [List.length_append]; omega)
  exact ⟨readDatagram_delimits (hshort payload (h.items.subset hpayload)),
    datagramBytes_ne_nil payload⟩

section Conns

variable {κ : Type} [DecidableEq κ] {L : Listener κ} {conn : UdpTable.Conn κ} {link : Link}
  {circuit : Option Circuit} {c : Circuit}

/-- A conn of a UDP listener, with its stream and its accepting side, in some run. -/
def InTunnel (L : Listener κ) (conn : UdpTable.Conn κ) (link : Link) (circuit : Option Circuit) :
    Prop :=
  ∃ capacity tunnelId dialer acts s n,
    Transition.run (UdpTunnel.step L capacity tunnelId dialer) (.init κ) acts = some s ∧
      s.near.relay.tasks[n]? = some conn ∧ s.near.links[n]? = some link ∧ s.circuits n = circuit

/-- The task of a conn writes and reads datagrams. -/
theorem conn_governed (h : InTunnel L conn link circuit) :
    Encoding.datagrams.Governs (connTranscript link circuit) := by
  obtain ⟨capacity, tunnelId, dialer, acts, s, n, hrun, hconn, hlink, rfl⟩ := h
  have h := UdpTunnel.run_lawful hrun
  have hsound := h.near.sound n conn link hconn hlink
  refine Encoding.governs_datagrams (List.forall_mem_map.mpr hsound.fits) hsound.sent ?_
  cases hc : s.circuits n with
  | none =>
      simp only [connTranscript, h.unanswered n link hc hlink]
      exact List.nil_prefix
  | some c =>
      obtain ⟨conn', link', -, hlink', hcircuit⟩ := h.sound n c hc
      cases hlink.symm.trans hlink'
      simp only [connTranscript, Option.map_some, Option.getD_some, ← hcircuit.replies]
      exact items_of_follows hcircuit.back fun payload hpayload =>
        hcircuit.short payload (List.mem_append_left _ hpayload)

/-- So do the pumps behind its stream. -/
theorem pumps_governed (h : InTunnel L conn link (some c)) :
    Encoding.datagrams.Governs (pumpsTranscript link c) := by
  obtain ⟨capacity, tunnelId, dialer, acts, s, n, hrun, hconn, hlink, hc⟩ := h
  have h := UdpTunnel.run_lawful hrun
  have hsound := h.near.sound n conn link hconn hlink
  obtain ⟨conn', link', -, hlink', hcircuit⟩ := h.sound n c hc
  cases hlink.symm.trans hlink'
  refine Encoding.governs_datagrams Circuit.answers_short hcircuit.sent ?_
  exact hcircuit.emitted.trans (items_of_follows hcircuit.forth hsound.short)

end Conns

/-! ## The handlers -/

/-- The transcripts of a handler's conns, with the dynamic field that they announce. -/
inductive InitiatorHandler.Shows :
    InitiatorHandler → Option DynamicTarget → Transcript → Prop where
  | tcp {acts : List TcpRelay.Action} {r : TcpRelay.Relay}
      (hrun : TcpRelay.run .init acts = some r) :
      Shows .tunnelTcpClient none (relayTranscript r)
  | stdio {acts : List TcpRelay.Action} {r : TcpRelay.Relay}
      (hrun : Transition.run stdioStep .init acts = some r) :
      Shows .tunnelStdioClient none (relayTranscript r)
  | connect (target : HostPort) {acts : List TcpRelay.Action} {r : TcpRelay.Relay}
      (hrun : TcpRelay.run .init acts = some r) :
      Shows .tunnelSocksClient (some (.tcp target)) (relayTranscript r)
  | udp {conn : UdpTable.Conn Net.SocketAddr} {link : Link} {circuit : Option Circuit}
      (h : InTunnel tunnelUdpListener conn link circuit) :
      Shows .tunnelUdpClient (tunnelUdpListener.dynamic conn.key) (connTranscript link circuit)
  | associate {conn : UdpTable.Conn (Net.SocketAddr × HostPort)} {link : Link}
      {circuit : Option Circuit} (h : InTunnel socksUdpListener conn link circuit) :
      Shows .tunnelSocksClient (socksUdpListener.dynamic conn.key) (connTranscript link circuit)

/-- Every handler that opens conns writes and reads them in its encoding. -/
theorem InitiatorHandler.Shows.governed {handler : InitiatorHandler}
    {dynamic : Option DynamicTarget} {t : Transcript} (h : handler.Shows dynamic t) :
    ∃ e, handler.encoding dynamic = some e ∧ e.Governs t := by
  cases h with
  | tcp hrun => exact ⟨.raw, rfl, relay_governed hrun⟩
  | stdio hrun => exact ⟨.raw, rfl, stdio_governed hrun⟩
  | connect target hrun => exact ⟨.raw, rfl, relay_governed hrun⟩
  | udp h => exact ⟨.datagrams, rfl, conn_governed h⟩
  | associate h => exact ⟨.datagrams, rfl, conn_governed h⟩

/-- The transcripts of the handler that serves the target of a conn. -/
inductive TargetShows : Protocol → Transcript → Prop where
  | tcp {acts : List TcpRelay.Action} {r : TcpRelay.Relay}
      (hrun : TcpRelay.run .init acts = some r) : TargetShows .tcp (relayTranscript r)
  | udp {κ : Type} [DecidableEq κ] {L : Listener κ} {conn : UdpTable.Conn κ} {link : Link}
      {c : Circuit} (h : InTunnel L conn link (some c)) : TargetShows .udp (pumpsTranscript link c)

/-- What an opener that fits its remote is dispatched to writes and reads in the encoding
of the accepting side. -/
theorem acceptor_governed {r : RemoteRequest} {tunnel : Server.TunnelEntry}
    (hdir : tunnel.direction = r.direction) (hkind : tunnel.kind = r.kind)
    {dynamic : Option DynamicTarget} {protocol : Protocol} {address : HostPort}
    (htarget : connTarget r.kind dynamic = some (protocol, address)) {t : Transcript}
    (h : TargetShows protocol t) : ∃ e, acceptor r tunnel dynamic = .ok e ∧ e.Governs t := by
  refine ⟨_, acceptor_eq hdir hkind htarget, ?_⟩
  cases h with
  | tcp hrun => exact relay_governed hrun
  | udp h => exact pumps_governed h

end EndToEnd
end Rusnel
