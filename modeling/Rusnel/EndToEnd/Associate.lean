import Rusnel.Foundation.Dialogue
import Rusnel.EndToEnd.ProxyHandshake
import Rusnel.EndToEnd.SocksHandshake

/-!
# A UDP association between the two SOCKS5 implementations

The client can be pointed at a SOCKS5 proxy, and a SOCKS5 tunnel is one.  Both
ends of the association are written here on their own: the client's request for a
relay, and the tunnel's handshake with its reply.  They are put at the two ends of
a connection that delivers byte by byte.

Main results:

- Theorem {lit}`udp_association_established`: in whatever order the bytes arrive,
  the handshake ends, on both sides and with nothing left unread, with the address
  the relay was bound to; the credentials are not sent.
-/

namespace Rusnel
namespace EndToEnd

open Net Text Tcp Dialogue

/-! ## The tunnel's side -/

/-- The reply that names the relay. -/
def socksUdpAssociateReply (addr : SocketAddr) : List UInt8 :=
  [0x05, 0x00, 0x00] ++
    (match addr.ip with
      | .v4 ip => 0x01 :: ip.octets
      | .v6 ip => 0x04 :: ip.octets) ++ toBeBytes addr.port

/-- The task on an accepted connection, up to the relay it binds at `bound` for an
association. -/
def serveUdpAssociate (bound : SocketAddr) : ConnTask SocksRequest := do
  let request ← Buffered.socksHandshake
  match request with
  | .connect target => pure (.connect target)
  | .udpAssociate => do
      writeAll (socksUdpAssociateReply bound)
      pure .udpAssociate

/-! ## Both are parties -/

theorem steady_socks5UserpassAuth (user pass : String) : Steady (socks5UserpassAuth user pass) := by
  unfold socks5UserpassAuth
  dsimp only
  split_ifs
  · exact .fail _
  · refine .bind (.writeAll _) fun _ => .bind (.readExact _ _) fun reply => ?_
    split_ifs
    · exact .fail _
    · exact .fail _
    · exact .pure _

theorem steady_negotiate (auth : Option (String × String)) : Steady (negotiate auth) := by
  unfold negotiate
  refine .bind (.writeAll _) fun _ => .bind (.readExact _ _) fun reply => ?_
  split_ifs
  · exact .fail _
  · exact .pure _
  · cases auth with
    | none => exact .fail _
    | some credentials => exact steady_socks5UserpassAuth _ _
  · exact .fail _
  · exact .fail _

theorem steady_readBndIp (atyp : UInt8) (peer : IpAddr) : Steady (readBndIp atyp peer) := by
  unfold readBndIp
  split_ifs
  · exact .bind (.readExact _ _) fun _ => .pure _
  · exact .bind (.readExact _ _) fun _ => .pure _
  · exact .bind (.readExact _ _) fun _ => .bind (.readExact _ _) fun _ => .pure _
  · exact .fail _

theorem steady_requestAssociation (peer : IpAddr) : Steady (requestAssociation peer) := by
  unfold requestAssociation
  refine .bind (.writeAll _) fun _ => .bind (.readExact _ _) fun head => ?_
  split_ifs
  · exact .fail _
  · exact .fail _
  · exact .bind (steady_readBndIp _ _) fun _ => .bind (.readExact _ _) fun _ => .pure _

theorem steady_establishSocks5UdpAssociate (auth : Option (String × String)) (peer : IpAddr) :
    Steady (establishSocks5UdpAssociate auth peer) :=
  .bind (steady_negotiate auth) fun _ => steady_requestAssociation peer

theorem steady_readSocksAddr (atyp : UInt8) : Steady (Buffered.readSocksAddr atyp) := by
  unfold Buffered.readSocksAddr
  split_ifs
  · exact .bind (.readExact _ _) fun _ => .bind (.readExact _ _) fun _ => .pure _
  · exact .bind (.readExact _ _) fun _ => .bind (.readExact _ _) fun _ =>
      .bind (.readExact _ _) fun _ => .pure _
  · exact .bind (.readExact _ _) fun _ => .bind (.readExact _ _) fun _ => .pure _
  · exact .bind (.writeAll _) fun _ => .fail _

theorem steady_socksCommand (cmd : UInt8) (target : HostPort) :
    Steady (Buffered.socksCommand cmd target) := by
  unfold Buffered.socksCommand
  split_ifs
  · exact .pure _
  · exact .pure _
  · exact .bind (.writeAll _) fun _ => .fail _

theorem steady_readRequest (buf : List UInt8) : Steady (Buffered.readRequest buf) :=
  .bind (.readExact _ _) fun _ => .bind (.lift _) fun cmd => .bind (.lift _) fun atyp =>
    .bind (steady_readSocksAddr atyp) fun target => steady_socksCommand cmd target

theorem steady_socksHandshake : Steady Buffered.socksHandshake := by
  unfold Buffered.socksHandshake
  refine .bind (.readExact _ _) fun buf => .bind (.lift _) fun version => ?_
  split_ifs
  · exact .fail _
  · exact .bind (.lift _) fun _ => .bind (.readExact _ _) fun buf =>
      .bind (.writeAll _) fun _ => steady_readRequest buf

theorem steady_serveUdpAssociate (bound : SocketAddr) : Steady (serveUdpAssociate bound) := by
  refine .bind steady_socksHandshake fun request => ?_
  cases request with
  | connect target => exact .pure _
  | udpAssociate => exact .bind (.writeAll _) fun _ => .pure _

/-! ## Turn by turn -/

/-- The request for a relay, from an address the client does not know yet. -/
def associateRequest : List UInt8 :=
  [0x05, 0x03, 0x00, 0x01, 0, 0, 0, 0, 0, 0]

/-- Where the client sends its datagrams: to the address of the reply, or to the
proxy itself if that address is a wildcard. -/
def relayAddr (peer : IpAddr) (bound : SocketAddr) : SocketAddr :=
  .new (if bound.ip.isUnspecified then peer else bound.ip) bound.port

/-- The client asks for no relay before a method was agreed on. -/
theorem writtenOn_establish_nil (auth : Option (String × String)) (peer : IpAddr) :
    writtenOn (establishSocks5UdpAssociate auth peer) [] = proxyGreeting auth := by
  cases auth <;> rfl

/-- Without authentication the client goes on to its request. -/
theorem establish_noAuth (auth : Option (String × String)) (peer : IpAddr)
    (rest : List UInt8) :
    (establishSocks5UdpAssociate auth peer).run ⟨[0x05, 0x00] ++ rest, []⟩ =
      (requestAssociation peer).run ⟨rest, proxyGreeting auth⟩ := by
  have hreply : Takes (readExact [0, 0] 2) [0x05, 0x00] [] [0x05, 0x00] :=
    .readExact rfl (Nat.le_refl 2)
  have hagreed : (negotiate auth).run ⟨[0x05, 0x00] ++ rest, []⟩
      = (.ok (), ⟨rest, proxyGreeting auth⟩) := by
    unfold negotiate
    rw [bind_writeAll, hreply.run_bind, List.append_nil]
    rfl
  rw [establishSocks5UdpAssociate, bind_ok hagreed]

/-- The reply is the address of the relay as SOCKS5 transmits one. -/
theorem socksUdpAssociateReply_eq (bound : SocketAddr) :
    socksUdpAssociateReply bound = [0x05, 0x00, 0x00, (SocksAddr.ofIp bound.ip).atyp] ++
      ((SocksAddr.ofIp bound.ip).bytes ++ toBeBytes bound.port) := by
  cases bound <;>
    simp [socksUdpAssociateReply, SocketAddr.ip, SocksAddr.ofIp, SocksAddr.atyp, SocksAddr.bytes]

/-- An address is read behind its type. -/
theorem takes_readBndIp (ip peer : IpAddr) :
    Takes (readBndIp (SocksAddr.ofIp ip).atyp peer) (SocksAddr.ofIp ip).bytes [] ip := by
  cases ip with
  | v4 ip =>
      have hoctets : Takes (readExact [0, 0, 0, 0] 4) ip.octets [] ip.octets :=
        .readExact rfl (Nat.le_refl 4)
      exact hoctets.map _
  | v6 ip =>
      have hoctets : Takes (readExact (List.replicate 16 0) 16) ip.octets [] ip.octets :=
        .readExact_fresh ip.length_octets
      exact (hoctets.map _).of_value (by rw [Ipv6Addr.fromOctets_octets])

/-- The request goes out, and the reply to it is read to its end. -/
theorem requestAssociation_run (peer : IpAddr) (bound : SocketAddr) (written : List UInt8) :
    (requestAssociation peer).run ⟨socksUdpAssociateReply bound, written⟩
      = (.ok (relayAddr peer bound), ⟨[], written ++ associateRequest⟩) := by
  have hhead : Takes (readExact [0, 0, 0, 0] 4)
      [0x05, 0x00, 0x00, (SocksAddr.ofIp bound.ip).atyp] []
      [0x05, 0x00, 0x00, (SocksAddr.ofIp bound.ip).atyp] := .readExact rfl (Nat.le_refl 4)
  have hport : Takes (readExact [0, 0] 2) (toBeBytes bound.port) [] (toBeBytes bound.port) :=
    .readExact rfl (Nat.le_refl 2)
  have hvalue : fromBeBytes ((toBeBytes bound.port).getD 0 0) ((toBeBytes bound.port).getD 1 0)
      = bound.port := fromBeBytes_toBeBytes bound.port
  have haddr : Takes (readBndIp (SocksAddr.ofIp bound.ip).atyp peer >>= fun bndIp =>
        readExact [0, 0] 2 >>= fun port =>
          pure (.new (if bndIp.isUnspecified then peer else bndIp)
            (fromBeBytes (port.getD 0 0) (port.getD 1 0))))
      ((SocksAddr.ofIp bound.ip).bytes ++ toBeBytes bound.port) []
      (relayAddr peer bound) :=
    (takes_readBndIp bound.ip peer).bind ((hport.map _).of_value (by rw [hvalue, relayAddr]))
  have hread := haddr.reads [] (written ++ associateRequest)
  rw [List.append_nil, List.append_nil] at hread
  rw [socksUdpAssociateReply_eq, requestAssociation, bind_writeAll, hhead.run_bind,
    List.append_nil]
  exact hread

/-- The greeting is one the tunnel answers. -/
theorem proxyGreeting_eq (auth : Option (String × String)) :
    ∃ methods : List UInt8, methods.length ≤ 255 ∧
      proxyGreeting auth = Buffered.greeting methods := by
  cases auth with
  | none => exact ⟨[0x00], by decide, rfl⟩
  | some credentials => exact ⟨[0x00, 0x02], by decide, rfl⟩

/-- The tunnel's first turn. -/
theorem writtenOn_serve_greeting (auth : Option (String × String)) (bound : SocketAddr) :
    writtenOn (serveUdpAssociate bound) (proxyGreeting auth) = [0x05, 0x00] := by
  obtain ⟨methods, hmethods, hgreeting⟩ := proxyGreeting_eq auth
  obtain ⟨buf, hbuf, hrun⟩ := Buffered.socksHandshake_greeting hmethods [] []
  have hnone : (Buffered.readRequest buf).run ⟨[], [0x05, 0x00]⟩
      = (.error (.err "early eof"), ⟨[], [0x05, 0x00]⟩) := by
    rw [Buffered.readRequest, Buffered.readExact_bind (by omega)]
    rfl
  rw [List.append_nil, ← hgreeting] at hrun
  rw [writtenOn, serveUdpAssociate, bind_error (hrun.trans hnone)]

/-- The tunnel takes the greeting and the request, and replies to both. -/
theorem serveUdpAssociate_run (auth : Option (String × String)) (bound : SocketAddr) :
    (serveUdpAssociate bound).run ⟨proxyGreeting auth ++ associateRequest, []⟩
      = (.ok .udpAssociate, ⟨[], [0x05, 0x00] ++ socksUdpAssociateReply bound⟩) := by
  obtain ⟨methods, hmethods, hgreeting⟩ := proxyGreeting_eq auth
  obtain ⟨buf, hbuf, hrun⟩ := Buffered.socksHandshake_greeting hmethods associateRequest []
  have haddr := (Buffered.takes_readSocksAddr (.v4 .unspecified) 0).run_bind
    (Buffered.socksCommand 0x03) [] [0x05, 0x00]
  have hrequest : (Buffered.readRequest buf).run ⟨associateRequest, [0x05, 0x00]⟩
      = (.ok .udpAssociate, ⟨[], [0x05, 0x00]⟩) := by
    rw [associateRequest, Buffered.readRequest_head (by omega)]
    exact haddr.trans (Buffered.socksCommand_ok (.inr rfl) _ _)
  rw [hgreeting, serveUdpAssociate, bind_ok (hrun.trans hrequest)]
  rfl

/-! ## The whole handshake -/

/-- The client and the tunnel at the two ends of a connection. -/
def associateParties (auth : Option (String × String)) (peer : IpAddr) (bound : SocketAddr) :
    Parties UInt8 :=
  parties (steady_establishSocks5UdpAssociate auth peer) (steady_serveUdpAssociate bound)

theorem associateParties_left (auth : Option (String × String)) (peer : IpAddr)
    (bound : SocketAddr) : (associateParties auth peer bound).left
      = writtenOn (establishSocks5UdpAssociate auth peer) := by
  rw [associateParties, parties_left]

theorem associateParties_right (auth : Option (String × String)) (peer : IpAddr)
    (bound : SocketAddr) : (associateParties auth peer bound).right
      = writtenOn (serveUdpAssociate bound) := by
  rw [associateParties, parties_right]

/-- All that is sent in a handshake. -/
def associated (auth : Option (String × String)) (bound : SocketAddr) : Talk UInt8 where
  toLeft := [0x05, 0x00] ++ socksUdpAssociateReply bound
  toRight := proxyGreeting auth ++ associateRequest

/-- The client's side of a whole handshake. -/
theorem establish_run (auth : Option (String × String)) (peer : IpAddr) (bound : SocketAddr) :
    (establishSocks5UdpAssociate auth peer).run ⟨(associated auth bound).toLeft, []⟩
      = (.ok (relayAddr peer bound), ⟨[], (associated auth bound).toRight⟩) :=
  (establish_noAuth auth peer _).trans (requestAssociation_run peer bound _)

/-- The tunnel's side of a whole handshake. -/
theorem serve_run (auth : Option (String × String)) (bound : SocketAddr) :
    (serveUdpAssociate bound).run ⟨(associated auth bound).toRight, []⟩
      = (.ok .udpAssociate, ⟨[], (associated auth bound).toLeft⟩) := by
  rw [associated, serveUdpAssociate_run]

/-- The client has written its request once the method is agreed on, and writes
nothing more. -/
theorem writtenOn_establish (auth : Option (String × String)) (peer : IpAddr)
    (bound : SocketAddr) :
    writtenOn (establishSocks5UdpAssociate auth peer) [0x05, 0x00]
      = (associated auth bound).toRight ∧
    writtenOn (establishSocks5UdpAssociate auth peer) (associated auth bound).toLeft
      = (associated auth bound).toRight := by
  have hnoAuth := establish_noAuth auth peer []
  rw [List.append_nil] at hnoAuth
  refine ⟨?_, ?_⟩
  · rw [writtenOn, hnoAuth]
    rfl
  · rw [writtenOn, establish_run]

theorem writtenOn_serve (auth : Option (String × String)) (bound : SocketAddr) :
    writtenOn (serveUdpAssociate bound) (associated auth bound).toRight
      = (associated auth bound).toLeft := by
  rw [writtenOn, serve_run]

/-- Greeting, method, request, reply. -/
theorem reaches_associated (auth : Option (String × String)) (peer : IpAddr)
    (bound : SocketAddr) :
    (associateParties auth peer bound).Reaches (associated auth bound) := by
  have hgreeting := writtenOn_establish_nil auth peer
  have hmethod := writtenOn_serve_greeting auth bound
  have hrequest := (writtenOn_establish auth peer bound).1
  have hreply := writtenOn_serve auth bound
  rw [← associateParties_left auth peer bound] at hgreeting hrequest
  rw [← associateParties_right auth peer bound] at hmethod hreply
  have hgreeted : (associateParties auth peer bound).Reaches ⟨[], proxyGreeting auth⟩ :=
    .toRight .start hgreeting
  have hanswered : (associateParties auth peer bound).Reaches
      ⟨[0x05, 0x00], proxyGreeting auth⟩ :=
    .toLeft hgreeted hmethod
  have hrequested : (associateParties auth peer bound).Reaches
      ⟨[0x05, 0x00], (associated auth bound).toRight⟩ :=
    .toRight hanswered hrequest
  exact .toLeft hrequested hreply

theorem quiet_associated (auth : Option (String × String)) (peer : IpAddr)
    (bound : SocketAddr) :
    (associateParties auth peer bound).Quiet (associated auth bound) := by
  rw [Parties.Quiet, associateParties_left, associateParties_right]
  exact ⟨(writtenOn_establish auth peer bound).2, writtenOn_serve auth bound⟩

/-- A client that is pointed at a SOCKS5 tunnel gets its relay.  In whatever order
the bytes of the two directions arrive, the handshake can go on until nothing is
on its way, and then the tunnel has taken a UDP ASSOCIATE request and the client
has the address the relay is bound to, with nothing left unread on either side.
At no time has the client sent more than the greeting and the request: with or
without credentials, they are not sent. -/
theorem udp_association_established (auth : Option (String × String)) (peer : IpAddr)
    (bound : SocketAddr) {acts : List Delivery} {s : Talk UInt8}
    (hrun : Transition.run (associateParties auth peer bound).step (Talk.start UInt8) acts
      = some s) :
    (∃ more f, Transition.run (associateParties auth peer bound).step s more = some f ∧
      (associateParties auth peer bound).Quiet f) ∧
    ((associateParties auth peer bound).Quiet s →
      (establishSocks5UdpAssociate auth peer).run ⟨s.toLeft, []⟩
        = (.ok (.new (if bound.ip.isUnspecified then peer else bound.ip) bound.port),
          ⟨[], s.toRight⟩) ∧
      (serveUdpAssociate bound).run ⟨s.toRight, []⟩ = (.ok .udpAssociate, ⟨[], s.toLeft⟩)) ∧
    s.toRight <+: proxyGreeting auth ++ [0x05, 0x03, 0x00, 0x01, 0, 0, 0, 0, 0, 0] := by
  have hquiet := quiet_associated auth peer bound
  obtain ⟨⟨more, hmore⟩, honly⟩ :=
    Parties.completes (reaches_associated auth peer bound) hquiet hrun
  refine ⟨⟨more, _, hmore, hquiet⟩, fun hs => ?_, (Parties.run_grows hmore).2⟩
  rw [honly hs]
  exact ⟨establish_run auth peer bound, serve_run auth bound⟩

/-- The greeting with credentials has arrived and was answered. -/
theorem udp_association_established_greeted :
    ∃ s, Transition.run (associateParties (some ("me", "secret")) (.v4 ⟨192, 0, 2, 1⟩)
          (.v4 .unspecified 40000)).step (Talk.start UInt8)
          [.toRight, .toRight, .toRight, .toRight, .toLeft] = some s ∧
      s = ⟨[0x05], [0x05, 0x02, 0x00, 0x02]⟩ ∧
      s.toRight <+: [0x05, 0x02, 0x00, 0x02] ++ [0x05, 0x03, 0x00, 0x01, 0, 0, 0, 0, 0, 0] :=
  have hrun : Transition.run (associateParties (some ("me", "secret")) (.v4 ⟨192, 0, 2, 1⟩)
      (.v4 .unspecified 40000)).step (Talk.start UInt8)
      [.toRight, .toRight, .toRight, .toRight, .toLeft]
      = some ⟨[0x05], [0x05, 0x02, 0x00, 0x02]⟩ := by decide +kernel
  ⟨_, hrun, rfl, (udp_association_established _ _ _ hrun).2.2⟩

end EndToEnd
end Rusnel
