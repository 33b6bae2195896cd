import Rusnel.Foundation.SocketText
import Rusnel.Common.SocksUdp

/-!
# The socket behind a proxy

The UDP socket handed to the QUIC endpoint when the client goes through a SOCKS5
proxy.  It wraps what it sends for the relay and unwraps what it receives,
skipping every datagram that does not come from the relay, has no proper header
or names another source than the server.  The source it reads off a header has
no flow label and no scope, the server's address may have both.

Main results:

- Theorem {lit}`proxied_round_trip`: for which servers a reply under the header
  of the request is delivered, and what is skipped.
-/

namespace Rusnel

open Net

/-- A datagram the QUIC endpoint wants sent. -/
structure Transmit where
  destination : SocketAddr
  contents : List UInt8
deriving DecidableEq, Repr

/-- What is reported about a received datagram. -/
structure RecvMeta where
  addr : SocketAddr
  len : Nat
  stride : Nat
  ecn : Option UInt8
  dstIp : Option IpAddr
deriving DecidableEq, Repr

/-- What polling the UDP socket finds: a datagram, or an error. -/
inductive SocketItem where
  | datagram (src : SocketAddr) (data : List UInt8)
  | error (e : String)
deriving DecidableEq, Repr

/-- The outcome of polling for datagrams. -/
inductive PollRecv where
  | pending
  | error (e : String)
  /-- So many datagrams were received. -/
  | ready (count : Nat)
deriving DecidableEq, Repr

/-- The socket: the relay of the proxy, and the server behind it. -/
structure Socks5UdpSocket where
  relay : SocketAddr
  target : SocketAddr
deriving DecidableEq, Repr

namespace Socks5UdpSocket

/-- What is sent, and where to. -/
def trySend (s : Socks5UdpSocket) (transmit : Transmit) :
    Except String (List UInt8 × SocketAddr) :=
  if transmit.destination ≠ s.target then
    .error ("Socks5UdpSocket received transmit for " ++
      String.ofList transmit.destination.display ++ " but relay is bound to " ++
      String.ofList s.target.display)
  else .ok (wrapSocks5Udp s.target transmit.contents, s.relay)

/-- The buffer after receiving into it; what does not fit is lost. -/
def fill (buf data : List UInt8) : List UInt8 :=
  data.take buf.length ++ buf.drop data.length

/-- The loop of `poll_recv` over what the UDP socket has: the outcome, the buffer
and the report, and what is left in the socket. -/
def pollRecvLoop (s : Socks5UdpSocket) :
    List UInt8 → RecvMeta → List SocketItem → PollRecv × List UInt8 × RecvMeta × List SocketItem
  | buf, recvMeta, [] => (.pending, buf, recvMeta, [])
  | buf, recvMeta, .error e :: items => (.error e, buf, recvMeta, items)
  | buf, recvMeta, .datagram src data :: items =>
      let n := min data.length buf.length
      let filled := fill buf data
      match Rusnel.pollRecv s.relay s.target src (filled.take n) with
      | (none, used) => pollRecvLoop s (used ++ filled.drop n) recvMeta items
      | (some payloadLen, used) =>
          (.ready 1, used ++ filled.drop n,
            { addr := s.target, len := payloadLen, stride := payloadLen, ecn := none,
              dstIp := none }, items)

/-- Receive into the first of the buffers. -/
def pollRecv (s : Socks5UdpSocket) (bufs : List (List UInt8)) (metas : List RecvMeta)
    (items : List SocketItem) :
    PollRecv × List (List UInt8) × List RecvMeta × List SocketItem :=
  match bufs, metas with
  | buf :: bufs, recvMeta :: metas =>
      let (outcome, buf, recvMeta, items) := s.pollRecvLoop buf recvMeta items
      (outcome, buf :: bufs, recvMeta :: metas, items)
  | bufs, metas => (.ready 0, bufs, metas, items)

/-! ## What is skipped -/

/-- A received datagram that is not for the QUIC endpoint: it comes from another
sender, its header is fragmented, of another kind or cut short, or it names
another source than the server. -/
def Skips (s : Socks5UdpSocket) (src : SocketAddr) (received : List UInt8) : Prop :=
  src ≠ s.relay ∨ received.length < 4 ∨ received.getD 0 0 ≠ 0x00 ∨ received.getD 1 0 ≠ 0x00 ∨
    received.getD 2 0 ≠ 0x00 ∨ (received.getD 3 0 ≠ 0x01 ∧ received.getD 3 0 ≠ 0x04) ∨
    (received.getD 3 0 = 0x01 ∧ received.length < socks5UdpHeaderIpv4Len) ∨
    (received.getD 3 0 = 0x04 ∧ received.length < socks5UdpHeaderIpv6Len) ∨
    ∃ innerSrc headerLen, socks5UdpSource received = some (innerSrc, headerLen) ∧
      innerSrc ≠ s.target

end Socks5UdpSocket

/-- A header the client reads: the source has no flow label and no scope. -/
structure ReadHeader (buf : List UInt8) (src : SocketAddr) (headerLen : Nat) : Prop where
  source : src = .new src.ip src.port
  fits : headerLen ≤ buf.length
  short : 4 ≤ buf.length
  rsv : buf.getD 0 0 = 0x00 ∧ buf.getD 1 0 = 0x00
  frag : buf.getD 2 0 = 0x00
  atyp : buf.getD 3 0 = 0x01 ∧ socks5UdpHeaderIpv4Len ≤ buf.length ∨
    buf.getD 3 0 = 0x04 ∧ socks5UdpHeaderIpv6Len ≤ buf.length

theorem socks5UdpSource_eq_some {buf : List UInt8} {src : SocketAddr} {headerLen : Nat}
    (h : socks5UdpSource buf = some (src, headerLen)) : ReadHeader buf src headerLen := by
  unfold socks5UdpSource at h
  split_ifs at h with hlen hrsv hfrag hv4 hshort hv6 hshort
  · rw [not_or, not_not, not_not] at hrsv
    cases h
    exact ⟨rfl, by omega, by omega, hrsv, not_not.mp hfrag, .inl ⟨hv4, by omega⟩⟩
  · rw [not_or, not_not, not_not] at hrsv
    cases h
    exact ⟨rfl, by omega, by omega, hrsv, not_not.mp hfrag, .inr ⟨hv6, by omega⟩⟩

/-- What the receive loop does with one datagram. -/
theorem pollRecv_cases (relay target src : SocketAddr) (buf : List UInt8) :
    ((pollRecv relay target src buf).1 = none ∧
        (pollRecv relay target src buf).2.length = buf.length) ∨
      ∃ headerLen, src = relay ∧ socks5UdpSource buf = some (target, headerLen) ∧
        pollRecv relay target src buf
          = (some (buf.length - headerLen), copyWithin buf headerLen) := by
  unfold pollRecv unwrapSocks5UdpInPlace
  split_ifs with hsrc
  · exact .inl ⟨rfl, rfl⟩
  · cases hsource : socks5UdpSource buf with
    | none => exact .inl ⟨rfl, rfl⟩
    | some r =>
        obtain ⟨innerSrc, headerLen⟩ := r
        have hfits := (socks5UdpSource_eq_some hsource).fits
        by_cases hinner : innerSrc = target
        · subst hinner
          exact .inr ⟨headerLen, not_not.mp hsrc, rfl, by simp⟩
        · refine .inl ⟨by simp [hinner], ?_⟩
          simp only [ne_eq, hinner, not_false_eq_true, if_true, copyWithin, List.length_append,
            List.length_drop]
          omega

namespace Socks5UdpSocket

/-- What is to be skipped is not accepted. -/
theorem Skips.not_accepted {s : Socks5UdpSocket} {src : SocketAddr} {received : List UInt8}
    (h : s.Skips src received) : (Rusnel.pollRecv s.relay s.target src received).1 = none := by
  rcases pollRecv_cases s.relay s.target src received with ⟨hnone, -⟩ | ⟨n, hsrc, hsource, -⟩
  · exact hnone
  · have hread := socks5UdpSource_eq_some hsource
    have hshort := hread.short
    rcases h with h | h | h | h | h | ⟨hv4, hv6⟩ | ⟨hv4, h⟩ | ⟨hv6, h⟩ | ⟨_, _, h, hne⟩
    · exact absurd hsrc h
    · omega
    · exact absurd hread.rsv.1 h
    · exact absurd hread.rsv.2 h
    · exact absurd hread.frag h
    · exact absurd (hread.atyp.imp And.left And.left) (not_or.mpr ⟨hv4, hv6⟩)
    · rcases hread.atyp with ⟨-, hlen⟩ | ⟨hatyp, -⟩
      · omega
      · exact absurd (hv4.symm.trans hatyp) (by decide)
    · rcases hread.atyp with ⟨hatyp, -⟩ | ⟨-, hlen⟩
      · exact absurd (hv6.symm.trans hatyp) (by decide)
      · omega
    · cases hsource.symm.trans h
      exact absurd rfl hne

theorem length_fill (buf data : List UInt8) : (fill buf data).length = buf.length := by
  rw [fill, List.length_append, List.length_take, List.length_drop]
  omega

theorem take_fill (buf data : List UInt8) :
    (fill buf data).take (min data.length buf.length) = data.take buf.length := by
  apply List.take_left'
  rw [List.length_take, Nat.min_comm]

/-- A datagram that is not accepted is passed over. -/
theorem pollRecvLoop_skip {s : Socks5UdpSocket} {src : SocketAddr} {buf data : List UInt8}
    (h : (Rusnel.pollRecv s.relay s.target src (data.take buf.length)).1 = none)
    (recvMeta : RecvMeta) (items : List SocketItem) :
    ∃ buf', buf'.length = buf.length ∧
      s.pollRecvLoop buf recvMeta (.datagram src data :: items)
        = s.pollRecvLoop buf' recvMeta items := by
  have hresult : Rusnel.pollRecv s.relay s.target src (data.take buf.length)
      = (none, (Rusnel.pollRecv s.relay s.target src (data.take buf.length)).2) := Prod.ext h rfl
  have hlen : (Rusnel.pollRecv s.relay s.target src (data.take buf.length)).2.length
      = (data.take buf.length).length := by
    rcases pollRecv_cases s.relay s.target src (data.take buf.length) with
      ⟨-, hlen⟩ | ⟨_, _, _, hsome⟩
    · exact hlen
    · rw [hsome] at h
      cases h
  refine ⟨(Rusnel.pollRecv s.relay s.target src (data.take buf.length)).2 ++
    (fill buf data).drop (min data.length buf.length), ?_, ?_⟩
  · rw [List.length_append, hlen, List.length_drop, length_fill, List.length_take]
    omega
  · simp only [pollRecvLoop, take_fill]
    rw [hresult]

/-- For a server whose address has a flow label or a scope nothing is received. -/
theorem pollRecvLoop_ne_ready {s : Socks5UdpSocket}
    (htarget : s.target ≠ .new s.target.ip s.target.port) (buf : List UInt8)
    (recvMeta : RecvMeta) (items : List SocketItem) :
    (s.pollRecvLoop buf recvMeta items).1 ≠ .ready 1 := by
  induction items generalizing buf with
  | nil => simp [pollRecvLoop]
  | cons item items ih =>
      cases item with
      | error e => simp [pollRecvLoop]
      | datagram src data =>
          have hnone : (Rusnel.pollRecv s.relay s.target src (data.take buf.length)).1 = none := by
            rcases pollRecv_cases s.relay s.target src (data.take buf.length) with
              ⟨hnone, -⟩ | ⟨_, _, hsource, -⟩
            · exact hnone
            · exact absurd (socks5UdpSource_eq_some hsource).source htarget
          obtain ⟨buf', -, hskip⟩ := pollRecvLoop_skip hnone recvMeta items
          rw [hskip]
          exact ih buf'

/-- A reply under the header of the request is delivered if the server's address
has no extras. -/
theorem pollRecvLoop_deliver {s : Socks5UdpSocket}
    (htarget : s.target = .new s.target.ip s.target.port) {buf q : List UInt8}
    (hbuf : (wrapSocks5Udp s.target q).length ≤ buf.length) (recvMeta : RecvMeta)
    (items : List SocketItem) :
    ∃ buf', s.pollRecvLoop buf recvMeta
        (.datagram s.relay (wrapSocks5Udp s.target q) :: items)
          = (.ready 1, buf', ⟨s.target, q.length, q.length, none, none⟩, items) ∧
      buf'.take q.length = q := by
  obtain ⟨rest, hunwrap⟩ := unwrapSocks5UdpInPlace_wrapSocks5Udp s.target.ip s.target.port q
  rw [← htarget] at hunwrap
  have hpoll : Rusnel.pollRecv s.relay s.target s.relay (wrapSocks5Udp s.target q)
      = (some q.length, q ++ rest) := by
    simp [Rusnel.pollRecv, hunwrap]
  refine ⟨q ++ rest ++ (fill buf (wrapSocks5Udp s.target q)).drop
    (min (wrapSocks5Udp s.target q).length buf.length), ?_, by simp⟩
  simp only [pollRecvLoop, take_fill, List.take_of_length_le hbuf, hpoll]

end Socks5UdpSocket

/-- The proxied socket.  What it sends is wrapped for the server.  A reply under
the same header that fits the buffer is delivered, as one from the server with
its payload at the front of the buffer, exactly if the server's address has no
flow label and no scope.  What comes from another sender, has no proper header or
names another source is passed over. -/
theorem proxied_round_trip (s : Socks5UdpSocket) (p q : List UInt8) :
    s.trySend ⟨s.target, p⟩ = .ok (wrapSocks5Udp s.target p, s.relay) ∧
    (∀ buf bufs recvMeta metas items, (wrapSocks5Udp s.target q).length ≤ buf.length →
      ((∃ buf', s.pollRecv (buf :: bufs) (recvMeta :: metas)
          (.datagram s.relay (wrapSocks5Udp s.target q) :: items)
            = (.ready 1, buf' :: bufs, ⟨s.target, q.length, q.length, none, none⟩ :: metas,
              items) ∧ buf'.take q.length = q) ↔
        s.target = .new s.target.ip s.target.port)) ∧
    ∀ buf bufs recvMeta metas src data items, s.Skips src (data.take buf.length) →
      ∃ buf', buf'.length = buf.length ∧
        s.pollRecv (buf :: bufs) (recvMeta :: metas) (.datagram src data :: items)
          = s.pollRecv (buf' :: bufs) (recvMeta :: metas) items := by
  refine ⟨by simp [Socks5UdpSocket.trySend], ?_, ?_⟩
  · intro buf bufs recvMeta metas items hbuf
    constructor
    · rintro ⟨buf', hrecv, -⟩
      by_contra htarget
      exact Socks5UdpSocket.pollRecvLoop_ne_ready htarget buf recvMeta
        (.datagram s.relay (wrapSocks5Udp s.target q) :: items) (congrArg Prod.fst hrecv)
    · intro htarget
      obtain ⟨buf', hrecv, hfront⟩ :=
        Socks5UdpSocket.pollRecvLoop_deliver htarget hbuf recvMeta items
      exact ⟨buf', by simp only [Socks5UdpSocket.pollRecv, hrecv], hfront⟩
  · intro buf bufs recvMeta metas src data items hskips
    obtain ⟨buf', hlen, hskip⟩ :=
      Socks5UdpSocket.pollRecvLoop_skip hskips.not_accepted recvMeta items
    exact ⟨buf', hlen, by simp only [Socks5UdpSocket.pollRecv, hskip]⟩

/-- A reply from a link-local server is dropped. -/
theorem proxied_round_trip_scoped :
    parseSocketAddr "[fe80::1%3]:8080".toList
        = some (.v6 ⟨[0xfe80, 0, 0, 0, 0, 0, 0, 1], rfl⟩ 8080 0 3) ∧
      (Socks5UdpSocket.pollRecv
        ⟨.v4 .localhost 1080, .v6 ⟨[0xfe80, 0, 0, 0, 0, 0, 0, 1], rfl⟩ 8080 0 3⟩
        [List.replicate 32 0] [⟨.v4 .unspecified 0, 0, 0, none, none⟩]
        [.datagram (.v4 .localhost 1080)
          (wrapSocks5Udp (.v6 ⟨[0xfe80, 0, 0, 0, 0, 0, 0, 1], rfl⟩ 8080 0 3) [1, 2])]).1
        = .pending := by
  decide +kernel

end Rusnel
