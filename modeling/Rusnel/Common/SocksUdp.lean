import Rusnel.Foundation.NetText
import Rusnel.Common.Remote
import Mathlib.Data.List.GetD

/-!
# The two SOCKS5 UDP codecs

A SOCKS5 UDP datagram is a header naming an address, then the payload.  The
client behind `--proxy` wraps its datagrams for a relay and unwraps the relay's
replies in place; the relay parses the header into a host and port and wraps
replies by parsing the host's text again.  The two pairs were written
separately and meet when the proxy is itself a SOCKS listener of the program.

Main results:

- Theorem {lit}`socks_udp_interop`: across the two codecs a target and its
  payloads are preserved, and the client accepts every reply.
-/

namespace Rusnel

open Net Text

/-! ## The client behind a proxy -/

/-- Header length of a datagram naming an IPv4 address. -/
def socks5UdpHeaderIpv4Len : Nat := 10

/-- Header length of a datagram naming an IPv6 address. -/
def socks5UdpHeaderIpv6Len : Nat := 22

/-- Build the datagram that carries a payload to a target. -/
def wrapSocks5Udp (target : SocketAddr) (payload : List UInt8) : List UInt8 :=
  [0x00, 0x00, 0x00] ++
    (match target with
      | .v4 ip port => 0x01 :: (ip.octets ++ toBeBytes port)
      | .v6 ip port _ _ => 0x04 :: (ip.octets ++ toBeBytes port)) ++
    payload

/-- The address a datagram names and the length of its header. -/
def socks5UdpSource (buf : List UInt8) : Option (SocketAddr × Nat) :=
  if buf.length < 4 then none
  else if buf.getD 0 0 ≠ 0x00 ∨ buf.getD 1 0 ≠ 0x00 then none
  else if buf.getD 2 0 ≠ 0x00 then none
  else if buf.getD 3 0 = 0x01 then
    if buf.length < socks5UdpHeaderIpv4Len then none
    else
      let ip : Ipv4Addr := ⟨buf.getD 4 0, buf.getD 5 0, buf.getD 6 0, buf.getD 7 0⟩
      let port := fromBeBytes (buf.getD 8 0) (buf.getD 9 0)
      some (.new (.v4 ip) port, socks5UdpHeaderIpv4Len)
  else if buf.getD 3 0 = 0x04 then
    if buf.length < socks5UdpHeaderIpv6Len then none
    else
      let ip := Ipv6Addr.fromOctets ((buf.drop 4).take 16)
      let port := fromBeBytes (buf.getD 20 0) (buf.getD 21 0)
      some (.new (.v6 ip) port, socks5UdpHeaderIpv6Len)
  else none

/-- Move the bytes from an offset on to the front; the bytes at the end stay
where they are. -/
def copyWithin (buf : List UInt8) (offset : Nat) : List UInt8 :=
  buf.drop offset ++ buf.drop (buf.length - offset)

/-- Strip the header in place: the source, the length of the payload, and the
buffer with the payload at its front. -/
def unwrapSocks5UdpInPlace (buf : List UInt8) : Option (SocketAddr × Nat) × List UInt8 :=
  match socks5UdpSource buf with
  | none => (none, buf)
  | some (src, headerLen) =>
      (some (src, buf.length - headerLen), copyWithin buf headerLen)

/-- One datagram of the receive loop: the length of the payload at the front of
the buffer if the datagram is accepted. -/
def pollRecv (relay target src : SocketAddr) (buf : List UInt8) : Option Nat × List UInt8 :=
  if src ≠ relay then (none, buf)
  else
    match unwrapSocks5UdpInPlace buf with
    | (none, buf) => (none, buf)
    | (some (innerSrc, payloadLen), buf) =>
        if innerSrc ≠ target then (none, buf) else (some payloadLen, buf)

/-! ## The relay -/

/-- Parse a datagram's header: the target and the payload. -/
def parseSocksUdpHeader (buf : List UInt8) : Except String (HostPort × List UInt8) :=
  if buf.length < 4 then .error "UDP header too short"
  else if buf.getD 2 0 ≠ 0 then .error "UDP fragmentation not supported"
  else
    let atyp := buf.getD 3 0
    if atyp = 0x01 then
      if buf.length < 4 + 4 + 2 then .error "truncated IPv4 header"
      else
        let ip : Ipv4Addr := ⟨buf.getD 4 0, buf.getD 5 0, buf.getD 6 0, buf.getD 7 0⟩
        let port := fromBeBytes (buf.getD 8 0) (buf.getD 9 0)
        .ok (⟨String.ofList ip.display, port⟩, buf.drop 10)
    else if atyp = 0x04 then
      if buf.length < 4 + 16 + 2 then .error "truncated IPv6 header"
      else
        let ip := Ipv6Addr.fromOctets ((buf.drop 4).take 16)
        let port := fromBeBytes (buf.getD 20 0) (buf.getD 21 0)
        .ok (⟨String.ofList ip.display, port⟩, buf.drop 22)
    else if atyp = 0x03 then
      if buf.length < 5 then .error "truncated domain header"
      else
        let len := (buf.getD 4 0).toNat
        if buf.length < 5 + len + 2 then .error "truncated domain header"
        else
          let domain := String.ofList (fromUtf8Lossy none ((buf.drop 5).take len))
          let port := fromBeBytes (buf.getD (5 + len) 0) (buf.getD (5 + len + 1) 0)
          .ok (⟨domain, port⟩, buf.drop (5 + len + 2))
    else .error ("unknown ATYP: " ++ toString atyp)

/-- Wrap a reply from a target.  The host's text decides the address type; a
name is cut to the length its field can hold. -/
def wrapSocksUdpReply (target : HostPort) (payload : List UInt8) : List UInt8 :=
  [0, 0, 0] ++
    (match parseIpv4 target.host.toList with
      | some ip => 0x01 :: ip.octets
      | none =>
          match parseIpv6 target.host.toList with
          | some ip => 0x04 :: ip.octets
          | none =>
              let bytes := asBytes target.host.toList
              let len := min bytes.length 255
              0x03 :: .ofNat len :: bytes.take len) ++
    toBeBytes target.port ++ payload

/-! ## Addresses -/

/-- An address as SOCKS5 transmits it: four octets, a name with a length byte in
front, or sixteen octets. -/
inductive SocksAddr where
  | v4 (ip : Ipv4Addr)
  | domain (name : List UInt8) (length_name : name.length ≤ 255)
  | v6 (octets : List UInt8) (length_octets : octets.length = 16)

namespace SocksAddr

/-- The address type byte. -/
def atyp : SocksAddr → UInt8
  | .v4 _ => 0x01
  | .domain _ _ => 0x03
  | .v6 _ _ => 0x04

/-- The bytes behind the type. -/
def bytes : SocksAddr → List UInt8
  | .v4 ip => ip.octets
  | .domain name _ => .ofNat name.length :: name
  | .v6 octets _ => octets

/-- The host the address names. -/
def host : SocksAddr → List Char
  | .v4 ip => ip.display
  | .domain name _ => fromUtf8Lossy none name
  | .v6 octets _ => (Ipv6Addr.fromOctets octets).display

/-- Type, address and port. -/
def encode (addr : SocksAddr) (port : UInt16) : List UInt8 :=
  addr.atyp :: (addr.bytes ++ toBeBytes port)

end SocksAddr

/-- The length byte holds the length of a name. -/
theorem SocksAddr.toNat_length {name : List UInt8} (length_name : name.length ≤ 255) :
    (UInt8.ofNat name.length).toNat = name.length := by
  rw [UInt8.toNat_ofNat']
  omega

/-- The fields of a buffer that is a head, a block, a port and the rest. -/
theorem block_fields (head : List UInt8) {block : List UInt8} (port : UInt16)
    (rest : List UInt8) {k n : Nat} (hhead : head.length = k) (hblock : block.length = n) :
    let buf := head ++ (block ++ (toBeBytes port ++ rest))
    buf.length = k + n + 2 + rest.length ∧ (buf.drop k).take n = block ∧
      fromBeBytes (buf.getD (k + n) 0) (buf.getD (k + n + 1) 0) = port ∧
      buf.drop (k + n + 2) = rest := by
  subst hhead hblock
  refine ⟨?_, by simp, ?_⟩
  · simp only [List.length_append, toBeBytes, List.length_cons, List.length_nil]
    omega
  · rw [← List.append_assoc, ← List.length_append]
    generalize head ++ block = front
    constructor
    · rw [List.getD_append_right _ _ _ _ (Nat.le_refl _),
        List.getD_append_right _ _ _ _ (Nat.le_add_right _ 1), Nat.sub_self,
        Nat.add_sub_cancel_left]
      exact fromBeBytes_toBeBytes port
    · rw [← List.append_assoc]
      apply List.drop_left'
      simp [toBeBytes]

/-- A header of full length with a name in it. -/
theorem parseSocksUdpHeader_domain {buf : List UInt8} {len : Nat} (hfrag : buf.getD 2 0 = 0)
    (hatyp : buf.getD 3 0 = 0x03) (hname : (buf.getD 4 0).toNat = len)
    (hlen : 5 + len + 2 ≤ buf.length) :
    parseSocksUdpHeader buf = .ok (⟨String.ofList (fromUtf8Lossy none ((buf.drop 5).take len)),
      fromBeBytes (buf.getD (5 + len) 0) (buf.getD (5 + len + 1) 0)⟩,
      buf.drop (5 + len + 2)) := by
  subst hname
  rw [parseSocksUdpHeader, hatyp, if_neg (by omega), if_neg (not_not_intro hfrag),
    if_neg (by decide), if_neg (by decide), if_pos rfl, if_neg (by omega), if_neg (by omega)]

/-- A header of full length with an IPv6 address in it. -/
theorem parseSocksUdpHeader_v6 {buf : List UInt8} (hfrag : buf.getD 2 0 = 0)
    (hatyp : buf.getD 3 0 = 0x04) (hlen : 22 ≤ buf.length) :
    parseSocksUdpHeader buf = .ok
      (⟨String.ofList (Ipv6Addr.fromOctets ((buf.drop 4).take 16)).display,
        fromBeBytes (buf.getD 20 0) (buf.getD 21 0)⟩, buf.drop 22) := by
  rw [parseSocksUdpHeader, hatyp, if_neg (by omega), if_neg (not_not_intro hfrag),
    if_neg (by decide), if_pos rfl, if_neg (by omega)]

/-- The relay reads the host an address names, the port and the payload. -/
theorem parseSocksUdpHeader_encode (r₀ r₁ : UInt8) (addr : SocksAddr) (port : UInt16)
    (rest : List UInt8) :
    parseSocksUdpHeader (r₀ :: r₁ :: 0 :: (addr.encode port ++ rest))
      = .ok (⟨String.ofList addr.host, port⟩, rest) := by
  cases addr with
  | v4 ip =>
      have hlen : (r₀ :: r₁ :: 0 :: ((SocksAddr.v4 ip).encode port ++ rest)).length
          = 10 + rest.length := by
        simp [SocksAddr.encode, SocksAddr.bytes, Ipv4Addr.octets, toBeBytes]
        omega
      rw [parseSocksUdpHeader, if_neg (by omega), if_neg (by simp), if_pos (by rfl),
        if_neg (by omega)]
      simp [SocksAddr.encode, SocksAddr.bytes, Ipv4Addr.octets, toBeBytes, SocksAddr.host]
  | domain name length_name =>
      have hbuf : r₀ :: r₁ :: 0 :: ((SocksAddr.domain name length_name).encode port ++ rest)
          = [r₀, r₁, 0, 0x03, .ofNat name.length] ++ (name ++ (toBeBytes port ++ rest)) := by
        simp [SocksAddr.encode, SocksAddr.atyp, SocksAddr.bytes]
      obtain ⟨hlen, hblock, hport, hrest⟩ := block_fields [r₀, r₁, 0, 0x03, .ofNat name.length]
        port rest (k := 5) rfl (rfl : name.length = _)
      have hparse : parseSocksUdpHeader
          ([r₀, r₁, 0, 0x03, .ofNat name.length] ++ (name ++ (toBeBytes port ++ rest))) = _ :=
        parseSocksUdpHeader_domain rfl rfl (SocksAddr.toNat_length length_name) (by omega)
      rw [hbuf, hparse, hblock, hport, hrest]
      rfl
  | v6 octets length_octets =>
      have hbuf : r₀ :: r₁ :: 0 :: ((SocksAddr.v6 octets length_octets).encode port ++ rest)
          = [r₀, r₁, 0, 0x04] ++ (octets ++ (toBeBytes port ++ rest)) := by
        simp [SocksAddr.encode, SocksAddr.atyp, SocksAddr.bytes]
      obtain ⟨hlen, hblock, hport, hrest⟩ :=
        block_fields [r₀, r₁, 0, 0x04] port rest (k := 4) rfl length_octets
      rw [hbuf, parseSocksUdpHeader_v6 rfl rfl (by omega), hblock, hport, hrest]
      rfl

/-! ## One codec reads the other -/

/-- Print an address of either family. -/
def ipText : IpAddr → List Char
  | .v4 ip => ip.display
  | .v6 ip => ip.display

/-- An address of either family as SOCKS5 transmits it. -/
def SocksAddr.ofIp : IpAddr → SocksAddr
  | .v4 ip => .v4 ip
  | .v6 ip => .v6 ip.octets ip.length_octets

theorem SocksAddr.host_ofIp (ip : IpAddr) : (SocksAddr.ofIp ip).host = ipText ip := by
  cases ip <;> simp [ofIp, host, ipText]

/-- What the client wraps is a header for the address in front of the payload. -/
theorem wrapSocks5Udp_new (ip : IpAddr) (port : UInt16) (payload : List UInt8) :
    wrapSocks5Udp (.new ip port) payload
      = 0 :: 0 :: 0 :: ((SocksAddr.ofIp ip).encode port ++ payload) := by
  cases ip <;>
    simp [wrapSocks5Udp, SocketAddr.new, SocksAddr.ofIp, SocksAddr.encode, SocksAddr.atyp,
      SocksAddr.bytes]

/-- Length of the header that names an address. -/
def socks5UdpHeaderLen : IpAddr → Nat
  | .v4 _ => socks5UdpHeaderIpv4Len
  | .v6 _ => socks5UdpHeaderIpv6Len

/-- The relay parses what the client wraps. -/
theorem parseSocksUdpHeader_wrapSocks5Udp (ip : IpAddr) (port : UInt16)
    (payload : List UInt8) :
    parseSocksUdpHeader (wrapSocks5Udp (.new ip port) payload)
      = .ok (⟨String.ofList (ipText ip), port⟩, payload) := by
  rw [wrapSocks5Udp_new, parseSocksUdpHeader_encode, SocksAddr.host_ofIp]

/-- A reply wrapped from the address's text is the datagram the client would
have wrapped for that address. -/
theorem wrapSocksUdpReply_ipText (ip : IpAddr) (port : UInt16) (payload : List UInt8) :
    wrapSocksUdpReply ⟨String.ofList (ipText ip), port⟩ payload
      = wrapSocks5Udp (.new ip port) payload := by
  cases ip with
  | v4 ip => simp [wrapSocksUdpReply, wrapSocks5Udp, ipText, SocketAddr.new, parseIpv4_display]
  | v6 ip =>
      simp [wrapSocksUdpReply, wrapSocks5Udp, ipText, SocketAddr.new, parseIpv4_display_v6,
        parseIpv6_display]

/-- The client reads the address and the header's length off what it would have
wrapped. -/
theorem socks5UdpSource_wrapSocks5Udp (ip : IpAddr) (port : UInt16) (payload : List UInt8) :
    socks5UdpSource (wrapSocks5Udp (.new ip port) payload)
        = some (.new ip port, socks5UdpHeaderLen ip) ∧
      (wrapSocks5Udp (.new ip port) payload).length = socks5UdpHeaderLen ip + payload.length ∧
      (wrapSocks5Udp (.new ip port) payload).drop (socks5UdpHeaderLen ip) = payload := by
  cases ip with
  | v4 ip =>
      have hbuf : wrapSocks5Udp (.new (.v4 ip) port) payload
          = [0, 0, 0, 0x01] ++ (ip.octets ++ (toBeBytes port ++ payload)) := by
        simp [wrapSocks5Udp, SocketAddr.new]
      have hoctets : ip.octets.length = 4 := rfl
      obtain ⟨hlen, -, hport, hrest⟩ :=
        block_fields [0, 0, 0, 0x01] port payload (k := 4) rfl hoctets
      rw [← hbuf] at hlen hport hrest
      refine ⟨?_, hlen, hrest⟩
      rw [socks5UdpSource, socks5UdpHeaderIpv4Len, if_neg (by omega), if_neg (by simp [hbuf]),
        if_neg (by simp [hbuf]), if_pos (by simp [hbuf]), if_neg (by omega), hport]
      simp [hbuf, Ipv4Addr.octets, socks5UdpHeaderLen, socks5UdpHeaderIpv4Len]
  | v6 ip =>
      have hbuf : wrapSocks5Udp (.new (.v6 ip) port) payload
          = [0, 0, 0, 0x04] ++ (ip.octets ++ (toBeBytes port ++ payload)) := by
        simp [wrapSocks5Udp, SocketAddr.new]
      obtain ⟨hlen, hblock, hport, hrest⟩ :=
        block_fields [0, 0, 0, 0x04] port payload (k := 4) rfl ip.length_octets
      rw [← hbuf] at hlen hblock hport hrest
      refine ⟨?_, hlen, hrest⟩
      rw [socks5UdpSource, socks5UdpHeaderIpv6Len, if_neg (by omega), if_neg (by simp [hbuf]),
        if_neg (by simp [hbuf]), if_neg (by simp [hbuf]), if_pos (by simp [hbuf]),
        if_neg (by omega), hblock, hport, Ipv6Addr.fromOctets_octets]
      rfl

/-- The client unwraps what it would have wrapped. -/
theorem unwrapSocks5UdpInPlace_wrapSocks5Udp (ip : IpAddr) (port : UInt16)
    (payload : List UInt8) :
    ∃ rest, unwrapSocks5UdpInPlace (wrapSocks5Udp (.new ip port) payload)
      = (some (.new ip port, payload.length), payload ++ rest) := by
  obtain ⟨hsource, hlen, hdrop⟩ := socks5UdpSource_wrapSocks5Udp ip port payload
  simp only [unwrapSocks5UdpInPlace, hsource, copyWithin, hdrop, hlen, Nat.add_sub_cancel_left]
  exact ⟨_, rfl⟩

/-- Interoperability of the two codecs, for every target without IPv6 extras:
the relay reads the target's text and the payload from a wrapped datagram; a
reply it wraps for that text is unwrapped to the target, with the payload at the
front of the buffer; and the receive loop of a socket for that target accepts
it. -/
theorem socks_udp_interop (ip : IpAddr) (port : UInt16) (relay : SocketAddr)
    (p q : List UInt8) :
    parseSocksUdpHeader (wrapSocks5Udp (.new ip port) p)
        = .ok (⟨String.ofList (ipText ip), port⟩, p) ∧
      (unwrapSocks5UdpInPlace (wrapSocksUdpReply ⟨String.ofList (ipText ip), port⟩ q)).1
        = some (.new ip port, q.length) ∧
      (unwrapSocks5UdpInPlace
        (wrapSocksUdpReply ⟨String.ofList (ipText ip), port⟩ q)).2.take q.length = q ∧
      (pollRecv relay (.new ip port) relay
        (wrapSocksUdpReply ⟨String.ofList (ipText ip), port⟩ q)).1 = some q.length := by
  obtain ⟨rest, hunwrap⟩ := unwrapSocks5UdpInPlace_wrapSocks5Udp ip port q
  rw [wrapSocksUdpReply_ipText]
  refine ⟨parseSocksUdpHeader_wrapSocks5Udp ip port p, ?_, ?_, ?_⟩
  · rw [hunwrap]
  · rw [hunwrap, List.take_left]
  · simp [pollRecv, hunwrap]

end Rusnel
