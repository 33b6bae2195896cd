import Rusnel.Foundation.NetGrammar
import Rusnel.Foundation.TcpConn
import Rusnel.Foundation.Utf8
import Rusnel.Common.SocksUdp

/-!
# The header on a SOCKS5 reply

A reply of the relay carries the target its conn was opened for.  Only the
target's text is kept, so the address type is guessed from it again and a name
is cut to the 255 bytes its length field can tell.

Main results:

- Theorem {lit}`parseSocksUdpHeader_reply`: for which targets the header on a
  reply names the target.
-/

namespace Rusnel

open Net Text

/-- The address a reply names for the text of a host. -/
def replyAddr (host : List Char) : SocksAddr :=
  match parseIpv4 host with
  | some ip => .v4 ip
  | none =>
      match parseIpv6 host with
      | some ip => .ofIp (.v6 ip)
      | none => .domain ((asBytes host).take 255) (List.length_take_le _ _)

theorem wrapSocksUdpReply_eq (target : HostPort) (payload : List UInt8) :
    wrapSocksUdpReply target payload = 0 :: 0 :: 0 ::
      ((replyAddr target.host.toList).encode target.port ++ payload) := by
  unfold wrapSocksUdpReply replyAddr
  cases parseIpv4 target.host.toList with
  | some ip => simp [SocksAddr.encode, SocksAddr.atyp, SocksAddr.bytes]
  | none =>
      cases parseIpv6 target.host.toList with
      | some ip => simp [SocksAddr.encode, SocksAddr.atyp, SocksAddr.bytes, SocksAddr.ofIp]
      | none =>
          simp [SocksAddr.encode, SocksAddr.atyp, SocksAddr.bytes, List.take_eq_take_min,
            Nat.min_comm]

/-- The hosts a reply can name: IPv4 addresses, IPv6 addresses in their printed
form, and names whose bytes survive being cut at 255. -/
def ReplyNames (host : List Char) : Prop :=
  match parseIpv4 host with
  | some _ => True
  | none =>
      match parseIpv6 host with
      | some ip => ip.display = host
      | none => SurvivesCut 255 host

/-- A reply names its host exactly if it can. -/
theorem host_replyAddr (host : List Char) :
    (replyAddr host).host = host ↔ ReplyNames host := by
  unfold replyAddr ReplyNames
  cases hv4 : parseIpv4 host with
  | some ip => simp [SocksAddr.host, parseIpv4_eq_some.mp hv4]
  | none =>
      cases parseIpv6 host with
      | some ip => simp [SocksAddr.host_ofIp, ipText]
      | none => exact fromUtf8Lossy_take 255 host

/-- The relay's parser reads the target and the payload back off a reply exactly
if the reply can name the target. -/
theorem parseSocksUdpHeader_reply (target : HostPort) (payload : List UInt8) :
    parseSocksUdpHeader (wrapSocksUdpReply target payload) = .ok (target, payload) ↔
      ReplyNames target.host.toList := by
  rw [wrapSocksUdpReply_eq, parseSocksUdpHeader_encode, ← host_replyAddr]
  obtain ⟨host, port⟩ := target
  simp [← String.toList_inj]

/-- A name of 86 bytes that are no UTF-8 is decoded to 258 bytes and cut in the
reply. -/
theorem parseSocksUdpHeader_reply_cut :
    parseSocksUdpHeader ([0, 0, 0, 0x03, 86] ++ List.replicate 86 0xff ++ [0, 53, 1, 2])
        = .ok (⟨String.ofList (List.replicate 86 replacement), 53⟩, [1, 2]) ∧
      parseSocksUdpHeader
          (wrapSocksUdpReply ⟨String.ofList (List.replicate 86 replacement), 53⟩ [3])
        = .ok (⟨String.ofList (List.replicate 85 replacement), 53⟩, [3]) := by
  constructor
  · decide +kernel
  · have hcut : (replyAddr (List.replicate 86 replacement)).host
        = List.replicate 85 replacement := by decide +kernel
    rw [wrapSocksUdpReply_eq, parseSocksUdpHeader_encode, String.toList_ofList, hcut]

/-! ## Indexing -/

namespace Checked

open Tcp

/-- The target of a header and the header's length, by address type. -/
def headerTarget (buf : List UInt8) (atyp : UInt8) : Except Failure (HostPort × Nat) :=
  if atyp = 0x01 then
    if buf.length < 4 + 4 + 2 then .error (.err "truncated IPv4 header")
    else do
      let ip : Ipv4Addr := ⟨← index buf 4, ← index buf 5, ← index buf 6, ← index buf 7⟩
      let port := fromBeBytes (← index buf 8) (← index buf 9)
      .ok (⟨String.ofList ip.display, port⟩, 10)
  else if atyp = 0x04 then
    if buf.length < 4 + 16 + 2 then .error (.err "truncated IPv6 header")
    else do
      let ip := Ipv6Addr.fromOctets (← range buf 4 20)
      let port := fromBeBytes (← index buf 20) (← index buf 21)
      .ok (⟨String.ofList ip.display, port⟩, 22)
  else if atyp = 0x03 then
    if buf.length < 5 then .error (.err "truncated domain header")
    else do
      let len := (← index buf 4).toNat
      if buf.length < 5 + len + 2 then .error (.err "truncated domain header")
      else do
        let domain := String.ofList (fromUtf8Lossy none (← range buf 5 (5 + len)))
        let port := fromBeBytes (← index buf (5 + len)) (← index buf (5 + len + 1))
        .ok (⟨domain, port⟩, 5 + len + 2)
  else .error (.err ("unknown ATYP: " ++ toString atyp))

/-- The relay's parser with every index and range checked against the buffer. -/
def parseSocksUdpHeader (buf : List UInt8) : Except Failure (HostPort × List UInt8) :=
  if buf.length < 4 then .error (.err "UDP header too short")
  else do
    let frag ← index buf 2
    if frag ≠ 0 then .error (.err "UDP fragmentation not supported")
    else do
      let atyp ← index buf 3
      let (target, hdrLen) ← headerTarget buf atyp
      let payload ← range buf hdrLen buf.length
      .ok (target, payload)

/-- No index or range is outside the buffer. -/
theorem parseSocksUdpHeader_eq (buf : List UInt8) :
    parseSocksUdpHeader buf = (Rusnel.parseSocksUdpHeader buf).mapError .err := by
  unfold parseSocksUdpHeader Rusnel.parseSocksUdpHeader
  by_cases hlen : buf.length < 4
  · simp only [if_pos hlen, Except.mapError]
  · rw [if_neg hlen, if_neg hlen, index_of_lt (by omega), index_of_lt (by omega)]
    simp only [bind, Except.bind, headerTarget]
    split_ifs with hfrag hv4 hshort hv6 hshort hname hshort hcut
    · rfl
    · rfl
    · have hbyte : ∀ i < 10, index buf i = .ok (buf.getD i 0) := fun i hi =>
        index_of_lt (by omega)
      simp only [hbyte 4 (by decide), hbyte 5 (by decide), hbyte 6 (by decide),
        hbyte 7 (by decide), hbyte 8 (by decide), hbyte 9 (by decide),
        range_to_end (show 10 ≤ buf.length by omega), Except.mapError]
    · rfl
    · rw [range_of_le (by decide) (by omega), index_of_lt (by omega), index_of_lt (by omega)]
      simp only [range_to_end (show 22 ≤ buf.length by omega), Except.mapError]
    · rfl
    · rw [index_of_lt (by omega)]
      simp only [if_pos hcut, Except.mapError]
    · rw [index_of_lt (by omega)]
      simp only [if_neg hcut]
      rw [range_of_le (by omega) (by omega), index_of_lt (by omega), index_of_lt (by omega),
        Nat.add_sub_cancel_left]
      simp only [range_to_end (show 5 + (buf.getD 4 0).toNat + 2 ≤ buf.length by omega),
        Except.mapError]
    · rfl

/-- A refusal of the parser is an error, not a panic. -/
theorem parseSocksUdpHeader_error {buf : List UInt8} {message : String}
    (h : Rusnel.parseSocksUdpHeader buf = .error message) :
    parseSocksUdpHeader buf = .error (.err message) := by
  rw [parseSocksUdpHeader_eq, h]
  rfl

/-- A header of which only a part arrives is refused. -/
theorem parseSocksUdpHeader_cut (r₀ r₁ : UInt8) (addr : SocksAddr) (port : UInt16)
    {part : List UInt8} (hpart : part <+: addr.encode port) (hne : part ≠ addr.encode port) :
    ∃ message, parseSocksUdpHeader (r₀ :: r₁ :: 0 :: part) = .error (.err message) := by
  have hshort : part.length < (addr.encode port).length :=
    Nat.lt_of_le_of_ne hpart.length_le fun h => hne (hpart.eq_of_length h)
  cases part with
  | nil => exact ⟨_, parseSocksUdpHeader_error rfl⟩
  | cons atyp part =>
      obtain ⟨rfl, hbytes⟩ := List.cons_prefix_cons.mp hpart
      simp only [SocksAddr.encode, List.length_cons, List.length_append, toBeBytes,
        List.length_nil] at hshort
      cases addr with
      | v4 ip =>
          simp only [SocksAddr.bytes, Ipv4Addr.octets, List.length_cons, List.length_nil] at hshort
          refine ⟨"truncated IPv4 header", parseSocksUdpHeader_error ?_⟩
          rw [Rusnel.parseSocksUdpHeader, if_neg (by simp), if_neg (by simp), if_pos (by rfl),
            if_pos (by simp only [List.length_cons]; omega)]
      | domain name length_name =>
          refine ⟨"truncated domain header", parseSocksUdpHeader_error ?_⟩
          cases part with
          | nil => rfl
          | cons len part =>
              obtain ⟨rfl, -⟩ := List.cons_prefix_cons.mp hbytes
              have hname := SocksAddr.toNat_length length_name
              simp only [SocksAddr.bytes, List.length_cons] at hshort
              rw [Rusnel.parseSocksUdpHeader, if_neg (by simp), if_neg (by simp),
                if_neg (by simp [SocksAddr.atyp]), if_neg (by simp [SocksAddr.atyp]),
                if_pos (by rfl), if_neg (by simp)]
              refine if_pos ?_
              simp only [List.length_cons, List.getD_cons_succ, List.getD_cons_zero, hname]
              omega
      | v6 octets length_octets =>
          simp only [SocksAddr.bytes, length_octets] at hshort
          refine ⟨"truncated IPv6 header", parseSocksUdpHeader_error ?_⟩
          rw [Rusnel.parseSocksUdpHeader, if_neg (by simp), if_neg (by simp),
            if_neg (by simp [SocksAddr.atyp]), if_pos (by rfl),
            if_pos (by simp only [List.length_cons]; omega)]

/-- A header with another address type is refused. -/
theorem parseSocksUdpHeader_atyp (r₀ r₁ : UInt8) {atyp : UInt8} (hv4 : atyp ≠ 0x01)
    (hname : atyp ≠ 0x03) (hv6 : atyp ≠ 0x04) (rest : List UInt8) :
    parseSocksUdpHeader (r₀ :: r₁ :: 0 :: atyp :: rest)
      = .error (.err ("unknown ATYP: " ++ toString atyp)) := by
  apply parseSocksUdpHeader_error
  rw [Rusnel.parseSocksUdpHeader, if_neg (by simp), if_neg (by simp), if_neg (by simpa using hv4),
    if_neg (by simpa using hv6), if_neg (by simpa using hname)]
  rfl

end Checked

end Rusnel
