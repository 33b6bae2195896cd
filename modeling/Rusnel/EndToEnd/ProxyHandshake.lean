import Rusnel.Foundation.TcpConn
import Rusnel.Foundation.Utf8
import Rusnel.Foundation.NetText
import Rusnel.Config.Client

/-!
# The handshake with a proxy

{lit}`establish_socks5_udp_associate` asks a SOCKS5 proxy for a UDP relay.  It
offers the methods it can do, authenticates if the proxy wants it to, and reads
the address of the relay off the reply.  User name and password come from the
URL of the proxy, where they are separated by a colon and closed by the last at
sign, and go out behind a length of one byte each.

Main results:

- Theorem {lit}`decodeUserpass_frame`: the frame of the credentials is read back.
- Theorem {lit}`proxyCredentials`: what is written in the URL is what the proxy gets.
-/

namespace Rusnel
namespace EndToEnd

open Net Text Tcp

/-! ## The client's side -/

/-- A byte in a message. -/
def hexByte (b : UInt8) : String :=
  "0x" ++ .ofList (lowerHex b)

def socks5ReplyMeaning (rep : UInt8) : String :=
  match rep.toNat with
  | 0x00 => "succeeded"
  | 0x01 => "general SOCKS server failure"
  | 0x02 => "connection not allowed by ruleset"
  | 0x03 => "network unreachable"
  | 0x04 => "host unreachable"
  | 0x05 => "connection refused"
  | 0x06 => "TTL expired"
  | 0x07 => "command not supported"
  | 0x08 => "address type not supported"
  | _ => "unknown"

/-- The frame of the user name and password negotiation. -/
def userpassFrame (user pass : List UInt8) : List UInt8 :=
  [0x01, .ofNat user.length] ++ user ++ [.ofNat pass.length] ++ pass

def socks5UserpassAuth (user pass : String) : ConnTask Unit :=
  let userBytes := asBytes user.toList
  let passBytes := asBytes pass.toList
  if 255 < userBytes.length ∨ 255 < passBytes.length then
    fail "SOCKS5 user/pass auth: username or password exceeds 255 bytes"
  else do
    writeAll (userpassFrame userBytes passBytes)
    let reply ← readExact [0, 0] 2
    if reply.getD 0 0 ≠ 0x01 then
      fail ("SOCKS5 user/pass reply has bad sub-negotiation version " ++ hexByte (reply.getD 0 0))
    else if reply.getD 1 0 ≠ 0x00 then
      fail ("SOCKS5 proxy rejected user/pass credentials (status " ++ hexByte (reply.getD 1 0)
        ++ ")")
    else pure ()

/-- The greeting; the second method is offered with credentials only. -/
def proxyGreeting (auth : Option (String × String)) : List UInt8 :=
  if auth.isSome then [0x05, 0x02, 0x00, 0x02] else [0x05, 0x01, 0x00]

/-- Agree on a method and authenticate. -/
def negotiate (auth : Option (String × String)) : ConnTask Unit := do
  writeAll (proxyGreeting auth)
  let reply ← readExact [0, 0] 2
  if reply.getD 0 0 ≠ 0x05 then
    fail ("SOCKS5 proxy returned bad version byte " ++ hexByte (reply.getD 0 0))
  else if reply.getD 1 0 = 0x00 then pure ()
  else if reply.getD 1 0 = 0x02 then
    match auth with
    | none => fail "SOCKS5 proxy demanded user/pass auth but none was configured"
    | some (user, pass) => socks5UserpassAuth user pass
  else if reply.getD 1 0 = 0xff then fail "SOCKS5 proxy refused all offered auth methods"
  else fail ("SOCKS5 proxy selected unsupported auth method " ++ hexByte (reply.getD 1 0))

/-- Read the address of the relay behind its type; a name is not resolved. -/
def readBndIp (atyp : UInt8) (peer : IpAddr) : ConnTask IpAddr :=
  if atyp = 0x01 then do
    let octets ← readExact [0, 0, 0, 0] 4
    pure (.v4 ⟨octets.getD 0 0, octets.getD 1 0, octets.getD 2 0, octets.getD 3 0⟩)
  else if atyp = 0x04 then do
    let octets ← readExact (List.replicate 16 0) 16
    pure (.v6 (.fromOctets octets))
  else if atyp = 0x03 then do
    let len ← readExact [0] 1
    let _ ← readExact (List.replicate (len.getD 0 0).toNat 0) (len.getD 0 0).toNat
    pure peer
  else fail ("SOCKS5 reply has unsupported ATYP " ++ hexByte atyp)

/-- Ask for a relay; an unspecified address stands for the proxy itself. -/
def requestAssociation (peer : IpAddr) : ConnTask SocketAddr := do
  writeAll [0x05, 0x03, 0x00, 0x01, 0, 0, 0, 0, 0, 0]
  let head ← readExact [0, 0, 0, 0] 4
  if head.getD 0 0 ≠ 0x05 then
    fail ("SOCKS5 reply has bad version byte " ++ hexByte (head.getD 0 0))
  else if head.getD 1 0 ≠ 0x00 then
    fail ("SOCKS5 UDP ASSOCIATE failed with REP=" ++ hexByte (head.getD 1 0) ++ " ("
      ++ socks5ReplyMeaning (head.getD 1 0) ++ ")")
  else do
    let bndIp ← readBndIp (head.getD 3 0) peer
    let port ← readExact [0, 0] 2
    let bndPort := fromBeBytes (port.getD 0 0) (port.getD 1 0)
    pure (.new (if bndIp.isUnspecified then peer else bndIp) bndPort)

/-- The handshake on a connection to the proxy, whose address is `peer`. -/
def establishSocks5UdpAssociate (auth : Option (String × String)) (peer : IpAddr) :
    ConnTask SocketAddr := do
  negotiate auth
  requestAssociation peer

/-! ## The proxy's side -/

/-- The negotiation as RFC 1929 describes it: user name and password, each as long
as the byte before it says, and what follows the frame. -/
def decodeUserpass : List UInt8 → Option ((String × String) × List UInt8)
  | version :: ulen :: bytes =>
      if version ≠ 0x01 ∨ bytes.length < ulen.toNat then none
      else
        match bytes.drop ulen.toNat with
        | [] => none
        | plen :: rest =>
            if rest.length < plen.toNat then none
            else
              let text := fun bytes => String.ofList (fromUtf8Lossy none bytes)
              some ((text (bytes.take ulen.toNat), text (rest.take plen.toNat)),
                rest.drop plen.toNat)
  | _ => none

/-- The proxy reads the credentials and not a byte more. -/
theorem decodeUserpass_frame {user pass : String} (huser : (asBytes user.toList).length ≤ 255)
    (hpass : (asBytes pass.toList).length ≤ 255) (rest : List UInt8) :
    decodeUserpass (userpassFrame (asBytes user.toList) (asBytes pass.toList) ++ rest)
      = some ((user, pass), rest) := by
  have hulen := toNat_ofNat_of_lt (Nat.lt_succ_of_le huser)
  have hplen := toNat_ofNat_of_lt (Nat.lt_succ_of_le hpass)
  simp [decodeUserpass, userpassFrame, hulen, hplen, fromUtf8Lossy_asBytes]

/-! ## From the URL to the proxy -/

/-- The URL is taken apart at the last at sign and the first colon. -/
theorem fromStr_credentials {user password address : String} (huser : ':' ∉ user.toList)
    (haddress : '@' ∉ address.toList) (hport : ':' ∈ address.toList) :
    Config.ProxyConfig.fromStr ("socks5://" ++ user ++ ":" ++ password ++ "@" ++ address)
      = .ok (.socks5 address (some (user, password))) := by
  have htext : ("socks5://" ++ user ++ ":" ++ password ++ "@" ++ address).toList
      = "socks5://".toList
        ++ ((user.toList ++ ':' :: password.toList) ++ '@' :: address.toList) := by
    simp [String.toList_append]
  have hscheme : Config.proxyAfterScheme
      ("socks5://" ++ user ++ ":" ++ password ++ "@" ++ address)
      = .ok ((user.toList ++ ':' :: password.toList) ++ '@' :: address.toList) := by
    rw [Config.proxyAfterScheme, htext, stripStart_append]
  have hne : address.toList ≠ [] := List.ne_nil_of_mem hport
  rw [Config.ProxyConfig.fromStr, hscheme]
  simp only [bind, Except.bind, Config.proxyAuth, rsplitOnce_append _ haddress,
    splitOnce_append huser, if_neg hne, not_not.mpr hport, if_false, String.ofList_toList]

/-- Whatever the proxy answers, the frame is written whole; credentials that do
not fit are refused before. -/
theorem socks5UserpassAuth_run (user pass : String) (c : TcpConn) :
    if (asBytes user.toList).length ≤ 255 ∧ (asBytes pass.toList).length ≤ 255 then
      ((socks5UserpassAuth user pass).run c).2.written
        = c.written ++ userpassFrame (asBytes user.toList) (asBytes pass.toList)
    else
      (socks5UserpassAuth user pass).run c
        = (.error (.err "SOCKS5 user/pass auth: username or password exceeds 255 bytes"), c) := by
  split_ifs with hfits
  · have hshort : ¬(255 < (asBytes user.toList).length ∨ 255 < (asBytes pass.toList).length) := by
      omega
    rw [socks5UserpassAuth]
    simp only [if_neg hshort]
    rw [bind_writeAll]
    refine Silent.bind (.readExact _ _) (fun reply => ?_) _
    split_ifs
    · exact .fail _
    · exact .fail _
    · exact .pure _
  · have hlong : 255 < (asBytes user.toList).length ∨ 255 < (asBytes pass.toList).length := by
      omega
    rw [socks5UserpassAuth]
    simp only [if_pos hlong]
    rfl

/-- If the proxy selects the second method, the credentials are sent. -/
theorem negotiate_userpass (user pass : String) (rest : List UInt8) :
    (negotiate (some (user, pass))).run ⟨0x05 :: 0x02 :: rest, []⟩
      = (socks5UserpassAuth user pass).run ⟨rest, [0x05, 0x02, 0x00, 0x02]⟩ := by
  have hreply : Takes (readExact [0, 0] 2) [0x05, 0x02] [] [0x05, 0x02] :=
    .readExact rfl (Nat.le_refl 2)
  rw [negotiate, bind_writeAll]
  exact hreply.run_bind _ rest _

/-- The credentials in the URL of a proxy are the ones it gets: they are parsed as
written, sent if the proxy selects the second method, and read back by it with
nothing left over.  If one of them does not fit, nothing of the frame is written. -/
theorem proxyCredentials {user password address : String} (huser : ':' ∉ user.toList)
    (haddress : '@' ∉ address.toList) (hport : ':' ∈ address.toList) :
    Config.ProxyConfig.fromStr ("socks5://" ++ user ++ ":" ++ password ++ "@" ++ address)
      = .ok (.socks5 address (some (user, password))) ∧
    (∀ peer rest, (establishSocks5UdpAssociate (some (user, password)) peer).run
        ⟨0x05 :: 0x02 :: rest, []⟩
      = (socks5UserpassAuth user password >>= fun _ => requestAssociation peer).run
        ⟨rest, [0x05, 0x02, 0x00, 0x02]⟩) ∧
    ∀ c, if (asBytes user.toList).length ≤ 255 ∧ (asBytes password.toList).length ≤ 255 then
        ∃ frame, ((socks5UserpassAuth user password).run c).2.written = c.written ++ frame ∧
          decodeUserpass frame = some ((user, password), [])
      else
        (socks5UserpassAuth user password).run c
          = (.error (.err "SOCKS5 user/pass auth: username or password exceeds 255 bytes"), c) := by
  refine ⟨fromStr_credentials huser haddress hport, fun peer rest => ?_, fun c => ?_⟩
  · exact bind_congr_run (negotiate_userpass user password rest) _
  · have hrun := socks5UserpassAuth_run user password c
    split_ifs at hrun ⊢ with hfits
    · have hdecode := decodeUserpass_frame hfits.1 hfits.2 []
      rw [List.append_nil] at hdecode
      exact ⟨_, hrun, hdecode⟩
    · exact hrun

/-- A password with both separators in it. -/
theorem proxyCredentials_separators :
    Config.ProxyConfig.fromStr "socks5://me:p:w@d@proxy:1080"
      = .ok (.socks5 "proxy:1080" (some ("me", "p:w@d"))) :=
  (@proxyCredentials "me" "p:w@d" "proxy:1080" (by decide) (by decide) (by decide)).1

end EndToEnd
end Rusnel
