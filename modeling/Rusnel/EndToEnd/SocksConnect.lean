import Rusnel.Common.SocksUdp
import Rusnel.Server.Session
import Rusnel.Client.Dispatch

/-!
# One SOCKS5 CONNECT, end to end

The listening side decodes the CONNECT, opens a stream, announces the target
and waits for the other side's acknowledgement; then it tells its SOCKS client
that the request succeeded.  The other side looks the tunnel up, resolves the
target, acknowledges, and only then dials.  Either side may be the server: a
forward SOCKS tunnel listens on the client, a reverse one on the server.

Main results:

- Theorem {lit}`connect_success_acknowledged`: the success reply is written only
  after the other side has resolved the opener to the requested target and
  acknowledged it, and never when the conn is refused.
- Theorem {lit}`connect_success_undialed`: a schedule in which it is written
  before the dial, which then fails.
-/

namespace Rusnel
namespace EndToEnd

open ByteStream Net Text Server Client

/-! ## The handshake -/

/-- A decoded SOCKS5 request. -/
inductive SocksRequest where
  | connect (target : HostPort)
  | udpAssociate
deriving DecidableEq, Repr

/-- Read from a TCP connection whose peer sends `input` and no more. -/
def readTcp (n : Nat) (input : List UInt8) : Except String (List UInt8 × List UInt8) :=
  (readExact n input).mapError fun _ => "early eof"

theorem length_readTcp {n : Nat} {input bytes rest : List UInt8}
    (h : readTcp n input = .ok (bytes, rest)) : bytes.length = n := by
  unfold readTcp readExact at h
  split_ifs at h with hlen
  · cases h
    rw [List.length_take]
    omega
  · cases h

/-- A port at the front of the input. -/
def readPort (input : List UInt8) : Except String UInt16 := do
  let (port, _) ← readTcp 2 input
  .ok (fromBeBytes (port.getD 0 0) (port.getD 1 0))

/-- Read the address of a request: the bytes written back, and the outcome. -/
def readSocksAddr (atyp : UInt8) (input : List UInt8) :
    List UInt8 × Except String HostPort :=
  if atyp = 0x01 then
    ([], do
      let (addr, input) ← readTcp 4 input
      let port ← readPort input
      let ip : Ipv4Addr := ⟨addr.getD 0 0, addr.getD 1 0, addr.getD 2 0, addr.getD 3 0⟩
      .ok ⟨String.ofList ip.display, port⟩)
  else if atyp = 0x03 then
    ([], do
      let (len, input) ← readTcp 1 input
      let (domain, input) ← readTcp (len.getD 0 0).toNat input
      let port ← readPort input
      .ok ⟨String.ofList (fromUtf8Lossy none domain), port⟩)
  else if atyp = 0x04 then
    ([], do
      let (addr, input) ← readTcp 16 input
      let port ← readPort input
      .ok ⟨String.ofList (Ipv6Addr.fromOctets addr).display, port⟩)
  else ([0x05, 0x08], .error ("Unsupported address type: " ++ toString atyp))

/-- Which command a request holds: the bytes written back, and the outcome. -/
def socksCommand (cmd : UInt8) (target : HostPort) :
    List UInt8 × Except String SocksRequest :=
  if cmd = 0x01 then ([], .ok (.connect target))
  else if cmd = 0x03 then ([], .ok .udpAssociate)
  else ([0x05, 0x07], .error ("Unsupported SOCKS command: " ++ toString cmd))

/-- Decode a request: the bytes written back, and the outcome. -/
def socksHandshake (input : List UInt8) : List UInt8 × Except String SocksRequest :=
  match readTcp 2 input with
  | .error e => ([], .error e)
  | .ok (head, input) =>
      if head.getD 0 0 ≠ 0x05 then
        ([], .error ("Unsupported SOCKS version: " ++ toString (head.getD 0 0)))
      else
        match readTcp (head.getD 1 0).toNat input with
        | .error e => ([], .error e)
        | .ok (_, input) =>
            match readTcp 4 input with
            | .error e => ([0x05, 0x00], .error e)
            | .ok (request, input) =>
                match readSocksAddr (request.getD 3 0) input with
                | (written, .error e) => ([0x05, 0x00] ++ written, .error e)
                | (_, .ok target) =>
                    let (written, result) := socksCommand (request.getD 1 0) target
                    ([0x05, 0x00] ++ written, result)

/-- A CONNECT was preceded by the reply to the greeting only, and its target was read from
the request. -/
theorem socksHandshake_connect {input written : List UInt8} {target : HostPort}
    (h : socksHandshake input = (written, .ok (.connect target))) :
    written = [0x05, 0x00] ∧ ∃ atyp rest reply, readSocksAddr atyp rest = (reply, .ok target) := by
  unfold socksHandshake at h
  split at h
  · cases h
  · split_ifs at h
    · cases h
    · split at h
      · cases h
      · split at h
        · cases h
        · split at h
          · cases h
          · next haddr =>
              unfold socksCommand at h
              split_ifs at h <;> cases h
              exact ⟨rfl, _, _, _, haddr⟩

/-- The reply to a CONNECT that succeeded. -/
def successReply : List UInt8 :=
  [0x05, 0x00, 0x00, 0x01, 0, 0, 0, 0, 0, 0]

theorem readSocksAddr_written_length (atyp : UInt8) (input : List UInt8) :
    (readSocksAddr atyp input).1.length ≤ 2 := by
  unfold readSocksAddr
  split_ifs <;> simp

theorem socksCommand_written_length (cmd : UInt8) (target : HostPort) :
    (socksCommand cmd target).1.length ≤ 2 := by
  unfold socksCommand
  split_ifs <;> simp

/-- The handshake itself writes less than a success reply. -/
theorem socksHandshake_written_length (input : List UInt8) :
    (socksHandshake input).1.length ≤ 4 := by
  fun_cases socksHandshake input with
  | case5 _ _ _ _ _ _ _ request rest _ written e haddr =>
      have hlen : written.length ≤ 2 := by
        simpa only [haddr] using readSocksAddr_written_length (request.getD 3 0) rest
      simp only [List.length_append, List.length_cons, List.length_nil]
      omega
  | case6 _ _ _ _ _ _ _ request _ _ _ target _ written result hcmd =>
      have hlen : written.length ≤ 2 := by
        simpa only [hcmd] using socksCommand_written_length (request.getD 1 0) target
      simp only [List.length_append, List.length_cons, List.length_nil]
      omega
  | _ => simp

/-! ## The two sides -/

/-- Where the task of the listening side stands. -/
inductive SocksPoint where
  | handshake
  /-- A CONNECT was decoded; the stream is still to be opened. -/
  | openStream (target : HostPort)
  | sendOpener (target : HostPort)
  | awaitReply
  /-- The acknowledgement was read; the success reply is next. -/
  | writeReply
  | relaying
  /-- A UDP ASSOCIATE was decoded: the conn is not a CONNECT. -/
  | associate
  | ended
deriving DecidableEq, Repr

/-- How far a side that accepted an opener has come. -/
inductive DialStage where
  | acking
  /-- The acknowledgement was written. -/
  | acked
  | dialing
  | connected
  /-- The dial failed or was given up. -/
  | failed
deriving DecidableEq, Repr

/-- Where the task on the other side stands. -/
inductive FarPoint where
  | idle
  /-- The opener was resolved to the protocol and request of a data-plane handler. -/
  | accepted (stage : DialStage) (protocol : Protocol) (request : RemoteRequest)
  | refusing (reason : String)
  | refused (reason : String)
  | ended
deriving DecidableEq, Repr

/-- The other side with what it looks an opener up in: the server's registry as
it is at that moment, or the client's remotes. -/
inductive Far where
  | server (st : ServerState)
  | client (remotes : AList fun _ : UInt64 => RemoteRequest)

/-- What `handle_open_conn` and `client_accept_reverse_conn` make of an opener. -/
def Far.resolve (opener : OpenConn) : Far → Except String (Protocol × RemoteRequest)
  | .server st =>
      match lookupOpenConn st opener with
      | .error e => .error e
      | .ok (_, .tcp request) => .ok (.tcp, request)
      | .ok (_, .udp request) => .ok (.udp, request)
  | .client remotes =>
      match acceptReverseConn remotes opener with
      | .error e => .error e
      | .ok (.tcp request) => .ok (.tcp, request)
      | .ok (.udp request) => .ok (.udp, request)

/-- One CONNECT at both sides and in between. -/
structure Connect where
  tunnelId : UInt64
  socks : SocksPoint
  /-- The target of the CONNECT, once decoded. -/
  requested : Option HostPort
  /-- Written to the SOCKS client before the relay. -/
  toClient : List UInt8
  /-- The opener on its way. -/
  opener : Option OpenConn
  /-- The reply to the opener on its way. -/
  reply : Option OpenConnResponse
  far : FarPoint

/-- A SOCKS client has connected to the listener of a tunnel. -/
def Connect.init (tunnelId : UInt64) : Connect where
  tunnelId := tunnelId
  socks := .handshake
  requested := none
  toClient := []
  opener := none
  reply := none
  far := .idle

inductive ConnectAction where
  /-- The SOCKS client's bytes are read and answered. -/
  | handshake (input : List UInt8)
  | openStream
  | sendOpener
  /-- The other side reads the opener and resolves it. -/
  | accept (far : Far)
  /-- The other side writes its reply, or fails to. -/
  | answer (written : Bool)
  /-- `tunnel_tcp_server` starts to connect. -/
  | dial
  /-- The connect returns. -/
  | dialed (connected : Bool)
  | readReply
  | writeReply
  /-- The listening side's task ends: a read or write of either connection failed. -/
  | socksFails
  /-- The other side's task ends before a connection is there. -/
  | farFails

/-- The other side's point after its reply was written or not, and the reply. -/
def FarPoint.answer (written : Bool) : FarPoint → Option (Option OpenConnResponse × FarPoint)
  | .accepted .acking protocol request =>
      if written then some (some .ok, .accepted .acked protocol request)
      else some (none, .ended)
  | .refusing reason =>
      -- the result of this write is ignored
      some (if written then some (.failed reason) else none, .refused reason)
  | _ => none

/-- The other side's point when its task ends early. -/
def FarPoint.fail : FarPoint → Option FarPoint
  | .idle | .accepted .acking _ _ => some .ended
  | .accepted .acked protocol request | .accepted .dialing protocol request =>
      some (.accepted .failed protocol request)
  | _ => none

/-- One step of either side. -/
def Connect.step (s : Connect) : ConnectAction → Option Connect
  | .handshake input =>
      match s.socks with
      | .handshake =>
          match socksHandshake input with
          | (written, .error _) => some { s with socks := .ended, toClient := written }
          | (written, .ok (.connect target)) =>
              some { s with
                socks := .openStream target
                requested := some target
                toClient := written }
          | (written, .ok .udpAssociate) =>
              some { s with socks := .associate, toClient := written }
      | _ => none
  | .openStream =>
      match s.socks with
      | .openStream target => some { s with socks := .sendOpener target }
      | _ => none
  | .sendOpener =>
      match s.socks with
      | .sendOpener target =>
          some { s with
            socks := .awaitReply
            opener := some ⟨s.tunnelId, some (.tcp target)⟩ }
      | _ => none
  | .accept far =>
      match s.opener, s.far with
      | some opener, .idle =>
          match far.resolve opener with
          | .error reason => some { s with opener := none, far := .refusing reason }
          | .ok (protocol, request) =>
              some { s with opener := none, far := .accepted .acking protocol request }
      | _, _ => none
  | .answer written =>
      match s.far.answer written with
      | none => none
      | some (reply, far) => some { s with reply := reply, far := far }
  | .dial =>
      match s.far with
      | .accepted .acked .tcp request =>
          if request.remoteAddrString.isSome then
            some { s with far := .accepted .dialing .tcp request }
          else some { s with far := .accepted .failed .tcp request }
      | _ => none
  | .dialed connected =>
      match s.far with
      | .accepted .dialing protocol request =>
          some { s with
            far := .accepted (if connected then .connected else .failed) protocol request }
      | _ => none
  | .readReply =>
      match s.socks, s.reply with
      | .awaitReply, some reply =>
          match sendOpenConn reply with
          | .error _ => some { s with socks := .ended, reply := none }
          | .ok () => some { s with socks := .writeReply, reply := none }
      | _, _ => none
  | .writeReply =>
      match s.socks with
      | .writeReply =>
          some { s with socks := .relaying, toClient := s.toClient ++ successReply }
      | _ => none
  | .socksFails =>
      match s.socks with
      | .associate | .ended => none
      | _ => some { s with socks := .ended }
  | .farFails =>
      match s.far.fail with
      | none => none
      | some far => some { s with far := far }

/-! ## What a step can do -/

/-- What the other side has taken the opener for: the protocol of the handler
and the address it dials. -/
def FarPoint.purpose : FarPoint → Option (Protocol × Option String)
  | .accepted _ protocol request => some (protocol, request.remoteAddrString)
  | _ => none

/-- The other side has written its acknowledgement. -/
def FarPoint.acknowledged : FarPoint → Bool
  | .accepted stage _ _ => stage != .acking
  | _ => false

/-- The other side has answered, or is about to answer, with a refusal. -/
def FarPoint.refuses : FarPoint → Bool
  | .refusing _ | .refused _ => true
  | _ => false

/-- The effect of a step, with the conditions under which it is taken. -/
inductive ConnectStep (s : Connect) : Connect → Prop where
  | handshake {socks : SocksPoint} {requested : Option HostPort} {written : List UInt8}
      (hsocks : s.socks = .handshake) (hshort : written.length ≤ 4)
      (hnext : requested = s.requested ∧ (socks = .ended ∨ socks = .associate) ∨
        ∃ target, requested = some target ∧ socks = .openStream target) :
      ConnectStep s { s with socks := socks, requested := requested, toClient := written }
  | opened {target : HostPort} (hsocks : s.socks = .openStream target) :
      ConnectStep s { s with socks := .sendOpener target }
  | announced {target : HostPort} (hsocks : s.socks = .sendOpener target) :
      ConnectStep s { s with
        socks := .awaitReply
        opener := some ⟨s.tunnelId, some (.tcp target)⟩ }
  | resolved {opener : OpenConn} {far : Far} {protocol : Protocol} {request : RemoteRequest}
      (hopener : s.opener = some opener) (hidle : s.far = .idle)
      (hresolve : far.resolve opener = .ok (protocol, request)) :
      ConnectStep s { s with opener := none, far := .accepted .acking protocol request }
  | declined {reason : String} (hidle : s.far = .idle) :
      ConnectStep s { s with opener := none, far := .refusing reason }
  | acked {protocol : Protocol} {request : RemoteRequest}
      (hfar : s.far = .accepted .acking protocol request) :
      ConnectStep s { s with reply := some .ok, far := .accepted .acked protocol request }
  | refused {reason : String} {reply : Option OpenConnResponse}
      (hfar : s.far = .refusing reason) (hreply : reply ≠ some .ok) :
      ConnectStep s { s with reply := reply, far := .refused reason }
  /-- The other side gives the conn up before it has acknowledged it. -/
  | dropped {reply : Option OpenConnResponse}
      (hfar : s.far = .idle ∨ ∃ protocol request, s.far = .accepted .acking protocol request)
      (hreply : reply = none ∨ reply = s.reply) :
      ConnectStep s { s with reply := reply, far := .ended }
  /-- The dial starts, returns or is given up. -/
  | dials {before after : DialStage} {protocol : Protocol} {request : RemoteRequest}
      (hfar : s.far = .accepted before protocol request) (hbefore : before ≠ .acking)
      (hafter : after ≠ .acking) :
      ConnectStep s { s with far := .accepted after protocol request }
  | read {reply : OpenConnResponse} {socks : SocksPoint} (hreply : s.reply = some reply)
      (hnext : socks = .ended ∨ socks = .writeReply ∧ reply = .ok) :
      ConnectStep s { s with socks := socks, reply := none }
  | replied (hsocks : s.socks = .writeReply) :
      ConnectStep s { s with socks := .relaying, toClient := s.toClient ++ successReply }
  | socksEnds : ConnectStep s { s with socks := .ended }

theorem Connect.step_cases {s t : Connect} {a : ConnectAction} (h : s.step a = some t) :
    ConnectStep s t := by
  cases a with
  | handshake input =>
      simp only [Connect.step] at h
      have hshort := socksHandshake_written_length input
      split at h
      · split at h <;> cases h
        all_goals simp only [*] at hshort
        · exact .handshake ‹_› hshort (.inl ⟨rfl, .inl rfl⟩)
        · exact .handshake ‹_› hshort (.inr ⟨_, rfl, rfl⟩)
        · exact .handshake ‹_› hshort (.inl ⟨rfl, .inr rfl⟩)
      · cases h
  | openStream =>
      simp only [Connect.step] at h
      split at h <;> cases h
      exact .opened ‹_›
  | sendOpener =>
      simp only [Connect.step] at h
      split at h <;> cases h
      exact .announced ‹_›
  | accept far =>
      simp only [Connect.step] at h
      split at h
      · split at h <;> cases h
        · exact .declined ‹_›
        · exact .resolved ‹_› ‹_› ‹_›
      · cases h
  | answer written =>
      simp only [Connect.step] at h
      cases hfar : s.far with
      | accepted stage protocol request =>
          cases stage <;> cases written <;> simp [hfar, FarPoint.answer] at h <;> cases h
          · exact .dropped (.inr ⟨_, _, hfar⟩) (.inl rfl)
          · exact .acked hfar
      | refusing reason =>
          cases written <;> simp [hfar, FarPoint.answer] at h <;> cases h
          · exact .refused hfar (by simp)
          · exact .refused hfar (by simp)
      | _ => simp [hfar, FarPoint.answer] at h
  | dial =>
      simp only [Connect.step] at h
      split at h
      · split_ifs at h <;> cases h
        · exact .dials ‹_› (by simp) (by simp)
        · exact .dials ‹_› (by simp) (by simp)
      · cases h
  | dialed connected =>
      simp only [Connect.step] at h
      split at h <;> cases h
      refine .dials ‹_› (by simp) ?_
      cases connected <;> simp
  | readReply =>
      simp only [Connect.step] at h
      split at h
      · rename_i reply _ hreply
        cases reply with
        | ok =>
            cases h
            exact .read hreply (.inr ⟨rfl, rfl⟩)
        | failed reason =>
            cases h
            exact .read hreply (.inl rfl)
      · cases h
  | writeReply =>
      simp only [Connect.step] at h
      split at h <;> cases h
      exact .replied ‹_›
  | socksFails =>
      simp only [Connect.step] at h
      split at h <;> cases h
      exact .socksEnds
  | farFails =>
      simp only [Connect.step] at h
      cases hfar : s.far with
      | idle =>
          simp only [hfar, FarPoint.fail] at h
          cases h
          exact .dropped (.inl hfar) (.inr rfl)
      | accepted stage protocol request =>
          cases stage <;> simp only [hfar, FarPoint.fail] at h <;> cases h
          · exact .dropped (.inr ⟨_, _, hfar⟩) (.inr rfl)
          · exact .dials hfar (by simp) (by simp)
          · exact .dials hfar (by simp) (by simp)
      | _ => simp [hfar, FarPoint.fail] at h

/-! ## What the acknowledgement stands for -/

/-- A dynamic target that is dispatched at all is dispatched as it is. -/
theorem connTarget_dynamic {kind : RemoteKind} {dyn : DynamicTarget}
    (h : (connTarget kind (some dyn)).isSome = true) :
    connTarget kind (some dyn) = some (dyn.protocol, dyn.target) := by
  cases kind with
  | socks5 a => rfl
  | tcp a remote => cases h
  | udp a remote => cases h

/-- Whichever side resolves it, the opener of a CONNECT is resolved to its target
over TCP. -/
theorem Far.resolve_connect {far : Far} {opener : OpenConn} {target : HostPort}
    {protocol : Protocol} {request : RemoteRequest}
    (hdynamic : opener.dynamic = some (.tcp target))
    (h : far.resolve opener = .ok (protocol, request)) :
    protocol = .tcp ∧ request.remoteAddrString = some target.toAddrString := by
  cases far with
  | server st =>
      unfold Far.resolve lookupOpenConn at h
      cases htunnel : st.tunnel opener.tunnelId with
      | none => simp [htunnel] at h
      | some tunnel =>
          cases hd : resolveDispatch tunnel opener.dynamic with
          | error e => simp [htunnel, hd] at h
          | ok d =>
              have hfits := ((resolveDispatch_eq_ok_iff tunnel opener.dynamic).mp ⟨d, hd⟩).2
              have htarget := resolveDispatch_target hd
              rw [hdynamic] at hfits htarget
              rw [connTarget_dynamic hfits] at htarget
              simp only [htunnel, hd] at h
              rcases d with ⟨direction, kind, stdio⟩ | ⟨direction, kind, stdio⟩ <;>
                cases kind <;> cases htarget
              cases h
              exact ⟨rfl, rfl⟩
  | client remotes =>
      unfold Far.resolve acceptReverseConn at h
      cases hparent : remotes.lookup opener.tunnelId with
      | none => simp [hparent] at h
      | some parent =>
          cases hd : resolveReverseDispatch parent opener.dynamic with
          | error e => simp [hparent, hd] at h
          | ok d =>
              have hfits :=
                ((resolveReverseDispatch_eq_ok_iff parent opener.dynamic).mp ⟨d, hd⟩).2
              have htarget := resolveReverseDispatch_target hd
              rw [hdynamic] at hfits htarget
              rw [connTarget_dynamic hfits] at htarget
              simp only [hparent, hd] at h
              rcases d with ⟨direction, kind, stdio⟩ | ⟨direction, kind, stdio⟩ <;>
                cases kind <;> cases htarget
              cases h
              exact ⟨rfl, rfl⟩

/-- What holds between the two sides at every moment. -/
structure Connect.Lawful (s : Connect) : Prop where
  fresh : s.socks = .handshake →
    s.toClient = [] ∧ s.requested = none ∧ s.opener = none ∧ s.far.purpose = none
  decoded : ∀ target, s.socks = .openStream target ∨ s.socks = .sendOpener target →
    s.requested = some target
  announced : ∀ opener, s.opener = some opener →
    ∃ target, s.requested = some target ∧ opener.dynamic = some (.tcp target)
  purpose : ∀ p, s.far.purpose = some p →
    ∃ target, s.requested = some target ∧ p = (.tcp, some target.toAddrString)
  reply : s.reply = some .ok → s.far.acknowledged = true
  read : s.socks = .writeReply → s.far.acknowledged = true
  success : successReply <:+ s.toClient → s.far.acknowledged = true

theorem Connect.Lawful.init (tunnelId : UInt64) : (Connect.init tunnelId).Lawful where
  fresh := by simp [Connect.init, FarPoint.purpose]
  decoded := by simp [Connect.init]
  announced := by simp [Connect.init]
  purpose := by simp [Connect.init, FarPoint.purpose]
  reply := by simp [Connect.init]
  read := by simp [Connect.init]
  success := by simp [Connect.init, successReply]

/-- Neither an acknowledgement nor a refusal is taken back. -/
theorem ConnectStep.far {s t : Connect} (h : ConnectStep s t) :
    (s.far.acknowledged = true → t.far.acknowledged = true) ∧
      (s.far.refuses = true → t.far.refuses = true) := by
  cases h with
  | resolved _ hidle _ => simp [hidle, FarPoint.acknowledged, FarPoint.refuses]
  | declined hidle => simp [hidle, FarPoint.acknowledged, FarPoint.refuses]
  | acked hfar => simp [hfar, FarPoint.acknowledged, FarPoint.refuses]
  | refused hfar _ => simp [hfar, FarPoint.acknowledged, FarPoint.refuses]
  | dropped hfar _ =>
      rcases hfar with hidle | ⟨protocol, request, hfar⟩
      · simp [hidle, FarPoint.acknowledged, FarPoint.refuses]
      · simp [hfar, FarPoint.acknowledged, FarPoint.refuses]
  | dials hfar _ hafter => simp [hfar, FarPoint.acknowledged, FarPoint.refuses, hafter]
  | _ => exact ⟨id, id⟩

/-- The handshake cannot be mistaken for a success. -/
theorem not_success_of_short {written : List UInt8} (hshort : written.length ≤ 4) :
    ¬successReply <:+ written := by
  intro hsuffix
  have hlen := hsuffix.length_le
  simp only [successReply, List.length_cons, List.length_nil] at hlen
  omega

theorem ConnectStep.lawful {s t : Connect} (h : ConnectStep s t) (hs : s.Lawful) : t.Lawful := by
  have hkept := h.far.1
  cases h with
  | handshake hsocks hshort hnext =>
      obtain ⟨-, -, hopener, hpurpose⟩ := hs.fresh hsocks
      refine ⟨?_, ?_, by simp [hopener], by simp [hpurpose], hs.reply, ?_,
        fun hsuccess => absurd hsuccess (not_success_of_short hshort)⟩
      all_goals rcases hnext with ⟨-, rfl | rfl⟩ | ⟨target, rfl, rfl⟩ <;> simp
  | opened hsocks =>
      have htarget := hs.decoded _ (.inl hsocks)
      exact { hs with
        fresh := by simp
        decoded := by simpa using htarget
        read := by simp }
  | announced hsocks =>
      have htarget := hs.decoded _ (.inr hsocks)
      exact { hs with
        fresh := by simp
        decoded := by simp
        announced := by simpa using htarget
        read := by simp }
  -- the other side starts on an opener, which no fresh conn has sent
  | resolved hopener hidle hresolve =>
      obtain ⟨target, htarget, hdynamic⟩ := hs.announced _ hopener
      obtain ⟨rfl, haddr⟩ := Far.resolve_connect hdynamic hresolve
      refine ⟨fun hhere => ?_, hs.decoded, by simp, ?_, fun hreply => hkept (hs.reply hreply),
        fun hread => hkept (hs.read hread), fun hsuccess => hkept (hs.success hsuccess)⟩
      · simp [(hs.fresh hhere).2.2.1] at hopener
      · rintro p ⟨⟩
        exact ⟨target, htarget, by rw [haddr]⟩
  | declined hidle =>
      refine ⟨fun hhere => ?_, hs.decoded, by simp, by simp [FarPoint.purpose],
        fun hreply => hkept (hs.reply hreply), fun hread => hkept (hs.read hread),
        fun hsuccess => hkept (hs.success hsuccess)⟩
      obtain ⟨hnone, hrequested, -, -⟩ := hs.fresh hhere
      exact ⟨hnone, hrequested, rfl, rfl⟩
  | acked hfar =>
      have hpurpose := hs.purpose _ (by rw [hfar]; rfl)
      exact { hs with
        fresh := fun hhere => absurd (hs.fresh hhere).2.2.2 (by simp [hfar, FarPoint.purpose])
        purpose := by rintro p ⟨⟩; exact hpurpose
        reply := fun _ => rfl
        read := fun _ => rfl
        success := fun _ => rfl }
  | refused hfar hreply =>
      exact { hs with
        fresh := fun hhere => by simp [FarPoint.purpose, hs.fresh hhere]
        purpose := by simp [FarPoint.purpose]
        reply := fun hok => absurd hok hreply
        read := fun hread => hkept (hs.read hread)
        success := fun hsuccess => hkept (hs.success hsuccess) }
  | dropped hfar hreply =>
      exact { hs with
        fresh := fun hhere => by simp [FarPoint.purpose, hs.fresh hhere]
        purpose := by simp [FarPoint.purpose]
        reply := fun hok => by
          rcases hreply with rfl | rfl
          · cases hok
          · exact hkept (hs.reply hok)
        read := fun hread => hkept (hs.read hread)
        success := fun hsuccess => hkept (hs.success hsuccess) }
  | dials hfar hbefore hafter =>
      have hpurpose := hs.purpose _ (by rw [hfar]; rfl)
      exact { hs with
        fresh := fun hhere => absurd (hs.fresh hhere).2.2.2 (by simp [hfar, FarPoint.purpose])
        purpose := by rintro p ⟨⟩; exact hpurpose
        reply := fun hreply => hkept (hs.reply hreply)
        read := fun hread => hkept (hs.read hread)
        success := fun hsuccess => hkept (hs.success hsuccess) }
  | read hreply hnext =>
      refine ⟨?_, ?_, hs.announced, hs.purpose, by simp, ?_, hs.success⟩
      · rcases hnext with rfl | ⟨rfl, rfl⟩ <;> simp
      · rcases hnext with rfl | ⟨rfl, rfl⟩ <;> simp
      · rcases hnext with rfl | ⟨rfl, rfl⟩
        · simp
        · exact fun _ => hs.reply hreply
  | replied hsocks =>
      exact { hs with
        fresh := by simp
        decoded := by simp
        read := by simp
        success := fun _ => hs.read hsocks }
  | socksEnds =>
      exact { hs with
        fresh := by simp
        decoded := by simp
        read := by simp }

/-- For every tunnel, every byte sequence the SOCKS client sends, either direction
and every interleaving of the two sides:

- the success reply is written only when the other side has resolved the opener
  to the requested target over TCP and has acknowledged it;
- what the other side dials, is connected to or failed to connect to is the
  requested target;
- once the other side refuses the conn, no success reply is ever written. -/
theorem connect_success_acknowledged {tunnelId : UInt64} {acts : List ConnectAction}
    {s : Connect} (hrun : Transition.run Connect.step (.init tunnelId) acts = some s) :
    (successReply <:+ s.toClient →
      s.far.acknowledged = true ∧
        ∃ target, s.requested = some target ∧
          s.far.purpose = some (.tcp, some target.toAddrString)) ∧
    (∀ protocol addr, s.far.purpose = some (protocol, addr) →
      protocol = .tcp ∧ ∃ target, s.requested = some target ∧ addr = some target.toAddrString) ∧
    (s.far.refuses = true → ∀ more t, Transition.run Connect.step s more = some t →
      ¬successReply <:+ t.toClient) := by
  have hlawful : ∀ {s t : Connect} {acts : List ConnectAction}, s.Lawful →
      Transition.run Connect.step s acts = some t → t.Lawful := by
    intro s t acts hs hrun
    exact Transition.run_invariant (fun _ _ _ hs hstep => (Connect.step_cases hstep).lawful hs)
      hs hrun
  have hs := hlawful (.init tunnelId) hrun
  refine ⟨fun hsuccess => ?_, fun protocol addr hpurpose => ?_, ?_⟩
  · have hacked := hs.success hsuccess
    refine ⟨hacked, ?_⟩
    cases hfar : s.far with
    | accepted stage protocol request =>
        obtain ⟨target, htarget, hp⟩ := hs.purpose _ (by rw [hfar]; rfl)
        exact ⟨target, htarget, congrArg some hp⟩
    | _ => simp [hfar, FarPoint.acknowledged] at hacked
  · obtain ⟨target, htarget, hp⟩ := hs.purpose _ hpurpose
    cases hp
    exact ⟨rfl, target, htarget, rfl⟩
  · intro hrefuses more t hmore hsuccess
    have hrefused : t.far.refuses = true :=
      Transition.run_invariant (P := fun s : Connect => s.far.refuses = true)
        (fun _ _ _ hs hstep => (Connect.step_cases hstep).far.2 hs) hrefuses hmore
    have hacked := (hlawful hs hmore).success hsuccess
    cases hfar : t.far with
    | accepted stage protocol request => simp [hfar, FarPoint.refuses] at hrefused
    | _ => simp [hfar, FarPoint.acknowledged] at hacked

/-- The listening address of the sample tunnels. -/
def sampleListen : SocketAddr :=
  .v4 ⟨127, 0, 0, 1⟩ 1080

/-- The other side of a SOCKS tunnel with id 1. -/
def sampleFar : Direction → Far
  | .forward =>
      .server (ServerState.new.insertTunnel ⟨1, 0, .forward, .socks5 sampleListen, "socks", 0⟩)
  | .reverse => .client (remotesById [1] [.new .reverse (.socks5 sampleListen)])

/-- The request the other side makes of a CONNECT to `10.0.0.1:80`. -/
def sampleRequest (direction : Direction) : RemoteRequest :=
  .new direction (.tcp sampleListen ⟨"10.0.0.1", 80⟩)

/-- A CONNECT to `10.0.0.1:80`, from the handshake to the success reply. -/
def connectThrough (direction : Direction) : List ConnectAction :=
  [.handshake [0x05, 1, 0x00, 0x05, 0x01, 0x00, 0x01, 10, 0, 0, 1, 0, 80], .openStream,
    .sendOpener, .accept (sampleFar direction), .answer true, .readReply, .writeReply]

/-- A CONNECT whose acknowledgement stands for its target. -/
theorem connect_success_acknowledged_sample :
    ∃ s, Transition.run Connect.step (.init 1) (connectThrough .forward) = some s ∧
      successReply <:+ s.toClient ∧ s.far.acknowledged = true ∧
      s.requested = some ⟨"10.0.0.1", 80⟩ ∧ s.far.purpose = some (.tcp, some "10.0.0.1:80") := by
  have hcheck : ((Transition.run Connect.step (.init 1) (connectThrough .forward)).any fun s =>
      decide (successReply <:+ s.toClient ∧ s.requested = some ⟨"10.0.0.1", 80⟩ ∧
        HostPort.toAddrString ⟨"10.0.0.1", 80⟩ = "10.0.0.1:80")) = true := by
    decide +kernel
  obtain ⟨s, hrun, hs⟩ := (Option.any_eq_true _ _).mp hcheck
  obtain ⟨hsuccess, hrequested, htext⟩ := of_decide_eq_true hs
  obtain ⟨hacked, target, htarget, hpurpose⟩ := (connect_success_acknowledged hrun).1 hsuccess
  cases hrequested.symm.trans htarget
  exact ⟨s, hrun, hsuccess, hacked, hrequested, by rw [hpurpose, htext]⟩

/-- On the sample tunnel of a direction the success reply is written when the
acknowledgement is there and the dial has not begun; the dial then fails. -/
def SuccessUndialed (direction : Direction) : Prop :=
  ∃ s t, Transition.run Connect.step (.init 1) (connectThrough direction) = some s ∧
    successReply <:+ s.toClient ∧ s.far = .accepted .acked .tcp (sampleRequest direction) ∧
    Transition.run Connect.step s [.dial, .dialed false] = some t ∧
    successReply <:+ t.toClient ∧ t.far = .accepted .failed .tcp (sampleRequest direction)

/-- Both for a forward and for a reverse SOCKS tunnel the client is told of a
success before the dial that then fails. -/
theorem connect_success_undialed : SuccessUndialed .forward ∧ SuccessUndialed .reverse := by
  have hall : ∀ direction, SuccessUndialed direction := by
    intro direction
    have hcheck : ((Transition.run Connect.step (.init 1) (connectThrough direction)).any fun s =>
        decide (successReply <:+ s.toClient ∧
          s.far = .accepted .acked .tcp (sampleRequest direction)) &&
        (Transition.run Connect.step s [.dial, .dialed false]).any fun t =>
          decide (successReply <:+ t.toClient ∧
            t.far = .accepted .failed .tcp (sampleRequest direction))) = true := by
      cases direction <;> decide +kernel
    obtain ⟨s, hrun, hs⟩ := (Option.any_eq_true _ _).mp hcheck
    obtain ⟨hreplied, hrest⟩ := Bool.and_eq_true_iff.mp hs
    obtain ⟨t, hmore, ht⟩ := (Option.any_eq_true _ _).mp hrest
    obtain ⟨hsuccess, hfar⟩ := of_decide_eq_true hreplied
    obtain ⟨hsuccess', hfar'⟩ := of_decide_eq_true ht
    exact ⟨s, t, hrun, hsuccess, hfar, hmore, hsuccess', hfar'⟩
  exact ⟨hall .forward, hall .reverse⟩

end EndToEnd
end Rusnel
