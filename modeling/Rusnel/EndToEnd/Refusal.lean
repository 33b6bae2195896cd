import Rusnel.Common.ControlFrame
import Rusnel.Server.Session

/-!
# A refused hello

The server answers a refused hello and tears the session down; the client waits
for the answer.  The answer is handed to the transport and travels in steps of
its own, while the server's task drops its handles on the connection one after
the other.  With the last one the connection is closed, and bytes that have not
been delivered may be discarded.

Main results:

- Theorem {lit}`refusal_learned_iff`: the client learns the server's reason
  exactly if the close never overtakes the answer.
- Theorem {lit}`refusal_lost`: a schedule in which it does.
-/

namespace Rusnel
namespace EndToEnd

open ByteStream Server

/-! ## The model -/

/-- One connection from the hello on, at the server, in transit and at the
client. -/
structure Exchange where
  registry : ServerState
  session : Session
  /-- The hello's two stream handles, held by `perform_session_hello`. -/
  streams : Bool
  /-- The handles of the session's task: the connection and the client's record. -/
  task : Bool
  /-- Written by the server and not yet delivered. -/
  unsent : List UInt8
  /-- Delivered to the client and not yet read. -/
  delivered : List UInt8
  /-- The end of the stream was delivered. -/
  fin : Bool
  /-- The transport has given up what was undelivered. -/
  discarded : Bool
  /-- The client's endpoint knows that the connection is closed. -/
  lost : Bool
  /-- What `client_send_session_hello` returned. -/
  outcome : Option (Except String (List UInt64))

/-- The handshake is done: the client is registered and its hello under way. -/
def Exchange.init (client : ClientEntry) : Exchange where
  registry := ServerState.new.registerClient client
  session := { Session.new client with phase := .hello }
  streams := true
  task := true
  unsent := []
  delivered := []
  fin := false
  discarded := false
  lost := false
  outcome := none

/-- The last handle on the server's side is gone: those of the streams, of the
task and the one stored in the registry. -/
def Exchange.closed (x : Exchange) : Bool :=
  !x.streams && !x.task && (x.registry.clients.lookup x.session.client.id).isNone

inductive ExchangeAction where
  /-- The server reads the hello, refuses it and writes the answer. -/
  | hello
  /-- `perform_session_hello` returns and drops the streams. -/
  | leaveHello
  /-- The client is taken out of the registry. -/
  | deregister
  /-- The session's task returns. -/
  | leaveTask
  /-- Up to `n` bytes of the answer arrive. -/
  | deliver (n : Nat)
  /-- The end of the answer arrives. -/
  | deliverFin
  /-- After the close undelivered bytes are dropped. -/
  | discard
  /-- After the close the client's endpoint is told. -/
  | notify
  /-- The client reads. -/
  | read
deriving DecidableEq, Repr

/-- How a read fails when the connection is gone. -/
def lostError : PrefixedError → String
  | .lengthCut _ => "failed to read control message length: connection lost"
  | _ => "failed to read control message body: connection lost"

/-- The client's wait for the answer: `none` as long as more bytes may come.
Bytes that were delivered are read even when the connection is closed. -/
def awaitReply (hello : SessionHello) (x : Exchange) : Option (Except String (List UInt64)) :=
  match readPrefixed 4 maxControlMsg x.delivered with
  | .ok _ =>
      match readFramed sessionHelloResponseCodec x.delivered with
      | .ok (response, _) => some (clientSendSessionHello hello response)
      | .error e => some (.error e)
  | .error e =>
      if e.isCut then
        if x.fin then some (.error (controlError e))
        else if x.lost then some (.error (lostError e))
        else none
      else some (.error (controlError e))

/-- One step of the server, the transport or the client. -/
def Exchange.step (cfg : ServerConfig) (hello : SessionHello) (x : Exchange) :
    ExchangeAction → Option Exchange
  | .hello =>
      match stepSession cfg x.registry x.session (.hello (.ok hello)) with
      | none => none
      | some (registry, session) =>
          match session.answer with
          | none => none
          | some response =>
              some { x with
                registry := registry
                session := session
                unsent := (writeFramed sessionHelloResponseCodec [] response).1 }
  | .leaveHello =>
      if x.streams ∧ x.session.answer.isSome then some { x with streams := false } else none
  | .deregister =>
      if x.streams then none
      else
        match stepSession cfg x.registry x.session .deregister with
        | none => none
        | some (registry, session) => some { x with registry := registry, session := session }
  | .leaveTask =>
      if x.task ∧ x.session.phase = .returned then some { x with task := false } else none
  | .deliver n =>
      if x.discarded ∨ x.lost then none
      else some { x with
        delivered := x.delivered ++ x.unsent.take n
        unsent := x.unsent.drop n }
  | .deliverFin =>
      if x.discarded ∨ x.lost ∨ x.unsent ≠ [] ∨ x.session.answer.isNone then none
      else some { x with fin := true }
  | .discard => if x.closed then some { x with unsent := [], discarded := true } else none
  | .notify => if x.closed then some { x with lost := true } else none
  | .read =>
      if x.outcome.isSome then none
      else (awaitReply hello x).map fun outcome => { x with outcome := some outcome }

/-- The client has learned `reason` and nothing else, or can still learn it. -/
def Exchange.Learns (cfg : ServerConfig) (hello : SessionHello) (reason : String)
    (x : Exchange) : Prop :=
  (∀ outcome, x.outcome = some outcome →
      outcome = .error ("server rejected session: " ++ reason)) ∧
    ∃ more y, Transition.run (Exchange.step cfg hello) x more = some y ∧
      y.outcome = some (.error ("server rejected session: " ++ reason))

/-- The close does not overtake the answer: nothing undelivered is dropped, and
the client is not told of the close before the whole answer was delivered. -/
def Exchange.AnswerFirst (x : Exchange) : ExchangeAction → Prop
  | .discard | .notify => x.unsent = []
  | _ => True

instance (x : Exchange) (a : ExchangeAction) : Decidable (x.AnswerFirst a) := by
  unfold Exchange.AnswerFirst
  split <;> infer_instance

/-! ## Inversion of a step -/

variable {cfg : ServerConfig} {hello : SessionHello} {reason : String}

/-- The outcomes of one step. -/
inductive ExchangeStep (cfg : ServerConfig) (hello : SessionHello) (x : Exchange) :
    ExchangeAction → Exchange → Prop where
  | hello (registry : ServerState) (session : Session) (response : SessionHelloResponse)
      (hsession : stepSession cfg x.registry x.session (.hello (.ok hello)) =
        some (registry, session)) (hanswer : session.answer = some response) :
      ExchangeStep cfg hello x .hello
        { x with
          registry := registry
          session := session
          unsent := (writeFramed sessionHelloResponseCodec [] response).1 }
  | leaveHello (hanswer : x.session.answer.isSome = true) :
      ExchangeStep cfg hello x .leaveHello { x with streams := false }
  | deregister (registry : ServerState) (session : Session) (hstreams : x.streams = false)
      (hsession : stepSession cfg x.registry x.session .deregister = some (registry, session)) :
      ExchangeStep cfg hello x .deregister { x with registry := registry, session := session }
  | leaveTask (hphase : x.session.phase = .returned) :
      ExchangeStep cfg hello x .leaveTask { x with task := false }
  | deliver (n : Nat) (hkept : x.discarded = false) (hopen : x.lost = false) :
      ExchangeStep cfg hello x (.deliver n)
        { x with delivered := x.delivered ++ x.unsent.take n, unsent := x.unsent.drop n }
  | deliverFin (hkept : x.discarded = false) (hopen : x.lost = false) (hsent : x.unsent = [])
      (hanswer : x.session.answer.isSome = true) :
      ExchangeStep cfg hello x .deliverFin { x with fin := true }
  | discard (hclosed : x.closed = true) :
      ExchangeStep cfg hello x .discard { x with unsent := [], discarded := true }
  | notify (hclosed : x.closed = true) :
      ExchangeStep cfg hello x .notify { x with lost := true }
  | read (outcome : Except String (List UInt64)) (hnone : x.outcome = none)
      (hread : awaitReply hello x = some outcome) :
      ExchangeStep cfg hello x .read { x with outcome := some outcome }

theorem Exchange.step_cases {x x' : Exchange} {a : ExchangeAction}
    (h : x.step cfg hello a = some x') : ExchangeStep cfg hello x a x' := by
  cases a with
  | hello =>
      simp only [Exchange.step] at h
      split at h
      · cases h
      · rename_i registry session hsession
        split at h
        · cases h
        · rename_i response hanswer
          cases h
          exact .hello registry session response hsession hanswer
  | leaveHello =>
      simp only [Exchange.step] at h
      split_ifs at h with hcond
      cases h
      exact .leaveHello hcond.2
  | deregister =>
      simp only [Exchange.step] at h
      split_ifs at h with hstreams
      split at h
      · cases h
      · rename_i registry session hsession
        cases h
        exact .deregister registry session (by simpa using hstreams) hsession
  | leaveTask =>
      simp only [Exchange.step] at h
      split_ifs at h with hcond
      cases h
      exact .leaveTask hcond.2
  | deliver n =>
      simp only [Exchange.step] at h
      split_ifs at h with hcond
      cases h
      simp only [not_or, Bool.not_eq_true] at hcond
      exact .deliver n hcond.1 hcond.2
  | deliverFin =>
      simp only [Exchange.step] at h
      split_ifs at h with hcond
      cases h
      simp only [not_or, Bool.not_eq_true, not_not] at hcond
      exact .deliverFin hcond.1 hcond.2.1 hcond.2.2.1
        (by simpa [Option.isSome_iff_ne_none] using hcond.2.2.2)
  | discard =>
      simp only [Exchange.step] at h
      split_ifs at h with hclosed
      cases h
      exact .discard hclosed
  | notify =>
      simp only [Exchange.step] at h
      split_ifs at h with hclosed
      cases h
      exact .notify hclosed
  | read =>
      simp only [Exchange.step] at h
      split_ifs at h with hnone
      obtain ⟨outcome, hread, rfl⟩ := Option.map_eq_some_iff.mp h
      exact .read outcome (by simpa using hnone) hread

/-! ## The answer on the wire -/

/-- What the client's call returns when it has read the answer. -/
def refusal (reason : String) : Except String (List UInt64) :=
  .error ("server rejected session: " ++ reason)

/-- The bytes of the answer. -/
def answerFrame (reason : String) : List UInt8 :=
  (writeFramed sessionHelloResponseCodec [] (.failed reason)).1

/-- The reader accepts the answer. -/
def WithinCap (reason : String) : Prop :=
  (SessionHelloResponse.failed reason).toBytes.length ≤ maxControlMsg

instance (reason : String) : Decidable (WithinCap reason) :=
  Nat.decLe _ _

theorem answerFrame_eq (hcap : WithinCap reason) :
    answerFrame reason =
      toLeBytes 4 (SessionHelloResponse.failed reason).toBytes.length ++
        (SessionHelloResponse.failed reason).toBytes := by
  have hlen : (SessionHelloResponse.failed reason).toBytes.length < 2 ^ 32 :=
    Nat.lt_of_le_of_lt hcap (by decide)
  have hwrite : writeFramed sessionHelloResponseCodec [] (.failed reason) = _ :=
    writeFramed_ok rfl hlen []
  simp only [answerFrame, hwrite, List.nil_append]

theorem answerFrame_inverts (hcap : WithinCap reason) :
    sessionHelloResponseCodec.Inverts (.failed reason) := by
  apply sessionHelloResponse_inverts
  exact SessionHelloResponse.encodable_of_length (Nat.lt_of_le_of_lt hcap (by decide))

/-- With the whole answer delivered the client learns the reason. -/
theorem awaitReply_whole (hcap : WithinCap reason) {x : Exchange}
    (hdelivered : x.delivered = answerFrame reason) :
    awaitReply hello x = some (refusal reason) := by
  have hbytes : (SessionHelloResponse.failed reason).toBytes.length < 256 ^ 4 :=
    Nat.lt_of_le_of_lt hcap (by decide)
  have hraw := (readPrefixed_delimits hbytes hcap).reads []
  have hdelimits : Delimits (readFramed sessionHelloResponseCodec) _ _ :=
    readFramed_delimits rfl (answerFrame_inverts hcap) hcap
  have hframed := hdelimits.reads []
  rw [List.append_nil, ← answerFrame_eq hcap, ← hdelivered] at hraw hframed
  simp only [awaitReply, hraw, hframed, clientSendSessionHello, refusal]

/-- With part of it delivered the client waits or loses the connection. -/
theorem awaitReply_part (hello : SessionHello) (hcap : WithinCap reason) {x : Exchange}
    {rest : List UInt8} (hrest : rest ≠ []) (hsplit : x.delivered ++ rest = answerFrame reason)
    (hfin : x.fin = false) :
    ∃ e, awaitReply hello x = if x.lost then some (.error (lostError e)) else none := by
  have hbytes : (SessionHelloResponse.failed reason).toBytes.length < 256 ^ 4 :=
    Nat.lt_of_le_of_lt hcap (by decide)
  rw [answerFrame_eq hcap] at hsplit
  obtain ⟨e, hcut, hisCut⟩ := readPrefixed_cut hbytes hcap ⟨rest, hsplit⟩ (by
    intro heq
    rw [← hsplit] at heq
    exact hrest (List.append_right_eq_self.mp heq.symm))
  refine ⟨e, ?_⟩
  simp only [awaitReply, hcut, hisCut, hfin, if_true, Bool.false_eq_true, if_false]

theorem lostError_ne (e : PrefixedError) :
    (.error (lostError e) : Except String (List UInt64)) ≠ refusal reason := by
  intro heq
  have hchars := congrArg String.toList (Except.error.inj heq)
  rw [String.toList_append] at hchars
  cases e <;> simp [lostError] at hchars

/-! ## Answer and close -/

/-- Nothing of the answer has been lost. -/
inductive Exchange.Intact (reason : String) (x : Exchange) : Prop where
  /-- The hello is still to be refused. -/
  | waiting (hphase : x.session.phase = .hello) (hanswer : x.session.answer = none)
      (hstreams : x.streams = true) (hunsent : x.unsent = []) (hdelivered : x.delivered = [])
      (hfin : x.fin = false) (hkept : x.discarded = false) (hopen : x.lost = false)
      (houtcome : x.outcome = none)
  /-- The answer is on its way, delivered in full, or read. -/
  | answered (hphase : x.session.phase ≠ .hello) (hanswer : x.session.answer.isSome = true)
      (hframe : x.delivered ++ x.unsent = answerFrame reason)
      (hends : x.fin = true ∨ x.discarded = true ∨ x.lost = true → x.unsent = [])
      (houtcome : x.outcome = none ∨ (x.outcome = some (refusal reason) ∧ x.unsent = []))

/-- The close came before the rest of the answer. -/
structure Exchange.Overtaken (reason : String) (x : Exchange) : Prop where
  phase : x.session.phase ≠ .hello
  part : ∃ rest, rest ≠ [] ∧ x.delivered ++ rest = answerFrame reason
  fin : x.fin = false
  cut : x.discarded = true ∨ x.lost = true
  outcome : x.outcome ≠ some (refusal reason)

theorem Exchange.init_intact (client : ClientEntry) (reason : String) :
    (Exchange.init client).Intact reason :=
  .waiting rfl rfl rfl rfl rfl rfl rfl rfl rfl

/-- A refused hello is answered with the reason. -/
theorem hello_answer (hrefused : validateRemotes cfg hello.remotes = .error reason)
    {st st' : ServerState} {s s' : Session}
    (h : stepSession cfg st s (.hello (.ok hello)) = some (st', s')) :
    s.phase = .hello ∧ s'.phase ≠ .hello ∧ s'.answer = some (.failed reason) := by
  cases stepSession_cases h with
  | helloRefused hphase _ reason' hrefused' =>
      cases hrefused.symm.trans hrefused'
      exact ⟨hphase, by simp, rfl⟩
  | helloAccepted hphase _ hvalid => simp [hrefused] at hvalid

theorem deregister_answer {st st' : ServerState} {s s' : Session}
    (h : stepSession cfg st s .deregister = some (st', s')) :
    s'.phase ≠ .hello ∧ s'.answer = s.answer ∧ s.phase ≠ .hello := by
  cases stepSession_cases h with
  | deregister reason hphase => exact ⟨by simp, rfl, by simp [hphase]⟩

/-- As long as the close does not overtake the answer, nothing of it is lost. -/
theorem Exchange.Intact.of_step (hrefused : validateRemotes cfg hello.remotes = .error reason)
    (hcap : WithinCap reason) {x x' : Exchange} {a : ExchangeAction} (h : x.Intact reason)
    (hguard : x.AnswerFirst a) (hstep : ExchangeStep cfg hello x a x') : x'.Intact reason := by
  cases h with
  | waiting hphase hanswer hstreams hunsent hdelivered hfin hkept hopen houtcome =>
      cases hstep with
      | hello registry session response hsession hresponse =>
          obtain ⟨_, hphase', hanswer'⟩ := hello_answer hrefused hsession
          cases hresponse.symm.trans hanswer'
          refine .answered hphase' (by simp [hresponse]) ?_ ?_ (.inl houtcome)
          · simp [hdelivered, answerFrame]
          · simp [hfin, hkept, hopen]
      | leaveHello hsome => simp [hanswer] at hsome
      | deregister registry session hgone => simp [hstreams] at hgone
      | leaveTask hreturned => simp [hphase] at hreturned
      | deliver n =>
          exact .waiting hphase hanswer hstreams (by simp [hunsent])
            (by simp [hdelivered, hunsent]) hfin hkept hopen houtcome
      | deliverFin _ _ _ hsome => simp [hanswer] at hsome
      | discard hclosed => simp [Exchange.closed, hstreams] at hclosed
      | notify hclosed => simp [Exchange.closed, hstreams] at hclosed
      | read outcome hnone hread =>
          simp [awaitReply, hdelivered, readPrefixed, readExact, PrefixedError.isCut, hfin,
            hopen] at hread
  | answered hphase hanswer hframe hends houtcome =>
      cases hstep with
      | hello registry session response hsession =>
          exact absurd (hello_answer hrefused hsession).1 hphase
      | leaveHello => exact .answered hphase hanswer hframe hends houtcome
      | deregister registry session hgone hsession =>
          obtain ⟨hphase', hsame, _⟩ := deregister_answer hsession
          exact .answered hphase' (hsame ▸ hanswer) hframe hends houtcome
      | leaveTask => exact .answered hphase hanswer hframe hends houtcome
      | deliver n hkept hopen =>
          refine .answered hphase hanswer ?_ (fun hend => ?_) ?_
          · rw [List.append_assoc, List.take_append_drop]
            exact hframe
          · simp [hends hend]
          · exact houtcome.imp id fun hread => ⟨hread.1, by simp [hread.2]⟩
      | deliverFin _ _ hsent =>
          exact .answered hphase hanswer hframe (fun _ => hsent) houtcome
      | discard hclosed =>
          refine .answered hphase hanswer ?_ (fun _ => rfl) (houtcome.imp id fun hread => ?_)
          · simpa [show x.unsent = [] from hguard] using hframe
          · exact ⟨hread.1, rfl⟩
      | notify hclosed => exact .answered hphase hanswer hframe (fun _ => hguard) houtcome
      | read outcome hnone hread =>
          by_cases hsent : x.unsent = []
          · rw [hsent, List.append_nil] at hframe
            cases (awaitReply_whole hcap hframe).symm.trans hread
            exact .answered hphase hanswer (by simpa [hsent] using hframe) (fun _ => hsent)
              (.inr ⟨rfl, hsent⟩)
          · -- Part of the answer is missing, so the client goes on waiting.
            have hquiet : x.fin = false ∧ x.discarded = false ∧ x.lost = false := by
              have hno := mt hends hsent
              simpa using hno
            obtain ⟨e, hpart⟩ := awaitReply_part hello hcap hsent hframe hquiet.1
            simp [hpart, hquiet.2.2] at hread

/-- A close that overtakes the answer leaves part of it undelivered. -/
theorem Exchange.Intact.overtaken {x x' : Exchange} {a : ExchangeAction} (h : x.Intact reason)
    (hguard : ¬x.AnswerFirst a) (hstep : ExchangeStep cfg hello x a x') :
    x'.Overtaken reason := by
  have hlate : x.unsent ≠ [] ∧ (a = .discard ∨ a = .notify) := by
    cases a <;> simp_all [Exchange.AnswerFirst]
  cases h with
  | waiting _ _ _ hunsent => exact absurd hunsent hlate.1
  | answered hphase hanswer hframe hends houtcome =>
      have hnone : x.outcome = none :=
        houtcome.resolve_right fun hread => hlate.1 hread.2
      have hfin : x.fin = false := by
        by_contra hfin
        exact hlate.1 (hends (.inl (by simpa using hfin)))
      rcases hlate.2 with rfl | rfl
      · cases hstep with
        | discard => exact ⟨hphase, ⟨_, hlate.1, hframe⟩, hfin, .inl rfl, by simp [hnone]⟩
      · cases hstep with
        | notify => exact ⟨hphase, ⟨_, hlate.1, hframe⟩, hfin, .inr rfl, by simp [hnone]⟩

/-- Once overtaken the answer never arrives. -/
theorem Exchange.Overtaken.of_step (hrefused : validateRemotes cfg hello.remotes = .error reason)
    (hcap : WithinCap reason) {x x' : Exchange} {a : ExchangeAction} (h : x.Overtaken reason)
    (hstep : ExchangeStep cfg hello x a x') : x'.Overtaken reason := by
  cases hstep with
  | hello registry session response hsession =>
      exact absurd (hello_answer hrefused hsession).1 h.phase
  | deregister registry session hgone hsession =>
      exact ⟨(deregister_answer hsession).1, h.part, h.fin, h.cut, h.outcome⟩
  | deliver n hkept hopen =>
      have hcut := h.cut
      simp [hkept, hopen] at hcut
  | deliverFin hkept hopen =>
      have hcut := h.cut
      simp [hkept, hopen] at hcut
  | leaveHello => exact ⟨h.phase, h.part, h.fin, h.cut, h.outcome⟩
  | leaveTask => exact ⟨h.phase, h.part, h.fin, h.cut, h.outcome⟩
  | discard => exact ⟨h.phase, h.part, h.fin, .inl rfl, h.outcome⟩
  | notify => exact ⟨h.phase, h.part, h.fin, .inr rfl, h.outcome⟩
  | read outcome hnone hread =>
      obtain ⟨rest, hrest, hsplit⟩ := h.part
      obtain ⟨e, hpart⟩ := awaitReply_part hello hcap hrest hsplit h.fin
      rw [hpart] at hread
      split_ifs at hread
      cases hread
      exact ⟨h.phase, ⟨rest, hrest, hsplit⟩, h.fin, h.cut, fun heq =>
        lostError_ne e (Option.some.inj heq)⟩

/-- From an intact exchange the client can go on to learn the reason. -/
theorem Exchange.Intact.learns (hrefused : validateRemotes cfg hello.remotes = .error reason)
    (hcap : WithinCap reason) {x : Exchange} (h : x.Intact reason) :
    x.Learns cfg hello reason := by
  cases h with
  | waiting hphase hanswer hstreams hunsent hdelivered hfin hkept hopen houtcome =>
      refine ⟨by simp [houtcome], [.hello, .deliver (answerFrame reason).length, .read], ?_⟩
      have hsession : stepSession cfg x.registry x.session (.hello (.ok hello)) =
          some (x.registry, { x.session with
            remotes := some hello.remotes
            answer := some (.failed reason)
            phase := .closing ("hello rejected: " ++ reason) }) := by
        simp only [stepSession, hphase, hrefused]
      simp only [Transition.run_cons, Exchange.step, hsession, Option.bind_some, hkept, hopen,
        Bool.false_eq_true, or_self, if_false, houtcome, Option.isSome_none]
      rw [awaitReply_whole hcap (by simp [hdelivered, answerFrame])]
      exact ⟨_, rfl, rfl⟩
  | answered hphase hanswer hframe hends houtcome =>
      rcases houtcome with hnone | ⟨hread, _⟩
      · refine ⟨by simp [hnone], ?_⟩
        by_cases hsent : x.unsent = []
        · refine ⟨[.read], ?_⟩
          rw [hsent, List.append_nil] at hframe
          simp only [Transition.run_cons, Exchange.step, hnone, Option.isSome_none,
            Bool.false_eq_true, if_false, awaitReply_whole hcap hframe]
          exact ⟨_, rfl, rfl⟩
        · have hquiet : x.fin = false ∧ x.discarded = false ∧ x.lost = false := by
            have hno := mt hends hsent
            simpa using hno
          refine ⟨[.deliver x.unsent.length, .read], ?_⟩
          simp only [Transition.run_cons, Exchange.step, hquiet, Bool.false_eq_true, or_self,
            if_false, Option.bind_some, hnone, Option.isSome_none]
          rw [awaitReply_whole hcap (by simpa using hframe)]
          exact ⟨_, rfl, rfl⟩
      · refine ⟨fun outcome houtcome => ?_, [], x, rfl, hread⟩
        cases houtcome.symm.trans hread
        rfl

/-- The client of a refused hello learns the server's reason, and never ends with
anything else, exactly if the close does not overtake the answer, whatever the
schedule of the server, the transport and the client. -/
theorem refusal_learned_iff (hrefused : validateRemotes cfg hello.remotes = .error reason)
    (hcap : WithinCap reason) {client : ClientEntry} {acts : List ExchangeAction} {x : Exchange}
    (hrun : Transition.run (Exchange.step cfg hello) (Exchange.init client) acts = some x) :
    x.Learns cfg hello reason ↔
      Transition.Guarded (Exchange.step cfg hello) Exchange.AnswerFirst (Exchange.init client)
        acts := by
  rcases Transition.guarded_or_trapped (G := Exchange.AnswerFirst)
    (fun _ _ _ h hguard hstep =>
      Exchange.Intact.of_step hrefused hcap h hguard (Exchange.step_cases hstep))
    (fun _ _ _ h hguard hstep => h.overtaken hguard (Exchange.step_cases hstep))
    (fun _ _ _ h hstep =>
      Exchange.Overtaken.of_step hrefused hcap h (Exchange.step_cases hstep))
    (Exchange.init_intact client reason) hrun with ⟨hguarded, h⟩ | ⟨hunguarded, h⟩
  · exact iff_of_true (h.learns hrefused hcap) hguarded
  · refine iff_of_false ?_ hunguarded
    rintro ⟨_, more, y, hmore, hy⟩
    have hend : y.Overtaken reason :=
      Transition.run_invariant (fun _ _ _ h hstep =>
        Exchange.Overtaken.of_step hrefused hcap h (Exchange.step_cases hstep)) h hmore
    exact hend.outcome hy

/-- A hello with one reverse remote, for a server that allows none. -/
def reverseHello : SessionHello :=
  ⟨[.new .reverse (.tcp (.v4 .localhost 8080) ⟨"host", 80⟩)]⟩

def sampleClient : ClientEntry :=
  ⟨1, .v4 .localhost 40000, 0⟩

/-- The server refuses the hello and returns. -/
def serverLeaves : List ExchangeAction :=
  [.hello, .leaveHello, .deregister, .leaveTask]

/-- The reason of the refusal. -/
def sampleReason : String :=
  "Reverse remotes are not allowed (R:8080=>host:80/tcp)"

theorem refusal_learned_sample :
    ∃ x, Transition.run (Exchange.step ⟨false, false, none⟩ reverseHello)
        (Exchange.init sampleClient) (serverLeaves ++ [.deliver 100, .notify]) = some x ∧
      x.Learns ⟨false, false, none⟩ reverseHello sampleReason := by
  have hcheck : ((Transition.run (Exchange.step ⟨false, false, none⟩ reverseHello)
      (Exchange.init sampleClient) (serverLeaves ++ [.deliver 100, .notify])).any
        fun _ => true) = true := by decide +kernel
  obtain ⟨x, hrun, _⟩ := (Option.any_eq_true _ _).mp hcheck
  exact ⟨x, hrun, (refusal_learned_iff rfl (by decide +kernel) hrun).mpr (by decide +kernel)⟩

/-- The server returns and the connection is closed before the transport has
delivered anything; the client's call ends with a lost connection and without
the reason. -/
theorem refusal_lost :
    validateRemotes ⟨false, false, none⟩ reverseHello.remotes = .error sampleReason ∧
    WithinCap sampleReason ∧
    ∃ x, Transition.run (Exchange.step ⟨false, false, none⟩ reverseHello)
        (Exchange.init sampleClient) (serverLeaves ++ [.discard, .notify, .read]) = some x ∧
      x.outcome = some (.error "failed to read control message length: connection lost") := by
  exact ⟨rfl, by decide +kernel, _, (Option.some_get (by decide +kernel)).symm,
    by decide +kernel⟩

end EndToEnd
end Rusnel
