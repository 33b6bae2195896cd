import Rusnel.Client.Dispatch
import Rusnel.Client.Reconnect
import Rusnel.Foundation.Indexed
import Mathlib.Data.List.Zip

/-!
# What a client does for its server

A connected client runs a handler for each forward remote and an accept loop for the
conns that the server pushes.  When the connection is over they are aborted.  Each
pushed conn is a task of its own, and so is each connection and each source that a
handler has taken; nobody aborts these, and a SOCKS5 association keeps its relay
socket for as long as its control connection lasts.  The server is free to answer the
hello with any ids, to push streams at any time and to write any opener on them.

Main results:

- Theorem {lit}`run_lawful`: the invariant of every run, whatever the server does.
- Theorem {lit}`client_obeys_config`: the client dials only what its reverse remotes
  name, and listens and opens conns only for its forward remotes; only associations
  receive beyond their connection.
-/

namespace Rusnel
namespace ClientSession

open Client (remotesById acceptReverseConn resolveReverseDispatch ReverseDispatch
  resolveReverseDispatch_eq_ok_iff resolveReverseDispatch_target)
open Reconnect (ClientConfig)

/-! ## State -/

/-- Where the task of a pushed conn stands. -/
inductive Stage where
  /-- Reading the opener. -/
  | receiving
  | refusing (reason : String)
  | acking (opener : OpenConn) (dispatch : ReverseDispatch)
  /-- In the data-plane handler, which connects to the target. -/
  | running (opener : OpenConn) (dispatch : ReverseDispatch)
  | done
deriving DecidableEq, Repr

/-- A stream that the server opened, with the task that serves it. -/
structure PushedConn where
  /-- The remotes by id of the connection it came over. -/
  remotes : AList fun _ : UInt64 => RemoteRequest
  stage : Stage
  /-- Replies written on the stream. -/
  replies : List OpenConnResponse

/-- Where the task stands that serves a connection to a handler's listener, or a source
of its datagrams. -/
inductive LocalStage where
  /-- It has opened no conn; on a SOCKS5 listener it is in the handshake. -/
  | starting
  /-- It has opened its conn. -/
  | relaying
  /-- It serves a SOCKS5 association with a relay socket of its own. -/
  | associated
deriving DecidableEq, Repr

/-- A task that a handler has spawned. -/
structure LocalTask where
  remote : RemoteRequest
  id : UInt64
  /-- The number of hellos accepted when its connection was up. -/
  epoch : Nat
  stage : LocalStage
deriving DecidableEq, Repr

/-- The loop of a client and what it has spawned. -/
structure State where
  loop : Reconnect.Client
  /-- The ids of the accepted hellos, the latest one first. -/
  answers : List (List UInt64)
  /-- Remotes whose handler is not spawned yet. -/
  todo : List (RemoteRequest × UInt64)
  /-- Handlers of forward remotes. -/
  handlers : List (RemoteRequest × UInt64)
  /-- Handlers that were aborted but may be in their last poll. -/
  aborted : List (RemoteRequest × UInt64)
  /-- The tasks that handlers have spawned. -/
  locals : List LocalTask
  /-- The accept loop runs. -/
  accepting : Bool
  conns : List PushedConn
  /-- What was dialled for the server, with the openers. -/
  dialled : List (OpenConn × ReverseDispatch)
  /-- Openers written by the handlers and their tasks. -/
  opened : List (RemoteRequest × OpenConn)

def State.init (cfg : ClientConfig) : State where
  loop := .init cfg
  answers := []
  todo := []
  handlers := []
  aborted := []
  locals := []
  accepting := false
  conns := []
  dialled := []
  opened := []

/-- The ids of the current connection. -/
def State.tunnelIds (s : State) : List UInt64 :=
  s.answers.headD []

/-- The loop is in a connection, past its hello. -/
def connected : Reconnect.Phase → Bool
  | .spawning _ _ | .serving _ _ | .closing => true
  | _ => false

/-! ## Steps -/

inductive Action where
  /-- A step of the loop or of one of its senders. -/
  | client (a : Reconnect.Action)
  /-- Handler `i` is done. -/
  | handlerDone (i : Nat)
  /-- The last poll of aborted handler `j` is over. -/
  | handlerDropped (j : Nat)
  /-- Handler `i`, of a stdio remote, opens its conn. -/
  | openStdio (i : Nat)
  /-- Handler `i`, an aborted one behind the others, takes a connection or a source and
  spawns its task. -/
  | take (i : Nat)
  /-- Local task `k` opens a conn, with a target of its own if it speaks SOCKS5. -/
  | open (k : Nat) (dynamic : Option DynamicTarget)
  /-- Local task `k` binds the relay socket of an association. -/
  | associate (k : Nat)
  /-- Local task `k` is done; an association ends with its control connection. -/
  | localDone (k : Nat)
  /-- The server opens a stream. -/
  | accept
  /-- The accept loop ends with an error. -/
  | acceptEnded
  /-- The task of stream `k` reads an opener, or fails to. -/
  | receive (k : Nat) (opener : OpenConn)
  | receiveFailed (k : Nat)
  /-- It replies, or fails to. -/
  | reply (k : Nat)
  | replyFailed (k : Nat)
  /-- Its data-plane handler returns. -/
  | finish (k : Nat)

/-- The handlers and the accept loop are aborted. -/
def State.abort (s : State) : State :=
  { s with handlers := [], aborted := s.aborted ++ s.handlers, accepting := false }

/-- What a step of the loop spawns and aborts. -/
def State.spawned (cfg : ClientConfig) (s : State) (a : Reconnect.Action) : State :=
  match s.loop.phase, a with
  | .hello _, .loop (.helloAnswered response) =>
      match clientSendSessionHello ⟨cfg.remotes⟩ response with
      | .ok ids => { s with answers := ids :: s.answers, todo := cfg.remotes.zip ids }
      | .error _ => s
  | .spawning _ _, .loop .spawn =>
      match s.todo with
      | [] => s
      | (remote, id) :: todo =>
          { s with
            todo := todo
            handlers :=
              if remote.direction = .reverse then s.handlers else s.handlers ++ [(remote, id)] }
  | .spawning _ _, .loop .subscribeMain => { s with accepting := true }
  | .serving _ _, .loop .connectionClosed => s.abort
  | .closing, .loop .closed => s.abort
  | _, _ => s

/-- Put local task `k` into another stage. -/
def State.setLocal (s : State) (k : Nat) (l : LocalTask) : State :=
  { s with locals := s.locals.set k l }

/-- The conns that a task opens: one without a target of its own on a static tunnel, one
for the target of a CONNECT, and any number of them in an association. -/
def LocalTask.opens (l : LocalTask) (dynamic : Option DynamicTarget) : Bool :=
  match l.stage, l.remote.isSocks, dynamic with
  | .starting, false, none => true
  | .starting, true, some (.tcp _) => true
  | .associated, true, some (.udp _) => true
  | _, _, _ => false

/-- A task that has opened a conn; an association goes on. -/
def LocalTask.afterOpen (l : LocalTask) : LocalTask :=
  if l.stage = .associated then l else { l with stage := .relaying }

/-- Put the task of stream `k` into another stage. -/
def State.setConn (s : State) (k : Nat) (c : PushedConn) : State :=
  { s with conns := s.conns.set k c }

/-- One step of the client, with whatever the server has done before it. -/
def step (cfg : ClientConfig) (s : State) : Action → Option State
  | .client a =>
      (Reconnect.step cfg s.loop a).map fun loop => { s.spawned cfg a with loop := loop }
  | .handlerDone i =>
      if i < s.handlers.length then some { s with handlers := s.handlers.eraseIdx i } else none
  | .handlerDropped j =>
      if j < s.aborted.length then some { s with aborted := s.aborted.eraseIdx j } else none
  | .openStdio i =>
      match s.handlers[i]? with
      | none => none
      | some (remote, id) =>
          -- the parser has no stdio remote with SOCKS5
          if remote.stdio = true ∧ remote.isSocks = false then
            some { s with opened := s.opened ++ [(remote, ⟨id, none⟩)] }
          else none
  | .take i =>
      match (s.handlers ++ s.aborted)[i]? with
      | none => none
      | some (remote, id) =>
          if remote.stdio = true then none
          else some { s with locals := s.locals ++ [⟨remote, id, s.answers.length, .starting⟩] }
  | .open k dynamic =>
      match s.locals[k]? with
      | none => none
      | some l =>
          -- over a connection that is gone no stream is opened
          if connected s.loop.phase = true ∧ l.epoch = s.answers.length ∧
              l.opens dynamic = true then
            some { s.setLocal k l.afterOpen with
              opened := s.opened ++ [(l.remote, ⟨l.id, dynamic⟩)] }
          else none
  | .associate k =>
      match s.locals[k]? with
      | none => none
      | some l =>
          if l.stage = .starting ∧ l.remote.isSocks = true then
            some (s.setLocal k { l with stage := .associated })
          else none
  | .localDone k =>
      if k < s.locals.length then some { s with locals := s.locals.eraseIdx k } else none
  | .accept =>
      if s.accepting then
        some { s with conns := s.conns ++ [⟨remotesById s.tunnelIds cfg.remotes, .receiving, []⟩] }
      else none
  | .acceptEnded => if s.accepting then some { s with accepting := false } else none
  | .receive k opener =>
      match s.conns[k]? with
      | some ⟨remotes, .receiving, replies⟩ =>
          match acceptReverseConn remotes opener with
          | .error reason => some (s.setConn k ⟨remotes, .refusing reason, replies⟩)
          | .ok dispatch => some (s.setConn k ⟨remotes, .acking opener dispatch, replies⟩)
      | _ => none
  | .receiveFailed k =>
      match s.conns[k]? with
      | some ⟨remotes, .receiving, replies⟩ => some (s.setConn k ⟨remotes, .done, replies⟩)
      | _ => none
  | .reply k =>
      match s.conns[k]? with
      | some ⟨remotes, .refusing reason, replies⟩ =>
          some (s.setConn k ⟨remotes, .done, replies ++ [.failed reason]⟩)
      | some ⟨remotes, .acking opener dispatch, replies⟩ =>
          some { s.setConn k ⟨remotes, .running opener dispatch, replies ++ [.ok]⟩ with
            dialled := s.dialled ++ [(opener, dispatch)] }
      | _ => none
  | .replyFailed k =>
      match s.conns[k]? with
      | some ⟨remotes, .refusing _, replies⟩ | some ⟨remotes, .acking _ _, replies⟩ =>
          some (s.setConn k ⟨remotes, .done, replies⟩)
      | _ => none
  | .finish k =>
      match s.conns[k]? with
      | some ⟨remotes, .running _ _, replies⟩ => some (s.setConn k ⟨remotes, .done, replies⟩)
      | _ => none

abbrev run (cfg : ClientConfig) (acts : List Action) : Option State :=
  Transition.run (step cfg) (State.init cfg) acts

/-! ## Outcomes of a step -/

variable {cfg : ClientConfig}

/-- What the task of a pushed conn does next. -/
inductive ConnStep (c : PushedConn) : PushedConn → List (OpenConn × ReverseDispatch) → Prop where
  | refuse (opener : OpenConn) (reason : String) (hstage : c.stage = .receiving)
      (hrefused : acceptReverseConn c.remotes opener = .error reason) :
      ConnStep c { c with stage := .refusing reason } []
  | dispatch (opener : OpenConn) (d : ReverseDispatch) (hstage : c.stage = .receiving)
      (hdispatch : acceptReverseConn c.remotes opener = .ok d) :
      ConnStep c { c with stage := .acking opener d } []
  | refused (reason : String) (hstage : c.stage = .refusing reason) :
      ConnStep c { c with stage := .done, replies := c.replies ++ [.failed reason] } []
  | acked (opener : OpenConn) (d : ReverseDispatch) (hstage : c.stage = .acking opener d) :
      ConnStep c { c with stage := .running opener d, replies := c.replies ++ [.ok] } [(opener, d)]
  | ended : ConnStep c { c with stage := .done } []

/-- The outcomes of one step. -/
inductive Outcome (cfg : ClientConfig) (s : State) : State → Prop where
  | client (a : Reconnect.Action) (loop : Reconnect.Client)
      (hstep : Reconnect.step cfg s.loop a = some loop) :
      Outcome cfg s { s.spawned cfg a with loop := loop }
  | handlerDone (i : Nat) : Outcome cfg s { s with handlers := s.handlers.eraseIdx i }
  | handlerDropped (j : Nat) : Outcome cfg s { s with aborted := s.aborted.eraseIdx j }
  | openedStdio (remote : RemoteRequest) (id : UInt64) (hmem : (remote, id) ∈ s.handlers)
      (hstatic : remote.isSocks = false) :
      Outcome cfg s { s with opened := s.opened ++ [(remote, ⟨id, none⟩)] }
  | take (remote : RemoteRequest) (id : UInt64) (hmem : (remote, id) ∈ s.handlers ++ s.aborted) :
      Outcome cfg s
        { s with locals := s.locals ++ [⟨remote, id, s.answers.length, .starting⟩] }
  | opened (k : Nat) (l : LocalTask) (dynamic : Option DynamicTarget)
      (hlocal : s.locals[k]? = some l) (hopens : l.opens dynamic = true) :
      Outcome cfg s { s.setLocal k l.afterOpen with
        opened := s.opened ++ [(l.remote, ⟨l.id, dynamic⟩)] }
  | associate (k : Nat) (l : LocalTask) (hlocal : s.locals[k]? = some l)
      (hsocks : l.remote.isSocks = true) :
      Outcome cfg s (s.setLocal k { l with stage := .associated })
  | localDone (k : Nat) : Outcome cfg s { s with locals := s.locals.eraseIdx k }
  | accept (haccepting : s.accepting = true) :
      Outcome cfg s
        { s with conns := s.conns ++ [⟨remotesById s.tunnelIds cfg.remotes, .receiving, []⟩] }
  | acceptEnded : Outcome cfg s { s with accepting := false }
  | conn (k : Nat) (c c' : PushedConn) (dials : List (OpenConn × ReverseDispatch))
      (hconn : s.conns[k]? = some c) (hstep : ConnStep c c' dials) :
      Outcome cfg s { s with conns := s.conns.set k c', dialled := s.dialled ++ dials }

variable {s : State}

/-- A task that dials nothing. -/
theorem Outcome.silent {k : Nat} {c c' : PushedConn} (hconn : s.conns[k]? = some c)
    (hstep : ConnStep c c' []) : Outcome cfg s (s.setConn k c') := by
  have hout : Outcome cfg s _ := .conn k c c' [] hconn hstep
  rwa [List.append_nil] at hout

theorem step_outcome {s s' : State} {a : Action} (h : step cfg s a = some s') :
    Outcome cfg s s' := by
  cases a with
  | client a =>
      obtain ⟨loop, hstep, rfl⟩ := Option.map_eq_some_iff.mp h
      exact .client a loop hstep
  | handlerDone i =>
      obtain ⟨_, hs⟩ := Option.ite_none_right_eq_some.mp h
      cases hs
      exact .handlerDone i
  | handlerDropped j =>
      obtain ⟨_, hs⟩ := Option.ite_none_right_eq_some.mp h
      cases hs
      exact .handlerDropped j
  | openStdio i =>
      simp only [step] at h
      split at h
      · cases h
      · rename_i remote id hhandler
        obtain ⟨hready, hs⟩ := Option.ite_none_right_eq_some.mp h
        cases hs
        exact .openedStdio remote id (List.mem_of_getElem? hhandler) hready.2
  | take i =>
      simp only [step] at h
      split at h
      · cases h
      · rename_i remote id hhandler
        obtain ⟨_, hs⟩ := Option.ite_none_left_eq_some.mp h
        cases hs
        exact .take remote id (List.mem_of_getElem? hhandler)
  | «open» k dynamic =>
      simp only [step] at h
      split at h
      · cases h
      · rename_i l hlocal
        obtain ⟨hready, hs⟩ := Option.ite_none_right_eq_some.mp h
        cases hs
        exact .opened k l dynamic hlocal hready.2.2
  | associate k =>
      simp only [step] at h
      split at h
      · cases h
      · rename_i l hlocal
        obtain ⟨hready, hs⟩ := Option.ite_none_right_eq_some.mp h
        cases hs
        exact .associate k l hlocal hready.2
  | localDone k =>
      obtain ⟨_, hs⟩ := Option.ite_none_right_eq_some.mp h
      cases hs
      exact .localDone k
  | accept =>
      obtain ⟨haccepting, hs⟩ := Option.ite_none_right_eq_some.mp h
      cases hs
      exact .accept haccepting
  | acceptEnded =>
      obtain ⟨_, hs⟩ := Option.ite_none_right_eq_some.mp h
      cases hs
      exact .acceptEnded
  | receive k opener =>
      simp only [step] at h
      split at h
      · rename_i remotes replies hconn
        split at h <;> cases h
        · rename_i reason hrefused
          exact .silent hconn (.refuse opener reason rfl hrefused)
        · rename_i d hdispatch
          exact .silent hconn (.dispatch opener d rfl hdispatch)
      · cases h
  | receiveFailed k =>
      simp only [step] at h
      split at h
      · rename_i remotes replies hconn
        cases h
        exact .silent hconn .ended
      · cases h
  | reply k =>
      simp only [step] at h
      split at h
      · rename_i remotes reason replies hconn
        cases h
        exact .silent hconn (.refused reason rfl)
      · rename_i remotes opener d replies hconn
        cases h
        exact .conn k _ _ _ hconn (.acked opener d rfl)
      · cases h
  | replyFailed k =>
      simp only [step] at h
      split at h
      · rename_i remotes reason replies hconn
        cases h
        exact .silent hconn .ended
      · rename_i remotes opener d replies hconn
        cases h
        exact .silent hconn .ended
      · cases h
  | finish k =>
      simp only [step] at h
      split at h
      · rename_i remotes opener d replies hconn
        cases h
        exact .silent hconn .ended
      · cases h

/-! ## The invariant -/

/-- The remote was declared, and a hello was answered with this id for it. -/
def State.Assigned (cfg : ClientConfig) (s : State) (remote : RemoteRequest) (id : UInt64) : Prop :=
  ∃ ids ∈ s.answers, (remote, id) ∈ cfg.remotes.zip ids

/-- What a pushed conn was dispatched to follows from the remotes of its connection. -/
def Stage.Lawful (c : PushedConn) : Stage → Prop
  | .receiving | .refusing _ => c.replies = []
  | .acking opener d => c.replies = [] ∧ acceptReverseConn c.remotes opener = .ok d
  | .running _ _ => c.replies = [.ok]
  | .done => c.replies.length ≤ 1

/-- The stream of a pushed conn was acknowledged. -/
def PushedConn.acknowledged (c : PushedConn) : Bool :=
  c.replies = [.ok]

/-- A task that a handler has spawned is one for a forward remote. -/
structure LocalTask.Lawful (cfg : ClientConfig) (answers : List (List UInt64)) (l : LocalTask) :
    Prop where
  assigned : ∃ ids ∈ answers, (l.remote, l.id) ∈ cfg.remotes.zip ids
  forward : l.remote.direction = .forward
  socks : l.stage = .associated → l.remote.isSocks = true

structure Lawful (cfg : ClientConfig) (s : State) : Prop where
  /-- Nothing new is served outside a connection. -/
  idle : connected s.loop.phase = false → s.handlers = [] ∧ s.accepting = false
  /-- Handlers are those of forward remotes, at most one for each. -/
  handlers : ∃ spawned, cfg.remotes.zip s.tunnelIds = spawned ++ s.todo ∧
    s.handlers.Sublist (spawned.filter (·.1.direction = .forward))
  aborted : ∀ p ∈ s.aborted, s.Assigned cfg p.1 p.2 ∧ p.1.direction = .forward
  locals : ∀ l ∈ s.locals, l.Lawful cfg s.answers
  /-- In a connection a hello was accepted. -/
  answered : connected s.loop.phase = true → s.answers ≠ []
  tables : ∀ c ∈ s.conns, ∃ ids ∈ s.answers, c.remotes = remotesById ids cfg.remotes
  stages : ∀ c ∈ s.conns, c.stage.Lawful c
  dialled : ∀ p ∈ s.dialled, ∃ ids ∈ s.answers,
    acceptReverseConn (remotesById ids cfg.remotes) p.1 = .ok p.2
  counted : s.dialled.length = s.conns.countP PushedConn.acknowledged
  opened : ∀ p ∈ s.opened, s.Assigned cfg p.1 p.2.tunnelId ∧ p.1.direction = .forward ∧
    p.2.dynamic.isSome = p.1.isSocks

theorem init_lawful (cfg : ClientConfig) : Lawful cfg (State.init cfg) := by
  constructor <;> simp [State.init, Reconnect.Client.init, State.tunnelIds, connected]

/-! ## What keeps it -/

/-- The handlers are those of forward remotes of the current connection. -/
theorem Lawful.listens (h : Lawful cfg s) :
    s.handlers.Sublist ((cfg.remotes.zip s.tunnelIds).filter (·.1.direction = .forward)) := by
  obtain ⟨spawned, hzip, hsub⟩ := h.handlers
  rw [hzip, List.filter_append]
  exact hsub.trans (List.sublist_append_left _ _)

variable {remote : RemoteRequest} {id : UInt64}

/-- A handler serves a forward remote under the id at its position. -/
theorem Lawful.handler_mem_zip (h : Lawful cfg s) (hmem : (remote, id) ∈ s.handlers) :
    (remote, id) ∈ cfg.remotes.zip s.tunnelIds ∧ remote.direction = .forward := by
  obtain ⟨hzip, hdirection⟩ := List.mem_filter.mp (h.listens.subset hmem)
  exact ⟨hzip, of_decide_eq_true hdirection⟩

/-- A handler serves a forward remote under an id that the server gave it. -/
theorem Lawful.handler (h : Lawful cfg s) (hmem : (remote, id) ∈ s.handlers) :
    s.Assigned cfg remote id ∧ remote.direction = .forward := by
  obtain ⟨hassigned, hdirection⟩ := h.handler_mem_zip hmem
  cases hanswers : s.answers with
  | nil => simp [State.tunnelIds, hanswers] at hassigned
  | cons ids rest =>
      refine ⟨⟨ids, by simp [hanswers], ?_⟩, hdirection⟩
      simpa [State.tunnelIds, hanswers] using hassigned

theorem State.Assigned.mono {s s' : State} (h : s.Assigned cfg remote id)
    (hanswers : s.answers ⊆ s'.answers) : s'.Assigned cfg remote id := by
  obtain ⟨ids, hids, hzip⟩ := h
  exact ⟨ids, hanswers hids, hzip⟩

/-- What was spawned, dialled and opened only depends on the answers. -/
theorem Lawful.update {s s' : State} (h : Lawful cfg s)
    (hidle : connected s'.loop.phase = false → s'.handlers = [] ∧ s'.accepting = false)
    (hhandlers : ∃ spawned, cfg.remotes.zip s'.tunnelIds = spawned ++ s'.todo ∧
      s'.handlers.Sublist (spawned.filter (·.1.direction = .forward)))
    (haborted : ∀ p ∈ s'.aborted, p ∈ s.aborted ∨ p ∈ s.handlers)
    (hanswered : connected s'.loop.phase = true → s'.answers ≠ [])
    (hanswers : s.answers ⊆ s'.answers) (hlocals : s'.locals = s.locals)
    (hconns : s'.conns = s.conns) (hdialled : s'.dialled = s.dialled)
    (hopened : s'.opened = s.opened) : Lawful cfg s' where
  idle := hidle
  handlers := hhandlers
  aborted p hp := by
    rcases haborted p hp with hold | hnew
    · exact ⟨(h.aborted p hold).1.mono hanswers, (h.aborted p hold).2⟩
    · obtain ⟨hassigned, hdirection⟩ := h.handler hnew
      exact ⟨hassigned.mono hanswers, hdirection⟩
  locals l hl := by
    obtain ⟨hassigned, hforward, hsocks⟩ := h.locals l (hlocals ▸ hl)
    exact ⟨State.Assigned.mono (s := s) hassigned hanswers, hforward, hsocks⟩
  answered := hanswered
  tables c hc := by
    obtain ⟨ids, hids, htable⟩ := h.tables c (hconns ▸ hc)
    exact ⟨ids, hanswers hids, htable⟩
  stages c hc := h.stages c (hconns ▸ hc)
  dialled p hp := by
    obtain ⟨ids, hids, hdispatch⟩ := h.dialled p (hdialled ▸ hp)
    exact ⟨ids, hanswers hids, hdispatch⟩
  counted := by rw [hdialled, hconns, h.counted]
  opened p hp := by
    obtain ⟨hassigned, hrest⟩ := h.opened p (hopened ▸ hp)
    exact ⟨hassigned.mono hanswers, hrest⟩

/-- A step that spawns and aborts nothing. -/
theorem Lawful.keep (h : Lawful cfg s) {loop : Reconnect.Client}
    (hphase : connected loop.phase = connected s.loop.phase) :
    Lawful cfg { s with loop := loop } := by
  refine h.update ?_ h.handlers (fun _ => .inl) ?_ (List.Subset.refl _) rfl rfl rfl rfl
  · intro hidle
    exact h.idle (hphase ▸ hidle)
  · intro hconnected
    exact h.answered (hphase ▸ hconnected)

/-- An accepted hello: the handlers are to be spawned. -/
theorem Lawful.accepted (h : Lawful cfg s) (hidle : connected s.loop.phase = false)
    {loop : Reconnect.Client} (hconnected : connected loop.phase = true) (ids : List UInt64) :
    Lawful cfg
      { s with loop := loop, answers := ids :: s.answers, todo := cfg.remotes.zip ids } := by
  refine h.update ?_ ⟨[], rfl, ?_⟩ (fun _ => .inl) (fun _ => List.cons_ne_nil _ _)
    (List.subset_cons_self _ _) rfl rfl rfl rfl
  · intro hidle'
    exact absurd hidle' (by simp [hconnected])
  · rw [(h.idle hidle).1]
    exact List.Sublist.refl _

/-- Spawning the next handler. -/
theorem Lawful.spawn (h : Lawful cfg s) (hphase : connected s.loop.phase = true)
    {loop : Reconnect.Client} (hphase' : connected loop.phase = true)
    {todo : List (RemoteRequest × UInt64)} (htodo : s.todo = (remote, id) :: todo) :
    Lawful cfg
      { s with
        loop := loop
        todo := todo
        handlers :=
          if remote.direction = .reverse then s.handlers
          else s.handlers ++ [(remote, id)] } := by
  obtain ⟨spawned, hzip, hsub⟩ := h.handlers
  refine h.update ?_ ⟨spawned ++ [(remote, id)], ?_, ?_⟩ (fun _ => .inl)
    (fun _ => h.answered hphase) (List.Subset.refl _) rfl rfl rfl rfl
  · intro hidle
    exact absurd hidle (by simp [hphase'])
  · rw [List.append_assoc, List.singleton_append, ← htodo]
    exact hzip
  · rw [List.filter_append]
    cases hdirection : remote.direction with
    | forward => simpa [hdirection] using hsub.append (List.Sublist.refl [(remote, id)])
    | reverse => simpa [hdirection] using hsub

/-- The end of a connection. -/
theorem Lawful.abort (h : Lawful cfg s) {loop : Reconnect.Client}
    (hphase : connected loop.phase = false) : Lawful cfg { s.abort with loop := loop } := by
  obtain ⟨spawned, hzip, _⟩ := h.handlers
  refine h.update (fun _ => ⟨rfl, rfl⟩) ⟨spawned, hzip, List.nil_sublist _⟩
    (fun _ => List.mem_append.mp) ?_ (List.Subset.refl _) rfl rfl rfl rfl
  intro hconnected
  exact absurd hconnected (by simp [hphase])

/-- A step of the loop. -/
theorem Lawful.loop (h : Lawful cfg s) {a : Reconnect.LoopAction} {loop : Reconnect.Client}
    (hstep : Reconnect.LoopStep cfg s.loop a loop) :
    Lawful cfg { s.spawned cfg (.loop a) with loop := loop } := by
  cases hstep
  case helloAccepted rx response ids hphase hids =>
    simp only [State.spawned, hphase, hids]
    exact h.accepted (by simp [hphase, connected]) rfl ids
  case helloRefused rx response reason hphase hreason =>
    simp only [State.spawned, hphase, hreason]
    exact h.keep (by simp [hphase, connected])
  case spawn rx remote todo hphase =>
    simp only [State.spawned, hphase]
    have hconnected : connected s.loop.phase = true := by simp [hphase, connected]
    cases htodo : s.todo with
    | nil => exact h.keep hconnected.symm
    | cons next rest => exact h.spawn hconnected rfl htodo
  case subscribeMain rx hphase =>
    simp only [State.spawned, hphase]
    have hconnected : connected s.loop.phase = true := by simp [hphase, connected]
    exact h.update (fun hidle => absurd hidle (by simp [connected])) h.handlers (fun _ => .inl)
      (fun _ => h.answered hconnected) (List.Subset.refl _) rfl rfl rfl rfl
  case connectionClosed rx main hphase =>
    simp only [State.spawned, hphase]
    exact h.abort rfl
  case closed hphase =>
    simp only [State.spawned, hphase]
    exact h.abort rfl
  case retry rx hphase =>
    simp only [State.spawned, hphase]
    refine h.keep ?_
    rcases Reconnect.retry_phase cfg.reconnect s.loop rx with hnext | ⟨result, hnext⟩ <;>
      simp [hnext, hphase, connected]
  case subscribe hphase | connected rx hphase | connectFailed rx hphase | helloFailed rx hphase
      | sleepDone rx hphase | connectShutdown rx hphase hready | backoffShutdown rx hphase hready
      | mainShutdown rx main hphase hready =>
    simp only [State.spawned, hphase]
    exact h.keep (by simp [hphase, connected])

/-- A message of a sender spawns nothing. -/
theorem spawned_of_sends {a : Reconnect.Action} (ha : a.sends = true) : s.spawned cfg a = s := by
  unfold State.spawned
  cases a with
  | loop a => cases ha
  | ctrlC | stdioDone | abortedDone => cases s.loop.phase <;> rfl

/-! ## Pushed conns -/

theorem Stage.Lawful.length_le {c : PushedConn} (h : c.stage.Lawful c) : c.replies.length ≤ 1 := by
  cases hstage : c.stage <;> rw [hstage] at h
  case receiving | refusing | running => simp [show c.replies = _ from h]
  case acking => simp [h.1]
  case done => exact h

/-- A task keeps to its protocol: it dials what the opener was dispatched to, and it
acknowledges the stream when it does. -/
theorem ConnStep.lawful {c c' : PushedConn} {dials : List (OpenConn × ReverseDispatch)}
    (hstep : ConnStep c c' dials) (h : c.stage.Lawful c) :
    c'.stage.Lawful c' ∧ c'.remotes = c.remotes ∧
      (∀ p ∈ dials, acceptReverseConn c.remotes p.1 = .ok p.2) ∧
      dials.length + c.acknowledged.toNat = c'.acknowledged.toNat := by
  cases hstep with
  | refuse opener reason hstage hrefused =>
      rw [hstage] at h
      exact ⟨h, rfl, by simp, by simp [PushedConn.acknowledged]⟩
  | dispatch opener d hstage hdispatch =>
      rw [hstage] at h
      exact ⟨⟨h, hdispatch⟩, rfl, by simp, by simp [PushedConn.acknowledged]⟩
  | refused reason hstage =>
      rw [hstage] at h
      have hreplies : c.replies = [] := h
      exact ⟨by simp [Stage.Lawful, hreplies], rfl, by simp,
        by simp [PushedConn.acknowledged, hreplies]⟩
  | acked opener d hstage =>
      rw [hstage] at h
      obtain ⟨hreplies, hdispatch⟩ := h
      exact ⟨by simp [Stage.Lawful, hreplies], rfl, by simpa using hdispatch,
        by simp [PushedConn.acknowledged, hreplies]⟩
  | ended => exact ⟨h.length_le, rfl, by simp, by simp [PushedConn.acknowledged]⟩

/-- A step of the task of one stream. -/
theorem Lawful.conn (h : Lawful cfg s) {k : Nat} {c c' : PushedConn}
    {dials : List (OpenConn × ReverseDispatch)} (hconn : s.conns[k]? = some c)
    (hstep : ConnStep c c' dials) :
    Lawful cfg { s with conns := s.conns.set k c', dialled := s.dialled ++ dials } := by
  have hmem := List.mem_of_getElem? hconn
  obtain ⟨hstage, htable, hdials, hcount⟩ := hstep.lawful (h.stages c hmem)
  refine ⟨h.idle, h.handlers, h.aborted, h.locals, h.answered, ?_, ?_, ?_, ?_, h.opened⟩
  · exact Indexed.forall_mem_set h.tables hconn fun hold => htable ▸ hold
  · exact Indexed.forall_mem_set h.stages hconn fun _ => hstage
  · intro p hp
    rcases List.mem_append.mp hp with hold | hnew
    · exact h.dialled p hold
    · obtain ⟨ids, hids, hremotes⟩ := h.tables c hmem
      exact ⟨ids, hids, hremotes ▸ hdials p hnew⟩
  · have hset := Indexed.countP_set hconn c' PushedConn.acknowledged
    have hcounted := h.counted
    change (s.dialled ++ dials).length = (s.conns.set k c').countP PushedConn.acknowledged
    rw [List.length_append]
    omega

/-- A new stream. -/
theorem Lawful.accept (h : Lawful cfg s) (haccepting : s.accepting = true) :
    Lawful cfg
      { s with conns := s.conns ++ [⟨remotesById s.tunnelIds cfg.remotes, .receiving, []⟩] } := by
  have hconnected : connected s.loop.phase = true := by
    by_contra hidle
    have hnot := (h.idle (by simpa using hidle)).2
    rw [haccepting] at hnot
    cases hnot
  have hids : s.tunnelIds ∈ s.answers := by
    obtain ⟨ids, rest, hanswers⟩ := List.exists_cons_of_ne_nil (h.answered hconnected)
    simp [State.tunnelIds, hanswers]
  refine ⟨h.idle, h.handlers, h.aborted, h.locals, h.answered, ?_, ?_, h.dialled, ?_, h.opened⟩
  · intro c hc
    rcases List.mem_append.mp hc with hold | hnew
    · exact h.tables c hold
    · cases List.mem_singleton.mp hnew
      exact ⟨s.tunnelIds, hids, rfl⟩
  · intro c hc
    rcases List.mem_append.mp hc with hold | hnew
    · exact h.stages c hold
    · cases List.mem_singleton.mp hnew
      exact rfl
  · rw [h.counted, List.countP_append]
    simp [PushedConn.acknowledged]

/-! ## Local tasks -/

variable {dynamic : Option DynamicTarget}

/-- A conn is announced with a target of its own exactly on a SOCKS5 tunnel. -/
theorem LocalTask.opens_isSome (l : LocalTask) (h : l.opens dynamic = true) :
    dynamic.isSome = l.remote.isSocks := by
  unfold LocalTask.opens at h
  split at h
  · rename_i hsocks
    rw [hsocks]
    rfl
  · rename_i hsocks
    rw [hsocks]
    rfl
  · rename_i hsocks
    rw [hsocks]
    rfl
  · cases h

theorem LocalTask.Lawful.afterOpen {answers : List (List UInt64)} {l : LocalTask}
    (h : l.Lawful cfg answers) : l.afterOpen.Lawful cfg answers := by
  unfold LocalTask.afterOpen
  split
  · exact h
  · exact ⟨h.assigned, h.forward, nofun⟩

/-- One more opener is written. -/
theorem Lawful.announce (h : Lawful cfg s) {p : RemoteRequest × OpenConn}
    (hp : s.Assigned cfg p.1 p.2.tunnelId ∧ p.1.direction = .forward ∧
      p.2.dynamic.isSome = p.1.isSocks) :
    ∀ q ∈ s.opened ++ [p], s.Assigned cfg q.1 q.2.tunnelId ∧ q.1.direction = .forward ∧
      q.2.dynamic.isSome = q.1.isSocks := by
  intro q hq
  rcases List.mem_append.mp hq with hold | hnew
  · exact h.opened q hold
  · cases List.mem_singleton.mp hnew
    exact hp

/-- Every step keeps the invariant. -/
theorem Outcome.lawful {s s' : State} (h : Lawful cfg s) (hout : Outcome cfg s s') :
    Lawful cfg s' := by
  cases hout with
  | client a loop hstep =>
      cases a with
      | loop a => exact h.loop (Reconnect.loopStep_cases hstep)
      | ctrlC | stdioDone | abortedDone =>
          rw [spawned_of_sends rfl]
          exact h.keep (by rw [(Reconnect.step_sends rfl hstep).1])
  | handlerDone i =>
      obtain ⟨spawned, hzip, hsub⟩ := h.handlers
      refine h.update ?_ ⟨spawned, hzip, (List.eraseIdx_sublist _ _).trans hsub⟩ (fun _ => .inl)
        h.answered (List.Subset.refl _) rfl rfl rfl rfl
      intro hidle
      obtain ⟨hnone, haccepting⟩ := h.idle hidle
      exact ⟨by simp [hnone], haccepting⟩
  | handlerDropped j =>
      exact h.update h.idle h.handlers (fun _ hp => .inl (List.mem_of_mem_eraseIdx hp)) h.answered
        (List.Subset.refl _) rfl rfl rfl rfl
  | openedStdio remote id hmem hstatic =>
      obtain ⟨hassigned, hdirection⟩ := h.handler hmem
      exact { h with
        opened := h.announce ⟨hassigned, hdirection, by simp [hstatic]⟩ }
  | take remote id hmem =>
      have hforward : s.Assigned cfg remote id ∧ remote.direction = .forward := by
        rcases List.mem_append.mp hmem with hrunning | haborted
        · exact h.handler hrunning
        · exact h.aborted _ haborted
      refine { h with locals := fun l hl => ?_ }
      rcases List.mem_append.mp hl with hold | hnew
      · exact h.locals l hold
      · cases List.mem_singleton.mp hnew
        exact ⟨hforward.1, hforward.2, nofun⟩
  | opened k l dynamic hlocal hopens =>
      have hlawful := h.locals l (List.mem_of_getElem? hlocal)
      exact { h with
        locals := Indexed.forall_mem_set h.locals hlocal fun hold => hold.afterOpen
        opened := h.announce ⟨hlawful.assigned, hlawful.forward, l.opens_isSome hopens⟩ }
  | associate k l hlocal hsocks =>
      exact { h with
        locals := Indexed.forall_mem_set h.locals hlocal fun hold =>
          ⟨hold.assigned, hold.forward, fun _ => hsocks⟩ }
  | localDone k =>
      exact { h with locals := fun l hl => h.locals l (List.mem_of_mem_eraseIdx hl) }
  | accept haccepting => exact h.accept haccepting
  | acceptEnded =>
      exact h.update (fun hidle => ⟨(h.idle hidle).1, rfl⟩) h.handlers (fun _ => .inl) h.answered
        (List.Subset.refl _) rfl rfl rfl rfl
  | conn k c c' dials hconn hstep => exact h.conn hconn hstep

theorem run_lawful {acts : List Action} (hrun : run cfg acts = some s) : Lawful cfg s :=
  Transition.run_invariant (fun _ _ _ h hstep => (step_outcome hstep).lawful h) (init_lawful cfg)
    hrun

/-! ## What the server can make it do -/

/-- What is found by id was declared, whatever the ids are. -/
theorem mem_zip_of_remotesById {ids : List UInt64} {remotes : List RemoteRequest}
    (h : (remotesById ids remotes).lookup id = some remote) : (remote, id) ∈ remotes.zip ids := by
  have hmem := Table.mem_of_collect_lookup h
  rw [← List.zip_swap]
  exact List.mem_map.mpr ⟨(id, remote), hmem, rfl⟩

/-- An accepted opener names a declared reverse remote and fits it. -/
theorem of_acceptReverseConn {ids : List UInt64} {remotes : List RemoteRequest}
    {opener : OpenConn} {d : ReverseDispatch}
    (h : acceptReverseConn (remotesById ids remotes) opener = .ok d) :
    ∃ remote target, (remote, opener.tunnelId) ∈ remotes.zip ids ∧
      remote.direction = .reverse ∧ d.target = some target ∧
      connTarget remote.kind opener.dynamic = some target := by
  unfold acceptReverseConn at h
  split at h
  · cases h
  · rename_i remote hlookup
    obtain ⟨hdirection, hsome⟩ := (resolveReverseDispatch_eq_ok_iff _ _).mp ⟨d, h⟩
    obtain ⟨target, htarget⟩ := Option.isSome_iff_exists.mp hsome
    exact ⟨remote, target, mem_zip_of_remotesById hlookup, hdirection,
      (resolveReverseDispatch_target h).trans htarget, htarget⟩

/-- An opener that carries a target exactly on a SOCKS5 tunnel fits its remote. -/
theorem connTarget_isSome (h : dynamic.isSome = remote.isSocks) :
    (connTarget remote.kind dynamic).isSome = true := by
  unfold RemoteRequest.isSocks at h
  cases hkind : remote.kind <;> rw [hkind] at h <;> cases dynamic <;>
    first | rfl | cases h

theorem Lawful.dials (h : Lawful cfg s) {opener : OpenConn} {d : ReverseDispatch}
    (hmem : (opener, d) ∈ s.dialled) : ∃ remote target,
      s.Assigned cfg remote opener.tunnelId ∧ remote.direction = .reverse ∧
        d.target = some target ∧ connTarget remote.kind opener.dynamic = some target := by
  obtain ⟨ids, hids, hdispatch⟩ := h.dialled _ hmem
  obtain ⟨remote, target, hzip, hfits⟩ := of_acceptReverseConn hdispatch
  exact ⟨remote, target, ⟨ids, hids, hzip⟩, hfits⟩

end ClientSession
end Rusnel
