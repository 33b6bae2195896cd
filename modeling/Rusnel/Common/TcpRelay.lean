import Rusnel.Foundation.Transition
import Rusnel.Foundation.BufferedCopy

/-!
# The TCP relay

{lit}`tunnel_tcp_stream` joins two copies, one for each direction between a TCP
stream and a QUIC stream.  Each copy runs in a biased select beside a wait for
the shared abort signal, and each closes its writer in a way that depends on how
it ended.  Signalling wakes the waits that exist and is forgotten otherwise.

Main results:

- Theorem {lit}`step_flow`: what a poll of the join does to each direction.
- Theorem {lit}`abort_heard_iff`: a failed direction is always heard by the other
  one exactly if the first poll does not fail in one direction and wait in the
  other.
-/

namespace Rusnel
namespace TcpRelay

open BufferedCopy

/-! ## State -/

/-- The direction of a copy, as the two futures are named. -/
inductive Dir where
  /-- From the TCP stream to the QUIC stream. -/
  | clientToServer
  /-- From the QUIC stream to the TCP stream. -/
  | serverToClient
deriving DecidableEq, Repr

def Dir.other : Dir → Dir
  | .clientToServer => .serverToClient
  | .serverToClient => .clientToServer

@[simp]
theorem Dir.other_other (d : Dir) : d.other.other = d := by
  cases d <;> rfl

/-- There are two directions. -/
theorem Dir.eq_or_eq_other (d e : Dir) : e = d ∨ e = d.other := by
  cases d <;> cases e <;> simp [Dir.other]

/-- How the select of a direction came out. -/
inductive CopyOutcome where
  | eof
  | errored
  | aborted
deriving DecidableEq, Repr

/-- What {lit}`copy_buf` returned, as an outcome. -/
@[simp]
def CopyOutcome.ofEnd : CopyEnd → CopyOutcome
  | .eof => .eof
  | .errored => .errored

/-- What was done to the writer of a direction. -/
inductive Sink where
  | unclosed
  /-- {lit}`shutdown`: a FIN after the bytes written. -/
  | finished
  /-- {lit}`reset`. -/
  | reset
deriving DecidableEq, Repr

/-- How a direction closes its writer. -/
def Dir.closeSink : Dir → CopyOutcome → Sink
  | .clientToServer, .eof => .finished
  | .clientToServer, .errored => .reset
  | .clientToServer, .aborted => .reset
  | .serverToClient, _ => .finished

/-- The future of a direction. -/
inductive Task where
  /-- Not polled: its wait for the abort signal does not exist yet. -/
  | unpolled
  /-- In its select; `notified` if the signal was given since. -/
  | selecting (notified : Bool)
  | done (outcome : CopyOutcome)
deriving DecidableEq, Repr

/-- One direction of the relay. -/
structure Flow where
  copy : Copy UInt8
  task : Task
  sink : Sink
deriving DecidableEq, Repr

/-- The two directions of a relay. -/
structure Relay where
  clientToServer : Flow
  serverToClient : Flow
deriving DecidableEq, Repr

/-- A direction about to start. -/
def Flow.init : Flow where
  copy := Copy.start
  task := .unpolled
  sink := .unclosed

/-- A relay about to be joined. -/
def Relay.init : Relay where
  clientToServer := Flow.init
  serverToClient := Flow.init

def Relay.flow (r : Relay) : Dir → Flow
  | .clientToServer => r.clientToServer
  | .serverToClient => r.serverToClient

def Relay.setFlow (r : Relay) : Dir → Flow → Relay
  | .clientToServer, f => { r with clientToServer := f }
  | .serverToClient, f => { r with serverToClient := f }

/-- The direction that is replaced. -/
@[simp]
theorem flow_setFlow_self (r : Relay) (d : Dir) (f : Flow) : (r.setFlow d f).flow d = f := by
  cases d <;> rfl

/-- Replacing one direction leaves the other. -/
@[simp]
theorem flow_setFlow_other (r : Relay) (d : Dir) (f : Flow) :
    (r.setFlow d f).flow d.other = r.flow d.other := by
  cases d <;> rfl

/-! ## Polling -/

/-- The direction ends with the outcome and closes its writer. -/
def Flow.close (f : Flow) (d : Dir) (outcome : CopyOutcome) : Flow :=
  { f with task := .done outcome, sink := d.closeSink outcome }

/-- The copy branch of the select is polled. -/
def Flow.poll (f : Flow) (d : Dir) (script : List (Io UInt8)) : Flow :=
  match copyBuf f.copy script with
  | (copy, none) => { f with copy := copy, task := .selecting false }
  | (copy, some result) => { f with copy := copy }.close d (.ofEnd result)

/-- A wait for the signal that exists becomes ready. -/
def Flow.notify (f : Flow) : Flow :=
  match f.task with
  | .selecting _ => { f with task := .selecting true }
  | _ => f

/-- {lit}`abort.notify_waiters()`: no permit is stored. -/
def Relay.notifyWaiters (r : Relay) : Relay where
  clientToServer := r.clientToServer.notify
  serverToClient := r.serverToClient.notify

/-- Poll the future of a direction. -/
def Relay.pollDir (r : Relay) (d : Dir) (script : List (Io UInt8)) : Relay :=
  match (r.flow d).task with
  | .done _ => r
  -- The select is biased: a ready signal wins and the copy is not polled.
  | .selecting true => r.setFlow d ((r.flow d).close d .aborted)
  | .unpolled | .selecting false =>
      let r' := r.setFlow d ((r.flow d).poll d script)
      if ((r.flow d).poll d script).task = .done .errored then r'.notifyWaiters else r'

/-- A poll of the join: the direction polled first and what the halves of the two
copies do. -/
structure Action where
  first : Dir
  toServer : List (Io UInt8)
  toClient : List (Io UInt8)
deriving DecidableEq, Repr

def Action.script (a : Action) : Dir → List (Io UInt8)
  | .clientToServer => a.toServer
  | .serverToClient => a.toClient

def Task.isDone : Task → Bool
  | .done _ => true
  | _ => false

/-- A poll of the join.  The first one begins with {lit}`client_to_server`, later
ones with either direction; a join that is complete is not polled. -/
def step (r : Relay) (a : Action) : Option Relay :=
  if r.clientToServer.task.isDone && r.serverToClient.task.isDone then none
  else if r.clientToServer.task = .unpolled ∧ a.first ≠ .clientToServer then none
  else some ((r.pollDir a.first (a.script a.first)).pollDir a.first.other
    (a.script a.first.other))

abbrev run (r : Relay) (acts : List Action) : Option Relay :=
  Transition.run step r acts

/-! ## What a poll does to each direction -/

/-- What polling a direction does to its flow. -/
inductive FlowStep (d : Dir) (script : List (Io UInt8)) (f : Flow) : Flow → Prop where
  | settled (outcome : CopyOutcome) (htask : f.task = .done outcome) : FlowStep d script f f
  | aborted (htask : f.task = .selecting true) : FlowStep d script f (f.close d .aborted)
  | polled (htask : f.task = .unpolled ∨ f.task = .selecting false) :
      FlowStep d script f (f.poll d script)

/-- What polling the other direction does to a flow. -/
def Flow.Heard (f f' : Flow) : Prop :=
  f' = f ∨ f' = f.notify

/-- A signal reaches both directions. -/
@[simp]
theorem flow_notifyWaiters (r : Relay) (d : Dir) :
    r.notifyWaiters.flow d = (r.flow d).notify := by
  cases d <;> rfl

/-- A direction that is done hears nothing. -/
theorem Flow.notify_of_done {f : Flow} {outcome : CopyOutcome} (h : f.task = .done outcome) :
    f.notify = f := by
  simp [Flow.notify, h]

/-- A direction that was never polled has no wait, so the signal is lost. -/
theorem Flow.notify_of_unpolled {f : Flow} (h : f.task = .unpolled) : f.notify = f := by
  simp [Flow.notify, h]

/-- A signal does not touch the copy. -/
theorem Flow.Heard.copy_eq {f f' : Flow} (h : f.Heard f') : f'.copy = f.copy := by
  rcases h with rfl | rfl
  · rfl
  · rcases f with ⟨copy, _ | notified | outcome, sink⟩ <;> rfl

variable {r r' : Relay} {d : Dir}

/-- A future that has returned is not polled again. -/
theorem Relay.pollDir_of_done {outcome : CopyOutcome} (h : (r.flow d).task = .done outcome)
    (script : List (Io UInt8)) : r.pollDir d script = r := by
  simp only [Relay.pollDir, h]

/-- The select is biased: a signal is taken before the copy goes on. -/
theorem Relay.pollDir_of_notified (h : (r.flow d).task = .selecting true)
    (script : List (Io UInt8)) :
    r.pollDir d script = r.setFlow d ((r.flow d).close d .aborted) := by
  simp only [Relay.pollDir, h]

/-- Otherwise the copy is polled, and its failure is signalled. -/
theorem Relay.pollDir_of_ready
    (h : (r.flow d).task = .unpolled ∨ (r.flow d).task = .selecting false)
    (script : List (Io UInt8)) :
    r.pollDir d script =
      if ((r.flow d).poll d script).task = .done .errored then
        (r.setFlow d ((r.flow d).poll d script)).notifyWaiters
      else r.setFlow d ((r.flow d).poll d script) := by
  rcases h with h | h <;> simp only [Relay.pollDir, h]

/-- The three ways a poll of a direction can go. -/
theorem Task.cases_ready (t : Task) :
    (∃ outcome, t = .done outcome) ∨ t = .selecting true ∨
      (t = .unpolled ∨ t = .selecting false) := by
  rcases t with _ | notified | outcome
  · simp
  · cases notified <;> simp
  · simp

/-- What a poll of the copy does to its own direction. -/
theorem Relay.pollDir_ready_self
    (h : (r.flow d).task = .unpolled ∨ (r.flow d).task = .selecting false)
    (script : List (Io UInt8)) : (r.pollDir d script).flow d = (r.flow d).poll d script := by
  rw [Relay.pollDir_of_ready h]
  split
  · rename_i herrored
    rw [flow_notifyWaiters, flow_setFlow_self, Flow.notify_of_done herrored]
  · rw [flow_setFlow_self]

/-- What it does to the other one. -/
theorem Relay.pollDir_ready_other
    (h : (r.flow d).task = .unpolled ∨ (r.flow d).task = .selecting false)
    (script : List (Io UInt8)) :
    (r.pollDir d script).flow d.other =
      if ((r.flow d).poll d script).task = .done .errored then (r.flow d.other).notify
      else r.flow d.other := by
  rw [Relay.pollDir_of_ready h]
  split
  · rw [flow_notifyWaiters, flow_setFlow_other]
  · rw [flow_setFlow_other]

/-- A poll takes a direction one step on. -/
theorem Relay.pollDir_self (r : Relay) (d : Dir) (script : List (Io UInt8)) :
    FlowStep d script (r.flow d) ((r.pollDir d script).flow d) := by
  rcases (r.flow d).task.cases_ready with ⟨outcome, h⟩ | h | h
  · rw [Relay.pollDir_of_done h]
    exact .settled outcome h
  · rw [Relay.pollDir_of_notified h, flow_setFlow_self]
    exact .aborted h
  · rw [Relay.pollDir_ready_self h]
    exact .polled h

/-- The other direction is signalled at most. -/
theorem Relay.pollDir_other (r : Relay) (d : Dir) (script : List (Io UInt8)) :
    (r.flow d.other).Heard ((r.pollDir d script).flow d.other) := by
  rcases (r.flow d).task.cases_ready with ⟨outcome, h⟩ | h | h
  · rw [Relay.pollDir_of_done h]
    exact .inl rfl
  · rw [Relay.pollDir_of_notified h, flow_setFlow_other]
    exact .inl rfl
  · rw [Relay.pollDir_ready_other h]
    split
    · exact .inr rfl
    · exact .inl rfl

variable {a : Action}

/-- A poll of the join polls both directions, the first poll in their order. -/
theorem step_eq_some (h : step r a = some r') :
    (r.clientToServer.task = .unpolled → a.first = .clientToServer) ∧
      r' = (r.pollDir a.first (a.script a.first)).pollDir a.first.other
        (a.script a.first.other) := by
  unfold step at h
  split at h
  · cases h
  · split at h
    · cases h
    · rename_i hfirst
      cases h
      refine ⟨fun hunpolled => ?_, rfl⟩
      by_contra hne
      exact hfirst ⟨hunpolled, hne⟩

/-- In a poll of the join each direction is polled once, and may hear the signal
before or after. -/
theorem step_flow (h : step r a = some r') (d : Dir) :
    ∃ f f', (r.flow d).Heard f ∧ FlowStep d (a.script d) f f' ∧ f'.Heard (r'.flow d) := by
  rw [(step_eq_some h).2]
  rcases a.first.eq_or_eq_other d with rfl | rfl
  · have hlater := (r.pollDir a.first (a.script a.first)).pollDir_other a.first.other
      (a.script a.first.other)
    rw [Dir.other_other] at hlater
    exact ⟨_, _, .inl rfl, r.pollDir_self a.first _, hlater⟩
  · exact ⟨_, _, r.pollDir_other a.first _, Relay.pollDir_self _ a.first.other _, .inl rfl⟩

/-! ## The abort signal -/

/-- The direction has ended, or its wait for the signal is ready. -/
def Task.stops : Task → Bool
  | .done _ => true
  | .selecting notified => notified
  | .unpolled => false

/-- If a direction has failed, the other one has ended or is about to be aborted. -/
def Relay.AbortHeard (r : Relay) : Prop :=
  ∀ d, (r.flow d).task = .done .errored → (r.flow d.other).task.stops = true

/-- Both directions have been polled, or neither. -/
def Relay.Together (r : Relay) : Prop :=
  ∀ d e, (r.flow d).task = .unpolled → (r.flow e).task = .unpolled

/-- The first poll does not fail towards the server and wait towards the client. -/
def FirstPollHeard (r : Relay) (a : Action) : Prop :=
  r.clientToServer.task = .unpolled →
    ¬((copyBuf r.clientToServer.copy a.toServer).2 = some .errored ∧
      (copyBuf r.serverToClient.copy a.toClient).2 = none)

instance (r : Relay) (a : Action) : Decidable (FirstPollHeard r a) :=
  inferInstanceAs (Decidable (_ → ¬_))

/-- Where the future stands after a poll is decided by the copy. -/
theorem Flow.poll_task (f : Flow) (d : Dir) (script : List (Io UInt8)) :
    (f.poll d script).task =
      match (copyBuf f.copy script).2 with
      | none => .selecting false
      | some result => .done (.ofEnd result) := by
  unfold Flow.poll
  split <;> rename_i hcopy <;> rw [hcopy]
  rfl

/-- It has returned exactly if the copy has. -/
theorem Flow.poll_stops (f : Flow) (d : Dir) (script : List (Io UInt8)) :
    (f.poll d script).task.stops = true ↔ (copyBuf f.copy script).2 ≠ none := by
  rw [Flow.poll_task]
  cases (copyBuf f.copy script).2 <;> simp [Task.stops]

/-- It has failed exactly if the copy has. -/
theorem Flow.poll_errored (f : Flow) (d : Dir) (script : List (Io UInt8)) :
    (f.poll d script).task = .done .errored ↔ (copyBuf f.copy script).2 = some .errored := by
  rw [Flow.poll_task]
  rcases (copyBuf f.copy script).2 with _ | ⟨_ | _⟩ <;> simp

/-- A wait that is signalled stops its direction. -/
theorem Flow.notify_stops {f : Flow} (h : f.task ≠ .unpolled) : f.notify.task.stops = true := by
  rcases f with ⟨copy, _ | notified | outcome, sink⟩
  · exact absurd rfl h
  · rfl
  · rfl

/-- A signal polls nothing. -/
theorem Flow.Heard.unpolled_iff {f f' : Flow} (h : f.Heard f') :
    f'.task = .unpolled ↔ f.task = .unpolled := by
  rcases h with rfl | rfl
  · exact Iff.rfl
  · rcases f with ⟨copy, _ | notified | outcome, sink⟩ <;> simp [Flow.notify]

/-- A signal ends nothing by itself. -/
theorem Flow.Heard.done_iff {f f' : Flow} (h : f.Heard f') {outcome : CopyOutcome} :
    f'.task = .done outcome ↔ f.task = .done outcome := by
  rcases h with rfl | rfl
  · exact Iff.rfl
  · rcases f with ⟨copy, _ | notified | outcome, sink⟩ <;> simp [Flow.notify]

/-- After a step a direction was polled. -/
theorem FlowStep.ne_unpolled {script : List (Io UInt8)} {f f' : Flow} (h : FlowStep d script f f') :
    f'.task ≠ .unpolled := by
  cases h with
  | settled outcome htask => simp [htask]
  | aborted htask => simp [Flow.close]
  | polled htask =>
      rw [Flow.poll_task]
      split <;> simp

/-- After a poll of the join no direction is unpolled. -/
theorem step_ne_unpolled (h : step r a = some r') (d : Dir) : (r'.flow d).task ≠ .unpolled := by
  obtain ⟨f, f', _, hpoll, hafter⟩ := step_flow h d
  rw [Ne, hafter.unpolled_iff]
  exact hpoll.ne_unpolled

/-- Once both waits exist, no failure goes unheard. -/
theorem Relay.AbortHeard.pollDir (h : r.AbortHeard) (hpolled : ∀ d, (r.flow d).task ≠ .unpolled)
    (d : Dir) (script : List (Io UInt8)) : (r.pollDir d script).AbortHeard := by
  rcases (r.flow d).task.cases_ready with ⟨outcome, hdone⟩ | hnotified | hready
  · rw [Relay.pollDir_of_done hdone]
    exact h
  · rw [Relay.pollDir_of_notified hnotified]
    intro e he
    rcases d.eq_or_eq_other e with rfl | rfl
    · simp [Flow.close] at he
    · simp [Flow.close, Task.stops]
  · -- The direction is blocked, so by hypothesis the other one has not failed.
    have hother : (r.flow d.other).task ≠ .done .errored := by
      intro herrored
      have hstops := h d.other herrored
      rw [Dir.other_other] at hstops
      rcases hready with hready | hready <;> rw [hready] at hstops <;> cases hstops
    intro e he
    rcases d.eq_or_eq_other e with rfl | rfl
    · rw [Relay.pollDir_ready_self hready] at he
      rw [Relay.pollDir_ready_other hready, if_pos he]
      exact Flow.notify_stops (hpolled _)
    · exact absurd ((r.pollDir_other d script).done_iff.mp he) hother

/-- Once both directions were polled they stay so. -/
theorem Relay.pollDir_ne_unpolled (h : ∀ d, (r.flow d).task ≠ .unpolled) (d : Dir)
    (script : List (Io UInt8)) (e : Dir) : ((r.pollDir d script).flow e).task ≠ .unpolled := by
  rcases d.eq_or_eq_other e with rfl | rfl
  · exact (r.pollDir_self e script).ne_unpolled
  · rw [Ne, (r.pollDir_other d script).unpolled_iff]
    exact h d.other

/-- The directions after the first poll.  The wait of {lit}`server_to_client` is
created only after {lit}`client_to_server` was polled, so it does not hear a
failure of the latter; the other way round the wait exists. -/
theorem first_poll_flows (hclient : r.clientToServer.task = .unpolled)
    (hserver : r.serverToClient.task = .unpolled) (h : step r a = some r') :
    r'.flow .serverToClient = r.serverToClient.poll .serverToClient a.toClient ∧
      r'.flow .clientToServer =
        if (copyBuf r.serverToClient.copy a.toClient).2 = some .errored then
          (r.clientToServer.poll .clientToServer a.toServer).notify
        else r.clientToServer.poll .clientToServer a.toServer := by
  obtain ⟨hfirst, hr'⟩ := step_eq_some h
  rw [hfirst hclient] at hr'
  generalize hmid : r.pollDir .clientToServer (a.script .clientToServer) = mid at hr'
  have hto : mid.flow .clientToServer = r.clientToServer.poll .clientToServer a.toServer := by
    rw [← hmid]
    exact Relay.pollDir_ready_self (d := .clientToServer) (.inl hclient) a.toServer
  have hfrom : mid.flow .serverToClient = r.serverToClient := by
    rw [← hmid]
    rcases r.pollDir_other .clientToServer a.toServer with hkept | hheard
    · exact hkept
    · exact hheard.trans (Flow.notify_of_unpolled hserver)
  have hready : (mid.flow .serverToClient).task = .unpolled ∨
      (mid.flow .serverToClient).task = .selecting false := by
    rw [hfrom]
    exact .inl hserver
  have hself := Relay.pollDir_ready_self hready a.toClient
  have hother := Relay.pollDir_ready_other hready a.toClient
  rw [hfrom] at hself hother
  simp only [Dir.other, hto, Flow.poll_errored] at hother
  rw [hr']
  exact ⟨hself, hother⟩

/-- A failure in the first poll is heard unless it is one towards the server and
the other direction waits. -/
theorem first_poll_heard_iff (hclient : r.clientToServer.task = .unpolled)
    (hserver : r.serverToClient.task = .unpolled) (h : step r a = some r') :
    r'.AbortHeard ↔ FirstPollHeard r a := by
  obtain ⟨hfrom, hto⟩ := first_poll_flows hclient hserver h
  have hheard : (r.clientToServer.poll .clientToServer a.toServer).Heard
      (r'.flow .clientToServer) := by
    rw [hto]
    split
    · exact .inr rfl
    · exact .inl rfl
  constructor
  · rintro hall - ⟨hfails, hwaits⟩
    have hstops := hall .clientToServer
      (hheard.done_iff.mpr ((Flow.poll_errored _ _ _).mpr hfails))
    rw [Dir.other, hfrom, Flow.poll_stops] at hstops
    exact hstops hwaits
  · intro hsafe d hd
    cases d with
    | clientToServer =>
        have hfails := (Flow.poll_errored _ _ _).mp (hheard.done_iff.mp hd)
        rw [Dir.other, hfrom, Flow.poll_stops]
        exact fun hwaits => hsafe hclient ⟨hfails, hwaits⟩
    | serverToClient =>
        rw [hfrom, Flow.poll_errored] at hd
        rw [Dir.other, hto, if_pos hd]
        apply Flow.notify_stops
        rw [Flow.poll_task]
        split <;> simp

/-- A poll keeps every failure heard exactly if it is not a first poll that fails
towards the server and waits towards the client. -/
theorem step_abortHeard_iff (htogether : r.Together) (hheard : r.AbortHeard)
    (h : step r a = some r') : r'.AbortHeard ↔ FirstPollHeard r a := by
  by_cases hunpolled : r.clientToServer.task = .unpolled
  · exact first_poll_heard_iff hunpolled
      (htogether .clientToServer .serverToClient hunpolled) h
  · have hpolled : ∀ d, (r.flow d).task ≠ .unpolled := fun d hd =>
      hunpolled (htogether d .clientToServer hd)
    have hkept : r'.AbortHeard := by
      rw [(step_eq_some h).2]
      exact (hheard.pollDir hpolled _ _).pollDir (Relay.pollDir_ne_unpolled hpolled _ _) _ _
    exact ⟨fun _ hfirst => absurd hfirst hunpolled, fun _ => hkept⟩

/-- Every poll of the join leaves both directions polled. -/
theorem step_together (h : step r a = some r') : r'.Together :=
  fun d _ hd => absurd hd (step_ne_unpolled h d)

/-- In every state of a run a failed direction has been heard by the other one,
exactly if the first poll did not fail towards the server at once while the copy
towards the client had to wait. -/
theorem abort_heard_iff (acts : List Action) (r : Relay) (hrun : run Relay.init acts = some r) :
    Transition.Throughout step Relay.AbortHeard Relay.init acts ↔
      Transition.Guarded step FirstPollHeard Relay.init acts := by
  have htogether : Relay.init.Together := by
    intro d e _
    cases e <;> rfl
  have hheard : Relay.init.AbortHeard := by
    intro d hd
    cases d <;> cases hd
  exact Transition.throughout_iff_guarded (I := Relay.Together)
    (fun _ _ _ _ hstep => step_together hstep)
    (fun _ _ _ htogether hheard hstep => step_abortHeard_iff htogether hheard hstep)
    htogether hheard hrun

/-- A reset in the middle of the stream is heard at once. -/
theorem abort_heard_mid_stream :
    Transition.Throughout step Relay.AbortHeard Relay.init
      [⟨.clientToServer, [.read [104, 105], .write 2], []⟩, ⟨.serverToClient, [.readFailed], []⟩,
        ⟨.clientToServer, [], []⟩] := by
  have hrun : (run Relay.init
      [⟨.clientToServer, [.read [104, 105], .write 2], []⟩, ⟨.serverToClient, [.readFailed], []⟩,
        ⟨.clientToServer, [], []⟩]).isSome = true := by decide +kernel
  have hiff := abort_heard_iff _ _ (Option.some_get hrun).symm
  exact hiff.mpr (by decide +kernel)

/-- The application resets its TCP stream before the first poll: the copy towards
the server fails, the other one starts to wait after the signal was given, and
stays blocked whatever the TCP stream does. -/
theorem first_poll_abort_lost :
    ∃ r, run Relay.init [⟨.clientToServer, [.readFailed], []⟩] = some r ∧
      r.clientToServer.task = .done .errored ∧ r.serverToClient.task = .selecting false ∧
      ¬r.AbortHeard ∧ ∀ first toServer, step r ⟨first, toServer, []⟩ = some r := by
  refine ⟨_, rfl, rfl, rfl, fun h => ?_, fun first toServer => ?_⟩
  · exact Bool.false_ne_true (h .clientToServer rfl)
  · cases first <;> rfl

end TcpRelay
end Rusnel
