import Rusnel.Foundation.Transition
import Rusnel.Common.Tunnel

/-!
# The client's reconnect loop

{lit}`run_with_reconnect` connects, runs a connection until it dies and tries
again after a backoff.  Around it run the tasks that ask for a shutdown: the one
that waits for ^C and the stdio tunnels, which ask when they are done.  They talk
over a broadcast channel, where a receiver sees what is sent after it subscribed.
The runtime has several threads, so a message can be sent between any two steps
of the loop.

Main results:

- Definition {lit}`step`: the loop, its selects and the senders.
- Theorem {lit}`loopStep_cases`: the steps of the loop, each with its phase.
- Theorem {lit}`LoopStep.sent_eq`: the loop sends nothing.
- Theorem {lit}`step_sends`: a sender leaves the loop where it is.
-/

namespace Rusnel
namespace Reconnect

/-! ## Backoff -/

/-- The longest {lit}`Duration`, in nanoseconds. -/
def durationMax : Nat :=
  (2 ^ 64 - 1) * 1000000000 + 999999999

/-- A {lit}`std::time::Duration`. -/
structure Duration where
  nanos : Nat
  le_max : nanos ≤ durationMax
deriving DecidableEq, Repr

def Duration.saturatingMul (d : Duration) (k : Nat) : Duration where
  nanos := Nat.min (d.nanos * k) durationMax
  le_max := Nat.min_le_right _ _

def Duration.min (d e : Duration) : Duration :=
  if d.nanos ≤ e.nanos then d else e

/-- Double the backoff up to the cap. -/
def nextBackoff (current maxBackoff : Duration) : Duration :=
  (current.saturatingMul 2).min maxBackoff

structure ReconnectConfig where
  /-- No limit if absent. -/
  maxRetries : Option UInt32
  initialBackoff : Duration
  maxBackoff : Duration
deriving DecidableEq, Repr

/-- Retry for ever, after 200 ms at first and five minutes at most. -/
def ReconnectConfig.default : ReconnectConfig where
  maxRetries := none
  initialBackoff := ⟨200 * 1000000, by decide⟩
  maxBackoff := ⟨300 * 1000000000, by decide⟩

/-- The part of the client's configuration the loop reads. -/
structure ClientConfig where
  remotes : List RemoteRequest
  reconnect : ReconnectConfig
deriving DecidableEq, Repr

/-- {lit}`attempt.saturating_add(1)`. -/
def nextAttempt (attempt : UInt32) : UInt32 :=
  if attempt.toNat + 1 < UInt32.size then attempt + 1 else attempt

/-! ## State -/

/-- A receiver of the shutdown channel, by the number of messages that were sent
before it subscribed. -/
structure Receiver where
  since : Nat
deriving DecidableEq, Repr

/-- Where the loop is.  `rx` is the receiver of the iteration. -/
inductive Phase where
  /-- At the top of the loop, before the receiver is subscribed. -/
  | top
  /-- In the connect select. -/
  | connecting (rx : Receiver)
  /-- In {lit}`run_connection`, waiting for the answer to the hello. -/
  | hello (rx : Receiver)
  /-- Spawning the handlers of the remotes. -/
  | spawning (rx : Receiver) (todo : List RemoteRequest)
  /-- In the main select of {lit}`run_connection`, with a receiver of its own. -/
  | serving (rx main : Receiver)
  /-- Closing the connection after a shutdown message. -/
  | closing
  /-- The iteration is over: give up or back off. -/
  | retrying (rx : Receiver)
  /-- In the backoff select. -/
  | backingOff (rx : Receiver)
  | returned (result : Except String Unit)

/-- The loop and the senders. -/
structure Client where
  phase : Phase
  attempt : UInt32
  backoff : Duration
  /-- Messages sent on the shutdown channel. -/
  sent : Nat
  /-- The ^C task is waiting; it fires once. -/
  ctrlC : Bool
  /-- Stdio tasks that run. -/
  stdioTasks : Nat
  /-- Stdio tasks that were aborted but may be in their last poll. -/
  abortedTasks : Nat

/-- The client as {lit}`run_async` hands over to the loop. -/
def Client.init (cfg : ClientConfig) : Client where
  phase := .top
  attempt := 0
  backoff := cfg.reconnect.initialBackoff
  sent := 0
  ctrlC := true
  stdioTasks := 0
  abortedTasks := 0

/-! ## Steps -/

/-- What the loop does next.  A select is not biased: any of its branches that is
ready can be the one taken. -/
inductive LoopAction where
  | subscribe
  | connected
  | connectFailed
  | helloAnswered (response : SessionHelloResponse)
  /-- The hello could not be exchanged. -/
  | helloFailed
  /-- Spawn the handler of the next remote. -/
  | spawn
  /-- Spawn the accept loop and subscribe for the main select. -/
  | subscribeMain
  | connectionClosed
  /-- The connection is closed, or the wait for it timed out. -/
  | closed
  | retry
  | sleepDone
  /-- The shutdown branch of the select the loop is in. -/
  | shutdown
deriving DecidableEq, Repr

inductive Action where
  | loop (a : LoopAction)
  | ctrlC
  /-- A stdio tunnel is done and its task sends. -/
  | stdioDone
  /-- A stdio task was done after it was aborted and sends all the same. -/
  | abortedDone
deriving DecidableEq, Repr

def Client.subscribe (c : Client) : Receiver where
  since := c.sent

/-- {lit}`recv` is ready.  A receiver that lags gets an error, which ends the
select as well. -/
def Client.ready (c : Client) (rx : Receiver) : Bool :=
  rx.since < c.sent

/-- The tasks of a connection are told to abort. -/
def Client.abortTasks (c : Client) : Client :=
  { c with stdioTasks := 0, abortedTasks := c.abortedTasks + c.stdioTasks }

/-- The spawned task has a sender of its own if the remote is on stdio. -/
def Client.spawn (c : Client) (remote : RemoteRequest) : Client :=
  if remote.direction = .reverse then c
  else if remote.stdio then { c with stdioTasks := c.stdioTasks + 1 }
  else c

/-- Count the attempt, and give up or go to sleep. -/
def Client.retry (cfg : ReconnectConfig) (c : Client) (rx : Receiver) : Client :=
  let attempt := nextAttempt c.attempt
  match cfg.maxRetries with
  | none => { c with attempt := attempt, phase := .backingOff rx }
  | some max =>
      if max < attempt then
        { c with
          attempt := attempt
          phase := .returned (.error ("giving up after " ++ toString (attempt - 1) ++
            " reconnect attempt(s)")) }
      else { c with attempt := attempt, phase := .backingOff rx }

/-- A step of {lit}`run_with_reconnect` and of {lit}`run_connection` in it. -/
def loopStep (cfg : ClientConfig) (c : Client) (a : LoopAction) : Option Client :=
  match c.phase, a with
  | .top, .subscribe => some { c with phase := .connecting c.subscribe }
  | .connecting rx, .connected =>
      some { c with phase := .hello rx, attempt := 0, backoff := cfg.reconnect.initialBackoff }
  | .connecting rx, .connectFailed => some { c with phase := .retrying rx }
  | .connecting rx, .shutdown =>
      if c.ready rx then some { c with phase := .returned (.ok ()) } else none
  | .hello rx, .helloAnswered response =>
      match clientSendSessionHello ⟨cfg.remotes⟩ response with
      | .ok _ => some { c with phase := .spawning rx cfg.remotes }
      | .error _ => some { c with phase := .retrying rx }
  | .hello rx, .helloFailed => some { c with phase := .retrying rx }
  | .spawning rx (remote :: todo), .spawn =>
      some { c.spawn remote with phase := .spawning rx todo }
  | .spawning rx [], .subscribeMain => some { c with phase := .serving rx c.subscribe }
  | .serving _ main, .shutdown => if c.ready main then some { c with phase := .closing } else none
  | .serving rx _, .connectionClosed => some { c.abortTasks with phase := .retrying rx }
  | .closing, .closed => some { c.abortTasks with phase := .returned (.ok ()) }
  | .retrying rx, .retry => some (c.retry cfg.reconnect rx)
  | .backingOff rx, .shutdown =>
      if c.ready rx then some { c with phase := .returned (.ok ()) } else none
  | .backingOff _, .sleepDone =>
      some { c with phase := .top, backoff := nextBackoff c.backoff cfg.reconnect.maxBackoff }
  | _, _ => none

/-- A step of the loop, or a message of one of the senders. -/
def step (cfg : ClientConfig) (c : Client) (a : Action) : Option Client :=
  match a with
  | .loop a => loopStep cfg c a
  | .ctrlC => if c.ctrlC then some { c with ctrlC := false, sent := c.sent + 1 } else none
  | .stdioDone =>
      if 0 < c.stdioTasks then
        some { c with stdioTasks := c.stdioTasks - 1, sent := c.sent + 1 }
      else none
  | .abortedDone =>
      if 0 < c.abortedTasks then
        some { c with abortedTasks := c.abortedTasks - 1, sent := c.sent + 1 }
      else none

abbrev run (cfg : ClientConfig) (c : Client) (acts : List Action) : Option Client :=
  Transition.run (step cfg) c acts

/-! ## Who changes what -/

theorem spawn_sent (c : Client) (remote : RemoteRequest) : (c.spawn remote).sent = c.sent := by
  unfold Client.spawn
  split
  · rfl
  · split <;> rfl

theorem retry_sent (cfg : ReconnectConfig) (c : Client) (rx : Receiver) :
    (c.retry cfg rx).sent = c.sent := by
  unfold Client.retry
  dsimp only
  split
  · rfl
  · split <;> rfl

theorem retry_phase (cfg : ReconnectConfig) (c : Client) (rx : Receiver) :
    (c.retry cfg rx).phase = .backingOff rx ∨
      ∃ result, (c.retry cfg rx).phase = .returned result := by
  unfold Client.retry
  dsimp only
  split
  · exact .inl rfl
  · split
    · exact .inr ⟨_, rfl⟩
    · exact .inl rfl

/-- The steps of the loop, each with the phase it is taken in. -/
inductive LoopStep (cfg : ClientConfig) (c : Client) : LoopAction → Client → Prop where
  | subscribe (hphase : c.phase = .top) :
      LoopStep cfg c .subscribe { c with phase := .connecting c.subscribe }
  | connected (rx : Receiver) (hphase : c.phase = .connecting rx) :
      LoopStep cfg c .connected
        { c with phase := .hello rx, attempt := 0, backoff := cfg.reconnect.initialBackoff }
  | connectFailed (rx : Receiver) (hphase : c.phase = .connecting rx) :
      LoopStep cfg c .connectFailed { c with phase := .retrying rx }
  | connectShutdown (rx : Receiver) (hphase : c.phase = .connecting rx)
      (hready : c.ready rx = true) :
      LoopStep cfg c .shutdown { c with phase := .returned (.ok ()) }
  | helloAccepted (rx : Receiver) (response : SessionHelloResponse) (ids : List UInt64)
      (hphase : c.phase = .hello rx)
      (hids : clientSendSessionHello ⟨cfg.remotes⟩ response = .ok ids) :
      LoopStep cfg c (.helloAnswered response) { c with phase := .spawning rx cfg.remotes }
  | helloRefused (rx : Receiver) (response : SessionHelloResponse) (reason : String)
      (hphase : c.phase = .hello rx)
      (hreason : clientSendSessionHello ⟨cfg.remotes⟩ response = .error reason) :
      LoopStep cfg c (.helloAnswered response) { c with phase := .retrying rx }
  | helloFailed (rx : Receiver) (hphase : c.phase = .hello rx) :
      LoopStep cfg c .helloFailed { c with phase := .retrying rx }
  | spawn (rx : Receiver) (remote : RemoteRequest) (todo : List RemoteRequest)
      (hphase : c.phase = .spawning rx (remote :: todo)) :
      LoopStep cfg c .spawn { c.spawn remote with phase := .spawning rx todo }
  | subscribeMain (rx : Receiver) (hphase : c.phase = .spawning rx []) :
      LoopStep cfg c .subscribeMain { c with phase := .serving rx c.subscribe }
  | mainShutdown (rx main : Receiver) (hphase : c.phase = .serving rx main)
      (hready : c.ready main = true) : LoopStep cfg c .shutdown { c with phase := .closing }
  | connectionClosed (rx main : Receiver) (hphase : c.phase = .serving rx main) :
      LoopStep cfg c .connectionClosed { c.abortTasks with phase := .retrying rx }
  | closed (hphase : c.phase = .closing) :
      LoopStep cfg c .closed { c.abortTasks with phase := .returned (.ok ()) }
  | retry (rx : Receiver) (hphase : c.phase = .retrying rx) :
      LoopStep cfg c .retry (c.retry cfg.reconnect rx)
  | backoffShutdown (rx : Receiver) (hphase : c.phase = .backingOff rx)
      (hready : c.ready rx = true) :
      LoopStep cfg c .shutdown { c with phase := .returned (.ok ()) }
  | sleepDone (rx : Receiver) (hphase : c.phase = .backingOff rx) :
      LoopStep cfg c .sleepDone
        { c with phase := .top, backoff := nextBackoff c.backoff cfg.reconnect.maxBackoff }

theorem loopStep_cases {cfg : ClientConfig} {c c' : Client} {a : LoopAction}
    (h : loopStep cfg c a = some c') : LoopStep cfg c a c' := by
  unfold loopStep at h
  split at h
  case h_1 hphase => cases h; exact .subscribe hphase
  case h_2 rx hphase => cases h; exact .connected rx hphase
  case h_3 rx hphase => cases h; exact .connectFailed rx hphase
  case h_4 rx hphase =>
    split at h <;> cases h
    rename_i hready
    exact .connectShutdown rx hphase hready
  case h_5 rx response hphase =>
    split at h <;> cases h
    · rename_i ids hids
      exact .helloAccepted rx response ids hphase hids
    · rename_i reason hreason
      exact .helloRefused rx response reason hphase hreason
  case h_6 rx hphase => cases h; exact .helloFailed rx hphase
  case h_7 rx remote todo hphase => cases h; exact .spawn rx remote todo hphase
  case h_8 rx hphase => cases h; exact .subscribeMain rx hphase
  case h_9 rx main hphase =>
    split at h <;> cases h
    rename_i hready
    exact .mainShutdown rx main hphase hready
  case h_10 rx main hphase => cases h; exact .connectionClosed rx main hphase
  case h_11 hphase => cases h; exact .closed hphase
  case h_12 rx hphase => cases h; exact .retry rx hphase
  case h_13 rx hphase =>
    split at h <;> cases h
    rename_i hready
    exact .backoffShutdown rx hphase hready
  case h_14 rx hphase => cases h; exact .sleepDone rx hphase
  case h_15 => cases h

theorem LoopStep.sent_eq {cfg : ClientConfig} {c c' : Client} {a : LoopAction}
    (h : LoopStep cfg c a c') : c'.sent = c.sent := by
  cases h with
  | spawn rx remote todo hphase => exact spawn_sent c remote
  | retry rx hphase => exact retry_sent cfg.reconnect c rx
  | _ => rfl

/-- The action is a message of one of the senders. -/
def Action.sends : Action → Bool
  | .loop _ => false
  | .ctrlC => true
  | .stdioDone => true
  | .abortedDone => true

/-- A sender's step adds a message and leaves the loop where it is. -/
theorem step_sends {cfg : ClientConfig} {c c' : Client} {a : Action}
    (ha : a.sends = true) (h : step cfg c a = some c') :
    c'.phase = c.phase ∧ c'.sent = c.sent + 1 := by
  cases a
  case loop => cases ha
  all_goals
    simp only [step, Option.ite_none_right_eq_some, Option.some.injEq] at h
    rw [← h.2]
    exact ⟨rfl, rfl⟩

end Reconnect
end Rusnel
