import Rusnel.Common.UdpTable

/-!
# The idle timeout of a UDP conn

A conn task relays datagrams both ways in two loops of which the first to end
ends the conn.  Only the loop towards the stream has a timer: it starts when the
loop begins to wait for the next datagram of the channel, and the loop that
reads replies neither reads nor restarts it.

The task of a UDP tunnel and the one of a SOCKS5 association have the same loops.
The bytes they move are the subject of {lit}`UdpRelay` and {lit}`UdpStream`; here
a clock is part of the state.

Main results:

- Theorem {lit}`simulates_task`: forgetting the clock and the replies, the task
  is a conn of the table.
- Theorem {lit}`idle_end_iff`: a conn that its timer ends was idle in both
  directions if no reply was read while the timer ran, and if the timer fires when
  it is due, only then.
-/

namespace Rusnel
namespace IdleTimeout

/-! ## The task -/

/-- One second of the clock, which counts nanoseconds. -/
def second : Nat := 1000000000

/-- How long a UDP conn may sit idle. -/
def connIdleTimeout : Nat := 60 * second

/-- Bound on the datagrams waiting for a UDP conn. -/
def connChannelCapacity : Nat := 4096

/-- How long a conn of a SOCKS5 association may sit idle. -/
def socksUdpIdleTimeout : Nat := 60 * second

/-- Bound on the datagrams waiting for a conn of a SOCKS5 association. -/
def socksUdpChannelCapacity : Nat := 4096

/-- The loop from the channel to the stream. -/
inductive LocalToQuic where
  /-- Waiting for a datagram under a timer started at `since`. -/
  | waiting (since : Nat)
  | writing (payload : Datagram)
deriving DecidableEq, Repr

/-- The loop from the stream to the local source. -/
inductive QuicToLocal where
  | reading
  | sending (payload : Datagram)
deriving DecidableEq, Repr

/-- Why a conn ended. -/
inductive Cause where
  /-- The timer ran out. -/
  | idle
  /-- The channel has no sender left. -/
  | senderClosed
  /-- Opening, reading, writing or sending failed. -/
  | failed
deriving DecidableEq, Repr

inductive Phase where
  /-- The stream is opened; neither loop has started. -/
  | opening
  | relaying (out : LocalToQuic) (back : QuicToLocal)
  | ended (cause : Cause) (time : Nat)
deriving DecidableEq, Repr

inductive Direction where
  /-- From the local source. -/
  | outward
  /-- From the stream. -/
  | inward
deriving DecidableEq, Repr

/-- A datagram of the conn and when it passed: when the receive loop handed it
to the conn, or when it was read from the stream. -/
structure Passage where
  direction : Direction
  time : Nat
  payload : Datagram
deriving DecidableEq, Repr

/-- The conn lay idle for `timeout` after this datagram. -/
def Passage.Over (timeout t : Nat) (p : Passage) : Prop :=
  p.time + timeout ≤ t

instance (timeout t : Nat) (p : Passage) : Decidable (p.Over timeout t) :=
  inferInstanceAs (Decidable (_ ≤ _))

/-- A conn task with its channel and its clock. -/
structure UdpTask where
  now : Nat
  queue : List Datagram
  /-- Every sender of the channel is gone. -/
  closed : Bool
  phase : Phase
  /-- The datagrams that passed so far. -/
  passed : List Passage
deriving DecidableEq, Repr

/-- A task that was just spawned. -/
def UdpTask.init : UdpTask where
  now := 0
  queue := []
  closed := false
  phase := .opening
  passed := []

/-- The task is still running. -/
def UdpTask.Open (s : UdpTask) : Prop :=
  ∀ cause time, s.phase ≠ .ended cause time

def UdpTask.pass (s : UdpTask) (direction : Direction) (payload : Datagram) : List Passage :=
  s.passed ++ [⟨direction, s.now, payload⟩]

def UdpTask.finish (s : UdpTask) (cause : Cause) : UdpTask :=
  { s with phase := .ended cause s.now }

inductive Action where
  /-- Time passes. -/
  | elapse (duration : Nat)
  /-- The receive loop hands a datagram to the conn. -/
  | trySend (payload : Datagram)
  /-- The last sender is dropped. -/
  | dropSenders
  | opened (ok : Bool)
  | recv
  | recvNone
  | timeout
  | wrote (ok : Bool)
  | read (payload : Datagram)
  | readFails
  | sent (ok : Bool)
deriving DecidableEq, Repr

/-- One step of a conn task or of what surrounds it. -/
def step (timeout capacity : Nat) (s : UdpTask) : Action → Option UdpTask
  | .elapse duration => some { s with now := s.now + duration }
  | .trySend payload =>
      match s.phase with
      | .ended _ _ => none
      | _ =>
          if s.closed then none
          else
            -- A full channel drops the datagram.
            some { s with
              queue := if s.queue.length < capacity then s.queue ++ [payload] else s.queue
              passed := s.pass .outward payload }
  | .dropSenders => some { s with closed := true }
  | .opened ok =>
      match s.phase with
      | .opening =>
          if ok then some { s with phase := .relaying (.waiting s.now) .reading }
          else some (s.finish .failed)
      | _ => none
  | .recv =>
      match s.phase, s.queue with
      | .relaying (.waiting _) back, payload :: queue =>
          some { s with queue := queue, phase := .relaying (.writing payload) back }
      | _, _ => none
  | .recvNone =>
      match s.phase, s.queue, s.closed with
      | .relaying (.waiting _) _, [], true => some (s.finish .senderClosed)
      | _, _, _ => none
  | .timeout =>
      -- The channel is asked before the timer.
      match s.phase, s.queue, s.closed with
      | .relaying (.waiting since) _, [], false =>
          if since + timeout ≤ s.now then some (s.finish .idle) else none
      | _, _, _ => none
  | .wrote ok =>
      match s.phase with
      | .relaying (.writing payload) back =>
          if ok then
            if payload.length ≤ maxDatagram then
              some { s with phase := .relaying (.waiting s.now) back }
            else none
          else some (s.finish .failed)
      | _ => none
  | .read payload =>
      match s.phase with
      | .relaying out .reading =>
          some { s with
            phase := .relaying out (.sending payload)
            passed := s.pass .inward payload }
      | _ => none
  | .readFails =>
      match s.phase with
      | .relaying _ .reading => some (s.finish .failed)
      | _ => none
  | .sent ok =>
      match s.phase with
      | .relaying out (.sending _) =>
          if ok then some { s with phase := .relaying out .reading }
          else some (s.finish .failed)
      | _ => none

/-- The conn of a UDP tunnel. -/
def runUdpConn : UdpTask → Action → Option UdpTask :=
  step connIdleTimeout connChannelCapacity

/-- The conn of a SOCKS5 association. -/
def runSocksUdpConn : UdpTask → Action → Option UdpTask :=
  step socksUdpIdleTimeout socksUdpChannelCapacity

/-! ## Inversion of a step -/

/-- The outcomes of one step. -/
inductive TaskStep (timeout capacity : Nat) (s : UdpTask) : Action → UdpTask → Prop where
  | elapse (duration : Nat) :
      TaskStep timeout capacity s (.elapse duration) { s with now := s.now + duration }
  | trySend (payload : Datagram) (hopen : s.Open) :
      TaskStep timeout capacity s (.trySend payload)
        { s with
          queue := if s.queue.length < capacity then s.queue ++ [payload] else s.queue
          passed := s.pass .outward payload }
  | dropSenders : TaskStep timeout capacity s .dropSenders { s with closed := true }
  | opened (hphase : s.phase = .opening) :
      TaskStep timeout capacity s (.opened true)
        { s with phase := .relaying (.waiting s.now) .reading }
  | recv (since : Nat) (back : QuicToLocal) (payload : Datagram) (queue : List Datagram)
      (hphase : s.phase = .relaying (.waiting since) back) (hqueue : s.queue = payload :: queue) :
      TaskStep timeout capacity s .recv
        { s with queue := queue, phase := .relaying (.writing payload) back }
  | wrote (payload : Datagram) (back : QuicToLocal)
      (hphase : s.phase = .relaying (.writing payload) back) :
      TaskStep timeout capacity s (.wrote true)
        { s with phase := .relaying (.waiting s.now) back }
  | read (out : LocalToQuic) (payload : Datagram) (hphase : s.phase = .relaying out .reading) :
      TaskStep timeout capacity s (.read payload)
        { s with phase := .relaying out (.sending payload), passed := s.pass .inward payload }
  | sent (out : LocalToQuic) (payload : Datagram)
      (hphase : s.phase = .relaying out (.sending payload)) :
      TaskStep timeout capacity s (.sent true) { s with phase := .relaying out .reading }
  | timedOut (since : Nat) (back : QuicToLocal)
      (hphase : s.phase = .relaying (.waiting since) back) (hqueue : s.queue = [])
      (hdue : since + timeout ≤ s.now) :
      TaskStep timeout capacity s .timeout (s.finish .idle)
  /-- Any other end. -/
  | ended (a : Action) (cause : Cause) (hopen : s.Open) (ha : a ≠ .timeout) :
      TaskStep timeout capacity s a (s.finish cause)

variable {timeout capacity : Nat} {s t : UdpTask} {a : Action}

theorem UdpTask.Open.of_relaying {out : LocalToQuic} {back : QuicToLocal}
    (hphase : s.phase = .relaying out back) : s.Open := by
  simp [UdpTask.Open, hphase]

theorem step_cases (hstep : step timeout capacity s a = some t) :
    TaskStep timeout capacity s a t := by
  cases a with
  | elapse duration =>
      cases hstep
      exact .elapse duration
  | trySend payload =>
      simp only [step] at hstep
      split at hstep
      · cases hstep
      · rename_i hopen
        split at hstep
        · cases hstep
        · cases hstep
          exact .trySend payload hopen
  | dropSenders =>
      cases hstep
      exact .dropSenders
  | opened ok =>
      simp only [step] at hstep
      split at hstep
      · rename_i hphase
        cases ok <;> cases hstep
        · exact .ended _ _ (by simp [UdpTask.Open, hphase]) nofun
        · exact .opened hphase
      · cases hstep
  | recv =>
      simp only [step] at hstep
      split at hstep
      · rename_i hphase hqueue
        cases hstep
        exact .recv _ _ _ _ hphase hqueue
      · cases hstep
  | recvNone =>
      simp only [step] at hstep
      split at hstep
      · rename_i hphase _ _
        cases hstep
        exact .ended _ _ (.of_relaying hphase) nofun
      · cases hstep
  | timeout =>
      simp only [step] at hstep
      split at hstep
      · rename_i hphase hqueue _
        split_ifs at hstep with hdue
        cases hstep
        exact .timedOut _ _ hphase hqueue hdue
      · cases hstep
  | wrote ok =>
      simp only [step] at hstep
      split at hstep
      · rename_i hphase
        split_ifs at hstep with hok
        · cases hstep
          subst hok
          exact .wrote _ _ hphase
        · cases hstep
          exact .ended _ _ (.of_relaying hphase) nofun
      · cases hstep
  | read payload =>
      simp only [step] at hstep
      split at hstep
      · rename_i hphase
        cases hstep
        exact .read _ payload hphase
      · cases hstep
  | readFails =>
      simp only [step] at hstep
      split at hstep
      · rename_i hphase
        cases hstep
        exact .ended _ _ (.of_relaying hphase) nofun
      · cases hstep
  | sent ok =>
      simp only [step] at hstep
      split at hstep
      · rename_i hphase
        cases ok <;> cases hstep
        · exact .ended _ _ (.of_relaying hphase) nofun
        · exact .sent _ _ hphase
      · cases hstep

/-! ## The task as a conn of the table -/

/-- The conn the table sees: its queue is gone once it has ended. -/
def UdpTask.toConn {κ : Type} (key : κ) (s : UdpTask) : UdpTable.Conn κ :=
  match s.phase with
  | .ended _ _ => ⟨key, .ended, []⟩
  | _ => ⟨key, .running, s.queue⟩

theorem UdpTask.Open.toConn {κ : Type} (hopen : s.Open) (key : κ) :
    s.toConn key = ⟨key, .running, s.queue⟩ := by
  unfold UdpTask.toConn
  split
  · rename_i hphase
    exact absurd hphase (hopen _ _)
  · rfl

section Table

open UdpTable (Relay)

variable {κ : Type} [DecidableEq κ] {relay : Relay κ} {n : Nat} {key : κ}

/-- The step of the table that a step of the task is. -/
inductive Shown (capacity : Nat) (relay : Relay κ) (n : Nat) : Action → Relay κ → Prop where
  /-- A datagram is handed over by the receive loop. -/
  | trySend (payload : Datagram) (next : Relay κ)
      (hstep : relay.loop = .sending n payload →
        UdpTable.step capacity relay .trySend = some { next with loop := .receiving }) :
      Shown capacity relay n (.trySend payload) next
  | recv (next : Relay κ) (hstep : UdpTable.step capacity relay (.recv n) = some next) :
      Shown capacity relay n .recv next
  | runEnds (a : Action) (next : Relay κ)
      (hstep : UdpTable.step capacity relay (.runEnds n) = some next) :
      Shown capacity relay n a next
  | hidden (a : Action) : Shown capacity relay n a relay

/-- Forgetting the clock and the replies, a step of the task is a step of its conn
in the table or none at all. -/
theorem simulates_task (htask : relay.tasks[n]? = some (s.toConn key))
    (hstep : step timeout capacity s a = some t) :
    Shown capacity relay n a { relay with tasks := relay.tasks.set n (t.toConn key) } := by
  have hhidden (h : t.toConn key = s.toConn key) :
      Shown capacity relay n a { relay with tasks := relay.tasks.set n (t.toConn key) } := by
    rw [h, Indexed.set_same htask]
    exact .hidden a
  have hends (hopen : s.Open) (h : t.toConn key = ⟨key, .ended, []⟩) :
      Shown capacity relay n a { relay with tasks := relay.tasks.set n (t.toConn key) } := by
    rw [hopen.toConn] at htask
    refine .runEnds a _ ?_
    simp only [UdpTable.step, htask, h]
  cases step_cases hstep with
  | elapse | dropSenders => exact hhidden rfl
  | trySend payload hopen =>
      refine .trySend payload _ fun hloop => ?_
      rw [hopen.toConn] at htask
      have hnext (queue : List Datagram) (passed : List Passage) :
          UdpTask.toConn key { s with queue := queue, passed := passed } =
            ⟨key, .running, queue⟩ := by
        have hopen : UdpTask.Open { s with queue := queue, passed := passed } := hopen
        exact hopen.toConn key
      simp [UdpTable.step, hloop, htask, hnext]
  | opened hphase => exact hhidden (by simp [UdpTask.toConn, hphase])
  | recv since back payload queue hphase hqueue =>
      refine .recv _ ?_
      rw [(UdpTask.Open.of_relaying hphase).toConn, hqueue] at htask
      simp only [UdpTable.step, htask]
      rfl
  | wrote payload back hphase => exact hhidden (by simp [UdpTask.toConn, hphase])
  | read out payload hphase => exact hhidden (by simp [UdpTask.toConn, hphase])
  | sent out payload hphase => exact hhidden (by simp [UdpTask.toConn, hphase])
  | timedOut since back hphase => exact hends (.of_relaying hphase) rfl
  | ended _ cause hopen => exact hends hopen rfl

end Table

/-! ## What the timer has seen -/

/-- Times of a task: the datagrams handed to it had all been handed when its timer
started, unless one is waiting. -/
structure Timed (s : UdpTask) : Prop where
  past : ∀ p ∈ s.passed, p.time ≤ s.now
  waiting : ∀ since back, s.phase = .relaying (.waiting since) back → s.queue = [] →
    ∀ p ∈ s.passed, p.direction = .outward → p.time ≤ since

theorem Timed.init : Timed UdpTask.init where
  past := by simp [UdpTask.init]
  waiting := by simp [UdpTask.init]

/-- A datagram passes now. -/
theorem UdpTask.past_pass {direction : Direction} {payload : Datagram}
    (h : ∀ p ∈ s.passed, p.time ≤ s.now) : ∀ p ∈ s.pass direction payload, p.time ≤ s.now := by
  intro p hp
  rcases List.mem_append.mp hp with hold | hnew
  · exact h p hold
  · rw [List.mem_singleton.mp hnew]

/-- A reply is not a datagram of the local source. -/
theorem UdpTask.outward_of_mem_pass {payload : Datagram} {p : Passage}
    (hp : p ∈ s.pass .inward payload) (hout : p.direction = .outward) : p ∈ s.passed := by
  rcases List.mem_append.mp hp with hold | hnew
  · exact hold
  · rw [List.mem_singleton.mp hnew] at hout
    cases hout

theorem TaskStep.timed (hcapacity : 0 < capacity) (h : Timed s)
    (hstep : TaskStep timeout capacity s a t) : Timed t := by
  cases hstep with
  | elapse duration =>
      exact ⟨fun p hp => (h.past p hp).trans (Nat.le_add_right _ _), h.waiting⟩
  | trySend payload hopen =>
      refine ⟨UdpTask.past_pass h.past, fun since back _ hqueue => ?_⟩
      -- The channel has room for one datagram at least, so it is not empty now.
      cases hold : s.queue with
      | nil => simp [hold, hcapacity] at hqueue
      | cons => simp [hold] at hqueue; split_ifs at hqueue
  | dropSenders => exact ⟨h.past, h.waiting⟩
  | opened hphase | wrote payload back hphase =>
      refine ⟨h.past, fun since back hwaiting _ p hp _ => ?_⟩
      cases hwaiting
      exact h.past p hp
  | recv since back payload queue hphase hqueue => exact ⟨h.past, by simp⟩
  | read out payload hphase =>
      refine ⟨UdpTask.past_pass h.past, fun since back hwaiting hqueue p hp hout => ?_⟩
      cases hwaiting
      exact h.waiting since _ hphase hqueue p (UdpTask.outward_of_mem_pass hp hout) hout
  | sent out payload hphase =>
      refine ⟨h.past, fun since back hwaiting hqueue => ?_⟩
      cases hwaiting
      exact h.waiting since _ hphase hqueue
  | timedOut since back hphase => exact ⟨h.past, by simp [UdpTask.finish]⟩
  | ended _ cause hopen => exact ⟨h.past, by simp [UdpTask.finish]⟩

theorem run_timed (hcapacity : 0 < capacity) {actions : List Action}
    (hrun : Transition.run (step timeout capacity) UdpTask.init actions = some s) : Timed s :=
  Transition.run_invariant (fun _ _ _ hs hstep => (step_cases hstep).timed hcapacity hs) .init hrun

/-! ## While the timer runs -/

/-- What a trace says about the timer that runs: how long it has run, and the replies
that were read since the clock moved on from its start. -/
structure TimerTrace where
  elapsed : Nat
  replies : List Datagram
deriving DecidableEq, Repr

/-- The timer starts with the loops and again whenever a datagram was written. -/
def TimerTrace.observe (w : TimerTrace) : Action → TimerTrace
  | .opened true => ⟨0, []⟩
  | .wrote true => ⟨0, []⟩
  | .elapse duration => { w with elapsed := w.elapsed + duration }
  | .read payload => if w.elapsed = 0 then w else { w with replies := w.replies ++ [payload] }
  | _ => w

def timerTrace (actions : List Action) : TimerTrace :=
  actions.foldl TimerTrace.observe ⟨0, []⟩

theorem timerTrace_concat (actions : List Action) (a : Action) :
    timerTrace (actions ++ [a]) = (timerTrace actions).observe a := by
  simp [timerTrace]

/-- No reply was read after the timer that was started at `since`. -/
def UdpTask.Unanswered (s : UdpTask) (since : Nat) : Prop :=
  ∀ p ∈ s.passed, p.direction = .inward → p.time ≤ since

/-- What the trace says about the timer is so. -/
structure Watched (w : TimerTrace) (s : UdpTask) : Prop where
  elapsed : ∀ since back, s.phase = .relaying (.waiting since) back → s.now = since + w.elapsed
  replies : ∀ since back, s.phase = .relaying (.waiting since) back →
    (w.replies = [] ↔ s.Unanswered since)

/-- A timer that has just been started has seen nothing. -/
theorem Timed.start {back : QuicToLocal} (h : Timed s) :
    Watched ⟨0, []⟩ { s with phase := .relaying (.waiting s.now) back } where
  elapsed := by
    rintro since back ⟨⟩
    rfl
  replies := by
    rintro since back ⟨⟩
    exact iff_of_true rfl fun p hp _ => h.past p hp

/-- Without a timer there is nothing to say about it. -/
theorem Watched.stopped {w : TimerTrace}
    (hphase : ∀ since back, s.phase ≠ .relaying (.waiting since) back) : Watched w s where
  elapsed since back h := absurd h (hphase since back)
  replies since back h := absurd h (hphase since back)

/-- A reply is unnoticed by the timer only at the moment the timer starts. -/
theorem Watched.read {w : TimerTrace} {out : LocalToQuic} {payload : Datagram} (h : Watched w s)
    (hphase : s.phase = .relaying out .reading) :
    Watched (w.observe (.read payload))
      { s with phase := .relaying out (.sending payload), passed := s.pass .inward payload } where
  elapsed since back hwaiting := by
    cases hwaiting
    rw [TimerTrace.observe]
    split <;> exact h.elapsed since _ hphase
  replies since back hwaiting := by
    cases hwaiting
    have hnow := h.elapsed since _ hphase
    have hold := h.replies since _ hphase
    rw [TimerTrace.observe]
    split
    · rename_i hstart
      rw [hold]
      constructor
      · intro hquiet p hp hin
        rcases List.mem_append.mp hp with hp | hp
        · exact hquiet p hp hin
        · rw [List.mem_singleton.mp hp]
          change s.now ≤ since
          omega
      · intro hquiet p hp hin
        exact hquiet p (List.mem_append_left _ hp) hin
    · rename_i hstart
      refine iff_of_false (by simp) fun hquiet => ?_
      have hlate : s.now ≤ since :=
        hquiet ⟨.inward, s.now, payload⟩ (List.mem_append_right _ List.mem_cons_self) rfl
      omega

theorem TaskStep.watched {w : TimerTrace} (h : Watched w s) (htimed : Timed s)
    (hstep : TaskStep timeout capacity s a t) : Watched (w.observe a) t := by
  cases hstep with
  | elapse duration =>
      refine ⟨fun since back hphase => ?_, h.replies⟩
      have hnow := h.elapsed since back hphase
      change s.now + duration = since + (w.elapsed + duration)
      omega
  | trySend payload hopen =>
      refine ⟨h.elapsed, fun since back hphase => ?_⟩
      refine (h.replies since back hphase).trans ⟨fun hquiet p hp hin => ?_,
        fun hquiet p hp hin => hquiet p (List.mem_append_left _ hp) hin⟩
      rcases List.mem_append.mp hp with hp | hp
      · exact hquiet p hp hin
      · rw [List.mem_singleton.mp hp] at hin
        cases hin
  | dropSenders => exact ⟨h.elapsed, h.replies⟩
  | opened hphase => exact htimed.start
  | wrote payload back hphase => exact htimed.start
  | recv since back payload queue hphase hqueue => exact .stopped (by simp)
  | read out payload hphase => exact h.read hphase
  | sent out payload hphase =>
      refine ⟨fun since back hwaiting => ?_, fun since back hwaiting => ?_⟩
      · cases hwaiting
        exact h.elapsed since _ hphase
      · cases hwaiting
        exact h.replies since _ hphase
  | timedOut since back hphase => exact .stopped (by simp [UdpTask.finish])
  | ended _ cause hopen => exact .stopped (by simp [UdpTask.finish])

theorem run_watched (hcapacity : 0 < capacity) {actions : List Action}
    (hrun : Transition.run (step timeout capacity) UdpTask.init actions = some s) :
    Watched (timerTrace actions) s := by
  refine Transition.run_induction (P := fun actions s => Watched (timerTrace actions) s)
    (.stopped (by simp [UdpTask.init])) ?_ hrun
  intro actions a mid s hmid h hstep
  rw [timerTrace_concat]
  exact (step_cases hstep).watched h (run_timed hcapacity hmid)

/-! ## Idle in both directions -/

/-- A timer that fires ends a conn whose local source was silent for as long. -/
theorem timeout_idle_iff (hcapacity : 0 < capacity) {actions : List Action}
    (hrun : Transition.run (step timeout capacity) UdpTask.init actions = some s)
    (hends : step timeout capacity s .timeout = some t) :
    t.phase = .ended .idle s.now ∧ timeout ≤ (timerTrace actions).elapsed ∧
      ((timerTrace actions).replies = [] → ∀ p ∈ t.passed, p.Over timeout s.now) ∧
      ((timerTrace actions).elapsed = timeout → (∀ p ∈ t.passed, p.Over timeout s.now) →
        (timerTrace actions).replies = []) := by
  have htimed := run_timed hcapacity hrun
  have hwatched := run_watched hcapacity hrun
  cases step_cases hends with
  | timedOut since back hphase hqueue hdue =>
      have hnow := hwatched.elapsed since back hphase
      have hreplies := hwatched.replies since back hphase
      refine ⟨rfl, by omega, fun hnone p hp => ?_, fun hprompt hidle => ?_⟩
      · have hstart : p.time ≤ since := by
          cases hdirection : p.direction with
          | outward => exact htimed.waiting since back hphase hqueue p hp hdirection
          | inward => exact hreplies.mp hnone p hp hdirection
        exact (Nat.add_le_add_right hstart timeout).trans hdue
      · refine hreplies.mpr fun p hp _ => ?_
        have hover : p.time + timeout ≤ s.now := hidle p hp
        omega
  | ended _ cause hopen ha => exact absurd rfl ha

/-- When its timer fires, a conn has lain idle for 60 seconds in both directions if no
reply was read while the timer ran, whatever the replies before it was started; and if
the timer fires as soon as it is due, only then.  The local source was silent in any
case. -/
theorem idle_end_iff {conn : UdpTask → Action → Option UdpTask}
    (hconn : conn = runUdpConn ∨ conn = runSocksUdpConn) {actions : List Action} {s t : UdpTask}
    (hrun : Transition.run conn UdpTask.init actions = some s)
    (hends : conn s .timeout = some t) :
    t.phase = .ended .idle s.now ∧ 60 * second ≤ (timerTrace actions).elapsed ∧
      ((timerTrace actions).replies = [] → ∀ p ∈ t.passed, p.Over (60 * second) s.now) ∧
      ((timerTrace actions).elapsed = 60 * second →
        (∀ p ∈ t.passed, p.Over (60 * second) s.now) → (timerTrace actions).replies = []) := by
  rcases hconn with rfl | rfl
  · have hcapacity : 0 < connChannelCapacity := by decide
    exact timeout_idle_iff hcapacity hrun hends
  · have hcapacity : 0 < socksUdpChannelCapacity := by decide
    exact timeout_idle_iff hcapacity hrun hends

/-- A request and its reply, then another request and silence for a minute. -/
def exchange : List Action :=
  [.trySend [1], .opened true, .recv, .wrote true, .elapse second, .read [2], .sent true,
    .trySend [3], .recv, .wrote true, .elapse (60 * second)]

/-- The conn ends a minute after the second request and was idle in between. -/
theorem idle_end_iff_exchange :
    ∃ s t, Transition.run runUdpConn UdpTask.init exchange = some s ∧
      runUdpConn s .timeout = some t ∧ t.phase = .ended .idle (61 * second) ∧
      ∀ p ∈ t.passed, p.Over (60 * second) (61 * second) := by
  have hrun : Transition.run runUdpConn UdpTask.init exchange =
      some ⟨61 * second, [], false, .relaying (.waiting second) .reading,
        [⟨.outward, 0, [1]⟩, ⟨.inward, second, [2]⟩, ⟨.outward, second, [3]⟩]⟩ := by
    decide +kernel
  have hends : runUdpConn ⟨61 * second, [], false, .relaying (.waiting second) .reading,
        [⟨.outward, 0, [1]⟩, ⟨.inward, second, [2]⟩, ⟨.outward, second, [3]⟩]⟩ .timeout =
      some ⟨61 * second, [], false, .ended .idle (61 * second),
        [⟨.outward, 0, [1]⟩, ⟨.inward, second, [2]⟩, ⟨.outward, second, [3]⟩]⟩ := by
    decide +kernel
  obtain ⟨hended, -, hidle, -⟩ := idle_end_iff (.inl rfl) hrun hends
  exact ⟨_, _, hrun, hends, hended, hidle (by decide +kernel)⟩

/-- Replies, each read after a while and sent on. -/
def download : List (Nat × Datagram) → List Action
  | [] => []
  | (duration, payload) :: replies =>
      .elapse duration :: .read payload :: .sent true :: download replies

/-- One request and a download that is still going on a minute later. -/
def longDownload : List Action :=
  [.trySend [1], .opened true, .recv, .wrote true] ++
    download [(30 * second, [2]), (30 * second - 1, [3])] ++ [.elapse 1, .timeout]

/-- Both conns end by their idle timeout one nanosecond after a reply. -/
theorem idle_end_during_download :
    ∃ s, Transition.run runUdpConn UdpTask.init longDownload = some s ∧
      Transition.run runSocksUdpConn UdpTask.init longDownload = some s ∧
      s.phase = .ended .idle (60 * second) ∧
      ⟨.inward, 60 * second - 1, [3]⟩ ∈ s.passed ∧
      ¬∀ p ∈ s.passed, p.Over (60 * second) (60 * second) := by
  refine ⟨⟨60 * second, [], false, .ended .idle (60 * second), [⟨.outward, 0, [1]⟩,
    ⟨.inward, 30 * second, [2]⟩, ⟨.inward, 60 * second - 1, [3]⟩]⟩, ?_⟩
  decide +kernel

end IdleTimeout
end Rusnel
