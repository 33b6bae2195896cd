import Rusnel.Client.Reconnect

/-!
# Retries and backoff

How often the reconnect loop tries again and how long it sleeps in between.  An
observer notes the backoff sleeps of the current streak: those since the start,
or since the last iteration that connected.  Its record is compared with the two
variables of the loop, the number of attempts and the next backoff.

The loop sleeps first and caps afterwards, so the first sleep of a streak is the
initial backoff whatever the cap is.

Main results:

- Theorem {lit}`step_moves`: what a step does to the attempts and the backoff.
- Theorem {lit}`run_retryBudget`: the loop gives up when the budget is spent, and
  only then.
- Theorem {lit}`sleeps_scheduled_iff`: the sleeps follow the documented schedule
  exactly if the initial backoff is within the cap.
-/

namespace Rusnel
namespace Reconnect

/-! ## Settings -/

def Duration.fromSecs (secs : UInt64) : Duration where
  nanos := secs.toNat * 1000000000
  le_max := by
    have hsecs := secs.toNat_lt
    unfold durationMax
    omega

/-- A negative count stands for no limit. -/
def maxRetriesFromCli (raw : Int64) : Except String (Option UInt32) :=
  if raw.toInt < 0 then .ok none
  else if raw.toInt < UInt32.size then .ok (some (.ofNat raw.toInt.toNat))
  else .error ("retry count `" ++ toString raw.toInt ++ "` is too large")

/-- The settings as {lit}`main` builds them from the flags. -/
def ReconnectConfig.fromFlags (maxRetryCount : Int64) (maxRetryInterval : Duration) :
    Except String ReconnectConfig := do
  let maxRetries ← maxRetriesFromCli maxRetryCount
  return { ReconnectConfig.default with maxRetries, maxBackoff := maxRetryInterval }

/-! ## The observer -/

/-- Whether the loop runs, sleeps between two iterations or has returned. -/
inductive Stage where
  | running
  | asleep
  | returned (result : Except String Unit)

def Phase.stage : Phase → Stage
  | .backingOff _ => .asleep
  | .returned result => .returned result
  | _ => .running

/-- A connection starts a new streak; an iteration that goes to sleep adds its
backoff to the streak. -/
def noteSleep (slept : List Duration) (a : Action) (c : Client) : List Duration :=
  match a, c.phase.stage with
  | .loop .connected, _ => []
  | .loop .retry, .asleep => slept ++ [c.backoff]
  | _, _ => slept

/-- The backoff sleeps since the start or the last connection, in order. -/
def sleeps (cfg : ClientConfig) (acts : List Action) : List Duration :=
  Transition.record (step cfg) noteSleep (Client.init cfg) [] acts

/-! ## What a step does to the attempts and the backoff -/

def givingUp (attempts : UInt32) : String :=
  "giving up after " ++ toString attempts ++ " reconnect attempt(s)"

theorem nextAttempt_toNat (attempt : UInt32) :
    (nextAttempt attempt).toNat = min (attempt.toNat + 1) (UInt32.size - 1) := by
  have hlt := attempt.toNat_lt
  unfold nextAttempt
  split
  case isTrue hfits =>
    rw [UInt32.toNat_add, UInt32.toNat_one]
    simp only [UInt32.size] at hfits ⊢
    omega
  case isFalse hmax =>
    simp only [UInt32.size] at hmax ⊢
    omega

theorem retry_cases (cfg : ReconnectConfig) (c : Client) (rx : Receiver) :
    ((∀ m, cfg.maxRetries = some m → (nextAttempt c.attempt).toNat ≤ m.toNat) ∧
      c.retry cfg rx = { c with attempt := nextAttempt c.attempt, phase := .backingOff rx }) ∨
    ∃ m, cfg.maxRetries = some m ∧ m.toNat < (nextAttempt c.attempt).toNat ∧
      c.retry cfg rx = { c with
        attempt := nextAttempt c.attempt
        phase := .returned (.error (givingUp (nextAttempt c.attempt - 1))) } := by
  unfold Client.retry
  cases hmax : cfg.maxRetries with
  | none => exact .inl ⟨nofun, rfl⟩
  | some m =>
      by_cases hspent : m < nextAttempt c.attempt
      · exact .inr ⟨m, rfl, UInt32.lt_iff_toNat_lt.mp hspent, by simp only [if_pos hspent]; rfl⟩
      · refine .inl ⟨?_, by simp only [if_neg hspent]⟩
        rintro _ ⟨⟩
        exact Nat.le_of_not_lt fun hlt => hspent (UInt32.lt_iff_toNat_lt.mpr hlt)

theorem spawn_attempt (c : Client) (remote : RemoteRequest) :
    (c.spawn remote).attempt = c.attempt ∧ (c.spawn remote).backoff = c.backoff := by
  unfold Client.spawn
  split
  · exact ⟨rfl, rfl⟩
  · split <;> exact ⟨rfl, rfl⟩

/-- A step by what it does to the attempts, the backoff and the record. -/
inductive Moves (cfg : ReconnectConfig) (c : Client) (a : Action) (c' : Client) : Prop where
  | quiet (hnote : ∀ slept, noteSleep slept a c' = slept) (hattempt : c'.attempt = c.attempt)
      (hbackoff : c'.backoff = c.backoff) (hstage : c'.phase.stage = c.phase.stage)
  | shutdown (hnote : ∀ slept, noteSleep slept a c' = slept) (hattempt : c'.attempt = c.attempt)
      (hbefore : ∀ result, c.phase.stage ≠ .returned result)
      (hstage : c'.phase.stage = .returned (.ok ()))
  | connected (hnote : ∀ slept, noteSleep slept a c' = []) (hattempt : c'.attempt = 0)
      (hbackoff : c'.backoff = cfg.initialBackoff) (hstage : c'.phase.stage = .running)
  | retry (rx : Receiver) (hphase : c.phase = .retrying rx) (haction : a = .loop .retry)
      (hretry : c' = c.retry cfg rx)
  | awake (hnote : ∀ slept, noteSleep slept a c' = slept) (hattempt : c'.attempt = c.attempt)
      (hbefore : c.phase.stage = .asleep) (hstage : c'.phase.stage = .running)
      (hbackoff : c'.backoff = nextBackoff c.backoff cfg.maxBackoff)

variable {cfg : ClientConfig}

theorem step_moves {c c' : Client} {a : Action} (h : step cfg c a = some c') :
    Moves cfg.reconnect c a c' := by
  cases a with
  | loop a =>
      cases loopStep_cases h with
      | connected rx hphase => exact .connected (fun _ => rfl) rfl rfl rfl
      | retry rx hphase => exact .retry rx hphase rfl rfl
      | sleepDone rx hphase => exact .awake (fun _ => rfl) rfl (by rw [hphase]; rfl) rfl rfl
      | spawn rx remote todo hphase =>
          obtain ⟨hattempt, hbackoff⟩ := spawn_attempt c remote
          exact .quiet (fun _ => rfl) hattempt hbackoff (by rw [hphase]; rfl)
      | connectShutdown _ hphase | closed hphase | backoffShutdown _ hphase =>
          exact .shutdown (fun _ => rfl) rfl (by rw [hphase]; nofun) rfl
      | subscribe hphase | connectFailed _ hphase | helloAccepted _ _ _ hphase
      | helloRefused _ _ _ hphase | helloFailed _ hphase | subscribeMain _ hphase
      | mainShutdown _ _ hphase | connectionClosed _ _ hphase =>
          exact .quiet (fun _ => rfl) rfl rfl (by rw [hphase]; rfl)
  | ctrlC | stdioDone | abortedDone =>
      simp only [step, Option.ite_none_right_eq_some, Option.some.injEq] at h
      rw [← h.2]
      exact .quiet (fun _ => rfl) rfl rfl rfl

/-! ## The retry budget -/

/-- The attempts are the sleeps of the streak, until the loop gives up.  A limit
of {lit}`u32::MAX` is never passed, since the attempts stop there. -/
structure Budget (cfg : ReconnectConfig) (c : Client) (slept : List Duration) : Prop where
  attempt : (∀ e, c.phase.stage ≠ .returned (.error e)) →
    c.attempt.toNat = min slept.length (UInt32.size - 1)
  within : ∀ m, cfg.maxRetries = some m → m.toNat < UInt32.size - 1 → slept.length ≤ m.toNat
  error : ∀ e, c.phase.stage = .returned (.error e) →
    ∃ m, cfg.maxRetries = some m ∧ m.toNat < UInt32.size - 1 ∧ slept.length = m.toNat ∧
      e = givingUp m

theorem Budget.init (cfg : ClientConfig) : Budget cfg.reconnect (Client.init cfg) [] where
  attempt _ := rfl
  within _ _ _ := Nat.zero_le _
  error := nofun

variable {c : Client} {slept : List Duration}

theorem Budget.attempt_retrying {cfg : ReconnectConfig} (h : Budget cfg c slept) {rx : Receiver}
    (hphase : c.phase = .retrying rx) :
    (nextAttempt c.attempt).toNat = min (slept.length + 1) (UInt32.size - 1) := by
  have hattempt := h.attempt (by rw [hphase]; nofun)
  rw [nextAttempt_toNat, hattempt]
  omega

/-- At the end of an iteration: go to sleep if the budget is not spent, and give
up if it is. -/
theorem Budget.retry {cfg : ReconnectConfig} (h : Budget cfg c slept) {rx : Receiver}
    (hphase : c.phase = .retrying rx) :
    ((∀ m, cfg.maxRetries = some m → m.toNat < UInt32.size - 1 → slept.length < m.toNat) ∧
      c.retry cfg rx = { c with attempt := nextAttempt c.attempt, phase := .backingOff rx }) ∨
    ∃ m, cfg.maxRetries = some m ∧ m.toNat < UInt32.size - 1 ∧ slept.length = m.toNat ∧
      c.retry cfg rx = { c with
        attempt := nextAttempt c.attempt, phase := .returned (.error (givingUp m)) } := by
  have hnext := h.attempt_retrying hphase
  rcases retry_cases cfg c rx with ⟨hlimit, hretry⟩ | ⟨m, hmax, hspent, hretry⟩
  · refine .inl ⟨fun m hmax hm => ?_, hretry⟩
    have hle := hlimit m hmax
    omega
  · have hm : m.toNat < UInt32.size - 1 := by omega
    have hwithin := h.within m hmax hm
    have hcount : nextAttempt c.attempt - 1 = m := by
      apply UInt32.toNat.inj
      have hone : (1 : UInt32) ≤ nextAttempt c.attempt := by
        rw [UInt32.le_iff_toNat_le, UInt32.toNat_one]
        omega
      rw [UInt32.toNat_sub_of_le _ _ hone, UInt32.toNat_one]
      omega
    rw [hcount] at hretry
    exact .inr ⟨m, hmax, hm, by omega, hretry⟩

theorem Budget.moves {cfg : ReconnectConfig} {c c' : Client} (h : Budget cfg c slept) {a : Action}
    (hmoves : Moves cfg c a c') : Budget cfg c' (noteSleep slept a c') := by
  cases hmoves with
  | quiet hnote hattempt hbackoff hstage =>
      rw [hnote]
      refine ⟨fun hnoError => ?_, h.within, fun e herror => h.error e (hstage.symm.trans herror)⟩
      rw [hattempt]
      exact h.attempt fun e herror => hnoError e (hstage.trans herror)
  | shutdown hnote hattempt hbefore hstage =>
      rw [hnote]
      refine ⟨fun _ => ?_, h.within, fun e herror => ?_⟩
      · rw [hattempt]
        exact h.attempt fun e => hbefore (.error e)
      · cases hstage.symm.trans herror
  | connected hnote hattempt hbackoff hstage =>
      rw [hnote]
      refine ⟨fun _ => by rw [hattempt]; rfl, fun _ _ _ => Nat.zero_le _, fun e herror => ?_⟩
      cases hstage.symm.trans herror
  | retry rx hphase haction hretry =>
      subst hretry haction
      have hnext := h.attempt_retrying hphase
      rcases h.retry hphase with ⟨hleft, heq⟩ | ⟨m, hmax, hm, hspent, heq⟩
      · rw [heq]
        refine ⟨fun _ => ?_, fun m hmax hm => ?_, nofun⟩
        · simpa [noteSleep, Phase.stage] using hnext
        · have hlt := hleft m hmax hm
          simpa [noteSleep, Phase.stage] using Nat.succ_le_of_lt hlt
      · rw [heq]
        refine ⟨fun hnoError => absurd rfl (hnoError _), h.within, fun e herror => ?_⟩
        cases herror
        exact ⟨m, hmax, hm, hspent, rfl⟩
  | awake hnote hattempt hbefore hstage hbackoff =>
      rw [hnote]
      refine ⟨fun _ => ?_, h.within, fun e herror => ?_⟩
      · rw [hattempt]
        exact h.attempt fun e herror => by cases hbefore.symm.trans herror
      · cases hstage.symm.trans herror

variable {acts : List Action}

theorem run_budget (hrun : run cfg (Client.init cfg) acts = some c) :
    Budget cfg.reconnect c (sleeps cfg acts) :=
  Transition.record_invariant (fun _ _ _ _ h hstep => h.moves (step_moves hstep))
    (Budget.init cfg) hrun

/-- How an iteration ends if nobody asks for a shutdown. -/
inductive Outcome where
  | connectFailed
  /-- It connected, and the connection was lost. -/
  | disconnected
deriving DecidableEq, Repr

/-- One way to each outcome. -/
def Outcome.actions : Outcome → List Action
  | .connectFailed => [.loop .subscribe, .loop .connectFailed]
  | .disconnected => [.loop .subscribe, .loop .connected, .loop .helloFailed]

/-- The sleeps of the streak when an iteration ends, from those when it began. -/
def Outcome.streak (n : Nat) : Outcome → Nat
  | .connectFailed => n
  | .disconnected => 0

/-- Every outcome can be the next one. -/
theorem run_outcome (hrun : run cfg (Client.init cfg) acts = some c) (hphase : c.phase = .top)
    (outcome : Outcome) :
    ∃ c' rx, run cfg c outcome.actions = some c' ∧ c'.phase = .retrying rx ∧
      (sleeps cfg (acts ++ outcome.actions)).length
        = outcome.streak (sleeps cfg acts).length := by
  obtain ⟨phase, attempt, backoff, sent, ctrlC, stdioTasks, abortedTasks⟩ := c
  cases hphase
  rw [sleeps, Transition.record_append hrun]
  cases outcome with
  | connectFailed => exact ⟨_, _, rfl, rfl, rfl⟩
  | disconnected => exact ⟨_, _, rfl, rfl, rfl⟩

/-- The loop gives up at the end of the first iteration that finds the budget
spent, and never without a limit or with the largest one.  Every outcome of an
iteration is possible, and the count in the message does not underflow. -/
theorem run_retryBudget {cfg : ClientConfig} {acts : List Action} {c : Client}
    (hrun : run cfg (Client.init cfg) acts = some c) :
    (∀ m, cfg.reconnect.maxRetries = some m → m.toNat < UInt32.size - 1 →
      (sleeps cfg acts).length ≤ m.toNat ∧
      (∀ rx, c.phase = .retrying rx → ∃ c', step cfg c (.loop .retry) = some c' ∧
        c'.phase = if (sleeps cfg acts).length = m.toNat
          then .returned (.error (givingUp m)) else .backingOff rx) ∧
      ∀ e, c.phase = .returned (.error e) →
        e = givingUp m ∧ (sleeps cfg acts).length = m.toNat) ∧
    (cfg.reconnect.maxRetries = none ∨ cfg.reconnect.maxRetries = some 0xffffffff →
      (∀ rx, c.phase = .retrying rx → ∃ c', step cfg c (.loop .retry) = some c' ∧
        c'.phase = .backingOff rx) ∧
      ∀ e, c.phase ≠ .returned (.error e)) ∧
    (c.phase = .top → ∀ outcome : Outcome, ∃ c' rx, run cfg c outcome.actions = some c' ∧
      c'.phase = .retrying rx ∧
      (sleeps cfg (acts ++ outcome.actions)).length
        = outcome.streak (sleeps cfg acts).length) ∧
    ∀ rx, c.phase = .retrying rx → 1 ≤ nextAttempt c.attempt := by
  have hbudget := run_budget hrun
  have hstep : ∀ rx, c.phase = .retrying rx →
      step cfg c (.loop .retry) = some (c.retry cfg.reconnect rx) := by
    intro rx hphase
    simp only [step, loopStep, hphase]
  have herror : ∀ e, c.phase = .returned (.error e) → ∃ m, cfg.reconnect.maxRetries = some m ∧
      m.toNat < UInt32.size - 1 ∧ (sleeps cfg acts).length = m.toNat ∧ e = givingUp m :=
    fun e hphase => hbudget.error e (by rw [hphase]; rfl)
  refine ⟨fun m hmax hm => ⟨hbudget.within m hmax hm, ?_, ?_⟩, fun hlimit => ?_,
    run_outcome hrun, ?_⟩
  · intro rx hphase
    refine ⟨_, hstep rx hphase, ?_⟩
    rcases hbudget.retry hphase with ⟨hleft, heq⟩ | ⟨m', hmax', _, hspent, heq⟩
    · rw [heq, if_neg (Nat.ne_of_lt (hleft m hmax hm))]
    · cases hmax.symm.trans hmax'
      rw [heq, if_pos hspent]
  · intro e hphase
    obtain ⟨m', hmax', _, hspent, hmessage⟩ := herror e hphase
    cases hmax.symm.trans hmax'
    exact ⟨hmessage, hspent⟩
  · have hunlimited : ∀ m, cfg.reconnect.maxRetries = some m → ¬m.toNat < UInt32.size - 1 := by
      intro m hmax
      rcases hlimit with hnone | hlargest
      · cases hnone.symm.trans hmax
      · cases hlargest.symm.trans hmax
        decide
    refine ⟨fun rx hphase => ⟨_, hstep rx hphase, ?_⟩, fun e hphase => ?_⟩
    · rcases hbudget.retry hphase with ⟨_, heq⟩ | ⟨m, hmax, hm, _⟩
      · rw [heq]
      · exact absurd hm (hunlimited m hmax)
    · obtain ⟨m, hmax, hm, _⟩ := herror e hphase
      exact hunlimited m hmax hm
  · intro rx hphase
    have hnext := hbudget.attempt_retrying hphase
    rw [UInt32.le_iff_toNat_le, hnext, UInt32.toNat_one]
    simp only [UInt32.size]
    omega

/-- One retry: the first failure sleeps, the second gives up. -/
theorem run_retryBudget_once :
    let cfg : ClientConfig := ⟨[], { ReconnectConfig.default with maxRetries := some 1 }⟩
    let acts : List Action := Outcome.connectFailed.actions ++ [.loop .retry, .loop .sleepDone]
      ++ Outcome.connectFailed.actions
    ∃ c, run cfg (Client.init cfg) acts = some c ∧ (sleeps cfg acts).length = 1 ∧
      ∃ c', step cfg c (.loop .retry) = some c' ∧
        c'.phase = .returned (.error "giving up after 1 reconnect attempt(s)") := by
  intro cfg acts
  obtain ⟨c', hstep, hphase⟩ := ((@run_retryBudget cfg acts _ rfl).1 1 rfl
    (by decide)).2.1 ⟨0⟩ rfl
  exact ⟨_, rfl, rfl, c', hstep, hphase⟩

/-! ## The schedule of the sleeps -/

/-- The backoffs of a streak, one after the other. -/
def scheduled (cfg : ReconnectConfig) : Nat → Duration
  | 0 => cfg.initialBackoff
  | k + 1 => nextBackoff (scheduled cfg k) cfg.maxBackoff

theorem min_nanos (d e : Duration) : (d.min e).nanos = min d.nanos e.nanos := by
  unfold Duration.min
  split
  case isTrue hle => exact (Nat.min_eq_left hle).symm
  case isFalse hle => exact (Nat.min_eq_right (Nat.le_of_not_le hle)).symm

/-- The saturation does not show: the cap is a duration too. -/
theorem nextBackoff_nanos (current maxBackoff : Duration) :
    (nextBackoff current maxBackoff).nanos = min (current.nanos * 2) maxBackoff.nanos := by
  have hsaturated : (current.saturatingMul 2).nanos = min (current.nanos * 2) durationMax := rfl
  rw [nextBackoff, min_nanos, hsaturated, Nat.min_assoc,
    Nat.min_eq_right maxBackoff.le_max]

/-- From the second sleep on: doubled and capped.  The cap stays where it is once
it is reached. -/
theorem scheduled_succ_nanos (cfg : ReconnectConfig) (k : Nat) :
    (scheduled cfg (k + 1)).nanos
      = min (cfg.initialBackoff.nanos * 2 ^ (k + 1)) cfg.maxBackoff.nanos := by
  induction k with
  | zero => exact nextBackoff_nanos _ _
  | succ k ih =>
      rw [scheduled, nextBackoff_nanos, ih, Nat.pow_succ 2 (k + 1), ← Nat.mul_assoc]
      omega

/-- The sleeps are the first of the schedule, and the backoff is the next one. -/
structure OnSchedule (cfg : ReconnectConfig) (c : Client) (slept : List Duration) : Prop where
  slept_eq : slept = (List.range slept.length).map (scheduled cfg)
  running : c.phase.stage = .running → c.backoff = scheduled cfg slept.length
  asleep : c.phase.stage = .asleep →
    nextBackoff c.backoff cfg.maxBackoff = scheduled cfg slept.length

theorem OnSchedule.moves {cfg : ReconnectConfig} {c c' : Client} (h : OnSchedule cfg c slept)
    {a : Action} (hmoves : Moves cfg c a c') : OnSchedule cfg c' (noteSleep slept a c') := by
  cases hmoves with
  | quiet hnote hattempt hbackoff hstage =>
      rw [hnote]
      refine ⟨h.slept_eq, fun hrunning => ?_, fun hasleep => ?_⟩
      · rw [hbackoff, h.running (hstage.symm.trans hrunning)]
      · rw [hbackoff, h.asleep (hstage.symm.trans hasleep)]
  | shutdown hnote hattempt hbefore hstage =>
      rw [hnote]
      refine ⟨h.slept_eq, fun hrunning => ?_, fun hasleep => ?_⟩
      · cases hstage.symm.trans hrunning
      · cases hstage.symm.trans hasleep
  | connected hnote hattempt hbackoff hstage =>
      rw [hnote]
      refine ⟨rfl, fun _ => hbackoff, fun hasleep => ?_⟩
      cases hstage.symm.trans hasleep
  | retry rx hphase haction hretry =>
      subst hretry haction
      have hbackoff := h.running (by rw [hphase]; rfl)
      rcases retry_cases cfg c rx with ⟨_, heq⟩ | ⟨m, _, _, heq⟩
      · rw [heq]
        have hnote : noteSleep slept (.loop .retry)
            { c with attempt := nextAttempt c.attempt, phase := .backingOff rx }
            = slept ++ [scheduled cfg slept.length] := by
          rw [← hbackoff]
          rfl
        rw [hnote]
        refine ⟨?_, nofun, fun _ => ?_⟩
        · rw [List.length_append, List.length_singleton, List.range_succ, List.map_append,
            ← h.slept_eq]
          rfl
        · rw [List.length_append, List.length_singleton, scheduled, ← hbackoff]
      · rw [heq]
        exact ⟨h.slept_eq, nofun, nofun⟩
  | awake hnote hattempt hbefore hstage hbackoff =>
      rw [hnote]
      refine ⟨h.slept_eq, fun _ => hbackoff.trans (h.asleep hbefore), fun hasleep => ?_⟩
      cases hstage.symm.trans hasleep

theorem sleeps_eq (hrun : run cfg (Client.init cfg) acts = some c) :
    sleeps cfg acts = (List.range (sleeps cfg acts).length).map (scheduled cfg.reconnect) :=
  have hinit : OnSchedule cfg.reconnect (Client.init cfg) [] := ⟨rfl, fun _ => rfl, nofun⟩
  (Transition.record_invariant (fun _ _ _ _ h hstep => h.moves (step_moves hstep))
    hinit hrun).slept_eq

theorem sleeps_getElem? (hrun : run cfg (Client.init cfg) acts = some c) {k : Nat}
    (hk : k < (sleeps cfg acts).length) :
    (sleeps cfg acts)[k]? = some (scheduled cfg.reconnect k) := by
  rw [sleeps_eq hrun, List.getElem?_map, List.getElem?_range hk]
  rfl

theorem eq_scheduled (hrun : run cfg (Client.init cfg) acts = some c) {k : Nat} {d : Duration}
    (hd : (sleeps cfg acts)[k]? = some d) : d = scheduled cfg.reconnect k := by
  obtain ⟨hk, -⟩ := List.getElem?_eq_some_iff.mp hd
  exact Option.some.inj (hd.symm.trans (sleeps_getElem? hrun hk))

/-- Within the cap the whole schedule has one formula. -/
theorem scheduled_nanos {cfg : ReconnectConfig}
    (hcap : cfg.initialBackoff.nanos ≤ cfg.maxBackoff.nanos) (k : Nat) :
    (scheduled cfg k).nanos = min (cfg.initialBackoff.nanos * 2 ^ k) cfg.maxBackoff.nanos := by
  cases k with
  | zero => rw [scheduled, Nat.pow_zero, Nat.mul_one, Nat.min_eq_left hcap]
  | succ k => exact scheduled_succ_nanos cfg k

theorem scheduled_mono {cfg : ReconnectConfig}
    (hcap : cfg.initialBackoff.nanos ≤ cfg.maxBackoff.nanos) {j k : Nat} (hjk : j ≤ k) :
    (scheduled cfg j).nanos ≤ (scheduled cfg k).nanos := by
  rw [scheduled_nanos hcap, scheduled_nanos hcap]
  have hpow : 2 ^ j ≤ 2 ^ k := Nat.pow_le_pow_right (by decide) hjk
  have hmul := Nat.mul_le_mul_left cfg.initialBackoff.nanos hpow
  omega

/-- The first sleep is the initial backoff, as it is. -/
theorem sleeps_first (hrun : run cfg (Client.init cfg) acts = some c)
    (hslept : sleeps cfg acts ≠ []) : (sleeps cfg acts)[0]? = some cfg.reconnect.initialBackoff :=
  sleeps_getElem? hrun (List.length_pos_iff.mpr hslept)

/-- Within the cap the sleeps never shrink; beyond it the second one does. -/
theorem sleeps_pairwise_iff (hrun : run cfg (Client.init cfg) acts = some c) :
    (sleeps cfg acts).Pairwise (fun d e => d.nanos ≤ e.nanos) ↔
      (sleeps cfg acts).length ≤ 1 ∨
        cfg.reconnect.initialBackoff.nanos ≤ cfg.reconnect.maxBackoff.nanos := by
  constructor
  · intro hpairwise
    rcases Nat.lt_or_ge 1 (sleeps cfg acts).length with hlong | hshort
    · right
      have hfirst := (List.getElem?_eq_some_iff.mp (sleeps_getElem? hrun (by omega : 0 < _))).2
      have hsecond := (List.getElem?_eq_some_iff.mp (sleeps_getElem? hrun hlong)).2
      have hle := List.pairwise_iff_getElem.mp hpairwise 0 1 (by omega) hlong Nat.zero_lt_one
      rw [hfirst, hsecond, scheduled_succ_nanos, scheduled] at hle
      exact Nat.le_trans hle (Nat.min_le_right _ _)
    · exact .inl hshort
  · rintro (hshort | hcap)
    · refine List.pairwise_iff_getElem.mpr fun j k hj hk hjk => ?_
      omega
    · rw [sleeps_eq hrun, List.pairwise_map]
      exact List.pairwise_lt_range.imp fun hjk => scheduled_mono hcap (Nat.le_of_lt hjk)

/-- The sleeps of a streak follow the documented schedule exactly if there are
none or the initial backoff is within the cap.  Then none exceeds the cap and they
never shrink.  From the second sleep on the schedule holds in any case. -/
theorem sleeps_scheduled_iff {cfg : ClientConfig} {acts : List Action} {c : Client}
    (hrun : run cfg (Client.init cfg) acts = some c) :
    let initial := cfg.reconnect.initialBackoff.nanos
    let cap := cfg.reconnect.maxBackoff.nanos
    ((∀ k d, (sleeps cfg acts)[k]? = some d → d.nanos = min (initial * 2 ^ k) cap) ↔
      sleeps cfg acts = [] ∨ initial ≤ cap) ∧
    ((∀ d ∈ sleeps cfg acts, d.nanos ≤ cap) ↔ sleeps cfg acts = [] ∨ initial ≤ cap) ∧
    ((sleeps cfg acts).Pairwise (fun d e => d.nanos ≤ e.nanos) ↔
      (sleeps cfg acts).length ≤ 1 ∨ initial ≤ cap) ∧
    ∀ k d, (sleeps cfg acts)[k + 1]? = some d → d.nanos = min (initial * 2 ^ (k + 1)) cap := by
  intro initial cap
  -- Both the schedule and the cap fail at the first sleep, and only there.
  have hfirst : sleeps cfg acts ≠ [] →
      (∀ d, (sleeps cfg acts)[0]? = some d → d.nanos ≤ cap) → initial ≤ cap :=
    fun hslept hle => hle _ (sleeps_first hrun hslept)
  have hformula : initial ≤ cap → ∀ k d, (sleeps cfg acts)[k]? = some d →
      d.nanos = min (initial * 2 ^ k) cap := by
    intro hcap k d hd
    rw [eq_scheduled hrun hd, scheduled_nanos hcap]
  refine ⟨⟨fun hall => ?_, ?_⟩, ⟨fun hall => ?_, ?_⟩, sleeps_pairwise_iff hrun, ?_⟩
  · refine or_iff_not_imp_left.mpr fun hslept => hfirst hslept fun d hd => ?_
    rw [hall 0 d hd]
    exact Nat.min_le_right _ _
  · rintro (hnone | hcap)
    · intro k d hd
      rw [hnone] at hd
      cases hd
    · exact hformula hcap
  · exact or_iff_not_imp_left.mpr fun hslept => hfirst hslept fun d hd =>
      hall d (List.mem_of_getElem? hd)
  · rintro (hnone | hcap) d hd
    · rw [hnone] at hd
      cases hd
    · obtain ⟨k, hk⟩ := List.mem_iff_getElem?.mp hd
      rw [hformula hcap k d hk]
      exact Nat.min_le_right _ _
  · intro k d hd
    rw [eq_scheduled hrun hd, scheduled_succ_nanos]

/-- With the defaults the second sleep is twice the first. -/
theorem sleeps_scheduled_default :
    let cfg : ClientConfig := ⟨[], .default⟩
    let acts : List Action := Outcome.connectFailed.actions ++ [.loop .retry, .loop .sleepDone]
      ++ Outcome.connectFailed.actions ++ [.loop .retry]
    (sleeps cfg acts).length = 2 ∧
      ∀ k d, (sleeps cfg acts)[k]? = some d → d.nanos = min (200000000 * 2 ^ k) 300000000000 := by
  intro cfg acts
  exact ⟨rfl, (@sleeps_scheduled_iff cfg acts _ rfl).1.mpr (.inr (by decide))⟩

/-- A cap of zero seconds: the loop sleeps 200 ms all the same. -/
theorem sleeps_beyond_cap :
    ∃ cfg : ReconnectConfig, ReconnectConfig.fromFlags (-1) (.fromSecs 0) = .ok cfg ∧
      cfg.maxBackoff.nanos = 0 ∧
      ∃ acts c, run ⟨[], cfg⟩ (Client.init ⟨[], cfg⟩) acts = some c ∧
        (sleeps ⟨[], cfg⟩ acts).map (·.nanos) = [200000000] :=
  ⟨_, rfl, rfl, Outcome.connectFailed.actions ++ [.loop .retry], _, rfl, rfl⟩

end Reconnect
end Rusnel
