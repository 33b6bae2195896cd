import Rusnel.Client.Reconnect

/-!
# Shutdown requests to the client

A shutdown message is heard by the receivers that were subscribed when it was
sent.  The loop subscribes one at its top and one before the main select of a
connection, and drops them on the way; a message can fall between the two.

Main results:

- Theorem {lit}`shutdown_heard_iff`: every message is heard by the selects that
  follow, exactly if none is sent while the next receiver does not exist, and no
  connect or sleep is completed once one was sent.
- Theorem {lit}`shutdown_lost_in_hello`: a ^C during the hello is lost.
-/

namespace Rusnel
namespace Reconnect

variable {cfg : ClientConfig}

/-- The receivers of the select the loop waits in, or of those it can wait in
next; `none` stands for one that is not subscribed yet. -/
def Phase.nextReceivers : Phase → List (Option Receiver)
  | .top => [none]
  | .connecting rx => [some rx]
  -- The main select if the hello is accepted, the backoff select if not.
  | .hello rx => [none, some rx]
  | .spawning _ _ => [none]
  | .serving _ main => [some main]
  | .retrying rx => [some rx]
  | .backingOff rx => [some rx]
  | .closing => []
  | .returned _ => []

/-- Every message was sent after the receiver of the next select subscribed. -/
def Client.Heard (c : Client) : Prop :=
  ∀ message < c.sent, ∀ receiver ∈ c.phase.nextReceivers,
    ∃ rx, receiver = some rx ∧ rx.since ≤ message

/-- The receiver of a select that can come next does not exist. -/
def Phase.deaf : Phase → Bool
  | .top => true
  | .hello _ => true
  | .spawning _ _ => true
  | _ => false

/-- The senders fire only while the loop has subscribed for what comes next, and
a connect or a sleep is completed only as long as nothing was sent. -/
def Attentive (c : Client) (a : Action) : Prop :=
  (a.sends = true → c.phase.deaf = false) ∧
    (a = .loop .connected ∨ a = .loop .sleepDone → c.sent = 0)

instance (c : Client) (a : Action) : Decidable (Attentive c a) :=
  inferInstanceAs (Decidable (_ ∧ _))

/-- The receivers were subscribed in the order of the loop. -/
def Client.Subscribed (c : Client) : Prop :=
  match c.phase with
  | .connecting rx => rx.since ≤ c.sent
  | .hello rx => rx.since ≤ c.sent
  | .spawning rx _ => rx.since ≤ c.sent
  | .serving rx main => rx.since ≤ main.since ∧ main.since ≤ c.sent
  | .retrying rx => rx.since ≤ c.sent
  | .backingOff rx => rx.since ≤ c.sent
  | _ => True

/-! ## Messages -/

theorem Phase.mem_nextReceivers_none (p : Phase) :
    none ∈ p.nextReceivers ↔ p.deaf = true := by
  cases p <;> simp [Phase.nextReceivers, Phase.deaf]

variable {c c' : Client}

theorem Client.Subscribed.since_le (h : c.Subscribed) {rx : Receiver}
    (hrx : some rx ∈ c.phase.nextReceivers) : rx.since ≤ c.sent := by
  unfold Client.Subscribed at h
  cases hphase : c.phase <;> rw [hphase] at h hrx <;> simp [Phase.nextReceivers] at hrx
  all_goals subst hrx
  all_goals first | exact h | exact h.2

/-- A loop that is deaf has heard every message only if there was none. -/
theorem Client.Heard.sent_eq_zero (h : c.Heard) (hdeaf : c.phase.deaf = true) : c.sent = 0 := by
  by_contra hsent
  obtain ⟨rx, hrx, _⟩ := h 0 (Nat.pos_of_ne_zero hsent) none
    (c.phase.mem_nextReceivers_none.mpr hdeaf)
  cases hrx

theorem Client.Heard.of_sent_eq_zero (h : c.sent = 0) : c.Heard := by
  intro message hmessage
  omega

/-- A message is heard exactly if the loop is not deaf. -/
theorem heard_send_iff (hsub : c.Subscribed) (hheard : c.Heard) (hphase : c'.phase = c.phase)
    (hsent : c'.sent = c.sent + 1) : c'.Heard ↔ c.phase.deaf = false := by
  constructor
  · intro hheard'
    by_contra hdeaf
    have hzero := hheard'.sent_eq_zero (by rw [hphase]; simpa using hdeaf)
    omega
  · intro hlistening message hmessage receiver hreceiver
    rw [hphase] at hreceiver
    cases receiver with
    | none =>
        rw [Phase.mem_nextReceivers_none, hlistening] at hreceiver
        cases hreceiver
    | some rx =>
        rcases Nat.lt_or_ge message c.sent with hold | hnew
        · exact hheard message hold _ hreceiver
        · exact ⟨rx, rfl, (hsub.since_le hreceiver).trans hnew⟩

theorem Client.heard_iff_of_deaf (hdeaf : c.phase.deaf = true) : c.Heard ↔ c.sent = 0 :=
  ⟨fun h => h.sent_eq_zero hdeaf, Client.Heard.of_sent_eq_zero⟩

/-! ## Steps of the loop -/

variable {a : LoopAction}

theorem LoopStep.subscribed (h : LoopStep cfg c a c') (hsub : c.Subscribed) : c'.Subscribed := by
  have hsent := h.sent_eq
  unfold Client.Subscribed at hsub ⊢
  cases h with
  | subscribe hphase => exact Nat.le_refl c.sent
  | subscribeMain rx hphase =>
      rw [hphase] at hsub
      exact ⟨hsub, Nat.le_refl c.sent⟩
  | spawn rx remote todo hphase =>
      rw [hphase] at hsub
      rw [hsent]
      exact hsub
  | connectionClosed rx main hphase =>
      rw [hphase] at hsub
      exact hsub.1.trans hsub.2
  | retry rx hphase =>
      rw [hphase] at hsub
      rw [hsent]
      rcases retry_phase cfg.reconnect c rx with hnext | ⟨result, hnext⟩ <;> rw [hnext]
      · exact hsub
      · trivial
  | connected rx hphase | connectFailed rx hphase | helloFailed rx hphase =>
      rw [hphase] at hsub
      exact hsub
  | helloAccepted rx response ids hphase hids =>
      rw [hphase] at hsub
      exact hsub
  | helloRefused rx response reason hphase hreason =>
      rw [hphase] at hsub
      exact hsub
  | _ => trivial

/-- A step of the loop that only drops selects from those that can come next
keeps every message heard. -/
theorem Client.Heard.of_subset (h : c.Heard) (hsent : c'.sent = c.sent)
    (hsub : c'.phase.nextReceivers ⊆ c.phase.nextReceivers) : c'.Heard := by
  intro message hmessage receiver hreceiver
  rw [hsent] at hmessage
  exact h message hmessage receiver (hsub hreceiver)

/-- Where the next select is not one of those before, the step opens a gap or
subscribes anew. -/
theorem LoopStep.nextReceivers_subset (h : LoopStep cfg c a c') (hconnected : a ≠ .connected)
    (hslept : a ≠ .sleepDone) (hclosed : a ≠ .connectionClosed) (hdeaf : c.phase.deaf = false) :
    c'.phase.nextReceivers ⊆ c.phase.nextReceivers := by
  cases h with
  | connected | sleepDone | connectionClosed => contradiction
  | retry rx hphase =>
      rcases retry_phase cfg.reconnect c rx with hnext | ⟨result, hnext⟩ <;>
        simp [hnext, hphase, Phase.nextReceivers]
  | _ => simp_all [Phase.nextReceivers, Phase.deaf]

/-- After the connection was lost the loop is back to the receiver of its
iteration, which is older than the one of the main select. -/
theorem Client.Heard.of_connectionClosed (hsub : c.Subscribed) (h : c.Heard)
    (hsent : c'.sent = c.sent) {rx main : Receiver} (hphase : c.phase = .serving rx main)
    (hphase' : c'.phase = .retrying rx) : c'.Heard := by
  intro message hmessage receiver hreceiver
  rw [hphase'] at hreceiver
  cases List.mem_singleton.mp hreceiver
  have hmain := h message (hsent ▸ hmessage) (some main)
    (by rw [hphase]; exact List.mem_singleton_self _)
  obtain ⟨rx', hrx', hle⟩ := hmain
  cases hrx'
  rw [Client.Subscribed, hphase] at hsub
  exact ⟨rx, rfl, hsub.1.trans hle⟩

/-- A step of the loop that completes no connect and no sleep loses nothing. -/
theorem LoopStep.heard (h : LoopStep cfg c a c') (hsub : c.Subscribed) (hheard : c.Heard)
    (hconnected : a ≠ .connected) (hslept : a ≠ .sleepDone) : c'.Heard := by
  cases hdeaf : c.phase.deaf with
  | true =>
      -- All messages are heard by a receiver that does not exist: there is none.
      apply Client.Heard.of_sent_eq_zero
      rw [h.sent_eq]
      exact hheard.sent_eq_zero hdeaf
  | false =>
      by_cases hclosed : a = .connectionClosed
      · cases h with
        | connectionClosed rx main hphase =>
            exact Client.Heard.of_connectionClosed hsub hheard rfl hphase rfl
        | _ => cases hclosed
      · exact hheard.of_subset h.sent_eq
          (h.nextReceivers_subset hconnected hslept hclosed hdeaf)

/-- A completed connect or sleep leads to where the next receiver does not exist. -/
theorem LoopStep.deaf (h : LoopStep cfg c a c') (ha : a = .connected ∨ a = .sleepDone) :
    c'.phase.deaf = true := by
  cases h with
  | connected | sleepDone => rfl
  | _ => simp at ha

/-- A step keeps every message heard exactly if it is attentive. -/
theorem step_heard_iff {a : Action} (hsub : c.Subscribed) (hheard : c.Heard)
    (h : step cfg c a = some c') : c'.Heard ↔ Attentive c a := by
  cases hsends : a.sends with
  | true =>
      obtain ⟨hphase, hsent⟩ := step_sends hsends h
      rw [heard_send_iff hsub hheard hphase hsent]
      constructor
      · intro hlistening
        refine ⟨fun _ => hlistening, ?_⟩
        rintro (rfl | rfl) <;> cases hsends
      · exact fun hattentive => hattentive.1 hsends
  | false =>
      cases a with
      | loop a =>
          have hstep := loopStep_cases h
          by_cases ha : a = .connected ∨ a = .sleepDone
          · rw [Client.heard_iff_of_deaf (hstep.deaf ha), hstep.sent_eq]
            constructor
            · exact fun hzero => ⟨nofun, fun _ => hzero⟩
            · intro hattentive
              apply hattentive.2
              rcases ha with rfl | rfl <;> simp
          · have hkept := hstep.heard hsub hheard (fun hc => ha (.inl hc)) fun hs => ha (.inr hs)
            refine ⟨fun _ => ⟨nofun, fun hloop => absurd ?_ ha⟩, fun _ => hkept⟩
            simpa using hloop
      | ctrlC | stdioDone | abortedDone => cases hsends

theorem step_subscribed {a : Action} (hsub : c.Subscribed) (h : step cfg c a = some c') :
    c'.Subscribed := by
  cases hsends : a.sends with
  | true =>
      obtain ⟨hphase, hsent⟩ := step_sends hsends h
      unfold Client.Subscribed at hsub ⊢
      rw [hphase, hsent]
      cases hc : c.phase <;> rw [hc] at hsub <;> dsimp only at hsub ⊢ <;> omega
  | false =>
      cases a with
      | loop a => exact (loopStep_cases h).subscribed hsub
      | ctrlC | stdioDone | abortedDone => cases hsends

/-- In every state of a run all messages were sent after the receivers of the
selects that come next had subscribed, exactly if no message was sent at the top
of the loop, during a hello or while handlers were spawned, and no connect or
sleep was completed once a message had been sent. -/
theorem shutdown_heard_iff (cfg : ClientConfig) (acts : List Action) (c : Client)
    (hrun : run cfg (Client.init cfg) acts = some c) :
    Transition.Throughout (step cfg) Client.Heard (Client.init cfg) acts ↔
      Transition.Guarded (step cfg) Attentive (Client.init cfg) acts := by
  have hsub : (Client.init cfg).Subscribed := trivial
  have hheard : (Client.init cfg).Heard := Client.Heard.of_sent_eq_zero rfl
  exact Transition.throughout_iff_guarded (I := Client.Subscribed)
    (fun _ _ _ hsub hstep => step_subscribed hsub hstep)
    (fun _ _ _ hsub hheard hstep => step_heard_iff hsub hheard hstep) hsub hheard hrun

/-- The end of a stdio tunnel is heard in the main select. -/
theorem shutdown_heard_stdio_done :
    Transition.Throughout
      (step ⟨[⟨.forward, .tcp (.v4 ⟨0, 0, 0, 0⟩ 0) ⟨"10.1.1.1", 22⟩, true⟩], .default⟩)
      Client.Heard
      (Client.init ⟨[⟨.forward, .tcp (.v4 ⟨0, 0, 0, 0⟩ 0) ⟨"10.1.1.1", 22⟩, true⟩], .default⟩)
      [.loop .subscribe, .loop .connected, .loop (.helloAnswered (.ok [1])), .loop .spawn,
        .loop .subscribeMain, .stdioDone, .loop .shutdown, .loop .closed] := by
  have hrun : (run ⟨[⟨.forward, .tcp (.v4 ⟨0, 0, 0, 0⟩ 0) ⟨"10.1.1.1", 22⟩, true⟩], .default⟩
      (Client.init ⟨[⟨.forward, .tcp (.v4 ⟨0, 0, 0, 0⟩ 0) ⟨"10.1.1.1", 22⟩, true⟩], .default⟩)
      [.loop .subscribe, .loop .connected, .loop (.helloAnswered (.ok [1])), .loop .spawn,
        .loop .subscribeMain, .stdioDone, .loop .shutdown, .loop .closed]).isSome = true := rfl
  have hiff := shutdown_heard_iff _ _ _ (Option.some_get hrun).symm
  exact hiff.mpr (by decide +kernel)

/-- ^C during the hello.  The message is sent before the main select subscribes:
the client blocks there with nothing to receive, and no second ^C can be sent. -/
theorem shutdown_lost_in_hello :
    ∃ c, run ⟨[.new .forward (.socks5 (.v4 ⟨127, 0, 0, 1⟩ 1080))], .default⟩
        (Client.init ⟨[.new .forward (.socks5 (.v4 ⟨127, 0, 0, 1⟩ 1080))], .default⟩)
        [.loop .subscribe, .loop .connected, .ctrlC, .loop (.helloAnswered (.ok [1])),
          .loop .spawn, .loop .subscribeMain] = some c ∧
      c.phase = .serving ⟨0⟩ ⟨1⟩ ∧ c.sent = 1 ∧ c.ready ⟨1⟩ = false ∧ c.ctrlC = false ∧
      ¬c.Heard := by
  refine ⟨_, rfl, rfl, rfl, rfl, rfl, fun hheard => ?_⟩
  have hmain := hheard 0 (by decide) (some ⟨1⟩) (by decide)
  obtain ⟨rx, hrx, hle⟩ := hmain
  cases hrx
  cases hle

end Reconnect
end Rusnel
