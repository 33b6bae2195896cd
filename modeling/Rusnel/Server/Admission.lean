import Rusnel.Server.Registry

/-!
# Admission of connections

The accept loop of the server with its semaphore.  A permit is taken before the
task of a connection is spawned and belongs to that task: the handler returns by
one of several paths, and only then does the task drop the permit.  Between the
two the session is over and still counts.  The model of the sessions in
{lit}`Server.step` frees the permit in the step that returns; here that is a step
of its own, at any later time.

Main results:

- Theorem {lit}`AcceptLoop.run_lawful`: permits are neither lost nor made up, and a
  registered client has a live task.
- Theorem {lit}`run_admission`: the cap, when a connection is refused, and that the
  capacity comes back.
- Theorem {lit}`run_accepts`: the runs of the sessions' model are runs of this one.
-/

namespace Rusnel
namespace Server

open Net

variable {cfg : ServerConfig}

/-! ## The accept loop -/

/-- The task of an admitted connection. -/
structure ClientTask where
  session : Session
  /-- It was spawned with a permit. -/
  permit : Bool
  /-- The handler has returned and the permit was dropped. -/
  done : Bool

structure AcceptLoop where
  /-- Client ids drawn so far.  An id is this number modulo `2 ^ 64`. -/
  clientCounter : Nat
  /-- Permits of the semaphore that are available, if there is a cap. -/
  limiter : Option Nat
  state : ServerState
  tasks : List ClientTask

inductive AcceptAction where
  /-- A connection attempt from this address. -/
  | incoming (remote : SocketAddr)
  /-- A step of the handler in task `c`. -/
  | session (c : Nat) (a : SessionAction)
  /-- Task `c` drops its permit behind the handler. -/
  | finish (c : Nat)
deriving DecidableEq, Repr

variable {loop : AcceptLoop} {task : ClientTask} {c : Nat} {loop' : AcceptLoop}

namespace AcceptLoop

def init (cfg : ServerConfig) : AcceptLoop where
  clientCounter := 0
  limiter := cfg.maxConnections
  state := .new
  tasks := []

/-- Spawn the task of a connection that has drawn the next client id. -/
def spawn (loop : AcceptLoop) (remote : SocketAddr) (permit : Bool) : AcceptLoop :=
  let client : ClientEntry := ⟨.ofNat (loop.clientCounter + 1), remote, loop.tasks.length⟩
  { loop with
    clientCounter := loop.clientCounter + 1
    tasks := loop.tasks ++ [⟨.new client, permit, false⟩] }

def step (cfg : ServerConfig) (loop : AcceptLoop) : AcceptAction → Option AcceptLoop
  | .incoming remote =>
      match loop.limiter with
      | none => some (loop.spawn remote false)
      -- Refused, after it has drawn its client id.
      | some 0 => some { loop with clientCounter := loop.clientCounter + 1 }
      | some (available + 1) => some { loop.spawn remote true with limiter := some available }
  | .session c a =>
      match loop.tasks[c]? with
      | none => none
      | some task =>
          (stepSession cfg loop.state task.session a).map fun (state, session) =>
            { loop with
              state := state
              tasks := loop.tasks.set c { task with session := session } }
  | .finish c =>
      match loop.tasks[c]? with
      | none => none
      | some task =>
          if task.done = false ∧ task.session.phase = .returned then
            some { loop with
              limiter := if task.permit then loop.limiter.map (· + 1) else loop.limiter
              tasks := loop.tasks.set c { task with done := true } }
          else none

abbrev run (cfg : ServerConfig) (acts : List AcceptAction) : Option AcceptLoop :=
  Transition.run (step cfg) (init cfg) acts

/-- Sessions past admission: tasks that have not dropped their permit. -/
def live (loop : AcceptLoop) : Nat :=
  loop.tasks.countP fun task => !task.done

/-- The steps of the accept loop and its tasks. -/
inductive Step (cfg : ServerConfig) (loop : AcceptLoop) : AcceptAction → AcceptLoop → Prop where
  | uncapped (remote : SocketAddr) (hlimiter : loop.limiter = none) :
      Step cfg loop (.incoming remote) (loop.spawn remote false)
  | refused (remote : SocketAddr) (hlimiter : loop.limiter = some 0) :
      Step cfg loop (.incoming remote) { loop with clientCounter := loop.clientCounter + 1 }
  | admitted (remote : SocketAddr) (available : Nat)
      (hlimiter : loop.limiter = some (available + 1)) :
      Step cfg loop (.incoming remote) { loop.spawn remote true with limiter := some available }
  | session (c : Nat) (a : SessionAction) (task : ClientTask) (state : ServerState)
      (session : Session) (htask : loop.tasks[c]? = some task)
      (hact : SessionStep cfg loop.state task.session a state session) :
      Step cfg loop (.session c a)
        { loop with state := state, tasks := loop.tasks.set c { task with session := session } }
  | finish (c : Nat) (task : ClientTask) (htask : loop.tasks[c]? = some task)
      (hdone : task.done = false) (hphase : task.session.phase = .returned) :
      Step cfg loop (.finish c)
        { loop with
          limiter := if task.permit then loop.limiter.map (· + 1) else loop.limiter
          tasks := loop.tasks.set c { task with done := true } }

theorem step_cases {a : AcceptAction} (h : step cfg loop a = some loop') :
    Step cfg loop a loop' := by
  cases a with
  | incoming remote =>
      simp only [step] at h
      split at h <;> cases h
      case h_1 hlimiter => exact .uncapped remote hlimiter
      case h_2 hlimiter => exact .refused remote hlimiter
      case h_3 available hlimiter => exact .admitted remote available hlimiter
  | session c a =>
      simp only [step] at h
      split at h
      case h_1 => cases h
      case h_2 task htask =>
        obtain ⟨⟨state, session⟩, hact, rfl⟩ := Option.map_eq_some_iff.mp h
        exact .session c a task state session htask (stepSession_cases hact)
  | finish c =>
      simp only [step] at h
      split at h
      case h_1 => cases h
      case h_2 task htask =>
        rw [Option.ite_none_right_eq_some] at h
        obtain ⟨⟨hdone, hphase⟩, hloop⟩ := h
        cases hloop
        exact .finish c task htask hdone hphase

/-! ## Permits -/

/-- Permits are with live tasks or available. -/
structure Conserved (n : Nat) (loop : AcceptLoop) : Prop where
  permits : ∃ available, loop.limiter = some available ∧ loop.live + available = n
  held : ∀ task ∈ loop.tasks, task.permit = true

theorem live_spawn (loop : AcceptLoop) (remote : SocketAddr) (permit : Bool) :
    (loop.spawn remote permit).live = loop.live + 1 := by
  rw [live, spawn, List.countP_append]
  rfl

theorem live_session (htask : loop.tasks[c]? = some task) (state : ServerState)
    (session : Session) :
    AcceptLoop.live
      { loop with state := state, tasks := loop.tasks.set c { task with session := session } }
      = loop.live :=
  Nat.add_right_cancel (Indexed.countP_set htask { task with session := session } _)

theorem live_finish (htask : loop.tasks[c]? = some task) (hdone : task.done = false) :
    (loop.tasks.set c { task with done := true }).countP (fun task => !task.done) + 1
      = loop.live := by
  have hcount := Indexed.countP_set htask { task with done := true } fun task => !task.done
  rw [hdone] at hcount
  exact hcount

theorem Conserved.step {n : Nat} {a : AcceptAction} (h : loop.Conserved n)
    (hstep : Step cfg loop a loop') : loop'.Conserved n := by
  obtain ⟨k, hk, hsum⟩ := h.permits
  cases hstep with
  | uncapped remote hlimiter => cases hlimiter.symm.trans hk
  | refused remote hlimiter => exact ⟨h.permits, h.held⟩
  | admitted remote available hlimiter =>
      cases hlimiter.symm.trans hk
      refine ⟨⟨available, rfl, ?_⟩, ?_⟩
      · have hlive : AcceptLoop.live { loop.spawn remote true with limiter := some available }
            = loop.live + 1 := live_spawn loop remote true
        omega
      · intro task htask
        rcases List.mem_append.mp htask with hold | hnew
        · exact h.held task hold
        · cases List.mem_singleton.mp hnew
          rfl
  | session c a task state session htask hact =>
      refine ⟨⟨k, hk, by rw [live_session htask, hsum]⟩, ?_⟩
      exact Indexed.forall_mem_set h.held htask fun hpermit => hpermit
  | finish c task htask hdone hphase =>
      have hpermit := h.held task (List.mem_of_getElem? htask)
      have hlive := live_finish htask hdone
      refine ⟨⟨k + 1, ?_, ?_⟩, Indexed.forall_mem_set h.held htask fun hpermit => hpermit⟩
      · simp only [hpermit, hk, if_true, Option.map_some]
      · rw [← hsum, ← hlive]
        exact Nat.succ_add_eq_add_succ _ k |>.symm

end AcceptLoop

/-! ## Registered clients -/

/-- The handler has registered its client and not yet taken it out. -/
def Phase.registered : Phase → Bool
  | .handshake | .returned => false
  | _ => true

variable {a : SessionAction}

/-- A handler that has registered its client goes on, or takes it out. -/
theorem SessionStep.registered_or_deregister {st st' : ServerState} {s s' : Session}
    (hact : SessionStep cfg st s a st' s') (hs : s.phase.registered = true) :
    s'.phase.registered = true ∨ ∃ reason, st' = st.deregisterClient s.client.id reason := by
  cases hact
  case handshakeFailed hphase =>
    rw [hphase] at hs
    cases hs
  case deregister reason hphase => exact .inr ⟨reason, rfl⟩
  case openRefused | openConn | replyOpenConn | replyOpenConnFailed | connDone | listenerDone =>
    exact .inl hs
  all_goals exact .inl rfl

namespace AcceptLoop

/-- A registered client has a live task whose handler has not taken it out. -/
structure Registered (loop : AcceptLoop) : Prop where
  client : ∀ id client, loop.state.clients.lookup id = some client →
    ∃ (c : Nat) (task : ClientTask), loop.tasks[c]? = some task ∧
      task.session.client.id = id ∧ task.done = false ∧ task.session.phase.registered = true
  returned : ∀ task ∈ loop.tasks, task.done = true → task.session.phase = .returned

theorem Registered.init (cfg : ServerConfig) : (init cfg).Registered := by
  constructor <;> simp [AcceptLoop.init, ServerState.new]

theorem Registered.spawn (h : loop.Registered) (remote : SocketAddr) (permit : Bool) :
    (loop.spawn remote permit).Registered where
  client id client hclient := by
    obtain ⟨c, task, htask, hfacts⟩ := h.client id client hclient
    exact ⟨c, task, Indexed.getElem?_of_prefix (List.prefix_append _ _) htask, hfacts⟩
  returned task htask hdone := by
    rcases List.mem_append.mp htask with hold | hnew
    · exact h.returned task hold hdone
    · cases List.mem_singleton.mp hnew
      cases hdone

theorem Registered.session (h : loop.Registered) {state : ServerState} {session : Session}
    (htask : loop.tasks[c]? = some task)
    (hact : SessionStep cfg loop.state task.session a state session) :
    Registered
      { loop with state := state, tasks := loop.tasks.set c { task with session := session } } := by
  have hreturned : task.done = true → session.phase = .returned := by
    intro hdone
    by_contra hphase
    exact hact.effect.not_returned hphase (h.returned task (List.mem_of_getElem? htask) hdone)
  constructor
  case client =>
    intro id client hclient
    rcases hact.effect.clients hclient with hwas | ⟨rfl, hid, hhello⟩
    · obtain ⟨k, other, hother, rfl, hlive, hregistered⟩ := h.client id client hwas
      by_cases hk : c = k
      · subst hk
        cases htask.symm.trans hother
        rcases hact.registered_or_deregister hregistered with hstays | ⟨reason, rfl⟩
        · exact ⟨c, _, Indexed.getElem?_set_same htask, by rw [← hact.client], hlive, hstays⟩
        · rw [ServerState.deregisterClient_clients, AList.lookup_erase] at hclient
          cases hclient
      · exact ⟨k, other, (List.getElem?_set_ne hk).trans hother, rfl, hlive, hregistered⟩
    · have hlive : task.done = false := by
        refine Bool.eq_false_iff.mpr fun hdone => ?_
        cases hhello.symm.trans (hreturned hdone)
      refine ⟨c, _, Indexed.getElem?_set_same htask, ?_, hlive, by rw [hhello]; rfl⟩
      rw [← hid, ← hact.client]
  case returned => exact Indexed.forall_mem_set h.returned htask fun _ => hreturned

theorem Registered.finish (h : loop.Registered) (htask : loop.tasks[c]? = some task)
    (hphase : task.session.phase = .returned) (limiter : Option Nat) :
    Registered
      { loop with limiter := limiter, tasks := loop.tasks.set c { task with done := true } } where
  client id client hclient := by
    obtain ⟨k, other, hother, hid, hlive, hregistered⟩ := h.client id client hclient
    have hne : c ≠ k := by
      rintro rfl
      cases htask.symm.trans hother
      rw [hphase] at hregistered
      cases hregistered
    exact ⟨k, other, (List.getElem?_set_ne hne).trans hother, hid, hlive, hregistered⟩
  returned := Indexed.forall_mem_set h.returned htask fun _ _ => hphase

theorem Registered.step {a : AcceptAction} (h : loop.Registered) (hstep : Step cfg loop a loop') :
    loop'.Registered := by
  cases hstep with
  | uncapped remote hlimiter => exact h.spawn remote false
  | refused remote hlimiter => exact ⟨h.client, h.returned⟩
  | admitted remote available hlimiter =>
      have hspawn := h.spawn remote true
      exact ⟨hspawn.client, hspawn.returned⟩
  | session c a task state session htask hact => exact h.session htask hact
  | finish c task htask hdone hphase => exact h.finish htask hphase _

/-- There are at most as many registered clients as live tasks. -/
theorem Registered.length_le (h : loop.Registered) :
    loop.state.clients.keys.length ≤ loop.live := by
  let ids := (loop.tasks.filter fun task => !task.done).map fun task => task.session.client.id
  have hsubset : loop.state.clients.keys ⊆ ids := by
    intro id hid
    obtain ⟨client, hclient⟩ := Option.isSome_iff_exists.mp
      (AList.lookup_isSome.mpr (AList.mem_keys.mpr hid))
    obtain ⟨c, task, htask, rfl, hdone, _⟩ := h.client id client hclient
    refine List.mem_map.mpr ⟨task, List.mem_filter.mpr ⟨List.mem_of_getElem? htask, ?_⟩, rfl⟩
    rw [hdone]
    rfl
  have hle := (List.subperm_of_subset loop.state.clients.keys_nodup hsubset).length_le
  rwa [List.length_map, ← List.countP_eq_length_filter] at hle

theorem run_lawful {n : Nat} (hcap : cfg.maxConnections = some n) {acts : List AcceptAction}
    (hrun : run cfg acts = some loop) : loop.Conserved n ∧ loop.Registered := by
  have hinit : (init cfg).Conserved n :=
    ⟨⟨n, hcap, Nat.zero_add n⟩, fun _ htask => absurd htask List.not_mem_nil⟩
  refine Transition.run_invariant (P := fun loop => loop.Conserved n ∧ loop.Registered)
    ?_ ⟨hinit, .init cfg⟩ hrun
  intro loop a loop' ⟨hconserved, hregistered⟩ hstep
  exact ⟨hconserved.step (step_cases hstep), hregistered.step (step_cases hstep)⟩

/-- What becomes of an attempt is decided by the number of live sessions. -/
theorem Conserved.incoming {n : Nat} (h : loop.Conserved n) (cfg : ServerConfig)
    (remote : SocketAddr) :
    ∃ loop', loop.step cfg (.incoming remote) = some loop' ∧ loop'.state = loop.state ∧
      (loop.live = n ∧ loop' = { loop with clientCounter := loop.clientCounter + 1 } ∨
        loop.live < n ∧ loop'.live = loop.live + 1) := by
  obtain ⟨available, hlimiter, hsum⟩ := h.permits
  cases available with
  | zero =>
      refine ⟨{ loop with clientCounter := loop.clientCounter + 1 }, ?_, rfl, .inl ⟨hsum, rfl⟩⟩
      simp only [AcceptLoop.step, hlimiter]
  | succ available =>
      refine ⟨{ loop.spawn remote true with limiter := some available }, ?_, rfl, .inr ⟨?_, ?_⟩⟩
      · simp only [AcceptLoop.step, hlimiter]
      · omega
      · exact live_spawn loop remote true

/-- As many attempts as there are permits available are all admitted. -/
theorem Conserved.admits {n : Nat} (h : loop.Conserved n) (cfg : ServerConfig)
    {remotes : List SocketAddr} (hremotes : loop.live + remotes.length ≤ n) :
    ∃ loop', Transition.run (AcceptLoop.step cfg) loop (remotes.map .incoming) = some loop' ∧
      loop'.live = loop.live + remotes.length := by
  induction remotes generalizing loop with
  | nil => exact ⟨loop, rfl, rfl⟩
  | cons remote remotes ih =>
      rw [List.length_cons] at hremotes ⊢
      obtain ⟨mid, hstep, _, ⟨hfull, _⟩ | ⟨_, hlive⟩⟩ := h.incoming cfg remote
      · omega
      · obtain ⟨loop', hrun, hlive'⟩ := ih (h.step (step_cases hstep)) (by omega)
        refine ⟨loop', ?_, by omega⟩
        rw [List.map_cons, Transition.run_cons, hstep]
        exact hrun

/-- A session that has ended, by whatever path, can give its permit back. -/
theorem finish_live (htask : loop.tasks[c]? = some task) (hdone : task.done = false)
    (hphase : task.session.phase = .returned) (cfg : ServerConfig) :
    ∃ loop', loop.step cfg (.finish c) = some loop' ∧ loop'.live + 1 = loop.live := by
  refine ⟨{ loop with
    limiter := if task.permit then loop.limiter.map (· + 1) else loop.limiter
    tasks := loop.tasks.set c { task with done := true } }, ?_, live_finish htask hdone⟩
  simp only [step, htask, hdone, hphase, and_self, if_true]

end AcceptLoop

/-! ## Sessions end -/

/-- The handler can be brought to return. -/
def Ends (cfg : ServerConfig) (st : ServerState) (s : Session) : Prop :=
  ∃ acts st' s', Transition.run (fun p a => stepSession cfg p.1 p.2 a) (st, s) acts
    = some (st', s') ∧ s'.phase = .returned

theorem Ends.of_step {st st' : ServerState} {s s' : Session}
    (hstep : stepSession cfg st s a = some (st', s')) (h : Ends cfg st' s') : Ends cfg st s := by
  obtain ⟨acts, last, final, hrun, hphase⟩ := h
  exact ⟨a :: acts, last, final, by rw [Transition.run_cons, hstep]; exact hrun, hphase⟩

variable {st : ServerState}

theorem ends_closing {s : Session} {reason : String} (hphase : s.phase = .closing reason) :
    Ends cfg st s := by
  have hstep : stepSession cfg st s .deregister
      = some (st.deregisterClient s.client.id reason, { s with phase := .returned }) := by
    simp only [stepSession, hphase]
  exact .of_step hstep ⟨[], _, _, rfl, rfl⟩

theorem ends_serving {s : Session} (hphase : s.phase = .serving) : Ends cfg st s := by
  have hstep : stepSession cfg st s (.disconnect "")
      = some (dropTasks st s.conns, { s with
          listeners := [], conns := [], phase := .closing "" }) := by
    simp only [stepSession, hphase]
  exact .of_step hstep (ends_closing rfl)

theorem ends_spawning {s : Session} {rest : List TunnelEntry} (hphase : s.phase = .spawning rest) :
    Ends cfg st s := by
  induction rest generalizing s with
  | nil =>
      have hstep : stepSession cfg st s .spawnReverse
          = some (st, { s with phase := .serving }) := by
        simp only [stepSession, hphase]
      exact .of_step hstep (ends_serving rfl)
  | cons tunnel rest ih =>
      have hstep : stepSession cfg st s .spawnReverse
          = some (st, { s with
            listeners :=
              if tunnel.direction = .reverse then s.listeners ++ [tunnel] else s.listeners
            phase := .spawning rest }) := by
        simp only [stepSession, hphase]
      exact .of_step hstep (ih rfl)

/-- The session registers what is left and fails to answer. -/
theorem ends_registering {s : Session} {todo : List RemoteRequest}
    (hphase : s.phase = .registering todo) : Ends cfg st s := by
  induction todo generalizing st s with
  | nil =>
      have hstep : stepSession cfg st s (.replyHello (.error ""))
          = some (st, { s with phase := .closing ("hello rejected: " ++ "") }) := by
        simp only [stepSession, hphase]
      exact .of_step hstep (ends_closing rfl)
  | cons req todo ih =>
      have halloc : stepSession cfg st s .allocTunnelId = some (st.allocTunnelId.1,
          { s with phase := .allocated st.allocTunnelId.2 req todo }) := by
        simp only [stepSession, hphase]
      exact .of_step halloc (.of_step (a := .insertClientTunnel) rfl
        (.of_step (a := .insertTunnel) rfl (ih rfl)))

/-- From every point of the handler there is a way out. -/
theorem ends (cfg : ServerConfig) (st : ServerState) (s : Session) : Ends cfg st s := by
  cases hphase : s.phase with
  | handshake =>
      have hstep : stepSession cfg st s (.handshake false)
          = some (st, { s with phase := .returned }) := by
        simp [stepSession, hphase]
      exact .of_step hstep ⟨[], _, _, rfl, rfl⟩
  | hello =>
      have hstep : stepSession cfg st s (.hello (.error ""))
          = some (st, { s with phase := .closing ("hello rejected: " ++ "") }) := by
        simp only [stepSession, hphase]
      exact .of_step hstep (ends_closing rfl)
  | registering todo => exact ends_registering hphase
  | allocated id req todo =>
      have hstep : stepSession cfg st s .insertClientTunnel
          = some (st.insertClientTunnel s.client (st.tunnelEntry s.client id req),
            { s with phase := .inserting (st.tunnelEntry s.client id req) todo }) := by
        simp only [stepSession, hphase]
      exact .of_step hstep (.of_step (a := .insertTunnel) rfl (ends_registering rfl))
  | inserting entry todo =>
      have hstep : stepSession cfg st s .insertTunnel
          = some (st.insertTunnel entry,
            { s with tunnels := s.tunnels ++ [entry], phase := .registering todo }) := by
        simp only [stepSession, hphase]
      exact .of_step hstep (ends_registering rfl)
  | spawning rest => exact ends_spawning hphase
  | serving => exact ends_serving hphase
  | closing reason => exact ends_closing hphase
  | returned => exact ⟨[], st, s, rfl, hphase⟩

namespace AcceptLoop

/-- A run of one handler is a run of the server. -/
theorem run_session {acts : List SessionAction} {st' : ServerState} {s' : Session}
    (htask : loop.tasks[c]? = some task)
    (hrun : Transition.run (fun p a => stepSession cfg p.1 p.2 a) (loop.state, task.session) acts
      = some (st', s')) :
    Transition.run (step cfg) loop (acts.map (.session c))
      = some { loop with
          state := st', tasks := loop.tasks.set c { task with session := s' } } := by
  induction acts generalizing loop task with
  | nil =>
      cases hrun
      rw [Indexed.set_same htask]
      rfl
  | cons a acts ih =>
      obtain ⟨⟨st, s⟩, hact, hrest⟩ := Transition.run_cons_eq_some.mp hrun
      have hstep : step cfg loop (.session c a) = some { loop with
          state := st, tasks := loop.tasks.set c { task with session := s } } := by
        simp only [step, htask, hact, Option.map_some]
      have hnext : (loop.tasks.set c { task with session := s })[c]?
          = some { task with session := s } := Indexed.getElem?_set_same htask
      rw [List.map_cons, Transition.run_cons, hstep, Option.bind_some, ih hnext hrest,
        List.set_set]

/-- All sessions can end, whatever they are doing. -/
theorem run_drained (cfg : ServerConfig) (loop : AcceptLoop) :
    ∃ acts loop', Transition.run (step cfg) loop acts = some loop' ∧ loop'.live = 0 := by
  induction hlive : loop.live generalizing loop with
  | zero => exact ⟨[], loop, rfl, hlive⟩
  | succ n ih =>
      have hpos : 0 < loop.live := by omega
      obtain ⟨task, hmem, hdone⟩ := List.countP_pos_iff.mp hpos
      obtain ⟨c, htask⟩ := List.mem_iff_getElem?.mp hmem
      have hdone : task.done = false := by simpa using hdone
      -- Bring its handler to return, drop the permit and go on with the others.
      obtain ⟨acts, st', s', hrun, hphase⟩ := ends cfg loop.state task.session
      have hsession := run_session htask hrun
      have hsame := live_session htask st' s'
      obtain ⟨next, hfinish, hnext⟩ := @finish_live
        { loop with state := st', tasks := loop.tasks.set c { task with session := s' } } _ c
        (Indexed.getElem?_set_same htask) hdone hphase cfg
      have hn : next.live = n := by omega
      obtain ⟨more, loop', hmore, hzero⟩ := ih next hn
      refine ⟨acts.map (.session c) ++ .finish c :: more, loop', ?_, hzero⟩
      rw [Transition.run_append, hsession, Option.bind_some, Transition.run_cons, hfinish,
        Option.bind_some, hmore]

end AcceptLoop

/-- With a cap of `n`: permits are with live sessions or available, no more than
`n` clients are registered, an attempt is refused exactly if `n` sessions are live
and then only draws an id, a session that has ended gives its permit back, all of
them can end, and then `n` new ones are admitted. -/
theorem run_admission {n : Nat} (hcap : cfg.maxConnections = some n) {acts : List AcceptAction}
    {loop : AcceptLoop} (hrun : AcceptLoop.run cfg acts = some loop) :
    (∃ available, loop.limiter = some available ∧ loop.live + available = n) ∧
    loop.state.clients.keys.length ≤ n ∧
    (∀ remote, ∃ loop', loop.step cfg (.incoming remote) = some loop' ∧
      loop'.state = loop.state ∧
      (loop.live = n ∧ loop' = { loop with clientCounter := loop.clientCounter + 1 } ∨
        loop.live < n ∧ loop'.live = loop.live + 1)) ∧
    (∀ (c : Nat) (task : ClientTask), loop.tasks[c]? = some task → task.done = false →
      task.session.phase = .returned →
      ∃ loop', loop.step cfg (.finish c) = some loop' ∧ loop'.live + 1 = loop.live) ∧
    (∃ more loop', Transition.run (AcceptLoop.step cfg) loop more = some loop' ∧
      loop'.live = 0) ∧
    (loop.live = 0 → ∀ remotes : List SocketAddr, remotes.length = n →
      ∃ loop', Transition.run (AcceptLoop.step cfg) loop (remotes.map .incoming) = some loop' ∧
        loop'.live = n) := by
  obtain ⟨hconserved, hregistered⟩ := AcceptLoop.run_lawful hcap hrun
  refine ⟨hconserved.permits, ?_, hconserved.incoming cfg,
    fun c task htask hdone hphase => AcceptLoop.finish_live htask hdone hphase cfg,
    AcceptLoop.run_drained cfg loop, fun hlive remotes hremotes => ?_⟩
  · obtain ⟨available, _, hsum⟩ := hconserved.permits
    exact Nat.le_trans hregistered.length_le (by omega)
  · obtain ⟨loop', hadmitted, hlive'⟩ := hconserved.admits cfg (by omega : _ + remotes.length ≤ n)
    exact ⟨loop', hadmitted, by omega⟩

/-- One permit: the second attempt is refused, the hello of the first fails, and
then there is room again. -/
theorem run_admission_one :
    let cfg : ServerConfig := ⟨false, false, some 1⟩
    let address : SocketAddr := .v4 ⟨127, 0, 0, 1⟩ 4433
    let acts : List AcceptAction := [.incoming address, .incoming address,
      .session 0 (.handshake true), .session 0 (.hello (.error "reset")),
      .session 0 .deregister, .finish 0]
    ∃ loop, AcceptLoop.run cfg acts = some loop ∧ loop.live = 0 ∧
      ∃ loop', Transition.run (AcceptLoop.step cfg) loop [.incoming address] = some loop' ∧
        loop'.live = 1 := by
  intro cfg address acts
  have hlive : (AcceptLoop.run cfg acts).map AcceptLoop.live = some 0 := by decide +kernel
  obtain ⟨loop, hrun, hzero⟩ := Option.map_eq_some_iff.mp hlive
  exact ⟨loop, hrun, hzero, (run_admission rfl hrun).2.2.2.2.2 hzero [address] rfl⟩

/-! ## The sessions' model

There a session frees its permit in the step that returns. -/

/-- The same server, with the tasks of returned sessions gone. -/
structure Refines (sys : System) (loop : AcceptLoop) : Prop where
  counter : loop.clientCounter = sys.clientCounter
  limiter : loop.limiter = sys.permits
  state : loop.state = sys.state
  sessions : loop.tasks.map (·.session) = sys.sessions
  done : ∀ task ∈ loop.tasks, task.done = true ↔ task.session.phase = .returned
  permit : sys.permits.isSome → ∀ task ∈ loop.tasks, task.permit = true

variable {sys : System}

theorem Refines.spawn (h : Refines sys loop) (remote : SocketAddr) {permits : Option Nat}
    {permit : Bool} (hpermit : permits.isSome → sys.permits.isSome ∧ permit = true) :
    Refines
      { sys with
        clientCounter := sys.clientCounter + 1
        permits := permits
        sessions := sys.sessions ++
          [.new ⟨.ofNat (sys.clientCounter + 1), remote, sys.sessions.length⟩] }
      { loop.spawn remote permit with limiter := permits } where
  counter := congrArg (· + 1) h.counter
  limiter := rfl
  state := h.state
  sessions := by
    have hlength : loop.tasks.length = sys.sessions.length := by rw [← h.sessions, List.length_map]
    rw [AcceptLoop.spawn, List.map_append, h.sessions, hlength, h.counter]
    rfl
  done := by
    refine List.forall_mem_append.mpr ⟨h.done, List.forall_mem_singleton.mpr ?_⟩
    constructor <;> nofun
  permit hsome :=
    List.forall_mem_append.mpr ⟨h.permit (hpermit hsome).1,
      List.forall_mem_singleton.mpr (hpermit hsome).2⟩

theorem Refines.accept (h : Refines sys loop) {remote : SocketAddr} {sys' : System}
    (hstep : step cfg sys (.accept remote) = some sys') :
    ∃ loop', loop.step cfg (.incoming remote) = some loop' ∧ Refines sys' loop' := by
  cases hpermits : sys.permits with
  | none =>
      simp only [step, hpermits, Option.some.injEq] at hstep
      subst hstep
      refine ⟨{ loop.spawn remote false with limiter := none }, ?_, h.spawn remote fun hsome => ?_⟩
      · simp only [AcceptLoop.step, AcceptLoop.spawn, h.limiter, hpermits]
      · cases hsome
  | some available =>
      cases available with
      | zero =>
          simp only [step, hpermits, Option.some.injEq] at hstep
          subst hstep
          refine ⟨{ loop with clientCounter := loop.clientCounter + 1 }, ?_, ?_⟩
          · simp only [AcceptLoop.step, h.limiter, hpermits]
          · exact ⟨congrArg (· + 1) h.counter, h.limiter.trans hpermits, h.state, h.sessions,
              h.done, fun _ => h.permit (by rw [hpermits]; rfl)⟩
      | succ available =>
          simp only [step, hpermits, Option.some.injEq] at hstep
          subst hstep
          refine ⟨{ loop.spawn remote true with limiter := some available }, ?_, ?_⟩
          · simp only [AcceptLoop.step, h.limiter, hpermits]
          · exact h.spawn remote fun _ => ⟨by rw [hpermits]; rfl, rfl⟩

/-- One task moves on; its permit stays as it was spawned. -/
theorem Refines.set (h : Refines sys loop) (htask : loop.tasks[c]? = some task)
    (state : ServerState) {next : Session} {done : Bool}
    (hdone : done = true ↔ next.phase = .returned) {permits : Option Nat}
    (hpermits : permits.isSome = sys.permits.isSome) :
    Refines { sys with state := state, sessions := sys.sessions.set c next, permits := permits }
      { loop with
        state := state
        limiter := permits
        tasks := loop.tasks.set c ⟨next, task.permit, done⟩ } where
  counter := h.counter
  limiter := rfl
  state := rfl
  sessions := by rw [List.map_set, h.sessions]
  done := Indexed.forall_mem_set h.done htask fun _ => hdone
  permit hsome :=
    Indexed.forall_mem_set (h.permit (hpermits ▸ hsome)) htask fun hpermit => hpermit

theorem Refines.session (h : Refines sys loop) {sys' : System}
    (hstep : step cfg sys (.session c a) = some sys') :
    ∃ acts loop', Transition.run (AcceptLoop.step cfg) loop acts = some loop' ∧
      Refines sys' loop' := by
  simp only [step] at hstep
  split at hstep
  case h_1 => cases hstep
  case h_2 s hs =>
  split at hstep
  case h_1 => cases hstep
  case h_2 state next hact =>
  cases hstep
  rw [← h.sessions, List.getElem?_map] at hs
  obtain ⟨task, htask, rfl⟩ := Option.map_eq_some_iff.mp hs
  have hdone := h.done task (List.mem_of_getElem? htask)
  have hsession : loop.step cfg (.session c a) = some { loop with
      state := state, tasks := loop.tasks.set c { task with session := next } } := by
    simp only [AcceptLoop.step, htask, h.state, hact, Option.map_some]
  by_cases hfreed : task.session.phase ≠ .returned ∧ next.phase = .returned
  · -- The session returns: its task drops the permit at once.
    have hlive : task.done = false := Bool.eq_false_iff.mpr fun hgone => hfreed.1 (hdone.mp hgone)
    have hpermits : (if task.permit then loop.limiter.map (· + 1) else loop.limiter)
        = sys.permits.map (· + 1) := by
      rw [h.limiter]
      cases hlimiter : sys.permits with
      | none => exact ite_self _
      | some available =>
          have hall := h.permit (by rw [hlimiter]; rfl)
          rw [hall task (List.mem_of_getElem? htask)]
          rfl
    have hfinish : AcceptLoop.step cfg { loop with
          state := state, tasks := loop.tasks.set c { task with session := next } } (.finish c)
        = some { loop with
          state := state
          limiter := sys.permits.map (· + 1)
          tasks := loop.tasks.set c ⟨next, task.permit, true⟩ } := by
      simp only [AcceptLoop.step, Indexed.getElem?_set_same htask, hlive, hfreed.2, and_self,
        if_true, List.set_set, hpermits]
    refine ⟨[.session c a, .finish c], { loop with
      state := state
      limiter := sys.permits.map (· + 1)
      tasks := loop.tasks.set c ⟨next, task.permit, true⟩ }, ?_, ?_⟩
    · rw [Transition.run_cons, hsession, Option.bind_some, Transition.run_cons, hfinish]
      rfl
    · rw [if_pos hfreed]
      exact h.set htask state (by simp [hfreed.2]) Option.isSome_map
  · have hphase : task.done = true ↔ next.phase = .returned := by
      rw [hdone]
      constructor
      · intro hreturned
        by_contra hnot
        exact (stepSession_cases hact).effect.not_returned hnot hreturned
      · intro hreturned
        by_contra hnot
        exact hfreed ⟨hnot, hreturned⟩
    refine ⟨[.session c a], { loop with
      state := state, tasks := loop.tasks.set c { task with session := next } }, ?_, ?_⟩
    · rw [Transition.run_cons, hsession]
      rfl
    · rw [if_neg hfreed, h.limiter]
      exact h.set htask state hphase rfl

/-- Every run of the sessions' model is one of the accept loop. -/
theorem run_accepts {acts : List Action} (hrun : run cfg acts = some sys) :
    ∃ acts loop, AcceptLoop.run cfg acts = some loop ∧ Refines sys loop := by
  have hinit : Refines (System.init cfg) (AcceptLoop.init cfg) := by
    constructor <;> simp [System.init, AcceptLoop.init]
  refine Transition.run_invariant
    (P := fun sys => ∃ acts loop, AcceptLoop.run cfg acts = some loop ∧ Refines sys loop)
    ?_ ⟨[], _, Transition.run_nil _, hinit⟩ hrun
  rintro sys a sys' ⟨acts, loop, hloop, h⟩ hstep
  have hnext : ∃ more loop', Transition.run (AcceptLoop.step cfg) loop more = some loop' ∧
      Refines sys' loop' := by
    cases a with
    | accept remote =>
        obtain ⟨loop', hincoming, hrefines⟩ := h.accept hstep
        exact ⟨[.incoming remote], loop', by rw [Transition.run_cons, hincoming]; rfl, hrefines⟩
    | session c a => exact h.session hstep
  obtain ⟨more, loop', hmore, hrefines⟩ := hnext
  exact ⟨acts ++ more, loop', Transition.run_append_eq_some.mpr ⟨loop, hloop, hmore⟩, hrefines⟩

end Server
end Rusnel
