import Rusnel.Server.Session

/-!
# Invariant of one session

What holds of a session whatever the others do: it registers exactly what its
hello declared, and only if the whole hello is permitted.

Main results:

- Theorem {lit}`SessionStep.lawful`: every step of a session keeps its
  invariant.
-/

namespace Rusnel
namespace Server

/-- What a tunnel record keeps of a declaration. -/
def TunnelEntry.declared (t : TunnelEntry) : Direction × RemoteKind :=
  (t.direction, t.kind)

end Server

/-- What the server keeps of a declaration. -/
def RemoteRequest.declared (r : RemoteRequest) : Direction × RemoteKind :=
  (r.direction, r.kind)

namespace Server

variable {cfg : ServerConfig}

/-- While a session registers: the declarations not yet in its tunnel list. -/
@[simp]
def Phase.pending : Phase → Option (List (Direction × RemoteKind))
  | .registering todo => some (todo.map RemoteRequest.declared)
  | .allocated _ req todo => some (req.declared :: todo.map RemoteRequest.declared)
  | .inserting entry todo => some (entry.declared :: todo.map RemoteRequest.declared)
  | _ => none

/-- The record between the client's map and the global index. -/
@[simp]
def Phase.inserted : Phase → List TunnelEntry
  | .inserting entry _ => [entry]
  | _ => []

/-- The id drawn for a record that is not yet in the tunnel list. -/
@[simp]
def Phase.drawnIds : Phase → List UInt64
  | .allocated id _ _ => [id]
  | .inserting entry _ => [entry.id]
  | _ => []

/-- The session's client has answered its hello and is not closing. -/
@[simp]
def Phase.live : Phase → Bool
  | .spawning _ | .serving => true
  | _ => false

/-- The session has ended. -/
@[simp]
def Phase.over : Phase → Bool
  | .closing _ | .returned => true
  | _ => false

/-- Every id the session ever drew, in order. -/
def Session.assignedIds (s : Session) : List UInt64 :=
  s.tunnels.map TunnelEntry.id ++ s.phase.drawnIds

/-- The local invariant of a session. -/
structure Session.Lawful (cfg : ServerConfig) (s : Session) : Prop where
  /-- Nothing is known or done before the hello. -/
  unread : s.phase = .handshake ∨ s.phase = .hello →
    s.remotes = none ∧ s.answer = none ∧ s.tunnels = [] ∧ s.listeners = []
  /-- While registering, done and pending declarations make up the hello. -/
  pending : ∀ todo, s.phase.pending = some todo → s.answer = none ∧ s.listeners = [] ∧
    ∃ remotes, s.remotes = some remotes ∧ validateRemotes cfg remotes = .ok () ∧
      s.tunnels.map TunnelEntry.declared ++ todo = remotes.map RemoteRequest.declared
  /-- An accepted hello was permitted and is registered as declared. -/
  accepted : ∀ ids, s.answer = some (.ok ids) → ids = s.tunnels.map TunnelEntry.id ∧
    ∃ remotes, s.remotes = some remotes ∧ validateRemotes cfg remotes = .ok () ∧
      s.tunnels.map TunnelEntry.declared = remotes.map RemoteRequest.declared
  /-- A refused hello was not permitted and left nothing behind. -/
  refused : ∀ reason, s.answer = some (.failed reason) →
    s.phase.over = true ∧ s.tunnels = [] ∧ s.listeners = [] ∧
      ∃ remotes, s.remotes = some remotes ∧ validateRemotes cfg remotes = .error reason
  /-- Handlers are spawned for the session's own tunnels only. -/
  spawning : ∀ rest, s.phase = .spawning rest → ∀ t ∈ rest, t ∈ s.tunnels
  /-- A live session was answered. -/
  answered : s.phase.live = true → s.answer = some (.ok (s.tunnels.map TunnelEntry.id))
  /-- A running handler belongs to a reverse tunnel of a live session. -/
  listening : ∀ t ∈ s.listeners, t ∈ s.tunnels ∧ t.direction = .reverse ∧
    s.phase.live = true
  /-- Registered tunnels carry the client's id and obey the policy. -/
  owned : ∀ t ∈ s.tunnels ++ s.phase.inserted,
    t.clientId = s.client.id ∧ Permitted cfg t.direction t.kind

theorem Session.new_lawful (client : ClientEntry) : (Session.new client).Lawful cfg := by
  constructor <;> simp [Session.new]

/-! ## The invariant from what each group of phases requires -/

/-- No handler runs outside a live session. -/
theorem Session.Lawful.listeners_eq_nil {s : Session} (hs : s.Lawful cfg)
    (hlive : s.phase.live = false) : s.listeners = [] := by
  apply List.eq_nil_iff_forall_not_mem.mpr
  intro t ht
  have hlistening := (hs.listening t ht).2.2
  rw [hlive] at hlistening
  cases hlistening

/-- A session may end at any time, once its handlers are gone. -/
theorem Session.Lawful.ended {s s' : Session} (hs : s.Lawful cfg) (hover : s'.phase.over = true)
    (hlisteners : s'.listeners = []) (hremotes : s'.remotes = s.remotes)
    (hanswer : s'.answer = s.answer) (htunnels : s'.tunnels = s.tunnels)
    (hclient : s'.client = s.client) : s'.Lawful cfg where
  unread h := by rcases h with h | h <;> simp [h] at hover
  pending todo h := by cases hphase : s'.phase <;> simp [hphase] at h hover
  accepted := by
    rw [hanswer, htunnels, hremotes]
    exact hs.accepted
  refused reason h := by
    rw [hanswer] at h
    obtain ⟨_, hnone, _, hrefused⟩ := hs.refused reason h
    rw [htunnels, hremotes]
    exact ⟨hover, hnone, hlisteners, hrefused⟩
  spawning rest h := by simp [h] at hover
  answered h := by cases hphase : s'.phase <;> simp [hphase] at h hover
  listening := by simp [hlisteners]
  owned := by
    have hinserted : s'.phase.inserted = [] := by
      cases hphase : s'.phase <;> simp [hphase] at hover ⊢
    rw [hinserted, List.append_nil, htunnels, hclient]
    exact fun t ht => hs.owned t (List.mem_append_left _ ht)

/-- A session that registers a permitted hello. -/
theorem Session.Lawful.of_pending {s : Session} {todo : List (Direction × RemoteKind)}
    {remotes : List RemoteRequest} (hpending : s.phase.pending = some todo)
    (hanswer : s.answer = none) (hlisteners : s.listeners = [])
    (hremotes : s.remotes = some remotes)
    (hvalid : validateRemotes cfg remotes = .ok ())
    (hsplit : s.tunnels.map TunnelEntry.declared ++ todo = remotes.map RemoteRequest.declared)
    (howned : ∀ t ∈ s.tunnels ++ s.phase.inserted,
      t.clientId = s.client.id ∧ Permitted cfg t.direction t.kind) : s.Lawful cfg where
  unread h := by rcases h with h | h <;> simp [h] at hpending
  pending todo' h := by
    cases hpending.symm.trans h
    exact ⟨hanswer, hlisteners, remotes, hremotes, hvalid, hsplit⟩
  accepted := by simp [hanswer]
  refused := by simp [hanswer]
  spawning rest h := by simp [h] at hpending
  answered h := by cases hphase : s.phase <;> simp [hphase] at h hpending
  listening := by simp [hlisteners]
  owned := howned

/-- A session whose registered hello was answered. -/
theorem Session.Lawful.of_live {s : Session} {remotes : List RemoteRequest}
    (hlive : s.phase.live = true) (hanswer : s.answer = some (.ok (s.tunnels.map TunnelEntry.id)))
    (hremotes : s.remotes = some remotes) (hvalid : validateRemotes cfg remotes = .ok ())
    (hdeclared : s.tunnels.map TunnelEntry.declared = remotes.map RemoteRequest.declared)
    (hspawning : ∀ rest, s.phase = .spawning rest → rest ⊆ s.tunnels)
    (hlistening : ∀ t ∈ s.listeners, t ∈ s.tunnels ∧ t.direction = .reverse)
    (howned : ∀ t ∈ s.tunnels, t.clientId = s.client.id ∧ Permitted cfg t.direction t.kind) :
    s.Lawful cfg where
  unread h := by rcases h with h | h <;> simp [h] at hlive
  pending todo h := by cases hphase : s.phase <;> simp [hphase] at h hlive
  accepted ids h := by
    cases hanswer.symm.trans h
    exact ⟨rfl, remotes, hremotes, hvalid, hdeclared⟩
  refused reason h := by
    cases hanswer.symm.trans h
  spawning rest h t ht := hspawning rest h ht
  answered _ := hanswer
  listening t ht := ⟨(hlistening t ht).1, (hlistening t ht).2, hlive⟩
  owned := by
    have hinserted : s.phase.inserted = [] := by
      cases hphase : s.phase <;> simp [hphase] at hlive ⊢
    rwa [hinserted, List.append_nil]

/-- A live session goes on with its answer and its tunnels as they are. -/
theorem Session.Lawful.live_step {s : Session} (hs : s.Lawful cfg) (hlive : s.phase.live = true)
    {phase : Phase} {listeners : List TunnelEntry} (hlive' : phase.live = true)
    (hspawning : ∀ rest, phase = .spawning rest → rest ⊆ s.tunnels)
    (hlistening : ∀ t ∈ listeners, t ∈ s.tunnels ∧ t.direction = .reverse) :
    Session.Lawful cfg { s with phase := phase, listeners := listeners } := by
  have hanswer := hs.answered hlive
  obtain ⟨_, remotes, hremotes, hvalid, hdeclared⟩ := hs.accepted _ hanswer
  exact .of_live hlive' hanswer hremotes hvalid hdeclared hspawning hlistening
    fun t ht => hs.owned t (List.mem_append_left _ ht)

/-- Handlers of a live session may return at any time. -/
theorem Session.Lawful.listenerDone {s : Session} (hs : s.Lawful cfg) {i : Nat}
    (hi : i < s.listeners.length) :
    Session.Lawful cfg { s with listeners := s.listeners.eraseIdx i } := by
  have hlive := (hs.listening _ (List.getElem_mem hi)).2.2
  have hrest : ∀ t ∈ s.listeners.eraseIdx i, t ∈ s.tunnels ∧ t.direction = .reverse := by
    intro t ht
    have hlistening := hs.listening t (List.mem_of_mem_eraseIdx ht)
    exact ⟨hlistening.1, hlistening.2.1⟩
  exact hs.live_step hlive hlive hs.spawning hrest

/-- The record written for a pending declaration is permitted. -/
theorem permitted_of_pending {remotes todo : List RemoteRequest} {req : RemoteRequest}
    {done : List (Direction × RemoteKind)} (hvalid : validateRemotes cfg remotes = .ok ())
    (hsplit : done ++ req.declared :: todo.map RemoteRequest.declared =
      remotes.map RemoteRequest.declared) : Permitted cfg req.direction req.kind := by
  have hmem : req.declared ∈ remotes.map RemoteRequest.declared := by
    rw [← hsplit]
    simp
  obtain ⟨r, hr, heq⟩ := List.mem_map.mp hmem
  have hperm := (validateRemotes_eq_ok_iff cfg remotes).mp hvalid r hr
  simp only [RemoteRequest.declared, Prod.mk.injEq] at heq
  rwa [heq.1, heq.2] at hperm

/-- A step keeps the local invariant. -/
theorem SessionStep.lawful {st st' : ServerState} {s s' : Session} {a : SessionAction}
    (hstep : SessionStep cfg st s a st' s') (hs : s.Lawful cfg) : s'.Lawful cfg := by
  cases hstep with
  | handshakeDone hphase =>
      obtain ⟨hremotes, hanswer, htunnels, hlisteners⟩ := hs.unread (.inl hphase)
      constructor <;> simp [hremotes, hanswer, htunnels, hlisteners]
  | handshakeFailed hphase =>
      exact hs.ended rfl (hs.listeners_eq_nil (by rw [hphase]; rfl)) rfl rfl rfl rfl
  | helloFailed hphase e =>
      exact hs.ended rfl (hs.listeners_eq_nil (by rw [hphase]; rfl)) rfl rfl rfl rfl
  | helloRefused hphase hello reason hrefused =>
      obtain ⟨_, _, htunnels, hlisteners⟩ := hs.unread (.inr hphase)
      constructor <;> simp [htunnels, hlisteners, hrefused]
  | helloAccepted hphase hello hvalid =>
      obtain ⟨_, hanswer, htunnels, hlisteners⟩ := hs.unread (.inr hphase)
      exact .of_pending rfl hanswer hlisteners rfl hvalid (by simp [htunnels]) (by simp [htunnels])
  | allocTunnelId req todo hphase =>
      obtain ⟨hanswer, hlisteners, remotes, hremotes, hvalid, hsplit⟩ :=
        hs.pending _ (by rw [hphase]; rfl)
      refine .of_pending rfl hanswer hlisteners hremotes hvalid hsplit fun t ht => ?_
      exact hs.owned t (List.mem_append_left _ (by simpa using ht))
  | insertClientTunnel id req todo hphase =>
      obtain ⟨hanswer, hlisteners, remotes, hremotes, hvalid, hsplit⟩ :=
        hs.pending _ (by rw [hphase]; rfl)
      refine .of_pending rfl hanswer hlisteners hremotes hvalid hsplit fun t ht => ?_
      rcases List.mem_append.mp ht with hold | hnew
      · exact hs.owned t (List.mem_append_left _ hold)
      · cases List.mem_singleton.mp hnew
        exact ⟨rfl, permitted_of_pending hvalid hsplit⟩
  | insertTunnel entry todo hphase =>
      obtain ⟨hanswer, hlisteners, remotes, hremotes, hvalid, hsplit⟩ :=
        hs.pending _ (by rw [hphase]; rfl)
      have howned := hs.owned
      rw [hphase] at howned
      refine .of_pending rfl hanswer hlisteners hremotes hvalid ?_ ?_
      · simpa using hsplit
      · simpa using howned
  | replyHello hphase =>
      obtain ⟨_, hlisteners, remotes, hremotes, hvalid, hsplit⟩ :=
        hs.pending _ (by rw [hphase]; rfl)
      refine .of_live rfl rfl hremotes hvalid (by simpa using hsplit) ?_ (by simp [hlisteners])
        fun t ht => hs.owned t (List.mem_append_left _ ht)
      intro rest hrest
      cases hrest
      exact List.Subset.refl _
  | replyHelloFailed hphase e =>
      exact hs.ended rfl (hs.listeners_eq_nil (by rw [hphase]; rfl)) rfl rfl rfl rfl
  | spawned hphase =>
      have hlistening := hs.listening
      exact hs.live_step (by rw [hphase]; rfl) rfl (by simp)
        fun t ht => ⟨(hlistening t ht).1, (hlistening t ht).2.1⟩
  | spawnReverse tunnel rest hphase hdir =>
      have hrest := hs.spawning _ hphase
      refine hs.live_step (by rw [hphase]; rfl) rfl ?_ fun t ht => ?_
      · intro rest' hrest' t ht
        cases hrest'
        exact hrest t (List.mem_cons_of_mem tunnel ht)
      · rcases List.mem_append.mp ht with hold | hnew
        · exact ⟨(hs.listening t hold).1, (hs.listening t hold).2.1⟩
        · cases List.mem_singleton.mp hnew
          exact ⟨hrest tunnel List.mem_cons_self, hdir⟩
  | skipForward tunnel rest hphase hdir =>
      refine hs.live_step (by rw [hphase]; rfl) rfl ?_
        fun t ht => ⟨(hs.listening t ht).1, (hs.listening t ht).2.1⟩
      intro rest' hrest' t ht
      cases hrest'
      exact hs.spawning _ hphase t (List.mem_cons_of_mem tunnel ht)
  | openRefused => exact hs
  | openConn | replyOpenConn | replyOpenConnFailed | connDone =>
      exact ⟨hs.unread, hs.pending, hs.accepted, hs.refused, hs.spawning, hs.answered,
        hs.listening, hs.owned⟩
  | listenerDone i hi => exact hs.listenerDone hi
  | disconnect hphase reason => exact hs.ended rfl rfl rfl rfl rfl rfl
  | deregister reason hphase =>
      exact hs.ended rfl (hs.listeners_eq_nil (by rw [hphase]; rfl)) rfl rfl rfl rfl

/-! ## Where a conn task comes from -/

/-- A conn task after a step was there before, has just been acknowledged, or
was created by the step from what the opener's id was looked up to. -/
inductive ConnOrigin (st : ServerState) (s : Session) (a : SessionAction) (task : ConnTask) :
    Prop where
  | kept (hmem : task ∈ s.conns)
  | started (before : ConnTask) (conn : ConnEntry) (hmem : before ∈ s.conns)
      (htask : task = before.started conn) (hclient : conn.clientId = before.tunnel.clientId)
  | opened (hact : a = .openConn task.opener)
      (hlookup : st.tunnel task.opener.tunnelId = some task.tunnel)
      (hdispatch : resolveDispatch task.tunnel task.opener.dynamic = .ok task.dispatch)
      (hstage : task.stage = .acking)

theorem SessionStep.conn_origin {st st' : ServerState} {s s' : Session} {a : SessionAction}
    (hstep : SessionStep cfg st s a st' s') {task : ConnTask} (htask : task ∈ s'.conns) :
    ConnOrigin st s a task := by
  cases hstep
  case openConn hphase opener tunnel dispatch hlookup hdispatch =>
    rcases List.mem_append.mp htask with hold | hnew
    · exact .kept hold
    · cases List.mem_singleton.mp hnew
      exact .opened rfl hlookup hdispatch rfl
  case replyOpenConn i before hbefore hstage conn hconn =>
    rcases List.mem_or_eq_of_mem_set htask with hold | rfl
    · exact .kept hold
    · exact .started before conn (List.mem_of_getElem? hbefore) rfl (by rw [← hconn]; rfl)
  case replyOpenConnFailed | connDone => exact .kept (List.mem_of_mem_eraseIdx htask)
  case disconnect => simp at htask
  all_goals exact .kept htask

end Server
end Rusnel
