import Rusnel.Server.Registry

/-!
# Isolation of clients

A conn opener names a tunnel by its id, and the id is looked up in the index
that all sessions share.  A conn belongs to the session it was opened on; it is
isolated when the tunnel it runs through was registered by that session's
client.

Main results:

- Theorem {lit}`isolated_throughout_iff`: a run keeps all conns isolated exactly
  when no opener names another session's tunnel.
- Theorem {lit}`intruder_dials_foreign_tunnel`: openers that do are answered.
-/

namespace Rusnel
namespace Server

variable {cfg : ServerConfig}

/-- The client a conn's bytes are accounted to, once it is registered. -/
def ConnTask.chargedTo (task : ConnTask) : Option UInt64 :=
  match task.stage with
  | .acking => none
  | .running conn => some conn.clientId

/-- Every conn of the session runs through a tunnel of the session's client and
is accounted to that client. -/
def Session.Isolated (s : Session) : Prop :=
  ∀ task ∈ s.conns, task.tunnel.clientId = s.client.id ∧
    ∀ id ∈ task.chargedTo, id = s.client.id

-- Asks the client that is charged; the ids as a finite type would be tried one by one.
instance (task : ConnTask) (client : UInt64) : Decidable (∀ id ∈ task.chargedTo, id = client) :=
  Option.decidableForallMem _

instance (s : Session) : Decidable s.Isolated :=
  List.decidableBAll _ _

/-- Every session is isolated. -/
def System.Isolated (sys : System) : Prop :=
  ∀ s ∈ sys.sessions, s.Isolated

instance (sys : System) : Decidable sys.Isolated :=
  List.decidableBAll _ _

/-- An opener on session `c` whose id is indexed to a tunnel of another session,
where the tunnel and the dynamic field make up a target. -/
def NamesForeignTunnel (sys : System) : Action → Prop
  | .session c (.openConn opener) =>
      ∃ t ∈ sys.state.tunnel opener.tunnelId, t.direction = .forward ∧
        (connTarget t.kind opener.dynamic).isSome = true ∧
        ∃ other ∈ sys.sessions.eraseIdx c, t ∈ other.tunnels
  | _ => False

instance (sys : System) (a : Action) : Decidable (NamesForeignTunnel sys a) := by
  unfold NamesForeignTunnel
  split <;> infer_instance

/-- A tunnel found in the index carries the id of the client of the session
that registered it, and of no other session's client. -/
theorem System.Lawful.foreign_clientId {sys : System} (h : sys.Lawful cfg)
    (hlt : sys.clientCounter < 2 ^ 64) {c : Nat} {s other : Session}
    (hs : sys.sessions[c]? = some s) (hother : other ∈ sys.sessions.eraseIdx c) {t : TunnelEntry}
    (ht : t ∈ other.tunnels) :
    t.clientId ≠ s.client.id := by
  obtain ⟨c', hc, hother⟩ := List.mem_eraseIdx_iff_getElem?.mp hother
  intro heq
  have howned := (h.sessions c' other hother).1.owned t (List.mem_append_left _ ht)
  exact hc (h.distinct hlt c' c other s hother hs (howned.1.symm.trans heq))

/-- A session step keeps its session isolated unless its opener is foreign. -/
theorem System.Lawful.session_isolated {sys : System} (h : sys.Lawful cfg) {c : Nat}
    {s s' : Session} {act : SessionAction} {st' : ServerState} (hs : sys.sessions[c]? = some s)
    (hact : SessionStep cfg sys.state s act st' s') (hiso : s.Isolated)
    (hnamed : ¬NamesForeignTunnel sys (.session c act)) : s'.Isolated := by
  intro task htask
  rw [hact.client]
  cases hact.conn_origin htask with
  | kept hmem => exact hiso task hmem
  | started before conn hmem htask hclient =>
      subst htask
      have hold := (hiso before hmem).1
      refine ⟨hold, fun id hid => ?_⟩
      cases hid
      exact hclient.trans hold
  | opened hopen hlookup hdispatch hstage =>
      obtain ⟨hid, c', other, hother, hmem⟩ := h.index _ _ hlookup
      by_cases hc : c' = c
      · subst hc
        cases hs.symm.trans hother
        have howned := (h.sessions c' s hs).1.owned _ (List.mem_append_left _ hmem)
        exact ⟨howned.1, fun id hid => by simp [ConnTask.chargedTo, hstage] at hid⟩
      · refine absurd ?_ hnamed
        obtain ⟨hforward, htarget⟩ :=
          (resolveDispatch_eq_ok_iff task.tunnel task.opener.dynamic).mp ⟨_, hdispatch⟩
        rw [hopen]
        exact ⟨task.tunnel, hlookup, hforward, htarget, other,
          List.mem_eraseIdx_iff_getElem?.mpr ⟨c', hc, hother⟩, hmem⟩

/-- A foreign opener breaks the isolation of its session. -/
theorem System.Lawful.foreign_not_isolated {sys : System} (h : sys.Lawful cfg)
    (hlt : sys.clientCounter < 2 ^ 64) {c : Nat} {s s' : Session} {act : SessionAction}
    {st' : ServerState} (hs : sys.sessions[c]? = some s)
    (hact : SessionStep cfg sys.state s act st' s')
    (hnamed : NamesForeignTunnel sys (.session c act)) : ¬s'.Isolated := by
  cases act with
  | openConn opener =>
      obtain ⟨t, ht, hforward, htarget, other, hother, hmem⟩ := hnamed
      obtain ⟨d, hd⟩ := (resolveDispatch_eq_ok_iff t opener.dynamic).mpr ⟨hforward, htarget⟩
      cases hact with
      | openRefused hphase _ reason hrefused =>
          simp [lookupOpenConn, Option.mem_def.mp ht, hd] at hrefused
      | openConn hphase _ tunnel dispatch hlookup hdispatch =>
          cases hlookup.symm.trans ht
          intro hiso
          refine h.foreign_clientId hlt hs hother hmem (hiso ⟨opener, t, dispatch, .acking⟩ ?_).1
          exact List.mem_append_right _ (List.mem_singleton_self _)
  | _ => exact hnamed.elim

/-- From an isolated state a step leads to an isolated state exactly when it is
not a foreign opener. -/
theorem System.Lawful.isolated_step_iff {sys sys' : System} {a : Action} (h : sys.Lawful cfg)
    (hlt : sys.clientCounter < 2 ^ 64) (hiso : sys.Isolated) (hstep : step cfg sys a = some sys') :
    sys'.Isolated ↔ ¬NamesForeignTunnel sys a := by
  rcases step_cases hstep with
    ⟨remote, rfl, _, _, heq⟩ | ⟨c, act, old, new, rfl, hold, hact, _, heq⟩
  · refine iff_of_true (fun s hs => ?_) id
    obtain ⟨c, hs⟩ := List.mem_iff_getElem?.mp hs
    rcases accept_session_cases heq hs with hs | ⟨rfl, rfl⟩
    · exact hiso s (List.mem_of_getElem? hs)
    · exact fun task htask => absurd htask (by simp [Session.new])
  · constructor
    · intro hiso' hnamed
      refine h.foreign_not_isolated hlt hold hact hnamed (hiso' new ?_)
      rw [heq]
      exact List.mem_of_getElem? (Indexed.getElem?_set_same hold)
    · intro hnamed
      rw [System.Isolated, heq]
      exact Indexed.forall_mem_set hiso hold fun hsession =>
        h.session_isolated hold hact hsession hnamed

/-- Whatever any number of clients send in whatever order, as long as fewer than
`2 ^ 64` client ids were drawn, all conns stay isolated exactly as long as no opener
names another session's tunnel. -/
theorem isolated_throughout_iff {acts : List Action} {sys : System}
    (hrun : run cfg acts = some sys) (hclients : sys.clientCounter < 2 ^ 64) :
    Transition.Throughout (step cfg) System.Isolated (System.init cfg) acts ↔
      Transition.Guarded (step cfg) (fun sys a => ¬NamesForeignTunnel sys a)
        (System.init cfg) acts := by
  have hback : ∀ s a t, step cfg s a = some t → t.clientCounter < 2 ^ 64 →
      s.clientCounter < 2 ^ 64 :=
    fun _ _ _ hstep => Nat.lt_of_le_of_lt (step_clientCounter hstep)
  exact Transition.throughout_iff_guarded_within hback
    (fun _ _ _ h _ hstep => h.of_step hstep)
    (fun s a t h hiso hlt hstep => h.isolated_step_iff (hback s a t hstep hlt) hiso hstep)
    (System.init_lawful cfg) (fun s hs => absurd hs (by simp [System.init])) hrun hclients

/-- Two clients connect; the first declares one forward TCP tunnel, which gets
the id 1, and the second declares nothing. -/
def twoClients : List Action :=
  [.accept (.v4 ⟨10, 0, 0, 1⟩ 40000), .accept (.v4 ⟨10, 0, 0, 2⟩ 40000)] ++
    establish 0 [.new .forward (.tcp (.v4 ⟨127, 0, 0, 1⟩ 8080) ⟨"10.1.1.1", 80⟩)] ++
    establish 1 []

/-- A conn that session `c` opens on the tunnel with the id 1. -/
def openFirst (c : Nat) : List Action :=
  [.session c (.openConn ⟨1, none⟩), .session c (.replyOpenConn 0 true)]

theorem isolated_throughout_owner :
    Transition.Throughout (step ⟨false, false, none⟩) System.Isolated
      (System.init ⟨false, false, none⟩) (twoClients ++ openFirst 0) :=
  (isolated_throughout_iff (Option.some_get (by decide +kernel)).symm (by decide +kernel)).mpr
    (by decide +kernel)

/-- The second client, which registered nothing, has the server dial the first
client's target and charges the bytes to the first client. -/
theorem intruder_dials_foreign_tunnel :
    ∃ sys, run ⟨false, false, none⟩ (twoClients ++ openFirst 1) = some sys ∧
      ¬sys.Isolated ∧
      (sys.sessions.map fun s => (s.client.id, s.conns.map fun task =>
        (task.tunnel.clientId, task.chargedTo, task.dialed))) =
      [(1, []), (2, [(1, some 1, some (.tcp, ⟨"10.1.1.1", 80⟩))])] := by
  exact ⟨_, (Option.some_get (by decide +kernel)).symm, by decide +kernel, rfl⟩

end Server
end Rusnel
