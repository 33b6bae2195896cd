import Mathlib.Data.List.DropRight
import Rusnel.Server.Ledger

/-!
# The history of disconnects

The registry keeps its last 256 disconnects for the control plane.  What a
disconnect is, is said without the registry: a client that was registered and is
deregistered, once.  The buffer tests its length for equality with the capacity
before it drops its oldest entry, so that it never grows beyond it is a fact
about all earlier pushes.

Main results:

- Definition {lit}`Attendance`: who is there and who has left, after any calls.
- Theorem {lit}`run_kept`: the registry agrees with it.
- Theorem {lit}`run_disconnects`: the buffer is the end of the list of disconnects,
  and a snapshot is read from there, newest first.
-/

namespace Rusnel
namespace Server

open Net

/-! ## The end of a list -/

theorem length_rtake {α : Type*} (l : List α) (n : Nat) : (l.rtake n).length = min l.length n := by
  rw [List.rtake, List.length_drop]
  omega

/-- A buffer that drops its oldest entry when it is full holds the end of what was
pushed. -/
theorem rtake_push {α : Type*} {capacity : Nat} (hcapacity : 0 < capacity) (l : List α) (x : α) :
    (if (l.rtake capacity).length = capacity then (l.rtake capacity).tail else l.rtake capacity)
      ++ [x] = (l ++ [x]).rtake capacity := by
  obtain ⟨n, rfl⟩ := Nat.exists_eq_succ_of_ne_zero (Nat.ne_of_gt hcapacity)
  rw [List.rtake_concat_succ, length_rtake]
  congr 1
  split_ifs with hfull
  · have hstart : l.length - n = l.length - (n + 1) + 1 := by omega
    rw [List.rtake, List.tail_drop, List.rtake, hstart]
  · have hshort : l.length - (n + 1) = 0 ∧ l.length - n = 0 := by omega
    rw [List.rtake, List.rtake, hshort.1, hshort.2]

/-! ## Who is there and who has left -/

/-- A registered client that was deregistered. -/
structure Departure where
  client : UInt64
  remote : SocketAddr
  reason : String
deriving DecidableEq, Repr

structure Attendance where
  /-- The registered clients, with their addresses. -/
  present : UInt64 → Option SocketAddr
  departed : List Departure

namespace Attendance

def start : Attendance where
  present _ := none
  departed := []

def arrive (a : Attendance) (id : UInt64) (remote : SocketAddr) : Attendance :=
  { a with present := Function.update a.present id (some remote) }

def leave (a : Attendance) (id : UInt64) (remote : SocketAddr) (reason : String) : Attendance where
  present := Function.update a.present id none
  departed := a.departed ++ [⟨id, remote, reason⟩]

/-- Only registered clients leave; the other calls do not matter. -/
def step (a : Attendance) : RegistryOp → Attendance
  | .registerClient id remote => a.arrive id remote
  | .deregisterClient id reason =>
      match a.present id with
      | none => a
      | some remote => a.leave id remote reason
  | _ => a

theorem arrive_present (a : Attendance) (id : UInt64) (remote : SocketAddr) (other : UInt64) :
    (a.arrive id remote).present other = if other = id then some remote else a.present other :=
  Function.update_apply a.present id (some remote) other

theorem leave_present (a : Attendance) (id : UInt64) (remote : SocketAddr) (reason : String)
    (other : UInt64) :
    (a.leave id remote reason).present other = if other = id then none else a.present other :=
  Function.update_apply a.present id none other

/-- Everyone who has left, in order. -/
def leavers (a : Attendance) : List UInt64 :=
  a.departed.map (·.client)

theorem leave_leavers (a : Attendance) (id : UInt64) (remote : SocketAddr) (reason : String) :
    (a.leave id remote reason).leavers = a.leavers ++ [id] :=
  List.map_append

def after (ops : List RegistryOp) : Attendance :=
  ops.foldl step start

theorem after_concat (ops : List RegistryOp) (op : RegistryOp) :
    after (ops ++ [op]) = (after ops).step op := by
  rw [after, List.foldl_append]
  rfl

/-- Whoever is there was registered. -/
theorem registered_of_present (ops : List RegistryOp) (id : UInt64) (remote : SocketAddr)
    (h : (after ops).present id = some remote) : RegistryOp.registerClient id remote ∈ ops := by
  induction ops using List.reverseRecOn with
  | nil => cases h
  | append_singleton ops op ih =>
      rw [after_concat] at h
      rw [List.mem_append, List.mem_singleton]
      cases op with
      | registerClient other address =>
          rw [step, arrive_present] at h
          split_ifs at h with heq
          · cases h
            exact .inr (by rw [heq])
          · exact .inl (ih h)
      | deregisterClient other reason =>
          rw [step] at h
          split at h
          · exact .inl (ih h)
          · rw [leave_present] at h
            split_ifs at h
            exact .inl (ih h)
      | _ => exact .inl (ih h)

end Attendance

/-! ## The registry -/

def HistoryEntry.departure (entry : HistoryEntry) : Departure :=
  ⟨entry.clientId, entry.remote, entry.reason⟩

namespace ServerState

/-- The last disconnects, newest first. -/
def historySnapshot (st : ServerState) (limit : Nat) : List HistoryEntry :=
  let take := min limit st.history.length
  st.history.reverse.take take

theorem registerTunnels_frame (client : ClientEntry) (requests : List RemoteRequest)
    (st : ServerState) :
    (st.registerTunnels client requests).1.clients = st.clients ∧
      (st.registerTunnels client requests).1.history = st.history := by
  induction requests generalizing st with
  | nil => exact ⟨rfl, rfl⟩
  | cons request requests ih => exact ih (st.registerTunnel client request).1

/-- Deregistering a registered client pushes its departure. -/
theorem deregisterClient_history {st : ServerState} {id : UInt64} {client : ClientEntry}
    (hclient : st.clients.lookup id = some client) (reason : String) :
    (st.deregisterClient id reason).history.map HistoryEntry.departure =
      (if (st.history.map HistoryEntry.departure).length = historyCapacity
        then (st.history.map HistoryEntry.departure).tail
        else st.history.map HistoryEntry.departure)
      ++ [⟨client.id, client.remote, reason⟩] := by
  obtain ⟨tunnels, conns, entry, ⟨hid, hremote, rfl⟩, heq⟩ :=
    deregisterClient_of_some hclient reason
  have hentry : entry.departure = ⟨client.id, client.remote, entry.reason⟩ := by
    rw [← hid, ← hremote]
    rfl
  rw [heq, pushHistory, List.map_append, List.map_singleton, hentry, List.length_map]
  split_ifs
  · rw [List.map_tail]
  · rfl

end ServerState

/-- The registry agrees with who is there and who has left. -/
structure Kept (a : Attendance) (l : Ledger) : Prop where
  present : ∀ id, a.present id = (l.state.clients.lookup id).map (·.remote)
  named : ∀ id client, l.state.clients.lookup id = some client → client.id = id
  used : ∀ id, id ∉ l.clients → a.present id = none ∧ id ∉ a.leavers
  gone : ∀ id ∈ a.leavers, a.present id = none
  once : a.leavers.Nodup
  history : l.state.history.map HistoryEntry.departure = a.departed.rtake historyCapacity

theorem Kept.init : Kept .start Ledger.init := by
  constructor <;> simp [Attendance.start, Attendance.leavers, Ledger.init, ServerState.new]

/-- A call that is not about clients. -/
theorem Kept.of_frame {a : Attendance} {l l' : Ledger} (h : Kept a l)
    (hclients : l'.state.clients = l.state.clients) (hhistory : l'.state.history = l.state.history)
    (hused : l'.clients = l.clients) : Kept a l' where
  present := by rw [hclients]; exact h.present
  named := by rw [hclients]; exact h.named
  used := by rw [hused]; exact h.used
  gone := h.gone
  once := h.once
  history := by rw [hhistory]; exact h.history

theorem Kept.register {a : Attendance} {l : Ledger} (h : Kept a l) {id : UInt64}
    (hnew : id ∉ l.clients) (remote : SocketAddr) :
    Kept (a.arrive id remote)
      { l with
        state := l.state.registerClient ⟨id, remote, l.clients.length⟩
        clients := l.clients ++ [id] } where
  present other := by
    rw [ServerState.registerClient, Table.lookup_insert_ite, Attendance.arrive_present, h.present]
    split_ifs <;> rfl
  named other client hclient := by
    rw [ServerState.registerClient, Table.lookup_insert_ite] at hclient
    split_ifs at hclient with heq
    · cases hclient
      exact heq.symm
    · exact h.named other client hclient
  used other hother := by
    rw [List.mem_append, List.mem_singleton, not_or] at hother
    rw [Attendance.arrive_present, if_neg hother.2]
    exact h.used other hother.1
  gone other hother := by
    have hne : other ≠ id := by
      rintro rfl
      exact (h.used other hnew).2 hother
    rw [Attendance.arrive_present, if_neg hne]
    exact h.gone other hother
  once := h.once
  history := h.history

theorem Kept.deregister {a : Attendance} {l : Ledger} (h : Kept a l) {id : UInt64}
    {remote : SocketAddr} (hpresent : a.present id = some remote) (reason : String) :
    Kept (a.leave id remote reason) { l with state := l.state.deregisterClient id reason } := by
  obtain ⟨client, hclient, rfl⟩ :=
    Option.map_eq_some_iff.mp ((h.present id).symm.trans hpresent)
  have hfirst : id ∉ a.leavers := by
    intro hmem
    cases (h.gone id hmem).symm.trans hpresent
  have herase := ServerState.deregisterClient_clients l.state id reason
  constructor
  case present =>
    intro other
    rw [herase, Attendance.leave_present, h.present]
    split_ifs with heq
    · rw [heq, AList.lookup_erase]
      rfl
    · rw [AList.lookup_erase_ne heq]
  case named =>
    intro other entry hentry
    rw [herase] at hentry
    exact h.named other entry (Table.lookup_of_erase hentry).2
  case used =>
    intro other hother
    have hne : other ≠ id := by
      rintro rfl
      cases (h.used other hother).1.symm.trans hpresent
    rw [Attendance.leave_leavers, List.mem_append, List.mem_singleton, Attendance.leave_present,
      if_neg hne]
    exact ⟨(h.used other hother).1, not_or.mpr ⟨(h.used other hother).2, hne⟩⟩
  case gone =>
    intro other hother
    rw [Attendance.leave_leavers, List.mem_append, List.mem_singleton] at hother
    rw [Attendance.leave_present]
    split_ifs with heq
    · rfl
    · exact h.gone other (hother.resolve_right heq)
  case once =>
    rw [Attendance.leave_leavers, ← List.concat_eq_append]
    exact h.once.concat hfirst
  case history =>
    rw [ServerState.deregisterClient_history hclient, h.history, h.named id client hclient]
    exact rtake_push (by decide) _ _

/-- A client that is not there cannot be deregistered. -/
theorem Kept.deregister_absent {a : Attendance} {l : Ledger} (h : Kept a l) {id : UInt64}
    (habsent : a.present id = none) (reason : String) :
    l.state.deregisterClient id reason = l.state := by
  rw [h.present, Option.map_eq_none_iff] at habsent
  exact ServerState.deregisterClient_of_none habsent reason

theorem Kept.step {a : Attendance} {l l' : Ledger} (h : Kept a l) {op : RegistryOp}
    (hstep : Ledger.step l op = some l') : Kept (a.step op) l' := by
  cases op with
  | registerClient id remote =>
      simp only [Ledger.step] at hstep
      split_ifs at hstep with hnew
      cases hstep
      exact h.register hnew remote
  | deregisterClient id reason =>
      cases hstep
      rw [Attendance.step]
      split
      case h_1 habsent =>
        rw [h.deregister_absent habsent]
        exact h
      case h_2 remote hpresent => exact h.deregister hpresent reason
  | registerTunnels id requests =>
      simp only [Ledger.step] at hstep
      split at hstep <;> cases hstep
      rename_i client _
      obtain ⟨hclients, hhistory⟩ := ServerState.registerTunnels_frame client requests l.state
      exact h.of_frame hclients hhistory rfl
  | registerConn tunnel peer =>
      obtain ⟨t, -, rfl⟩ := Option.map_eq_some_iff.mp hstep
      exact h.of_frame rfl rfl rfl
  | addIn conn n =>
      obtain ⟨g, -, rfl⟩ := Option.map_eq_some_iff.mp hstep
      have hstate := ServerState.addIn_counters l.state g.conn n
      exact h.of_frame (by rw [hstate]) (by rw [hstate]) rfl
  | addOut conn n =>
      obtain ⟨g, -, rfl⟩ := Option.map_eq_some_iff.mp hstep
      have hstate := ServerState.addOut_counters l.state g.conn n
      exact h.of_frame (by rw [hstate]) (by rw [hstate]) rfl
  | dropGuard conn =>
      obtain ⟨g, -, rfl⟩ := Option.map_eq_some_iff.mp hstep
      exact h.of_frame rfl rfl rfl

theorem run_kept {ops : List RegistryOp} {l : Ledger} (hrun : Ledger.run ops = some l) :
    Kept (.after ops) l := by
  refine Transition.run_induction (P := fun ops l => Kept (.after ops) l) Kept.init ?_ hrun
  intro ops op mid next _ hkept hnext
  rw [Attendance.after_concat]
  exact hkept.step hnext

/-- The buffer holds the last 256 disconnects in order, a client is among them at
most once, and a snapshot is the most recent of them, newest first.  Deregistering
a client that has left or never came changes nothing. -/
theorem run_disconnects {ops : List RegistryOp} {l : Ledger} (hrun : Ledger.run ops = some l) :
    let departed := (Attendance.after ops).departed
    l.state.history.map HistoryEntry.departure = departed.rtake historyCapacity ∧
    l.state.history.length = min departed.length historyCapacity ∧
    (∀ limit, (l.state.historySnapshot limit).map HistoryEntry.departure
      = departed.reverse.take (min limit l.state.history.length)) ∧
    (departed.map (·.client)).Nodup ∧
    ∀ id reason, id ∈ departed.map (·.client) ∨
      (∀ remote, RegistryOp.registerClient id remote ∉ ops) →
      Ledger.step l (.deregisterClient id reason) = some l := by
  intro departed
  have hkept := run_kept hrun
  have hlength : l.state.history.length = min departed.length historyCapacity := by
    rw [← length_rtake, ← hkept.history, List.length_map]
  refine ⟨hkept.history, hlength, fun limit => ?_, hkept.once, fun id reason habsent => ?_⟩
  · have hreversed : (l.state.history.map HistoryEntry.departure).reverse
        = departed.reverse.take historyCapacity := by
      rw [hkept.history, List.rtake_eq_reverse_take_reverse, List.reverse_reverse]
    rw [ServerState.historySnapshot, List.map_take, List.map_reverse, hreversed, List.take_take]
    congr 1
    omega
  · have hpresent : (Attendance.after ops).present id = none := by
      rcases habsent with hleft | hnever
      · exact hkept.gone id hleft
      · cases hremote : (Attendance.after ops).present id with
        | none => rfl
        | some remote =>
            exact absurd (Attendance.registered_of_present ops id remote hremote) (hnever remote)
    rw [Ledger.step, hkept.deregister_absent hpresent]

/-- Two clients leave; one of them is deregistered twice, and a third never came. -/
theorem run_disconnects_pair :
    let address : SocketAddr := .v4 ⟨127, 0, 0, 1⟩ 4433
    let ops : List RegistryOp := [.registerClient 1 address, .registerClient 2 address,
      .deregisterClient 2 "gone", .deregisterClient 2 "again", .deregisterClient 7 "unknown",
      .deregisterClient 1 "bye"]
    ∃ l, Ledger.run ops = some l ∧
      (l.state.historySnapshot 10).map HistoryEntry.departure
        = [⟨1, address, "bye"⟩, ⟨2, address, "gone"⟩] := by
  intro address ops
  have hruns : (Ledger.run ops).isSome := by decide +kernel
  obtain ⟨l, hrun⟩ := Option.isSome_iff_exists.mp hruns
  obtain ⟨_, hlength, hsnapshot, _⟩ := run_disconnects hrun
  refine ⟨l, hrun, (hsnapshot 10).trans ?_⟩
  rw [hlength]
  decide +kernel

end Server
end Rusnel
