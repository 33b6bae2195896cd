import Rusnel.Foundation.Counter
import Rusnel.Server.Interleaved

/-!
# Totals under concurrent closes

A closing conn moves its bytes from its own counters to those of its tunnel, and
the roll-up adds the two.  Whether it counts a conn twice depends on when the
move falls between its reads.

Main results:

- Theorem {lit}`rollUp_not_inflated`: a roll-up that no move overlaps reports at
  most the bytes that were counted, and no more active conns than conns in all.
- Theorem {lit}`rollUp_inflated`: with an overlap it reports more.
-/

namespace Rusnel
namespace Server

open Counter
open ServerState (Totals)

/-! ## The two directions -/

/-- Bytes received and bytes sent are accounted alike. -/
inductive Way where
  | inbound
  | outbound
deriving DecidableEq, Repr

namespace Way

def counter : Way → UInt64 × UInt64 → UInt64
  | .inbound, counters => counters.1
  | .outbound, counters => counters.2

/-- Bytes counted on a conn so far. -/
def bytes : Way → LiveConn → Nat
  | .inbound, c => c.bytesIn
  | .outbound, c => c.bytesOut

def cumulative : Way → TunnelCell → UInt64
  | .inbound, cell => cell.cumulativeIn
  | .outbound, cell => cell.cumulativeOut

def active : Way → Totals → UInt64
  | .inbound, totals => totals.activeIn
  | .outbound, totals => totals.activeOut

def loaded : Way → Totals → UInt64
  | .inbound, totals => totals.cumulativeIn
  | .outbound, totals => totals.cumulativeOut

/-- The conn's bytes have been added to its tunnel. -/
def folded : Way → ConnPoint → Bool
  | _, .foldedOut | _, .unlisted | _, .closed => true
  | .inbound, .foldedIn _ => true
  | _, _ => false

/-- The bytes a closing conn has read and not yet added to its tunnel. -/
def held : Way → ConnPoint → Option UInt64
  | .inbound, .snapped bytesIn _ => some bytesIn
  | .outbound, .snapped _ bytesOut => some bytesOut
  | .outbound, .foldedIn bytesOut => some bytesOut
  | _, _ => none

/-- The visit has still to load what closed conns left. -/
def pending : Way → VisitPoint → Bool
  | _, .conns _ | _, .cumulativeIn => true
  | .outbound, .cumulativeOut => true
  | _, _ => false

/-- Bytes counted on the conns that satisfy `P`. -/
def share (way : Way) (P : LiveConn → Prop) [DecidablePred P] (conns : List LiveConn) : Nat :=
  (conns.map fun c => if P c then way.bytes c else 0).sum

end Way

/-- The conn is in its tunnel's map. -/
def ConnPoint.inMap : ConnPoint → Bool
  | .allocated | .unlisted | .closed => false
  | _ => true

/-- The conn is counted in its tunnel's lifetime count. -/
def ConnPoint.bumped : ConnPoint → Bool
  | .allocated | .listed | .indexed => false
  | _ => true

/-- How many conns satisfy `P`. -/
def connCount (P : LiveConn → Prop) [DecidablePred P] (conns : List LiveConn) : Nat :=
  (conns.map fun c => if P c then 1 else 0).sum

/-! ## What one operation of a conn task does -/

section Advance

variable {st st' : ServerState} {c : LiveConn} {point : ConnPoint}

theorem updateCell_cells (st : ServerState) (tunnel : TunnelEntry) (f : TunnelCell → TunnelCell)
    (arc : Nat) :
    (st.updateCell tunnel f).tunnelCells arc =
      if arc = tunnel.arc then f (st.tunnelCells arc) else st.tunnelCells arc := by
  by_cases harc : arc = tunnel.arc
  · subst harc
    simp [ServerState.updateCell]
  · simp [ServerState.updateCell, harc]

/-- A conn task leaves the byte counters and the client's map alone. -/
theorem advance_frame (h : c.advance st = some (st', point)) :
    st'.nextArc = st.nextArc ∧ st'.counters = st.counters ∧
      st'.clientTunnels = st.clientTunnels := by
  unfold LiveConn.advance at h
  cases hpoint : c.point <;> simp only [hpoint] at h <;> cases h <;> exact ⟨rfl, rfl, rfl⟩

/-- The tunnel's sum grows by the bytes read when they are folded in. -/
theorem advance_cumulative (h : c.advance st = some (st', point)) (way : Way) (arc : Nat) :
    way.cumulative (st'.tunnelCells arc) =
      if arc = c.tunnel.arc ∧ way.folded c.point = false ∧ way.folded point = true then
        way.cumulative (st.tunnelCells arc) + (way.held c.point).getD 0
      else way.cumulative (st.tunnelCells arc) := by
  unfold LiveConn.advance at h
  by_cases harc : arc = c.tunnel.arc <;> cases way <;> cases hpoint : c.point <;>
    simp only [hpoint] at h <;> cases h <;>
    simp [ServerState.listConn, ServerState.indexConn, ServerState.bumpTotal, ServerState.foldIn,
      ServerState.foldOut, ServerState.unlistConn, ServerState.unindexConn, updateCell_cells,
      Way.cumulative, Way.folded, Way.held, harc]

/-- The lifetime count grows when it is bumped. -/
theorem advance_totalConns (h : c.advance st = some (st', point)) (arc : Nat) :
    (st'.tunnelCells arc).totalConns =
      if arc = c.tunnel.arc ∧ c.point.bumped = false ∧ point.bumped = true then
        (st.tunnelCells arc).totalConns + 1
      else (st.tunnelCells arc).totalConns := by
  unfold LiveConn.advance at h
  by_cases harc : arc = c.tunnel.arc <;> cases hpoint : c.point <;>
    simp only [hpoint] at h <;> cases h <;>
    simp [ServerState.listConn, ServerState.indexConn, ServerState.bumpTotal, ServerState.foldIn,
      ServerState.foldOut, ServerState.unlistConn, ServerState.unindexConn, updateCell_cells,
      ConnPoint.bumped, harc]

/-- What a tunnel's map holds after the step: the conn itself, while it is in the
map, or what it held before, where a conn that leaves it is not found any more. -/
theorem advance_lookup (h : c.advance st = some (st', point)) {arc : Nat} {id : UInt64}
    {e : ConnEntry} (he : (st'.tunnelCells arc).conns.lookup id = some e) :
    (arc = c.tunnel.arc ∧ id = c.conn.id ∧ e = c.conn ∧ point.inMap = true) ∨
      ((st.tunnelCells arc).conns.lookup id = some e ∧
        (arc = c.tunnel.arc → id = c.conn.id → c.point.inMap = true → point.inMap = true)) := by
  unfold LiveConn.advance at h
  cases hpoint : c.point with
  | allocated =>
      simp only [hpoint] at h
      cases h
      rw [ServerState.listConn, updateCell_cells] at he
      split_ifs at he with harc
      · rw [Table.lookup_insert_ite] at he
        split_ifs at he with hid
        · cases he
          exact .inl ⟨harc, hid, rfl, rfl⟩
        · exact .inr ⟨he, fun _ h => absurd h hid⟩
      · exact .inr ⟨he, fun h => absurd h harc⟩
  | foldedOut =>
      simp only [hpoint] at h
      cases h
      rw [ServerState.unlistConn, updateCell_cells] at he
      split_ifs at he with harc
      · obtain ⟨hne, he⟩ := Table.lookup_of_erase he
        exact .inr ⟨he, fun _ h => absurd h hne⟩
      · exact .inr ⟨he, fun h => absurd h harc⟩
  | closed => simp [hpoint] at h
  | listed | counting | unlisted =>
      simp only [hpoint] at h
      cases h
      exact .inr ⟨he, fun _ _ h => h⟩
  | indexed | snapped | foldedIn =>
      simp only [hpoint] at h
      cases h
      refine .inr ⟨?_, fun _ _ h => h⟩
      simp only [ServerState.bumpTotal, ServerState.foldIn, ServerState.foldOut,
        updateCell_cells] at he
      split_ifs at he <;> exact he

/-- The bytes a closing conn holds are those it has just read. -/
theorem advance_held (h : c.advance st = some (st', point)) {way : Way} {n : UInt64}
    (hn : way.held point = some n) :
    way.held c.point = some n ∨ n = way.counter (st.counters c.conn.arc) := by
  unfold LiveConn.advance at h
  cases hpoint : c.point <;> simp only [hpoint] at h <;> cases h <;> cases way <;>
    simp_all [Way.held, Way.counter]

/-- Bytes are folded in only where some were read. -/
theorem advance_folds (h : c.advance st = some (st', point)) {way : Way}
    (hbefore : way.folded c.point = false) (hafter : way.folded point = true) :
    ∃ n, way.held c.point = some n := by
  unfold LiveConn.advance at h
  cases hpoint : c.point <;> simp only [hpoint] at h <;> cases h <;> cases way <;>
    simp_all [Way.held, Way.folded]

/-- What was folded in or bumped stays so. -/
theorem advance_mono (h : c.advance st = some (st', point)) :
    (∀ way, Way.folded way c.point = true → way.folded point = true) ∧
      (c.point.bumped = true → point.bumped = true) := by
  unfold LiveConn.advance at h
  constructor
  · intro way
    cases hpoint : c.point <;> simp only [hpoint] at h <;> cases h <;> cases way <;>
      simp [Way.folded]
  · cases hpoint : c.point <;> simp only [hpoint] at h <;> cases h <;> simp [ConnPoint.bumped]

end Advance

/-! ## Sums over the conns only grow -/

/-- A conn after some of its steps. -/
structure LiveConn.Later (old new : LiveConn) : Prop where
  tunnel : new.tunnel = old.tunnel
  conn : new.conn = old.conn
  bytes : ∀ way : Way, way.bytes old ≤ way.bytes new
  folded : ∀ way : Way, way.folded old.point = true → way.folded new.point = true
  bumped : old.point.bumped = true → new.point.bumped = true

/-- The conns after a step: one more, or one of them later. -/
inductive Grows (conns : List LiveConn) : List LiveConn → Prop where
  | same : Grows conns conns
  | started (new : LiveConn) : Grows conns (conns ++ [new])
  | changed (k : Nat) (old new : LiveConn) (hold : conns[k]? = some old)
      (hlater : old.Later new) : Grows conns (conns.set k new)

section Grows

variable {conns conns' : List LiveConn} {P : LiveConn → Prop} [DecidablePred P]

theorem Grows.sum_le (h : Grows conns conns') {f : LiveConn → Nat}
    (hf : ∀ old new, LiveConn.Later old new → f old ≤ f new) :
    (conns.map f).sum ≤ (conns'.map f).sum := by
  cases h with
  | same => exact Nat.le_refl _
  | started new => simp
  | changed k old new hold hlater =>
      have hset := sum_map_set hold new f
      have hle := hf old new hlater
      omega

/-- The number of conns never goes down. -/
theorem Grows.length_le (h : Grows conns conns') : conns.length ≤ conns'.length := by
  cases h <;> simp

theorem Grows.share_le (h : Grows conns conns')
    (hP : ∀ old new, LiveConn.Later old new → P old → P new) (way : Way) :
    way.share P conns ≤ way.share P conns' := by
  refine h.sum_le fun old new hlater => ?_
  by_cases hold : P old
  · rw [if_pos hold, if_pos (hP old new hlater hold)]
    exact hlater.bytes way
  · rw [if_neg hold]
    exact Nat.zero_le _

/-- The bytes a tunnel's sums stand for do not shrink. -/
theorem Grows.folded_share_le (h : Grows conns conns') (way : Way) (arc : Nat) :
    way.share (fun c => c.tunnel.arc = arc ∧ way.folded c.point = true) conns ≤
      way.share (fun c => c.tunnel.arc = arc ∧ way.folded c.point = true) conns' := by
  refine h.share_le ?_ way
  rintro old new hlater ⟨harc, hfolded⟩
  exact ⟨hlater.tunnel ▸ harc, hlater.folded way hfolded⟩

theorem Grows.connCount_le (h : Grows conns conns')
    (hP : ∀ old new, LiveConn.Later old new → P old → P new) :
    connCount P conns ≤ connCount P conns' := by
  refine h.sum_le fun old new hlater => ?_
  by_cases hold : P old
  · rw [if_pos hold, if_pos (hP old new hlater hold)]
  · rw [if_neg hold]
    exact Nat.zero_le _

end Grows

variable {point : ConnPoint} {c : LiveConn}

theorem LiveConn.Later.of_advance {st st' : ServerState} (h : c.advance st = some (st', point)) :
    c.Later { c with point := point } where
  tunnel := rfl
  conn := rfl
  bytes way := by cases way <;> exact Nat.le_refl _
  folded := (advance_mono h).1
  bumped := (advance_mono h).2

/-- Counting bytes on a conn. -/
theorem LiveConn.Later.of_count {c c' : LiveConn} (htunnel : c'.tunnel = c.tunnel)
    (hconn : c'.conn = c.conn) (hpoint : c'.point = c.point)
    (hbytes : ∀ way : Way, way.bytes c ≤ way.bytes c') : c.Later c' where
  tunnel := htunnel
  conn := hconn
  bytes := hbytes
  folded way := by
    rw [hpoint]
    exact id
  bumped := by
    rw [hpoint]
    exact id

theorem bytes_le_addIn (c : LiveConn) (n : Nat) (way : Way) :
    way.bytes c ≤ way.bytes { c with bytesIn := c.bytesIn + n } := by
  cases way <;> simp [Way.bytes]

theorem bytes_le_addOut (c : LiveConn) (n : Nat) (way : Way) :
    way.bytes c ≤ way.bytes { c with bytesOut := c.bytesOut + n } := by
  cases way <;> simp [Way.bytes]

theorem RaceStep.grows {r r' : Race} {a : RaceAction} (h : RaceStep r a r') :
    Grows r.conns r'.conns := by
  cases h with
  | register tunnelId peer tunnel => exact .started _
  | advance k c st point hc hadvance => exact .changed k c _ hc (.of_advance hadvance)
  | addIn k c n hc hpoint =>
      exact .changed k c _ hc (.of_count rfl rfl rfl (bytes_le_addIn c n.toNat))
  | addOut k c n hc hpoint =>
      exact .changed k c _ hc (.of_count rfl rfl rfl (bytes_le_addOut c n.toNat))
  | rollUp a u hstep => exact .same

/-! ## The registry and the conns -/

/-- What the registry holds of the conns, whatever the roll-up does. -/
structure Race.Lawful (r : Race) : Prop where
  arcs : (r.conns.map fun c => c.conn.arc).Nodup
  allocated : ∀ c ∈ r.conns, c.conn.arc < r.state.nextArc
  fresh : ∀ arc, r.state.nextArc ≤ arc → r.state.counters arc = (0, 0)
  /-- A counter may have wrapped, so it shows at most the bytes counted. -/
  counted : ∀ way : Way, ∀ c ∈ r.conns,
    (way.counter (r.state.counters c.conn.arc)).toNat ≤ way.bytes c
  held : ∀ way : Way, ∀ c ∈ r.conns, ∀ n, way.held c.point = some n → n.toNat ≤ way.bytes c
  /-- What is in a tunnel's map is a conn that has not left it. -/
  listed : ∀ arc id e, (r.state.tunnelCells arc).conns.lookup id = some e →
    ∃ c ∈ r.conns, c.tunnel.arc = arc ∧ c.conn = e ∧ e.id = id ∧ c.point.inMap = true
  /-- The tunnel's sums hold the bytes of closed conns and no others. -/
  cumulative : ∀ (way : Way) arc, (way.cumulative (r.state.tunnelCells arc)).toNat ≤
    way.share (fun c => c.tunnel.arc = arc ∧ way.folded c.point = true) r.conns
  totalConns : ∀ arc, (r.state.tunnelCells arc).totalConns =
    .ofNat (connCount (fun c => c.tunnel.arc = arc ∧ c.point.bumped = true) r.conns)
  tunnelArcs : ((r.state.clientTunnels r.client.arc).entries.map fun e => e.2.arc).Nodup

variable {st : ServerState}

section Lawful

variable {r : Race}

/-- Starting to register a conn. -/
theorem Race.Lawful.register (h : r.Lawful) (tunnel : TunnelEntry) (peer : Option String) :
    ({ r with
      state := (r.state.allocConn tunnel peer).1
      conns := r.conns ++
        [⟨tunnel, (r.state.allocConn tunnel peer).2, .allocated, 0, 0⟩] } : Race).Lawful where
  arcs := by
    simp only [List.map_append, List.map_cons, List.map_nil]
    refine h.arcs.append (List.nodup_singleton _) ?_
    simp only [List.disjoint_singleton, List.mem_map, not_exists, not_and]
    intro c hc heq
    exact absurd (h.allocated c hc) (by rw [heq]; exact Nat.lt_irrefl _)
  allocated c hc := by
    rcases List.mem_append.mp hc with hold | hnew
    · exact Nat.lt_succ_of_lt (h.allocated c hold)
    · cases List.mem_singleton.mp hnew
      exact Nat.lt_succ_self _
  fresh arc harc := h.fresh arc (Nat.le_of_succ_le harc)
  counted way c hc := by
    rcases List.mem_append.mp hc with hold | hnew
    · exact h.counted way c hold
    · cases List.mem_singleton.mp hnew
      have hzero : r.state.counters r.state.nextArc = (0, 0) := h.fresh _ (Nat.le_refl _)
      cases way <;> simp [ServerState.allocConn, hzero, Way.counter, Way.bytes]
  held way c hc n hn := by
    rcases List.mem_append.mp hc with hold | hnew
    · exact h.held way c hold n hn
    · cases List.mem_singleton.mp hnew
      cases way <;> cases hn
  listed arc id e he := by
    obtain ⟨c, hc, hrest⟩ := h.listed arc id e he
    exact ⟨c, List.mem_append_left _ hc, hrest⟩
  cumulative way arc := (h.cumulative way arc).trans (Grows.folded_share_le (.started _) way arc)
  totalConns arc := by
    refine (h.totalConns arc).trans ?_
    simp [connCount, ConnPoint.bumped]
  tunnelArcs := h.tunnelArcs

/-- Counting bytes on a conn. -/
theorem Race.Lawful.count (h : r.Lawful) {k : Nat} (c' : LiveConn)
    (counters : Nat → UInt64 × UInt64) (hc : r.conns[k]? = some c) (htunnel : c'.tunnel = c.tunnel)
    (hconn : c'.conn = c.conn) (hpoint : c'.point = c.point)
    (hbytes : ∀ way : Way, way.bytes c ≤ way.bytes c')
    (hothers : ∀ arc, arc ≠ c.conn.arc → counters arc = r.state.counters arc)
    (hcounted : ∀ way : Way, (way.counter (counters c.conn.arc)).toNat ≤ way.bytes c') :
    ({ r with
      state := { r.state with counters := counters }
      conns := r.conns.set k c' } : Race).Lawful where
  arcs := by
    rw [Indexed.map_set_eq hc c' (by rw [hconn])]
    exact h.arcs
  allocated := Indexed.forall_mem_set h.allocated hc fun hlt => by rwa [hconn]
  fresh arc harc := by
    have hlt := h.allocated c (List.mem_of_getElem? hc)
    have hne : arc ≠ c.conn.arc := fun heq => absurd hlt (by rw [← heq]; exact Nat.not_lt.mpr harc)
    exact (hothers arc hne).trans (h.fresh arc harc)
  counted way x hx := by
    obtain ⟨j, hj⟩ := List.mem_iff_getElem?.mp hx
    rcases Indexed.getElem?_set_cases hj with ⟨rfl, rfl⟩ | ⟨hne, hold⟩
    · rw [hconn]
      exact hcounted way
    · simp only [hothers _ fun heq => hne (Indexed.index_unique h.arcs hold hc heq)]
      exact h.counted way x (List.mem_of_getElem? hold)
  held way := Indexed.forall_mem_set (h.held way) hc fun hheld n hn => by
    rw [hpoint] at hn
    exact (hheld n hn).trans (hbytes way)
  listed arc id e he := by
    obtain ⟨x, hx, harc, hentry, hrest⟩ := h.listed arc id e he
    rcases Indexed.eq_or_mem_set hc hx c' with rfl | hmem
    · refine ⟨c', List.mem_of_getElem? (Indexed.getElem?_set_same hc), htunnel ▸ harc,
        hconn ▸ hentry, ?_⟩
      rwa [hpoint]
    · exact ⟨x, hmem, harc, hentry, hrest⟩
  cumulative way arc := by
    have hlater : c.Later c' := .of_count htunnel hconn hpoint hbytes
    exact (h.cumulative way arc).trans (Grows.folded_share_le (.changed k c c' hc hlater) way arc)
  totalConns arc := by
    refine (h.totalConns arc).trans ?_
    simp only [connCount]
    rw [Indexed.map_set_eq hc c' (by simp only [htunnel, hpoint])]
  tunnelArcs := h.tunnelArcs

/-- The tunnel's sums once a conn task has taken its next operation. -/
theorem Race.Lawful.cumulative_advance (h : r.Lawful) {k : Nat} (hc : r.conns[k]? = some c)
    (hadvance : c.advance r.state = some (st, point)) (way : Way) (arc : Nat) :
    (way.cumulative (st.tunnelCells arc)).toNat ≤
      way.share (fun c => c.tunnel.arc = arc ∧ way.folded c.point = true)
        (r.conns.set k { c with point := point }) := by
  have hlater : c.Later { c with point := point } := .of_advance hadvance
  rw [advance_cumulative hadvance way arc]
  have hold := h.cumulative way arc
  split_ifs with hfold
  · obtain ⟨harc, hbefore, hafter⟩ := hfold
    obtain ⟨n, hn⟩ := advance_folds hadvance hbefore hafter
    have hbytes := h.held way c (List.mem_of_getElem? hc) n hn
    have hadd := toNat_add_le (way.cumulative (r.state.tunnelCells arc)) n
    have hset := sum_map_set hc { c with point := point }
      fun c => if c.tunnel.arc = arc ∧ way.folded c.point = true then way.bytes c else 0
    have hsame : way.bytes { c with point := point } = way.bytes c := by cases way <;> rfl
    simp only [harc, hbefore, hafter, hsame, Bool.false_eq_true, and_false, and_self, if_true,
      if_false] at hset
    rw [hn, Option.getD_some]
    simp only [Way.share, harc] at hold hadd ⊢
    omega
  · exact hold.trans (Grows.folded_share_le (.changed k c _ hc hlater) way arc)

/-- The tunnel's count of conns once a conn task has taken its next operation. -/
theorem Race.Lawful.totalConns_advance (h : r.Lawful) {k : Nat} (hc : r.conns[k]? = some c)
    (hadvance : c.advance r.state = some (st, point)) (arc : Nat) :
    (st.tunnelCells arc).totalConns =
      .ofNat (connCount (fun c => c.tunnel.arc = arc ∧ c.point.bumped = true)
        (r.conns.set k { c with point := point })) := by
  rw [advance_totalConns hadvance arc, h.totalConns arc]
  have hset := sum_map_set hc { c with point := point }
    fun c => if c.tunnel.arc = arc ∧ c.point.bumped = true then 1 else 0
  simp only [connCount]
  split_ifs with hbump
  · obtain ⟨harc, hbefore, hafter⟩ := hbump
    simp only [harc, hbefore, hafter, Bool.false_eq_true, and_false, and_self, if_true,
      if_false] at hset
    rw [Nat.add_zero] at hset
    rw [harc, hset, UInt64.ofNat_add]
    rfl
  · have hsame : (c.tunnel.arc = arc ∧ point.bumped = true) ↔
        (c.tunnel.arc = arc ∧ c.point.bumped = true) := by
      have hmono := (LiveConn.Later.of_advance hadvance).bumped
      grind
    simp only [hsame] at hset
    rw [Nat.add_right_cancel hset]

/-- A conn task takes its next operation. -/
theorem Race.Lawful.advance (h : r.Lawful) {k : Nat} (hc : r.conns[k]? = some c)
    (hadvance : c.advance r.state = some (st, point)) :
    ({ r with state := st, conns := r.conns.set k { c with point := point } } : Race).Lawful := by
  obtain ⟨hnext, hcounters, hmaps⟩ := advance_frame hadvance
  have hmem := List.mem_of_getElem? hc
  have hlater : c.Later { c with point := point } := .of_advance hadvance
  constructor
  case arcs =>
    rw [Indexed.map_set_eq hc { c with point := point } rfl]
    exact h.arcs
  case allocated =>
    rw [hnext]
    exact Indexed.forall_mem_set h.allocated hc fun hlt => hlt
  case fresh =>
    rw [hnext, hcounters]
    exact h.fresh
  case counted =>
    intro way
    rw [hcounters]
    exact Indexed.forall_mem_set (h.counted way) hc fun hle => hle.trans (hlater.bytes way)
  case held =>
    intro way
    refine Indexed.forall_mem_set (h.held way) hc fun hheld n hn => ?_
    refine Nat.le_trans ?_ (hlater.bytes way)
    rcases advance_held hadvance hn with hwas | rfl
    · exact hheld n hwas
    · exact h.counted way c hmem
  case listed =>
    intro arc id e he
    have hself : { c with point := point } ∈ r.conns.set k { c with point := point } :=
      List.mem_of_getElem? (Indexed.getElem?_set_same hc)
    rcases advance_lookup hadvance he with ⟨rfl, rfl, rfl, hin⟩ | ⟨hold, hin⟩
    · exact ⟨_, hself, rfl, rfl, rfl, hin⟩
    · obtain ⟨x, hx, harc, hentry, hid, hinMap⟩ := h.listed arc id e hold
      rcases Indexed.eq_or_mem_set hc hx { c with point := point } with rfl | hkept
      · subst hentry
        exact ⟨_, hself, harc, rfl, hid, hin harc.symm hid.symm hinMap⟩
      · exact ⟨x, hkept, harc, hentry, hid, hinMap⟩
  case cumulative => exact h.cumulative_advance hc hadvance
  case totalConns => exact h.totalConns_advance hc hadvance
  case tunnelArcs =>
    rw [hmaps]
    exact h.tunnelArcs

/-- Every step keeps the invariant. -/
theorem Race.Lawful.of_step {r' : Race} {a : RaceAction} (h : r.Lawful)
    (hstep : RaceStep r a r') : r'.Lawful := by
  cases hstep with
  | register tunnelId peer tunnel => exact h.register tunnel peer
  | advance k c st point hc hadvance => exact h.advance hc hadvance
  | addIn k c n hc hpoint =>
      rw [ServerState.addIn_counters]
      refine h.count _ _ hc rfl rfl rfl (bytes_le_addIn c n.toNat)
        (fun arc hne => Function.update_of_ne hne _ _) fun way => ?_
      have hold := h.counted way c (List.mem_of_getElem? hc)
      have hadd := toNat_add_le (r.state.counters c.conn.arc).1 n
      cases way <;> simp only [Way.counter, Way.bytes, Function.update_self] at hold ⊢ <;> omega
  | addOut k c n hc hpoint =>
      rw [ServerState.addOut_counters]
      refine h.count _ _ hc rfl rfl rfl (bytes_le_addOut c n.toNat)
        (fun arc hne => Function.update_of_ne hne _ _) fun way => ?_
      have hold := h.counted way c (List.mem_of_getElem? hc)
      have hadd := toNat_add_le (r.state.counters c.conn.arc).2 n
      cases way <;> simp only [Way.counter, Way.bytes, Function.update_self] at hold ⊢ <;> omega
  | rollUp a u hstep =>
      exact ⟨h.arcs, h.allocated, h.fresh, h.counted, h.held, h.listed, h.cumulative,
        h.totalConns, h.tunnelArcs⟩

end Lawful

/-- Declaring remotes touches no conn and enters records with new allocations. -/
theorem registerTunnels_fresh (client : ClientEntry) (requests : List RemoteRequest)
    (st : ServerState)
    (hnodup : ((st.clientTunnels client.arc).entries.map fun e => e.2.arc).Nodup)
    (hlt : ∀ e ∈ (st.clientTunnels client.arc).entries, e.2.arc < st.nextArc) :
    (st.registerTunnels client requests).1.tunnelCells = st.tunnelCells ∧
      (st.registerTunnels client requests).1.counters = st.counters ∧
      (((st.registerTunnels client requests).1.clientTunnels client.arc).entries.map
        fun e => e.2.arc).Nodup := by
  induction requests generalizing st with
  | nil => exact ⟨rfl, rfl, hnodup⟩
  | cons request requests ih =>
      have hentries : ((st.registerTunnel client request).1.clientTunnels client.arc).entries =
          ⟨(st.registerTunnel client request).2.id, (st.registerTunnel client request).2⟩ ::
            (st.clientTunnels client.arc).entries.kerase
              (st.registerTunnel client request).2.id := by
        simp [ServerState.registerTunnel, ServerState.allocTunnelId,
          ServerState.insertClientTunnel, ServerState.insertTunnel]
      have hsub := List.kerase_sublist (st.registerTunnel client request).2.id
        (st.clientTunnels client.arc).entries
      refine ih (st.registerTunnel client request).1 ?_ ?_
      · rw [hentries, List.map_cons, List.nodup_cons]
        refine ⟨fun hmem => ?_, hnodup.sublist (hsub.map _)⟩
        obtain ⟨e, he, harc⟩ := List.mem_map.mp hmem
        have hold := hlt e (hsub.subset he)
        change e.2.arc = st.nextArc at harc
        omega
      · intro e he
        change e.2.arc < st.nextArc + 1
        rw [hentries] at he
        rcases List.mem_cons.mp he with rfl | hold
        · exact Nat.lt_succ_self _
        · exact Nat.lt_succ_of_lt (hlt e (hsub.subset hold))

theorem Race.init_lawful (client : ClientEntry) (requests : List RemoteRequest) :
    (Race.init client requests).Lawful := by
  obtain ⟨hcells, hcounters, harcs⟩ := registerTunnels_fresh client requests
    (ServerState.new.registerClient client)
    (by simp [ServerState.registerClient, ServerState.new])
    (by simp [ServerState.registerClient, ServerState.new])
  constructor
  case fresh =>
    intro arc _
    exact congrFun hcounters arc
  case listed =>
    intro arc id e he
    simp only [Race.init, hcells] at he
    simp [ServerState.registerClient, ServerState.new] at he
  case cumulative =>
    intro way arc
    simp only [Race.init, hcells]
    cases way <;> simp [ServerState.registerClient, ServerState.new, Way.cumulative]
  case totalConns =>
    intro arc
    simp only [Race.init, hcells]
    rfl
  case tunnelArcs => exact harcs
  all_goals simp [Race.init]

/-! ## Overlap of a roll-up with the conn tasks -/

/-- The roll-up has read this conn's counters and has still to load what closed
conns left on the tunnel. -/
def RollUp.Awaits (way : Way) (conn : ConnEntry) : RollUp → Prop
  | .visiting v _ _ => conn ∈ v.read.map Prod.snd ∧ way.pending v.point = true
  | _ => False

instance (way : Way) (conn : ConnEntry) (u : RollUp) : Decidable (u.Awaits way conn) := by
  unfold RollUp.Awaits
  split <;> infer_instance

/-- The next step of the conn folds no bytes in that the roll-up has read and
awaits. -/
def RollUp.Apart (u : RollUp) (c : LiveConn) : Prop :=
  match c.point with
  | .snapped _ _ => ¬u.Awaits .inbound c.conn
  | .foldedIn _ => ¬u.Awaits .outbound c.conn
  | _ => True

instance (u : RollUp) (c : LiveConn) : Decidable (u.Apart c) := by
  unfold RollUp.Apart
  split <;> infer_instance

/-- No conn that the tunnel under visit holds under this id has folded its bytes
in. -/
def RollUp.ReadsUnfolded (st : ServerState) (conns : List LiveConn) (id : UInt64) :
    RollUp → Prop
  | .visiting v _ _ => ∀ c ∈ conns, (v.cell st).conns.lookup id = some c.conn →
      Way.inbound.folded c.point = false
  | _ => True

instance (st : ServerState) (conns : List LiveConn) (id : UInt64) (u : RollUp) :
    Decidable (u.ReadsUnfolded st conns id) := by
  unfold RollUp.ReadsUnfolded
  split <;> infer_instance

/-- When the conns of the tunnel under visit are counted, each of them is in the
lifetime count. -/
def RollUp.CountsBumped (conns : List LiveConn) : RollUp → Prop
  | .visiting v _ _ => v.point = .activeConns → ∀ c ∈ conns,
      c.tunnel.arc = v.tunnel.arc → c.point.inMap = true → c.point.bumped = true
  | _ => True

instance (conns : List LiveConn) (u : RollUp) : Decidable (u.CountsBumped conns) := by
  unfold RollUp.CountsBumped
  split <;> infer_instance

/-- The step does not overlap: bytes are not folded in while the roll-up awaits
the sum they go to, a conn is not read after its bytes were folded in, and the
conns of a tunnel are not counted while one of them is in the map but not yet in
the lifetime count. -/
def Race.NoOverlap (r : Race) : RaceAction → Prop
  | .advance k => ∀ c ∈ r.conns[k]?, r.rollUp.Apart c
  | .rollUp (.read id) => r.rollUp.ReadsUnfolded r.state r.conns id
  | .rollUp .next => r.rollUp.CountsBumped r.conns
  | _ => True

instance (r : Race) : (a : RaceAction) → Decidable (r.NoOverlap a)
  | .advance k => inferInstanceAs (Decidable (∀ c ∈ r.conns[k]?, r.rollUp.Apart c))
  | .rollUp (.read id) =>
      inferInstanceAs (Decidable (r.rollUp.ReadsUnfolded r.state r.conns id))
  | .rollUp .next => inferInstanceAs (Decidable (r.rollUp.CountsBumped r.conns))
  | .rollUp .start | .rollUp (.visit _) | .register _ _ | .addIn _ _ | .addOut _ _ =>
      inferInstanceAs (Decidable True)

/-- Bytes sent are folded in after bytes received. -/
theorem Way.folded_inbound {way : Way} (h : Way.inbound.folded point = false) :
    way.folded point = false := by
  cases way <;> cases point <;> simp_all [Way.folded]

/-- A step that folds bytes in is not taken while the roll-up awaits the sum. -/
theorem Race.NoOverlap.not_awaits {r : Race} {k : Nat} (h : r.NoOverlap (.advance k))
    (hc : r.conns[k]? = some c) (hadvance : c.advance r.state = some (st, point)) {way : Way}
    (hbefore : way.folded c.point = false) (hafter : way.folded point = true) :
    ¬r.rollUp.Awaits way c.conn := by
  have hguard : r.rollUp.Apart c := h c hc
  unfold RollUp.Apart at hguard
  unfold LiveConn.advance at hadvance
  cases hpoint : c.point <;> simp only [hpoint] at hadvance <;> cases hadvance <;> cases way <;>
    simp_all [Way.folded]

/-! ## What the roll-up has summed up -/

/-- The totals of the tunnel under visit. -/
structure Visit.Sound (conns : List LiveConn) (v : Visit) : Prop where
  keys : ∀ e ∈ v.read, e.2.id = e.1
  /-- So far at most the bytes of the conns read. -/
  active : ∀ way : Way, (way.active v.totals).toNat ≤
    way.share (fun c => c.tunnel.arc = v.tunnel.arc ∧ c.conn ∈ v.read.map Prod.snd) conns
  /-- No conn that was read is in the sum still to be loaded. -/
  apart : ∀ way : Way, way.pending v.point = true → ∀ c ∈ conns,
    c.conn ∈ v.read.map Prod.snd → way.folded c.point = false
  /-- Both terms together are at most the bytes of the tunnel's conns. -/
  loaded : ∀ way : Way, way.pending v.point = false →
    (way.active v.totals).toNat + (way.loaded v.totals).toNat ≤
      way.share (fun c => c.tunnel.arc = v.tunnel.arc) conns
  activeConns : v.point = .totalConns → v.totals.activeConns.toNat ≤
    connCount (fun c => c.tunnel.arc = v.tunnel.arc ∧ c.point.bumped = true) conns

/-- The sum over the tunnels already visited, those not in `todo`. -/
structure SumSound (conns : List LiveConn) (todo : List Nat) (sum : Totals) : Prop where
  bytes : ∀ way : Way, (way.active sum).toNat + (way.loaded sum).toNat ≤
    way.share (fun c => c.tunnel.arc ∉ todo) conns
  activeConns : sum.activeConns.toNat ≤ sum.totalConns.toNat
  totalConns : sum.totalConns.toNat ≤
    connCount (fun c => c.tunnel.arc ∉ todo ∧ c.point.bumped = true) conns

/-- What the roll-up holds so far. -/
def RollUp.Sound (conns : List LiveConn) : RollUp → Prop
  | .idle => True
  | .between todo sum =>
      (todo.map TunnelEntry.arc).Nodup ∧ SumSound conns (todo.map TunnelEntry.arc) sum
  | .visiting v todo sum =>
      (v.tunnel.arc :: todo.map TunnelEntry.arc).Nodup ∧
        SumSound conns (v.tunnel.arc :: todo.map TunnelEntry.arc) sum ∧ v.Sound conns

section Grow

variable {conns conns' : List LiveConn}

theorem SumSound.grow {todo : List Nat} {sum : Totals} (h : SumSound conns todo sum)
    (hgrows : Grows conns conns') : SumSound conns' todo sum where
  bytes way := (h.bytes way).trans (hgrows.share_le (fun _ _ hlater hP => hlater.tunnel ▸ hP) way)
  activeConns := h.activeConns
  totalConns := h.totalConns.trans (hgrows.connCount_le fun _ _ hlater hP =>
    ⟨hlater.tunnel ▸ hP.1, hlater.bumped hP.2⟩)

theorem Visit.Sound.grow {v : Visit} (h : v.Sound conns) (hgrows : Grows conns conns')
    (hapart : ∀ way : Way, way.pending v.point = true → ∀ c ∈ conns',
      c.conn ∈ v.read.map Prod.snd → way.folded c.point = false) : v.Sound conns' where
  keys := h.keys
  active way := (h.active way).trans (hgrows.share_le (fun _ _ hlater hP =>
    ⟨hlater.tunnel ▸ hP.1, hlater.conn ▸ hP.2⟩) way)
  apart := hapart
  loaded way hway := (h.loaded way hway).trans
    (hgrows.share_le (fun _ _ hlater hP => hlater.tunnel ▸ hP) way)
  activeConns hpoint := (h.activeConns hpoint).trans (hgrows.connCount_le fun _ _ hlater hP =>
    ⟨hlater.tunnel ▸ hP.1, hlater.bumped hP.2⟩)

/-- Steps of the conn tasks keep what the roll-up holds, as long as they fold
nothing in that it awaits. -/
theorem RollUp.Sound.grow {u : RollUp} (h : u.Sound conns) (hgrows : Grows conns conns')
    (hapart : ∀ way c, c ∈ conns' → u.Awaits way c.conn → way.folded c.point = false) :
    u.Sound conns' := by
  cases u with
  | idle => trivial
  | between todo sum => exact ⟨h.1, h.2.grow hgrows⟩
  | visiting v todo sum =>
      refine ⟨h.1, h.2.1.grow hgrows, h.2.2.grow hgrows fun way hpending c hc hread => ?_⟩
      exact hapart way c hc ⟨hread, hpending⟩

end Grow

/-- Before the step nothing that the roll-up awaits was folded in. -/
theorem RollUp.Sound.apart {conns : List LiveConn} {u : RollUp} (h : u.Sound conns) {way : Way}
    (hc : c ∈ conns) (hawaits : u.Awaits way c.conn) : way.folded c.point = false := by
  cases u with
  | idle => exact hawaits.elim
  | between todo sum => exact hawaits.elim
  | visiting v todo sum => exact h.2.2.apart way hawaits.2 c hc hawaits.1

/-! ## Steps of the roll-up -/

section Steps

variable {r : Race} {v : Visit}

theorem connCount_le_length (P : LiveConn → Prop) [DecidablePred P] (conns : List LiveConn) :
    connCount P conns ≤ conns.length := by
  rw [connCount, sum_ite_one]
  exact List.length_filter_le _ _

/-- A tunnel's map is no larger than the number of conns that are in it. -/
theorem Race.Lawful.length_entries_le (h : r.Lawful) (arc : Nat) :
    (r.state.tunnelCells arc).conns.entries.length ≤
      connCount (fun c => c.tunnel.arc = arc ∧ c.point.inMap = true) r.conns := by
  let entries := (r.state.tunnelCells arc).conns.entries
  have hlisted : ∀ e ∈ entries, ∃ c ∈ r.conns, c.tunnel.arc = arc ∧ c.conn = e.2 ∧
      e.2.id = e.1 ∧ c.point.inMap = true :=
    fun e he => h.listed arc e.1 e.2 (AList.mem_lookup_iff.mpr he)
  -- The conns in the map are distinct because their ids, the keys, are.
  have hnodup : (entries.map fun e => e.2).Nodup := by
    refine List.Nodup.of_map ConnEntry.id ?_
    have hkeys : (entries.map fun e => e.2).map ConnEntry.id = entries.map Sigma.fst := by
      rw [List.map_map]
      exact List.map_congr_left fun e he => (hlisted e he).choose_spec.2.2.2.1
    rw [hkeys]
    exact (r.state.tunnelCells arc).conns.nodupKeys
  have hsub : (entries.map fun e => e.2) ⊆
      (r.conns.filter fun c => c.tunnel.arc = arc ∧ c.point.inMap = true).map LiveConn.conn := by
    intro conn hconn
    obtain ⟨e, he, rfl⟩ := List.mem_map.mp hconn
    obtain ⟨c, hc, harc, hentry, _, hin⟩ := hlisted e he
    exact List.mem_map.mpr ⟨c, List.mem_filter.mpr ⟨hc, by simp [harc, hin]⟩, hentry⟩
  have hle := (List.subperm_of_subset hnodup hsub).length_le
  rw [connCount, sum_ite_one]
  simpa using hle

/-- Reading a conn that has not been folded in. -/
theorem Visit.Sound.readConn (h : v.Sound r.conns) (hlawful : r.Lawful) {present : List UInt64}
    (hpoint : v.point = .conns present) {id : UInt64} {conn : ConnEntry}
    (hfound : (v.cell r.state).conns.lookup id = some conn) (hnew : id ∉ v.read.map Prod.fst)
    (hunfolded : ∀ c ∈ r.conns, (v.cell r.state).conns.lookup id = some c.conn →
      Way.inbound.folded c.point = false) : (v.readConn r.state id conn).Sound r.conns := by
  obtain ⟨c, hc, harc, rfl, hid, _⟩ := hlawful.listed _ _ _ hfound
  have hnotRead : c.conn ∉ v.read.map Prod.snd := by
    intro hmem
    obtain ⟨e, he, heq⟩ := List.mem_map.mp hmem
    refine hnew (List.mem_map.mpr ⟨e, he, ?_⟩)
    rw [← h.keys e he, heq, hid]
  constructor
  case keys =>
    intro e he
    rcases List.mem_cons.mp he with rfl | hold
    · exact hid
    · exact h.keys e hold
  case active =>
    intro way
    have hold := h.active way
    have hcounter := hlawful.counted way c hc
    have hadd := toNat_add_le (way.active v.totals) (way.counter (r.state.counters c.conn.arc))
    have htotal : way.active (v.readConn r.state id c.conn).totals =
        way.active v.totals + way.counter (r.state.counters c.conn.arc) := by
      cases way <;> rfl
    -- Only the share of the conn just read is new.
    have hchange := sum_map_change (fun c : LiveConn => c.conn.arc) hlawful.arcs hc
      (f := fun c' => if c'.tunnel.arc = v.tunnel.arc ∧
        c'.conn ∈ c.conn :: v.read.map Prod.snd then way.bytes c' else 0)
      (g := fun c' => if c'.tunnel.arc = v.tunnel.arc ∧
        c'.conn ∈ v.read.map Prod.snd then way.bytes c' else 0)
      (fun other _ hne => by
        have hother : other.conn ≠ c.conn := fun heq => hne (congrArg ConnEntry.arc heq)
        simp only [List.mem_cons, hother, false_or])
    simp only [harc, hnotRead, List.mem_cons_self, and_self, and_false, if_true, if_false,
      Nat.add_zero] at hchange
    rw [htotal]
    simp only [Way.share, Visit.readConn, List.map_cons] at hold ⊢
    omega
  case apart =>
    intro way hpending other hother hread
    rcases List.mem_cons.mp hread with heq | hold
    · exact Way.folded_inbound (hunfolded other hother (heq ▸ hfound))
    · exact h.apart way hpending other hother hold
  case loaded =>
    intro way hway
    cases way <;> simp [Visit.readConn, hpoint, Way.pending] at hway
  case activeConns =>
    intro hat
    simp [Visit.readConn, hpoint] at hat

/-- What closed conns left and what was read are bytes of different conns. -/
theorem Visit.Sound.load (h : v.Sound r.conns) (hlawful : r.Lawful) (way : Way)
    (hpending : way.pending v.point = true) :
    (way.active v.totals).toNat + (way.cumulative (v.cell r.state)).toNat ≤
      way.share (fun c => c.tunnel.arc = v.tunnel.arc) r.conns := by
  have hsplit := sum_ite_add_le r.conns
    (P := fun c => c.tunnel.arc = v.tunnel.arc ∧ c.conn ∈ v.read.map Prod.snd)
    (Q := fun c => c.tunnel.arc = v.tunnel.arc ∧ way.folded c.point = true)
    (R := fun c => c.tunnel.arc = v.tunnel.arc) way.bytes
    (fun _ _ hP => hP.1) (fun _ _ hQ => hQ.1)
    (fun c hc hP hQ => by simp [h.apart way hpending c hc hP.2] at hQ)
  exact (Nat.add_le_add (h.active way) (hlawful.cumulative way v.tunnel.arc)).trans hsplit

/-- The steps of a visit up to its last. -/
theorem Visit.Sound.next (h : v.Sound r.conns) {point : VisitPoint} {totals : Totals}
    (hactive : ∀ way : Way, way.active totals = way.active v.totals)
    (hpending : ∀ way : Way, way.pending point = true → way.pending v.point = true)
    (hloaded : ∀ way : Way, way.pending point = false →
      (way.active totals).toNat + (way.loaded totals).toNat ≤
        way.share (fun c => c.tunnel.arc = v.tunnel.arc) r.conns)
    (hcount : point = .totalConns → totals.activeConns.toNat ≤
      connCount (fun c => c.tunnel.arc = v.tunnel.arc ∧ c.point.bumped = true) r.conns) :
    ({ v with totals := totals, point := point } : Visit).Sound r.conns where
  keys := h.keys
  active way := by
    rw [hactive way]
    exact h.active way
  apart way hway := h.apart way (hpending way hway)
  loaded := hloaded
  activeConns := hcount

/-- The totals of a visited tunnel join the sum. -/
theorem SumSound.add {todo : List Nat} {sum totals : Totals} {arc : Nat}
    (h : SumSound r.conns (arc :: todo) sum) (hnew : arc ∉ todo)
    (hlt : r.conns.length < 2 ^ 64)
    (hbytes : ∀ way : Way, (way.active totals).toNat + (way.loaded totals).toNat ≤
      way.share (fun c => c.tunnel.arc = arc) r.conns)
    (hactive : totals.activeConns.toNat ≤
      connCount (fun c => c.tunnel.arc = arc ∧ c.point.bumped = true) r.conns)
    (htotal : totals.totalConns = .ofNat
      (connCount (fun c => c.tunnel.arc = arc ∧ c.point.bumped = true) r.conns)) :
    SumSound r.conns todo (sum.add totals) := by
  have hcount := sum_ite_add_le r.conns
    (P := fun c => c.tunnel.arc ∉ arc :: todo ∧ c.point.bumped = true)
    (Q := fun c => c.tunnel.arc = arc ∧ c.point.bumped = true)
    (R := fun c => c.tunnel.arc ∉ todo ∧ c.point.bumped = true) (fun _ => 1)
    (fun c _ hP => ⟨fun hmem => hP.1 (List.mem_cons_of_mem _ hmem), hP.2⟩)
    (fun c _ hQ => ⟨hQ.1 ▸ hnew, hQ.2⟩)
    (fun c _ hP hQ => hP.1 (hQ.1 ▸ List.mem_cons_self))
  have hle := connCount_le_length (fun c => c.tunnel.arc ∉ todo ∧ c.point.bumped = true) r.conns
  have hold := h.totalConns
  simp only [connCount] at hcount hle hold hactive htotal
  have hnat : totals.totalConns.toNat =
      (r.conns.map fun c => if c.tunnel.arc = arc ∧ c.point.bumped = true then 1 else 0).sum := by
    rw [htotal, UInt64.toNat_ofNat_of_lt']
    exact Nat.lt_of_le_of_lt (by omega) hlt
  have hsum : (sum.totalConns + totals.totalConns).toNat =
      sum.totalConns.toNat + totals.totalConns.toNat := toNat_add (by omega)
  constructor
  case bytes =>
    intro way
    have hsplit := sum_ite_add_le r.conns
      (P := fun c => c.tunnel.arc ∉ arc :: todo) (Q := fun c => c.tunnel.arc = arc)
      (R := fun c => c.tunnel.arc ∉ todo) way.bytes
      (fun c _ hP hmem => hP (List.mem_cons_of_mem _ hmem)) (fun c _ hQ => hQ ▸ hnew)
      (fun c _ hP hQ => hP (hQ ▸ List.mem_cons_self))
    have hsum := h.bytes way
    have hnew := hbytes way
    have hactive : way.active (sum.add totals) = way.active sum + way.active totals := by
      cases way <;> rfl
    have hloaded : way.loaded (sum.add totals) = way.loaded sum + way.loaded totals := by
      cases way <;> rfl
    have hadd := toNat_add_le (way.active sum) (way.active totals)
    have hadd' := toNat_add_le (way.loaded sum) (way.loaded totals)
    rw [hactive, hloaded]
    simp only [Way.share] at hsum hnew hsplit ⊢
    omega
  case activeConns =>
    change (sum.activeConns + totals.activeConns).toNat ≤ _
    have hadd := toNat_add_le sum.activeConns totals.activeConns
    have hconns := h.activeConns
    change _ ≤ (sum.totalConns + totals.totalConns).toNat
    omega
  case totalConns =>
    change (sum.totalConns + totals.totalConns).toNat ≤ _
    simp only [connCount]
    omega

/-- A step of the roll-up that overlaps with nothing keeps what it holds. -/
theorem RollUp.Sound.of_step {u' : RollUp} {a : RollUpAction} (h : r.rollUp.Sound r.conns)
    (hlawful : r.Lawful) (hlt : r.conns.length < 2 ^ 64) (hguard : r.NoOverlap (.rollUp a))
    (hstep : RollUpStep r.client r.state r.rollUp a u') : u'.Sound r.conns := by
  generalize hu : r.rollUp = u at h hstep
  cases hstep with
  | start =>
      refine ⟨by simpa [Function.comp_def] using hlawful.tunnelArcs, fun way => ?_, ?_, ?_⟩
      · cases way <;> exact Nat.zero_le _
      · exact Nat.le_refl _
      · exact Nat.zero_le _
  | visit todo sum i tunnel present htunnel =>
      obtain ⟨hnodup, hsum⟩ := h
      have hperm : (tunnel.arc :: (todo.eraseIdx i).map TunnelEntry.arc).Perm
          (todo.map TunnelEntry.arc) := by
        obtain ⟨hi, rfl⟩ := List.getElem?_eq_some_iff.mp htunnel
        exact (List.getElem_cons_eraseIdx_perm hi).map TunnelEntry.arc
      refine ⟨hperm.nodup_iff.mpr hnodup, ⟨fun way => ?_, hsum.activeConns, ?_⟩, ?_⟩
      · simpa only [Way.share, hperm.mem_iff] using hsum.bytes way
      · simpa only [connCount, hperm.mem_iff] using hsum.totalConns
      · constructor
        case active => intro way; cases way <;> exact Nat.zero_le _
        case loaded => intro way hway; cases way <;> simp [Way.pending] at hway
        all_goals simp
  | read v todo sum present id conn hpoint hfound hnew =>
      change r.rollUp.ReadsUnfolded r.state r.conns id at hguard
      rw [hu] at hguard
      exact ⟨h.1, h.2.1, h.2.2.readConn hlawful hpoint hfound hnew hguard⟩
  | exhausted v todo sum present hpoint =>
      refine ⟨h.1, h.2.1, h.2.2.next (fun _ => rfl) (fun way _ => ?_) (fun way hway => ?_)
        (by simp)⟩
      · cases way <;> simp [hpoint, Way.pending]
      · cases way <;> simp [Way.pending] at hway
  | cumulativeIn v todo sum hpoint =>
      have hload := h.2.2.load hlawful .inbound (by simp [hpoint, Way.pending])
      refine ⟨h.1, h.2.1, h.2.2.next (fun way => by cases way <;> rfl)
        (fun way _ => ?_) (fun way hway => ?_) (by simp)⟩
      · cases way <;> simp [hpoint, Way.pending]
      · cases way with
        | inbound => exact hload
        | outbound => simp [Way.pending] at hway
  | cumulativeOut v todo sum hpoint =>
      have hload := h.2.2.load hlawful .outbound (by simp [hpoint, Way.pending])
      refine ⟨h.1, h.2.1, h.2.2.next (fun way => by cases way <;> rfl)
        (fun way hway => ?_) (fun way _ => ?_) (by simp)⟩
      · cases way <;> simp [Way.pending] at hway
      · cases way with
        | inbound => exact h.2.2.loaded .inbound (by simp [hpoint, Way.pending])
        | outbound => exact hload
  | activeConns v todo sum hpoint =>
      refine ⟨h.1, h.2.1, h.2.2.next (fun way => by cases way <;> rfl)
        (fun way hway => ?_) (fun way _ => ?_) (fun _ => ?_)⟩
      · cases way <;> simp [Way.pending] at hway
      · have hloaded := h.2.2.loaded way (by cases way <;> simp [hpoint, Way.pending])
        cases way <;> exact hloaded
      · change r.rollUp.CountsBumped r.conns at hguard
        rw [hu] at hguard
        have hlen := hlawful.length_entries_le v.tunnel.arc
        have hbumped : connCount (fun c => c.tunnel.arc = v.tunnel.arc ∧ c.point.inMap = true)
            r.conns ≤ connCount
              (fun c => c.tunnel.arc = v.tunnel.arc ∧ c.point.bumped = true) r.conns := by
          apply List.sum_le_sum
          intro c hc
          by_cases hin : c.tunnel.arc = v.tunnel.arc ∧ c.point.inMap = true
          · simp [hin.1, hin.2, hguard hpoint c hc hin.1 hin.2]
          · rw [if_neg hin]
            exact Nat.zero_le _
        refine Nat.le_trans ?_ (hlen.trans hbumped)
        rw [UInt64.toNat_ofNat']
        exact Nat.mod_le _ _
  | totalConns v todo sum hpoint =>
      obtain ⟨hnodup, hsum, hvisit⟩ := h
      rw [List.nodup_cons] at hnodup
      refine ⟨hnodup.2, hsum.add hnodup.1 hlt (fun way => ?_) (hvisit.activeConns hpoint)
        (hlawful.totalConns v.tunnel.arc)⟩
      have hloaded := hvisit.loaded way (by cases way <;> simp [hpoint, Way.pending])
      cases way <;> exact hloaded

end Steps

/-! ## Runs -/

/-- A step that overlaps with nothing keeps both invariants. -/
theorem Race.Lawful.sound_step {r r' : Race} {a : RaceAction} (h : r.Lawful)
    (hsound : r.rollUp.Sound r.conns) (hguard : r.NoOverlap a)
    (hlt : r'.conns.length < 2 ^ 64) (hstep : RaceStep r a r') : r'.rollUp.Sound r'.conns := by
  have hgrows := hstep.grows
  cases hstep with
  | register tunnelId peer tunnel =>
      refine hsound.grow hgrows fun way c hc hawaits => ?_
      rcases List.mem_append.mp hc with hold | hnew
      · exact hsound.apart hold hawaits
      · cases List.mem_singleton.mp hnew
        cases way <;> rfl
  | advance k c st point hc hadvance =>
      refine hsound.grow hgrows fun way c' hc' hawaits => ?_
      rcases List.mem_or_eq_of_mem_set hc' with hold | rfl
      · exact hsound.apart hold hawaits
      · have hbefore := hsound.apart (List.mem_of_getElem? hc) hawaits
        by_contra hafter
        rw [Bool.not_eq_false] at hafter
        exact hguard.not_awaits hc hadvance hbefore hafter hawaits
  | addIn k c n hc hpoint | addOut k c n hc hpoint =>
      refine hsound.grow hgrows fun way c' hc' hawaits => ?_
      rcases List.mem_or_eq_of_mem_set hc' with hold | rfl
      · exact hsound.apart hold hawaits
      · have hbefore : way.folded c.point = false :=
          hsound.apart (List.mem_of_getElem? hc) hawaits
        exact hbefore
  | rollUp a u hstep => exact hsound.of_step h hlt hguard hstep

/-- As long as no step overlaps, a finished roll-up reports at most the bytes
counted on the client's conns, and at most as many active conns as conns in all,
however the steps of the roll-up and of the conn tasks interleave. -/
theorem rollUp_not_inflated {client : ClientEntry} {requests : List RemoteRequest}
    {acts : List RaceAction} {r : Race} {sum : Totals}
    (hrun : Transition.run Race.step (Race.init client requests) acts = some r)
    (hguarded : Transition.Guarded Race.step Race.NoOverlap (Race.init client requests) acts)
    (hlt : r.conns.length < 2 ^ 64) (hdone : r.rollUp = .between [] sum) :
    (sum.activeIn + sum.cumulativeIn).toNat ≤ (r.conns.map LiveConn.bytesIn).sum ∧
      (sum.activeOut + sum.cumulativeOut).toNat ≤ (r.conns.map LiveConn.bytesOut).sum ∧
      sum.activeConns ≤ sum.totalConns := by
  have hinv : r.Lawful ∧ r.rollUp.Sound r.conns :=
    Transition.guarded_invariant_within (P := fun r => r.Lawful ∧ r.rollUp.Sound r.conns)
      (B := fun r => r.conns.length < 2 ^ 64)
      (fun _ _ _ hstep => Nat.lt_of_le_of_lt (Race.step_cases hstep).grows.length_le)
      (fun _ _ _ h hguard hlt hstep => ⟨h.1.of_step (Race.step_cases hstep),
        h.1.sound_step h.2 hguard hlt (Race.step_cases hstep)⟩)
      ⟨Race.init_lawful client requests, trivial⟩ hguarded hrun hlt
  have hsound := hinv.2
  rw [hdone] at hsound
  have hbytes := hsound.2.bytes
  simp only [List.map_nil, List.not_mem_nil, not_false_eq_true, Way.share, if_true] at hbytes
  refine ⟨?_, ?_, hsound.2.activeConns⟩
  · exact (toNat_add_le _ _).trans (hbytes .inbound)
  · exact (toNat_add_le _ _).trans (hbytes .outbound)

/-- A client with one reverse tunnel, on which one conn is registered and
receives ten bytes. -/
def oneConn : List RaceAction :=
  [.register 1 none, .advance 0, .advance 0, .advance 0, .addIn 0 10]

/-- The roll-up comes to the tunnel. -/
def rollUpVisits : List RaceAction :=
  [.rollUp .start, .rollUp (.visit 0)]

/-- The roll-up loads the tunnel's own counters after the conns. -/
def rollUpLoads : List RaceAction :=
  [.rollUp .next, .rollUp .next, .rollUp .next, .rollUp .next, .rollUp .next]

def sampleRace : Race :=
  .init ⟨1, .v4 .localhost 40000, 0⟩ [.new .reverse (.tcp (.v4 .localhost 8080) ⟨"host", 80⟩)]

theorem rollUp_not_inflated_oneConn :
    ∃ r sum, Transition.run Race.step sampleRace
        (oneConn ++ rollUpVisits ++ [.rollUp (.read 1)] ++ rollUpLoads ++ [.advance 0]) = some r ∧
      r.rollUp = .between [] sum ∧ (sum.activeIn + sum.cumulativeIn).toNat ≤ 10 := by
  have hcheck : ((Transition.run Race.step sampleRace
      (oneConn ++ rollUpVisits ++ [.rollUp (.read 1)] ++ rollUpLoads ++ [.advance 0])).any
        fun r => decide (r.rollUp = .between [] ⟨10, 0, 0, 0, 1, 1⟩ ∧
          (r.conns.map LiveConn.bytesIn).sum = 10 ∧ r.conns.length < 2 ^ 64)) = true := by
    decide +kernel
  obtain ⟨r, hrun, hr⟩ := (Option.any_eq_true _ _).mp hcheck
  obtain ⟨hdone, hten, hlt⟩ := of_decide_eq_true hr
  refine ⟨r, _, hrun, hdone, ?_⟩
  rw [← hten]
  exact (rollUp_not_inflated hrun (by decide +kernel) hlt hdone).1

/-- The conn closes between the roll-up's read of its counters and the load of
the tunnel's sums: its ten bytes are reported as twenty.  And a conn that is in
the tunnel's map but not yet in its lifetime count makes the active conns one
more than all conns. -/
theorem rollUp_inflated :
    (∃ r sum, Transition.run Race.step sampleRace (oneConn ++ rollUpVisits ++
        [.rollUp (.read 1), .advance 0, .advance 0] ++ rollUpLoads) = some r ∧
      r.rollUp = .between [] sum ∧ (r.conns.map LiveConn.bytesIn).sum = 10 ∧
      sum.activeIn + sum.cumulativeIn = 20) ∧
    ∃ r sum, Transition.run Race.step sampleRace
        ([.register 1 none, .advance 0] ++ rollUpVisits ++ [.rollUp (.read 1)] ++ rollUpLoads) =
          some r ∧
      r.rollUp = .between [] sum ∧ sum.activeConns = 1 ∧ sum.totalConns = 0 := by
  refine ⟨⟨_, _, (Option.some_get (by decide +kernel)).symm, rfl, ?_, ?_⟩,
    ⟨_, _, (Option.some_get (by decide +kernel)).symm, rfl, ?_, ?_⟩⟩ <;> decide +kernel

end Server
end Rusnel
