import Rusnel.Foundation.Indexed
import Rusnel.Foundation.Table
import Rusnel.Foundation.Transition
import Rusnel.Common.Datagram

/-!
# The table of UDP conns

A UDP listener keeps one conn per key and hands each datagram to the conn of its
key through a bounded channel.  Its receive loop looks the key up, drops an entry
whose conn has terminated and opens a new conn where there is none; a conn task
removes its key from the table after its run has ended.  Loop and tasks run
concurrently, and every map or channel call is one step.

The loop of a UDP tunnel (keyed by source) and the one of a SOCKS5 association
(keyed by source and target) are the same up to the key and the capacity.

Main results:

- Theorem {lit}`safe_throughout_iff`: every entry belongs to the conn that is
  open under its key, and tasks remove only their own entries, exactly as long
  as no conn is opened for a key whose previous conn has ended but not yet
  removed it.
- Theorem {lit}`live_conn_dropped`: otherwise a live conn is dropped.
-/

namespace Rusnel
namespace UdpTable

open Net

/-! ## The relay -/

/-- Where a conn task stands. -/
inductive Stage where
  /-- Its run is under way and its receiver open. -/
  | running
  /-- Its run has ended and the receiver is dropped; the key is still to be
  removed. -/
  | ended
  /-- The key was removed and the task is gone. -/
  | finished
deriving DecidableEq, Repr

/-- A conn task with the datagrams waiting in its channel.  The task's number in
the order of spawning stands for its channel. -/
structure Conn (κ : Type) where
  key : κ
  stage : Stage
  queue : List Datagram
deriving DecidableEq, Repr

/-- Control point of the receive loop. -/
inductive Loop (κ : Type) where
  /-- Waiting for a datagram. -/
  | receiving
  /-- A datagram arrived; its key is to be looked up. -/
  | received (key : κ) (payload : Datagram)
  /-- An entry was found; it is to be asked whether it is closed. -/
  | found (key : κ) (payload : Datagram) (sender : Nat)
  /-- The entry is closed and is to be removed. -/
  | closed (key : κ) (payload : Datagram) (sender : Nat)
  /-- There is no conn for the key. -/
  | opening (key : κ) (payload : Datagram)
  /-- The datagram is to be handed to this conn. -/
  | sending (sender : Nat) (payload : Datagram)
deriving DecidableEq, Repr

/-- The table, every conn spawned so far, and the loop. -/
structure Relay (κ : Type) where
  conns : AList fun _ : κ => Nat
  tasks : List (Conn κ)
  loop : Loop κ

/-- A listener that has just bound its socket. -/
def Relay.init (κ : Type) : Relay κ where
  conns := ∅
  tasks := []
  loop := .receiving

/-- The steps of the loop and of the conn tasks. -/
inductive Action (κ : Type) where
  | recvFrom (key : κ) (payload : Datagram)
  | get
  | isClosed
  | remove
  | insertSpawn
  | trySend
  /-- Conn `n` takes a datagram from its channel. -/
  | recv (n : Nat)
  /-- The run of conn `n` ends and its receiver is dropped. -/
  | runEnds (n : Nat)
  /-- Conn `n` removes its key. -/
  | finalRemove (n : Nat)
deriving DecidableEq, Repr

variable {κ : Type} [DecidableEq κ]

/-- One step; channels hold at most `capacity` datagrams. -/
def step (capacity : Nat) (s : Relay κ) : Action κ → Option (Relay κ)
  | .recvFrom key payload =>
      match s.loop with
      | .receiving => some { s with loop := .received key payload }
      | _ => none
  | .get =>
      match s.loop with
      | .received key payload =>
          match s.conns.lookup key with
          | some sender => some { s with loop := .found key payload sender }
          | none => some { s with loop := .opening key payload }
      | _ => none
  | .isClosed =>
      match s.loop with
      | .found key payload sender =>
          match s.tasks[sender]? with
          | none => none
          | some conn =>
              if conn.stage = .running then some { s with loop := .sending sender payload }
              else some { s with loop := .closed key payload sender }
      | _ => none
  | .remove =>
      match s.loop with
      | .closed key payload _ =>
          some { s with conns := s.conns.erase key, loop := .opening key payload }
      | _ => none
  | .insertSpawn =>
      match s.loop with
      | .opening key payload =>
          some { s with
            conns := s.conns.insert key s.tasks.length
            tasks := s.tasks ++ [⟨key, .running, []⟩]
            loop := .sending s.tasks.length payload }
      | _ => none
  | .trySend =>
      match s.loop with
      | .sending sender payload =>
          match s.tasks[sender]? with
          | none => none
          | some conn =>
              -- A full or closed channel drops the datagram.
              let queue :=
                if conn.stage = .running ∧ conn.queue.length < capacity then
                  conn.queue ++ [payload]
                else conn.queue
              some { s with
                tasks := s.tasks.set sender { conn with queue := queue }
                loop := .receiving }
      | _ => none
  | .recv n =>
      match s.tasks[n]? with
      | some ⟨key, .running, _ :: queue⟩ =>
          some { s with tasks := s.tasks.set n ⟨key, .running, queue⟩ }
      | _ => none
  | .runEnds n =>
      match s.tasks[n]? with
      | some ⟨key, .running, _⟩ =>
          some { s with tasks := s.tasks.set n ⟨key, .ended, []⟩ }
      | _ => none
  | .finalRemove n =>
      match s.tasks[n]? with
      | some ⟨key, .ended, queue⟩ =>
          some { s with
            conns := s.conns.erase key
            tasks := s.tasks.set n ⟨key, .finished, queue⟩ }
      | _ => none

/-- The loop of a UDP tunnel, with one conn per source. -/
def tunnelUdpClient : Relay SocketAddr → Action SocketAddr → Option (Relay SocketAddr) :=
  step 4096

/-- The loop of a SOCKS5 association, with one conn per source and target. -/
def runSocksUdpRelay : Relay (SocketAddr × HostPort) → Action (SocketAddr × HostPort) →
    Option (Relay (SocketAddr × HostPort)) :=
  step 4096

/-! ## Inversion of a step -/

/-- The outcomes of one step. -/
inductive RelayStep (capacity : Nat) (s : Relay κ) : Action κ → Relay κ → Prop where
  | recvFrom (key : κ) (payload : Datagram) (hloop : s.loop = .receiving) :
      RelayStep capacity s (.recvFrom key payload) { s with loop := .received key payload }
  | getSome (key : κ) (payload : Datagram) (sender : Nat) (hloop : s.loop = .received key payload)
      (hlookup : s.conns.lookup key = some sender) :
      RelayStep capacity s .get { s with loop := .found key payload sender }
  | getNone (key : κ) (payload : Datagram) (hloop : s.loop = .received key payload)
      (hlookup : s.conns.lookup key = none) :
      RelayStep capacity s .get { s with loop := .opening key payload }
  | isOpen (key : κ) (payload : Datagram) (sender : Nat) (conn : Conn κ)
      (hloop : s.loop = .found key payload sender) (hconn : s.tasks[sender]? = some conn)
      (hstage : conn.stage = .running) :
      RelayStep capacity s .isClosed { s with loop := .sending sender payload }
  | isClosed (key : κ) (payload : Datagram) (sender : Nat) (conn : Conn κ)
      (hloop : s.loop = .found key payload sender) (hconn : s.tasks[sender]? = some conn)
      (hstage : conn.stage ≠ .running) :
      RelayStep capacity s .isClosed { s with loop := .closed key payload sender }
  | remove (key : κ) (payload : Datagram) (sender : Nat)
      (hloop : s.loop = .closed key payload sender) :
      RelayStep capacity s .remove
        { s with conns := s.conns.erase key, loop := .opening key payload }
  | insertSpawn (key : κ) (payload : Datagram) (hloop : s.loop = .opening key payload) :
      RelayStep capacity s .insertSpawn
        { s with
          conns := s.conns.insert key s.tasks.length
          tasks := s.tasks ++ [⟨key, .running, []⟩]
          loop := .sending s.tasks.length payload }
  | trySend (sender : Nat) (payload : Datagram) (conn : Conn κ) (queue : List Datagram)
      (hloop : s.loop = .sending sender payload) (hconn : s.tasks[sender]? = some conn) :
      RelayStep capacity s .trySend
        { s with
          tasks := s.tasks.set sender { conn with queue := queue }
          loop := .receiving }
  | recv (n : Nat) (conn : Conn κ) (queue : List Datagram) (hconn : s.tasks[n]? = some conn) :
      RelayStep capacity s (.recv n) { s with tasks := s.tasks.set n { conn with queue := queue } }
  | runEnds (n : Nat) (conn : Conn κ) (hconn : s.tasks[n]? = some conn)
      (hstage : conn.stage = .running) :
      RelayStep capacity s (.runEnds n)
        { s with tasks := s.tasks.set n ⟨conn.key, .ended, []⟩ }
  | finalRemove (n : Nat) (conn : Conn κ) (hconn : s.tasks[n]? = some conn)
      (hstage : conn.stage = .ended) :
      RelayStep capacity s (.finalRemove n)
        { s with
          conns := s.conns.erase conn.key
          tasks := s.tasks.set n ⟨conn.key, .finished, conn.queue⟩ }

variable {s s' : Relay κ} {capacity : Nat}

/-- A step has one of the listed outcomes. -/
theorem step_cases {a : Action κ} (h : step capacity s a = some s') :
    RelayStep capacity s a s' := by
  cases a with
  | recvFrom key payload =>
      simp only [step] at h
      split at h
      · rename_i hloop
        cases h
        exact .recvFrom key payload hloop
      · cases h
  | get =>
      simp only [step] at h
      split at h
      · rename_i key payload hloop
        split at h
        · rename_i sender hlookup
          cases h
          exact .getSome key payload sender hloop hlookup
        · rename_i hlookup
          cases h
          exact .getNone key payload hloop hlookup
      · cases h
  | isClosed =>
      simp only [step] at h
      split at h
      · rename_i key payload sender hloop
        split at h
        · cases h
        · rename_i conn hconn
          split at h
          · rename_i hstage
            cases h
            exact .isOpen key payload sender conn hloop hconn hstage
          · rename_i hstage
            cases h
            exact .isClosed key payload sender conn hloop hconn hstage
      · cases h
  | remove =>
      simp only [step] at h
      split at h
      · rename_i key payload sender hloop
        cases h
        exact .remove key payload sender hloop
      · cases h
  | insertSpawn =>
      simp only [step] at h
      split at h
      · rename_i key payload hloop
        cases h
        exact .insertSpawn key payload hloop
      · cases h
  | trySend =>
      simp only [step] at h
      split at h
      · rename_i sender payload hloop
        split at h
        · cases h
        · rename_i conn hconn
          cases h
          exact .trySend sender payload conn _ hloop hconn
      · cases h
  | recv n =>
      simp only [step] at h
      split at h
      · rename_i key datagram queue hconn
        cases h
        exact .recv n _ queue hconn
      · cases h
  | runEnds n =>
      simp only [step] at h
      split at h
      · rename_i key queue hconn
        cases h
        exact .runEnds n _ hconn rfl
      · cases h
  | finalRemove n =>
      simp only [step] at h
      split at h
      · rename_i key queue hconn
        cases h
        exact .finalRemove n _ hconn rfl
      · cases h

/-- The loop hands its datagram to a channel that is open and has room, or drops
it. -/
theorem trySend_cases (h : step capacity s .trySend = some s') :
    ∃ sender payload conn, s.loop = .sending sender payload ∧ s.tasks[sender]? = some conn ∧
      ((conn.stage = .running ∧ conn.queue.length < capacity) ∧
          s' = { s with
            tasks := s.tasks.set sender { conn with queue := conn.queue ++ [payload] }
            loop := .receiving } ∨
        ¬(conn.stage = .running ∧ conn.queue.length < capacity) ∧
          s' = { s with loop := .receiving }) := by
  simp only [step] at h
  split at h
  · rename_i sender payload hloop
    split at h
    · cases h
    · rename_i conn hconn
      refine ⟨sender, payload, conn, hloop, hconn, ?_⟩
      by_cases hroom : conn.stage = .running ∧ conn.queue.length < capacity
      · simp only [if_pos hroom] at h
        cases h
        exact .inl ⟨hroom, rfl⟩
      · simp only [if_neg hroom] at h
        cases h
        have hsame : s.tasks.set sender conn = s.tasks := Indexed.set_same hconn
        exact .inr ⟨hroom, by rw [hsame]⟩
  · cases h

/-- A conn takes the first datagram of its channel. -/
theorem recv_cases {n : Nat} (h : step capacity s (.recv n) = some s') :
    ∃ conn payload queue, s.tasks[n]? = some conn ∧ conn.stage = .running ∧
      conn.queue = payload :: queue ∧
      s' = { s with tasks := s.tasks.set n { conn with queue := queue } } := by
  simp only [step] at h
  split at h
  · rename_i key payload queue hconn
    cases h
    exact ⟨_, payload, queue, hconn, rfl, rfl, rfl⟩
  · cases h

/-! ## What the loop knows -/

/-- Only the loop inserts, so what it has found out about its key stays true up to
removals. -/
structure Relay.Lawful (s : Relay κ) : Prop where
  /-- The entry that was found is still the only one there can be. -/
  found : ∀ key payload sender, s.loop = .found key payload sender →
    ∀ other, s.conns.lookup key = some other → other = sender
  /-- The same for an entry that was closed, and its conn does not run. -/
  closed : ∀ key payload sender, s.loop = .closed key payload sender →
    (∀ other, s.conns.lookup key = some other → other = sender) ∧
      ∀ conn, s.tasks[sender]? = some conn → conn.stage ≠ .running
  /-- A conn is opened only for a key without an entry. -/
  opening : ∀ key payload, s.loop = .opening key payload → s.conns.lookup key = none

theorem Relay.init_lawful : (Relay.init κ).Lawful := by
  constructor <;> intros <;> contradiction

/-- Steps of conn tasks keep what the loop knows: they only remove entries and
never make a conn run. -/
theorem Relay.Lawful.of_task_step (h : s.Lawful) (hloop : s'.loop = s.loop)
    (hconns : ∀ key sender, s'.conns.lookup key = some sender →
      s.conns.lookup key = some sender)
    (hrunning : ∀ (n : Nat) (conn' : Conn κ), s'.tasks[n]? = some conn' →
      conn'.stage = .running →
        ∃ conn : Conn κ, s.tasks[n]? = some conn ∧ conn.stage = .running) : s'.Lawful := by
  constructor
  · intro key payload sender hfound other hother
    rw [hloop] at hfound
    exact h.found key payload sender hfound other (hconns key other hother)
  · intro key payload sender hclosed
    rw [hloop] at hclosed
    have hold := h.closed key payload sender hclosed
    refine ⟨fun other hother => hold.1 other (hconns key other hother), ?_⟩
    intro conn' hconn' hstage'
    rcases hrunning sender conn' hconn' hstage' with ⟨conn, hconn, hstage⟩
    exact hold.2 conn hconn hstage
  · intro key payload hopening
    rw [hloop] at hopening
    have hnone := h.opening key payload hopening
    cases hlookup : s'.conns.lookup key with
    | none => rfl
    | some sender =>
        rw [hconns key sender hlookup] at hnone
        cases hnone

omit [DecidableEq κ] in
/-- An update that does not make a conn run leaves the running conns running. -/
theorem running_of_set {tasks : List (Conn κ)} {n : Nat} {conn new : Conn κ}
    (hconn : tasks[n]? = some conn) (hnew : new.stage = .running → conn.stage = .running)
    {k : Nat} {conn' : Conn κ} (h : (tasks.set n new)[k]? = some conn')
    (hstage : conn'.stage = .running) :
    ∃ old, tasks[k]? = some old ∧ old.stage = .running := by
  rcases Indexed.getElem?_set_cases h with ⟨rfl, rfl⟩ | ⟨_, hold⟩
  · exact ⟨conn, hconn, hnew hstage⟩
  · exact ⟨conn', hold, hstage⟩

/-- A step keeps what the loop knows. -/
theorem RelayStep.lawful {a : Action κ} (hstep : RelayStep capacity s a s') (h : s.Lawful) :
    s'.Lawful := by
  cases hstep with
  | recvFrom key payload hloop => constructor <;> intros <;> contradiction
  | getSome key payload sender hloop hlookup =>
      constructor
      · intro key' payload' sender' hfound other hother
        cases hfound
        rw [hlookup] at hother
        cases hother
        rfl
      · intros
        contradiction
      · intros
        contradiction
  | getNone key payload hloop hlookup =>
      constructor
      · intros
        contradiction
      · intros
        contradiction
      · intro key' payload' hopening
        cases hopening
        exact hlookup
  | isOpen key payload sender conn hloop hconn hstage =>
      constructor <;> intros <;> contradiction
  | isClosed key payload sender conn hloop hconn hstage =>
      constructor
      · intros
        contradiction
      · intro key' payload' sender' hclosed
        cases hclosed
        refine ⟨h.found key payload sender hloop, ?_⟩
        intro conn' hconn'
        cases hconn.symm.trans hconn'
        exact hstage
      · intros
        contradiction
  | remove key payload sender hloop =>
      constructor
      · intros
        contradiction
      · intros
        contradiction
      · intro key' payload' hopening
        cases hopening
        exact AList.lookup_erase _ _
  | insertSpawn key payload hloop => constructor <;> intros <;> contradiction
  | trySend sender payload conn queue hloop hconn => constructor <;> intros <;> contradiction
  | recv n conn queue hconn =>
      refine h.of_task_step rfl (fun _ _ hlookup => hlookup)
        (fun _ _ => running_of_set hconn fun hstage => ?_)
      exact hstage
  | runEnds n conn hconn hstage =>
      refine h.of_task_step rfl (fun _ _ hlookup => hlookup)
        (fun _ _ => running_of_set hconn fun hnew => ?_)
      cases hnew
  | finalRemove n conn hconn hstage =>
      refine h.of_task_step rfl (fun _ _ hlookup => (Table.lookup_of_erase hlookup).2)
        (fun _ _ => running_of_set hconn fun hnew => ?_)
      cases hnew

/-! ## Ownership of the entries -/

/-- The table serves the conns that run: each keeps its entry, there is one per
key, and a task that is about to remove its key can only hit its own entry. -/
structure Relay.Safe (s : Relay κ) : Prop where
  kept : ∀ (n : Nat) (conn : Conn κ), s.tasks[n]? = some conn → conn.stage = .running →
    s.conns.lookup conn.key = some n
  unique : ∀ (n n' : Nat) (conn conn' : Conn κ), s.tasks[n]? = some conn →
    s.tasks[n']? = some conn' → conn.stage = .running → conn'.stage = .running →
    conn.key = conn'.key → n = n'
  ownRemove : ∀ (n : Nat) (conn : Conn κ), s.tasks[n]? = some conn → conn.stage = .ended →
    ∀ sender, s.conns.lookup conn.key = some sender → sender = n

/-- Running conns that keep their entries have distinct keys. -/
theorem Relay.safe_of_kept
    (hkept : ∀ (n : Nat) (conn : Conn κ), s.tasks[n]? = some conn → conn.stage = .running →
      s.conns.lookup conn.key = some n)
    (hown : ∀ (n : Nat) (conn : Conn κ), s.tasks[n]? = some conn → conn.stage = .ended →
      ∀ sender, s.conns.lookup conn.key = some sender → sender = n) : s.Safe := by
  refine ⟨hkept, ?_, hown⟩
  intro n n' conn conn' hconn hconn' hstage hstage' hkey
  have hentry := hkept n conn hconn hstage
  have hentry' := hkept n' conn' hconn' hstage'
  rw [hkey, hentry'] at hentry
  exact (Option.some.inj hentry).symm

theorem Relay.init_safe : (Relay.init κ).Safe := by
  constructor <;> simp [Relay.init]

/-- The loop is about to open a conn for a key whose previous conn has ended but
has not removed it yet. -/
def OpensBeforeRemoval (s : Relay κ) : Action κ → Prop
  | .insertSpawn =>
      match s.loop with
      | .opening key _ => ∃ conn ∈ s.tasks, conn.key = key ∧ conn.stage = .ended
      | _ => False
  | _ => False

instance (s : Relay κ) (a : Action κ) : Decidable (OpensBeforeRemoval s a) := by
  unfold OpensBeforeRemoval
  split
  · split <;> infer_instance
  · infer_instance

/-- Removing the entry of a conn that does not run keeps the table safe. -/
theorem Relay.Safe.of_remove (h : s.Safe) {key : κ} {loop : Loop κ}
    (hidle : ∀ (n : Nat) (conn : Conn κ), s.tasks[n]? = some conn → conn.stage = .running →
      conn.key ≠ key) : Relay.Safe { s with conns := s.conns.erase key, loop := loop } := by
  apply Relay.safe_of_kept
  · intro n conn hconn hstage
    have hne := hidle n conn hconn hstage
    exact (AList.lookup_erase_ne hne).trans (h.kept n conn hconn hstage)
  · intro n conn hconn hstage sender hlookup
    exact h.ownRemove n conn hconn hstage sender (Table.lookup_of_erase hlookup).2

/-- Changing a queue keeps the table safe. -/
theorem Relay.Safe.of_queue (h : s.Safe) {n : Nat} {conn : Conn κ} (hconn : s.tasks[n]? = some conn)
    (queue : List Datagram) (loop : Loop κ) :
    Relay.Safe { s with tasks := s.tasks.set n { conn with queue := queue }, loop := loop } := by
  have hold : ∀ (k : Nat) (conn' : Conn κ),
      (s.tasks.set n { conn with queue := queue })[k]? = some conn' →
      ∃ old, s.tasks[k]? = some old ∧ conn'.key = old.key ∧ conn'.stage = old.stage := by
    intro k conn' hconn'
    rcases Indexed.getElem?_set_cases hconn' with ⟨rfl, rfl⟩ | ⟨_, hsame⟩
    · exact ⟨conn, hconn, rfl, rfl⟩
    · exact ⟨conn', hsame, rfl, rfl⟩
  apply Relay.safe_of_kept
  · intro k conn' hconn' hstage
    rcases hold k conn' hconn' with ⟨old, hget, hkey, hsame⟩
    rw [hkey]
    exact h.kept k old hget (hsame ▸ hstage)
  · intro k conn' hconn' hstage sender hlookup
    rcases hold k conn' hconn' with ⟨old, hget, hkey, hsame⟩
    rw [hkey] at hlookup
    exact h.ownRemove k old hget (hsame ▸ hstage) sender hlookup

/-- A conn that stops running finds only its own entry under its key. -/
theorem Relay.Safe.of_runEnds (h : s.Safe) {n : Nat} {conn : Conn κ}
    (hconn : s.tasks[n]? = some conn) (hstage : conn.stage = .running) :
    Relay.Safe { s with tasks := s.tasks.set n ⟨conn.key, .ended, []⟩ } := by
  apply Relay.safe_of_kept
  · intro k conn' hconn' hstage'
    rcases Indexed.getElem?_set_cases hconn' with ⟨rfl, rfl⟩ | ⟨_, hsame⟩
    · cases hstage'
    · exact h.kept k conn' hsame hstage'
  · intro k conn' hconn' hstage' sender hlookup
    rcases Indexed.getElem?_set_cases hconn' with ⟨rfl, rfl⟩ | ⟨_, hsame⟩
    · have hentry := h.kept k conn hconn hstage
      exact Option.some.inj (hlookup.symm.trans hentry)
    · exact h.ownRemove k conn' hsame hstage' sender hlookup

/-- The final remove of a conn hits its own entry or none. -/
theorem Relay.Safe.of_finalRemove (h : s.Safe) {n : Nat} {conn : Conn κ}
    (hconn : s.tasks[n]? = some conn) (hstage : conn.stage = .ended) :
    Relay.Safe { s with
      conns := s.conns.erase conn.key
      tasks := s.tasks.set n ⟨conn.key, .finished, conn.queue⟩ } := by
  apply Relay.safe_of_kept
  · intro k conn' hconn' hstage'
    rcases Indexed.getElem?_set_cases hconn' with ⟨rfl, rfl⟩ | ⟨hne, hsame⟩
    · cases hstage'
    · have hentry := h.kept k conn' hsame hstage'
      have hkey : conn'.key ≠ conn.key := by
        intro heq
        rw [heq] at hentry
        exact hne (h.ownRemove n conn hconn hstage k hentry)
      exact (AList.lookup_erase_ne hkey).trans hentry
  · intro k conn' hconn' hstage' sender hlookup
    rcases Indexed.getElem?_set_cases hconn' with ⟨rfl, rfl⟩ | ⟨_, hsame⟩
    · cases hstage'
    · exact h.ownRemove k conn' hsame hstage' sender (Table.lookup_of_erase hlookup).2

/-- Opening a conn keeps the table safe exactly if no ended conn is still to
remove the key. -/
theorem Relay.Safe.insertSpawn_iff (h : s.Safe) {key : κ} (hnone : s.conns.lookup key = none)
    (loop : Loop κ) :
    Relay.Safe { s with
      conns := s.conns.insert key s.tasks.length
      tasks := s.tasks ++ [⟨key, .running, []⟩]
      loop := loop } ↔
    ¬∃ conn ∈ s.tasks, conn.key = key ∧ conn.stage = .ended := by
  constructor
  · rintro hsafe ⟨conn, hmem, hkey, hstage⟩
    rcases List.mem_iff_getElem?.mp hmem with ⟨n, hconn⟩
    have hlt := (List.getElem?_eq_some_iff.mp hconn).1
    have hstill : (s.tasks ++ [⟨key, .running, []⟩])[n]? = some conn := by
      rw [List.getElem?_append_left hlt, hconn]
    have hfresh : (s.conns.insert key s.tasks.length).lookup conn.key =
        some s.tasks.length := by
      rw [hkey, AList.lookup_insert]
    have heq := hsafe.ownRemove n conn hstill hstage s.tasks.length hfresh
    omega
  · intro hnot
    apply Relay.safe_of_kept
    · intro n conn hconn hstage
      rcases Indexed.getElem?_concat_cases hconn with ⟨rfl, rfl⟩ | hold
      · exact AList.lookup_insert _
      · have hentry := h.kept n conn hold hstage
        have hne : conn.key ≠ key := by
          intro heq
          rw [heq, hnone] at hentry
          cases hentry
        exact (AList.lookup_insert_ne hne).trans hentry
    · intro n conn hconn hstage sender hlookup
      rcases Indexed.getElem?_concat_cases hconn with ⟨rfl, rfl⟩ | hold
      · cases hstage
      · have hne : conn.key ≠ key := by
          intro heq
          exact hnot ⟨conn, List.mem_of_getElem? hold, heq, hstage⟩
        have hkept : s.conns.lookup conn.key = some sender :=
          (AList.lookup_insert_ne hne).symm.trans hlookup
        exact h.ownRemove n conn hold hstage sender hkept

/-- From a safe table a step leads to a safe table exactly if it does not open a
conn before the removal of its predecessor. -/
theorem RelayStep.safe_iff {a : Action κ} (hstep : RelayStep capacity s a s') (hlawful : s.Lawful)
    (h : s.Safe) : s'.Safe ↔ ¬OpensBeforeRemoval s a := by
  cases hstep with
  | recvFrom key payload hloop => exact iff_of_true ⟨h.kept, h.unique, h.ownRemove⟩ id
  | getSome key payload sender hloop hlookup =>
      exact iff_of_true ⟨h.kept, h.unique, h.ownRemove⟩ id
  | getNone key payload hloop hlookup =>
      exact iff_of_true ⟨h.kept, h.unique, h.ownRemove⟩ id
  | isOpen key payload sender conn hloop hconn hstage =>
      exact iff_of_true ⟨h.kept, h.unique, h.ownRemove⟩ id
  | isClosed key payload sender conn hloop hconn hstage =>
      exact iff_of_true ⟨h.kept, h.unique, h.ownRemove⟩ id
  | remove key payload sender hloop =>
      refine iff_of_true (h.of_remove ?_) id
      intro n conn hconn hstage heq
      have hclosed := hlawful.closed key payload sender hloop
      have hentry := h.kept n conn hconn hstage
      rw [heq] at hentry
      cases hclosed.1 n hentry
      exact hclosed.2 conn hconn hstage
  | insertSpawn key payload hloop =>
      have hone := h.insertSpawn_iff (hlawful.opening key payload hloop)
        (.sending s.tasks.length payload)
      simpa only [OpensBeforeRemoval, hloop] using hone
  | trySend sender payload conn queue hloop hconn =>
      exact iff_of_true (h.of_queue hconn queue _) id
  | recv n conn queue hconn => exact iff_of_true (h.of_queue hconn queue _) id
  | runEnds n conn hconn hstage => exact iff_of_true (h.of_runEnds hconn hstage) id
  | finalRemove n conn hconn hstage => exact iff_of_true (h.of_finalRemove hconn hstage) id

/-- Under every interleaving of the loop with its conn tasks the table stays safe
exactly as long as no conn is opened for a key whose previous conn has ended but
not yet removed it. -/
theorem safe_throughout_iff {capacity : Nat} {acts : List (Action κ)} {s : Relay κ}
    (hrun : Transition.run (step capacity) (Relay.init κ) acts = some s) :
    Transition.Throughout (step capacity) Relay.Safe (Relay.init κ) acts ↔
      Transition.Guarded (step capacity) (fun s a => ¬OpensBeforeRemoval s a)
        (Relay.init κ) acts :=
  Transition.throughout_iff_guarded (fun _ _ _ h hstep => (step_cases hstep).lawful h)
    (fun _ _ _ hlawful h hstep => (step_cases hstep).safe_iff hlawful h)
    Relay.init_lawful Relay.init_safe hrun

/-- A datagram from `key` when there is no conn for it. -/
def firstDatagram (key : κ) : List (Action κ) :=
  [.recvFrom key [1], .get, .insertSpawn, .trySend]

/-- A datagram from `key` when the conn in the table has terminated. -/
def nextDatagram (key : κ) : List (Action κ) :=
  [.recvFrom key [2], .get, .isClosed, .remove, .insertSpawn, .trySend]

theorem safe_throughout_two_conns :
    Transition.Throughout runSocksUdpRelay Relay.Safe (Relay.init (SocketAddr × HostPort))
      (firstDatagram (.v4 ⟨127, 0, 0, 1⟩ 5000, ⟨"10.1.1.1", 53⟩) ++
        [.recv 0, .runEnds 0, .finalRemove 0] ++
        firstDatagram (.v4 ⟨127, 0, 0, 1⟩ 5000, ⟨"10.1.1.1", 53⟩)) :=
  (safe_throughout_iff (Option.some_get (by decide +kernel)).symm).mpr (by decide +kernel)

/-- The first conn of a source times out, the next datagram opens a second one,
and then the first removes the key: the second conn runs with its entry gone and
the loop, back at its start, holds no sender for it either. -/
theorem live_conn_dropped :
    ∃ s, Transition.run tunnelUdpClient (Relay.init SocketAddr)
        (firstDatagram (.v4 ⟨127, 0, 0, 1⟩ 5000) ++ [.recv 0, .runEnds 0] ++
          nextDatagram (.v4 ⟨127, 0, 0, 1⟩ 5000) ++ [.finalRemove 0]) = some s ∧
      s.tasks = [⟨.v4 ⟨127, 0, 0, 1⟩ 5000, .finished, []⟩,
        ⟨.v4 ⟨127, 0, 0, 1⟩ 5000, .running, [[2]]⟩] ∧
      s.conns.lookup (.v4 ⟨127, 0, 0, 1⟩ 5000) = none ∧ s.loop = .receiving ∧ ¬s.Safe := by
  refine ⟨_, (Option.some_get (by decide +kernel)).symm, rfl, rfl, rfl, ?_⟩
  intro hsafe
  have hkept := hsafe.kept 1 _ rfl rfl
  cases hkept

end UdpTable
end Rusnel
