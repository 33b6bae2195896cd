import Rusnel.Foundation.Transition
import Rusnel.Common.Datagram

/-!
# The life of a UDP conn

A UDP conn is a task on the side that opened it, a bidirectional stream, and a
pair of pumps on the side that accepted it.  Dropping a send half finishes it,
dropping a receive half asks the peer to stop sending; the peer notices that only
when it writes.  The pump that waits for datagrams of the target waits on its
socket and on nothing else.

Main results:

- Theorem {lit}`released_iff`: when everything has come to rest after the
  initiator ended, the pumps are gone exactly if they never started or the
  waiting pump was woken once more after it could notice.
- Theorem {lit}`pump_stranded`: otherwise they stay.
-/

namespace Rusnel
namespace UdpStream

/-! ## State -/

/-- The task that opened the conn. -/
inductive Initiator where
  /-- The stream is not open yet. -/
  | opening
  /-- The opener was written; the reply is awaited. -/
  | awaiting
  /-- Datagrams are relayed both ways. -/
  | running
  /-- The conn has ended and both its halves are dropped. -/
  | ended
deriving DecidableEq, Repr

/-- One direction of {lit}`tunnel_udp_stream`. -/
inductive Pump where
  | running
  | done
deriving DecidableEq, Repr

/-- The side that accepts the conn. -/
inductive Acceptor where
  /-- The opener has not been read. -/
  | none
  /-- The opener was read and is to be resolved. -/
  | dispatching
  /-- The `Ok` reply was written; the socket is to be bound. -/
  | dialing
  /-- Both pumps were started: `tx` from the socket to the stream, `rx` from the
  stream to the socket. -/
  | pumping (tx rx : Pump)
  /-- The task returned before the pumps were started. -/
  | refused
  /-- The pumps are gone, and with them the socket, the registration of the conn
  and the stream. -/
  | ended
deriving DecidableEq, Repr

/-- What travels from the initiator to the acceptor. -/
inductive ForthFrame where
  | opener
  | datagram (payload : Datagram)
  | fin
deriving DecidableEq, Repr

/-- What travels from the acceptor to the initiator. -/
inductive BackFrame where
  | ok
  | failed
  | datagram (payload : Datagram)
  | fin
deriving DecidableEq, Repr

/-- A request to stop sending. -/
inductive Stop where
  | notSent
  | inFlight
  | arrived
deriving DecidableEq, Repr

/-- Ask the peer to stop sending. -/
def Stop.send : Stop → Stop
  | .notSent => .inFlight
  | stop => stop

/-- What the acceptor's socket can hand over. -/
inductive SocketItem where
  /-- A datagram from the target. -/
  | target (payload : Datagram)
  /-- A datagram from someone else. -/
  | stray (payload : Datagram)
  | error
deriving DecidableEq, Repr

/-- A UDP conn. -/
structure UdpConn where
  initiator : Initiator
  acceptor : Acceptor
  /-- In flight towards the acceptor. -/
  forth : List ForthFrame
  /-- The acceptor's request to stop sending. -/
  stopForth : Stop
  /-- In flight towards the initiator. -/
  back : List BackFrame
  /-- The initiator's request to stop sending. -/
  stopBack : Stop
  /-- Waiting at the acceptor's socket. -/
  socket : List SocketItem
  /-- The connection that carries the stream is closed. -/
  closed : Bool
deriving DecidableEq, Repr

/-- A conn about to be opened. -/
def UdpConn.init : UdpConn where
  initiator := .opening
  acceptor := .none
  forth := []
  stopForth := .notSent
  back := []
  stopBack := .notSent
  socket := []
  closed := false

/-! ## Steps -/

/-- What can happen next. -/
inductive Action where
  /-- The initiator opens the stream and writes the opener. -/
  | openConn
  /-- The initiator reads the reply. -/
  | readReply
  /-- A datagram for the conn reaches the initiator, which writes it. -/
  | localDatagram (payload : Datagram)
  /-- The initiator reads from the stream and sends the datagram on, or fails to. -/
  | readBack (sent : Bool)
  /-- The initiator's conn ends: idle timeout or an error. -/
  | endInitiator
  /-- The acceptor reads the opener. -/
  | accept
  /-- The acceptor resolves the opener and replies. -/
  | dispatch (ok : Bool)
  /-- The acceptor binds its socket and starts the pumps, or fails to. -/
  | dial (ok : Bool)
  /-- Something reaches the acceptor's socket. -/
  | arrive (item : SocketItem)
  /-- The `tx` pump takes up what its socket has. -/
  | recvFrom
  /-- The `rx` pump reads from the stream and sends the datagram on, or fails to. -/
  | readStream (sent : Bool)
  /-- Both pumps have returned. -/
  | join
  | deliverStopForth
  | deliverStopBack
  /-- A frame that nobody will read is thrown away. -/
  | discardForth
  | discardBack
  /-- The connection closes. -/
  | close
deriving DecidableEq, Repr

/-- Steps that need nothing from outside the conn. -/
def Action.internal : Action → Bool
  | .localDatagram _ | .arrive _ | .close => false
  | _ => true

/-- The initiator's task returns and drops both halves. -/
def UdpConn.dropInitiator (s : UdpConn) : UdpConn :=
  { s with
    initiator := .ended
    forth := s.forth ++ [.fin]
    stopBack := s.stopBack.send }

/-- The acceptor's task returns before the pumps and drops both halves. -/
def UdpConn.dropAcceptor (s : UdpConn) : UdpConn :=
  { s with
    acceptor := .refused
    back := s.back ++ [.fin]
    stopForth := s.stopForth.send }

/-- Writing towards the initiator fails. -/
def UdpConn.backBroken (s : UdpConn) : Bool :=
  s.stopBack == .arrived || s.closed

/-- Nobody will read what is in flight towards the acceptor. -/
def UdpConn.forthUnread (s : UdpConn) : Bool :=
  s.closed ||
    match s.acceptor with
    | .pumping _ .done | .refused | .ended => true
    | _ => false

/-- One step of the initiator: {lit}`run_udp_conn` and {lit}`run_socks_udp_conn`. -/
def stepInitiator (s : UdpConn) : Action → Option UdpConn
  | .openConn =>
      if s.initiator = .opening ∧ s.closed = false then
        some { s with initiator := .awaiting, forth := s.forth ++ [.opener] }
      else none
  | .readReply =>
      if s.initiator = .awaiting then
        if s.closed then some s.dropInitiator
        else
          match s.back with
          | [] => none
          | .ok :: back => some { s with initiator := .running, back := back }
          | _ :: back => some { s.dropInitiator with back := back }
      else none
  | .localDatagram payload =>
      if s.initiator = .running then
        if s.stopForth == .arrived || s.closed then some s.dropInitiator
        else some { s with forth := s.forth ++ [.datagram payload] }
      else none
  | .readBack sent =>
      if s.initiator = .running then
        if s.closed then some s.dropInitiator
        else
          match s.back with
          | [] => none
          | .datagram _ :: back =>
              if sent then some { s with back := back }
              else some { s.dropInitiator with back := back }
          | _ :: back => some { s.dropInitiator with back := back }
      else none
  | .endInitiator =>
      match s.initiator with
      | .opening => some { s with initiator := .ended }
      | .awaiting | .running => some s.dropInitiator
      | .ended => none
  | _ => none

/-- One step of the acceptor: the opener's handling, {lit}`tunnel_udp_server` and
the two pumps of {lit}`tunnel_udp_stream`. -/
def stepAcceptor (s : UdpConn) : Action → Option UdpConn
  | .accept =>
      if s.acceptor = .none then
        match s.forth with
        | [] => none
        | .opener :: forth =>
            if s.closed then none
            else some { s with acceptor := .dispatching, forth := forth }
        | _ :: forth => some { s.dropAcceptor with forth := forth }
      else none
  | .dispatch ok =>
      if s.acceptor = .dispatching then
        if s.backBroken then some s.dropAcceptor
        else if ok then some { s with acceptor := .dialing, back := s.back ++ [.ok] }
        else some { s.dropAcceptor with back := s.back ++ [.failed, .fin] }
      else none
  | .dial ok =>
      if s.acceptor = .dialing then
        if ok then some { s with acceptor := .pumping .running .running }
        else some s.dropAcceptor
      else none
  | .arrive item =>
      match s.acceptor with
      | .pumping _ _ => some { s with socket := s.socket ++ [item] }
      | _ => none
  | .recvFrom =>
      match s.acceptor, s.socket with
      | .pumping .running rx, .error :: socket =>
          some { s with acceptor := .pumping .done rx, socket := socket, back := s.back ++ [.fin] }
      | .pumping .running _, .stray _ :: socket => some { s with socket := socket }
      | .pumping .running rx, .target payload :: socket =>
          if s.backBroken then
            some { s with
              acceptor := .pumping .done rx
              socket := socket
              back := s.back ++ [.fin] }
          else some { s with socket := socket, back := s.back ++ [.datagram payload] }
      | _, _ => none
  | .readStream sent =>
      match s.acceptor with
      | .pumping tx .running =>
          let stopped := { s with acceptor := .pumping tx .done, stopForth := s.stopForth.send }
          if s.closed then some stopped
          else
            match s.forth with
            | [] => none
            | .datagram _ :: forth =>
                if sent then some { s with forth := forth }
                else some { stopped with forth := forth }
            | _ :: forth => some { stopped with forth := forth }
      | _ => none
  | .join =>
      if s.acceptor = .pumping .done .done then some { s with acceptor := .ended } else none
  | _ => none

/-- One step of the network.  On the server the closing of a connection aborts
every conn task that it accepted; on the client these tasks are on their own. -/
def stepNetwork (abortsOnClose : Bool) (s : UdpConn) : Action → Option UdpConn
  | .deliverStopForth =>
      if s.stopForth = .inFlight then some { s with stopForth := .arrived } else none
  | .deliverStopBack =>
      if s.stopBack = .inFlight then some { s with stopBack := .arrived } else none
  | .discardForth =>
      match s.forth with
      | _ :: forth => if s.forthUnread then some { s with forth := forth } else none
      | [] => none
  | .discardBack =>
      match s.back with
      | _ :: back =>
          if s.initiator = .ended ∨ s.closed = true then some { s with back := back } else none
      | [] => none
  | .close =>
      if s.closed then none
      else
        some { s with
          closed := true
          acceptor :=
            if abortsOnClose then
              match s.acceptor with
              | .pumping _ _ | .ended => .ended
              | _ => .refused
            else s.acceptor }
  | _ => none

/-- One step of the conn. -/
def step (abortsOnClose : Bool) (s : UdpConn) (a : Action) : Option UdpConn :=
  match a with
  | .openConn | .readReply | .localDatagram _ | .readBack _ | .endInitiator =>
      stepInitiator s a
  | .accept | .dispatch _ | .dial _ | .arrive _ | .recvFrom | .readStream _ | .join =>
      stepAcceptor s a
  | .deliverStopForth | .deliverStopBack | .discardForth | .discardBack | .close =>
      stepNetwork abortsOnClose s a

/-- Nothing happens any more unless a datagram arrives or the connection closes. -/
def UdpConn.Quiescent (abortsOnClose : Bool) (s : UdpConn) : Prop :=
  ∀ a : Action, a.internal = true → step abortsOnClose s a = none

/-- The steps that need nothing from outside. -/
def internalActions : List Action :=
  [.openConn, .readReply, .readBack true, .readBack false, .endInitiator, .accept,
    .dispatch true, .dispatch false, .dial true, .dial false, .recvFrom, .readStream true,
    .readStream false, .join, .deliverStopForth, .deliverStopBack, .discardForth, .discardBack]

theorem mem_internalActions (a : Action) : a ∈ internalActions ↔ a.internal = true := by
  cases a with
  | readBack sent | readStream sent => cases sent <;> decide
  | dispatch ok | dial ok => cases ok <;> decide
  | localDatagram | arrive => simp [internalActions, Action.internal]
  | _ => decide

instance (abortsOnClose : Bool) (s : UdpConn) : Decidable (s.Quiescent abortsOnClose) :=
  decidable_of_iff (∀ a ∈ internalActions, step abortsOnClose s a = none) (by
    simp only [UdpConn.Quiescent, mem_internalActions])

/-! ## What a step does to the acceptor -/

/-- The pumps were started at some time. -/
def Acceptor.started : Acceptor → Bool
  | .pumping _ _ | .ended => true
  | _ => false

/-- The `tx` pump returns when it takes this up: an error of its socket, or a
datagram it cannot pass on any more. -/
def UdpConn.Wakes (s : UdpConn) (item : SocketItem) : Prop :=
  match item with
  | .error => True
  | .target _ => s.backBroken = true
  | .stray _ => False

/-- A datagram of the target is waiting at the socket. -/
def UdpConn.targetWaiting (s : UdpConn) : Prop :=
  ∃ payload, SocketItem.target payload ∈ s.socket

/-- The steps that see to it that the pumps end: something that wakes the `tx`
pump arrives, or writing towards the initiator becomes impossible while a
datagram of the target is waiting, or the closing connection aborts them. -/
def Cure (abortsOnClose : Bool) (s : UdpConn) : Action → Prop
  | .arrive item => s.Wakes item
  | .deliverStopBack => s.targetWaiting
  | .close => (abortsOnClose = true ∧ ∃ tx rx, s.acceptor = .pumping tx rx) ∨ s.targetWaiting
  | _ => False

/-- The effects of a step on the acceptor. -/
inductive AcceptorEffect (abortsOnClose : Bool) (s s' : UdpConn) : Action → Prop where
  /-- Neither the pumps nor what can wake them is touched. -/
  | quiet (a : Action) (hdial : a ≠ .dial true) (hcure : ¬Cure abortsOnClose s a)
      (hacceptor : s'.acceptor = s.acceptor ∨
        (s.acceptor.started = false ∧ s'.acceptor.started = false))
      (hsocket : s'.socket = s.socket) (hbroken : s'.backBroken = s.backBroken) :
      AcceptorEffect abortsOnClose s s' a
  | start (hacceptor : s.acceptor = .dialing)
      (hacceptor' : s'.acceptor = .pumping .running .running) (hsocket : s'.socket = s.socket)
      (hbroken : s'.backBroken = s.backBroken) :
      AcceptorEffect abortsOnClose s s' (.dial true)
  | arrive (item : SocketItem) (hstarted : s.acceptor.started = true)
      (hacceptor : s'.acceptor = s.acceptor)
      (hsocket : s'.socket = s.socket ++ [item]) (hbroken : s'.backBroken = s.backBroken) :
      AcceptorEffect abortsOnClose s s' (.arrive item)
  /-- The `tx` pump takes up an item that does not wake it. -/
  | skip (rx : Pump) (item : SocketItem) (hacceptor : s.acceptor = .pumping .running rx)
      (hacceptor' : s'.acceptor = s.acceptor) (hsocket : s.socket = item :: s'.socket)
      (hwakes : ¬s.Wakes item) (hbroken : s'.backBroken = s.backBroken) :
      AcceptorEffect abortsOnClose s s' .recvFrom
  /-- The `tx` pump takes up an item that wakes it. -/
  | wake (rx : Pump) (item : SocketItem) (hacceptor : s.acceptor = .pumping .running rx)
      (hacceptor' : s'.acceptor = .pumping .done rx) (hsocket : s.socket = item :: s'.socket)
      (hwakes : s.Wakes item) (hbroken : s'.backBroken = s.backBroken) :
      AcceptorEffect abortsOnClose s s' .recvFrom
  | read (sent : Bool) (tx rx : Pump) (hacceptor : s.acceptor = .pumping tx .running)
      (hacceptor' : s'.acceptor = .pumping tx rx) (hsocket : s'.socket = s.socket)
      (hbroken : s'.backBroken = s.backBroken) :
      AcceptorEffect abortsOnClose s s' (.readStream sent)
  | join (hacceptor : s.acceptor = .pumping .done .done) (hacceptor' : s'.acceptor = .ended)
      (hsocket : s'.socket = s.socket) (hbroken : s'.backBroken = s.backBroken) :
      AcceptorEffect abortsOnClose s s' .join
  | stop (hacceptor : s'.acceptor = s.acceptor) (hsocket : s'.socket = s.socket)
      (hbroken : s'.backBroken = true) :
      AcceptorEffect abortsOnClose s s' .deliverStopBack
  | close (habort : abortsOnClose = false) (hacceptor : s'.acceptor = s.acceptor)
      (hsocket : s'.socket = s.socket) (hbroken : s'.backBroken = true) :
      AcceptorEffect abortsOnClose s s' .close
  | abort (habort : abortsOnClose = true)
      (hacceptor : ∀ tx rx, s'.acceptor ≠ .pumping tx rx)
      (hstarted : s'.acceptor.started = s.acceptor.started) (hsocket : s'.socket = s.socket)
      (hbroken : s'.backBroken = true) :
      AcceptorEffect abortsOnClose s s' .close

theorem dropInitiator_backBroken (s : UdpConn) : s.dropInitiator.backBroken = s.backBroken := by
  unfold UdpConn.backBroken UdpConn.dropInitiator
  cases s.stopBack <;> rfl

variable {s s' : UdpConn} {a : Action}

/-- The initiator's steps leave the acceptor alone. -/
theorem stepInitiator_frame (h : stepInitiator s a = some s') :
    s'.acceptor = s.acceptor ∧ s'.socket = s.socket ∧ s'.backBroken = s.backBroken := by
  have hdrop := dropInitiator_backBroken s
  cases a <;> simp only [stepInitiator] at h <;> (repeat' split at h) <;> cases h
  all_goals
    first
    | exact ⟨rfl, rfl, hdrop⟩
    | exact ⟨rfl, rfl, rfl⟩

variable {abortsOnClose : Bool}

/-- The effects of the acceptor's own steps. -/
theorem stepAcceptor_effect (h : stepAcceptor s a = some s') :
    AcceptorEffect abortsOnClose s s' a := by
  cases a with
  | accept =>
      simp only [stepAcceptor] at h
      split at h
      · rename_i hnone
        have hbefore : s.acceptor.started = false := by rw [hnone]; rfl
        split at h
        · cases h
        · split at h <;> cases h
          exact .quiet _ (by simp) id (.inr ⟨hbefore, rfl⟩) rfl rfl
        · cases h
          exact .quiet _ (by simp) id (.inr ⟨hbefore, rfl⟩) rfl rfl
      · cases h
  | dispatch ok =>
      simp only [stepAcceptor] at h
      split at h
      · rename_i hdispatching
        have hbefore : s.acceptor.started = false := by rw [hdispatching]; rfl
        repeat' split at h
        all_goals
          cases h
          exact .quiet _ (by simp) id (.inr ⟨hbefore, rfl⟩) rfl rfl
      · cases h
  | dial ok =>
      simp only [stepAcceptor] at h
      split at h
      · rename_i hdialing
        have hbefore : s.acceptor.started = false := by rw [hdialing]; rfl
        cases ok with
        | true =>
            cases h
            exact .start hdialing rfl rfl rfl
        | false =>
            cases h
            exact .quiet _ (by simp) id (.inr ⟨hbefore, rfl⟩) rfl rfl
      · cases h
  | arrive item =>
      simp only [stepAcceptor] at h
      split at h
      · rename_i tx rx hacceptor
        cases h
        exact .arrive item (by rw [hacceptor]; rfl) rfl rfl rfl
      · cases h
  | recvFrom =>
      simp only [stepAcceptor] at h
      split at h
      · rename_i rx socket hacceptor hsocket
        cases h
        exact .wake rx .error hacceptor rfl hsocket trivial rfl
      · rename_i rx payload socket hacceptor hsocket
        cases h
        exact .skip rx (.stray payload) hacceptor rfl hsocket id rfl
      · rename_i rx payload socket hacceptor hsocket
        split at h
        · rename_i hbroken
          cases h
          exact .wake rx (.target payload) hacceptor rfl hsocket hbroken rfl
        · rename_i hbroken
          cases h
          exact .skip rx (.target payload) hacceptor rfl hsocket hbroken rfl
      · cases h
  | readStream sent =>
      simp only [stepAcceptor] at h
      split at h
      · rename_i tx hacceptor
        repeat' split at h
        all_goals cases h
        all_goals
          first
          | exact .read sent tx .done hacceptor rfl rfl rfl
          | exact .read sent tx .running hacceptor hacceptor rfl rfl
      · cases h
  | join =>
      simp only [stepAcceptor] at h
      split at h
      · rename_i hacceptor
        cases h
        exact .join hacceptor rfl rfl rfl
      · cases h
  | _ => cases h

/-- The effects of the network's steps. -/
theorem stepNetwork_effect (h : stepNetwork abortsOnClose s a = some s') :
    AcceptorEffect abortsOnClose s s' a := by
  cases a with
  | deliverStopForth =>
      simp only [stepNetwork] at h
      split at h <;> cases h
      exact .quiet _ (by simp) id (.inl rfl) rfl rfl
  | deliverStopBack =>
      simp only [stepNetwork] at h
      split at h <;> cases h
      exact .stop rfl rfl rfl
  | discardForth =>
      simp only [stepNetwork] at h
      repeat' split at h
      all_goals cases h
      exact .quiet _ (by simp) id (.inl rfl) rfl rfl
  | discardBack =>
      simp only [stepNetwork] at h
      repeat' split at h
      all_goals cases h
      exact .quiet _ (by simp) id (.inl rfl) rfl rfl
  | close =>
      simp only [stepNetwork] at h
      split at h <;> cases h
      have hbroken : ∀ acceptor, UdpConn.backBroken { s with closed := true, acceptor := acceptor }
          = true := by
        intro acceptor
        simp [UdpConn.backBroken]
      cases abortsOnClose with
      | false => exact .close rfl rfl rfl (hbroken _)
      | true =>
          refine .abort rfl ?_ ?_ rfl (hbroken _)
          · intro tx rx
            cases s.acceptor <;> simp
          · cases s.acceptor <;> rfl
  | _ => cases h

/-- Every step has one of these effects on the acceptor. -/
theorem step_effect (h : step abortsOnClose s a = some s') :
    AcceptorEffect abortsOnClose s s' a := by
  unfold step at h
  cases a with
  | openConn | readReply | localDatagram | readBack | endInitiator =>
      rcases stepInitiator_frame h with ⟨hacceptor, hsocket, hbroken⟩
      exact .quiet _ (by simp) id (.inl hacceptor) hsocket hbroken
  | accept | dispatch | dial | arrive | recvFrom | readStream | join =>
      exact stepAcceptor_effect h
  | deliverStopForth | deliverStopBack | discardForth | discardBack | close =>
      exact stepNetwork_effect h

/-! ## What the run so far says about the acceptor -/

/-- Something is waiting at the socket that will wake the `tx` pump. -/
def UdpConn.WakeWaiting (s : UdpConn) : Prop :=
  ∃ item ∈ s.socket, s.Wakes item

/-- The acceptor's state in terms of the steps that led to it. -/
structure History (abortsOnClose : Bool) (acts : List Action) (s : UdpConn) : Prop where
  started : Action.dial true ∈ acts ↔ s.acceptor.started = true
  socket : s.acceptor.started = false → s.socket = []
  cured : Transition.Occurred (step abortsOnClose) UdpConn.init acts (Cure abortsOnClose) →
    s.acceptor.started = true
  /-- What is going to wake the `tx` pump was brought about by a cure. -/
  waiting : s.WakeWaiting →
    Transition.Occurred (step abortsOnClose) UdpConn.init acts (Cure abortsOnClose)
  /-- So was the end of the `tx` pump. -/
  ended : (∃ rx, s.acceptor = .pumping .done rx) ∨ s.acceptor = .ended →
    Transition.Occurred (step abortsOnClose) UdpConn.init acts (Cure abortsOnClose)
  /-- A cure lasts until the `tx` pump has ended. -/
  lasting : Transition.Occurred (step abortsOnClose) UdpConn.init acts (Cure abortsOnClose) →
    ∀ rx, s.acceptor = .pumping .running rx → s.WakeWaiting

theorem wakes_congr (hbroken : s'.backBroken = s.backBroken) (item : SocketItem) :
    s'.Wakes item ↔ s.Wakes item := by
  cases item <;> simp [UdpConn.Wakes, hbroken]

theorem wakeWaiting_congr (hsocket : s'.socket = s.socket)
    (hbroken : s'.backBroken = s.backBroken) : s'.WakeWaiting ↔ s.WakeWaiting := by
  simp only [UdpConn.WakeWaiting, hsocket, wakes_congr hbroken]

/-- Once writing is impossible, every waiting datagram of the target wakes the
`tx` pump. -/
theorem wakeWaiting_of_broken (hsocket : s'.socket = s.socket) (hbroken : s'.backBroken = true) :
    s'.WakeWaiting ↔ s.targetWaiting ∨ s.WakeWaiting := by
  constructor
  · rintro ⟨item, hitem, hwakes⟩
    rw [hsocket] at hitem
    cases item with
    | target payload => exact .inl ⟨payload, hitem⟩
    | stray payload => exact hwakes.elim
    | error => exact .inr ⟨.error, hitem, trivial⟩
  · rintro (⟨payload, hitem⟩ | ⟨item, hitem, hwakes⟩)
    · exact ⟨.target payload, hsocket ▸ hitem, hbroken⟩
    · refine ⟨item, hsocket ▸ hitem, ?_⟩
      cases item with
      | target payload => exact hbroken
      | stray payload => exact hwakes.elim
      | error => trivial

theorem History.init (abortsOnClose : Bool) : History abortsOnClose [] UdpConn.init := by
  constructor
  · simp [UdpConn.init, Acceptor.started]
  · intro _
    rfl
  · intro hoccurred
    exact absurd hoccurred Transition.not_occurred_nil
  · rintro ⟨item, hitem, _⟩
    cases hitem
  · rintro (⟨rx, hacceptor⟩ | hacceptor) <;> cases hacceptor
  · intro hoccurred
    exact absurd hoccurred Transition.not_occurred_nil

section HistoryStep

variable {abortsOnClose : Bool} {acts : List Action} {a : Action} {s s' : UdpConn}

/-- The pumps are started by the dial step and stay started. -/
theorem History.started_concat (h : History abortsOnClose acts s)
    (hstarted : s'.acceptor.started = true ↔ s.acceptor.started = true ∨ a = .dial true) :
    Action.dial true ∈ acts ++ [a] ↔ s'.acceptor.started = true := by
  rw [List.mem_append, List.mem_singleton, h.started, hstarted, eq_comm (a := a)]

/-- A step that leaves socket and back half as they were keeps the history, if
what it does to the acceptor is accounted for. -/
theorem History.of_same (h : History abortsOnClose acts s)
    (hrun : Transition.run (step abortsOnClose) UdpConn.init acts = some s)
    (hcure : ¬Cure abortsOnClose s a) (hsocket : s'.socket = s.socket)
    (hbroken : s'.backBroken = s.backBroken)
    (hstarted : s'.acceptor.started = true ↔ s.acceptor.started = true ∨ a = .dial true)
    (hended : (∃ rx, s'.acceptor = .pumping .done rx) ∨ s'.acceptor = .ended →
      (∃ rx, s.acceptor = .pumping .done rx) ∨ s.acceptor = .ended)
    (hrunning : ∀ rx, s'.acceptor = .pumping .running rx →
      s.acceptor.started = false ∨ ∃ rx', s.acceptor = .pumping .running rx') :
    History abortsOnClose (acts ++ [a]) s' := by
  have hsame := Transition.occurred_concat_iff (a := a) (E := Cure abortsOnClose) hrun
  simp only [hcure, or_false] at hsame
  constructor
  · exact h.started_concat hstarted
  · intro hunstarted
    rw [hsocket]
    apply h.socket
    by_contra hbefore
    rw [Bool.not_eq_false] at hbefore
    rw [hstarted.mpr (.inl hbefore)] at hunstarted
    cases hunstarted
  · intro hoccurred
    exact hstarted.mpr (.inl (h.cured (hsame.mp hoccurred)))
  · intro hwaiting
    exact hsame.mpr (h.waiting ((wakeWaiting_congr hsocket hbroken).mp hwaiting))
  · intro hend
    exact hsame.mpr (h.ended (hended hend))
  · intro hoccurred rx hacceptor
    have hold := hsame.mp hoccurred
    rcases hrunning rx hacceptor with hunstarted | ⟨rx', hbefore⟩
    · rw [h.cured hold] at hunstarted
      cases hunstarted
    · exact (wakeWaiting_congr hsocket hbroken).mpr (h.lasting hold rx' hbefore)

/-- A step that makes writing towards the initiator impossible. -/
theorem History.of_broken (h : History abortsOnClose acts s)
    (hrun : Transition.run (step abortsOnClose) UdpConn.init acts = some s)
    (hdial : a ≠ .dial true) (hcure : Cure abortsOnClose s a ↔ s.targetWaiting)
    (hacceptor : s'.acceptor = s.acceptor) (hsocket : s'.socket = s.socket)
    (hbroken : s'.backBroken = true) : History abortsOnClose (acts ++ [a]) s' := by
  have hcured := Transition.occurred_concat_iff (a := a) (E := Cure abortsOnClose) hrun
  have hwake := wakeWaiting_of_broken hsocket hbroken
  rw [hcure] at hcured
  constructor
  · exact h.started_concat (by simp [hacceptor, hdial])
  · intro hunstarted
    rw [hsocket]
    exact h.socket (hacceptor ▸ hunstarted)
  · intro hoccurred
    rw [hacceptor]
    rcases hcured.mp hoccurred with hold | ⟨payload, hmem⟩
    · exact h.cured hold
    · by_contra hunstarted
      rw [h.socket (Bool.eq_false_of_not_eq_true hunstarted)] at hmem
      cases hmem
  · intro hwaiting
    rcases hwake.mp hwaiting with htarget | hold
    · exact hcured.mpr (.inr htarget)
    · exact hcured.mpr (.inl (h.waiting hold))
  · intro hend
    rw [hacceptor] at hend
    exact hcured.mpr (.inl (h.ended hend))
  · intro hoccurred rx hrunning
    rw [hacceptor] at hrunning
    rcases hcured.mp hoccurred with hold | htarget
    · exact hwake.mpr (.inr (h.lasting hold rx hrunning))
    · exact hwake.mpr (.inl htarget)

/-- Something arrives at the socket. -/
theorem History.of_arrive (h : History abortsOnClose acts s)
    (hrun : Transition.run (step abortsOnClose) UdpConn.init acts = some s) {item : SocketItem}
    (hstarted : s.acceptor.started = true) (hacceptor : s'.acceptor = s.acceptor)
    (hsocket : s'.socket = s.socket ++ [item]) (hbroken : s'.backBroken = s.backBroken) :
    History abortsOnClose (acts ++ [.arrive item]) s' := by
  have hcured := Transition.occurred_concat_iff (a := .arrive item)
    (E := Cure abortsOnClose) hrun
  have hwake : s'.WakeWaiting ↔ s.WakeWaiting ∨ s.Wakes item := by
    simp only [UdpConn.WakeWaiting, hsocket, wakes_congr hbroken, List.mem_append,
      List.mem_singleton, or_and_right, exists_or, exists_eq_left]
  constructor
  · exact h.started_concat (by simp [hacceptor])
  · intro hunstarted
    rw [hacceptor, hstarted] at hunstarted
    cases hunstarted
  · intro _
    rw [hacceptor]
    exact hstarted
  · intro hwaiting
    rcases hwake.mp hwaiting with hold | hnew
    · exact hcured.mpr (.inl (h.waiting hold))
    · exact hcured.mpr (.inr hnew)
  · intro hend
    rw [hacceptor] at hend
    exact hcured.mpr (.inl (h.ended hend))
  · intro hoccurred rx hrunning
    rw [hacceptor] at hrunning
    rcases hcured.mp hoccurred with hold | hnew
    · exact hwake.mpr (.inl (h.lasting hold rx hrunning))
    · exact hwake.mpr (.inr hnew)

/-- The `tx` pump takes up the first item of its socket. -/
theorem History.of_recvFrom (h : History abortsOnClose acts s)
    (hrun : Transition.run (step abortsOnClose) UdpConn.init acts = some s) {rx : Pump}
    {item : SocketItem} (hacceptor : s.acceptor = .pumping .running rx)
    (hsocket : s.socket = item :: s'.socket) (hbroken : s'.backBroken = s.backBroken)
    (hafter : (s'.acceptor = s.acceptor ∧ ¬s.Wakes item) ∨
      (s'.acceptor = .pumping .done rx ∧ s.Wakes item)) :
    History abortsOnClose (acts ++ [.recvFrom]) s' := by
  have hsame := Transition.occurred_concat_iff (a := .recvFrom) (E := Cure abortsOnClose) hrun
  simp only [Cure, or_false] at hsame
  have hwake : s.WakeWaiting ↔ s.Wakes item ∨ s'.WakeWaiting := by
    simp only [UdpConn.WakeWaiting, hsocket, wakes_congr hbroken, List.exists_mem_cons_iff]
  have hstarted' : s'.acceptor.started = true := by
    rcases hafter with ⟨hafter, _⟩ | ⟨hafter, _⟩
    · rw [hafter, hacceptor]
      rfl
    · rw [hafter]
      rfl
  have hstarted : s.acceptor.started = true := by
    rw [hacceptor]
    rfl
  constructor
  · exact h.started_concat (by simp [hstarted, hstarted'])
  · intro hunstarted
    rw [hstarted'] at hunstarted
    cases hunstarted
  · intro _
    exact hstarted'
  · intro hwaiting
    exact hsame.mpr (h.waiting (hwake.mpr (.inr hwaiting)))
  · intro hend
    rcases hafter with ⟨hafter, _⟩ | ⟨_, hwakes⟩
    · rw [hafter] at hend
      exact hsame.mpr (h.ended hend)
    · exact hsame.mpr (h.waiting (hwake.mpr (.inl hwakes)))
  · intro hoccurred rx' hrunning
    rcases hafter with ⟨_, hwakes⟩ | ⟨hafter, _⟩
    · have hwaiting := h.lasting (hsame.mp hoccurred) rx hacceptor
      exact (hwake.mp hwaiting).resolve_left hwakes
    · rw [hafter] at hrunning
      cases hrunning

/-- The closing connection aborts the task. -/
theorem History.of_abort (h : History abortsOnClose acts s)
    (hrun : Transition.run (step abortsOnClose) UdpConn.init acts = some s)
    (habort : abortsOnClose = true) (hacceptor : ∀ tx rx, s'.acceptor ≠ .pumping tx rx)
    (hstarted : s'.acceptor.started = s.acceptor.started) (hsocket : s'.socket = s.socket)
    (hbroken : s'.backBroken = true) : History abortsOnClose (acts ++ [.close]) s' := by
  have hcured := Transition.occurred_concat_iff (a := .close) (E := Cure abortsOnClose) hrun
  have hwake := wakeWaiting_of_broken hsocket hbroken
  constructor
  · exact h.started_concat (by simp [hstarted])
  · intro hunstarted
    rw [hsocket]
    exact h.socket (hstarted ▸ hunstarted)
  · intro hoccurred
    rw [hstarted]
    rcases hcured.mp hoccurred with hold | ⟨_, tx, rx, hpumping⟩ | ⟨payload, hmem⟩
    · exact h.cured hold
    · rw [hpumping]
      rfl
    · by_contra hunstarted
      rw [h.socket (Bool.eq_false_of_not_eq_true hunstarted)] at hmem
      cases hmem
  · intro hwaiting
    rcases hwake.mp hwaiting with htarget | hold
    · exact hcured.mpr (.inr (.inr htarget))
    · exact hcured.mpr (.inl (h.waiting hold))
  · rintro (⟨rx, hpumping⟩ | hended)
    · exact absurd hpumping (hacceptor _ _)
    · rw [hended] at hstarted
      cases hbefore : s.acceptor with
      | pumping tx rx => exact hcured.mpr (.inr (.inl ⟨habort, tx, rx, hbefore⟩))
      | ended => exact hcured.mpr (.inl (h.ended (.inr hbefore)))
      | _ =>
          rw [hbefore] at hstarted
          cases hstarted
  · intro _ rx hrunning
    exact absurd hrunning (hacceptor _ _)

/-- A step extends the history. -/
theorem History.concat (h : History abortsOnClose acts s)
    (hrun : Transition.run (step abortsOnClose) UdpConn.init acts = some s)
    (hstep : step abortsOnClose s a = some s') : History abortsOnClose (acts ++ [a]) s' := by
  cases step_effect hstep with
  | quiet _ hdial hcure hacceptor hsocket hbroken =>
      refine h.of_same hrun hcure hsocket hbroken ?_ ?_ ?_
      · rcases hacceptor with hacceptor | ⟨hbefore, hafter⟩
        · simp [hacceptor, hdial]
        · simp [hbefore, hafter, hdial]
      · rcases hacceptor with hacceptor | ⟨hbefore, hafter⟩
        · rw [hacceptor]
          exact id
        · rintro (⟨rx, hend⟩ | hend) <;> rw [hend] at hafter <;> cases hafter
      · intro rx hrunning
        rcases hacceptor with hacceptor | ⟨hbefore, hafter⟩
        · exact .inr ⟨rx, hacceptor ▸ hrunning⟩
        · exact .inl hbefore
  | start hacceptor hacceptor' hsocket hbroken =>
      refine h.of_same hrun id hsocket hbroken ?_ ?_ ?_
      · simp [hacceptor', Acceptor.started]
      · rw [hacceptor']
        rintro (⟨rx, hend⟩ | hend) <;> cases hend
      · intro rx hrunning
        left
        rw [hacceptor]
        rfl
  | arrive item hstarted hacceptor hsocket hbroken =>
      exact h.of_arrive hrun hstarted hacceptor hsocket hbroken
  | skip rx item hacceptor hacceptor' hsocket hwakes hbroken =>
      exact h.of_recvFrom hrun hacceptor hsocket hbroken (.inl ⟨hacceptor', hwakes⟩)
  | wake rx item hacceptor hacceptor' hsocket hwakes hbroken =>
      exact h.of_recvFrom hrun hacceptor hsocket hbroken (.inr ⟨hacceptor', hwakes⟩)
  | read sent tx rx hacceptor hacceptor' hsocket hbroken =>
      refine h.of_same hrun id hsocket hbroken ?_ ?_ ?_
      · simp [hacceptor, hacceptor', Acceptor.started]
      · rw [hacceptor, hacceptor']
        rintro (⟨rx', hend⟩ | hend) <;> cases hend
        exact .inl ⟨.running, rfl⟩
      · intro rx' hrunning
        rw [hacceptor'] at hrunning
        cases hrunning
        exact .inr ⟨.running, hacceptor⟩
  | join hacceptor hacceptor' hsocket hbroken =>
      refine h.of_same hrun id hsocket hbroken ?_ ?_ ?_
      · simp [hacceptor, hacceptor', Acceptor.started]
      · intro _
        exact .inl ⟨.done, hacceptor⟩
      · intro rx hrunning
        rw [hacceptor'] at hrunning
        cases hrunning
  | stop hacceptor hsocket hbroken =>
      exact h.of_broken hrun (by simp) Iff.rfl hacceptor hsocket hbroken
  | close habort hacceptor hsocket hbroken =>
      exact h.of_broken hrun (by simp) (by simp [Cure, habort]) hacceptor hsocket hbroken
  | abort habort hacceptor hstarted hsocket hbroken =>
      exact h.of_abort hrun habort hacceptor hstarted hsocket hbroken

end HistoryStep

/-! ## What is still to come for the `rx` pump -/

/-- The acceptor is going to read what is in flight towards it. -/
def UdpConn.forthAwaited (s : UdpConn) : Prop :=
  match s.acceptor with
  | .none => s.forth ≠ []
  | .dispatching | .dialing | .pumping _ .running => True
  | _ => False

/-- An initiator that ends after it opened the stream finishes it. -/
structure UdpConn.Ordered (s : UdpConn) : Prop where
  unopened : s.initiator = .opening →
    s.forth = [] ∧ (s.acceptor = .none ∨ s.acceptor = .refused)
  finished : s.initiator = .ended → s.forthAwaited → s.closed = true ∨ .fin ∈ s.forth

theorem UdpConn.init_ordered : UdpConn.init.Ordered := by
  constructor
  · intro _
    exact ⟨rfl, .inl rfl⟩
  · intro hended
    cases hended

/-- An initiator that drops its halves leaves the mark of the end in flight. -/
theorem UdpConn.dropInitiator_ordered (s : UdpConn) (back : List BackFrame) :
    UdpConn.Ordered { s.dropInitiator with back := back } := by
  constructor
  · intro hopening
    cases hopening
  · intro _ _
    right
    simp [UdpConn.dropInitiator]

theorem UdpConn.Ordered.stepInitiator (h : s.Ordered) (hstep : stepInitiator s a = some s') :
    s'.Ordered := by
  have hdrop := s.dropInitiator_ordered
  cases a with
  | openConn =>
      simp only [UdpStream.stepInitiator] at hstep
      split at hstep <;> cases hstep
      constructor <;> intro hphase <;> cases hphase
  | readReply =>
      simp only [UdpStream.stepInitiator] at hstep
      repeat' split at hstep
      all_goals cases hstep
      · exact hdrop _
      · constructor <;> intro hphase <;> cases hphase
      · exact hdrop _
  | localDatagram payload =>
      simp only [UdpStream.stepInitiator] at hstep
      split at hstep
      · rename_i hrunning
        split at hstep <;> cases hstep
        · exact hdrop _
        · constructor <;> intro hphase <;> rw [hrunning] at hphase <;> cases hphase
      · cases hstep
  | readBack sent =>
      simp only [UdpStream.stepInitiator] at hstep
      split at hstep
      · rename_i hrunning
        repeat' split at hstep
        all_goals cases hstep
        · exact hdrop _
        · constructor <;> intro hphase <;> rw [hrunning] at hphase <;> cases hphase
        · exact hdrop _
        · exact hdrop _
      · cases hstep
  | endInitiator =>
      simp only [UdpStream.stepInitiator] at hstep
      split at hstep <;> cases hstep
      · rename_i hopening
        constructor
        · intro hphase
          cases hphase
        · intro _ hawaited
          rcases h.unopened hopening with ⟨hforth, hnone | hrefused⟩
          · simp [UdpConn.forthAwaited, hnone, hforth] at hawaited
          · simp [UdpConn.forthAwaited, hrefused] at hawaited
      · exact hdrop _
      · exact hdrop _
  | _ => cases hstep

/-- Nothing that is awaited is thrown away on an open connection. -/
theorem closed_of_awaited_unread (hawaited : s.forthAwaited) (hunread : s.forthUnread = true) :
    s.closed = true := by
  unfold UdpConn.forthAwaited at hawaited
  unfold UdpConn.forthUnread at hunread
  cases hacceptor : s.acceptor with
  | pumping tx rx => cases rx <;> simp_all
  | _ => simp_all

theorem UdpConn.Ordered.stepAcceptor (h : s.Ordered) (hstep : stepAcceptor s a = some s') :
    s'.Ordered := by
  have hunopened := h.unopened
  have hfinished := h.finished
  cases a with
  | recvFrom =>
      simp only [UdpStream.stepAcceptor] at hstep
      repeat' split at hstep
      all_goals cases hstep
      · rename_i rx socket hacceptor hsocket
        constructor <;> cases rx <;> simp_all [UdpConn.forthAwaited]
      · exact ⟨hunopened, hfinished⟩
      · rename_i rx payload socket hacceptor hsocket hbroken
        constructor <;> cases rx <;> simp_all [UdpConn.forthAwaited]
      · exact ⟨hunopened, hfinished⟩
  | _ =>
      simp only [UdpStream.stepAcceptor] at hstep
      all_goals repeat' split at hstep
      all_goals cases hstep
      all_goals constructor <;> simp_all [UdpConn.dropAcceptor, UdpConn.forthAwaited]

theorem UdpConn.Ordered.stepNetwork (h : s.Ordered)
    (hstep : stepNetwork abortsOnClose s a = some s') : s'.Ordered := by
  cases a with
  | deliverStopForth | deliverStopBack =>
      simp only [UdpStream.stepNetwork] at hstep
      split at hstep <;> cases hstep
      exact ⟨h.unopened, h.finished⟩
  | discardBack =>
      simp only [UdpStream.stepNetwork] at hstep
      repeat' split at hstep
      all_goals cases hstep
      exact ⟨h.unopened, h.finished⟩
  | discardForth =>
      simp only [UdpStream.stepNetwork] at hstep
      repeat' split at hstep
      all_goals cases hstep
      rename_i frame forth hforth hunread
      constructor
      · intro hopening
        rw [(h.unopened hopening).1] at hforth
        cases hforth
      · intro _ hawaited
        exact .inl (closed_of_awaited_unread hawaited hunread)
  | close =>
      simp only [UdpStream.stepNetwork] at hstep
      split at hstep <;> cases hstep
      constructor
      · intro hopening
        rcases h.unopened hopening with ⟨hforth, hacceptor⟩
        refine ⟨hforth, ?_⟩
        rcases hacceptor with hacceptor | hacceptor <;> cases abortsOnClose <;> simp [hacceptor]
      · intro _ _
        exact .inl rfl
  | _ => cases hstep

theorem UdpConn.Ordered.of_step (h : s.Ordered) (hstep : step abortsOnClose s a = some s') :
    s'.Ordered := by
  unfold step at hstep
  cases a with
  | openConn | readReply | localDatagram | readBack | endInitiator => exact h.stepInitiator hstep
  | accept | dispatch | dial | arrive | recvFrom | readStream | join =>
      exact h.stepAcceptor hstep
  | deliverStopForth | deliverStopBack | discardForth | discardBack | close =>
      exact h.stepNetwork hstep

/-! ## Release of the acceptor -/

/-- A pump with something to take up can take it up. -/
theorem recvFrom_enabled {rx : Pump} (hacceptor : s.acceptor = .pumping .running rx)
    (hwaiting : s.WakeWaiting) : step abortsOnClose s .recvFrom ≠ none := by
  rcases hwaiting with ⟨item, hitem, _⟩
  cases hsocket : s.socket with
  | nil =>
      rw [hsocket] at hitem
      cases hitem
  | cons first socket =>
      cases first <;> simp only [step, stepAcceptor, hacceptor, hsocket]
      · split <;> simp
      · simp
      · simp

/-- A pump on a finished stream or a closed connection can take notice. -/
theorem readStream_enabled {tx : Pump} (hacceptor : s.acceptor = .pumping tx .running)
    (hend : s.closed = true ∨ .fin ∈ s.forth) : step abortsOnClose s (.readStream true) ≠ none := by
  simp only [step, stepAcceptor, hacceptor]
  split
  · simp
  · rename_i hopen
    have hfin := hend.resolve_left hopen
    cases hforth : s.forth with
    | nil =>
        rw [hforth] at hfin
        cases hfin
    | cons first forth => cases first <;> simp

/-- When an ended conn has come to rest with its pumps still there, it is the `tx`
pump that waits. -/
theorem quiescent_pumping (hquiet : s.Quiescent abortsOnClose) (hordered : s.Ordered)
    (hended : s.initiator = .ended) {tx rx : Pump} (hacceptor : s.acceptor = .pumping tx rx) :
    tx = .running ∧ rx = .done := by
  have hrx : rx = .done := by
    cases rx with
    | done => rfl
    | running =>
        have hawaited : s.forthAwaited := by
          rw [UdpConn.forthAwaited, hacceptor]
          trivial
        exact absurd (hquiet (.readStream true) rfl)
          (readStream_enabled hacceptor (hordered.finished hended hawaited))
  subst hrx
  cases tx with
  | running => exact ⟨rfl, rfl⟩
  | done =>
      have hjoin := hquiet .join rfl
      simp [step, stepAcceptor, hacceptor] at hjoin

/-- When nothing happens any more after the initiator's end, the pumps are gone
exactly if they were never started, or if after the initiator's request to stop
had arrived (or the connection had closed) a datagram of the target was waiting
or arrived, or the socket failed, or the closing connection aborted them. -/
theorem released_iff {abortsOnClose : Bool} {acts : List Action} {s : UdpConn}
    (hrun : Transition.run (step abortsOnClose) UdpConn.init acts = some s)
    (hquiet : s.Quiescent abortsOnClose) (hended : s.initiator = .ended) :
    (∀ tx rx, s.acceptor ≠ .pumping tx rx) ↔
      Action.dial true ∉ acts ∨
        Transition.Occurred (step abortsOnClose) UdpConn.init acts (Cure abortsOnClose) := by
  have hhistory : History abortsOnClose acts s :=
    Transition.run_induction (History.init abortsOnClose)
      (fun as a mid t hmid h hstep => h.concat hmid hstep) hrun
  have hordered : s.Ordered :=
    Transition.run_invariant (fun _ _ _ h hstep => h.of_step hstep) UdpConn.init_ordered hrun
  constructor
  · intro hreleased
    by_cases hdialed : Action.dial true ∈ acts
    · right
      have hstarted := hhistory.started.mp hdialed
      cases hacceptor : s.acceptor with
      | pumping tx rx => exact absurd hacceptor (hreleased tx rx)
      | ended => exact hhistory.ended (.inr hacceptor)
      | _ =>
          rw [hacceptor] at hstarted
          cases hstarted
    · exact .inl hdialed
  · rintro hcause tx rx hacceptor
    have hwaits := quiescent_pumping hquiet hordered hended hacceptor
    rw [hwaits.1] at hacceptor
    have hstarted : s.acceptor.started = true := by
      rw [hacceptor]
      rfl
    rcases hcause with hdialed | hcured
    · exact hdialed (hhistory.started.mpr hstarted)
    · exact recvFrom_enabled hacceptor (hhistory.lasting hcured rx hacceptor)
        (hquiet .recvFrom rfl)

/-- A conn that is opened and relays one datagram, until the initiator's idle
timeout and everything that follows from it. -/
def idleTimeoutRun : List Action :=
  [.openConn, .accept, .dispatch true, .readReply, .dial true, .localDatagram [1],
    .readStream true, .endInitiator, .readStream true, .deliverStopBack, .deliverStopForth]

/-- The reply that comes after the idle timeout sets the pumps free. -/
theorem released_by_late_reply :
    ∃ s, Transition.run (step false) UdpConn.init
        (idleTimeoutRun ++ [.arrive (.target [2]), .recvFrom, .discardBack, .join]) = some s ∧
      s.initiator = .ended ∧ s.Quiescent false ∧ ∀ tx rx, s.acceptor ≠ .pumping tx rx := by
  have hrun := (Option.some_get (show (Transition.run (step false) UdpConn.init
    (idleTimeoutRun ++ [.arrive (.target [2]), .recvFrom, .discardBack, .join])).isSome = true
      by decide +kernel)).symm
  refine ⟨_, hrun, rfl, by decide +kernel, ?_⟩
  refine (released_iff hrun (by decide +kernel) rfl).mpr (.inr ?_)
  exact ⟨idleTimeoutRun, .arrive (.target [2]), _, _, rfl,
    (Option.some_get (by decide +kernel)).symm, rfl⟩

/-- Without it the conn comes to rest with the initiator gone and the acceptor
still holding its socket, its registration and its send half. -/
theorem pump_stranded :
    ∃ s, Transition.run (step true) UdpConn.init idleTimeoutRun = some s ∧
      s.Quiescent true ∧ s.initiator = .ended ∧ s.acceptor = .pumping .running .done ∧
      s.forth = [] ∧ s.back = [] := by
  exact ⟨_, (Option.some_get (by decide +kernel)).symm, by decide +kernel, rfl, rfl, rfl, rfl⟩

end UdpStream
end Rusnel
