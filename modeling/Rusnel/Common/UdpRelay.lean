import Rusnel.Common.SocksUdp
import Rusnel.Common.UdpTable

/-!
# Traffic through a UDP listener

The table of conns of {lit}`UdpTable` with what passes through it: the datagrams
that arrive at the listener's socket, the stream each conn task opens, the
datagrams it writes there, and the replies it reads and sends back.  Every
arrival has a serial number, its position among the arrivals, which follows it
through the channel onto the stream.

The two listeners differ in how an arrival is read, in what their conns announce
and in how a reply is wrapped.

Main results:

- Theorem {lit}`step_cases`: what one step can do, with the steps of a conn task
  told apart in {lit}`LinkStep`.
-/

namespace Rusnel
namespace UdpRelay

open Net UdpTable

/-! ## The two listeners -/

/-- A datagram at the listener's socket. -/
structure Arrival where
  src : SocketAddr
  data : List UInt8
deriving DecidableEq, Repr

/-- Receive into a buffer of 65535 bytes: the number of bytes received, and the
buffer with them at its front. -/
def recvInto (buf : List UInt8) (data : List UInt8) : Nat × List UInt8 :=
  (min data.length maxDatagram, data.take maxDatagram ++ buf.drop data.length)

/-- What was received is at the front, whatever the buffer held before. -/
theorem recvInto_take (buf data : List UInt8) :
    (recvInto buf data).2.take (recvInto buf data).1 = data.take maxDatagram := by
  apply List.take_left'
  rw [List.length_take, Nat.min_comm]
  rfl

/-- What distinguishes the two receive loops.  How an arrival is read does not
depend on what the receive buffer held, a conn's key holds the source, and a
payload fits a datagram. -/
structure Listener (κ : Type) where
  /-- The source a conn is opened for. -/
  source : κ → SocketAddr
  /-- The dynamic target its opener announces. -/
  dynamic : κ → Option DynamicTarget
  /-- What is sent to the source for a reply. -/
  wrap : κ → Datagram → List UInt8
  /-- Read an arrival through the buffer of the loop: the key and the payload,
  unless it is skipped, and the buffer for the next one. -/
  receive : List UInt8 → Arrival → Option (κ × Datagram) × List UInt8
  /-- The key and the payload of an arrival. -/
  accepts : Arrival → Option (κ × Datagram)
  receive_accepts : ∀ buf a, (receive buf a).1 = accepts a
  accepts_source : ∀ a key payload, accepts a = some (key, payload) → source key = a.src
  accepts_short : ∀ a key payload, accepts a = some (key, payload) →
    payload.length ≤ maxDatagram

/-- Grow the receive pool to 65535 bytes. -/
def resizePool (buf : List UInt8) : List UInt8 :=
  buf.take maxDatagram ++ List.replicate (maxDatagram - buf.length) 0

/-- The loop of `tunnel_udp_client`: one conn per source.  The payload is split
off the front of a pool that keeps the rest. -/
def tunnelUdpListener : Listener SocketAddr where
  source src := src
  dynamic _ := none
  wrap _ payload := payload
  receive buf a :=
    let (n, buf) := recvInto (resizePool buf) a.data
    (some (a.src, buf.take n), buf.drop n)
  accepts a := some (a.src, a.data.take maxDatagram)
  receive_accepts buf a := by
    simp only [recvInto_take]
  accepts_source a key payload h := by
    cases h
    rfl
  accepts_short a key payload h := by
    cases h
    exact List.length_take_le _ _

/-- The payload of a SOCKS5 datagram is a part of it. -/
theorem parseSocksUdpHeader_length {buf payload : List UInt8} {target : HostPort}
    (h : parseSocksUdpHeader buf = .ok (target, payload)) : payload.length ≤ buf.length := by
  have hdrop : ∃ n, payload = buf.drop n := by
    revert h
    fun_cases parseSocksUdpHeader buf <;> intro h <;> cases h <;> exact ⟨_, rfl⟩
  obtain ⟨n, rfl⟩ := hdrop
  rw [List.length_drop]
  omega

/-- The loop of `run_socks_udp_relay`: one conn per source and target.  An arrival
without a valid header is skipped. -/
def socksUdpListener : Listener (SocketAddr × HostPort) where
  source key := key.1
  dynamic key := some (.udp key.2)
  wrap key payload := wrapSocksUdpReply key.2 payload
  receive buf a :=
    let (n, buf) := recvInto buf a.data
    match parseSocksUdpHeader (buf.take n) with
    | .error _ => (none, buf)
    | .ok (target, payload) => (some ((a.src, target), payload), buf)
  accepts a :=
    match parseSocksUdpHeader (a.data.take maxDatagram) with
    | .error _ => none
    | .ok (target, payload) => some ((a.src, target), payload)
  receive_accepts buf a := by
    simp only [recvInto_take]
    split <;> rfl
  accepts_source a key payload h := by
    split at h <;> cases h
    rfl
  accepts_short a key payload h := by
    split at h
    · cases h
    · rename_i htarget
      cases h
      exact (parseSocksUdpHeader_length htarget).trans (List.length_take_le _ _)

/-! ## Streams and their conn tasks -/

/-- How far a conn task has come with its stream. -/
inductive LinkPhase where
  | opening
  /-- The opener was written; the reply is awaited. -/
  | awaiting
  | relaying
deriving DecidableEq, Repr

/-- The stream of a conn task and what passed over it. -/
structure Link where
  phase : LinkPhase
  /-- The opener that was written. -/
  opener : Option OpenConn
  /-- The serial numbers of the datagrams in the channel. -/
  serials : List Nat
  /-- Everything that was put into the channel, with the serial numbers. -/
  taken : List (Nat × Datagram)
  /-- Taken from the channel and being written. -/
  writing : Option (Nat × Datagram)
  /-- Written, with the serial numbers. -/
  written : List (Nat × Datagram)
  /-- The bytes on the stream behind the opener. -/
  wire : List UInt8
  /-- The replies read from the stream. -/
  replies : List Datagram
  /-- The reply with this number was read and is to be sent. -/
  replying : Option (Nat × Datagram)
deriving DecidableEq, Repr

/-- A conn task that was just spawned. -/
def Link.new : Link where
  phase := .opening
  opener := none
  serials := []
  taken := []
  writing := none
  written := []
  wire := []
  replies := []
  replying := none

/-- A datagram was put into the channel. -/
def Link.take (link : Link) (serial : Nat) (payload : Datagram) : Link :=
  { link with
    serials := link.serials ++ [serial]
    taken := link.taken ++ [(serial, payload)] }

/-- The run ends.  Of the datagram that was being written the first bytes may have
gone out, but not all. -/
def Link.cut (link : Link) (n : Nat) : Link :=
  { link with
    serials := []
    writing := none
    wire := link.wire ++
      match link.writing with
      | some (_, payload) => (datagramBytes payload).dropLast.take n
      | none => []
    replying := none }

/-- A datagram sent from the listener's socket: reply number `reply` of conn
`conn`. -/
structure Outgoing where
  conn : Nat
  reply : Nat
  dest : SocketAddr
  bytes : List UInt8
deriving DecidableEq, Repr

/-- A listener with its table, its socket and the streams of its conns. -/
structure Traffic (κ : Type) where
  relay : Relay κ
  /-- The receive buffer of the loop. -/
  buffer : List UInt8
  arrivals : List Arrival
  /-- One for each conn task, in the order of spawning. -/
  links : List Link
  sent : List Outgoing
  /-- The abort of the loop's task has taken effect, or its socket has failed: it
  receives no more. -/
  stopping : Bool

/-- A listener that has just bound its socket. -/
def Traffic.init (κ : Type) : Traffic κ where
  relay := Relay.init κ
  buffer := []
  arrivals := []
  links := []
  sent := []
  stopping := false

/-- The steps of the loop and of the conn tasks. -/
inductive Event where
  | recvFrom (a : Arrival)
  | get
  | isClosed
  | remove
  | insertSpawn
  | trySend
  /-- Conn `n` opens its stream and writes the opener. -/
  | openStream (n : Nat)
  /-- Conn `n` reads an `Ok` reply. -/
  | opened (n : Nat)
  /-- Conn `n` takes a datagram from its channel. -/
  | recv (n : Nat)
  /-- Conn `n` has written the datagram. -/
  | writeDatagram (n : Nat)
  /-- Conn `n` reads a reply from its stream. -/
  | readDatagram (n : Nat) (payload : Datagram)
  /-- Conn `n` sends the reply. -/
  | sendTo (n : Nat)
  /-- The run of conn `n` ends, by a timeout, an error or a closed channel. -/
  | runEnds (n : Nat) (cut : Nat)
  /-- Conn `n` removes its key. -/
  | finalRemove (n : Nat)
  /-- The abort of the loop's task takes effect, or its socket fails. -/
  | stop
deriving DecidableEq, Repr

variable {κ : Type} [DecidableEq κ]

namespace Traffic

/-- The conn task `n` that is still running its conn, and its stream. -/
def running (s : Traffic κ) (n : Nat) : Option (Conn κ × Link) :=
  match s.relay.tasks[n]?, s.links[n]? with
  | some conn, some link => if conn.stage = .running then some (conn, link) else none
  | _, _ => none

/-- Update the stream of conn `n`. -/
def setLink (s : Traffic κ) (n : Nat) (link : Link) : Traffic κ :=
  { s with links := s.links.set n link }

/-- One step of the loop between two waits. -/
def stepLoop (capacity : Nat) (s : Traffic κ) (a : Action κ) : Option (Traffic κ) :=
  (UdpTable.step capacity s.relay a).map fun relay => { s with relay := relay }

end Traffic

/-- One step of a listener's traffic; openers name the tunnel.  A {lit}`stop` is the
moment at which the end of the loop takes effect: an abort that was asked for earlier
leaves it free to go on to its next wait, and a datagram it is dealing with is still
handed over. -/
def step (L : Listener κ) (capacity : Nat) (tunnelId : UInt64) (s : Traffic κ) :
    Event → Option (Traffic κ)
  | .recvFrom a =>
      if s.stopping then none
      else
        match L.receive s.buffer a with
        | (none, buffer) =>
            if s.relay.loop = .receiving then
              some { s with buffer := buffer, arrivals := s.arrivals ++ [a] }
            else none
        | (some (key, payload), buffer) =>
            ({ s with buffer := buffer, arrivals := s.arrivals ++ [a] } : Traffic κ).stepLoop
              capacity (.recvFrom key payload)
  | .get => s.stepLoop capacity .get
  | .isClosed => s.stepLoop capacity .isClosed
  | .remove => s.stepLoop capacity .remove
  | .insertSpawn =>
      ({ s with links := s.links ++ [.new] } : Traffic κ).stepLoop capacity .insertSpawn
  | .trySend =>
      match s.relay.loop with
      | .sending n payload =>
          match s.running n with
          | some (conn, link) =>
              if conn.queue.length < capacity then
                -- the loop is at its last arrival
                (s.setLink n (link.take (s.arrivals.length - 1) payload)).stepLoop capacity .trySend
              else s.stepLoop capacity .trySend
          | none => s.stepLoop capacity .trySend
      | _ => none
  | .openStream n =>
      match s.running n with
      | some (conn, link) =>
          if link.phase = .opening then
            some (s.setLink n { link with
              phase := .awaiting
              opener := some ⟨tunnelId, L.dynamic conn.key⟩ })
          else none
      | none => none
  | .opened n =>
      match s.running n with
      | some (_, link) =>
          if link.phase = .awaiting then some (s.setLink n { link with phase := .relaying })
          else none
      | none => none
  | .recv n =>
      match s.running n with
      | some (conn, link) =>
          match link.phase, link.writing, link.serials, conn.queue with
          | .relaying, none, serial :: serials, payload :: _ =>
              (s.setLink n { link with
                serials := serials
                writing := some (serial, payload) }).stepLoop capacity (.recv n)
          | _, _, _, _ => none
      | none => none
  | .writeDatagram n =>
      match s.running n with
      | some (_, link) =>
          match link.writing with
          | some item =>
              match Rusnel.writeDatagram link.wire item.2 with
              | (wire, .ok ()) =>
                  some (s.setLink n { link with
                    writing := none
                    written := link.written ++ [item]
                    wire := wire })
              | (_, .error _) => none
          | none => none
      | none => none
  | .readDatagram n payload =>
      match s.running n with
      | some (_, link) =>
          if link.phase = .relaying ∧ link.replying = none then
            some (s.setLink n { link with
              replies := link.replies ++ [payload]
              replying := some (link.replies.length, payload) })
          else none
      | none => none
  | .sendTo n =>
      match s.running n with
      | some (conn, link) =>
          match link.replying with
          | some (reply, payload) =>
              some { s.setLink n { link with replying := none } with
                sent := s.sent ++ [⟨n, reply, L.source conn.key, L.wrap conn.key payload⟩] }
          | none => none
      | none => none
  | .runEnds n cut =>
      match s.running n with
      | some (_, link) => (s.setLink n (link.cut cut)).stepLoop capacity (.runEnds n)
      | none => none
  | .finalRemove n => s.stepLoop capacity (.finalRemove n)
  | .stop => some { s with stopping := true }

/-- The traffic of a UDP tunnel. -/
def tunnelUdpTraffic (tunnelId : UInt64) :
    Traffic SocketAddr → Event → Option (Traffic SocketAddr) :=
  step tunnelUdpListener 4096 tunnelId

/-- The traffic of a SOCKS5 association. -/
def socksUdpTraffic (tunnelId : UInt64) :
    Traffic (SocketAddr × HostPort) → Event → Option (Traffic (SocketAddr × HostPort)) :=
  step socksUdpListener 4096 tunnelId

/-! ## What a step can do -/

/-- What a conn task does in one step: to its entry, to its stream, and the
replies it sends. -/
inductive LinkStep (L : Listener κ) (tunnelId : UInt64) (conn : Conn κ) (link : Link) :
    Conn κ → Link → List (Nat × Datagram) → Prop where
  | openStream (hstage : conn.stage = .running) (hphase : link.phase = .opening) :
      LinkStep L tunnelId conn link conn
        { link with phase := .awaiting, opener := some ⟨tunnelId, L.dynamic conn.key⟩ } []
  | opened (hstage : conn.stage = .running) (hphase : link.phase = .awaiting) :
      LinkStep L tunnelId conn link conn { link with phase := .relaying } []
  | recv {serial : Nat} {serials : List Nat} {payload : Datagram} {queue : List Datagram}
      (hstage : conn.stage = .running) (hphase : link.phase = .relaying)
      (hwriting : link.writing = none) (hserials : link.serials = serial :: serials)
      (hqueue : conn.queue = payload :: queue) :
      LinkStep L tunnelId conn link { conn with queue := queue }
        { link with serials := serials, writing := some (serial, payload) } []
  | writeDatagram {item : Nat × Datagram} (hstage : conn.stage = .running)
      (hwriting : link.writing = some item) :
      LinkStep L tunnelId conn link conn
        { link with
          writing := none
          written := link.written ++ [item]
          wire := link.wire ++ datagramBytes item.2 } []
  | readDatagram {payload : Datagram} (hstage : conn.stage = .running)
      (hphase : link.phase = .relaying) (hreplying : link.replying = none) :
      LinkStep L tunnelId conn link conn
        { link with
          replies := link.replies ++ [payload]
          replying := some (link.replies.length, payload) } []
  | sendTo {item : Nat × Datagram} (hstage : conn.stage = .running)
      (hreplying : link.replying = some item) :
      LinkStep L tunnelId conn link conn { link with replying := none } [item]
  | runEnds (n : Nat) (hstage : conn.stage = .running) :
      LinkStep L tunnelId conn link ⟨conn.key, .ended, []⟩ (link.cut n) []
  | finalRemove (hstage : conn.stage = .ended) :
      LinkStep L tunnelId conn link ⟨conn.key, .finished, conn.queue⟩ link []

/-- The replies of conn `n` as they leave the socket. -/
def Listener.outgoing (L : Listener κ) (n : Nat) (key : κ) (items : List (Nat × Datagram)) :
    List Outgoing :=
  items.map fun item => ⟨n, item.1, L.source key, L.wrap key item.2⟩

/-- The effect of a step, with the conditions under which it is taken. -/
inductive TrafficStep (L : Listener κ) (capacity : Nat) (tunnelId : UInt64) (s : Traffic κ) :
    Traffic κ → Prop where
  | skipped {a : Arrival} {buffer : List UInt8} (hstopping : s.stopping = false)
      (hloop : s.relay.loop = .receiving) (haccepts : L.accepts a = none) :
      TrafficStep L capacity tunnelId s
        { s with buffer := buffer, arrivals := s.arrivals ++ [a] }
  | received {a : Arrival} {buffer : List UInt8} {key : κ} {payload : Datagram}
      (hstopping : s.stopping = false) (hloop : s.relay.loop = .receiving)
      (haccepts : L.accepts a = some (key, payload)) :
      TrafficStep L capacity tunnelId s
        { s with
          relay := { s.relay with loop := .received key payload }
          buffer := buffer
          arrivals := s.arrivals ++ [a] }
  | looked {a : Action κ} {relay : Relay κ} (ha : a = .get ∨ a = .isClosed ∨ a = .remove)
      (hstep : RelayStep capacity s.relay a relay) :
      TrafficStep L capacity tunnelId s { s with relay := relay }
  | spawned {key : κ} {payload : Datagram} (hloop : s.relay.loop = .opening key payload) :
      TrafficStep L capacity tunnelId s
        { s with
          relay :=
            { s.relay with
              conns := s.relay.conns.insert key s.relay.tasks.length
              tasks := s.relay.tasks ++ [⟨key, .running, []⟩]
              loop := .sending s.relay.tasks.length payload }
          links := s.links ++ [.new] }
  | queued {n : Nat} {payload : Datagram} {conn : Conn κ} {link : Link}
      (hloop : s.relay.loop = .sending n payload) (hconn : s.relay.tasks[n]? = some conn)
      (hlink : s.links[n]? = some link) (hstage : conn.stage = .running) :
      TrafficStep L capacity tunnelId s
        { s with
          relay :=
            { s.relay with
              tasks := s.relay.tasks.set n { conn with queue := conn.queue ++ [payload] }
              loop := .receiving }
          links := s.links.set n (link.take (s.arrivals.length - 1) payload) }
  | dropped {n : Nat} {payload : Datagram} (hloop : s.relay.loop = .sending n payload) :
      TrafficStep L capacity tunnelId s
        { s with relay := { s.relay with loop := .receiving } }
  | conn {n : Nat} {conn conn' : Conn κ} {link link' : Link} {items : List (Nat × Datagram)}
      {conns : AList fun _ : κ => Nat} (hconn : s.relay.tasks[n]? = some conn)
      (hlink : s.links[n]? = some link)
      (hstep : LinkStep L tunnelId conn link conn' link' items)
      (hconns : conns = s.relay.conns ∨ conns = s.relay.conns.erase conn.key) :
      TrafficStep L capacity tunnelId s
        { s with
          relay := { s.relay with conns := conns, tasks := s.relay.tasks.set n conn' }
          links := s.links.set n link'
          sent := s.sent ++ L.outgoing n conn.key items }
  | stop : TrafficStep L capacity tunnelId s { s with stopping := true }

variable {s t : Traffic κ}

omit [DecidableEq κ] in
theorem Traffic.running_eq_some {n : Nat} {conn : Conn κ} {link : Link} :
    s.running n = some (conn, link) ↔
      s.relay.tasks[n]? = some conn ∧ s.links[n]? = some link ∧ conn.stage = .running := by
  unfold Traffic.running
  cases s.relay.tasks[n]? with
  | none => simp
  | some conn' =>
      cases s.links[n]? with
      | none => simp
      | some link' =>
          simp only [Option.ite_none_right_eq_some, Option.some.injEq, Prod.mk.injEq]
          constructor
          · rintro ⟨hstage, rfl, rfl⟩
            exact ⟨rfl, rfl, hstage⟩
          · rintro ⟨rfl, rfl, hstage⟩
            exact ⟨hstage, rfl, rfl⟩

variable {capacity : Nat}

theorem Traffic.stepLoop_eq_some {a : Action κ} :
    s.stepLoop capacity a = some t ↔
      ∃ relay, UdpTable.step capacity s.relay a = some relay ∧ { s with relay := relay } = t := by
  simp [Traffic.stepLoop]

omit [DecidableEq κ] in
/-- With one stream for each task, a task has its stream. -/
theorem exists_link (hlen : s.links.length = s.relay.tasks.length) {n : Nat} {conn : Conn κ}
    (hconn : s.relay.tasks[n]? = some conn) : ∃ link, s.links[n]? = some link := by
  have hlt := (List.getElem?_eq_some_iff.mp hconn).1
  exact ⟨s.links[n], List.getElem?_eq_getElem (by omega)⟩

variable {tunnelId : UInt64} {L : Listener κ}

/-- A step that only touches the stream of a running conn. -/
theorem TrafficStep.of_setLink {n : Nat} {conn : Conn κ} {link link' : Link}
    (hrunning : s.running n = some (conn, link))
    (hstep : LinkStep L tunnelId conn link conn link' []) :
    TrafficStep L capacity tunnelId s (s.setLink n link') := by
  obtain ⟨hconn, hlink, -⟩ := Traffic.running_eq_some.mp hrunning
  have h : TrafficStep L capacity tunnelId s _ := .conn hconn hlink hstep (.inl rfl)
  rwa [Indexed.set_same hconn, Listener.outgoing, List.map_nil, List.append_nil] at h

/-- A datagram is read off the socket: it is skipped, or the loop goes on with it. -/
theorem TrafficStep.of_recvFrom {a : Arrival}
    (h : step L capacity tunnelId s (.recvFrom a) = some t) :
    TrafficStep L capacity tunnelId s t := by
  have haccepts := L.receive_accepts s.buffer a
  simp only [step] at h
  by_cases hstopping : s.stopping = true
  · rw [if_pos hstopping] at h
    cases h
  rw [if_neg hstopping] at h
  split at h
  · rename_i buffer hreceive
    split_ifs at h with hloop
    cases h
    rw [hreceive] at haccepts
    exact .skipped (by simpa using hstopping) hloop haccepts.symm
  · rename_i key payload buffer hreceive
    obtain ⟨relay, hrelay, rfl⟩ := Traffic.stepLoop_eq_some.mp h
    rw [hreceive] at haccepts
    cases UdpTable.step_cases hrelay with
    | recvFrom _ _ hloop =>
        exact .received (by simpa using hstopping) hloop haccepts.symm

/-- The channel of a conn that has ended, or is full, takes nothing. -/
theorem TrafficStep.of_full {n : Nat} {payload : Datagram}
    (hloop : s.relay.loop = .sending n payload) (hfull : ∀ conn, s.relay.tasks[n]? = some conn →
      ¬(conn.stage = .running ∧ conn.queue.length < capacity))
    (h : s.stepLoop capacity .trySend = some t) : TrafficStep L capacity tunnelId s t := by
  obtain ⟨relay, hrelay, rfl⟩ := Traffic.stepLoop_eq_some.mp h
  obtain ⟨n', payload', conn, hloop', hconn, hcase⟩ := trySend_cases hrelay
  cases hloop.symm.trans hloop'
  rcases hcase with ⟨hopen, -⟩ | ⟨-, rfl⟩
  · exact absurd hopen (hfull conn hconn)
  · exact .dropped hloop

/-- The loop hands its datagram to a conn: it is queued or dropped. -/
theorem TrafficStep.of_trySend (hlen : s.links.length = s.relay.tasks.length)
    (h : step L capacity tunnelId s .trySend = some t) : TrafficStep L capacity tunnelId s t := by
  simp only [step] at h
  split at h
  · rename_i n payload hloop
    split at h
    · rename_i conn link hrunning
      obtain ⟨hconn, hlink, hstage⟩ := Traffic.running_eq_some.mp hrunning
      split_ifs at h with hroom
      · obtain ⟨relay, hrelay, rfl⟩ := Traffic.stepLoop_eq_some.mp h
        obtain ⟨n', payload', conn', hloop', hconn', hcase⟩ := trySend_cases hrelay
        cases hloop.symm.trans hloop'
        cases hconn.symm.trans hconn'
        rcases hcase with ⟨-, rfl⟩ | ⟨hfull, -⟩
        · exact .queued hloop hconn hlink hstage
        · exact absurd ⟨hstage, hroom⟩ hfull
      · refine .of_full hloop (fun conn' hconn' hopen => ?_) h
        cases hconn.symm.trans hconn'
        exact hroom hopen.2
    · rename_i hrunning
      refine .of_full hloop (fun conn hconn hopen => ?_) h
      obtain ⟨link, hlink⟩ := exists_link hlen hconn
      rw [Traffic.running_eq_some.mpr ⟨hconn, hlink, hopen.1⟩] at hrunning
      cases hrunning
  · cases h

theorem step_cases {e : Event} (hlen : s.links.length = s.relay.tasks.length)
    (h : step L capacity tunnelId s e = some t) : TrafficStep L capacity tunnelId s t := by
  cases e with
  | recvFrom a => exact .of_recvFrom h
  | get =>
      obtain ⟨relay, hrelay, rfl⟩ := Traffic.stepLoop_eq_some.mp h
      exact .looked (.inl rfl) (UdpTable.step_cases hrelay)
  | isClosed =>
      obtain ⟨relay, hrelay, rfl⟩ := Traffic.stepLoop_eq_some.mp h
      exact .looked (.inr (.inl rfl)) (UdpTable.step_cases hrelay)
  | remove =>
      obtain ⟨relay, hrelay, rfl⟩ := Traffic.stepLoop_eq_some.mp h
      exact .looked (.inr (.inr rfl)) (UdpTable.step_cases hrelay)
  | insertSpawn =>
      obtain ⟨relay, hrelay, rfl⟩ := Traffic.stepLoop_eq_some.mp h
      cases UdpTable.step_cases hrelay with
      | insertSpawn key payload hloop => exact .spawned hloop
  | trySend => exact .of_trySend hlen h
  | openStream n =>
      simp only [step] at h
      split at h
      · rename_i conn link hrunning
        split_ifs at h with hphase
        cases h
        have hstage := (Traffic.running_eq_some.mp hrunning).2.2
        exact .of_setLink hrunning (.openStream hstage hphase)
      · cases h
  | opened n =>
      simp only [step] at h
      split at h
      · rename_i conn link hrunning
        split_ifs at h with hphase
        cases h
        have hstage := (Traffic.running_eq_some.mp hrunning).2.2
        exact .of_setLink hrunning (.opened hstage hphase)
      · cases h
  | recv n =>
      simp only [step] at h
      split at h
      · rename_i conn link hrunning
        obtain ⟨hconn, hlink, hstage⟩ := Traffic.running_eq_some.mp hrunning
        split at h
        · rename_i serial serials payload queue hphase hwriting hserials hqueue
          obtain ⟨relay, hrelay, rfl⟩ := Traffic.stepLoop_eq_some.mp h
          obtain ⟨conn', payload', queue', hconn', -, hqueue', rfl⟩ := recv_cases hrelay
          cases hconn.symm.trans hconn'
          cases hqueue.symm.trans hqueue'
          have hstep : TrafficStep L capacity tunnelId s _ :=
            .conn hconn hlink (.recv hstage hphase hwriting hserials hqueue) (.inl rfl)
          rwa [Listener.outgoing, List.map_nil, List.append_nil] at hstep
        · cases h
      · cases h
  | writeDatagram n =>
      simp only [step] at h
      split at h
      · rename_i conn link hrunning
        split at h
        · rename_i item hwriting
          split at h
          · rename_i wire hwrite
            cases h
            have hstage := (Traffic.running_eq_some.mp hrunning).2.2
            rw [writeDatagram_eq_ok hwrite]
            exact .of_setLink hrunning (.writeDatagram hstage hwriting)
          · cases h
        · cases h
      · cases h
  | readDatagram n payload =>
      simp only [step] at h
      split at h
      · rename_i conn link hrunning
        split_ifs at h with hready
        cases h
        have hstage := (Traffic.running_eq_some.mp hrunning).2.2
        exact .of_setLink hrunning (.readDatagram hstage hready.1 hready.2)
      · cases h
  | sendTo n =>
      simp only [step] at h
      split at h
      · rename_i conn link hrunning
        obtain ⟨hconn, hlink, hstage⟩ := Traffic.running_eq_some.mp hrunning
        split at h
        · rename_i reply payload hreplying
          cases h
          have hstep : TrafficStep L capacity tunnelId s _ :=
            .conn hconn hlink (.sendTo hstage hreplying) (.inl rfl)
          rwa [Indexed.set_same hconn] at hstep
        · cases h
      · cases h
  | runEnds n cut =>
      simp only [step] at h
      split at h
      · rename_i conn link hrunning
        obtain ⟨hconn, hlink, hstage⟩ := Traffic.running_eq_some.mp hrunning
        obtain ⟨relay, hrelay, rfl⟩ := Traffic.stepLoop_eq_some.mp h
        cases UdpTable.step_cases hrelay with
        | runEnds _ conn' hconn' _ =>
            cases hconn.symm.trans hconn'
            have hstep : TrafficStep L capacity tunnelId s _ :=
              .conn hconn hlink (.runEnds cut hstage) (.inl rfl)
            rwa [Listener.outgoing, List.map_nil, List.append_nil] at hstep
      · cases h
  | finalRemove n =>
      obtain ⟨relay, hrelay, rfl⟩ := Traffic.stepLoop_eq_some.mp h
      cases UdpTable.step_cases hrelay with
      | finalRemove _ conn hconn hstage =>
          obtain ⟨link, hlink⟩ := exists_link hlen hconn
          have hstep : TrafficStep L capacity tunnelId s _ :=
            .conn hconn hlink (.finalRemove hstage) (.inr rfl)
          rwa [Indexed.set_same hlink, Listener.outgoing, List.map_nil, List.append_nil] at hstep
  | stop =>
      cases h
      exact .stop

end UdpRelay
end Rusnel
