import Rusnel.Foundation.Inbox
import Rusnel.Common.UdpIsolation
import Rusnel.Common.UdpStream

/-!
# The accepting side of a UDP conn

The two pumps of {lit}`tunnel_udp_stream` with their socket, and the stream to the
conn task at the other side.  The bytes of either direction arrive in order and in
pieces of any size; a pump that ends leaves at most a part of a datagram behind.

Main results:

- Theorem {lit}`Circuit.Sound.step`: every step keeps both directions in order.
-/

namespace Rusnel
namespace UdpTunnel

open Net UdpRelay UdpTable ByteStream
open UdpStream (Pump)

/-! ## The accepting side -/

/-- The accepting side of a conn with its socket, and what has arrived of the two
directions of the stream. -/
structure Circuit where
  /-- Where datagrams are sent to. -/
  address : SocketAddr
  /-- The pump from the stream to the socket. -/
  rx : Pump
  /-- What it has taken from the stream. -/
  forth : Inbox Datagram
  /-- What it has sent to the address. -/
  emitted : List Datagram
  /-- The pump from the socket to the stream. -/
  tx : Pump
  /-- Its receive buffer. -/
  buffer : List UInt8
  /-- What has arrived at the socket. -/
  received : List Arrival
  /-- Taken up from the socket and being written. -/
  writing : Option Datagram
  written : List Datagram
  /-- The bytes on the stream towards the conn task. -/
  wire : List UInt8
  /-- What the conn task has taken from the stream. -/
  back : Inbox Datagram

/-- The pumps of a conn that was just accepted. -/
def Circuit.new (address : SocketAddr) : Circuit where
  address := address
  rx := .running
  forth := .empty Datagram
  emitted := []
  tx := .running
  buffer := List.replicate maxDatagram 0
  received := []
  writing := none
  written := []
  wire := []
  back := .empty Datagram

/-- The steps of the pumps and of the stream. -/
inductive CircuitAction where
  /-- Up to `n` more bytes arrive at the pumps. -/
  | arriveForth (n : Nat)
  /-- The `rx` pump reads a datagram and sends it on, or fails to. -/
  | readStream (sent : Bool)
  | rxEnds
  /-- The `tx` pump takes up a datagram from its socket. -/
  | recvFrom (a : Arrival)
  /-- The `tx` pump has written the datagram. -/
  | writeDatagram
  /-- The `tx` pump ends; of the datagram being written the first bytes may have
  gone out, but not all. -/
  | txEnds (cut : Nat)
  /-- Up to `n` more bytes arrive at the conn task. -/
  | arriveBack (n : Nat)
deriving DecidableEq, Repr

/-- One step of the accepting side; `wire` is what the conn task has written. -/
def Circuit.step (wire : List UInt8) (c : Circuit) : CircuitAction → Option Circuit
  | .arriveForth n => some { c with forth := c.forth.arrive wire n }
  | .readStream sent =>
      if c.rx = .running then
        match c.forth.take (readDatagram maxDatagram) wire with
        | none => none
        | some (payload, forth) =>
            if sent then some { c with forth := forth, emitted := c.emitted ++ [payload] }
            else some { c with forth := forth, rx := .done }
      else none
  | .rxEnds => some { c with rx := .done }
  | .recvFrom a =>
      if c.tx = .running ∧ c.writing = none then
        let (len, buffer) := recvInto c.buffer a.data
        some { c with
          buffer := buffer
          received := c.received ++ [a]
          -- a datagram from elsewhere is dropped
          writing := if a.src ≠ c.address then none else some (buffer.take len) }
      else none
  | .writeDatagram =>
      match c.writing with
      | none => none
      | some payload =>
          match Rusnel.writeDatagram c.wire payload with
          | (wire, .ok ()) =>
              some { c with writing := none, written := c.written ++ [payload], wire := wire }
          | (_, .error _) => some { c with tx := .done, writing := none }
  | .txEnds cut =>
      if c.tx = .running then
        some { c with
          tx := .done
          writing := none
          wire := c.wire ++
            match c.writing with
            | some payload => (datagramBytes payload).dropLast.take cut
            | none => [] }
      else none
  | .arriveBack n => some { c with back := c.back.arrive c.wire n }

variable {κ : Type}

/-! ## Both directions keep their order -/

/-- What the target has answered. -/
def Circuit.answers (c : Circuit) : List Datagram :=
  (c.received.filter (·.src = c.address)).map (·.data.take maxDatagram)

/-- The other end of a conn: it was opened for the conn's key, it has sent on what
was written, in order, and what the conn has read is what it has written of the
target's answers, in order. -/
structure Circuit.Sound (L : Listener κ) (tunnelId : UInt64)
    (dial : OpenConn → Option SocketAddr) (conn : Conn κ) (link : Link) (c : Circuit) : Prop where
  opener : link.opener = some ⟨tunnelId, L.dynamic conn.key⟩
  dialed : dial ⟨tunnelId, L.dynamic conn.key⟩ = some c.address
  forth : c.forth.Follows datagramBytes (link.written.map Prod.snd) link.wire
  emitted : c.emitted <+: c.forth.items
  caughtUp : c.rx = .running → c.emitted = c.forth.items
  answered : c.written ++ c.writing.toList <+: c.answers
  pumping : c.tx = .running → c.written ++ c.writing.toList = c.answers
  busy : c.tx = .done → c.writing = none
  wire : ∃ rest, c.wire = c.written.flatMap datagramBytes ++ rest ∧
    (c.tx = .running → rest = []) ∧ CutFrame rest
  /-- The stream back starts with the answers. -/
  sent : c.wire <+: c.answers.flatMap datagramBytes
  back : c.back.Follows datagramBytes c.written c.wire
  replies : c.back.items = link.replies

/-- No datagram is read off a proper part of one. -/
theorem CutFrame.fails {rest : List UInt8} (h : CutFrame rest) :
    ∀ part, part <+: rest → ∃ e, readDatagram maxDatagram part = .error e := by
  intro part hpart
  obtain ⟨payload, hlen, hframe, hne⟩ := h
  refine (readDatagram_delimits hlen).cut part (hpart.trans hframe) ?_
  rintro rfl
  exact hne (hframe.eq_of_length_le hpart.length_le)

/-- What a conn task has written, as a stream of datagrams. -/
theorem link_framed {L : Listener κ} {tunnelId : UInt64} {arrivals : List Arrival} {bound : Nat}
    {conn : Conn κ} {link : Link} (h : link.Sound L tunnelId arrivals bound conn) :
    Framed (readDatagram maxDatagram) datagramBytes (link.written.map Prod.snd) link.wire := by
  obtain ⟨rest, hwire, -, hcut⟩ := h.wire
  exact ⟨fun payload hpayload => readDatagram_delimits (h.short payload hpayload), rest, hwire,
    CutFrame.fails hcut⟩

namespace Circuit

theorem answers_short {c : Circuit} : ∀ payload ∈ c.answers, payload.length ≤ maxDatagram := by
  intro payload hpayload
  obtain ⟨a, -, rfl⟩ := List.mem_map.mp hpayload
  exact List.length_take_le _ _

namespace Sound

variable {L : Listener κ} {tunnelId : UInt64} {dial : OpenConn → Option SocketAddr}
  {conn : Conn κ} {link : Link} {c : Circuit}

theorem short (h : c.Sound L tunnelId dial conn link) :
    ∀ payload ∈ c.written ++ c.writing.toList, payload.length ≤ maxDatagram :=
  fun payload hpayload => answers_short payload (h.answered.subset hpayload)

/-- What the pump has written, as a stream of datagrams. -/
theorem framed (h : c.Sound L tunnelId dial conn link) :
    Framed (readDatagram maxDatagram) datagramBytes c.written c.wire := by
  obtain ⟨rest, hwire, -, hcut⟩ := h.wire
  exact ⟨fun payload hpayload => readDatagram_delimits
    (h.short payload (List.mem_append_left _ hpayload)), rest, hwire, CutFrame.fails hcut⟩

theorem new {address : SocketAddr} (hopener : link.opener = some ⟨tunnelId, L.dynamic conn.key⟩)
    (hdialed : dial ⟨tunnelId, L.dynamic conn.key⟩ = some address) (hreplies : link.replies = []) :
    (Circuit.new address).Sound L tunnelId dial conn link where
  opener := hopener
  dialed := hdialed
  forth := .empty _ _ _
  emitted := List.prefix_rfl
  caughtUp _ := rfl
  answered := List.prefix_rfl
  pumping _ := rfl
  busy _ := rfl
  wire := ⟨[], rfl, fun _ => rfl, .nil⟩
  sent := List.prefix_rfl
  back := .empty _ _ _
  replies := hreplies.symm

/-- The datagram being written is the target's last answer and comes next on the stream. -/
theorem next (h : c.Sound L tunnelId dial conn link) (htx : c.tx = .running)
    {payload : Datagram} (hwriting : c.writing = some payload) :
    c.wire ++ datagramBytes payload = c.answers.flatMap datagramBytes := by
  obtain ⟨rest, hwire, hnil, -⟩ := h.wire
  rw [hwire, hnil htx, ← h.pumping htx, hwriting]
  simp

/-- The conn task goes on without reading a reply. -/
theorem mono (h : c.Sound L tunnelId dial conn link) {conn' : Conn κ} {link' : Link}
    (hkey : conn'.key = conn.key) (hwritten : link.written <+: link'.written)
    (hwire : link.wire <+: link'.wire)
    (hopener : link'.opener = some ⟨tunnelId, L.dynamic conn.key⟩)
    (hreplies : link'.replies = link.replies) : c.Sound L tunnelId dial conn' link' where
  __ := h
  opener := by rw [hkey, hopener]
  dialed := by rw [hkey, h.dialed]
  forth := h.forth.mono (hwritten.map _) hwire
  replies := by rw [hreplies, h.replies]

/-- The pump takes up a datagram; one from elsewhere is dropped. -/
theorem recvFrom (h : c.Sound L tunnelId dial conn link) (htx : c.tx = .running)
    (hwriting : c.writing = none) (a : Arrival) :
    Sound L tunnelId dial conn link { c with
      buffer := (recvInto c.buffer a.data).2
      received := c.received ++ [a]
      writing :=
        if a.src ≠ c.address then none
        else some ((recvInto c.buffer a.data).2.take (recvInto c.buffer a.data).1) } := by
  have hall := h.pumping htx
  rw [hwriting, Option.toList_none, List.append_nil] at hall
  have hanswers : c.written ++
      (if a.src ≠ c.address then none
        else some ((recvInto c.buffer a.data).2.take (recvInto c.buffer a.data).1)).toList =
      ((c.received ++ [a]).filter (·.src = c.address)).map (·.data.take maxDatagram) := by
    rw [hall, recvInto_take, List.filter_append, List.map_append, answers]
    by_cases hsrc : a.src = c.address
    · simp [hsrc]
    · simp [hsrc]
  exact { h with
    answered := by
      rw [hanswers]
      exact List.prefix_rfl
    pumping := fun _ => hanswers
    busy := fun hdone => by
      rw [htx] at hdone
      cases hdone
    sent := h.sent.trans ((((List.prefix_append _ _).filter _).map _).flatMap _) }

/-- The pump has written its datagram. -/
theorem write (h : c.Sound L tunnelId dial conn link) {payload : Datagram}
    (hwriting : c.writing = some payload) :
    Sound L tunnelId dial conn link { c with
      writing := none
      written := c.written ++ [payload]
      wire := c.wire ++ datagramBytes payload } := by
  have htx : c.tx = .running := by
    cases htx : c.tx with
    | running => rfl
    | done =>
        rw [h.busy htx] at hwriting
        cases hwriting
  obtain ⟨rest, hwire, hnil, -⟩ := h.wire
  rw [hnil htx, List.append_nil] at hwire
  have hanswers := h.pumping htx
  rw [hwriting, Option.toList_some] at hanswers
  exact { h with
    answered := by
      rw [Option.toList_none, List.append_nil, hanswers]
      exact List.prefix_rfl
    pumping := fun _ => by
      rw [Option.toList_none, List.append_nil, hanswers]
      rfl
    busy := fun _ => rfl
    wire := ⟨[], by simp [hwire], fun _ => rfl, .nil⟩
    sent := h.next htx hwriting ▸ List.prefix_rfl
    back := h.back.mono (List.prefix_append _ _) (List.prefix_append _ _) }

/-- The pump ends. -/
theorem cut (h : c.Sound L tunnelId dial conn link) (htx : c.tx = .running) (n : Nat) :
    Sound L tunnelId dial conn link { c with
      tx := .done
      writing := none
      wire := c.wire ++
        match c.writing with
        | some payload => (datagramBytes payload).dropLast.take n
        | none => [] } := by
  obtain ⟨rest, hwire, hnil, -⟩ := h.wire
  rw [hnil htx, List.append_nil] at hwire
  have hcut : CutFrame (match c.writing with
      | some payload => (datagramBytes payload).dropLast.take n
      | none => []) := by
    cases hwriting : c.writing with
    | none => exact .nil
    | some payload => exact .dropLast_take (h.short payload (by simp [hwriting])) n
  have hsent : c.wire ++ (match c.writing with
      | some payload => (datagramBytes payload).dropLast.take n
      | none => []) <+: c.answers.flatMap datagramBytes := by
    cases hwriting : c.writing with
    | none => simpa using h.sent
    | some payload =>
        rw [← h.next htx hwriting]
        exact (List.prefix_append_right_inj c.wire).mpr
          ((List.take_prefix _ _).trans (List.dropLast_prefix _))
  exact { h with
    sent := hsent
    answered := by
      rw [Option.toList_none, List.append_nil]
      exact (List.prefix_append _ _).trans h.answered
    pumping := fun hrunning => by cases hrunning
    busy := fun _ => rfl
    wire := ⟨_, congrArg (· ++ _) hwire, (fun hrunning => by cases hrunning), hcut⟩
    back := h.back.mono List.prefix_rfl (List.prefix_append _ _) }

/-- Every step of the accepting side. -/
theorem step (h : c.Sound L tunnelId dial conn link)
    (hframed : Framed (readDatagram maxDatagram) datagramBytes (link.written.map Prod.snd)
      link.wire) {a : CircuitAction} {c' : Circuit} (hstep : c.step link.wire a = some c') :
    c'.Sound L tunnelId dial conn link := by
  cases a with
  | arriveForth n =>
      cases hstep
      exact { h with forth := h.forth.arrive n }
  | readStream sent =>
      obtain ⟨hrx, hnext⟩ := Option.ite_none_right_eq_some.mp hstep
      split at hnext
      · cases hnext
      · rename_i payload forth htake
        have hforth := h.forth.take hframed htake
        obtain ⟨left, -, rfl⟩ := Inbox.take_eq_some htake
        split_ifs at hnext
        · cases hnext
          exact { h with
            forth := hforth
            emitted := by rw [h.caughtUp hrx]
            caughtUp := fun _ => by rw [h.caughtUp hrx] }
        · cases hnext
          exact { h with
            forth := hforth
            emitted := h.emitted.trans (List.prefix_append _ _)
            caughtUp := fun hrunning => by cases hrunning }
  | rxEnds =>
      cases hstep
      exact { h with caughtUp := fun hrunning => by cases hrunning }
  | recvFrom a =>
      obtain ⟨hready, hnext⟩ := Option.ite_none_right_eq_some.mp hstep
      cases hnext
      exact h.recvFrom hready.1 hready.2 a
  | writeDatagram =>
      simp only [Circuit.step] at hstep
      split at hstep
      · cases hstep
      · rename_i payload hwriting
        rw [writeDatagram_ok (h.short payload (by simp [hwriting]))] at hstep
        cases hstep
        exact h.write hwriting
  | txEnds n =>
      obtain ⟨htx, hnext⟩ := Option.ite_none_right_eq_some.mp hstep
      cases hnext
      exact h.cut htx n
  | arriveBack n =>
      cases hstep
      exact { h with back := h.back.arrive n }

end Sound

end Circuit

end UdpTunnel
end Rusnel
