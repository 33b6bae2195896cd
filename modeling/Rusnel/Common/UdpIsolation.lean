import Rusnel.Common.UdpRelay

/-!
# Isolation of UDP sources

Sources share a socket, a receive buffer and a table of conns.  What keeps their
traffic apart is followed through a whole run: the loop's datagram belongs to the
last arrival, the table leads to conns of the right key, and what is in a
channel, being written or written on a stream are arrivals for its key, in order.

Main results:

- Theorem {lit}`udp_isolation`: for both listeners and every interleaving, each
  arrival is written at most once, unchanged, in order and only on a stream
  opened for its key, and each reply is sent at most once, to the source of its
  stream.
-/

namespace Rusnel
namespace UdpRelay

open Net UdpTable

variable {κ : Type} [DecidableEq κ]

/-! ## One stream -/

namespace Link

/-- The serial numbers on a stream, in the hands of its task and in its channel. -/
def serialsAll (link : Link) : List Nat :=
  link.written.map Prod.fst ++ link.writing.toList.map Prod.fst ++ link.serials

/-- The datagrams with these numbers. -/
def items (link : Link) (queue : List Datagram) : List (Nat × Datagram) :=
  link.written ++ link.writing.toList ++ link.serials.zip queue

end Link

/-- A proper part of the bytes of a datagram. -/
def CutFrame (bytes : List UInt8) : Prop :=
  ∃ payload : Datagram, payload.length ≤ maxDatagram ∧ bytes <+: datagramBytes payload ∧
    bytes ≠ datagramBytes payload

theorem CutFrame.nil : CutFrame [] :=
  ⟨[], Nat.zero_le _, List.nil_prefix, (datagramBytes_ne_nil []).symm⟩

variable {payload : Datagram}

theorem CutFrame.dropLast_take (hlen : payload.length ≤ maxDatagram) (n : Nat) :
    CutFrame ((datagramBytes payload).dropLast.take n) := by
  refine ⟨payload, hlen, (List.take_prefix _ _).trans (List.dropLast_prefix _), ?_⟩
  intro heq
  have hle := congrArg List.length heq
  have hpos := List.length_pos_iff.mpr (datagramBytes_ne_nil payload)
  rw [List.length_take, List.length_dropLast] at hle
  omega

/-- What holds of the stream of a conn when `bound` arrivals are dealt with: its
numbers increase and belong to arrivals for the conn's key, it was opened for
that key, and its bytes are those of the datagrams written. -/
structure Link.Sound (L : Listener κ) (tunnelId : UInt64) (arrivals : List Arrival)
    (bound : Nat) (conn : Conn κ) (link : Link) : Prop where
  inStep : link.serials.length = conn.queue.length
  ordered : link.serialsAll.Pairwise (· < ·)
  accepted : ∀ item ∈ link.items conn.queue, item.1 < bound ∧
    ∃ a, arrivals[item.1]? = some a ∧ L.accepts a = some (conn.key, item.2)
  announced : link.phase ≠ .opening → link.opener = some ⟨tunnelId, L.dynamic conn.key⟩
  silent : link.phase ≠ .relaying → link.writing = none ∧ link.written = [] ∧ link.wire = []
  wire : ∃ rest, link.wire = (link.written.map Prod.snd).flatMap datagramBytes ++ rest ∧
    (conn.stage = .running → rest = []) ∧ CutFrame rest
  reply : ∀ number payload, link.replying = some (number, payload) →
    number + 1 = link.replies.length ∧ link.replies[number]? = some payload
  /-- What was put into the channel fits a datagram, and the stream starts with it. -/
  fits : ∀ item ∈ link.taken, item.2.length ≤ maxDatagram
  sent : link.wire <+: (link.taken.map Prod.snd).flatMap datagramBytes
  /-- A running conn has lost nothing of what was put into its channel. -/
  taken : conn.stage = .running → link.taken = link.items conn.queue

variable {items : List (Nat × Datagram)}

section Link

variable {L : Listener κ} {tunnelId : UInt64} {arrivals : List Arrival} {bound : Nat}
  {conn : Conn κ} {link : Link}

omit [DecidableEq κ] in
theorem Link.Sound.new (key : κ) :
    Link.Sound L tunnelId arrivals bound ⟨key, .running, []⟩ .new where
  inStep := rfl
  ordered := List.Pairwise.nil
  accepted := by simp [Link.items, Link.new]
  announced := by simp [Link.new]
  silent := by simp [Link.new]
  wire := ⟨[], rfl, fun _ => rfl, .nil⟩
  reply := by simp [Link.new]
  fits := by simp [Link.new]
  sent := List.prefix_rfl
  taken _ := rfl

omit [DecidableEq κ] in
/-- What was written fits a datagram. -/
theorem Link.Sound.short (h : link.Sound L tunnelId arrivals bound conn) :
    ∀ payload ∈ link.written.map Prod.snd, payload.length ≤ maxDatagram := by
  intro payload hpayload
  obtain ⟨item, hitem, rfl⟩ := List.mem_map.mp hpayload
  obtain ⟨-, a, -, haccepts⟩ := h.accepted item (by simp [Link.items, hitem])
  exact L.accepts_short a _ _ haccepts

omit [DecidableEq κ] in
/-- What is being written comes next on the stream. -/
theorem Link.Sound.next (h : link.Sound L tunnelId arrivals bound conn)
    (hstage : conn.stage = .running) {item : Nat × Datagram} (hwriting : link.writing = some item) :
    link.wire ++ datagramBytes item.2 <+: (link.taken.map Prod.snd).flatMap datagramBytes := by
  obtain ⟨rest, hwire, hrest, -⟩ := h.wire
  rw [hwire, hrest hstage, h.taken hstage, Link.items, hwriting]
  simp

omit [DecidableEq κ] in
/-- More arrivals and more of them dealt with leave a stream sound. -/
theorem Link.Sound.mono (h : link.Sound L tunnelId arrivals bound conn)
    {arrivals' : List Arrival} (harrivals : arrivals <+: arrivals') {bound' : Nat}
    (hbound : bound ≤ bound') : link.Sound L tunnelId arrivals' bound' conn where
  __ := h
  accepted := by
    intro item hitem
    obtain ⟨hlt, a, ha, haccepts⟩ := h.accepted item hitem
    exact ⟨by omega, a, Indexed.getElem?_of_prefix harrivals ha, haccepts⟩

omit [DecidableEq κ] in
/-- The numbers of a stream are those of arrivals dealt with. -/
theorem Link.Sound.lt_of_mem (h : link.Sound L tunnelId arrivals bound conn) {serial : Nat}
    (hserial : serial ∈ link.serialsAll) : serial < bound := by
  have hall : link.serialsAll = (link.items conn.queue).map Prod.fst := by
    rw [Link.serialsAll, Link.items, List.map_append, List.map_append,
      List.map_fst_zip h.inStep.le]
  rw [hall, List.mem_map] at hserial
  obtain ⟨item, hitem, rfl⟩ := hserial
  exact (h.accepted item hitem).1

variable {conn' : Conn κ} {link' : Link}

omit [DecidableEq κ] in
/-- A step of a conn task takes no number onto the stream that was not there or
in the channel. -/
theorem LinkStep.serialsAll_sublist (h : LinkStep L tunnelId conn link conn' link' items) :
    link'.serialsAll.Sublist link.serialsAll := by
  cases h with
  | recv _ _ hwriting hserials _ => simp [Link.serialsAll, hwriting, hserials]
  | writeDatagram _ hwriting => simp [Link.serialsAll, hwriting]
  | runEnds n _ => simp [Link.serialsAll, Link.cut]
  | _ => exact List.Sublist.refl _

omit [DecidableEq κ] in
/-- When the run ends nothing but a part of one more datagram was written. -/
theorem Link.Sound.cut (h : link.Sound L tunnelId arrivals bound conn)
    (hstage : conn.stage = .running) (n : Nat) :
    Link.Sound L tunnelId arrivals bound ⟨conn.key, .ended, []⟩ (link.cut n) where
  inStep := rfl
  ordered := h.ordered.sublist (by simp [Link.serialsAll, Link.cut])
  accepted := by
    intro item hitem
    refine h.accepted item ?_
    have hwritten : item ∈ link.written := by simpa [Link.items, Link.cut] using hitem
    simp [Link.items, hwritten]
  announced := h.announced
  silent hphase := by
    obtain ⟨hwriting, hwritten, hwire⟩ := h.silent hphase
    exact ⟨rfl, hwritten, by simp [Link.cut, hwriting, hwire]⟩
  wire := by
    obtain ⟨rest, hwire, hrest, -⟩ := h.wire
    obtain rfl := hrest hstage
    rw [List.append_nil] at hwire
    refine ⟨_, congrArg (· ++ _) hwire, by simp, ?_⟩
    cases hwriting : link.writing with
    | none => exact .nil
    | some item =>
        have hitem : item ∈ link.items conn.queue := by simp [Link.items, hwriting]
        obtain ⟨-, a, -, haccepts⟩ := h.accepted item hitem
        exact .dropLast_take (L.accepts_short a _ _ haccepts) n
  reply := by simp [Link.cut]
  fits := h.fits
  sent := by
    cases hwriting : link.writing with
    | none => simpa [Link.cut, hwriting] using h.sent
    | some item =>
        have hpart : (datagramBytes item.2).dropLast.take n <+: datagramBytes item.2 :=
          (List.take_prefix _ _).trans (List.dropLast_prefix _)
        have hall := ((List.prefix_append_right_inj link.wire).mpr hpart).trans
          (h.next hstage hwriting)
        simpa only [Link.cut, hwriting] using hall
  taken := by simp

omit [DecidableEq κ] in
theorem LinkStep.sound (h : LinkStep L tunnelId conn link conn' link' items)
    (hs : link.Sound L tunnelId arrivals bound conn) :
    link'.Sound L tunnelId arrivals bound conn' := by
  have hordered := hs.ordered.sublist h.serialsAll_sublist
  cases h with
  | openStream hstage hphase =>
      exact { hs with
        announced := fun _ => rfl
        silent := fun _ => hs.silent (by simp [hphase]) }
  | opened hstage hphase =>
      exact { hs with
        announced := fun _ => hs.announced (by simp [hphase])
        silent := fun hne => absurd rfl hne }
  | recv hstage hphase hwriting hserials hqueue =>
      refine { hs with
        inStep := ?_
        ordered := hordered
        accepted := fun item hitem => hs.accepted item ?_
        silent := fun hne => absurd hphase hne
        taken := fun _ => ?_ }
      · simpa [hserials, hqueue] using hs.inStep
      · simpa [Link.items, hwriting, hserials, hqueue] using hitem
      · simpa [Link.items, hwriting, hserials, hqueue] using hs.taken hstage
  | @writeDatagram item hstage hwriting =>
      refine { hs with
        ordered := hordered
        accepted := fun item' hitem => hs.accepted item' ?_
        silent := fun hne => ?_
        wire := ?_
        sent := hs.next hstage hwriting
        taken := fun _ => ?_ }
      · simpa [Link.items, hwriting] using hitem
      · rw [(hs.silent hne).1] at hwriting
        cases hwriting
      · obtain ⟨rest, hwire, hrest, -⟩ := hs.wire
        obtain rfl := hrest hstage
        refine ⟨[], ?_, fun _ => rfl, .nil⟩
        simp [hwire]
      · simpa [Link.items, hwriting] using hs.taken hstage
  | readDatagram hstage hphase hreplying =>
      refine { hs with reply := ?_ }
      rintro number payload ⟨⟩
      simp
  | sendTo hstage hreplying => exact { hs with reply := by simp }
  | runEnds n hstage => exact hs.cut hstage n
  | finalRemove hstage =>
      obtain ⟨rest, hwire, -, hcut⟩ := hs.wire
      exact { hs with
        wire := ⟨rest, hwire, by simp, hcut⟩
        taken := by simp }

omit [DecidableEq κ] in
theorem LinkStep.key (h : LinkStep L tunnelId conn link conn' link' items) :
    conn'.key = conn.key := by
  cases h <;> rfl

omit [DecidableEq κ] in
theorem LinkStep.replies (h : LinkStep L tunnelId conn link conn' link' items) :
    link.replies <+: link'.replies := by
  cases h with
  | readDatagram => exact List.prefix_append _ _
  | _ => exact List.prefix_refl _

omit [DecidableEq κ] in
/-- At most one reply is sent, the one that was to be sent; a reply to be sent
afterwards was to be sent before or has just been read. -/
theorem LinkStep.replying (h : LinkStep L tunnelId conn link conn' link' items) :
    (items = [] ∧ ∀ item, link'.replying = some item →
      link.replying = some item ∨ item.1 = link.replies.length) ∨
    ∃ item, items = [item] ∧ link.replying = some item ∧ link'.replying = none := by
  cases h with
  | readDatagram =>
      refine .inl ⟨rfl, ?_⟩
      rintro item ⟨⟩
      exact .inr rfl
  | sendTo _ hreplying => exact .inr ⟨_, rfl, hreplying, rfl⟩
  | runEnds n _ => exact .inl ⟨rfl, by simp [Link.cut]⟩
  | _ => exact .inl ⟨rfl, fun _ hreplying => .inl hreplying⟩

theorem Link.serialsAll_take (link : Link) (serial : Nat) (payload : Datagram) :
    (link.take serial payload).serialsAll = link.serialsAll ++ [serial] := by
  simp [Link.serialsAll, Link.take]

omit [DecidableEq κ] in
theorem Link.Sound.items_take (h : link.Sound L tunnelId arrivals bound conn) (serial : Nat)
    (payload : Datagram) : (link.take serial payload).items (conn.queue ++ [payload]) =
      link.items conn.queue ++ [(serial, payload)] := by
  simp [Link.items, Link.take, List.zip_append h.inStep]

omit [DecidableEq κ] in
/-- A datagram that goes into the channel of its key. -/
theorem Link.Sound.push {a : Arrival} (h : link.Sound L tunnelId arrivals bound conn)
    (ha : arrivals[bound]? = some a) (haccepts : L.accepts a = some (conn.key, payload)) :
    Link.Sound L tunnelId arrivals (bound + 1) { conn with queue := conn.queue ++ [payload] }
      (link.take bound payload) where
  __ := h
  inStep := by simp [Link.take, h.inStep]
  ordered := by
    have hlast : ∀ serial ∈ link.serialsAll, serial < bound := fun serial => h.lt_of_mem
    rw [Link.serialsAll_take, List.pairwise_append]
    exact ⟨h.ordered, List.pairwise_singleton _ _, by simpa using hlast⟩
  fits item hitem := by
    rcases List.mem_append.mp hitem with hold | hnew
    · exact h.fits item hold
    · rw [List.mem_singleton.mp hnew]
      exact L.accepts_short a _ _ haccepts
  sent := h.sent.trans (((List.prefix_append _ _).map _).flatMap _)
  taken hstage := by
    rw [h.items_take, ← h.taken hstage]
    rfl
  accepted := by
    intro item hitem
    rw [h.items_take, List.mem_append, List.mem_singleton] at hitem
    rcases hitem with hold | rfl
    · obtain ⟨hlt, a, ha, haccepts⟩ := h.accepted item hold
      exact ⟨by omega, a, ha, haccepts⟩
    · exact ⟨by omega, a, ha, haccepts⟩

end Link

/-! ## All streams -/

variable {s : Traffic κ}

namespace Traffic

/-- The loop is at the last arrival, which is one for this key and payload. -/
def Current (L : Listener κ) (s : Traffic κ) (key : κ) (payload : Datagram) : Prop :=
  ∃ a, s.arrivals[s.arrivals.length - 1]? = some a ∧ L.accepts a = some (key, payload)

/-- Task `n` serves the key. -/
def Serves (s : Traffic κ) (n : Nat) (key : κ) : Prop :=
  ∃ conn, s.relay.tasks[n]? = some conn ∧ conn.key = key

/-- What the loop has in hand belongs to the last arrival. -/
def Held (L : Listener κ) (s : Traffic κ) : Prop :=
  match s.relay.loop with
  | .receiving => True
  | .received key payload | .opening key payload => s.Current L key payload
  | .found key payload n | .closed key payload n => s.Current L key payload ∧ s.Serves n key
  | .sending n payload => ∃ key, s.Current L key payload ∧ s.Serves n key

/-- How many arrivals the loop is done with. -/
def settled (s : Traffic κ) : Nat :=
  match s.relay.loop with
  | .receiving => s.arrivals.length
  | _ => s.arrivals.length - 1

/-- What holds at every moment. -/
structure Lawful (L : Listener κ) (tunnelId : UInt64) (s : Traffic κ) : Prop where
  links_length : s.links.length = s.relay.tasks.length
  keyed : ∀ key n, s.relay.conns.lookup key = some n → s.Serves n key
  held : s.Held L
  sound : ∀ (n : Nat) (conn : Conn κ) (link : Link), s.relay.tasks[n]? = some conn →
    s.links[n]? = some link → link.Sound L tunnelId s.arrivals s.settled conn
  once : (s.links.flatMap Link.serialsAll).Nodup
  sent : ∀ o ∈ s.sent, ∃ conn link payload, s.relay.tasks[o.conn]? = some conn ∧
    s.links[o.conn]? = some link ∧ link.replies[o.reply]? = some payload ∧
    o.dest = L.source conn.key ∧ o.bytes = L.wrap conn.key payload
  sentOnce : (s.sent.map fun o => (o.conn, o.reply)).Nodup
  unsent : ∀ (n : Nat) (link : Link) (item : Nat × Datagram), s.links[n]? = some link →
    link.replying = some item → (n, item.1) ∉ s.sent.map fun o => (o.conn, o.reply)

variable {L : Listener κ} {tunnelId : UInt64}

theorem Lawful.init : (Traffic.init κ).Lawful L tunnelId where
  links_length := rfl
  keyed := by simp [Traffic.init, Relay.init]
  held := trivial
  sound := by simp [Traffic.init]
  once := by simp [Traffic.init]
  sent := by simp [Traffic.init]
  sentOnce := by simp [Traffic.init]
  unsent := by simp [Traffic.init]

omit [DecidableEq κ] in
theorem Serves.of_set {n k : Nat} {conn conn' : Conn κ} {key : κ} (h : s.Serves k key)
    (hconn : s.relay.tasks[n]? = some conn) (hkey : conn'.key = conn.key) :
    ∃ new, (s.relay.tasks.set n conn')[k]? = some new ∧ new.key = key := by
  obtain ⟨old, hold, rfl⟩ := h
  by_cases hk : k = n
  · subst hk
    cases hconn.symm.trans hold
    exact ⟨conn', Indexed.getElem?_set_same hconn, hkey⟩
  · exact ⟨old, (List.getElem?_set_ne fun h => hk h.symm).trans hold, rfl⟩

omit [DecidableEq κ] in
/-- What the loop holds stays right while arrivals and the keys of the tasks do. -/
theorem Held.mono {s t : Traffic κ} (h : s.Held L) (hloop : t.relay.loop = s.relay.loop)
    (harrivals : t.arrivals = s.arrivals)
    (hserves : ∀ n key, s.Serves n key → t.Serves n key) : t.Held L := by
  unfold Held at h ⊢
  rw [hloop]
  cases hcase : s.relay.loop with
  | receiving => trivial
  | received key payload | opening key payload =>
      rw [hcase] at h
      simpa only [Current, harrivals] using h
  | found key payload n | closed key payload n =>
      rw [hcase] at h
      exact ⟨by simpa only [Current, harrivals] using h.1, hserves n key h.2⟩
  | sending n payload =>
      rw [hcase] at h
      obtain ⟨key, hcurrent, hn⟩ := h
      exact ⟨key, by simpa only [Current, harrivals] using hcurrent, hserves n key hn⟩

/-- A step of the loop that leaves tasks and streams alone. -/
theorem Lawful.of_loop (h : s.Lawful L tunnelId) {relay : Relay κ} {buffer : List UInt8}
    {arrivals : List Arrival} (harrivals : s.arrivals <+: arrivals)
    (htasks : relay.tasks = s.relay.tasks)
    (hconns : ∀ key n, relay.conns.lookup key = some n → s.relay.conns.lookup key = some n)
    (hheld : Held L { s with relay := relay, buffer := buffer, arrivals := arrivals })
    (hsettled : s.settled ≤
      settled { s with relay := relay, buffer := buffer, arrivals := arrivals }) :
    Lawful L tunnelId { s with relay := relay, buffer := buffer, arrivals := arrivals } where
  links_length := by rw [htasks]; exact h.links_length
  keyed key n hlookup := by
    obtain ⟨conn, hconn, hkey⟩ := h.keyed key n (hconns key n hlookup)
    exact ⟨conn, by rw [htasks]; exact hconn, hkey⟩
  held := hheld
  sound n conn link hconn hlink := by
    rw [htasks] at hconn
    exact (h.sound n conn link hconn hlink).mono harrivals hsettled
  once := h.once
  sent o ho := by
    obtain ⟨conn, link, payload, hconn, hrest⟩ := h.sent o ho
    exact ⟨conn, link, payload, by rw [htasks]; exact hconn, hrest⟩
  sentOnce := h.sentOnce
  unsent := h.unsent

/-- The loop looks its key up and clears a closed entry. -/
theorem Lawful.of_looked (h : s.Lawful L tunnelId) {capacity : Nat} {a : Action κ} {relay : Relay κ}
    (ha : a = .get ∨ a = .isClosed ∨ a = .remove) (hstep : RelayStep capacity s.relay a relay) :
    Lawful L tunnelId { s with relay := relay } := by
  have hheld := h.held
  have hsame := List.prefix_refl s.arrivals
  cases hstep with
  | getSome key payload n hloop hlookup =>
      simp only [Held, hloop] at hheld
      exact h.of_loop hsame rfl (fun _ _ hold => hold) ⟨hheld, h.keyed key n hlookup⟩
        (by simp [settled, hloop])
  | getNone key payload hloop hlookup =>
      simp only [Held, hloop] at hheld
      exact h.of_loop hsame rfl (fun _ _ hold => hold) hheld (by simp [settled, hloop])
  | isOpen key payload n conn hloop hconn hstage =>
      simp only [Held, hloop] at hheld
      exact h.of_loop hsame rfl (fun _ _ hold => hold) ⟨key, hheld⟩ (by simp [settled, hloop])
  | isClosed key payload n conn hloop hconn hstage =>
      simp only [Held, hloop] at hheld
      exact h.of_loop hsame rfl (fun _ _ hold => hold) hheld (by simp [settled, hloop])
  | remove key payload n hloop =>
      simp only [Held, hloop] at hheld
      exact h.of_loop hsame rfl (fun _ _ hold => (Table.lookup_of_erase hold).2) hheld.1
        (by simp [settled, hloop])
  | _ => simp at ha

/-- The loop opens a conn for its key. -/
theorem Lawful.of_spawned (h : s.Lawful L tunnelId) {key : κ}
    (hloop : s.relay.loop = .opening key payload) :
    Lawful L tunnelId { s with
      relay :=
        { s.relay with
          conns := s.relay.conns.insert key s.relay.tasks.length
          tasks := s.relay.tasks ++ [⟨key, .running, []⟩]
          loop := .sending s.relay.tasks.length payload }
      links := s.links ++ [.new] } := by
  have hheld := h.held
  simp only [Held, hloop] at hheld
  have hkept : ∀ {n : Nat} {conn : Conn κ}, s.relay.tasks[n]? = some conn →
      (s.relay.tasks ++ [⟨key, .running, []⟩])[n]? = some conn :=
    Indexed.getElem?_of_prefix (List.prefix_append _ _)
  have hnew : (s.relay.tasks ++ [(⟨key, .running, []⟩ : Conn κ)])[s.relay.tasks.length]? =
      some ⟨key, .running, []⟩ := List.getElem?_concat_length
  constructor
  · simp [h.links_length]
  · intro key' n hlookup
    by_cases hkey : key' = key
    · subst hkey
      rw [AList.lookup_insert] at hlookup
      cases hlookup
      exact ⟨_, hnew, rfl⟩
    · rw [AList.lookup_insert_ne hkey] at hlookup
      obtain ⟨conn, hconn, hconnKey⟩ := h.keyed key' n hlookup
      exact ⟨conn, hkept hconn, hconnKey⟩
  · exact ⟨key, hheld, _, hnew, rfl⟩
  · intro n conn link hconn hlink
    have hsame : s.settled = s.arrivals.length - 1 := by simp [settled, hloop]
    rcases Indexed.getElem?_concat_cases hconn with ⟨rfl, rfl⟩ | hconn
    · rw [← h.links_length] at hlink
      cases List.getElem?_concat_length.symm.trans hlink
      exact .new key
    · rcases Indexed.getElem?_concat_cases hlink with ⟨rfl, -⟩ | hlink
      · have hlt := (List.getElem?_eq_some_iff.mp hconn).1
        have hlen := h.links_length
        omega
      · have hsound := h.sound n conn link hconn hlink
        rwa [hsame] at hsound
  · simpa [Link.serialsAll, Link.new] using h.once
  · intro o ho
    obtain ⟨conn, link, p, hconn, hlink, hrest⟩ := h.sent o ho
    exact ⟨conn, link, p, hkept hconn,
      Indexed.getElem?_of_prefix (List.prefix_append _ _) hlink, hrest⟩
  · exact h.sentOnce
  · intro n link item hlink hreplying
    rcases Indexed.getElem?_concat_cases hlink with ⟨-, rfl⟩ | hlink
    · cases hreplying
    · exact h.unsent n link item hlink hreplying

/-- One conn task and its stream are updated, and replies of it may be sent. -/
theorem Lawful.of_set (h : s.Lawful L tunnelId) {n : Nat} {conn conn' : Conn κ} {link link' : Link}
    {conns : AList fun _ : κ => Nat} {loop : Loop κ} {sent : List Outgoing}
    (hconn : s.relay.tasks[n]? = some conn) (hlink : s.links[n]? = some link)
    (hkey : conn'.key = conn.key) (hreplies : link.replies <+: link'.replies)
    (hconns : ∀ key n, conns.lookup key = some n → s.relay.conns.lookup key = some n)
    (hsent : sent = s.sent ++ L.outgoing n conn.key items)
    (hread : ∀ item ∈ items, link.replies[item.1]? = some item.2)
    (hfresh : (sent.map fun o => (o.conn, o.reply)).Nodup)
    (hunsent : ∀ item, link'.replying = some item →
      (n, item.1) ∉ sent.map fun o => (o.conn, o.reply))
    (honce : ((s.links.set n link').flatMap Link.serialsAll).Nodup) (hheld : Held L { s with
      relay := { s.relay with conns := conns, tasks := s.relay.tasks.set n conn', loop := loop } })
    (hsettled : s.settled ≤ settled { s with relay := { s.relay with loop := loop } })
    (hsound : link'.Sound L tunnelId s.arrivals
      (settled { s with relay := { s.relay with loop := loop } }) conn') :
    Lawful L tunnelId { s with
      relay := { s.relay with conns := conns, tasks := s.relay.tasks.set n conn', loop := loop }
      links := s.links.set n link'
      sent := sent } := by
  constructor
  · simp [h.links_length]
  · intro key k hlookup
    exact (h.keyed key k (hconns key k hlookup)).of_set hconn hkey
  · exact hheld
  · intro k conn'' link'' hconn'' hlink''
    rcases Indexed.getElem?_set_cases hconn'' with ⟨rfl, rfl⟩ | ⟨hne, hold⟩
    · cases (Indexed.getElem?_set_same hlink).symm.trans hlink''
      exact hsound
    · rw [List.getElem?_set_ne fun heq => hne heq.symm] at hlink''
      exact (h.sound k conn'' link'' hold hlink'').mono (List.prefix_refl _) hsettled
  · exact honce
  · intro o ho
    subst hsent
    rcases List.mem_append.mp ho with hold | hnew
    · obtain ⟨old, oldLink, payload, hget, hgetLink, hreply, hdest, hbytes⟩ := h.sent o hold
      by_cases hn : o.conn = n
      · rw [hn] at hget hgetLink ⊢
        cases hconn.symm.trans hget
        cases hlink.symm.trans hgetLink
        refine ⟨conn', link', payload, Indexed.getElem?_set_same hconn,
          Indexed.getElem?_set_same hlink, ?_, by rw [hkey, hdest], by rw [hkey, hbytes]⟩
        exact Indexed.getElem?_of_prefix hreplies hreply
      · refine ⟨old, oldLink, payload, ?_, ?_, hreply, hdest, hbytes⟩
        · exact (List.getElem?_set_ne fun heq => hn heq.symm).trans hget
        · exact (List.getElem?_set_ne fun heq => hn heq.symm).trans hgetLink
    · obtain ⟨item, hitem, rfl⟩ := List.mem_map.mp hnew
      refine ⟨conn', link', item.2, Indexed.getElem?_set_same hconn,
        Indexed.getElem?_set_same hlink, ?_, by rw [hkey], by rw [hkey]⟩
      exact Indexed.getElem?_of_prefix hreplies (hread item hitem)
  · exact hfresh
  · intro k link'' item hlink'' hreplying
    rcases Indexed.getElem?_set_cases hlink'' with ⟨rfl, rfl⟩ | ⟨hne, hold⟩
    · exact hunsent item hreplying
    · have hbefore := h.unsent k link'' item hold hreplying
      subst hsent
      rw [List.map_append, List.mem_append, not_or]
      refine ⟨hbefore, ?_⟩
      intro hmem
      simp only [Listener.outgoing, List.map_map, List.mem_map, Function.comp_apply,
        Prod.mk.injEq] at hmem
      obtain ⟨_, -, hk, -⟩ := hmem
      exact hne hk.symm

/-- The numbers of replies that were sent are those of replies that were read. -/
theorem Lawful.not_sent_of_length_le (h : s.Lawful L tunnelId) {n : Nat} {link : Link}
    (hlink : s.links[n]? = some link) {number : Nat} (hnumber : link.replies.length ≤ number) :
    (n, number) ∉ s.sent.map fun o => (o.conn, o.reply) := by
  intro hmem
  obtain ⟨o, ho, heq⟩ := List.mem_map.mp hmem
  obtain ⟨_, link', _, -, hlink', hreply, -⟩ := h.sent o ho
  cases heq
  cases hlink.symm.trans hlink'
  have hlt := (List.getElem?_eq_some_iff.mp hreply).1
  omega

/-- A step of a conn task. -/
theorem Lawful.of_conn (h : s.Lawful L tunnelId) {n : Nat} {conn conn' : Conn κ} {link link' : Link}
    {conns : AList fun _ : κ => Nat} (hconn : s.relay.tasks[n]? = some conn)
    (hlink : s.links[n]? = some link) (hstep : LinkStep L tunnelId conn link conn' link' items)
    (hconns : conns = s.relay.conns ∨ conns = s.relay.conns.erase conn.key) :
    Lawful L tunnelId { s with
      relay := { s.relay with conns := conns, tasks := s.relay.tasks.set n conn' }
      links := s.links.set n link'
      sent := s.sent ++ L.outgoing n conn.key items } := by
  have hsound := h.sound n conn link hconn hlink
  refine h.of_set hconn hlink hstep.key hstep.replies ?_ rfl ?_ ?_ ?_ ?_ ?_ le_rfl
    (hstep.sound hsound)
  · rintro key k hlookup
    rcases hconns with rfl | rfl
    · exact hlookup
    · exact (Table.lookup_of_erase hlookup).2
  · rcases hstep.replying with ⟨rfl, -⟩ | ⟨item, rfl, hreplying, -⟩
    · simp
    · simpa using (hsound.reply _ _ hreplying).2
  · rcases hstep.replying with ⟨rfl, -⟩ | ⟨item, rfl, hreplying, -⟩
    · simpa [Listener.outgoing] using h.sentOnce
    · have hnot := h.unsent n link item hlink hreplying
      rw [Listener.outgoing, List.map_append, List.nodup_append]
      refine ⟨h.sentOnce, by simp, ?_⟩
      intro number hnumber other hother heq
      subst heq
      have hother : number = (n, item.1) := by simpa using hother
      exact hnot (hother ▸ hnumber)
  · intro item hreplying
    rcases hstep.replying with ⟨rfl, hold⟩ | ⟨_, -, -, hnone⟩
    · rw [Listener.outgoing, List.map_nil, List.append_nil]
      rcases hold item hreplying with hbefore | hread
      · exact h.unsent n link item hlink hbefore
      · exact h.not_sent_of_length_le hlink hread.ge
    · rw [hnone] at hreplying
      cases hreplying
  · exact h.once.sublist (Indexed.flatMap_set_sublist hlink hstep.serialsAll_sublist)
  · exact h.held.mono rfl rfl fun k key hserves => hserves.of_set hconn hstep.key

/-- The loop hands its datagram to a channel. -/
theorem Lawful.of_queued (h : s.Lawful L tunnelId) {n : Nat} {conn : Conn κ} {link : Link}
    (hloop : s.relay.loop = .sending n payload) (hconn : s.relay.tasks[n]? = some conn)
    (hlink : s.links[n]? = some link) :
    Lawful L tunnelId { s with
      relay :=
        { s.relay with
          tasks := s.relay.tasks.set n { conn with queue := conn.queue ++ [payload] }
          loop := .receiving }
      links := s.links.set n (link.take (s.arrivals.length - 1) payload) } := by
  have hheld := h.held
  simp only [Held, hloop] at hheld
  obtain ⟨key, ⟨a, ha, haccepts⟩, conn', hconn', rfl⟩ := hheld
  cases hconn.symm.trans hconn'
  have hlast : s.settled = s.arrivals.length - 1 := by simp [settled, hloop]
  have hpos : s.arrivals.length - 1 + 1 = s.arrivals.length := by
    have hlt := (List.getElem?_eq_some_iff.mp ha).1
    omega
  have hquiet : s.sent = s.sent ++ L.outgoing n conn.key [] := by simp [Listener.outgoing]
  refine h.of_set hconn hlink rfl (List.prefix_refl _) (fun _ _ hold => hold) hquiet (by simp)
    h.sentOnce (fun item hreplying => h.unsent n link item hlink hreplying) ?_ trivial ?_ ?_
  · -- the number is larger than all there are
    rw [(Indexed.flatMap_set_perm hlink (link.serialsAll_take _ payload)).nodup_iff,
      List.nodup_cons]
    refine ⟨?_, h.once⟩
    intro hmem
    obtain ⟨other, hother, hserial⟩ := List.mem_flatMap.mp hmem
    obtain ⟨k, hk⟩ := List.mem_iff_getElem?.mp hother
    have hlt := (List.getElem?_eq_some_iff.mp hk).1
    rw [h.links_length] at hlt
    have hlt := (h.sound k _ other (List.getElem?_eq_getElem hlt) hk).lt_of_mem hserial
    omega
  · rw [hlast]
    exact Nat.sub_le _ _
  · have hsound := h.sound n conn link hconn hlink
    rw [hlast] at hsound
    have hpushed := hsound.push ha haccepts
    rwa [hpos] at hpushed

end Traffic

variable {tunnelId : UInt64} {L : Listener κ}

/-- A step keeps the invariant. -/
theorem TrafficStep.lawful {capacity : Nat} {s t : Traffic κ}
    (h : TrafficStep L capacity tunnelId s t) (hs : s.Lawful L tunnelId) : t.Lawful L tunnelId := by
  cases h with
  | skipped hstopping hloop haccepts =>
      refine hs.of_loop (List.prefix_append _ _) rfl (fun _ _ hold => hold) ?_ ?_
      · simp [Traffic.Held, hloop]
      · simp [Traffic.settled, hloop]
  | received hstopping hloop haccepts =>
      refine hs.of_loop (List.prefix_append _ _) rfl (fun _ _ hold => hold) ?_ ?_
      · exact ⟨_, by simp, haccepts⟩
      · simp [Traffic.settled, hloop]
  | looked ha hstep => exact hs.of_looked ha hstep
  | spawned hloop => exact hs.of_spawned hloop
  | queued hloop hconn hlink hstage => exact hs.of_queued hloop hconn hlink
  | dropped hloop =>
      refine hs.of_loop (List.prefix_refl _) rfl (fun _ _ hold => hold) trivial ?_
      simp [Traffic.settled, hloop]
  | conn hconn hlink hstep hconns => exact hs.of_conn hconn hlink hstep hconns
  | stop => exact { hs with }

theorem run_lawful {capacity : Nat} {events : List Event}
    (hrun : Transition.run (step L capacity tunnelId) (Traffic.init κ) events = some s) :
    s.Lawful L tunnelId :=
  Transition.run_invariant
    (fun _ _ _ hs hstep => (step_cases hs.links_length hstep).lawful hs) .init hrun

/-! ## Isolation -/

/-- What the streams and the socket of a listener have seen:

- on each stream the serial numbers increase, each datagram is the payload of the
  arrival with its number, which was read as one for the stream's key, and the
  reader of the stream obtains exactly these datagrams; nothing is written before
  the opener for that key;
- no arrival is on two streams;
- what is sent to a source is a reply read from a stream that was opened for it,
  and no reply is sent twice. -/
structure Traffic.Isolated (L : Listener κ) (tunnelId : UInt64) (s : Traffic κ) : Prop where
  stream : ∀ (n : Nat) (conn : Conn κ) (link : Link), s.relay.tasks[n]? = some conn →
    s.links[n]? = some link →
    (link.written.map Prod.fst).Pairwise (· < ·) ∧
    (∀ serial payload, (serial, payload) ∈ link.written →
      ∃ a, s.arrivals[serial]? = some a ∧ L.accepts a = some (conn.key, payload) ∧
        L.source conn.key = a.src) ∧
    (∃ e, readDatagrams link.wire = (link.written.map Prod.snd, some e)) ∧
    (link.wire ≠ [] → link.opener = some ⟨tunnelId, L.dynamic conn.key⟩)
  once : ∀ (n n' : Nat) (link link' : Link) (serial : Nat) (payload payload' : Datagram),
    s.links[n]? = some link → s.links[n']? = some link' → (serial, payload) ∈ link.written →
    (serial, payload') ∈ link'.written → n = n'
  replied : ∀ o ∈ s.sent, ∃ conn link payload, s.relay.tasks[o.conn]? = some conn ∧
    s.links[o.conn]? = some link ∧ link.replies[o.reply]? = some payload ∧
    o.dest = L.source conn.key ∧ o.bytes = L.wrap conn.key payload
  repliedOnce : (s.sent.map fun o => (o.conn, o.reply)).Nodup

omit [DecidableEq κ] in
/-- The reader of a sound stream obtains the datagrams written. -/
theorem Link.Sound.readDatagrams {arrivals : List Arrival} {bound : Nat} {conn : Conn κ}
    {link : Link} (h : link.Sound L tunnelId arrivals bound conn) :
    ∃ e, readDatagrams link.wire = (link.written.map Prod.snd, some e) := by
  obtain ⟨rest, hwire, -, last, hlast, hpart, hne⟩ := h.wire
  rw [hwire]
  exact readDatagrams_flatMap_append h.short hlast hpart hne

theorem Traffic.Lawful.isolated (h : s.Lawful L tunnelId) : s.Isolated L tunnelId := by
  refine ⟨?_, ?_, h.sent, h.sentOnce⟩
  · intro n conn link hconn hlink
    have hsound := h.sound n conn link hconn hlink
    refine ⟨?_, ?_, hsound.readDatagrams, ?_⟩
    · exact hsound.ordered.sublist (by simp [Link.serialsAll])
    · intro serial payload hwritten
      obtain ⟨-, a, ha, haccepts⟩ :=
        hsound.accepted (serial, payload) (by simp [Link.items, hwritten])
      exact ⟨a, ha, haccepts, L.accepts_source a _ _ haccepts⟩
    · intro hwire
      apply hsound.announced
      intro hopening
      exact hwire (hsound.silent (by simp [hopening])).2.2
  · intro n n' link link' serial payload payload' hlink hlink' hwritten hwritten'
    have hserial : serial ∈ link.serialsAll := by
      simp only [Link.serialsAll, List.mem_append, List.mem_map]
      exact .inl (.inl ⟨_, hwritten, rfl⟩)
    have hserial' : serial ∈ link'.serialsAll := by
      simp only [Link.serialsAll, List.mem_append, List.mem_map]
      exact .inl (.inl ⟨_, hwritten', rfl⟩)
    exact Indexed.position_unique h.once hlink hlink' hserial hserial'

/-- For a UDP tunnel and for a SOCKS5 association, under every interleaving of
arrivals from any sources with the openings and ends of conns, dropped datagrams
and replies, sources are isolated and every datagram is forwarded at most once. -/
theorem udp_isolation (tunnelId : UInt64) :
    (∀ (events : List Event) (s : Traffic SocketAddr),
      Transition.run (tunnelUdpTraffic tunnelId) (Traffic.init SocketAddr) events = some s →
      s.Isolated tunnelUdpListener tunnelId) ∧
    ∀ (events : List Event) (s : Traffic (SocketAddr × HostPort)),
      Transition.run (socksUdpTraffic tunnelId) (Traffic.init (SocketAddr × HostPort)) events =
        some s →
      s.Isolated socksUdpListener tunnelId :=
  ⟨fun _ _ hrun => (run_lawful hrun).isolated, fun _ _ hrun => (run_lawful hrun).isolated⟩

/-- A datagram to `10.0.0.1:53` with the payload `[7]`. -/
def sampleArrival : Arrival :=
  ⟨.v4 ⟨127, 0, 0, 1⟩ 5000, [0, 0, 0, 1, 10, 0, 0, 1, 0, 53, 7]⟩

/-- The loop deals with an arrival whose key is new. -/
def firstArrival (a : Arrival) : List Event :=
  [.recvFrom a, .get, .insertSpawn, .trySend]

/-- Conn `n` opens its stream, forwards one datagram and sends one reply back. -/
def forwardOne (n : Nat) (reply : Datagram) : List Event :=
  [.openStream n, .opened n, .recv n, .writeDatagram n, .readDatagram n reply, .sendTo n]

/-- A UDP tunnel with two sources, and a SOCKS5 association with one. -/
theorem udp_isolation_sample :
    (∃ s, Transition.run (tunnelUdpTraffic 1) (Traffic.init SocketAddr)
        (firstArrival ⟨.v4 ⟨127, 0, 0, 1⟩ 5000, [1]⟩ ++
          firstArrival ⟨.v4 ⟨127, 0, 0, 1⟩ 6000, [2]⟩ ++ forwardOne 1 [3] ++
          forwardOne 0 [4]) = some s ∧
      s.links.map Link.written = [[(0, [1])], [(1, [2])]] ∧
      s.sent = [⟨1, 0, .v4 ⟨127, 0, 0, 1⟩ 6000, [3]⟩, ⟨0, 0, .v4 ⟨127, 0, 0, 1⟩ 5000, [4]⟩] ∧
      s.Isolated tunnelUdpListener 1) ∧
    ∃ s, Transition.run (socksUdpTraffic 1) (Traffic.init (SocketAddr × HostPort))
        (firstArrival sampleArrival ++ forwardOne 0 [8]) = some s ∧
      s.links.map Link.written = [[(0, [7])]] ∧
      s.links.map Link.opener = [some ⟨1, some (.udp ⟨"10.0.0.1", 53⟩)⟩] ∧
      s.Isolated socksUdpListener 1 := by
  have htunnel : ((Transition.run (tunnelUdpTraffic 1) (Traffic.init SocketAddr)
      (firstArrival ⟨.v4 ⟨127, 0, 0, 1⟩ 5000, [1]⟩ ++ firstArrival ⟨.v4 ⟨127, 0, 0, 1⟩ 6000, [2]⟩ ++
        forwardOne 1 [3] ++ forwardOne 0 [4])).any fun s =>
      decide (s.links.map Link.written = [[(0, [1])], [(1, [2])]] ∧
        s.sent = [⟨1, 0, .v4 ⟨127, 0, 0, 1⟩ 6000, [3]⟩,
          ⟨0, 0, .v4 ⟨127, 0, 0, 1⟩ 5000, [4]⟩])) = true := by
    decide +kernel
  have hsocks : ((Transition.run (socksUdpTraffic 1) (Traffic.init (SocketAddr × HostPort))
      (firstArrival sampleArrival ++ forwardOne 0 [8])).any fun s =>
      decide (s.links.map Link.written = [[(0, [7])]] ∧
        s.links.map Link.opener = [some ⟨1, some (.udp ⟨"10.0.0.1", 53⟩)⟩])) = true := by
    decide +kernel
  obtain ⟨s, hrun, hs⟩ := (Option.any_eq_true _ _).mp htunnel
  obtain ⟨t, hrun', ht⟩ := (Option.any_eq_true _ _).mp hsocks
  obtain ⟨hwritten, hsent⟩ := of_decide_eq_true hs
  obtain ⟨hwritten', hopener⟩ := of_decide_eq_true ht
  exact ⟨⟨s, hrun, hwritten, hsent, (udp_isolation 1).1 _ s hrun⟩,
    t, hrun', hwritten', hopener, (udp_isolation 1).2 _ t hrun'⟩

end UdpRelay
end Rusnel
