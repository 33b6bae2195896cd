import Mathlib.Logic.Function.Basic
import Rusnel.Common.UdpCircuit
import Rusnel.Common.UdpReplies
import Rusnel.Common.UdpTarget
import Rusnel.Client.Dispatch
import Rusnel.Server.Dispatch

/-!
# A UDP tunnel from end to end

A listener with its conn tasks at one end, and for each conn the two pumps with
their socket at the other end.  An opener is answered before its target is looked
at, and a conn whose target is not an address has no pumps.  The replies that a conn
task reads are those which the pump behind its stream has written.

Main results:

- Theorem {lit}`udp_tunnel_end_to_end`: in both directions datagrams come out as
  they went in, in order and at most once, at the address the opener resolves to
  and at the source the conn was opened for.
- Theorem {lit}`udp_tunnel_delivers`: a running conn loses nothing on the way.
- Theorem {lit}`udp_datagrams_routed`: on a registered tunnel of either direction
  this address is the tunnel's remote, or the target that the datagram itself names.
-/

namespace Rusnel
namespace UdpTunnel

open Net UdpRelay UdpTable ByteStream

/-! ## Both sides -/

/-- A listener and the accepting sides of its conns. -/
structure System (κ : Type) where
  near : Traffic κ
  /-- The opener of each conn that was answered with an `Ok`. -/
  heard : Nat → Option OpenConn
  /-- The accepting side of each conn whose pumps were started. -/
  circuits : Nat → Option Circuit

def System.init (κ : Type) : System κ where
  near := .init κ
  heard _ := none
  circuits _ := none

/-- What an accepting side makes of an opener: whether it answers with an `Ok`, and the
address it then sends to, unless it finds none. -/
structure Acceptor where
  acks : OpenConn → Bool
  dial : OpenConn → Option SocketAddr

inductive Action where
  /-- A step of the listener or of a conn task, other than reading a reply. -/
  | near (e : Event)
  /-- The opener of conn `n` is read, resolved and answered. -/
  | ack (n : Nat)
  /-- The target of conn `n` is an address, and its pumps are started. -/
  | accept (n : Nat)
  /-- A step at the other end of conn `n`. -/
  | circuit (n : Nat) (a : CircuitAction)
  /-- Conn `n` reads a reply from its stream. -/
  | readReply (n : Nat)
deriving DecidableEq, Repr

variable {κ : Type} [DecidableEq κ]

/-- A conn is relaying once its opener was answered, and reads its replies from the
stream. -/
def System.admits (s : System κ) : Event → Bool
  | .readDatagram _ _ => false
  | .opened n => (s.heard n).isSome
  | _ => true

/-- One step of the tunnel. -/
def step (L : Listener κ) (capacity : Nat) (tunnelId : UInt64) (acceptor : Acceptor)
    (s : System κ) : Action → Option (System κ)
  | .near e =>
      if s.admits e then
        (UdpRelay.step L capacity tunnelId s.near e).map fun near => { s with near := near }
      else none
  | .ack n =>
      match s.heard n, s.near.links[n]? with
      | none, some link =>
          match link.phase, link.opener with
          | .awaiting, some opener =>
              if acceptor.acks opener then
                some { s with heard := Function.update s.heard n (some opener) }
              else none
          | _, _ => none
      | _, _ => none
  | .accept n =>
      match s.circuits n, s.heard n with
      | none, some opener =>
          (acceptor.dial opener).map fun address =>
            { s with circuits := Function.update s.circuits n (some (.new address)) }
      | _, _ => none
  | .circuit n a =>
      match s.circuits n, s.near.links[n]? with
      | some c, some link =>
          (c.step link.wire a).map fun c =>
            { s with circuits := Function.update s.circuits n (some c) }
      | _, _ => none
  | .readReply n =>
      match s.circuits n with
      | none => none
      | some c =>
          match c.back.take (readDatagram maxDatagram) c.wire with
          | none => none
          | some (payload, back) =>
              (UdpRelay.step L capacity tunnelId s.near (.readDatagram n payload)).map fun near =>
                { s with
                  near := near
                  circuits := Function.update s.circuits n (some { c with back := back }) }

/-! ## The tunnel as a whole -/

/-- What holds at every moment of both ends. -/
structure System.Lawful (L : Listener κ) (tunnelId : UInt64) (acceptor : Acceptor)
    (s : System κ) : Prop where
  near : s.near.Lawful L tunnelId
  replied : s.near.Replied L
  heard : ∀ n opener, s.heard n = some opener → ∃ conn link,
    s.near.relay.tasks[n]? = some conn ∧ s.near.links[n]? = some link ∧
      link.opener = some opener ∧ opener = ⟨tunnelId, L.dynamic conn.key⟩
  sound : ∀ n c, s.circuits n = some c → ∃ conn link, s.near.relay.tasks[n]? = some conn ∧
    s.near.links[n]? = some link ∧ c.Sound L tunnelId acceptor.dial conn link
  unanswered : ∀ n link, s.circuits n = none → s.near.links[n]? = some link → link.replies = []

/-- The entry of one conn is replaced. -/
theorem update_eq_some {α : Type} {f : Nat → Option α} {n k : Nat} {c d : α}
    (h : Function.update f n (some c) k = some d) : (k = n ∧ d = c) ∨ (k ≠ n ∧ f k = some d) := by
  by_cases hk : k = n
  · subst hk
    rw [Function.update_self] at h
    cases h
    exact .inl ⟨rfl, rfl⟩
  · rw [Function.update_of_ne hk] at h
    exact .inr ⟨hk, h⟩

theorem update_eq_none {α : Type} {f : Nat → Option α} {n k : Nat} {c : α}
    (h : Function.update f n (some c) k = none) : k ≠ n ∧ f k = none := by
  by_cases hk : k = n
  · subst hk
    rw [Function.update_self] at h
    cases h
  · rw [Function.update_of_ne hk] at h
    exact ⟨hk, h⟩

variable {link : Link} {c : Circuit} {conn : Conn κ} {n : Nat}

namespace System.Lawful

variable {L : Listener κ} {capacity : Nat} {tunnelId : UInt64}
  {acceptor : Acceptor} {s t : System κ}

theorem init : (System.init κ).Lawful L tunnelId acceptor where
  near := .init
  replied n conn link hconn := by simp [System.init, Traffic.init, Relay.init] at hconn
  heard n opener hheard := by cases hheard
  sound n c hc := by cases hc
  unanswered n link _ hlink := by simp [System.init, Traffic.init] at hlink

/-- A step of the listener's side that reads no reply. -/
theorem of_near (h : s.Lawful L tunnelId acceptor) {e : Event} {near : Traffic κ}
    (he : ∀ n payload, e ≠ .readDatagram n payload)
    (hstep : UdpRelay.step L capacity tunnelId s.near e = some near) :
    Lawful L tunnelId acceptor { s with near := near } where
  near := (UdpRelay.step_cases h.near.links_length hstep).lawful h.near
  replied := (UdpRelay.step_cases h.near.links_length hstep).replied h.near h.replied
  heard := by
    intro n opener hheard
    obtain ⟨conn, link, hconn, hlink, hopener, rfl⟩ := h.heard n opener hheard
    obtain ⟨conn', link', hconn', hlink', hkey, -, -, hkept⟩ :=
      (UdpRelay.step_cases h.near.links_length hstep).keeps hconn hlink
    exact ⟨conn', link', hconn', hlink', hkept hopener, by rw [hkey]⟩
  sound := by
    intro n c hc
    obtain ⟨conn, link, hconn, hlink, hsound⟩ := h.sound n c hc
    obtain ⟨conn', link', hconn', hlink', hkey, hwritten, hwire, hopener⟩ :=
      (UdpRelay.step_cases h.near.links_length hstep).keeps hconn hlink
    have hreplies : link'.replies = link.replies := by
      rcases replies_of_step hstep he hlink' with ⟨old, hold, hsame⟩ | ⟨hnone, -⟩
      · cases hold.symm.trans hlink
        exact hsame.symm
      · rw [hlink] at hnone
        cases hnone
    exact ⟨conn', link', hconn', hlink',
      hsound.mono hkey hwritten hwire (hopener hsound.opener) hreplies⟩
  unanswered := by
    intro n link' hc hlink'
    rcases replies_of_step hstep he hlink' with ⟨link, hlink, hsame⟩ | ⟨-, hnil⟩
    · rw [← hsame]
      exact h.unanswered n link hc hlink
    · exact hnil

/-- One accepting side is set up or takes a step, and the listener's side stays. -/
theorem of_update (h : s.Lawful L tunnelId acceptor) (hconn : s.near.relay.tasks[n]? = some conn)
    (hlink : s.near.links[n]? = some link) (hsound : c.Sound L tunnelId acceptor.dial conn link) :
    Lawful L tunnelId acceptor { s with circuits := Function.update s.circuits n (some c) } where
  near := h.near
  replied := h.replied
  heard := h.heard
  sound := by
    intro k d hd
    rcases update_eq_some hd with ⟨rfl, rfl⟩ | ⟨-, hold⟩
    · exact ⟨conn, link, hconn, hlink, hsound⟩
    · exact h.sound k d hold
  unanswered := fun k link' hnone hlink' =>
    h.unanswered k link' (update_eq_none hnone).2 hlink'

/-- The opener of a conn is answered. -/
theorem of_ack (h : s.Lawful L tunnelId acceptor) {opener : OpenConn}
    (hlink : s.near.links[n]? = some link) (hphase : link.phase = .awaiting)
    (hopener : link.opener = some opener) :
    Lawful L tunnelId acceptor
      { s with heard := Function.update s.heard n (some opener) } where
  near := h.near
  replied := h.replied
  heard := by
    intro k other hother
    rcases update_eq_some hother with ⟨rfl, rfl⟩ | ⟨-, hold⟩
    · have hlt : k < s.near.relay.tasks.length := by
        rw [← h.near.links_length]
        exact (List.getElem?_eq_some_iff.mp hlink).1
      have hconn := List.getElem?_eq_getElem hlt
      have hannounced := (h.near.sound k _ link hconn hlink).announced (by simp [hphase])
      exact ⟨_, link, hconn, hlink, hopener, Option.some.inj (hopener.symm.trans hannounced)⟩
    · exact h.heard k other hold
  sound := h.sound
  unanswered := h.unanswered

/-- A conn reads the next reply from its stream. -/
theorem of_readReply (h : s.Lawful L tunnelId acceptor) {payload : Datagram} {back : Inbox Datagram}
    {near : Traffic κ} (hc : s.circuits n = some c)
    (htake : c.back.take (readDatagram maxDatagram) c.wire = some (payload, back))
    (hstep : UdpRelay.step L capacity tunnelId s.near (.readDatagram n payload) = some near) :
    Lawful L tunnelId acceptor { s with
      near := near
      circuits := Function.update s.circuits n (some { c with back := back }) } := by
  have htraffic := UdpRelay.step_cases h.near.links_length hstep
  obtain ⟨conn, link, hconn, hlink, hsound⟩ := h.sound n c hc
  obtain ⟨link', rfl, hreplies, hwritten, hwire, hopener⟩ : ∃ link',
      near = s.near.setLink n link' ∧ link'.replies = link.replies ++ [payload] ∧
        link'.written = link.written ∧ link'.wire = link.wire ∧ link'.opener = link.opener := by
    simp only [UdpRelay.step] at hstep
    split at hstep
    · rename_i conn₀ link₀ hrunning
      cases hlink.symm.trans (Traffic.running_eq_some.mp hrunning).2.1
      split_ifs at hstep
      cases hstep
      exact ⟨_, rfl, rfl, rfl, rfl, rfl⟩
    · cases hstep
  have hback := hsound.back.take hsound.framed htake
  obtain ⟨left, -, rfl⟩ := Inbox.take_eq_some htake
  -- at the other conns nothing changes
  have hother : ∀ k, k ≠ n → (s.near.setLink n link').links[k]? = s.near.links[k]? :=
    fun k hk => List.getElem?_set_ne (Ne.symm hk)
  refine ⟨htraffic.lawful h.near, htraffic.replied h.near h.replied, ?_, ?_, ?_⟩
  · intro k opener hheard
    obtain ⟨conn', link₁, hconn', hlink₁, hopener₁, hnamed⟩ := h.heard k opener hheard
    by_cases hk : k = n
    · subst hk
      cases hlink.symm.trans hlink₁
      exact ⟨conn', link', hconn', Indexed.getElem?_set_same hlink, hopener.trans hopener₁, hnamed⟩
    · exact ⟨conn', link₁, hconn', (hother k hk).trans hlink₁, hopener₁, hnamed⟩
  · intro k d hd
    rcases update_eq_some hd with ⟨rfl, rfl⟩ | ⟨hk, hold⟩
    · refine ⟨conn, link', hconn, Indexed.getElem?_set_same hlink, ?_⟩
      exact { hsound with
        opener := by rw [hopener, hsound.opener]
        forth := by
          rw [hwritten, hwire]
          exact hsound.forth
        back := hback
        replies := by rw [hreplies, hsound.replies] }
    · obtain ⟨conn', link₁, hconn', hlink₁, hsound'⟩ := h.sound k d hold
      exact ⟨conn', link₁, hconn', (hother k hk).trans hlink₁, hsound'⟩
  · intro k link₁ hnone hlink₁
    obtain ⟨hk, hold⟩ := update_eq_none hnone
    exact h.unanswered k link₁ hold ((hother k hk).symm.trans hlink₁)

/-- Every step keeps the law. -/
theorem step (h : s.Lawful L tunnelId acceptor) {a : Action}
    (hstep : UdpTunnel.step L capacity tunnelId acceptor s a = some t) :
    t.Lawful L tunnelId acceptor := by
  cases a with
  | near e =>
      obtain ⟨hadmits, hnext⟩ := Option.ite_none_right_eq_some.mp hstep
      obtain ⟨near, hnear, rfl⟩ := Option.map_eq_some_iff.mp hnext
      refine h.of_near (fun n payload he => ?_) hnear
      subst he
      cases hadmits
  | ack n =>
      simp only [UdpTunnel.step] at hstep
      split at hstep
      · rename_i link hnone hlink
        split at hstep
        · rename_i opener hphase hopener
          obtain ⟨-, hnext⟩ := Option.ite_none_right_eq_some.mp hstep
          cases hnext
          exact h.of_ack hlink hphase hopener
        · cases hstep
      · cases hstep
  | accept n =>
      simp only [UdpTunnel.step] at hstep
      split at hstep
      · rename_i opener hnone hheard
        obtain ⟨address, haddress, rfl⟩ := Option.map_eq_some_iff.mp hstep
        obtain ⟨conn, link, hconn, hlink, hopener, rfl⟩ := h.heard n opener hheard
        exact h.of_update hconn hlink
          (.new hopener haddress (h.unanswered n link hnone hlink))
      · cases hstep
  | circuit n a =>
      simp only [UdpTunnel.step] at hstep
      split at hstep
      · rename_i c link hc hlink
        obtain ⟨c', hc', rfl⟩ := Option.map_eq_some_iff.mp hstep
        obtain ⟨conn, link', hconn, hlink', hsound⟩ := h.sound n c hc
        cases hlink.symm.trans hlink'
        exact h.of_update hconn hlink
          (hsound.step (link_framed (h.near.sound n conn link hconn hlink)) hc')
      · cases hstep
  | readReply n =>
      simp only [UdpTunnel.step] at hstep
      split at hstep
      · cases hstep
      · rename_i c hc
        split at hstep
        · cases hstep
        · rename_i payload back htake
          obtain ⟨near, hnear, rfl⟩ := Option.map_eq_some_iff.mp hstep
          exact h.of_readReply hc htake hnear

end System.Lawful

theorem run_lawful {L : Listener κ} {capacity : Nat} {tunnelId : UInt64}
    {acceptor : Acceptor} {acts : List Action} {s : System κ}
    (hrun : Transition.run (step L capacity tunnelId acceptor) (System.init κ) acts = some s) :
    s.Lawful L tunnelId acceptor :=
  Transition.run_invariant (fun _ _ _ hs hstep => hs.step hstep) .init hrun

/-- The numbers of the arrivals that have come out at the other end of conn `n`. -/
def System.serialsOut (s : System κ) (n : Nat) : List Nat :=
  match s.circuits n, s.near.links[n]? with
  | some c, some link => (link.written.take c.emitted.length).map Prod.fst
  | _, _ => []

omit [DecidableEq κ] in
theorem System.serialsOut_eq {s : System κ} (hc : s.circuits n = some c)
    (hlink : s.near.links[n]? = some link) :
    s.serialsOut n = (link.written.take c.emitted.length).map Prod.fst := by
  simp [System.serialsOut, hc, hlink]

omit [DecidableEq κ] in
theorem System.mem_serialsOut {s : System κ} {n serial : Nat} (h : serial ∈ s.serialsOut n) :
    ∃ link payload, s.near.links[n]? = some link ∧ (serial, payload) ∈ link.written := by
  unfold System.serialsOut at h
  split at h
  · rename_i c link hc hlink
    obtain ⟨item, hitem, rfl⟩ := List.mem_map.mp h
    exact ⟨link, item.2, hlink, List.mem_of_mem_take hitem⟩
  · cases h

namespace System.Lawful

variable {L : Listener κ} {tunnelId : UInt64} {acceptor : Acceptor} {s : System κ}

omit [DecidableEq κ] in
/-- What has come out is the front of what was written. -/
theorem emitted_eq (h : c.Sound L tunnelId acceptor.dial conn link) :
    c.emitted = (link.written.take c.emitted.length).map Prod.snd := by
  rw [List.map_take]
  exact List.prefix_iff_eq_take.mp (h.emitted.trans h.forth.items)

/-- No arrival comes out at the other ends of two conns. -/
theorem once (h : s.Lawful L tunnelId acceptor) {n n' serial : Nat} (hn : serial ∈ s.serialsOut n)
    (hn' : serial ∈ s.serialsOut n') : n = n' := by
  obtain ⟨link, payload, hlink, hmem⟩ := System.mem_serialsOut hn
  obtain ⟨link', payload', hlink', hmem'⟩ := System.mem_serialsOut hn'
  exact h.near.isolated.once n n' link link' serial payload payload' hlink hlink' hmem hmem'

/-- What comes out was read as a datagram for the conn. -/
theorem arrived (h : s.Lawful L tunnelId acceptor) (hconn : s.near.relay.tasks[n]? = some conn)
    (hlink : s.near.links[n]? = some link) (hc : s.circuits n = some c)
    (hsound : c.Sound L tunnelId acceptor.dial conn link) :
    (s.serialsOut n).Pairwise (· < ·) ∧
      List.Forall₂ (fun serial payload => ∃ a, s.near.arrivals[serial]? = some a ∧
        a.src = L.source conn.key ∧ L.accepts a = some (conn.key, payload))
        (s.serialsOut n) c.emitted := by
  obtain ⟨hordered, hwritten, -⟩ := h.near.isolated.stream n conn link hconn hlink
  rw [System.serialsOut_eq hc hlink]
  refine ⟨hordered.sublist ((List.take_sublist _ _).map _), ?_⟩
  nth_rewrite 2 [emitted_eq hsound]
  rw [List.forall₂_map_left_iff, List.forall₂_map_right_iff, List.forall₂_same]
  intro item hitem
  obtain ⟨a, ha, haccepts, hsrc⟩ := hwritten item.1 item.2 (List.mem_of_mem_take hitem)
  exact ⟨a, ha, hsrc.symm, haccepts⟩

theorem mem_emitted (h : s.Lawful L tunnelId acceptor) (hconn : s.near.relay.tasks[n]? = some conn)
    (hlink : s.near.links[n]? = some link) (hsound : c.Sound L tunnelId acceptor.dial conn link)
    {payload : Datagram} (hpayload : payload ∈ c.emitted) :
    ∃ a ∈ s.near.arrivals, a.src = L.source conn.key ∧
      L.accepts a = some (conn.key, payload) := by
  obtain ⟨item, hitem, rfl⟩ :=
    List.mem_map.mp ((hsound.emitted.trans hsound.forth.items).subset hpayload)
  obtain ⟨-, hwritten, -⟩ := h.near.isolated.stream n conn link hconn hlink
  obtain ⟨a, ha, haccepts, hsrc⟩ := hwritten item.1 item.2 hitem
  exact ⟨a, List.mem_of_getElem? ha, hsrc.symm, haccepts⟩

/-- What a source was sent are the first of the target's answers. -/
theorem answered (h : s.Lawful L tunnelId acceptor) (hconn : s.near.relay.tasks[n]? = some conn)
    (hlink : s.near.links[n]? = some link) (hsound : c.Sound L tunnelId acceptor.dial conn link) :
    s.near.sentBy n <+: L.repliesTo conn.key c.answers := by
  obtain ⟨told, later, hall, -, htold⟩ := h.replied n conn link hconn hlink
  have hreplies : told <+: c.answers := by
    have htaken : told <+: c.back.items := ⟨later, by rw [hall, hsound.replies]⟩
    exact htaken.trans (hsound.back.items.trans ((List.prefix_append _ _).trans hsound.answered))
  rw [htold]
  exact hreplies.map _

/-- What is sent is sent for a conn that was accepted. -/
theorem accepted_of_sent (h : s.Lawful L tunnelId acceptor) {o : Outgoing} (ho : o ∈ s.near.sent) :
    ∃ c, s.circuits o.conn = some c := by
  obtain ⟨conn, link, payload, -, hlink, hreply, -⟩ := h.near.sent o ho
  cases hc : s.circuits o.conn with
  | some c => exact ⟨c, rfl⟩
  | none =>
      rw [h.unanswered o.conn link hc hlink] at hreply
      cases hreply

end System.Lawful

/-- A UDP tunnel or association from end to end, in every state that any
interleaving of its two ends and of the stream between them reaches.

- Forth: what the other end of a conn has sent to the address of its opener are
  the payloads of arrivals that were read for the conn's key and came from its
  source, in the order of their arrival; no arrival comes out twice, at this conn
  or at another.
- Back: what was sent for a conn went to its source, and is what the address has
  answered, from the first answer on and in order.  Nothing else is sent. -/
theorem udp_tunnel_end_to_end (L : Listener κ) (capacity : Nat) (tunnelId : UInt64)
    (acceptor : Acceptor) {acts : List Action} {s : System κ}
    (hrun : Transition.run (step L capacity tunnelId acceptor) (System.init κ) acts = some s) :
    (∀ n n' serial, serial ∈ s.serialsOut n → serial ∈ s.serialsOut n' → n = n') ∧
    (∀ n c, s.circuits n = some c → ∃ conn, s.near.relay.tasks[n]? = some conn ∧
      acceptor.dial ⟨tunnelId, L.dynamic conn.key⟩ = some c.address ∧
      (s.serialsOut n).Pairwise (· < ·) ∧
      List.Forall₂ (fun serial payload => ∃ a, s.near.arrivals[serial]? = some a ∧
        a.src = L.source conn.key ∧ L.accepts a = some (conn.key, payload))
        (s.serialsOut n) c.emitted ∧
      s.near.sentBy n <+: L.repliesTo conn.key
        ((c.received.filter (·.src = c.address)).map (·.data.take maxDatagram))) ∧
    ∀ o ∈ s.near.sent, ∃ c, s.circuits o.conn = some c := by
  have h := run_lawful hrun
  refine ⟨fun n n' serial => h.once, fun n c hc => ?_, fun o => h.accepted_of_sent⟩
  obtain ⟨conn, link, hconn, hlink, hsound⟩ := h.sound n c hc
  obtain ⟨hordered, hpayloads⟩ := h.arrived hconn hlink hc hsound
  exact ⟨conn, hconn, hsound.dialed, hordered, hpayloads, h.answered hconn hlink hsound⟩

/-- One datagram goes out to `address` and its answer comes back, in pieces; one
from another address is dropped. -/
def echoOne (address : SocketAddr) (a : Arrival) (answer : Datagram) : List Action :=
  (firstArrival a).map .near ++
    [.near (.openStream 0), .ack 0, .near (.opened 0), .near (.recv 0), .accept 0,
      .near (.writeDatagram 0), .circuit 0 (.arriveForth 1), .circuit 0 (.arriveForth 9),
      .circuit 0 (.readStream true), .circuit 0 (.recvFrom ⟨.v4 ⟨192, 0, 2, 9⟩ 53, [0]⟩),
      .circuit 0 (.recvFrom ⟨address, answer⟩), .circuit 0 .writeDatagram,
      .circuit 0 (.arriveBack 9), .readReply 0, .near (.sendTo 0)]

/-- An accepting side that sends everything to one address. -/
def Acceptor.fixed (address : SocketAddr) : Acceptor where
  acks _ := true
  dial _ := some address

theorem udp_tunnel_end_to_end_echo :
    ∃ s c, Transition.run (step tunnelUdpListener 4096 1 (.fixed (.v4 ⟨192, 0, 2, 1⟩ 53)))
        (System.init SocketAddr)
        (echoOne (.v4 ⟨192, 0, 2, 1⟩ 53) ⟨.v4 ⟨127, 0, 0, 1⟩ 5000, [7]⟩ [8]) = some s ∧
      s.circuits 0 = some c ∧ c.emitted = [[7]] ∧
      s.near.sentBy 0 = [(.v4 ⟨127, 0, 0, 1⟩ 5000, [8])] ∧
      ∃ conn, s.near.relay.tasks[0]? = some conn ∧ s.near.sentBy 0 <+:
        tunnelUdpListener.repliesTo conn.key
          ((c.received.filter (·.src = c.address)).map (·.data.take maxDatagram)) := by
  have hsample : ((Transition.run
      (step tunnelUdpListener 4096 1 (.fixed (.v4 ⟨192, 0, 2, 1⟩ 53)))
      (System.init SocketAddr)
      (echoOne (.v4 ⟨192, 0, 2, 1⟩ 53) ⟨.v4 ⟨127, 0, 0, 1⟩ 5000, [7]⟩ [8])).any fun s =>
        (s.circuits 0).any fun c => decide (c.emitted = [[7]] ∧
          s.near.sentBy 0 = [(.v4 ⟨127, 0, 0, 1⟩ 5000, [8])])) = true := by
    decide +kernel
  obtain ⟨s, hrun, hs⟩ := (Option.any_eq_true _ _).mp hsample
  obtain ⟨c, hc, hboth⟩ := (Option.any_eq_true _ _).mp hs
  obtain ⟨hemitted, hsent⟩ := of_decide_eq_true hboth
  obtain ⟨conn, hconn, -, -, -, hback⟩ := (udp_tunnel_end_to_end _ _ _ _ hrun).2.1 0 c hc
  exact ⟨s, c, hrun, hc, hemitted, hsent, conn, hconn, hback⟩

/-! ## Nothing is lost on the way -/

/-- Nothing is on its way on a conn: not in its channel, not on its stream, and
not between its two pumps and their socket. -/
structure Idle (conn : Conn κ) (link : Link) (c : Circuit) : Prop where
  running : conn.stage = .running ∧ c.rx = .running ∧ c.tx = .running
  queue : conn.queue = []
  writing : link.writing = none ∧ c.writing = none
  replying : link.replying = none
  forth : c.forth.arrived = link.wire.length ∧
    c.forth.take (readDatagram maxDatagram) link.wire = none
  back : c.back.arrived = c.wire.length ∧ c.back.take (readDatagram maxDatagram) c.wire = none

instance (conn : Conn κ) (link : Link) (c : Circuit) : Decidable (Idle conn link c) :=
  decidable_of_iff
    ((conn.stage = .running ∧ c.rx = .running ∧ c.tx = .running) ∧ conn.queue = [] ∧
      (link.writing = none ∧ c.writing = none) ∧ link.replying = none ∧
      (c.forth.arrived = link.wire.length ∧
        c.forth.take (readDatagram maxDatagram) link.wire = none) ∧
      c.back.arrived = c.wire.length ∧ c.back.take (readDatagram maxDatagram) c.wire = none)
    ⟨fun ⟨running, queue, writing, replying, forth, back⟩ =>
      ⟨running, queue, writing, replying, forth, back⟩,
      fun ⟨running, queue, writing, replying, forth, back⟩ =>
      ⟨running, queue, writing, replying, forth, back⟩⟩

/-- What a running conn takes on it delivers.  Once nothing is on its way, every
datagram that was put into its channel has been sent to the target, and every
answer of the target has been sent to the source; datagrams are lost only where
the channel does not take them, or when the conn ends. -/
theorem udp_tunnel_delivers (L : Listener κ) (capacity : Nat) (tunnelId : UInt64)
    (acceptor : Acceptor) {acts : List Action} {s : System κ}
    (hrun : Transition.run (step L capacity tunnelId acceptor) (System.init κ) acts = some s)
    {n : Nat} {conn : Conn κ} {link : Link} {c : Circuit}
    (hconn : s.near.relay.tasks[n]? = some conn) (hlink : s.near.links[n]? = some link)
    (hc : s.circuits n = some c) (hidle : Idle conn link c) :
    c.emitted = link.taken.map Prod.snd ∧
      s.near.sentBy n = L.repliesTo conn.key
        ((c.received.filter (·.src = c.address)).map (·.data.take maxDatagram)) := by
  have h := run_lawful hrun
  obtain ⟨conn', link', hconn', hlink', hsound⟩ := h.sound n c hc
  cases hconn.symm.trans hconn'
  cases hlink.symm.trans hlink'
  refine ⟨?_, ?_⟩
  · have hframed := link_framed (h.near.sound n conn link hconn hlink)
    have hall := hsound.forth.drained hframed hidle.forth.1 hidle.forth.2
    have htaken := (h.near.sound n conn link hconn hlink).taken hidle.running.1
    rw [Link.items, hidle.writing.1, hidle.queue] at htaken
    rw [hsound.caughtUp hidle.running.2.1, hall, htaken]
    simp
  · obtain ⟨told, later, hall, howed, htold⟩ := h.replied n conn link hconn hlink
    have hlater : later = [] := by
      rw [howed hidle.running.1, hidle.replying]
      rfl
    rw [hlater, List.append_nil] at hall
    have hwritten := hsound.back.drained hsound.framed hidle.back.1 hidle.back.2
    have hanswers := hsound.pumping hidle.running.2.2
    rw [hidle.writing.2, Option.toList_none, List.append_nil] at hanswers
    rw [htold, hall, ← hsound.replies, hwritten, hanswers, Circuit.answers]

/-- After the echo nothing is on its way. -/
theorem udp_tunnel_delivers_echo :
    ∃ (s : System SocketAddr) (c : Circuit) (conn : Conn SocketAddr) (link : Link),
      s.circuits 0 = some c ∧ Idle conn link c ∧ link.taken = [(0, [7])] ∧
      c.emitted = link.taken.map Prod.snd := by
  have hsample : ((Transition.run
      (step tunnelUdpListener 4096 1 (.fixed (.v4 ⟨192, 0, 2, 1⟩ 53)))
      (System.init SocketAddr)
      (echoOne (.v4 ⟨192, 0, 2, 1⟩ 53) ⟨.v4 ⟨127, 0, 0, 1⟩ 5000, [7]⟩ [8])).any fun s =>
        (s.circuits 0).any fun c => (s.near.relay.tasks[0]?).any fun conn =>
          (s.near.links[0]?).any fun link =>
            decide (Idle conn link c ∧ link.taken = [(0, [7])])) = true := by
    decide +kernel
  obtain ⟨s, hrun, hs⟩ := (Option.any_eq_true _ _).mp hsample
  obtain ⟨c, hc, hs⟩ := (Option.any_eq_true _ _).mp hs
  obtain ⟨conn, hconn, hs⟩ := (Option.any_eq_true _ _).mp hs
  obtain ⟨link, hlink, hs⟩ := (Option.any_eq_true _ _).mp hs
  obtain ⟨hidle, htaken⟩ := of_decide_eq_true hs
  exact ⟨s, c, conn, link, hc, hidle, htaken,
    (udp_tunnel_delivers _ _ _ _ hrun hconn hlink hc hidle).1⟩

/-! ## Where datagrams go -/

/-- The address that {lit}`tunnel_udp_server` sends the datagrams of a request to. -/
def dialUdp (request : RemoteRequest) : Option SocketAddr :=
  match tunnelUdpServer request with
  | .ok (remoteAddr, _) => some remoteAddr
  | .error _ => none

/-- The server with the tunnels of its registry. -/
def serverAcceptor (tunnels : UInt64 → Option Server.TunnelEntry) : Acceptor where
  acks opener :=
    match tunnels opener.tunnelId with
    | none => false
    | some tunnel => (Server.resolveDispatch tunnel opener.dynamic).isOk
  dial opener :=
    match tunnels opener.tunnelId with
    | none => none
    | some tunnel =>
        match Server.resolveDispatch tunnel opener.dynamic with
        | .ok (.udp request) => dialUdp request
        | .ok (.tcp _) => none
        | .error _ => none

/-- The client with its remotes under the ids they were given. -/
def clientAcceptor (remotes : AList fun _ : UInt64 => RemoteRequest) : Acceptor where
  acks opener := (Client.acceptReverseConn remotes opener).isOk
  dial opener :=
    match Client.acceptReverseConn remotes opener with
    | .ok (.udp request) => dialUdp request
    | .ok (.tcp _) => none
    | .error _ => none

/-- The address is the one of the target that the tunnel and the opener name. -/
def Names (tunnels : UInt64 → Option (Direction × RemoteKind)) (direction : Direction)
    (opener : OpenConn) (address : SocketAddr) : Prop :=
  ∃ kind target, tunnels opener.tunnelId = some (direction, kind) ∧
    connTarget kind opener.dynamic = some (.udp, target) ∧
    parseSocketAddr target.toAddrString.toList = some address

theorem dialUdp_eq_some {direction : Direction} {localAddr : SocketAddr} {target : HostPort}
    {address : SocketAddr} (h : dialUdp (.new direction (.udp localAddr target)) = some address) :
    parseSocketAddr target.toAddrString.toList = some address := by
  simp only [dialUdp, tunnelUdpServer, RemoteRequest.remoteAddrString, RemoteRequest.new] at h
  cases hparse : parseSocketAddr target.toAddrString.toList with
  | none =>
      rw [hparse] at h
      cases h
  | some remoteAddr =>
      rw [hparse] at h
      exact h

/-- The server sends to the target of a forward tunnel. -/
theorem serverAcceptor_names {tunnels : UInt64 → Option Server.TunnelEntry} {opener : OpenConn}
    {address : SocketAddr} (h : (serverAcceptor tunnels).dial opener = some address) :
    Names (fun id => (tunnels id).map fun t => (t.direction, t.kind)) .forward opener address := by
  simp only [serverAcceptor] at h
  split at h
  · cases h
  · rename_i tunnel htunnel
    split at h
    · rename_i request hdispatch
      have hforward := ((Server.resolveDispatch_eq_ok_iff _ _).mp ⟨_, hdispatch⟩).1
      have htarget := Server.resolveDispatch_target hdispatch
      obtain ⟨localAddr, target, rfl⟩ : ∃ a target, request = .new .forward (.udp a target) := by
        unfold Server.resolveDispatch at hdispatch
        split_ifs at hdispatch
        split at hdispatch <;> cases hdispatch
        · exact ⟨_, _, rfl⟩
        · exact ⟨_, _, rfl⟩
      exact ⟨tunnel.kind, target, by simp [htunnel, hforward], htarget.symm,
        dialUdp_eq_some h⟩
    · cases h
    · cases h

/-- The client sends to the target of a reverse remote. -/
theorem clientAcceptor_names {remotes : AList fun _ : UInt64 => RemoteRequest}
    {opener : OpenConn} {address : SocketAddr}
    (h : (clientAcceptor remotes).dial opener = some address) :
    Names (fun id => (remotes.lookup id).map fun r => (r.direction, r.kind)) .reverse opener
      address := by
  simp only [clientAcceptor, Client.acceptReverseConn] at h
  cases hremote : remotes.lookup opener.tunnelId with
  | none =>
      rw [hremote] at h
      cases h
  | some parent =>
      simp only [hremote] at h
      split at h
      · rename_i request hdispatch
        have hreverse := ((Client.resolveReverseDispatch_eq_ok_iff _ _).mp ⟨_, hdispatch⟩).1
        have htarget := Client.resolveReverseDispatch_target hdispatch
        obtain ⟨localAddr, target, rfl⟩ : ∃ a target, request = .new .reverse (.udp a target) := by
          unfold Client.resolveReverseDispatch at hdispatch
          split_ifs at hdispatch
          split at hdispatch <;> cases hdispatch
          · exact ⟨_, _, rfl⟩
          · exact ⟨_, _, rfl⟩
        exact ⟨parent.kind, target, by simp [hremote, hreverse], htarget.symm,
          dialUdp_eq_some h⟩
      · cases h
      · cases h

/-- A SOCKS5 datagram that is accepted has a valid header for its key's target. -/
theorem socksUdpListener_accepts {a : Arrival} {key : SocketAddr × HostPort} {payload : Datagram}
    (h : socksUdpListener.accepts a = some (key, payload)) :
    parseSocksUdpHeader (a.data.take maxDatagram) = .ok (key.2, payload) := by
  simp only [socksUdpListener] at h
  split at h
  · cases h
  · rename_i htarget
    cases h
    exact htarget

/-- Where the datagrams of a tunnel go whose openers the accepting side resolves.  On a
UDP tunnel every conn sends to the address of the tunnel's remote.  In a SOCKS5
association every datagram goes to the address its own header names, without the
header, and what comes back from there is sent under a header for that target to the
source that named it. -/
structure Routed (tunnelId : UInt64) (acceptor : Acceptor)
    (tunnels : UInt64 → Option (Direction × RemoteKind)) (direction : Direction) : Prop where
  static : ∀ (acts : List Action) (s : System SocketAddr),
    Transition.run (step tunnelUdpListener 4096 tunnelId acceptor)
      (System.init SocketAddr) acts = some s →
    ∀ n c, s.circuits n = some c → ∃ localAddr remote,
      tunnels tunnelId = some (direction, .udp localAddr remote) ∧
      parseSocketAddr remote.toAddrString.toList = some c.address
  dynamic : ∀ (acts : List Action) (s : System (SocketAddr × HostPort)),
    Transition.run (step socksUdpListener 4096 tunnelId acceptor)
      (System.init (SocketAddr × HostPort)) acts = some s →
    ∀ n c, s.circuits n = some c → ∃ localAddr src target,
      tunnels tunnelId = some (direction, .socks5 localAddr) ∧
      parseSocketAddr target.toAddrString.toList = some c.address ∧
      (∀ payload ∈ c.emitted, ∃ a ∈ s.near.arrivals, a.src = src ∧
        parseSocksUdpHeader (a.data.take maxDatagram) = .ok (target, payload)) ∧
      ∀ o ∈ s.near.sent, o.conn = n → o.dest = src ∧
        ∃ answer ∈ c.received, answer.src = c.address ∧
          o.bytes = wrapSocksUdpReply target (answer.data.take maxDatagram)

/-- Datagrams are routed as soon as the addresses are named. -/
theorem routed_of_names (tunnelId : UInt64) {acceptor : Acceptor}
    {tunnels : UInt64 → Option (Direction × RemoteKind)} {direction : Direction}
    (hnames : ∀ {opener address}, acceptor.dial opener = some address →
      Names tunnels direction opener address) : Routed tunnelId acceptor tunnels direction where
  static acts s hrun n c hc := by
    obtain ⟨conn, link, -, -, hsound⟩ := (run_lawful hrun).sound n c hc
    obtain ⟨kind, target, htunnel, htarget, hparse⟩ := hnames hsound.dialed
    cases kind with
    | udp localAddr remote =>
        cases htarget
        exact ⟨localAddr, _, htunnel, hparse⟩
    | tcp localAddr remote => cases htarget
    | socks5 localAddr => cases htarget
  dynamic acts s hrun n c hc := by
    have h := run_lawful hrun
    obtain ⟨conn, link, hconn, hlink, hsound⟩ := h.sound n c hc
    obtain ⟨kind, target, htunnel, htarget, hparse⟩ := hnames hsound.dialed
    obtain ⟨localAddr, rfl, rfl⟩ : ∃ a, kind = .socks5 a ∧ target = conn.key.2 := by
      cases kind with
      | udp localAddr remote => cases htarget
      | tcp localAddr remote => cases htarget
      | socks5 localAddr =>
          cases htarget
          exact ⟨localAddr, rfl, rfl⟩
    refine ⟨localAddr, conn.key.1, conn.key.2, htunnel, hparse, fun payload hpayload => ?_,
      fun o ho hn => ?_⟩
    · obtain ⟨a, ha, hsrc, haccepts⟩ := h.mem_emitted hconn hlink hsound hpayload
      exact ⟨a, ha, hsrc, socksUdpListener_accepts haccepts⟩
    · have hanswered := h.answered hconn hlink hsound
      have hmem : (o.dest, o.bytes) ∈ s.near.sentBy n :=
        List.mem_map.mpr ⟨o, List.mem_filter.mpr ⟨ho, decide_eq_true hn⟩, rfl⟩
      obtain ⟨payload, hpayload, heq⟩ := List.mem_map.mp (hanswered.subset hmem)
      obtain ⟨answer, hanswer, rfl⟩ := List.mem_map.mp hpayload
      obtain ⟨hreceived, hsrc⟩ := List.mem_filter.mp hanswer
      obtain ⟨hdest, hbytes⟩ := Prod.mk.inj heq
      exact ⟨hdest.symm, answer, hreceived, of_decide_eq_true hsrc, hbytes.symm⟩

/-- The datagrams of forward tunnels are routed by the server's registry, and those of
reverse tunnels by the client's remotes. -/
theorem udp_datagrams_routed (tunnelId : UInt64)
    (tunnels : UInt64 → Option Server.TunnelEntry)
    (remotes : AList fun _ : UInt64 => RemoteRequest) :
    Routed tunnelId (serverAcceptor tunnels)
      (fun id => (tunnels id).map fun t => (t.direction, t.kind)) .forward ∧
    Routed tunnelId (clientAcceptor remotes)
      (fun id => (remotes.lookup id).map fun r => (r.direction, r.kind)) .reverse :=
  ⟨routed_of_names tunnelId serverAcceptor_names, routed_of_names tunnelId clientAcceptor_names⟩

/-- A server with one SOCKS5 tunnel. -/
def socksTunnelOne (id : UInt64) : Option Server.TunnelEntry :=
  if id = 1 then some ⟨1, 0, .forward, .socks5 (.v4 .localhost 1080), "1080=>socks", 0⟩ else none

theorem udp_datagrams_routed_socks :
    ∃ s c, Transition.run (step socksUdpListener 4096 1 (serverAcceptor socksTunnelOne))
        (System.init (SocketAddr × HostPort))
        (echoOne (.v4 ⟨10, 0, 0, 1⟩ 53) sampleArrival [8]) = some s ∧
      s.circuits 0 = some c ∧ c.address = .v4 ⟨10, 0, 0, 1⟩ 53 ∧ c.emitted = [[7]] ∧
      ∃ src target, parseSocketAddr target.toAddrString.toList = some c.address ∧
        ∀ payload ∈ c.emitted, ∃ a ∈ s.near.arrivals, a.src = src ∧
          parseSocksUdpHeader (a.data.take maxDatagram) = .ok (target, payload) := by
  have hsample : ((Transition.run (step socksUdpListener 4096 1 (serverAcceptor socksTunnelOne))
      (System.init (SocketAddr × HostPort))
      (echoOne (.v4 ⟨10, 0, 0, 1⟩ 53) sampleArrival [8])).any fun s =>
        (s.circuits 0).any fun c =>
          decide (c.address = .v4 ⟨10, 0, 0, 1⟩ 53 ∧ c.emitted = [[7]])) = true := by
    decide +kernel
  obtain ⟨s, hrun, hs⟩ := (Option.any_eq_true _ _).mp hsample
  obtain ⟨c, hc, hs⟩ := (Option.any_eq_true _ _).mp hs
  obtain ⟨haddress, hemitted⟩ := of_decide_eq_true hs
  obtain ⟨-, src, target, -, hparse, hnamed, -⟩ :=
    (udp_datagrams_routed 1 socksTunnelOne ∅).1.dynamic _ s hrun 0 c hc
  exact ⟨s, c, hrun, hc, haddress, hemitted, src, target, hparse, hnamed⟩

end UdpTunnel
end Rusnel
