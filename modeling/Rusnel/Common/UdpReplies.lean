import Rusnel.Common.UdpIsolation

/-!
# The order of replies

What a step of a UDP listener does to one conn, seen from outside: its key stays,
what it has written only grows, and the replies it reads are sent to its source
one after the other.

Main results:

- Theorem {lit}`TrafficStep.shape`: a step leaves the conns alone, adds one, or
  moves one of them.
- Theorem {lit}`TrafficStep.replied`: replies are sent in the order in which they
  were read.
- Theorem {lit}`step_replies`: only a read from the stream adds a reply.
-/

namespace Rusnel
namespace UdpRelay

open Net UdpTable

variable {κ : Type} [DecidableEq κ]

/-! ## What a step keeps of a conn -/

/-- What a step of one conn keeps: its key, and the order of what it has written;
what was told to the source so far stays in front of what is owed to it. -/
structure Moves (L : Listener κ) (tunnelId : UInt64) (conn : Conn κ) (link : Link)
    (conn' : Conn κ) (link' : Link) (items : List (Nat × Datagram)) : Prop where
  key : conn'.key = conn.key
  written : link.written <+: link'.written
  wire : link.wire <+: link'.wire
  opener : link.opener = some ⟨tunnelId, L.dynamic conn.key⟩ →
    link'.opener = some ⟨tunnelId, L.dynamic conn.key⟩
  replied : ∀ told later, told ++ later = link.replies →
    (conn.stage = .running → later = link.replying.toList.map Prod.snd) →
    ∃ later', (told ++ items.map Prod.snd) ++ later' = link'.replies ∧
      (conn'.stage = .running → later' = link'.replying.toList.map Prod.snd)

variable {L : Listener κ} {tunnelId : UInt64}

omit [DecidableEq κ] in
/-- A step that touches neither what is written nor what is replied. -/
theorem Moves.of_same {conn conn' : Conn κ} {link link' : Link} (hkey : conn'.key = conn.key)
    (hstage : conn'.stage = .running → conn.stage = .running)
    (hwritten : link'.written = link.written) (hwire : link'.wire = link.wire)
    (hopener : link'.opener = link.opener ∨
      link'.opener = some ⟨tunnelId, L.dynamic conn.key⟩) (hreplies : link'.replies = link.replies)
    (hreplying : link'.replying = link.replying) : Moves L tunnelId conn link conn' link' [] where
  key := hkey
  written := by rw [hwritten]
  wire := by rw [hwire]
  opener h := by
    rcases hopener with hsame | hset
    · rw [hsame, h]
    · exact hset
  replied told later hall howed := by
    refine ⟨later, ?_, fun hrunning => ?_⟩
    · rw [List.map_nil, List.append_nil, hall, hreplies]
    · rw [howed (hstage hrunning), hreplying]

omit [DecidableEq κ] in
theorem LinkStep.moves {conn conn' : Conn κ} {link link' : Link} {items : List (Nat × Datagram)}
    (h : LinkStep L tunnelId conn link conn' link' items) :
    Moves L tunnelId conn link conn' link' items := by
  cases h with
  | openStream hstage hphase => exact .of_same rfl id rfl rfl (.inr rfl) rfl rfl
  | opened hstage hphase => exact .of_same rfl id rfl rfl (.inl rfl) rfl rfl
  | recv hstage hphase hwriting hserials hqueue =>
      exact .of_same rfl id rfl rfl (.inl rfl) rfl rfl
  | finalRemove hstage =>
      refine .of_same rfl (fun h => ?_) rfl rfl (.inl rfl) rfl rfl
      cases h
  | writeDatagram hstage hwriting =>
      refine ⟨rfl, List.prefix_append _ _, List.prefix_append _ _, id,
        fun told later hall howed => ?_⟩
      exact ⟨later, by rw [List.map_nil, List.append_nil, hall], howed⟩
  | @readDatagram payload hstage hphase hreplying =>
      refine ⟨rfl, List.prefix_rfl, List.prefix_rfl, id, fun told later hall howed => ?_⟩
      have hnone : later = [] := by
        rw [howed hstage, hreplying]
        rfl
      subst hnone
      refine ⟨[payload], ?_, fun _ => rfl⟩
      rw [← hall, List.map_nil, List.append_nil]
  | @sendTo item hstage hreplying =>
      refine ⟨rfl, List.prefix_rfl, List.prefix_rfl, id, fun told later hall howed => ?_⟩
      have hone : later = [item.2] := by
        rw [howed hstage, hreplying]
        rfl
      refine ⟨[], ?_, fun _ => rfl⟩
      rw [← hall, hone, List.append_nil]
      rfl
  | runEnds n hstage =>
      refine ⟨rfl, List.prefix_rfl, List.prefix_append _ _, id, fun told later hall _ => ?_⟩
      refine ⟨later, by rw [List.map_nil, List.append_nil, hall]; rfl, fun h => ?_⟩
      cases h

variable {s t : Traffic κ} {capacity : Nat}

/-- What a step does to the conns: nothing, one more, or one of them moves. -/
theorem TrafficStep.shape (h : TrafficStep L capacity tunnelId s t) :
    (t.relay.tasks = s.relay.tasks ∧ t.links = s.links ∧ t.sent = s.sent) ∨
    (∃ key, t.relay.tasks = s.relay.tasks ++ [⟨key, .running, []⟩] ∧
      t.links = s.links ++ [.new] ∧ t.sent = s.sent) ∨
    ∃ n conn link conn' link' items, s.relay.tasks[n]? = some conn ∧ s.links[n]? = some link ∧
      t.relay.tasks = s.relay.tasks.set n conn' ∧ t.links = s.links.set n link' ∧
      t.sent = s.sent ++ L.outgoing n conn.key items ∧
      Moves L tunnelId conn link conn' link' items := by
  cases h with
  | skipped => exact .inl ⟨rfl, rfl, rfl⟩
  | received => exact .inl ⟨rfl, rfl, rfl⟩
  | looked ha hstep =>
      refine .inl ⟨?_, rfl, rfl⟩
      rcases ha with rfl | rfl | rfl <;> cases hstep <;> rfl
  | spawned => exact .inr (.inl ⟨_, rfl, rfl, rfl⟩)
  | queued hloop hconn hlink hstage =>
      refine .inr (.inr ⟨_, _, _, _, _, [], hconn, hlink, rfl, rfl, (List.append_nil _).symm, ?_⟩)
      exact .of_same rfl id rfl rfl (.inl rfl) rfl rfl
  | dropped => exact .inl ⟨rfl, rfl, rfl⟩
  | conn hconn hlink hstep hconns =>
      exact .inr (.inr ⟨_, _, _, _, _, _, hconn, hlink, rfl, rfl, rfl, hstep.moves⟩)
  | stop => exact .inl ⟨rfl, rfl, rfl⟩

/-- A conn keeps its place and its key, and what it has written. -/
theorem TrafficStep.keeps (h : TrafficStep L capacity tunnelId s t) {n : Nat} {conn : Conn κ}
    {link : Link} (hconn : s.relay.tasks[n]? = some conn) (hlink : s.links[n]? = some link) :
    ∃ conn' link', t.relay.tasks[n]? = some conn' ∧ t.links[n]? = some link' ∧
      conn'.key = conn.key ∧ link.written <+: link'.written ∧ link.wire <+: link'.wire ∧
      (link.opener = some ⟨tunnelId, L.dynamic conn.key⟩ →
        link'.opener = some ⟨tunnelId, L.dynamic conn.key⟩) := by
  have hsame : ∀ u : Traffic κ, u.relay.tasks[n]? = some conn → u.links[n]? = some link →
      ∃ conn' link', u.relay.tasks[n]? = some conn' ∧ u.links[n]? = some link' ∧
        conn'.key = conn.key ∧ link.written <+: link'.written ∧ link.wire <+: link'.wire ∧
        (link.opener = some ⟨tunnelId, L.dynamic conn.key⟩ →
          link'.opener = some ⟨tunnelId, L.dynamic conn.key⟩) := fun _ hc hl =>
    ⟨conn, link, hc, hl, rfl, List.prefix_rfl, List.prefix_rfl, id⟩
  rcases h.shape with ⟨htasks, hlinks, -⟩ | ⟨key, htasks, hlinks, -⟩ |
    ⟨k, old, oldLink, new, newLink, items, hold, holdLink, htasks, hlinks, -, hmoves⟩
  · exact hsame t (by rw [htasks, hconn]) (by rw [hlinks, hlink])
  · refine hsame t ?_ ?_
    · rw [htasks]
      exact Indexed.getElem?_of_prefix (List.prefix_append _ _) hconn
    · rw [hlinks]
      exact Indexed.getElem?_of_prefix (List.prefix_append _ _) hlink
  · by_cases hk : k = n
    · subst hk
      cases hold.symm.trans hconn
      cases holdLink.symm.trans hlink
      refine ⟨new, newLink, ?_, ?_, hmoves.key, hmoves.written, hmoves.wire, hmoves.opener⟩
      · rw [htasks]
        exact Indexed.getElem?_set_same hconn
      · rw [hlinks]
        exact Indexed.getElem?_set_same hlink
    · exact hsame t (by rw [htasks, List.getElem?_set_ne hk, hconn])
        (by rw [hlinks, List.getElem?_set_ne hk, hlink])

/-! ## What the source is told -/

/-- What was sent for conn `n`: to whom, and which bytes. -/
def Traffic.sentBy (s : Traffic κ) (n : Nat) : List (SocketAddr × List UInt8) :=
  (s.sent.filter (·.conn = n)).map fun o => (o.dest, o.bytes)

/-- The replies as the source gets them. -/
def Listener.repliesTo (L : Listener κ) (key : κ) (payloads : List Datagram) :
    List (SocketAddr × List UInt8) :=
  payloads.map fun payload => (L.source key, L.wrap key payload)

/-- The replies read by a conn were sent to its source in order; while the conn
runs, all but the one that is to be sent. -/
def Traffic.Replied (L : Listener κ) (s : Traffic κ) : Prop :=
  ∀ n conn link, s.relay.tasks[n]? = some conn → s.links[n]? = some link →
    ∃ told later, told ++ later = link.replies ∧
      (conn.stage = .running → later = link.replying.toList.map Prod.snd) ∧
      s.sentBy n = L.repliesTo conn.key told

omit [DecidableEq κ] in
/-- The replies of one conn are sent for it and for no other. -/
theorem Traffic.sentBy_outgoing {k : Nat} {key : κ} {items : List (Nat × Datagram)}
    (hsent : t.sent = s.sent ++ L.outgoing k key items) (n : Nat) :
    t.sentBy n = s.sentBy n ++ if k = n then L.repliesTo key (items.map Prod.snd) else [] := by
  rw [Traffic.sentBy, Traffic.sentBy, hsent, List.filter_append, List.map_append]
  congr 1
  split_ifs with hk
  · have hall : (L.outgoing k key items).filter (·.conn = n) = L.outgoing k key items :=
      List.filter_eq_self.mpr fun o ho => by
        obtain ⟨item, -, rfl⟩ := List.mem_map.mp ho
        exact decide_eq_true hk
    rw [hall, Listener.outgoing, Listener.repliesTo, List.map_map, List.map_map]
    rfl
  · have hnone : (L.outgoing k key items).filter (·.conn = n) = [] :=
      List.filter_eq_nil_iff.mpr fun o ho hconn => by
        obtain ⟨item, -, rfl⟩ := List.mem_map.mp ho
        exact hk (of_decide_eq_true hconn)
    rw [hnone]
    rfl

theorem TrafficStep.replied (h : TrafficStep L capacity tunnelId s t)
    (hlawful : s.Lawful L tunnelId) (hs : s.Replied L) : t.Replied L := by
  intro n conn link hconn hlink
  rcases h.shape with ⟨htasks, hlinks, hsent⟩ | ⟨key, htasks, hlinks, hsent⟩ |
    ⟨k, old, oldLink, new, newLink, items, hold, holdLink, htasks, hlinks, hsent, hmoves⟩
  · rw [htasks] at hconn
    rw [hlinks] at hlink
    rw [Traffic.sentBy, hsent]
    exact hs n conn link hconn hlink
  · rw [htasks] at hconn
    rw [hlinks] at hlink
    rw [Traffic.sentBy, hsent]
    rcases Indexed.getElem?_concat_cases hconn with ⟨rfl, rfl⟩ | hconn
    · -- nothing was sent for a conn that did not exist
      rw [← hlawful.links_length, List.getElem?_concat_length] at hlink
      cases hlink
      refine ⟨[], [], rfl, fun _ => rfl, ?_⟩
      have hnone : s.sent.filter (·.conn = s.relay.tasks.length) = [] := by
        refine List.filter_eq_nil_iff.mpr fun o ho hlast => ?_
        obtain ⟨conn, _, _, hconn, -⟩ := hlawful.sent o ho
        rw [of_decide_eq_true hlast, List.getElem?_length] at hconn
        cases hconn
      rw [hnone]
      rfl
    · have hlt := (List.getElem?_eq_some_iff.mp hconn).1
      rw [List.getElem?_append_left (by rw [hlawful.links_length]; exact hlt)] at hlink
      exact hs n conn link hconn hlink
  · rw [htasks] at hconn
    rw [hlinks] at hlink
    rw [Traffic.sentBy_outgoing hsent n]
    rcases Indexed.getElem?_set_cases hconn with ⟨rfl, rfl⟩ | ⟨hne, hconn⟩
    · rw [Indexed.getElem?_set_same holdLink] at hlink
      cases hlink
      obtain ⟨told, later, hall, howed, htold⟩ := hs n old oldLink hold holdLink
      obtain ⟨later', hall', howed'⟩ := hmoves.replied told later hall howed
      refine ⟨told ++ items.map Prod.snd, later', hall', howed', ?_⟩
      rw [if_pos rfl, htold, hmoves.key, Listener.repliesTo, Listener.repliesTo,
        Listener.repliesTo, List.map_append]
    · rw [List.getElem?_set_ne (Ne.symm hne)] at hlink
      rw [if_neg (Ne.symm hne), List.append_nil]
      exact hs n conn link hconn hlink

/-! ## Replies come from the stream -/

omit [DecidableEq κ] in
theorem Traffic.setLink_replies {n : Nat} {conn : Conn κ} {link link' : Link}
    (hrunning : s.running n = some (conn, link)) (hsame : link'.replies = link.replies) :
    (s.setLink n link').links.map Link.replies = s.links.map Link.replies :=
  Indexed.map_set_eq (Traffic.running_eq_some.mp hrunning).2.1 link' hsame

theorem Traffic.stepLoop_links {a : Action κ} (h : s.stepLoop capacity a = some t) :
    t.links = s.links := by
  obtain ⟨relay, -, rfl⟩ := Traffic.stepLoop_eq_some.mp h
  rfl

/-- Only a read from the stream adds a reply. -/
theorem step_replies {e : Event} (h : step L capacity tunnelId s e = some t)
    (he : ∀ n payload, e ≠ .readDatagram n payload) :
    t.links.map Link.replies = s.links.map Link.replies ∨
      t.links.map Link.replies = s.links.map Link.replies ++ [[]] := by
  cases e with
  | recvFrom a =>
      left
      simp only [step] at h
      by_cases hstopping : s.stopping = true
      · rw [if_pos hstopping] at h
        cases h
      · rw [if_neg hstopping] at h
        split at h
        · split_ifs at h
          cases h
          rfl
        · rw [Traffic.stepLoop_links h]
  | get => exact .inl (by rw [Traffic.stepLoop_links h])
  | isClosed => exact .inl (by rw [Traffic.stepLoop_links h])
  | remove => exact .inl (by rw [Traffic.stepLoop_links h])
  | insertSpawn =>
      right
      rw [Traffic.stepLoop_links h, List.map_append]
      rfl
  | trySend =>
      left
      simp only [step] at h
      split at h
      · split at h
        · rename_i hrunning
          split_ifs at h
          · rw [Traffic.stepLoop_links h]
            exact Traffic.setLink_replies hrunning rfl
          · rw [Traffic.stepLoop_links h]
        · rw [Traffic.stepLoop_links h]
      · cases h
  | openStream n =>
      left
      simp only [step] at h
      split at h
      · rename_i hrunning
        split_ifs at h
        cases h
        exact Traffic.setLink_replies hrunning rfl
      · cases h
  | opened n =>
      left
      simp only [step] at h
      split at h
      · rename_i hrunning
        split_ifs at h
        cases h
        exact Traffic.setLink_replies hrunning rfl
      · cases h
  | recv n =>
      left
      simp only [step] at h
      split at h
      · rename_i hrunning
        split at h
        · rw [Traffic.stepLoop_links h]
          exact Traffic.setLink_replies hrunning rfl
        · cases h
      · cases h
  | writeDatagram n =>
      left
      simp only [step] at h
      split at h
      · rename_i hrunning
        split at h
        · split at h
          · cases h
            exact Traffic.setLink_replies hrunning rfl
          · cases h
        · cases h
      · cases h
  | readDatagram n payload => exact absurd rfl (he n payload)
  | sendTo n =>
      left
      simp only [step] at h
      split at h
      · rename_i hrunning
        split at h
        · cases h
          exact Traffic.setLink_replies hrunning rfl
        · cases h
      · cases h
  | runEnds n cut =>
      left
      simp only [step] at h
      split at h
      · rename_i hrunning
        rw [Traffic.stepLoop_links h]
        exact Traffic.setLink_replies hrunning rfl
      · cases h
  | finalRemove n => exact .inl (by rw [Traffic.stepLoop_links h])
  | stop =>
      cases h
      exact .inl rfl

/-- A conn has the replies it had, and a new one has none. -/
theorem replies_of_step {e : Event} (h : step L capacity tunnelId s e = some t)
    (he : ∀ n payload, e ≠ .readDatagram n payload) {n : Nat} {link' : Link}
    (hlink' : t.links[n]? = some link') :
    (∃ link, s.links[n]? = some link ∧ link.replies = link'.replies) ∨
      s.links[n]? = none ∧ link'.replies = [] := by
  have hreplies : (t.links.map Link.replies)[n]? = some link'.replies := by
    rw [List.getElem?_map, hlink']
    rfl
  have hold : ∀ r, (s.links.map Link.replies)[n]? = some r →
      ∃ link, s.links[n]? = some link ∧ link.replies = r := by
    intro r hr
    rw [List.getElem?_map] at hr
    exact Option.map_eq_some_iff.mp hr
  rcases step_replies h he with hsame | hmore
  · rw [hsame] at hreplies
    exact .inl (hold _ hreplies)
  · rw [hmore] at hreplies
    rcases Indexed.getElem?_concat_cases hreplies with ⟨hn, hnil⟩ | hfound
    · refine .inr ⟨?_, hnil⟩
      rw [hn, List.length_map, List.getElem?_length]
    · exact .inl (hold _ hfound)

end UdpRelay
end Rusnel
