import Rusnel.Client.Session
import Rusnel.Server.Registry

/-!
# Routing agreement between client and server

After an accepted hello both ends know every tunnel by the same id: the server
in its index, the client in its own map.  A conn is opened on the side that
listens and resolved on the other side, so the two tables and the two
dispatchers have to agree.

Main results:

- Theorem {lit}`handlers_agree`: what the handlers that the two sides have spawned
  open is resolved on the other side.
- Theorem {lit}`routing_agreement`: ids are distinct, both tables hold the
  declared remote under its id, and a conn opened for a remote, by a handler that
  was spawned for it, is resolved by the other side to exactly that remote's purpose.
-/

namespace Rusnel
namespace EndToEnd

open Server Client
open Reconnect (ClientConfig)

variable {cfg : ServerConfig}

/-- Where a declared remote ends up on the server: the tunnel at its position,
under the id at that position of the reply. -/
theorem tunnel_of_remote {s : Session} (h : s.Lawful cfg) {remotes : List RemoteRequest}
    {ids : List UInt64} (hremotes : s.remotes = some remotes)
    (hanswer : s.answer = some (.ok ids)) {i : Nat} {r : RemoteRequest}
    (hr : remotes[i]? = some r) :
    ∃ t, s.tunnels[i]? = some t ∧ ids[i]? = some t.id ∧ t.direction = r.direction ∧
      t.kind = r.kind := by
  have haccepted := h.accepted ids hanswer
  rcases haccepted with ⟨rfl, remotes', hremotes', _, hdeclared⟩
  cases hremotes.symm.trans hremotes'
  have hat : (s.tunnels.map TunnelEntry.declared)[i]? = some r.declared := by
    rw [hdeclared, List.getElem?_map, hr]
    rfl
  rw [List.getElem?_map] at hat
  rcases Option.map_eq_some_iff.mp hat with ⟨t, ht, heq⟩
  simp only [TunnelEntry.declared, RemoteRequest.declared, Prod.mk.injEq] at heq
  exact ⟨t, ht, by rw [List.getElem?_map, ht]; rfl, heq.1, heq.2⟩

/-- The reply to an accepted hello has one id for each remote. -/
theorem reply_length {s : Session} (h : s.Lawful cfg) {remotes : List RemoteRequest}
    {ids : List UInt64} (hremotes : s.remotes = some remotes)
    (hanswer : s.answer = some (.ok ids)) : ids.length = remotes.length := by
  have haccepted := h.accepted ids hanswer
  rcases haccepted with ⟨rfl, remotes', hremotes', _, hdeclared⟩
  cases hremotes.symm.trans hremotes'
  have hlen := congrArg List.length hdeclared
  simpa only [List.length_map] using hlen

/-- While the counter has not wrapped, the ids of one reply are distinct. -/
theorem reply_nodup {sys : System} (hdrawn : sys.Drawn) {c : Nat} {s : Session}
    (hs : sys.sessions[c]? = some s) (h : s.Lawful cfg) {ids : List UInt64}
    (hanswer : s.answer = some (.ok ids)) : ids.Nodup := by
  rw [(h.accepted ids hanswer).1]
  exact (hdrawn.session hs).of_append_left

/-- The server resolves an opener on an indexed forward tunnel to the purpose of
the tunnel's remote. -/
theorem server_resolves {st : ServerState} {t : TunnelEntry} {r : RemoteRequest}
    (hindex : st.tunnel t.id = some t) (hdir : t.direction = r.direction)
    (hkind : t.kind = r.kind) (hforward : r.direction = .forward)
    {dynamic : Option DynamicTarget} {target : Protocol × HostPort}
    (htarget : connTarget r.kind dynamic = some target) :
    ∃ d, lookupOpenConn st ⟨t.id, dynamic⟩ = .ok (t, d) ∧ d.target = some target := by
  have hfits : (connTarget t.kind dynamic).isSome = true := by
    rw [hkind, htarget]
    rfl
  have hok := (resolveDispatch_eq_ok_iff t dynamic).mpr ⟨hdir.trans hforward, hfits⟩
  rcases hok with ⟨d, hd⟩
  refine ⟨d, ?_, ?_⟩
  · simp only [lookupOpenConn, hindex, hd]
  · rw [resolveDispatch_target hd, hkind, htarget]

/-- The client resolves an opener on a reverse remote to the remote's purpose. -/
theorem client_resolves {table : AList fun _ : UInt64 => RemoteRequest} {id : UInt64}
    {r : RemoteRequest} (hlookup : table.lookup id = some r) (hreverse : r.direction = .reverse)
    {dynamic : Option DynamicTarget} {target : Protocol × HostPort}
    (htarget : connTarget r.kind dynamic = some target) :
    ∃ d, acceptReverseConn table ⟨id, dynamic⟩ = .ok d ∧ d.target = some target := by
  have hfits : (connTarget r.kind dynamic).isSome = true := by
    rw [htarget]
    rfl
  have hok := (resolveReverseDispatch_eq_ok_iff r dynamic).mpr ⟨hreverse, hfits⟩
  rcases hok with ⟨d, hd⟩
  refine ⟨d, ?_, ?_⟩
  · simp only [acceptReverseConn, hlookup, hd]
  · rw [resolveReverseDispatch_target hd, htarget]

/-- Only the side that does not listen accepts a conn on a tunnel. -/
theorem not_both_dispatch {t : TunnelEntry} {r : RemoteRequest}
    (hdir : t.direction = r.direction) (dynamic : Option DynamicTarget) :
    ¬((∃ d, resolveDispatch t dynamic = .ok d) ∧
      ∃ d, resolveReverseDispatch r dynamic = .ok d) := by
  rintro ⟨hserver, hclient⟩
  have hforward := ((resolveDispatch_eq_ok_iff t dynamic).mp hserver).1
  have hreverse := ((resolveReverseDispatch_eq_ok_iff r dynamic).mp hclient).1
  rw [hdir, hreverse] at hforward
  cases hforward

/-! ## The handlers of both sides -/

/-- The server's index has the session's tunnels: it was not deregistered, and no other
client has come to its client id. -/
def Registered (sys : System) (s : Session) : Prop :=
  s.phase ≠ .returned ∧ sys.clientCounter < 2 ^ 64

/-- The client declared the remotes of the session, and its latest hello was answered with
the session's ids. -/
structure Connected (client : ClientConfig) (state : ClientSession.State) (s : Session) :
    Prop where
  declared : s.remotes = some client.remotes
  answered : s.answer = some (.ok state.tunnelIds)

/-- What the handlers that both sides have spawned open is resolved on the other side. -/
structure HandlersAgree (sys : System) (s : Session) (client : ClientConfig)
    (state : ClientSession.State) : Prop where
  /-- A handler of the client serves a forward remote.  The server has a tunnel of its kind
  under its id, and resolves what fits the remote to the remote's purpose. -/
  forward : ∀ remote id, (remote, id) ∈ state.handlers → remote.direction = .forward ∧
    ∃ t ∈ s.tunnels, t.id = id ∧ t.direction = .forward ∧ t.kind = remote.kind ∧
      (Registered sys s → ∀ dynamic target, connTarget remote.kind dynamic = some target →
        ∃ d, lookupOpenConn sys.state ⟨id, dynamic⟩ = .ok (t, d) ∧ d.target = some target)
  /-- What they and their tasks have opened fits and is resolved so.  Over one connection,
  that is: the ids of an earlier one were those of another session. -/
  opened : state.answers.length = 1 → Registered sys s →
    ∀ remote opener, (remote, opener) ∈ state.opened → ∃ t ∈ s.tunnels, ∃ d target,
      connTarget remote.kind opener.dynamic = some target ∧
      lookupOpenConn sys.state opener = .ok (t, d) ∧ d.target = some target
  /-- A handler of the server serves a tunnel whose id is that of a reverse remote, and the
  client resolves what fits the tunnel to the remote's purpose. -/
  reverse : ∀ t ∈ s.listeners, ∃ remote ∈ client.remotes, remote.direction = .reverse ∧
    t.direction = .reverse ∧ t.kind = remote.kind ∧
      ∀ dynamic target, connTarget t.kind dynamic = some target →
        ∃ d, acceptReverseConn (remotesById state.tunnelIds client.remotes) ⟨t.id, dynamic⟩ =
          .ok d ∧ d.target = some target

section Handlers

variable {sys : System} {c : Nat} {s : Session} {client : ClientConfig}
  {state : ClientSession.State}

theorem Registered.indexed (h : Registered sys s)
    (hcount : sys.clientCounter < 2 ^ 64 → sys.Counted) (hs : sys.sessions[c]? = some s)
    {t : TunnelEntry} (ht : t ∈ s.tunnels) : sys.state.tunnel t.id = some t :=
  (hcount h.2).indexed c s hs h.1 t ht

/-- The tunnel for a remote that the client has an id for. -/
theorem Connected.tunnel (h : Connected client state s) (hsession : s.Lawful cfg)
    {remote : RemoteRequest} {id : UInt64}
    (hzip : (remote, id) ∈ client.remotes.zip state.tunnelIds) :
    ∃ t ∈ s.tunnels, t.id = id ∧ t.direction = remote.direction ∧ t.kind = remote.kind := by
  obtain ⟨i, hi⟩ := List.mem_iff_getElem?.mp hzip
  obtain ⟨hremote, hid⟩ := List.getElem?_zip_eq_some.mp hi
  obtain ⟨t, ht, hat, hdir, hkind⟩ := tunnel_of_remote hsession h.declared h.answered hremote
  exact ⟨t, List.mem_of_getElem? ht, Option.some.inj (hat.symm.trans hid), hdir, hkind⟩

/-- The remote for a tunnel of the session. -/
theorem Connected.remote (h : Connected client state s) (hsession : s.Lawful cfg)
    (hnodup : state.tunnelIds.Nodup) {t : TunnelEntry} (ht : t ∈ s.tunnels) :
    ∃ remote ∈ client.remotes, t.direction = remote.direction ∧ t.kind = remote.kind ∧
      (remotesById state.tunnelIds client.remotes).lookup t.id = some remote := by
  have hlen := reply_length hsession h.declared h.answered
  obtain ⟨i, hi⟩ := List.mem_iff_getElem?.mp ht
  have hid : state.tunnelIds[i]? = some t.id := by
    rw [(hsession.accepted _ h.answered).1, List.getElem?_map, hi]
    rfl
  have hlt : i < client.remotes.length := hlen ▸ (List.getElem?_eq_some_iff.mp hid).1
  have hremote := List.getElem?_eq_getElem hlt
  obtain ⟨t', ht', -, hdir, hkind⟩ := tunnel_of_remote hsession h.declared h.answered hremote
  cases hi.symm.trans ht'
  exact ⟨_, List.getElem_mem hlt, hdir, hkind, remotesById_lookup hnodup hlen hid hremote⟩

theorem handlers_agree (hdrawn : sys.Drawn)
    (hcount : sys.clientCounter < 2 ^ 64 → sys.Counted) (hs : sys.sessions[c]? = some s)
    (hsession : s.Lawful cfg) (hclient : ClientSession.Lawful client state)
    (h : Connected client state s) : HandlersAgree sys s client state where
  forward remote id hmem := by
    obtain ⟨hzip, hforward⟩ := hclient.handler_mem_zip hmem
    obtain ⟨t, ht, rfl, hdir, hkind⟩ := h.tunnel hsession hzip
    refine ⟨hforward, t, ht, rfl, hdir.trans hforward, hkind, ?_⟩
    intro hregistered dynamic target htarget
    have hindex := hregistered.indexed hcount hs ht
    exact server_resolves hindex hdir hkind hforward htarget
  opened hone hregistered remote opener hmem := by
    obtain ⟨⟨ids, hids, hzip⟩, hforward, hfits⟩ := hclient.opened _ hmem
    -- the only answer is the one of this connection
    obtain ⟨own, hown⟩ := List.length_eq_one_iff.mp hone
    rw [hown, List.mem_singleton] at hids
    have hcurrent : state.tunnelIds = ids := by
      rw [ClientSession.State.tunnelIds, hown, hids]
      rfl
    obtain ⟨t, ht, hid, hdir, hkind⟩ := h.tunnel hsession (hcurrent ▸ hzip)
    obtain ⟨target, htarget⟩ := Option.isSome_iff_exists.mp (ClientSession.connTarget_isSome hfits)
    have hindex := hregistered.indexed hcount hs ht
    obtain ⟨d, hlookup, hd⟩ := server_resolves hindex hdir hkind hforward htarget
    rw [hid] at hlookup
    exact ⟨t, ht, d, target, htarget, hlookup, hd⟩
  reverse t ht := by
    obtain ⟨hmem, hreverse, -⟩ := hsession.listening t ht
    obtain ⟨remote, hremote, hdir, hkind, hlookup⟩ :=
      h.remote hsession (reply_nodup hdrawn hs hsession h.answered) hmem
    have hback : remote.direction = .reverse := hdir.symm.trans hreverse
    refine ⟨remote, hremote, hback, hreverse, hkind, fun dynamic target htarget => ?_⟩
    exact client_resolves hlookup hback (hkind ▸ htarget)

end Handlers

/-- However the registrations of any number of clients interleave, as long as
fewer than `2 ^ 64 - 1` tunnel ids were drawn in total:

- all ids ever drawn are distinct;
- a client whose hello was accepted takes over the reply, and for every declared
  remote its map and the server's tunnel list hold that remote under the id at
  the same position; the server's index does until the client is deregistered, if
  the ids of the clients are distinct as well;
- a conn opened for the remote, with a dynamic target exactly if the remote is a
  SOCKS5 one, is resolved by the other side to the remote's protocol and address
  or to those of the SOCKS target;
- in every run of the client, so is every conn that the handlers it has spawned, or
  the handlers that the server has spawned for it, open;
- no tunnel and dynamic field are accepted by both dispatchers. -/
theorem routing_agreement {acts : List Action} {sys : System} (hrun : run cfg acts = some sys)
    (hids : sys.assignedIds.length < 2 ^ 64 - 1) :
    sys.assignedIds.Nodup ∧
    (∀ (c : Nat) (s : Session) (remotes : List RemoteRequest) (ids : List UInt64),
      sys.sessions[c]? = some s → s.remotes = some remotes → s.answer = some (.ok ids) →
      clientSendSessionHello ⟨remotes⟩ (.ok ids) = .ok ids ∧
      ∀ (i : Nat) (r : RemoteRequest), remotes[i]? = some r →
        ∃ t, s.tunnels[i]? = some t ∧ ids[i]? = some t.id ∧ t.direction = r.direction ∧
          t.kind = r.kind ∧ (remotesById ids remotes).lookup t.id = some r ∧
          (Registered sys s → sys.state.tunnel t.id = some t) ∧
          ∀ dynamic target, connTarget r.kind dynamic = some target →
            (r.direction = .forward → Registered sys s →
              ∃ d, lookupOpenConn sys.state ⟨t.id, dynamic⟩ = .ok (t, d) ∧
                d.target = some target) ∧
            (r.direction = .reverse →
              ∃ d, acceptReverseConn (remotesById ids remotes) ⟨t.id, dynamic⟩ = .ok d ∧
                d.target = some target)) ∧
    (∀ (c : Nat) (s : Session) (client : ClientConfig) (steps : List ClientSession.Action)
      (state : ClientSession.State), sys.sessions[c]? = some s →
      ClientSession.run client steps = some state → Connected client state s →
      HandlersAgree sys s client state) ∧
    ∀ (t : TunnelEntry) (r : RemoteRequest), t.direction = r.direction →
      ∀ dynamic, ¬((∃ d, resolveDispatch t dynamic = .ok d) ∧
        ∃ d, resolveReverseDispatch r dynamic = .ok d) := by
  have hlawful := run_lawful hrun
  have hdrawn := run_drawn hrun (by omega)
  have hcount (hclients : sys.clientCounter < 2 ^ 64) : sys.Counted :=
    run_counted hrun ⟨hclients, by omega⟩
  refine ⟨hdrawn.nodup, ?_, ?_, fun t r hdir dynamic => not_both_dispatch hdir dynamic⟩
  · intro c s remotes ids hs hremotes hanswer
    have hsession := (hlawful.sessions c s hs).1
    have hlen := reply_length hsession hremotes hanswer
    refine ⟨by simp [clientSendSessionHello, hlen], ?_⟩
    intro i r hr
    rcases tunnel_of_remote hsession hremotes hanswer hr with ⟨t, ht, hid, hdir, hkind⟩
    have hindex (hregistered : Registered sys s) : sys.state.tunnel t.id = some t :=
      hregistered.indexed hcount hs (List.mem_of_getElem? ht)
    have htable : (remotesById ids remotes).lookup t.id = some r :=
      remotesById_lookup (reply_nodup hdrawn hs hsession hanswer) hlen hid hr
    refine ⟨t, ht, hid, hdir, hkind, htable, hindex, ?_⟩
    intro dynamic target htarget
    constructor
    · intro hforward hregistered
      exact server_resolves (hindex hregistered) hdir hkind hforward htarget
    · intro hreverse
      exact client_resolves htable hreverse htarget
  · intro c s client steps state hs hclient hconnected
    exact handlers_agree hdrawn hcount hs (hlawful.sessions c s hs).1
      (ClientSession.run_lawful hclient) hconnected

/-- A SOCKS5 listener and a port that is forwarded. -/
def forwardClient : ClientConfig where
  remotes := [.new .forward (.socks5 (.v4 ⟨127, 0, 0, 1⟩ 1080)),
    .new .forward (.tcp (.v4 ⟨127, 0, 0, 1⟩ 8080) ⟨"10.1.1.1", 80⟩)]
  reconnect := .default

/-- Two clients register at the same time: both hellos are read before either
draws an id, and the ids are drawn in turn. -/
def interleavedRun : List Action :=
  let first : List SessionAction := [.handshake true, .hello (.ok ⟨forwardClient.remotes⟩)]
  let second : List SessionAction :=
    [.handshake true, .hello (.ok ⟨[.new .reverse (.udp (.v4 ⟨127, 0, 0, 1⟩ 53)
      ⟨"10.2.2.2", 53⟩)]⟩)]
  let register : List SessionAction := [.allocTunnelId, .insertClientTunnel, .insertTunnel]
  [.accept (.v4 ⟨10, 0, 0, 1⟩ 40000), .accept (.v4 ⟨10, 0, 0, 2⟩ 40000)] ++
    first.map (.session 0) ++ second.map (.session 1) ++ register.map (.session 0) ++
    register.map (.session 1) ++ register.map (.session 0) ++
    [.session 0 (.replyHello (.ok ())), .session 1 (.replyHello (.ok ()))]

/-- The first client spawns both handlers, and each takes a connection and opens a conn. -/
def forwardSteps : List ClientSession.Action :=
  [.client (.loop .subscribe), .client (.loop .connected),
    .client (.loop (.helloAnswered (.ok [1, 3]))), .client (.loop .spawn), .client (.loop .spawn),
    .client (.loop .subscribeMain), .take 0, .take 1, .open 1 none,
    .open 0 (some (.tcp ⟨"10.3.3.3", 443⟩))]

theorem routing_agreement_interleaved :
    ∃ sys s t, run ⟨true, true, none⟩ interleavedRun = some sys ∧ sys.assignedIds.Nodup ∧
      sys.sessions[0]? = some s ∧ s.answer = some (.ok [1, 3]) ∧ s.tunnels[1]? = some t ∧
      (∃ d, lookupOpenConn sys.state ⟨3, none⟩ = .ok (t, d) ∧
        d.target = some (.tcp, ⟨"10.1.1.1", 80⟩)) ∧
      ∃ state, ClientSession.run forwardClient forwardSteps = some state ∧
        state.opened.map (·.2.tunnelId) = [3, 1] ∧ Connected forwardClient state s ∧
        HandlersAgree sys s forwardClient state := by
  have hrun := (Option.some_get
    (show (run ⟨true, true, none⟩ interleavedRun).isSome = true by decide +kernel)).symm
  have hclient := (Option.some_get
    (show (ClientSession.run forwardClient forwardSteps).isSome = true by decide +kernel)).symm
  have hagree := routing_agreement hrun (by decide +kernel)
  rcases (hagree.2.1 0 _ _ _ rfl rfl rfl).2 1 _ rfl with ⟨t, ht, _, _, _, _, _, hconn⟩
  cases ht
  have hresolved := (hconn none _ rfl).1 rfl ⟨by decide +kernel, by decide +kernel⟩
  refine ⟨_, _, _, hrun, hagree.1, rfl, rfl, rfl, hresolved, _, hclient, by decide +kernel,
    ?connected, hagree.2.2.1 0 _ _ _ _ rfl hclient ?connected⟩
  exact ⟨rfl, by decide +kernel⟩

end EndToEnd
end Rusnel
