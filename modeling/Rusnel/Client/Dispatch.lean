import Rusnel.Foundation.Table
import Rusnel.Common.Tunnel

/-!
# Conn dispatch on the client

After an accepted hello the client keeps its declared remotes under the ids the
server assigned.  A conn the server pushes is looked up there and resolved to
what the client is to connect to.

Main results:

- Theorem {lit}`remotesById_lookup`: with distinct ids each remote is found under
  its own id.
- Theorem {lit}`resolveReverseDispatch_eq_ok_iff`: which remotes and dynamic
  targets are dispatched.
-/

namespace Rusnel
namespace Client

/-- The declared remotes by assigned id. -/
def remotesById (tunnelIds : List UInt64) (remotes : List RemoteRequest) :
    AList fun _ : UInt64 => RemoteRequest :=
  Table.collect (tunnelIds.zip remotes)

/-- What the data-plane handler of a pushed conn will do, with the synthetic
request it is given. -/
inductive ReverseDispatch where
  | tcp (req : RemoteRequest)
  | udp (req : RemoteRequest)
deriving DecidableEq, Repr

/-- Resolve the target of a pushed conn.  Static tunnels carry it in their kind,
SOCKS5 tunnels take it from the opener. -/
def resolveReverseDispatch (parent : RemoteRequest) (dynamic : Option DynamicTarget) :
    Except String ReverseDispatch :=
  if parent.direction ≠ .reverse then
    .error ("server pushed conn on a forward tunnel (" ++ parent.display ++
      ") — protocol error")
  else
    match parent.kind, dynamic with
    | .tcp a remote, none => .ok (.tcp (.new .reverse (.tcp a remote)))
    | .udp a remote, none => .ok (.udp (.new .reverse (.udp a remote)))
    | .socks5 a, some (.tcp target) => .ok (.tcp (.new .reverse (.tcp a target)))
    | .socks5 a, some (.udp target) => .ok (.udp (.new .reverse (.udp a target)))
    | .socks5 _, none =>
        .error "server pushed reverse SOCKS5 conn without a dynamic target"
    | _, some _ =>
        .error "server pushed unexpected dynamic target on non-SOCKS reverse tunnel"

/-- Look a pushed opener up and resolve it; the error is the reason replied. -/
def acceptReverseConn (remotes : AList fun _ : UInt64 => RemoteRequest) (opener : OpenConn) :
    Except String ReverseDispatch :=
  match remotes.lookup opener.tunnelId with
  | none => .error ("unknown tunnel id " ++ toString opener.tunnelId)
  | some parent => resolveReverseDispatch parent opener.dynamic

/-- The protocol a dispatch serves and the address it connects to. -/
def ReverseDispatch.target : ReverseDispatch → Option (Protocol × HostPort)
  | .tcp ⟨_, .tcp _ remote, _⟩ => some (.tcp, remote)
  | .udp ⟨_, .udp _ remote, _⟩ => some (.udp, remote)
  | _ => none

/-- With distinct ids the remote at a position is found under the id at that
position. -/
theorem remotesById_lookup {tunnelIds : List UInt64} {remotes : List RemoteRequest}
    (hnodup : tunnelIds.Nodup) (hlen : tunnelIds.length = remotes.length) {i : Nat}
    {id : UInt64} {r : RemoteRequest} (hid : tunnelIds[i]? = some id)
    (hr : remotes[i]? = some r) : (remotesById tunnelIds remotes).lookup id = some r := by
  apply Table.collect_lookup
  · rwa [List.map_fst_zip hlen.le]
  · apply List.mem_of_getElem? (i := i)
    rw [List.getElem?_zip_eq_some]
    exact ⟨hid, hr⟩

/-- A pushed conn is dispatched exactly on a reverse remote whose kind fits the
dynamic field. -/
theorem resolveReverseDispatch_eq_ok_iff (parent : RemoteRequest)
    (dynamic : Option DynamicTarget) :
    (∃ d, resolveReverseDispatch parent dynamic = .ok d) ↔
      parent.direction = .reverse ∧ (connTarget parent.kind dynamic).isSome = true := by
  unfold resolveReverseDispatch
  cases hdir : parent.direction with
  | forward => simp
  | reverse =>
      rcases parent.kind with ⟨a, remote⟩ | ⟨a, remote⟩ | ⟨a⟩ <;>
        rcases dynamic with _ | ⟨target⟩ | ⟨target⟩ <;> simp [connTarget]

theorem resolveReverseDispatch_target {parent : RemoteRequest} {dynamic : Option DynamicTarget}
    {d : ReverseDispatch} (h : resolveReverseDispatch parent dynamic = .ok d) :
    d.target = connTarget parent.kind dynamic := by
  unfold resolveReverseDispatch at h
  split_ifs at h with hdir
  rcases hkind : parent.kind with ⟨a, remote⟩ | ⟨a, remote⟩ | ⟨a⟩ <;>
    rcases dynamic with _ | ⟨target⟩ | ⟨target⟩ <;> simp only [hkind] at h <;> cases h <;> rfl

end Client
end Rusnel
