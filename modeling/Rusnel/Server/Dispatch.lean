import Rusnel.Server.State

/-!
# Hello validation and conn dispatch on the server

The two decisions the server takes about what a client asks for: whether a
hello may be accepted under the server's flags, and what a conn opened on a
registered tunnel is to be connected to.

Main results:

- Theorem {lit}`validateRemotes_eq_ok_iff`: a hello passes exactly when every
  remote is permitted.
- Theorem {lit}`resolveDispatch_eq_ok_iff`: which tunnels and dynamic targets
  are dispatched, and to what.
-/

namespace Rusnel
namespace Server

/-- The access flags and the connection cap of a server. -/
structure ServerConfig where
  allowReverse : Bool
  allowSocks : Bool
  maxConnections : Option Nat
deriving DecidableEq, Repr

/-- The access policy on one tunnel: reverse tunnels and SOCKS5 tunnels each
need their flag. -/
def Permitted (cfg : ServerConfig) (direction : Direction) (kind : RemoteKind) : Prop :=
  (direction = .reverse → cfg.allowReverse = true) ∧
    ((∃ a, kind = .socks5 a) → cfg.allowSocks = true)

/-- Check a hello batch, returning the first offending reason. -/
def validateRemotes (cfg : ServerConfig) : List RemoteRequest → Except String Unit
  | [] => .ok ()
  | r :: remotes =>
      if r.isReversed && !cfg.allowReverse then
        .error ("Reverse remotes are not allowed (" ++ r.display ++ ")")
      else if r.isSocks && !cfg.allowSocks then
        .error ("SOCKS5 remotes are not allowed (" ++ r.display ++ ")")
      else validateRemotes cfg remotes

theorem isSocks_eq_true_iff (r : RemoteRequest) :
    r.isSocks = true ↔ ∃ a, r.kind = .socks5 a := by
  unfold RemoteRequest.isSocks
  cases r.kind <;> simp

theorem isReversed_eq_true_iff (r : RemoteRequest) :
    r.isReversed = true ↔ r.direction = .reverse := by
  simp [RemoteRequest.isReversed]

/-- A hello passes validation exactly when every remote is permitted. -/
theorem validateRemotes_eq_ok_iff (cfg : ServerConfig) (remotes : List RemoteRequest) :
    validateRemotes cfg remotes = .ok () ↔
      ∀ r ∈ remotes, Permitted cfg r.direction r.kind := by
  induction remotes with
  | nil => simp [validateRemotes]
  | cons r remotes ih =>
      have hone : Permitted cfg r.direction r.kind ↔
          ¬(r.isReversed && !cfg.allowReverse) = true ∧
            ¬(r.isSocks && !cfg.allowSocks) = true := by
        rw [Permitted, ← isReversed_eq_true_iff, ← isSocks_eq_true_iff]
        cases r.isReversed <;> cases r.isSocks <;> simp
      rw [List.forall_mem_cons, ← ih, hone]
      rw [validateRemotes]
      split_ifs with hrev hsocks
      · simp [hrev]
      · simp [hsocks]
      · exact ⟨fun hrest => ⟨⟨hrev, hsocks⟩, hrest⟩, fun hall => hall.2⟩

/-- What the data-plane handler of an accepted conn will do, with the synthetic
request it is given. -/
inductive ForwardDispatch where
  | tcp (req : RemoteRequest)
  | udp (req : RemoteRequest)
deriving DecidableEq, Repr

namespace ForwardDispatch

/-- The synthetic request. -/
def request : ForwardDispatch → RemoteRequest
  | .tcp req | .udp req => req

/-- The label of the conn in the registry. -/
def peerLabel (d : ForwardDispatch) : Option String :=
  d.request.remoteAddrString

end ForwardDispatch

/-- Resolve the target of a conn.  Static tunnels carry it in their kind,
SOCKS5 tunnels take it from the opener. -/
def resolveDispatch (tunnel : TunnelEntry) (dynamic : Option DynamicTarget) :
    Except String ForwardDispatch :=
  if tunnel.direction ≠ .forward then
    .error ("OpenConn on reverse tunnel " ++ toString tunnel.id ++
      " (server pushes reverse conns, not the client)")
  else
    match tunnel.kind, dynamic with
    | .tcp a remote, none => .ok (.tcp (.new .forward (.tcp a remote)))
    | .udp a remote, none => .ok (.udp (.new .forward (.udp a remote)))
    | .socks5 a, some (.tcp target) => .ok (.tcp (.new .forward (.tcp a target)))
    | .socks5 a, some (.udp target) => .ok (.udp (.new .forward (.udp a target)))
    | .socks5 _, none =>
        .error ("OpenConn on SOCKS5 tunnel " ++ toString tunnel.id ++
          " requires a `dynamic` target")
    | _, some _ =>
        .error ("OpenConn on tunnel " ++ toString tunnel.id ++
          " carried unexpected dynamic target")

/-- The protocol a dispatch serves and the address it connects to. -/
def ForwardDispatch.target : ForwardDispatch → Option (Protocol × HostPort)
  | .tcp ⟨_, .tcp _ remote, _⟩ => some (.tcp, remote)
  | .udp ⟨_, .udp _ remote, _⟩ => some (.udp, remote)
  | _ => none

/-- A conn is dispatched exactly on a forward tunnel whose kind fits the
dynamic field, and then to the target the two determine. -/
theorem resolveDispatch_eq_ok_iff (tunnel : TunnelEntry) (dynamic : Option DynamicTarget) :
    (∃ d, resolveDispatch tunnel dynamic = .ok d) ↔
      tunnel.direction = .forward ∧ (connTarget tunnel.kind dynamic).isSome = true := by
  unfold resolveDispatch
  cases hdir : tunnel.direction with
  | reverse => simp
  | forward =>
      rcases tunnel.kind with ⟨a, remote⟩ | ⟨a, remote⟩ | ⟨a⟩ <;>
        rcases dynamic with _ | ⟨target⟩ | ⟨target⟩ <;> simp [connTarget]

theorem resolveDispatch_target {tunnel : TunnelEntry} {dynamic : Option DynamicTarget}
    {d : ForwardDispatch} (h : resolveDispatch tunnel dynamic = .ok d) :
    d.target = connTarget tunnel.kind dynamic := by
  unfold resolveDispatch at h
  split_ifs at h with hdir
  rcases hkind : tunnel.kind with ⟨a, remote⟩ | ⟨a, remote⟩ | ⟨a⟩ <;>
    rcases dynamic with _ | ⟨target⟩ | ⟨target⟩ <;> simp only [hkind] at h <;> cases h <;> rfl

end Server
end Rusnel
