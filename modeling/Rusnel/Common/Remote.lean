import Rusnel.Foundation.Net

/-!
# Tunnel declarations and control messages

The data model both ends share: what a `--remote` flag declares, and the
messages of the control plane (session hello, conn opener and their replies).
-/

namespace Rusnel

open Net

/-- Wire-level protocol selector. -/
inductive Protocol where
  | tcp
  | udp
deriving DecidableEq, Repr

/-- Direction of a tunnel relative to the initiating client. -/
inductive Direction where
  | forward
  | reverse
deriving DecidableEq, Repr

/-- A `host:port` pair as typed, before any name resolution. -/
structure HostPort where
  host : String
  port : UInt16
deriving DecidableEq, Repr

/-- Render as `host:port`, bracketing IPv6 literals. -/
def HostPort.toAddrString (hp : HostPort) : String :=
  if (parseIpv6 hp.host.toList).isSome then
    "[" ++ hp.host ++ "]:" ++ toString hp.port
  else
    hp.host ++ ":" ++ toString hp.port

/-- What a remote represents: the listening address, and the static target if
there is one.  A SOCKS5 tunnel has no static target. -/
inductive RemoteKind where
  | tcp (localAddr : SocketAddr) (remote : HostPort)
  | udp (localAddr : SocketAddr) (remote : HostPort)
  | socks5 (localAddr : SocketAddr)
deriving DecidableEq, Repr

namespace RemoteKind

/-- The address the listening side binds. -/
def localAddr : RemoteKind → SocketAddr
  | .tcp a _ | .udp a _ | .socks5 a => a

/-- The protocol of a static tunnel. -/
def protocol : RemoteKind → Option Protocol
  | .tcp _ _ => some .tcp
  | .udp _ _ => some .udp
  | .socks5 _ => none

end RemoteKind

/-- One tunnel declaration. -/
structure RemoteRequest where
  direction : Direction
  kind : RemoteKind
  /-- The client pipes its own stdin and stdout instead of binding a listener. -/
  stdio : Bool
deriving DecidableEq, Repr

namespace RemoteRequest

/-- A declaration without the stdio flag. -/
def new (direction : Direction) (kind : RemoteKind) : RemoteRequest :=
  { direction := direction, kind := kind, stdio := false }

/-- The remote is a SOCKS5 listener declaration. -/
def isSocks (r : RemoteRequest) : Bool :=
  match r.kind with
  | .socks5 _ => true
  | _ => false

/-- The remote listens on the server. -/
def isReversed (r : RemoteRequest) : Bool :=
  r.direction == .reverse

/-- `remote_host:remote_port`, absent for SOCKS5 remotes. -/
def remoteAddrString (r : RemoteRequest) : Option String :=
  match r.kind with
  | .tcp _ remote | .udp _ remote => some remote.toAddrString
  | .socks5 _ => none

/-- The spec text shown to operators, e.g. `R:5000=>socks`. -/
def display (r : RemoteRequest) : String :=
  (if r.isReversed then "R:" else "") ++
    if r.stdio then
      match r.kind with
      | .tcp _ remote => "stdio=>" ++ remote.toAddrString ++ "/tcp"
      | .udp _ remote => "stdio=>" ++ remote.toAddrString ++ "/udp"
      | .socks5 _ => "stdio=>socks"
    else
      match r.kind with
      | .socks5 a => toString a.port ++ "=>socks"
      | .tcp a remote => toString a.port ++ "=>" ++ remote.toAddrString ++ "/tcp"
      | .udp a remote => toString a.port ++ "=>" ++ remote.toAddrString ++ "/udp"

end RemoteRequest

/-! ## Control messages -/

/-- First control frame of a session: every tunnel the client wants. -/
structure SessionHello where
  remotes : List RemoteRequest
deriving DecidableEq, Repr

/-- The server's verdict on a hello; on success one id per declared remote, in
the same order. -/
inductive SessionHelloResponse where
  | ok (tunnelIds : List UInt64)
  | failed (reason : String)
deriving DecidableEq, Repr

/-- The per-conn target a SOCKS5 handshake resolved. -/
inductive DynamicTarget where
  | tcp (target : HostPort)
  | udp (target : HostPort)
deriving DecidableEq, Repr

namespace DynamicTarget

/-- The protocol of the announced target. -/
def protocol : DynamicTarget → Protocol
  | .tcp _ => .tcp
  | .udp _ => .udp

/-- The announced host and port. -/
def target : DynamicTarget → HostPort
  | .tcp target | .udp target => target

end DynamicTarget

/-- Opener of every data-plane stream. -/
structure OpenConn where
  tunnelId : UInt64
  dynamic : Option DynamicTarget
deriving DecidableEq, Repr

/-- Reply to an {lit}`OpenConn`. -/
inductive OpenConnResponse where
  | ok
  | failed (reason : String)
deriving DecidableEq, Repr

/-! ## What a conn is for -/

/-- The purpose of a conn on a tunnel of some kind, given its opener's dynamic
field: the protocol and address to connect to, or nothing if the two do not
fit.  Both sides' dispatchers are measured against it. -/
def connTarget : RemoteKind → Option DynamicTarget → Option (Protocol × HostPort)
  | .tcp _ remote, none => some (.tcp, remote)
  | .udp _ remote, none => some (.udp, remote)
  | .socks5 _, some dyn => some (dyn.protocol, dyn.target)
  | _, _ => none

end Rusnel
