import Rusnel.Common.RemoteParser
import Rusnel.Config.Server

/-!
# The settings of the client

The settings of `rusnel client` are merged like those of the server.  The server
address, the remotes and the proxy are texts in a config file and are parsed when
they are used; a text that does not parse ends the merge with an error.
-/

namespace Rusnel
namespace Config

open Net Text

/-! ## The server's address -/

/-- A server to connect to: its addresses, and its host as it was written. -/
structure ServerEndpoint where
  addrs : List SocketAddr
  host : String
deriving DecidableEq, Repr

def isIpv6 : SocketAddr → Bool
  | .v4 .. => false
  | .v6 .. => true

/-- Take from two lists in turn, and what is left of the longer one. -/
def takeTurns {α : Type} : List α → List α → List α
  | a :: primary, b :: alternate => a :: b :: takeTurns primary alternate
  | a :: primary, [] => a :: takeTurns primary []
  | [], b :: alternate => b :: takeTurns [] alternate
  | [], [] => []

/-- Order addresses such that the families alternate. -/
def interleaveAddressFamilies (resolved : List SocketAddr) : List SocketAddr :=
  let v4 := resolved.filter (!isIpv6 ·)
  let v6 := resolved.filter isIpv6
  if v6 ≠ [] ∧ v4 ≠ [] then takeTurns v6 v4 else takeTurns v4 v6

/-- The host of a `host:port` text. -/
def serverHost (s : String) : Except String (List Char) :=
  match s.toList with
  | '[' :: rest =>
      match splitOnce ']' rest with
      | some (inner, _) => .ok inner
      | none => .error ("malformed IPv6 address in `" ++ s ++ "` (missing `]`)")
  | text =>
      match rsplitOnce ':' text with
      | some (host, _) => .ok host
      | none => .error ("expected host:port in `" ++ s ++ "`")

/-- Parse a server address, with the resolver's answer or error. -/
def parseServerAddr (toSocketAddrs : String → Except String (List SocketAddr)) (s : String) :
    Except String ServerEndpoint := do
  let host ← serverHost s
  match toSocketAddrs s with
  | .error e => .error ("failed to resolve server address `" ++ s ++ "`: " ++ e)
  | .ok [] => .error ("no addresses found for server `" ++ s ++ "`")
  | .ok resolved => .ok ⟨interleaveAddressFamilies resolved, String.ofList host⟩

/-! ## Remotes and proxies -/

/-- Put an error into context. -/
def context {α : Type} (what : String) : Except Failure α → Except Failure α
  | .error (.err e) => .error (.err (what ++ e))
  | result => result

/-- Parse a remote specification. -/
def parseRemote (s : String) : Except Failure RemoteRequest :=
  context ("invalid remote `" ++ s ++ "`: ") (RemoteRequest.fromStr s)

/-- A proxy the connection is routed through. -/
inductive ProxyConfig where
  | socks5 (addr : String) (auth : Option (String × String))
deriving DecidableEq, Repr

/-- What follows the scheme of a proxy URL; a text without scheme is taken as it is. -/
def proxyAfterScheme (s : String) : Except String (List Char) :=
  match stripStart "socks5://".toList s.toList with
  | some rest => .ok rest
  | none =>
      match stripStart "socks://".toList s.toList with
      | some rest => .ok rest
      | none =>
          if occursIn "://".toList s.toList then
            .error ("unsupported proxy scheme in `" ++ s ++
              "`: only socks5:// is supported in this release")
          else .ok s.toList

/-- The credentials of a proxy URL and its address. -/
def proxyAuth (s : String) (afterScheme : List Char) :
    Except String (Option (String × String) × List Char) :=
  match rsplitOnce '@' afterScheme with
  | some (creds, addr) =>
      match splitOnce ':' creds with
      | some (user, pass) => .ok (some (String.ofList user, String.ofList pass), addr)
      | none =>
          .error ("malformed proxy auth in `" ++ s ++ "` (expected user:pass@host:port)")
  | none => .ok (none, afterScheme)

/-- Parse a proxy URL. -/
def ProxyConfig.fromStr (s : String) : Except String ProxyConfig := do
  let afterScheme ← proxyAfterScheme s
  let (auth, addr) ← proxyAuth s afterScheme
  if addr = [] then .error ("proxy address is empty in `" ++ s ++ "`")
  else if ':' ∉ addr then
    .error ("proxy address `" ++ String.ofList addr ++ "` is missing a port (expected host:port)")
  else .ok (.socks5 (String.ofList addr) auth)

def parseProxy (s : String) : Except String ProxyConfig :=
  ProxyConfig.fromStr s

/-! ## Settings -/

/-- The `[client]` section of a config file. -/
structure ClientSection where
  server : Option String := none
  remotes : Option (List String) := none
  insecure : Option Bool := none
  tlsFingerprint : Option String := none
  tlsCa : Option PathBuf := none
  tlsCert : Option PathBuf := none
  tlsKey : Option PathBuf := none
  tlsServerName : Option String := none
  congestion : Option CongestionStr := none
  maxRetryCount : Option Int := none
  /-- In seconds. -/
  maxRetryInterval : Option Nat := none
  proxy : Option String := none
  logFormat : Option LogFormatStr := none
  verbose : Option Bool := none
  debug : Option Bool := none
  quiet : Option Bool := none

/-- Every client setting, from the command line or merged. -/
structure ClientCli where
  server : Option ServerEndpoint
  remotes : List RemoteRequest
  insecure : Bool
  tlsFingerprint : Option String
  tlsCa : Option PathBuf
  tlsCert : Option PathBuf
  tlsKey : Option PathBuf
  tlsServerName : Option String
  congestion : CongestionArg
  maxRetryCount : Int
  /-- In seconds. -/
  maxRetryInterval : Nat
  proxy : Option ProxyConfig
  isVerbose : Bool
  isDebug : Bool
  isQuiet : Bool
  logFormat : LogFormat

/-- The arguments of client mode. -/
inductive ClientArg where
  | server
  | remote
  | insecure
  | tlsFingerprint
  | tlsCa
  | tlsCert
  | tlsKey
  | tlsServerName
  | congestion
  | maxRetryCount
  | maxRetryInterval
  | proxy
  | isVerbose
  | isDebug
  | isQuiet
  | logFormat
deriving DecidableEq, Repr

/-- What the arguments of client mode demand of each other. -/
def clientRules : ArgRules ClientArg where
  args := [.server, .remote, .insecure, .tlsFingerprint, .tlsCa, .tlsCert, .tlsKey, .tlsServerName,
    .congestion, .maxRetryCount, .maxRetryInterval, .proxy, .isVerbose, .isDebug, .isQuiet,
    .logFormat]
  complete a := by cases a <;> decide
  requires
    | .tlsCert => [.tlsKey, .tlsCa]
    | .tlsKey => [.tlsCert, .tlsCa]
    | _ => []
  conflicts
    | .tlsFingerprint => [.insecure, .tlsCa]
    | .tlsCa => [.insecure]
    | .isQuiet => [.isVerbose, .isDebug]
    | _ => []

/-- What was passed on the command line. -/
structure ClientFlags where
  server : Option ServerEndpoint := none
  remotes : List RemoteRequest := []
  insecure : Bool := false
  tlsFingerprint : Option String := none
  tlsCa : Option PathBuf := none
  tlsCert : Option PathBuf := none
  tlsKey : Option PathBuf := none
  tlsServerName : Option String := none
  congestion : Option CongestionArg := none
  maxRetryCount : Option Int := none
  maxRetryInterval : Option Nat := none
  proxy : Option ProxyConfig := none
  isVerbose : Bool := false
  isDebug : Bool := false
  isQuiet : Bool := false
  logFormat : Option LogFormat := none

/-- The argument was passed, rather than filled in with its default. -/
def ClientFlags.cliExplicit (flags : ClientFlags) : ClientArg → Bool
  | .server => flags.server.isSome
  | .remote => !flags.remotes.isEmpty
  | .insecure => flags.insecure
  | .tlsFingerprint => flags.tlsFingerprint.isSome
  | .tlsCa => flags.tlsCa.isSome
  | .tlsCert => flags.tlsCert.isSome
  | .tlsKey => flags.tlsKey.isSome
  | .tlsServerName => flags.tlsServerName.isSome
  | .congestion => flags.congestion.isSome
  | .maxRetryCount => flags.maxRetryCount.isSome
  | .maxRetryInterval => flags.maxRetryInterval.isSome
  | .proxy => flags.proxy.isSome
  | .isVerbose => flags.isVerbose
  | .isDebug => flags.isDebug
  | .isQuiet => flags.isQuiet
  | .logFormat => flags.logFormat.isSome

/-- The values of all arguments, with the defaults of those not passed. -/
def ClientFlags.cli (flags : ClientFlags) : ClientCli where
  server := flags.server
  remotes := flags.remotes
  insecure := flags.insecure
  tlsFingerprint := flags.tlsFingerprint
  tlsCa := flags.tlsCa
  tlsCert := flags.tlsCert
  tlsKey := flags.tlsKey
  tlsServerName := flags.tlsServerName
  congestion := flags.congestion.getD .cubic
  maxRetryCount := flags.maxRetryCount.getD (-1)
  maxRetryInterval := flags.maxRetryInterval.getD 300
  proxy := flags.proxy
  isVerbose := flags.isVerbose
  isDebug := flags.isDebug
  isQuiet := flags.isQuiet
  logFormat := flags.logFormat.getD .compact

/-- A command line that keeps the rules. -/
structure ClientArgs where
  flags : ClientFlags
  accepted : clientRules.validate flags.cliExplicit = true

/-! ## Merging the file -/

/-- Some TLS mode was chosen on the command line. -/
def ClientFlags.cliSetTls (flags : ClientFlags) : Bool :=
  flags.cliExplicit .insecure || flags.cliExplicit .tlsFingerprint ||
    flags.cliExplicit .tlsCa || flags.cliExplicit .tlsCert || flags.cliExplicit .tlsKey

/-- The server of the command line, or else the one of the file. -/
def mergeServer (toSocketAddrs : String → Except String (List SocketAddr))
    (cli : Option ServerEndpoint) (file : Option String) : Except Failure (Option ServerEndpoint) :=
  match cli, file with
  | some server, _ => .ok (some server)
  | none, some s =>
      match parseServerAddr toSocketAddrs s with
      | .ok server => .ok (some server)
      | .error e => .error (.err ("[client].server in config file: " ++ e))
  | none, none => .ok none

/-- The remotes of the command line, or else those of the file. -/
def mergeRemotes (cli : List RemoteRequest) (file : Option (List String)) :
    Except Failure (List RemoteRequest) :=
  if cli = [] then
    match file with
    | some list =>
        list.mapM fun r =>
          context ("[client].remotes entry `" ++ r ++ "` in config file: ") (parseRemote r)
    | none => .ok []
  else .ok cli

/-- The proxy of the command line, or else the one of the file. -/
def mergeProxy (cli : Option ProxyConfig) (wasExplicit : Bool) (file : Option String) :
    Except Failure (Option ProxyConfig) :=
  if wasExplicit then .ok cli
  else
    match file with
    | some s =>
        match parseProxy s with
        | .ok proxy => .ok (some proxy)
        | .error e => .error (.err ("[client].proxy in config file: " ++ e))
    | none => .ok cli

/-- Fill in from the file what the command line leaves open. -/
def mergeClientWithFile (toSocketAddrs : String → Except String (List SocketAddr))
    (cli : ClientCli) (file : Option ClientSection) (flags : ClientFlags) :
    Except Failure ClientCli :=
  match file with
  | none => .ok cli
  | some file => do
      let explicit := flags.cliExplicit
      let cliSetTls := flags.cliSetTls
      let server ← mergeServer toSocketAddrs cli.server file.server
      let remotes ← mergeRemotes cli.remotes file.remotes
      let proxy ← mergeProxy cli.proxy (explicit .proxy) file.proxy
      .ok
        { server := server
          remotes := remotes
          insecure := if cliSetTls then cli.insecure else file.insecure.getD cli.insecure
          tlsFingerprint :=
            if cliSetTls then cli.tlsFingerprint else file.tlsFingerprint.or cli.tlsFingerprint
          tlsCa := if cliSetTls then cli.tlsCa else file.tlsCa.or cli.tlsCa
          tlsCert := if cliSetTls then cli.tlsCert else file.tlsCert.or cli.tlsCert
          tlsKey := if cliSetTls then cli.tlsKey else file.tlsKey.or cli.tlsKey
          tlsServerName :=
            pick cli.tlsServerName (explicit .tlsServerName) (file.tlsServerName.map some)
          congestion := pick cli.congestion (explicit .congestion)
            (file.congestion.map CongestionStr.toArg)
          maxRetryCount := pick cli.maxRetryCount (explicit .maxRetryCount) file.maxRetryCount
          maxRetryInterval :=
            if explicit .maxRetryInterval then cli.maxRetryInterval
            else file.maxRetryInterval.getD cli.maxRetryInterval
          proxy := proxy
          isVerbose := pick cli.isVerbose (explicit .isVerbose) file.verbose
          isDebug := pick cli.isDebug (explicit .isDebug) file.debug
          isQuiet := pick cli.isQuiet (explicit .isQuiet) file.quiet
          logFormat := pick cli.logFormat (explicit .logFormat)
            (file.logFormat.map LogFormatStr.toFormat) }

/-- The settings of the command line and the file. -/
def ClientArgs.merged (args : ClientArgs)
    (toSocketAddrs : String → Except String (List SocketAddr)) (file : Option ClientSection) :
    Except Failure ClientCli :=
  mergeClientWithFile toSocketAddrs args.flags.cli file args.flags

end Config
end Rusnel
