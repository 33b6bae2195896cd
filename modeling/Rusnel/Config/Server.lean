import Rusnel.Foundation.ArgRules
import Rusnel.Foundation.Net
import Rusnel.Config.Tls

/-!
# The settings of the server

The settings of `rusnel server` come from the command line, from the `[server]`
section of a config file, and from built-in defaults, in this order.  They are
merged field by field; several fields together then decide one effective
setting: where the admin socket is, what is logged, which TLS mode is used.  The
rules between arguments are checked on the command line alone.

Main results:

- Theorem {lit}`value_eq_iff_yields`: which files leave a setting alone that was
  made on the command line.
- Theorem {lit}`explicit_flags_win_iff`: the same for two files.
-/

namespace Rusnel
namespace Config

open Net

/-! ## Settings -/

inductive CongestionArg where
  | cubic
  | bbr
deriving DecidableEq, Repr

/-- The congestion controller of a connection. -/
inductive Congestion where
  | cubic
  | bbr
deriving DecidableEq, Repr

def CongestionArg.toCongestion : CongestionArg → Congestion
  | .cubic => .cubic
  | .bbr => .bbr

/-- The congestion controller as a config file names it. -/
inductive CongestionStr where
  | cubic
  | bbr
deriving DecidableEq, Repr

def CongestionStr.toArg : CongestionStr → CongestionArg
  | .cubic => .cubic
  | .bbr => .bbr

inductive LogFormat where
  | compact
  | json
deriving DecidableEq, Repr

/-- The log format as a config file names it. -/
inductive LogFormatStr where
  | compact
  | json
deriving DecidableEq, Repr

def LogFormatStr.toFormat : LogFormatStr → LogFormat
  | .compact => .compact
  | .json => .json

/-- The `[server]` section of a config file. -/
structure ServerSection where
  host : Option IpAddr := none
  port : Option UInt16 := none
  allowReverse : Option Bool := none
  allowSocks : Option Bool := none
  insecure : Option Bool := none
  tlsSelfSigned : Option Bool := none
  tlsStateDir : Option PathBuf := none
  tlsCert : Option PathBuf := none
  tlsKey : Option PathBuf := none
  tlsCa : Option PathBuf := none
  congestion : Option CongestionStr := none
  maxConnections : Option Nat := none
  adminSocket : Option PathBuf := none
  noAdminSocket : Option Bool := none
  logFormat : Option LogFormatStr := none
  verbose : Option Bool := none
  debug : Option Bool := none
  quiet : Option Bool := none

/-- Every server setting, from the command line or merged. -/
structure ServerCli where
  host : IpAddr
  port : UInt16
  allowReverse : Bool
  allowSocks : Bool
  insecure : Bool
  tlsSelfSigned : Bool
  tlsStateDir : Option PathBuf
  tlsCert : Option PathBuf
  tlsKey : Option PathBuf
  tlsCa : Option PathBuf
  congestion : CongestionArg
  maxConnections : Nat
  adminSocket : Option PathBuf
  noAdminSocket : Bool
  isVerbose : Bool
  isDebug : Bool
  isQuiet : Bool
  logFormat : LogFormat

/-! ## The command line -/

/-- The arguments of server mode. -/
inductive ServerArg where
  | host
  | port
  | allowReverse
  | allowSocks
  | insecure
  | tlsSelfSigned
  | tlsStateDir
  | tlsCert
  | tlsKey
  | tlsCa
  | congestion
  | maxConnections
  | adminSocket
  | noAdminSocket
  | isVerbose
  | isDebug
  | isQuiet
  | logFormat
deriving DecidableEq, Repr

/-- What the arguments of server mode demand of each other. -/
def serverRules : ArgRules ServerArg where
  args := [.host, .port, .allowReverse, .allowSocks, .insecure, .tlsSelfSigned, .tlsStateDir,
    .tlsCert, .tlsKey, .tlsCa, .congestion, .maxConnections, .adminSocket, .noAdminSocket,
    .isVerbose, .isDebug, .isQuiet, .logFormat]
  complete a := by cases a <;> decide
  requires
    | .tlsStateDir => [.tlsSelfSigned]
    | .tlsCert => [.tlsKey]
    | .tlsKey => [.tlsCert]
    | .tlsCa => [.tlsCert]
    | _ => []
  conflicts
    | .tlsSelfSigned => [.insecure, .tlsCert, .tlsKey]
    | .tlsCert => [.insecure, .tlsSelfSigned]
    | .tlsCa => [.insecure, .tlsSelfSigned]
    | .adminSocket => [.noAdminSocket]
    | .isQuiet => [.isVerbose, .isDebug]
    | _ => []

/-- What was passed on the command line. -/
structure ServerFlags where
  host : Option IpAddr := none
  port : Option UInt16 := none
  allowReverse : Bool := false
  allowSocks : Bool := false
  insecure : Bool := false
  tlsSelfSigned : Bool := false
  tlsStateDir : Option PathBuf := none
  tlsCert : Option PathBuf := none
  tlsKey : Option PathBuf := none
  tlsCa : Option PathBuf := none
  congestion : Option CongestionArg := none
  maxConnections : Option Nat := none
  adminSocket : Option PathBuf := none
  noAdminSocket : Bool := false
  isVerbose : Bool := false
  isDebug : Bool := false
  isQuiet : Bool := false
  logFormat : Option LogFormat := none

/-- The argument was passed, rather than filled in with its default. -/
def ServerFlags.cliExplicit (flags : ServerFlags) : ServerArg → Bool
  | .host => flags.host.isSome
  | .port => flags.port.isSome
  | .allowReverse => flags.allowReverse
  | .allowSocks => flags.allowSocks
  | .insecure => flags.insecure
  | .tlsSelfSigned => flags.tlsSelfSigned
  | .tlsStateDir => flags.tlsStateDir.isSome
  | .tlsCert => flags.tlsCert.isSome
  | .tlsKey => flags.tlsKey.isSome
  | .tlsCa => flags.tlsCa.isSome
  | .congestion => flags.congestion.isSome
  | .maxConnections => flags.maxConnections.isSome
  | .adminSocket => flags.adminSocket.isSome
  | .noAdminSocket => flags.noAdminSocket
  | .isVerbose => flags.isVerbose
  | .isDebug => flags.isDebug
  | .isQuiet => flags.isQuiet
  | .logFormat => flags.logFormat.isSome

/-- The values of all arguments, with the defaults of those not passed. -/
def ServerFlags.cli (flags : ServerFlags) : ServerCli where
  host := flags.host.getD (.v4 ⟨0, 0, 0, 0⟩)
  port := flags.port.getD 8080
  allowReverse := flags.allowReverse
  allowSocks := flags.allowSocks
  insecure := flags.insecure
  tlsSelfSigned := flags.tlsSelfSigned
  tlsStateDir := flags.tlsStateDir
  tlsCert := flags.tlsCert
  tlsKey := flags.tlsKey
  tlsCa := flags.tlsCa
  congestion := flags.congestion.getD .cubic
  maxConnections := flags.maxConnections.getD 0
  adminSocket := flags.adminSocket
  noAdminSocket := flags.noAdminSocket
  isVerbose := flags.isVerbose
  isDebug := flags.isDebug
  isQuiet := flags.isQuiet
  logFormat := flags.logFormat.getD .compact

/-- A command line that keeps the rules. -/
structure ServerArgs where
  flags : ServerFlags
  accepted : serverRules.validate flags.cliExplicit = true

/-! ## Merging the file -/

/-- The file's value replaces a default, never a choice. -/
def pick {α : Type} (cliVal : α) (wasExplicit : Bool) (fileVal : Option α) : α :=
  if wasExplicit then cliVal else fileVal.getD cliVal

/-- Some TLS mode was chosen on the command line. -/
def ServerFlags.cliSetTls (flags : ServerFlags) : Bool :=
  flags.cliExplicit .insecure || flags.cliExplicit .tlsSelfSigned ||
    flags.cliExplicit .tlsCert || flags.cliExplicit .tlsKey || flags.cliExplicit .tlsCa

/-- Fill in from the file what the command line leaves open. -/
def mergeServerWithFile (cli : ServerCli) (file : Option ServerSection) (flags : ServerFlags) :
    ServerCli :=
  match file with
  | none => cli
  | some file =>
      let explicit := flags.cliExplicit
      let cliSetTls := flags.cliSetTls
      { host := pick cli.host (explicit .host) file.host
        port := pick cli.port (explicit .port) file.port
        allowReverse := pick cli.allowReverse (explicit .allowReverse) file.allowReverse
        allowSocks := pick cli.allowSocks (explicit .allowSocks) file.allowSocks
        insecure := if cliSetTls then cli.insecure else file.insecure.getD cli.insecure
        tlsSelfSigned :=
          if cliSetTls then cli.tlsSelfSigned else file.tlsSelfSigned.getD cli.tlsSelfSigned
        tlsStateDir := if cliSetTls then cli.tlsStateDir else file.tlsStateDir.or cli.tlsStateDir
        tlsCert := if cliSetTls then cli.tlsCert else file.tlsCert.or cli.tlsCert
        tlsKey := if cliSetTls then cli.tlsKey else file.tlsKey.or cli.tlsKey
        tlsCa := if cliSetTls then cli.tlsCa else file.tlsCa.or cli.tlsCa
        congestion := pick cli.congestion (explicit .congestion)
          (file.congestion.map CongestionStr.toArg)
        maxConnections := pick cli.maxConnections (explicit .maxConnections) file.maxConnections
        adminSocket := pick cli.adminSocket (explicit .adminSocket) (file.adminSocket.map some)
        noAdminSocket := pick cli.noAdminSocket (explicit .noAdminSocket) file.noAdminSocket
        isVerbose := pick cli.isVerbose (explicit .isVerbose) file.verbose
        isDebug := pick cli.isDebug (explicit .isDebug) file.debug
        isQuiet := pick cli.isQuiet (explicit .isQuiet) file.quiet
        logFormat := pick cli.logFormat (explicit .logFormat)
          (file.logFormat.map LogFormatStr.toFormat) }

/-- The settings of the command line and the file. -/
def ServerArgs.merged (args : ServerArgs) (file : Option ServerSection) : ServerCli :=
  mergeServerWithFile args.flags.cli file args.flags

/-- A switch that was passed or that the file turns on. -/
def switch (given : Bool) (file : Option ServerSection) (key : ServerSection → Option Bool) :
    Bool :=
  given || (file.bind key).getD false

theorem switch_eq_true_iff {given : Bool} {file : Option ServerSection}
    {key : ServerSection → Option Bool} :
    switch given file key = true ↔ given = true ∨ file.bind key = some true := by
  unfold switch
  cases file.bind key <;> simp

theorem pick_eq_switch (given : Bool) (file : ServerSection) (key : ServerSection → Option Bool) :
    pick given given (key file) = switch given (some file) key := by
  cases given <;> rfl

/-- The switches, merged. -/
theorem ServerArgs.merged_switches (args : ServerArgs) (file : Option ServerSection) :
    (args.merged file).allowReverse = switch args.flags.allowReverse file (·.allowReverse) ∧
      (args.merged file).allowSocks = switch args.flags.allowSocks file (·.allowSocks) ∧
      (args.merged file).noAdminSocket = switch args.flags.noAdminSocket file (·.noAdminSocket) ∧
      (args.merged file).isVerbose = switch args.flags.isVerbose file (·.verbose) ∧
      (args.merged file).isDebug = switch args.flags.isDebug file (·.debug) ∧
      (args.merged file).isQuiet = switch args.flags.isQuiet file (·.quiet) := by
  cases file with
  | none =>
      have hnone (given : Bool) (key : ServerSection → Option Bool) :
          given = switch given none key := (Bool.or_false given).symm
      exact ⟨hnone _ _, hnone _ _, hnone _ _, hnone _ _, hnone _ _, hnone _ _⟩
  | some file =>
      exact ⟨pick_eq_switch _ _ _, pick_eq_switch _ _ _, pick_eq_switch _ _ _,
        pick_eq_switch _ _ _, pick_eq_switch _ _ _, pick_eq_switch _ _ _⟩

/-! ## Starting the server -/

structure LoggingOpts where
  verbose : Bool
  debug : Bool
  quiet : Bool

/-- The filter that is used when `RUST_LOG` does not set one. -/
def LoggingOpts.defaultDirective (opts : LoggingOpts) : String :=
  if opts.debug then "rusnel=trace,info"
  else if opts.verbose then "rusnel=debug,info"
  else if opts.quiet then "rusnel=warn,warn"
  else "rusnel=info,warn"

/-- The filter the logger is started with. -/
def initLogging (env : Env) (opts : LoggingOpts) : String :=
  env.rustLog.getD opts.defaultDirective

/-- Where the admin socket is by default. -/
def defaultSocketPath (env : Env) : PathBuf :=
  match env.homeDir with
  | some home => env.join (env.join home ".rusnel") "admin.sock"
  | none => "/tmp/rusnel-admin-" ++ toString env.euid ++ ".sock"

structure ServerConfig where
  host : IpAddr
  port : UInt16
  allowReverse : Bool
  allowSocks : Bool
  tls : ServerTlsConfig
  congestion : Congestion
  maxConnections : Option Nat
  adminSocket : Option PathBuf

/-- What the server is started with.  Without a TLS mode it is not started. -/
structure ServerStart where
  filter : String
  logFormat : LogFormat
  host : IpAddr
  port : UInt16
  allowReverse : Bool
  allowSocks : Bool
  tls : Except String ServerTlsConfig
  congestion : Congestion
  maxConnections : Option Nat
  adminSocket : Option PathBuf

/-- Resolve the merged settings. -/
def ServerCli.start (env : Env) (embedded : Materialized) (cli : ServerCli) : ServerStart where
  filter := initLogging env ⟨cli.isVerbose, cli.isDebug, cli.isQuiet⟩
  logFormat := cli.logFormat
  host := cli.host
  port := cli.port
  allowReverse := cli.allowReverse
  allowSocks := cli.allowSocks
  tls := resolveServerTls env cli.insecure cli.tlsSelfSigned cli.tlsStateDir cli.tlsCert cli.tlsKey
    cli.tlsCa embedded
  congestion := cli.congestion.toCongestion
  maxConnections := if cli.maxConnections = 0 then none else some cli.maxConnections
  adminSocket :=
    if env.unix then
      if cli.noAdminSocket then none else some (cli.adminSocket.getD (defaultSocketPath env))
    else none

/-- The configuration the server runs with. -/
def ServerStart.config (start : ServerStart) : Except String ServerConfig :=
  start.tls.map fun tls =>
    { host := start.host
      port := start.port
      allowReverse := start.allowReverse
      allowSocks := start.allowSocks
      tls := tls
      congestion := start.congestion
      maxConnections := start.maxConnections
      adminSocket := start.adminSocket }

/-! ## Flags against files -/

/-- Flags that together decide one setting. -/
inductive Group where
  | adminSocket
  | logging
  | tls
  | host
  | port
  | allowReverse
  | allowSocks
  | congestion
  | maxConnections
  | logFormat
deriving DecidableEq, Repr

namespace Group

def args : Group → List ServerArg
  | .adminSocket => [.adminSocket, .noAdminSocket]
  | .logging => [.isVerbose, .isDebug, .isQuiet]
  | .tls => [.insecure, .tlsSelfSigned, .tlsCert, .tlsKey, .tlsCa]
  | .host => [.host]
  | .port => [.port]
  | .allowReverse => [.allowReverse]
  | .allowSocks => [.allowSocks]
  | .congestion => [.congestion]
  | .maxConnections => [.maxConnections]
  | .logFormat => [.logFormat]

/-- What the flags of a group decide. -/
def Value : Group → Type
  | .adminSocket => Option PathBuf
  | .logging => String
  | .tls => Except String ServerTlsConfig
  | .host => IpAddr
  | .port => UInt16
  | .allowReverse | .allowSocks => Bool
  | .congestion => Congestion
  | .maxConnections => Option Nat
  | .logFormat => LogFormat

end Group

def ServerStart.value (start : ServerStart) : (group : Group) → group.Value
  | .adminSocket => start.adminSocket
  | .logging => start.filter
  | .tls => start.tls
  | .host => start.host
  | .port => start.port
  | .allowReverse => start.allowReverse
  | .allowSocks => start.allowSocks
  | .congestion => start.congestion
  | .maxConnections => start.maxConnections
  | .logFormat => start.logFormat

/-- What the server is started with, given a file. -/
def ServerArgs.start (args : ServerArgs) (env : Env) (embedded : Materialized)
    (file : Option ServerSection) : ServerStart :=
  (args.merged file).start env embedded

/-- Some flag of the group was passed. -/
def ServerArgs.Sets (args : ServerArgs) (group : Group) : Prop :=
  ∃ arg ∈ group.args, args.flags.cliExplicit arg = true

/-- The file has no key that overrides the flags of the group: an admin socket that
was asked for is not switched off, and the log is not made more verbose. -/
def Yields (args : ServerArgs) (env : Env) (file : Option ServerSection) : Group → Prop
  | .adminSocket =>
      env.unix = true → args.flags.noAdminSocket = true ∨
        file.bind (·.noAdminSocket) ≠ some true
  | .logging =>
      env.rustLog.isSome ∨ args.flags.isDebug = true ∨
        file.bind (·.debug) ≠ some true ∧
          (args.flags.isVerbose = true ∨ file.bind (·.verbose) ≠ some true)
  | _ => True

section

variable {args : ServerArgs} {env : Env} {embedded : Materialized} {file : Option ServerSection}
  {group : Group}

theorem merged_adminSocket {path : PathBuf} (h : args.flags.adminSocket = some path) :
    (args.merged file).adminSocket = some path := by
  cases file with
  | none => exact h
  | some file => simp [ServerArgs.merged, mergeServerWithFile, ServerFlags.cliExplicit, h,
      ServerFlags.cli, pick]

/-- A file can switch off an admin socket that was asked for. -/
theorem adminSocket_eq_iff (h : args.Sets .adminSocket) :
    (args.start env embedded file).adminSocket = (args.start env embedded none).adminSocket ↔
      Yields args env file .adminSocket := by
  obtain ⟨-, -, hswitch, -⟩ := args.merged_switches file
  obtain ⟨-, -, hnone, -⟩ := args.merged_switches none
  simp only [ServerArgs.start, ServerCli.start, hswitch, hnone, switch, Yields]
  cases env.unix with
  | false => simp
  | true =>
      cases hno : args.flags.noAdminSocket with
      | true => simp
      | false =>
          -- Then it is `--admin-socket` that was passed.
          obtain ⟨path, hpath⟩ : ∃ path, args.flags.adminSocket = some path := by
            simpa [ServerArgs.Sets, Group.args, ServerFlags.cliExplicit, hno,
              Option.isSome_iff_exists] using h
          rw [merged_adminSocket hpath, merged_adminSocket hpath]
          cases file.bind (·.noAdminSocket) with
          | none => simp
          | some off => cases off <;> simp

/-- A file can make the log more verbose than was asked for. -/
theorem logging_eq_iff (h : args.Sets .logging) :
    (args.start env embedded file).filter = (args.start env embedded none).filter ↔
      Yields args env file .logging := by
  obtain ⟨-, -, -, hverbose, hdebug, hquiet⟩ := args.merged_switches file
  obtain ⟨-, -, -, hverbose', hdebug', hquiet'⟩ := args.merged_switches none
  simp only [ServerArgs.start, ServerCli.start, initLogging, LoggingOpts.defaultDirective, hverbose,
    hdebug, hquiet, hverbose', hdebug', hquiet', switch_eq_true_iff, Yields]
  cases env.rustLog with
  | some filter => simp
  | none =>
      by_cases hd : args.flags.isDebug = true
      · simp [hd]
      · by_cases hv : args.flags.isVerbose = true
        · by_cases hfile : file.bind (·.debug) = some true <;> simp [hd, hv, hfile]
        · -- Then it is `--quiet` that was passed.
          have hq : args.flags.isQuiet = true := by
            simpa [ServerArgs.Sets, Group.args, ServerFlags.cliExplicit, hd, hv] using h
          by_cases hfile : file.bind (·.debug) = some true
          · simp [hd, hv, hq, hfile]
          · by_cases hfile' : file.bind (·.verbose) = some true <;>
              simp [hd, hv, hq, hfile, hfile']

/-- A TLS mode chosen on the command line is what is resolved. -/
theorem tls_eq (h : args.Sets .tls) :
    (args.start env embedded file).tls = (args.start env embedded none).tls := by
  have hset : args.flags.cliSetTls = true := by
    simpa [ServerArgs.Sets, Group.args, ServerFlags.cliSetTls, or_assoc] using h
  cases file with
  | none => rfl
  | some file =>
      simp only [ServerArgs.start, ServerCli.start, ServerArgs.merged, mergeServerWithFile, hset,
        if_true]

/-- Which files leave a setting alone that was made on the command line. -/
theorem value_eq_iff_yields (h : args.Sets group) :
    (args.start env embedded file).value group = (args.start env embedded none).value group ↔
      Yields args env file group := by
  cases group with
  | adminSocket => exact adminSocket_eq_iff h
  | logging => exact logging_eq_iff h
  | tls => exact iff_of_true (tls_eq h) trivial
  | _ =>
      refine iff_of_true ?_ trivial
      cases file with
      | none => rfl
      | some file =>
          have hset := by simpa [ServerArgs.Sets, Group.args] using h
          simp only [ServerStart.value, ServerArgs.start, ServerCli.start, ServerArgs.merged,
            mergeServerWithFile, hset, pick, if_true]
          rfl

end

/-- A setting made on the command line is the same under two files and without a
file exactly if both files yield to it.  Flags of a single setting and of the TLS
mode always win. -/
theorem explicit_flags_win_iff (args : ServerArgs) (env : Env) (embedded : Materialized)
    (file₁ file₂ : Option ServerSection) (group : Group) (h : args.Sets group) :
    ((args.start env embedded file₁).value group = (args.start env embedded none).value group ∧
        (args.start env embedded file₂).value group =
          (args.start env embedded none).value group) ↔
      Yields args env file₁ group ∧ Yields args env file₂ group :=
  and_congr (value_eq_iff_yields h) (value_eq_iff_yields h)

/-- A unix system with a home directory. -/
def sampleEnv : Env where
  unix := true
  homeDir := some "/home/user"
  join base name := base ++ "/" ++ name
  euid := 1000
  rustLog := none

/-- `--admin-socket /run/rusnel.sock --quiet` -/
def quietArgs : ServerArgs where
  flags := { adminSocket := some "/run/rusnel.sock", isQuiet := true }
  accepted := by decide

/-- A file with another path and a file with another level yield to the flags. -/
theorem explicit_flags_win_quiet :
    (quietArgs.start sampleEnv .default (some { adminSocket := some "/tmp/a.sock" })).value
          .adminSocket =
        (quietArgs.start sampleEnv .default none).value .adminSocket ∧
      (quietArgs.start sampleEnv .default (some { quiet := some false })).value .adminSocket =
        (quietArgs.start sampleEnv .default none).value .adminSocket :=
  (explicit_flags_win_iff quietArgs sampleEnv .default _ _ .adminSocket
    ⟨.adminSocket, by decide, rfl⟩).mpr
    ⟨fun _ => .inr (by decide), fun _ => .inr (by decide)⟩

/-- A file with `no_admin_socket = true` and `debug = true` overrides both flags. -/
theorem explicit_flags_lose :
    quietArgs.Sets .adminSocket ∧ quietArgs.Sets .logging ∧
      (quietArgs.start sampleEnv .default none).adminSocket = some "/run/rusnel.sock" ∧
      (quietArgs.start sampleEnv .default
        (some { noAdminSocket := some true, debug := some true })).adminSocket = none ∧
      (quietArgs.start sampleEnv .default none).filter = "rusnel=warn,warn" ∧
      (quietArgs.start sampleEnv .default
        (some { noAdminSocket := some true, debug := some true })).filter =
          "rusnel=trace,info" :=
  ⟨⟨.adminSocket, by decide, rfl⟩, ⟨.isQuiet, by decide, rfl⟩, rfl, rfl, rfl, rfl⟩

end Config
end Rusnel
