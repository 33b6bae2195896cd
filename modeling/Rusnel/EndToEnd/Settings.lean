import Rusnel.Config.Server
import Rusnel.Server.Policy

/-!
# From the settings to what the server does

The access flags reach the running server through the merged settings.  A client
gets a reverse tunnel, or a SOCKS5 tunnel, only from an operator who allowed it
on the command line or in the config file.

Main results:

- Theorem {lit}`tunnels_asked_for`: every tunnel of the registry, in every run of
  a server started from the settings, was allowed by a flag or a key of the file.
-/

namespace Rusnel
namespace EndToEnd

open Config

/-- The part of the configuration that sessions are checked against. -/
def access (config : Config.ServerConfig) : Server.ServerConfig where
  allowReverse := config.allowReverse
  allowSocks := config.allowSocks
  maxConnections := config.maxConnections

/-- The access flags of a server that starts are the merged ones. -/
theorem access_of_config {args : ServerArgs} {env : Env} {embedded : Materialized}
    {file : Option ServerSection} {config : Config.ServerConfig}
    (hconfig : (args.start env embedded file).config = .ok config) :
    (access config).allowReverse = switch args.flags.allowReverse file (·.allowReverse) ∧
      (access config).allowSocks = switch args.flags.allowSocks file (·.allowSocks) := by
  obtain ⟨hreverse, hsocks, -⟩ := args.merged_switches file
  unfold ServerStart.config at hconfig
  cases htls : (args.start env embedded file).tls with
  | error e =>
      rw [htls] at hconfig
      cases hconfig
  | ok tls =>
      rw [htls] at hconfig
      cases hconfig
      exact ⟨hreverse, hsocks⟩

/-- Every tunnel that is ever registered was asked for by the operator. -/
theorem tunnels_asked_for {args : ServerArgs} {env : Env} {embedded : Materialized}
    {file : Option ServerSection} {config : Config.ServerConfig}
    (hconfig : (args.start env embedded file).config = .ok config)
    {acts : List Server.Action} {sys : Server.System}
    (hrun : Server.run (access config) acts = some sys) {id : UInt64} {t : Server.TunnelEntry}
    (ht : sys.state.tunnel id = some t) :
    (t.direction = .reverse →
        args.flags.allowReverse = true ∨ file.bind (·.allowReverse) = some true) ∧
      ((∃ a, t.kind = .socks5 a) →
        args.flags.allowSocks = true ∨ file.bind (·.allowSocks) = some true) := by
  obtain ⟨hreverse, hsocks⟩ := access_of_config hconfig
  have hpermitted := (Server.run_lawful hrun).index_permitted ht
  constructor
  · intro hdirection
    rw [← switch_eq_true_iff, ← hreverse]
    exact hpermitted.1 hdirection
  · intro hkind
    rw [← switch_eq_true_iff, ← hsocks]
    exact hpermitted.2 hkind

end EndToEnd
end Rusnel
