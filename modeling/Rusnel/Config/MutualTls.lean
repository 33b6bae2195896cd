import Rusnel.Config.Client

/-!
# Mutual TLS from the settings

With mutual TLS the server accepts only clients whose certificate is chained to
its CA, and the client presents a certificate.  The server's command line cannot
ask for it and for something else at once; the client's can, and so can a config
file, and then the mode that is tried first is used without a word.

Main results:

- Theorem {lit}`server_flags_keep_ca`: a CA given on the server's command line is
  enforced.
- Theorem {lit}`mutual_tls_kept_iff`: when merged settings that contain a CA, or
  a client certificate or key, lead to mutual TLS with them.
-/

namespace Rusnel
namespace Config

open Net Text

/-- The TLS mode of the client. -/
def ClientCli.tls (cli : ClientCli) (embedded : Materialized)
    (embedServerName embedFingerprint : Option String) : Except Failure ClientTlsConfig :=
  resolveClientTls cli.insecure cli.tlsFingerprint cli.tlsCa cli.tlsCert cli.tlsKey
    cli.tlsServerName embedded embedServerName embedFingerprint

/-! ## The server's command line -/

/-- Merged settings lead to mutual TLS with the CA, or with the certificate and
the key, that they contain, or to none, exactly if no other mode is tried before
and nothing that goes with them is missing. -/
theorem mutual_tls_kept_iff (env : Env) (embedded : Materialized)
    (embedServerName embedFingerprint : Option String)
    (toSocketAddrs : String → Except String (List SocketAddr)) :
    (∀ (args : ServerArgs) (file : Option ServerSection) (cli : ServerCli) (ca : PathBuf),
      args.merged file = cli → cli.tlsCa = some ca →
        (KeepsCa ca (cli.start env embedded).tls ↔
          ServerMutual env cli.insecure cli.tlsSelfSigned cli.tlsStateDir cli.tlsCert cli.tlsKey ca
            embedded)) ∧
    ∀ (args : ClientArgs) (file : Option ClientSection) (cli : ClientCli),
      args.merged toSocketAddrs file = .ok cli → cli.tlsCert.isSome ∨ cli.tlsKey.isSome →
        (KeepsIdentity cli.tlsCert cli.tlsKey (cli.tls embedded embedServerName embedFingerprint) ↔
          ClientMutual cli.insecure cli.tlsFingerprint cli.tlsCa cli.tlsCert cli.tlsKey embedded
            embedFingerprint) := by
  constructor
  · intro args file cli ca _ hca
    rw [ServerCli.start, hca]
    exact resolveServerTls_keepsCa_iff ..
  · intro args file cli _ _
    exact resolveClientTls_keepsIdentity_iff ..

/-- A server and a client with all three files use mutual TLS. -/
theorem mutual_tls_kept_complete :
    (∃ cli, ServerArgs.merged ⟨{}, by decide⟩ (some
        { tlsCa := some "ca.pem", tlsCert := some "server.pem", tlsKey := some "server.key" })
          = cli ∧
      KeepsCa "ca.pem" (cli.start sampleEnv .default).tls) ∧
    ∃ cli, ClientArgs.merged ⟨{}, by decide⟩ (fun _ => .ok []) (some
        { tlsCa := some "ca.pem", tlsCert := some "client.pem", tlsKey := some "client.key" })
          = .ok cli ∧
      KeepsIdentity cli.tlsCert cli.tlsKey (cli.tls .default none none) := by
  obtain ⟨hserver, hclient⟩ :=
    mutual_tls_kept_iff sampleEnv .default none none fun _ => .ok []
  constructor
  · refine ⟨_, rfl, (hserver _ _ _ "ca.pem" rfl rfl).mpr ?_⟩
    exact ⟨rfl, nofun, fun _ => .inl ⟨rfl, rfl⟩⟩
  · have hmerged : ClientArgs.merged ⟨{}, by decide⟩ (fun _ => .ok []) (some
        { tlsCa := some "ca.pem", tlsCert := some "client.pem", tlsKey := some "client.key" })
          = .ok _ := rfl
    refine ⟨_, hmerged, (hclient _ _ _ hmerged (.inl rfl)).mpr ?_⟩
    exact ⟨rfl, nofun, fun _ _ => ⟨rfl, rfl⟩, nofun⟩

/-- A server that is to be self-signed and to authenticate its clients, and a
client with a certificate but no key: neither uses mutual TLS. -/
theorem mutual_tls_lost :
    (∃ cli, ServerArgs.merged ⟨{}, by decide⟩
        (some { tlsSelfSigned := some true, tlsCa := some "ca.pem" }) = cli ∧
      cli.tlsCa = some "ca.pem" ∧
      (cli.start sampleEnv .default).tls = .ok (.selfSigned "/home/user/.rusnel")) ∧
    ∃ cli, ClientArgs.merged ⟨{}, by decide⟩ (fun _ => .ok [])
        (some { tlsCa := some "ca.pem", tlsCert := some "client.pem" }) = .ok cli ∧
      cli.tlsCert = some "client.pem" ∧
      cli.tls .default none none = .ok (.ca "ca.pem" none) :=
  ⟨⟨_, rfl, rfl, rfl⟩, _, rfl, rfl, rfl⟩

end Config
end Rusnel
