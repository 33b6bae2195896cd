import Mathlib.Tactic.MkIffOfInductiveProp
import Rusnel.Foundation.Text

/-!
# The choice of a TLS mode

Both sides choose their TLS mode from the settings of the command line and the
config file and, if these leave it open, from credentials that were embedded
when the binary was built.  The settings are tried in a fixed order, and the
first that applies decides; the settings behind it are not looked at.

Main results:

- Theorem {lit}`resolveServerTls_keepsCa_iff`: when a server that is given a CA
  authenticates its clients against it.
- Theorem {lit}`resolveClientTls_keepsIdentity_iff`: when a client that is given
  a certificate or a key presents them.
-/

namespace Rusnel
namespace Config

open Text

/-- A path of the file system. -/
abbrev PathBuf := String

/-- What the process finds around it. -/
structure Env where
  /-- The platform has unix domain sockets. -/
  unix : Bool
  homeDir : Option PathBuf
  /-- Joining a path and a name. -/
  join : PathBuf → String → PathBuf
  euid : Nat
  /-- The value of `RUST_LOG`, if it is set and a valid filter. -/
  rustLog : Option String

/-! ## Modes -/

/-- How the server identifies itself and authenticates its clients. -/
inductive ServerTlsConfig where
  /-- An ephemeral certificate; any client is accepted. -/
  | insecure
  /-- A self-signed certificate that is kept; any client is accepted. -/
  | selfSigned (stateDir : PathBuf)
  /-- The given certificate; any client is accepted. -/
  | provided (cert key : PathBuf)
  /-- Clients present a certificate chained to the CA. -/
  | mtls (cert key ca : PathBuf)
deriving DecidableEq, Repr

/-- How the client verifies the server and authenticates itself. -/
inductive ClientTlsConfig where
  /-- The server is not verified. -/
  | insecure
  /-- The server's certificate is pinned. -/
  | fingerprint (sha256 : List UInt8) (serverName : Option String)
  /-- The server is verified against a CA. -/
  | ca (ca : PathBuf) (serverName : Option String)
  /-- The server is verified against a CA, and a certificate presented. -/
  | mtls (ca cert key : PathBuf) (serverName : Option String)
deriving DecidableEq, Repr

/-- Where the credentials of the build were written. -/
structure Materialized where
  ca : Option PathBuf
  serverCert : Option PathBuf
  serverKey : Option PathBuf
  clientCert : Option PathBuf
  clientKey : Option PathBuf
deriving DecidableEq, Repr

/-- A build without embedded credentials. -/
def Materialized.default : Materialized where
  ca := none
  serverCert := none
  serverKey := none
  clientCert := none
  clientKey := none

/-! ## Fingerprints -/

/-- Read `n` bytes of two hexadecimal digits, starting with byte `i`. -/
def fingerprintBytes (cleaned : List Char) (i : Nat) : Nat → Except Failure (List UInt8)
  | 0 => .ok []
  | n + 1 => do
      let chunk ← slice cleaned (i * 2) (i * 2 + 2)
      match fromStrRadix 16 255 chunk with
      | .error e =>
          .error (.err ("invalid hex `" ++ String.ofList chunk ++ "` at byte " ++ toString i ++
            ": " ++ e))
      | .ok byte =>
          let bytes ← fingerprintBytes cleaned (i + 1) n
          .ok (UInt8.ofNat byte :: bytes)

/-- What is left of a fingerprint without surrounding whitespace, algorithm and
colons. -/
def fingerprintText (s : String) : List Char :=
  let trimmed := trim s.toList
  let body := ((stripStart "sha256:".toList trimmed).or
    (stripStart "SHA256:".toList trimmed)).getD trimmed
  body.filter (· ≠ ':')

/-- Parse a fingerprint as a user writes it. -/
def parseFingerprint (s : String) : Except Failure (List UInt8) :=
  let cleaned := fingerprintText s
  if (asBytes cleaned).length ≠ 64 then
    .error (.err ("expected 64 hex chars (32 bytes) in fingerprint, got " ++
      toString (asBytes cleaned).length))
  else fingerprintBytes cleaned 0 32

/-- A pinned certificate, with the message for a fingerprint that does not parse. -/
def pinFingerprint (raw what : String) (serverName : Option String) :
    Except Failure ClientTlsConfig :=
  match parseFingerprint raw with
  | .ok sha256 => .ok (.fingerprint sha256 serverName)
  | .error (.err e) => .error (.err ("invalid " ++ what ++ " `" ++ raw ++ "`: " ++ e))
  | .error .abort => .error .abort

/-! ## Resolving the mode -/

/-- Where self-signed certificates are kept by default. -/
def defaultStateDir (env : Env) : Except String PathBuf :=
  match env.homeDir with
  | some home => .ok (env.join home ".rusnel")
  | none => .error "could not determine home directory; pass --tls-state-dir explicitly"

/-- The mode of a server with a certificate. -/
def serverCredentials (cert key : PathBuf) : Option PathBuf → ServerTlsConfig
  | some ca => .mtls cert key ca
  | none => .provided cert key

/-- Choose the TLS mode of the server. -/
def resolveServerTls (env : Env) (insecure tlsSelfSigned : Bool)
    (tlsStateDir tlsCert tlsKey tlsCa : Option PathBuf) (embedded : Materialized) :
    Except String ServerTlsConfig :=
  if insecure then .ok .insecure
  else if tlsSelfSigned then
    match tlsStateDir with
    | some stateDir => .ok (.selfSigned stateDir)
    | none => (defaultStateDir env).map .selfSigned
  else
    match tlsCert, tlsKey with
    | some cert, some key => .ok (serverCredentials cert key tlsCa)
    | _, _ =>
        match embedded.serverCert, embedded.serverKey with
        | some cert, some key => .ok (serverCredentials cert key embedded.ca)
        | _, _ =>
            .error ("no TLS mode specified. Pass one of --insecure, --tls-self-signed, " ++
              "--tls-cert + --tls-key (with optional --tls-ca for mTLS), or build " ++
              "with RUSNEL_EMBED_SERVER_CERT / RUSNEL_EMBED_SERVER_KEY.")

/-- The mode of a client with a CA. -/
def clientCredentials (ca : PathBuf) (serverName : Option String) :
    Option PathBuf → Option PathBuf → ClientTlsConfig
  | some cert, some key => .mtls ca cert key serverName
  | _, _ => .ca ca serverName

/-- Choose the TLS mode of the client. -/
def resolveClientTls (insecure : Bool) (tlsFingerprint : Option String)
    (tlsCa tlsCert tlsKey : Option PathBuf) (tlsServerName : Option String)
    (embedded : Materialized) (embedServerName embedFingerprint : Option String) :
    Except Failure ClientTlsConfig :=
  let serverName := tlsServerName.or embedServerName
  if insecure then .ok .insecure
  else
    match tlsFingerprint with
    | some raw => pinFingerprint raw "--tls-fingerprint value" serverName
    | none =>
        match tlsCa with
        | some ca => .ok (clientCredentials ca serverName tlsCert tlsKey)
        | none =>
            match embedded.ca with
            | some ca =>
                .ok (clientCredentials ca serverName embedded.clientCert embedded.clientKey)
            | none =>
                match embedFingerprint with
                | some fp =>
                    pinFingerprint fp "embedded fingerprint (RUSNEL_EMBED_FINGERPRINT)" serverName
                | none =>
                    .error (.err ("no TLS mode specified. Pass one of --insecure, " ++
                      "--tls-fingerprint, --tls-ca (with optional --tls-cert + --tls-key for " ++
                      "mTLS), or build with RUSNEL_EMBED_CA / RUSNEL_EMBED_FINGERPRINT."))

/-! ## The server's CA -/

/-- The server does not start, or requires certificates chained to `ca`. -/
def KeepsCa (ca : PathBuf) (mode : Except String ServerTlsConfig) : Prop :=
  (∃ e, mode = .error e) ∨ ∃ cert key, mode = .ok (.mtls cert key ca)

@[simp]
theorem keepsCa_error (ca : PathBuf) (e : String) : KeepsCa ca (.error e) :=
  .inl ⟨e, rfl⟩

@[simp]
theorem keepsCa_insecure (ca : PathBuf) : ¬KeepsCa ca (.ok .insecure) := by
  simp [KeepsCa]

@[simp]
theorem keepsCa_selfSigned (ca stateDir : PathBuf) : ¬KeepsCa ca (.ok (.selfSigned stateDir)) := by
  simp [KeepsCa]

@[simp]
theorem keepsCa_serverCredentials (ca cert key : PathBuf) (given : Option PathBuf) :
    KeepsCa ca (.ok (serverCredentials cert key given)) ↔ given = some ca := by
  cases given <;> simp [KeepsCa, serverCredentials]

section Server

variable (env : Env) (insecure tlsSelfSigned : Bool) (tlsStateDir tlsCert tlsKey : Option PathBuf)
  (ca : PathBuf) (embedded : Materialized)

/-- When the settings lead to mutual TLS with the CA they contain, or to none. -/
@[mk_iff]
structure ServerMutual : Prop where
  verified : insecure = false
  /-- A self-signed server does not come up for want of a directory. -/
  unsigned : tlsSelfSigned = true → tlsStateDir = none ∧ env.homeDir = none
  /-- A certificate goes with the CA, unless the embedded one does or there is none. -/
  credentials : tlsSelfSigned = false →
    tlsCert.isSome ∧ tlsKey.isSome ∨
      (embedded.serverCert.isSome → embedded.serverKey.isSome → embedded.ca = some ca)

/-- A server that is given a CA keeps it exactly if no setting before it decides
and a certificate goes with it. -/
theorem resolveServerTls_keepsCa_iff :
    KeepsCa ca (resolveServerTls env insecure tlsSelfSigned tlsStateDir tlsCert tlsKey (some ca)
      embedded) ↔
      ServerMutual env insecure tlsSelfSigned tlsStateDir tlsCert tlsKey ca embedded := by
  rw [serverMutual_iff]
  cases insecure with
  | true => simp [resolveServerTls]
  | false =>
      cases tlsSelfSigned with
      | true =>
          cases tlsStateDir with
          | some stateDir => simp [resolveServerTls]
          | none =>
              cases hhome : env.homeDir <;>
                simp [resolveServerTls, defaultStateDir, hhome, Except.map]
      | false =>
          cases tlsCert <;> cases tlsKey
          all_goals
            cases hcert : embedded.serverCert <;> cases hkey : embedded.serverKey <;>
              simp [resolveServerTls, hcert, hkey]

end Server

/-! ## The client's identity -/

/-- The client does not start, or presents exactly this certificate with this key. -/
def KeepsIdentity (cert key : Option PathBuf) (mode : Except Failure ClientTlsConfig) : Prop :=
  (∃ e, mode = .error (.err e)) ∨
    ∃ ca cert' key' serverName, mode = .ok (.mtls ca cert' key' serverName) ∧
      cert = some cert' ∧ key = some key'

@[simp]
theorem keepsIdentity_error (cert key : Option PathBuf) (e : String) :
    KeepsIdentity cert key (.error (.err e)) :=
  .inl ⟨e, rfl⟩

@[simp]
theorem keepsIdentity_insecure (cert key : Option PathBuf) :
    ¬KeepsIdentity cert key (.ok .insecure) := by
  simp [KeepsIdentity]

/-- The fingerprint is refused. -/
def Unreadable (raw : String) : Prop :=
  ∃ e, parseFingerprint raw = .error (.err e)

/-- With a fingerprint the client presents nothing. -/
@[simp]
theorem keepsIdentity_pinFingerprint (cert key : Option PathBuf) (raw what : String)
    (serverName : Option String) :
    KeepsIdentity cert key (pinFingerprint raw what serverName) ↔ Unreadable raw := by
  unfold pinFingerprint Unreadable
  split <;> rename_i hparse <;> simp [KeepsIdentity, hparse]

@[simp]
theorem keepsIdentity_clientCredentials (cert key cert' key' : Option PathBuf) (ca : PathBuf)
    (serverName : Option String) :
    KeepsIdentity cert key (.ok (clientCredentials ca serverName cert' key')) ↔
      cert'.isSome ∧ key'.isSome ∧ cert = cert' ∧ key = key' := by
  cases cert' <;> cases key' <;> simp [KeepsIdentity, clientCredentials]

section Client

variable (insecure : Bool) (tlsFingerprint : Option String)
  (tlsCa tlsCert tlsKey : Option PathBuf) (tlsServerName : Option String) (embedded : Materialized)
  (embedServerName embedFingerprint : Option String)

/-- When the settings lead to mutual TLS with the certificate and the key they
contain, or to none. -/
@[mk_iff]
structure ClientMutual : Prop where
  verified : insecure = false
  unpinned : ∀ raw, tlsFingerprint = some raw → Unreadable raw
  /-- Certificate and key go with the CA. -/
  paired : tlsFingerprint = none → tlsCa.isSome → tlsCert.isSome ∧ tlsKey.isSome
  /-- Without a CA there is none in the build either, or all three are the same. -/
  fallback : tlsFingerprint = none → tlsCa = none →
    match embedded.ca with
    | some _ => embedded.clientCert.isSome ∧ embedded.clientKey.isSome ∧
        tlsCert = embedded.clientCert ∧ tlsKey = embedded.clientKey
    | none => ∀ fp, embedFingerprint = some fp → Unreadable fp

/-- A client that is given a certificate or a key presents them exactly if no
setting before them decides and a CA goes with both. -/
theorem resolveClientTls_keepsIdentity_iff :
    KeepsIdentity tlsCert tlsKey (resolveClientTls insecure tlsFingerprint tlsCa tlsCert tlsKey
      tlsServerName embedded embedServerName embedFingerprint) ↔
      ClientMutual insecure tlsFingerprint tlsCa tlsCert tlsKey embedded embedFingerprint := by
  rw [clientMutual_iff]
  cases insecure with
  | true => simp [resolveClientTls]
  | false =>
      cases tlsFingerprint with
      | some raw => simp [resolveClientTls]
      | none =>
          cases tlsCa with
          | some ca => simp [resolveClientTls]
          | none =>
              cases hca : embedded.ca with
              | some ca => simp [resolveClientTls, hca]
              | none => cases embedFingerprint <;> simp [resolveClientTls, hca]

end Client

end Config
end Rusnel
