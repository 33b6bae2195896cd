import Rusnel.Foundation.Transition

/-!
# The persisted server identity

A server without a certificate of its own makes a self-signed one and keeps it in
its state directory, so that clients that pinned the fingerprint find it again.
Each file is created or truncated first and then filled; the process can stop
behind any of these steps.  The next start looks only at whether both files are
there.

Of the PEM libraries it is assumed that what was written is read back and that an
empty file has no key.

Main results:

- Definition {lit}`loadOrCreateSelfSigned`: what a start returns and the steps on
  disk it takes.
- Theorem {lit}`interrupt_cases`: what an interrupted start leaves behind.
- Theorem {lit}`survives_iff`: the identity survives exactly the interruptions that
  do not come between creating and filling the key file.
-/

namespace Rusnel
namespace Identity

/-! ## Certificates and keys -/

/-- A certificate with the private key of its public key, as the generator makes
them. -/
structure KeyPair {Cert Key : Type} (Belong : Cert → Key → Prop) where
  cert : Cert
  key : Key
  belong : Belong cert key

/-- The PEM libraries. -/
structure Pem (Cert Key : Type) where
  certs : List UInt8 → Except String (List Cert)
  privateKey : List UInt8 → Except String (Option Key)
  certPem : Cert → List UInt8
  keyPem : Key → List UInt8
  certs_certPem : ∀ cert, certs (certPem cert) = .ok [cert]
  privateKey_keyPem : ∀ key, privateKey (keyPem key) = .ok (some key)
  privateKey_nil : privateKey [] = .ok none

section

variable {Cert Key : Type} {Belong : Cert → Key → Prop}

/-! ## The files -/

inductive File where
  | cert
  | key
deriving DecidableEq, Repr

/-- The two files of the state directory. -/
structure StateDir where
  cert : Option (List UInt8)
  key : Option (List UInt8)
deriving DecidableEq, Repr

def StateDir.empty : StateDir where
  cert := none
  key := none

/-- Steps behind which the process can stop. -/
inductive DiskStep where
  | createDir
  /-- The file is there and empty. -/
  | create (file : File)
  | fill (file : File) (contents : List UInt8)
  /-- The mode is set to 0600. -/
  | restrict (file : File)
deriving DecidableEq, Repr

def StateDir.put (dir : StateDir) (file : File) (contents : List UInt8) : StateDir :=
  match file with
  | .cert => { dir with cert := some contents }
  | .key => { dir with key := some contents }

def StateDir.apply (dir : StateDir) : DiskStep → StateDir
  | .createDir => dir
  | .create file => dir.put file []
  | .fill file contents => dir.put file contents
  | .restrict _ => dir

/-- {lit}`fs::write`. -/
def fsWrite (file : File) (contents : List UInt8) : List DiskStep :=
  [.create file, .fill file contents]

def writeSecretFile (file : File) (contents : List UInt8) : List DiskStep :=
  fsWrite file contents ++ [.restrict file]

/-! ## Starting -/

def loadPemCerts (pem : Pem Cert Key) (path : String) (file : Option (List UInt8)) :
    Except String (List Cert) :=
  match file with
  | none => .error ("failed to read cert file " ++ path)
  | some contents =>
      match pem.certs contents with
      | .error _ => .error ("failed to parse PEM certs in " ++ path)
      | .ok [] => .error ("no certificates found in " ++ path)
      | .ok (cert :: certs) => .ok (cert :: certs)

def loadPemIdentity (pem : Pem Cert Key) (certPath keyPath : String) (dir : StateDir) :
    Except String (List Cert × Key) :=
  match loadPemCerts pem certPath dir.cert with
  | .error e => .error e
  | .ok chain =>
      match dir.key with
      | none => .error ("failed to read key file " ++ keyPath)
      | some contents =>
          match pem.privateKey contents with
          | .error _ => .error ("failed to parse PEM private key in " ++ keyPath)
          | .ok none => .error ("no private key found in " ++ keyPath)
          | .ok (some key) => .ok (chain, key)

/-- The steps that persist a generated identity. -/
def persist (pem : Pem Cert Key) (generated : KeyPair Belong) : List DiskStep :=
  .createDir :: (fsWrite .cert (pem.certPem generated.cert) ++
    writeSecretFile .key (pem.keyPem generated.key))

/-- The steps of a start, and what it returns if it gets through them.
`generated` is the identity it makes if it makes one. -/
def loadOrCreateSelfSigned (pem : Pem Cert Key) (stateDir : String)
    (generated : KeyPair Belong) (dir : StateDir) :
    List DiskStep × Except String (List Cert × Key) :=
  if dir.cert.isSome && dir.key.isSome then
    ([], loadPemIdentity pem (stateDir ++ "/server.pem") (stateDir ++ "/server.key") dir)
  else (persist pem generated, .ok ([generated.cert], generated.key))

/-- A start that stops, by a crash or a failed write, behind that many steps. -/
structure Start (Belong : Cert → Key → Prop) where
  generated : KeyPair Belong
  steps : Nat

variable (pem : Pem Cert Key) (stateDir : String)

/-- The steps on disk an interrupted start takes. -/
def Start.taken (dir : StateDir) (s : Start Belong) : List DiskStep :=
  (loadOrCreateSelfSigned pem stateDir s.generated dir).1.take s.steps

def interrupt (dir : StateDir) (s : Start Belong) : StateDir :=
  (s.taken pem stateDir dir).foldl StateDir.apply dir

/-- The state directory after starts that were interrupted. -/
def after (dir : StateDir) (starts : List (Start Belong)) : StateDir :=
  starts.foldl (interrupt pem stateDir) dir

/-- The state directory after a start that was not. -/
def complete (dir : StateDir) (generated : KeyPair Belong) : StateDir :=
  (loadOrCreateSelfSigned pem stateDir generated dir).1.foldl StateDir.apply dir

/-- After these interrupted starts, the next one that is not interrupted returns a
certificate with its key, and so does every later one, whatever happens in
between. -/
def Survives (starts : List (Start Belong)) : Prop :=
  ∀ generated : KeyPair Belong, ∃ pair : KeyPair Belong,
    (loadOrCreateSelfSigned pem stateDir generated (after pem stateDir .empty starts)).2
      = .ok ([pair.cert], pair.key) ∧
    ∀ (later : List (Start Belong)) (other : KeyPair Belong),
      (loadOrCreateSelfSigned pem stateDir other (after pem stateDir
        (complete pem stateDir (after pem stateDir .empty starts) generated) later)).2
        = .ok ([pair.cert], pair.key)

/-- The start stops when it has created the key file and not filled it. -/
def Tears (dir : StateDir) (s : Start Belong) : Prop :=
  (s.taken pem stateDir dir).getLast? = some (.create .key)

/-! ## What a start leaves behind -/

/-- Both files hold the identity. -/
def StateDir.Holds (pair : KeyPair Belong) (dir : StateDir) : Prop :=
  dir = ⟨some (pem.certPem pair.cert), some (pem.keyPem pair.key)⟩

/-- The key file is there and empty. -/
def StateDir.Torn (pair : KeyPair Belong) (dir : StateDir) : Prop :=
  dir = ⟨some (pem.certPem pair.cert), some []⟩

variable {pem stateDir} {dir : StateDir}

/-- A start that finds both files takes no steps. -/
theorem steps_of_both (hcert : dir.cert.isSome) (hkey : dir.key.isSome)
    (generated : KeyPair Belong) :
    loadOrCreateSelfSigned pem stateDir generated dir
      = ([], loadPemIdentity pem (stateDir ++ "/server.pem") (stateDir ++ "/server.key") dir) := by
  rw [loadOrCreateSelfSigned, hcert, hkey]
  rfl

theorem steps_of_no_key (hkey : dir.key = none) (generated : KeyPair Belong) :
    loadOrCreateSelfSigned pem stateDir generated dir
      = (persist pem generated, .ok ([generated.cert], generated.key)) := by
  rw [loadOrCreateSelfSigned, hkey, Option.isSome_none, Bool.and_false]
  rfl

theorem interrupt_of_both (hcert : dir.cert.isSome) (hkey : dir.key.isSome) (s : Start Belong) :
    interrupt pem stateDir dir s = dir ∧ ¬Tears pem stateDir dir s := by
  have htaken : s.taken pem stateDir dir = [] := by
    rw [Start.taken, steps_of_both hcert hkey, List.take_nil]
  rw [interrupt, Tears, htaken]
  exact ⟨rfl, nofun⟩

/-- A start that makes an identity leaves no key file, an empty one, or both files
as they should be. -/
theorem interrupt_cases (hkey : dir.key = none) (s : Start Belong) :
    ((interrupt pem stateDir dir s).key = none ∧ ¬Tears pem stateDir dir s) ∨
    ((interrupt pem stateDir dir s).Torn pem s.generated ∧ Tears pem stateDir dir s) ∨
    ((interrupt pem stateDir dir s).Holds pem s.generated ∧ ¬Tears pem stateDir dir s) := by
  obtain ⟨generated, steps⟩ := s
  simp only [interrupt, Tears, Start.taken, steps_of_no_key hkey]
  rcases steps with _ | _ | _ | _ | _ | _ | steps
  · exact .inl ⟨hkey, nofun⟩
  · exact .inl ⟨hkey, nofun⟩
  · exact .inl ⟨hkey, nofun⟩
  · exact .inl ⟨hkey, nofun⟩
  · exact .inr (.inl ⟨rfl, rfl⟩)
  · exact .inr (.inr ⟨rfl, nofun⟩)
  · refine .inr (.inr ?_)
    have hall : (persist pem generated).take (steps + 6) = persist pem generated :=
      List.take_of_length_le (Nat.le_add_left 6 steps)
    rw [hall]
    exact ⟨rfl, nofun⟩

/-! ## Loading -/

theorem loadOrCreate_holds {pair : KeyPair Belong} (h : dir.Holds pem pair)
    (generated : KeyPair Belong) :
    loadOrCreateSelfSigned pem stateDir generated dir = ([], .ok ([pair.cert], pair.key)) := by
  subst h
  rw [steps_of_both rfl rfl, loadPemIdentity, loadPemCerts]
  simp only [pem.certs_certPem, pem.privateKey_keyPem]

theorem loadOrCreate_torn {pair : KeyPair Belong} (h : dir.Torn pem pair)
    (generated : KeyPair Belong) :
    loadOrCreateSelfSigned pem stateDir generated dir
      = ([], .error ("no private key found in " ++ (stateDir ++ "/server.key"))) := by
  subst h
  rw [steps_of_both rfl rfl, loadPemIdentity, loadPemCerts]
  simp only [pem.certs_certPem, pem.privateKey_nil]

/-- Once both files are there, nothing changes them. -/
theorem after_of_both (hcert : dir.cert.isSome) (hkey : dir.key.isSome)
    (starts : List (Start Belong)) : after pem stateDir dir starts = dir := by
  induction starts with
  | nil => rfl
  | cons s starts ih =>
      rw [after, List.foldl_cons, (interrupt_of_both hcert hkey s).1]
      exact ih

theorem complete_of_no_key (hkey : dir.key = none) (generated : KeyPair Belong) :
    (complete pem stateDir dir generated).Holds pem generated := by
  rw [complete, steps_of_no_key hkey]
  rfl

/-- With the identity on disk every start returns it. -/
theorem after_holds {pair : KeyPair Belong} (h : dir.Holds pem pair) (later : List (Start Belong))
    (other : KeyPair Belong) :
    (loadOrCreateSelfSigned pem stateDir other (after pem stateDir dir later)).2
      = .ok ([pair.cert], pair.key) := by
  have hdir : after pem stateDir dir later = dir := by
    subst h
    exact after_of_both rfl rfl later
  rw [hdir, loadOrCreate_holds h]

/-! ## Interrupted starts -/

/-- An interrupted start as a step. -/
def startStep (pem : Pem Cert Key) (stateDir : String) (dir : StateDir) (s : Start Belong) :
    Option StateDir :=
  some (interrupt pem stateDir dir s)

theorem run_startStep (dir : StateDir) (starts : List (Start Belong)) :
    Transition.run (startStep pem stateDir) dir starts = some (after pem stateDir dir starts) := by
  induction starts generalizing dir with
  | nil => rfl
  | cons s starts ih => exact ih (interrupt pem stateDir dir s)

/-- There is no key file, or the files hold an identity, or the key file is empty;
which of the three, the interruptions tell. -/
theorem guarded_or_torn (starts : List (Start Belong)) :
    let dir := after pem stateDir .empty starts
    let guarded := Transition.Guarded (startStep pem stateDir)
      (fun dir s => ¬Tears pem stateDir dir s) .empty starts
    (guarded ∧ (dir.key = none ∨ ∃ pair : KeyPair Belong, dir.Holds pem pair)) ∨
      (¬guarded ∧ ∃ pair : KeyPair Belong, dir.Torn pem pair) := by
  refine Transition.guarded_or_trapped
    (P := fun dir => dir.key = none ∨ ∃ pair : KeyPair Belong, dir.Holds pem pair)
    (T := fun dir => ∃ pair : KeyPair Belong, dir.Torn pem pair)
    ?_ ?_ ?_ (.inl rfl) (run_startStep .empty starts)
  · rintro dir s _ (hkey | ⟨pair, hpair⟩) hguard ⟨⟩
    · rcases interrupt_cases hkey s with ⟨hnone, _⟩ | ⟨_, htears⟩ | ⟨hholds, _⟩
      · exact .inl hnone
      · exact absurd htears hguard
      · exact .inr ⟨_, hholds⟩
    · refine .inr ⟨pair, ?_⟩
      subst hpair
      exact (interrupt_of_both rfl rfl s).1
  · rintro dir s _ (hkey | ⟨pair, hpair⟩) htears ⟨⟩
    · rcases interrupt_cases hkey s with ⟨_, hnot⟩ | ⟨htorn, _⟩ | ⟨_, hnot⟩
      · exact absurd hnot htears
      · exact ⟨_, htorn⟩
      · exact absurd hnot htears
    · subst hpair
      exact absurd (interrupt_of_both rfl rfl s).2 htears
  · rintro dir s _ ⟨pair, hpair⟩ ⟨⟩
    subst hpair
    exact ⟨pair, (interrupt_of_both rfl rfl s).1⟩

/-- The identity survives interrupted starts exactly if none of them stopped
between creating the key file and filling it. -/
theorem survives_iff (pem : Pem Cert Key) (stateDir : String) (starts : List (Start Belong)) :
    Survives pem stateDir starts ↔
      Transition.Guarded (startStep pem stateDir) (fun dir s => ¬Tears pem stateDir dir s)
        .empty starts := by
  rcases @guarded_or_torn _ _ _ pem stateDir starts with ⟨hguarded, hgood⟩ | ⟨htorn, pair, hbad⟩
  · refine iff_of_true (fun generated => ?_) hguarded
    rcases hgood with hkey | ⟨pair, hholds⟩
    · refine ⟨generated, by rw [steps_of_no_key hkey], ?_⟩
      exact after_holds (complete_of_no_key hkey generated)
    · have hsame : complete pem stateDir (after pem stateDir .empty starts) generated
          = after pem stateDir .empty starts := by
        rw [complete, loadOrCreate_holds hholds]
        rfl
      refine ⟨pair, by rw [loadOrCreate_holds hholds], ?_⟩
      rw [hsame]
      exact after_holds hholds
  · refine iff_of_false (fun hsurvives => ?_) htorn
    obtain ⟨found, hload, _⟩ := hsurvives pair
    rw [loadOrCreate_torn hbad] at hload
    cases hload

end

/-! ## A torn identity -/

/-- A codec for tests: one byte each. -/
def bytePem : Pem UInt8 UInt8 where
  certs
    | [cert] => .ok [cert]
    | _ => .ok []
  privateKey
    | [key] => .ok (some key)
    | _ => .ok none
  certPem cert := [cert]
  keyPem key := [key]
  certs_certPem _ := rfl
  privateKey_keyPem _ := rfl
  privateKey_nil := rfl

/-- The first start stops behind the creation of the key file: no later start gets
through, nor do they make a new identity. -/
theorem torn_locks_out :
    let first : Start (· = · : UInt8 → UInt8 → Prop) := ⟨⟨7, 7, rfl⟩, 4⟩
    let dir := after bytePem "/var/lib/rusnel" .empty [first]
    dir = ⟨some [7], some []⟩ ∧
      ∀ (later : List (Start (· = · : UInt8 → UInt8 → Prop)))
        (generated : KeyPair (· = · : UInt8 → UInt8 → Prop)),
        (loadOrCreateSelfSigned bytePem "/var/lib/rusnel" generated
          (after bytePem "/var/lib/rusnel" dir later)).2
          = .error "no private key found in /var/lib/rusnel/server.key" := by
  intro first dir
  have hdir : dir = ⟨some [7], some []⟩ := rfl
  refine ⟨hdir, fun later generated => ?_⟩
  have hafter : after bytePem "/var/lib/rusnel" dir later = dir := after_of_both rfl rfl later
  rw [hafter, hdir]
  rfl

end Identity
end Rusnel
