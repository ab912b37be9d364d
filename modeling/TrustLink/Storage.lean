import TrustLink.Types

/-!
# TrustLink: contract storage

`src/src/storage.rs`.  Each family of `StorageKey`s becomes one field of `Storage`, a
total map in which an absent key reads as the default the accessors give it:
no admin (`get_admin` fails), not an issuer (`has` is false), no attestation
(`get_attestation` fails with `NotFound`), and an empty index (`unwrap_or(Vec::new)`).

* `pushId` — the read, `push_back`, write-back that `add_subject_attestation` and
  `add_issuer_attestation` share.
* `setAttestation` writes under the record's *own* `id`, not under a key the caller
  chooses; `revoke_attestation` relies on the two agreeing (see `TrustLink.Registry`).

* `StorageKey`, `Storage.get` — the same storage read as the key-value store the code
  addresses, for statements about which keys a call touches.

The `extend_ttl` calls and the lifetime constants are the storage substrate's retention
policy; they change no value the contract reads and are not modelled.
-/

namespace TrustLink

variable {Address : Type}

/-- The contract's storage, one field per family of `StorageKey`s. -/
@[ext]
structure Storage (Address : Type) where
  /-- `StorageKey::Admin`, in instance storage. -/
  admin : Option Address
  /-- `StorageKey::Issuer(address)`: `true` exactly when the key is present. -/
  issuers : Address → Bool
  /-- `StorageKey::Attestation(id)`. -/
  attestations : String → Option (Attestation Address)
  /-- `StorageKey::SubjectAttestations(subject)`. -/
  subjectAttestations : Address → List String
  /-- `StorageKey::IssuerAttestations(issuer)`. -/
  issuerAttestations : Address → List String

/-- `StorageKey`: the key of each value the contract stores. -/
inductive StorageKey (Address : Type) where
  | admin
  | issuer (address : Address)
  | attestation (id : String)
  | subjectAttestations (subject : Address)
  | issuerAttestations (issuer : Address)
  deriving DecidableEq, Repr

/-- What reading a key gives, an absent key reading as the field's default. -/
inductive Slot (Address : Type) where
  | admin (admin : Option Address)
  | issuer (present : Bool)
  | attestation (attestation : Option (Attestation Address))
  | ids (attestationIds : List String)
  deriving DecidableEq, Repr

/-- Read one key. -/
def Storage.get (s : Storage Address) : StorageKey Address → Slot Address
  | .admin => .admin s.admin
  | .issuer address => .issuer (s.issuers address)
  | .attestation id => .attestation (s.attestations id)
  | .subjectAttestations subject => .ids (s.subjectAttestations subject)
  | .issuerAttestations issuer => .ids (s.issuerAttestations issuer)

/-- Two storages that read alike at every key are equal. -/
theorem Storage.ext_get {s t : Storage Address} (h : ∀ k, s.get k = t.get k) : s = t := by
  have ha := h .admin
  simp only [Storage.get, Slot.admin.injEq] at ha
  refine Storage.ext ha (funext fun a => ?_) (funext fun id => ?_) (funext fun a => ?_)
    (funext fun a => ?_)
  · simpa [Storage.get] using h (.issuer a)
  · simpa [Storage.get] using h (.attestation id)
  · simpa [Storage.get] using h (.subjectAttestations a)
  · simpa [Storage.get] using h (.issuerAttestations a)

/-- Append `id` to the sequence stored under `key`, the other keys untouched. -/
def pushId [DecidableEq Address] (index : Address → List String) (key : Address)
    (id : String) : Address → List String :=
  Function.update index key (index key ++ [id])

@[simp] theorem pushId_apply [DecidableEq Address] (index : Address → List String)
    (key k : Address) (id : String) :
    pushId index key id k = if k = key then index k ++ [id] else index k := by
  by_cases h : k = key
  · subst h; simp [pushId]
  · simp [pushId, h]

namespace Storage

/-- A freshly deployed contract: nothing is stored. -/
def init : Storage Address := ⟨none, fun _ => false, fun _ => none, fun _ => [], fun _ => []⟩

/-- `Storage::has_admin`. -/
def hasAdmin (s : Storage Address) : Bool := s.admin.isSome

/-- `Storage::set_admin`. -/
@[simps]
def setAdmin (s : Storage Address) (admin : Address) : Storage Address :=
  { s with admin := some admin }

/-- `Storage::get_admin`. -/
def getAdmin (s : Storage Address) : Except Error Address :=
  match s.admin with
  | some admin => .ok admin
  | none => .error .notInitialized

/-- `Storage::is_issuer`. -/
def isIssuer (s : Storage Address) (address : Address) : Bool := s.issuers address

/-- `Storage::add_issuer`. -/
@[simps]
def addIssuer [DecidableEq Address] (s : Storage Address) (issuer : Address) :
    Storage Address :=
  { s with issuers := Function.update s.issuers issuer true }

/-- `Storage::remove_issuer`. -/
@[simps]
def removeIssuer [DecidableEq Address] (s : Storage Address) (issuer : Address) :
    Storage Address :=
  { s with issuers := Function.update s.issuers issuer false }

/-- `Storage::has_attestation`. -/
def hasAttestation (s : Storage Address) (id : String) : Bool := (s.attestations id).isSome

/-- `Storage::set_attestation`: the record is written under its own `id`. -/
@[simps]
def setAttestation [DecidableEq Address] (s : Storage Address)
    (attestation : Attestation Address) : Storage Address :=
  { s with attestations := Function.update s.attestations attestation.id (some attestation) }

/-- `Storage::get_attestation`. -/
def getAttestation (s : Storage Address) (id : String) : Except Error (Attestation Address) :=
  match s.attestations id with
  | some attestation => .ok attestation
  | none => .error .notFound

/-- `Storage::get_subject_attestations`. -/
def getSubjectAttestations (s : Storage Address) (subject : Address) : List String :=
  s.subjectAttestations subject

/-- `Storage::add_subject_attestation`. -/
@[simps]
def addSubjectAttestation [DecidableEq Address] (s : Storage Address) (subject : Address)
    (attestationId : String) : Storage Address :=
  { s with subjectAttestations := pushId s.subjectAttestations subject attestationId }

/-- `Storage::get_issuer_attestations`. -/
def getIssuerAttestations (s : Storage Address) (issuer : Address) : List String :=
  s.issuerAttestations issuer

/-- `Storage::add_issuer_attestation`. -/
@[simps]
def addIssuerAttestation [DecidableEq Address] (s : Storage Address) (issuer : Address)
    (attestationId : String) : Storage Address :=
  { s with issuerAttestations := pushId s.issuerAttestations issuer attestationId }

@[simp] theorem getAdmin_eq_ok (s : Storage Address) (a : Address) :
    s.getAdmin = .ok a ↔ s.admin = some a := by
  cases h : s.admin <;> simp [getAdmin, h]

@[simp] theorem getAttestation_eq_ok (s : Storage Address) (id : String)
    (a : Attestation Address) : s.getAttestation id = .ok a ↔ s.attestations id = some a := by
  cases h : s.attestations id <;> simp [getAttestation, h]

theorem getAttestation_eq_error (s : Storage Address) (id : String) (e : Error) :
    s.getAttestation id = .error e ↔ s.attestations id = none ∧ e = .notFound := by
  cases h : s.attestations id <;> simp [getAttestation, h, eq_comm]

end Storage

end TrustLink
