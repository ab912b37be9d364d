import TrustLink.Storage
import TrustLink.Pagination

/-!
# TrustLink: the contract's entry points

`src/src/validation.rs` and the `#[contractimpl]` block of `src/src/lib.rs`, one
definition per public function.  Every entry point takes the storage and the host
context `Env` (the ledger clock and which addresses authorised the invocation) and
returns its result together with the storage as the code left it at the point it
returned.  A failed call therefore shows exactly the writes made before the failure;
the host's rollback is *not* assumed.

* `Call`, `invoke` — the public surface as one dispatcher, so that a run of the
  contract is a list of invocations.
* `Effect`, `invoke_effect` — **everything one invocation can do to storage**: nothing
  (a query, or any failure), or one of five successful mutations, each with the
  guards the code checked.  Every invariant later in the development is derived from
  this one inversion.
* `createAttestation_eq_ok`, `revokeAttestation_eq_ok`, `adminUpdate_eq_ok` — exactly when
  each mutating entry point succeeds, and what it leaves.
* `hasValidClaimFrom_eq_true_iff` — the `has_valid_claim` loop finds a valid record
  of the claim type among the ids it scans, and nothing else.

`Attestation::generate_id` is in the missing `types.rs`; it is the parameter
`generateId`, so every result holds for any id derivation at all.
-/

namespace TrustLink

variable {Address : Type}

/-- What an invocation reads from the host besides storage. -/
structure Env (Address : Type) where
  /-- `env.ledger().timestamp()`. -/
  timestamp : Nat
  /-- The addresses whose `require_auth` succeeds in this invocation; on any other
  address `require_auth` aborts the whole invocation. -/
  authorized : Address → Bool

variable [DecidableEq Address]

/-! ## Validation -/

namespace Validation

/-- `Validation::require_admin`. -/
def requireAdmin (s : Storage Address) (caller : Address) : Except Error Unit :=
  match s.getAdmin with
  | .error e => .error e
  | .ok admin => if caller ≠ admin then .error .unauthorized else .ok ()

/-- `Validation::require_issuer`. -/
def requireIssuer (s : Storage Address) (caller : Address) : Except Error Unit :=
  if !s.isIssuer caller then .error .unauthorized else .ok ()

theorem requireAdmin_eq_ok (s : Storage Address) (caller : Address) :
    requireAdmin s caller = .ok () ↔ s.admin = some caller := by
  cases h : s.admin with
  | none => simp [requireAdmin, Storage.getAdmin, h]
  | some admin =>
    by_cases hc : caller = admin
    · simp [requireAdmin, Storage.getAdmin, h, hc]
    · simp [requireAdmin, Storage.getAdmin, h, hc, Ne.symm hc]

omit [DecidableEq Address] in
theorem requireIssuer_eq_ok (s : Storage Address) (caller : Address) :
    requireIssuer s caller = .ok () ↔ s.issuers caller = true := by
  cases h : s.issuers caller <;> simp [requireIssuer, Storage.isIssuer, h]

end Validation

/-! ## Mutations -/

/-- `TrustLinkContract::initialize`: refuse a second admin, then authenticate the new
one and store it. -/
def initializeAdmin (s : Storage Address) (env : Env Address) (admin : Address) :
    Except Failure Unit × Storage Address :=
  if s.hasAdmin then (.error (.contract .alreadyInitialized), s)
  else if !env.authorized admin then (.error .authTrap, s)
  else (.ok (), s.setAdmin admin)

/-- The body `register_issuer` and `remove_issuer` share: `admin` authenticates and must
be the stored admin, then `update` writes the issuer set. -/
def adminUpdate (update : Storage Address → Address → Storage Address) (s : Storage Address)
    (env : Env Address) (admin issuer : Address) : Except Failure Unit × Storage Address :=
  if !env.authorized admin then (.error .authTrap, s)
  else
    match Validation.requireAdmin s admin with
    | .error e => (.error (.contract e), s)
    | .ok () => (.ok (), update s issuer)

/-- `TrustLinkContract::register_issuer`. -/
def registerIssuer (s : Storage Address) (env : Env Address) (admin issuer : Address) :
    Except Failure Unit × Storage Address :=
  adminUpdate Storage.addIssuer s env admin issuer

/-- `TrustLinkContract::remove_issuer`. -/
def removeIssuer (s : Storage Address) (env : Env Address) (admin issuer : Address) :
    Except Failure Unit × Storage Address :=
  adminUpdate Storage.removeIssuer s env admin issuer

/-- When `register_issuer` or `remove_issuer` succeeds: the caller authenticated as the stored
admin, and the issuer set was written. -/
theorem adminUpdate_eq_ok {update : Storage Address → Address → Storage Address}
    {s s' : Storage Address} {env : Env Address} {admin issuer : Address} :
    adminUpdate update s env admin issuer = (.ok (), s') ↔
      env.authorized admin = true ∧ s.admin = some admin ∧ s' = update s issuer := by
  unfold adminUpdate
  cases hauth : env.authorized admin
  · simp
  · cases h : Validation.requireAdmin s admin with
    | error e =>
      have : s.admin ≠ some admin := mt (Validation.requireAdmin_eq_ok s admin).mpr (by simp [h])
      simp [this]
    | ok u => simp [(Validation.requireAdmin_eq_ok s admin).mp h, eq_comm]

/-- The three writes that publish a new record (`lib.rs`, lines 88–90). -/
def Storage.recordAttestation (s : Storage Address) (a : Attestation Address) :
    Storage Address :=
  ((s.setAttestation a).addSubjectAttestation a.subject a.id).addIssuerAttestation a.issuer a.id

@[simp] theorem Storage.recordAttestation_admin (s : Storage Address) (a : Attestation Address) :
    (s.recordAttestation a).admin = s.admin := rfl

@[simp] theorem Storage.recordAttestation_issuers (s : Storage Address) (a : Attestation Address) :
    (s.recordAttestation a).issuers = s.issuers := rfl

@[simp] theorem Storage.recordAttestation_attestations (s : Storage Address)
    (a : Attestation Address) :
    (s.recordAttestation a).attestations = Function.update s.attestations a.id (some a) := rfl

@[simp] theorem Storage.recordAttestation_subjectAttestations (s : Storage Address)
    (a : Attestation Address) :
    (s.recordAttestation a).subjectAttestations = pushId s.subjectAttestations a.subject a.id :=
  rfl

section generateId

variable (generateId : Address → Address → String → Nat → String)

/-- `TrustLinkContract::create_attestation`. -/
def createAttestation (s : Storage Address) (env : Env Address) (issuer subject : Address)
    (claimType : String) (expiration : Option Nat) : Except Failure String × Storage Address :=
  if !env.authorized issuer then (.error .authTrap, s)
  else
    match Validation.requireIssuer s issuer with
    | .error e => (.error (.contract e), s)
    | .ok () =>
      let timestamp := env.timestamp
      let attestationId := generateId issuer subject claimType timestamp
      if s.hasAttestation attestationId then (.error (.contract .duplicateAttestation), s)
      else
        let attestation : Attestation Address :=
          ⟨attestationId, issuer, subject, claimType, timestamp, expiration, false⟩
        let s := s.setAttestation attestation
        let s := s.addSubjectAttestation subject attestationId
        let s := s.addIssuerAttestation issuer attestationId
        (.ok attestationId, s)

variable {generateId} in
/-- When `create_attestation` succeeds: the caller authenticated, is a current issuer, and
the derived id was free; the result is that id, and the record is published unrevoked. -/
theorem createAttestation_eq_ok {s s' : Storage Address} {env : Env Address}
    {issuer subject : Address} {claimType : String} {expiration : Option Nat} {id : String} :
    createAttestation generateId s env issuer subject claimType expiration = (.ok id, s') ↔
      env.authorized issuer = true ∧ s.issuers issuer = true ∧
      s.attestations (generateId issuer subject claimType env.timestamp) = none ∧
      id = generateId issuer subject claimType env.timestamp ∧
      s' = s.recordAttestation
        ⟨id, issuer, subject, claimType, env.timestamp, expiration, false⟩ := by
  unfold createAttestation
  cases hauth : env.authorized issuer
  · simp
  · cases hiss : s.issuers issuer
    · simp [Validation.requireIssuer, Storage.isIssuer, hiss]
    · cases hnone : s.attestations (generateId issuer subject claimType env.timestamp) with
      | some a =>
        simp [Validation.requireIssuer, Storage.isIssuer, Storage.hasAttestation, hiss, hnone]
      | none =>
        simp only [Validation.requireIssuer, Storage.isIssuer, Storage.hasAttestation, hiss, hnone]
        constructor
        · rintro ⟨⟩; exact ⟨trivial, trivial, trivial, rfl, rfl⟩
        · rintro ⟨-, -, -, rfl, rfl⟩; rfl

end generateId

/-- `TrustLinkContract::revoke_attestation`.  The record is written back with
`set_attestation`, that is under its own `id` field. -/
def revokeAttestation (s : Storage Address) (env : Env Address) (issuer : Address)
    (attestationId : String) : Except Failure Unit × Storage Address :=
  if !env.authorized issuer then (.error .authTrap, s)
  else
    match s.getAttestation attestationId with
    | .error e => (.error (.contract e), s)
    | .ok attestation =>
      if attestation.issuer ≠ issuer then (.error (.contract .unauthorized), s)
      else if attestation.revoked then (.error (.contract .alreadyRevoked), s)
      else (.ok (), s.setAttestation { attestation with revoked := true })

/-- When `revoke_attestation` succeeds: the caller authenticated as the stored record's
issuer, the record was live, and it is written back revoked. -/
theorem revokeAttestation_eq_ok {s s' : Storage Address} {env : Env Address}
    {issuer : Address} {attestationId : String} :
    revokeAttestation s env issuer attestationId = (.ok (), s') ↔
      env.authorized issuer = true ∧ ∃ a, s.attestations attestationId = some a ∧
        a.issuer = issuer ∧ a.revoked = false ∧
          s' = s.setAttestation { a with revoked := true } := by
  unfold revokeAttestation
  cases hauth : env.authorized issuer
  · simp
  · cases ha : s.attestations attestationId with
    | none => simp [Storage.getAttestation, ha]
    | some a =>
      by_cases hi : a.issuer = issuer
      · subst hi
        cases hr : a.revoked
        · simpa [Storage.getAttestation, ha, hr] using eq_comm
        · simp [Storage.getAttestation, ha, hr]
      · simp [Storage.getAttestation, ha, hi]

/-! ## Queries -/

/-- The loop of `has_valid_claim` over the ids still to visit: an id with no record is
skipped, and the first record of the claim type whose status is `Valid` ends it. -/
def hasValidClaimFrom (s : Storage Address) (claimType : String) (currentTime : Nat) :
    List String → Bool
  | [] => false
  | id :: ids =>
    match s.getAttestation id with
    | .ok attestation =>
      if attestation.claimType = claimType then
        if attestation.getStatus currentTime = .valid then true
        else hasValidClaimFrom s claimType currentTime ids
      else hasValidClaimFrom s claimType currentTime ids
    | .error _ => hasValidClaimFrom s claimType currentTime ids

/-- `TrustLinkContract::has_valid_claim`. -/
def hasValidClaim (s : Storage Address) (env : Env Address) (subject : Address)
    (claimType : String) : Bool :=
  hasValidClaimFrom s claimType env.timestamp (s.getSubjectAttestations subject)

/-- `TrustLinkContract::get_attestation`. -/
def getAttestation (s : Storage Address) (attestationId : String) :
    Except Error (Attestation Address) :=
  s.getAttestation attestationId

/-- `TrustLinkContract::get_attestation_status`. -/
def getAttestationStatus (s : Storage Address) (env : Env Address) (attestationId : String) :
    Except Error AttestationStatus :=
  match s.getAttestation attestationId with
  | .error e => .error e
  | .ok attestation => .ok (attestation.getStatus env.timestamp)

/-- `TrustLinkContract::get_subject_attestations`. -/
def getSubjectAttestations (s : Storage Address) (subject : Address) (start limit : UInt32) :
    Except Failure (List String) :=
  paginate (s.getSubjectAttestations subject) start limit

/-- `TrustLinkContract::get_issuer_attestations`. -/
def getIssuerAttestations (s : Storage Address) (issuer : Address) (start limit : UInt32) :
    Except Failure (List String) :=
  paginate (s.getIssuerAttestations issuer) start limit

/-- `TrustLinkContract::is_issuer`. -/
def isIssuer (s : Storage Address) (address : Address) : Bool := s.isIssuer address

/-- `TrustLinkContract::get_admin`. -/
def getAdmin (s : Storage Address) : Except Error Address := s.getAdmin

omit [DecidableEq Address] in
theorem hasValidClaimFrom_eq_true_iff (s : Storage Address) (claimType : String) (t : Nat)
    (ids : List String) :
    hasValidClaimFrom s claimType t ids = true ↔
      ∃ id ∈ ids, ∃ a, s.attestations id = some a ∧ a.claimType = claimType ∧
        a.getStatus t = .valid := by
  induction ids with
  | nil => simp [hasValidClaimFrom]
  | cons id ids ih =>
    cases h : s.attestations id with
    | none => simp [hasValidClaimFrom, Storage.getAttestation, h, ih]
    | some a =>
      by_cases hc : a.claimType = claimType <;> by_cases hv : a.getStatus t = .valid <;>
        simp [hasValidClaimFrom, Storage.getAttestation, h, hc, hv, ih]

omit [DecidableEq Address] in
/-- `has_valid_claim` reads only the store and the subject index. -/
theorem hasValidClaim_congr (s₁ s₂ : Storage Address)
    (ha : s₁.attestations = s₂.attestations)
    (hi : s₁.subjectAttestations = s₂.subjectAttestations) (env : Env Address)
    (subject : Address) (claimType : String) :
    hasValidClaim s₁ env subject claimType = hasValidClaim s₂ env subject claimType := by
  unfold hasValidClaim Storage.getSubjectAttestations
  rw [hi, Bool.eq_iff_iff, hasValidClaimFrom_eq_true_iff, hasValidClaimFrom_eq_true_iff, ha]

omit [DecidableEq Address] in
/-- A claim valid at a later tick was valid already: the clock alone only ends claims. -/
theorem hasValidClaim_of_le (s : Storage Address) {env env' : Env Address}
    (ht : env.timestamp ≤ env'.timestamp) (subject : Address) (claimType : String)
    (h : hasValidClaim s env' subject claimType = true) :
    hasValidClaim s env subject claimType = true := by
  rw [hasValidClaim, hasValidClaimFrom_eq_true_iff] at h ⊢
  obtain ⟨id, hid, a, ha, hc, hv⟩ := h
  exact ⟨id, hid, a, ha, hc, a.getStatus_valid_of_le ht hv⟩

omit [DecidableEq Address] in
theorem getAttestationStatus_eq_ok (s : Storage Address) (env : Env Address) (id : String)
    (st : AttestationStatus) :
    getAttestationStatus s env id = .ok st ↔
      ∃ a, s.attestations id = some a ∧ a.getStatus env.timestamp = st := by
  cases h : s.attestations id <;> simp [getAttestationStatus, Storage.getAttestation, h]

/-! ## The public surface -/

/-- One public function of the contract, with its arguments. -/
inductive Call (Address : Type) where
  | initializeAdmin (admin : Address)
  | registerIssuer (admin issuer : Address)
  | removeIssuer (admin issuer : Address)
  | createAttestation (issuer subject : Address) (claimType : String) (expiration : Option Nat)
  | revokeAttestation (issuer : Address) (attestationId : String)
  | hasValidClaim (subject : Address) (claimType : String)
  | getAttestation (attestationId : String)
  | getAttestationStatus (attestationId : String)
  | getSubjectAttestations (subject : Address) (start limit : UInt32)
  | getIssuerAttestations (issuer : Address) (start limit : UInt32)
  | isIssuer (address : Address)
  | getAdmin

/-- The read-only entry points. -/
def Call.isQuery : Call Address → Bool
  | .initializeAdmin _ | .registerIssuer _ _ | .removeIssuer _ _ | .createAttestation _ _ _ _
  | .revokeAttestation _ _ => false
  | _ => true

/-- What an entry point returns on success. -/
inductive Value (Address : Type) where
  | unit
  | id (attestationId : String)
  | bool (b : Bool)
  | attestation (a : Attestation Address)
  | status (status : AttestationStatus)
  | ids (attestationIds : List String)
  | address (a : Address)

/-- A mutation's outcome, its success value tagged with `f`. -/
def withValue {α : Type} (f : α → Value Address) (out : Except Failure α × Storage Address) :
    Except Failure (Value Address) × Storage Address :=
  (out.1.map f, out.2)

section generateId

variable (generateId : Address → Address → String → Nat → String)

/-- Run one entry point on storage `s` in host context `env`. -/
def invoke (s : Storage Address) (env : Env Address) :
    Call Address → Except Failure (Value Address) × Storage Address
  | .initializeAdmin admin => withValue (fun _ => .unit) (initializeAdmin s env admin)
  | .registerIssuer admin issuer => withValue (fun _ => .unit) (registerIssuer s env admin issuer)
  | .removeIssuer admin issuer => withValue (fun _ => .unit) (removeIssuer s env admin issuer)
  | .createAttestation issuer subject claimType expiration =>
    withValue .id (createAttestation generateId s env issuer subject claimType expiration)
  | .revokeAttestation issuer attestationId =>
    withValue (fun _ => .unit) (revokeAttestation s env issuer attestationId)
  | .hasValidClaim subject claimType => (.ok (.bool (hasValidClaim s env subject claimType)), s)
  | .getAttestation attestationId =>
    (((getAttestation s attestationId).mapError .contract).map .attestation, s)
  | .getAttestationStatus attestationId =>
    (((getAttestationStatus s env attestationId).mapError .contract).map .status, s)
  | .getSubjectAttestations subject start limit =>
    ((getSubjectAttestations s subject start limit).map .ids, s)
  | .getIssuerAttestations issuer start limit =>
    ((getIssuerAttestations s issuer start limit).map .ids, s)
  | .isIssuer address => (.ok (.bool (isIssuer s address)), s)
  | .getAdmin => (((getAdmin s).mapError .contract).map .address, s)

/-- Everything one invocation can do to storage, with the guards the code checked on the
way (`invoke_effect`). -/
inductive Effect : Storage Address → Env Address → Call Address →
    Except Failure (Value Address) → Storage Address → Prop
  /-- A query, or a call that failed: storage is as it was. -/
  | noop {s env c r} : (c.isQuery = true ∨ ∃ f, r = .error f) → Effect s env c r s
  /-- `initialize` stored the first admin. -/
  | admin {s env admin} : s.admin = none → env.authorized admin = true →
      Effect s env (.initializeAdmin admin) (.ok .unit) (s.setAdmin admin)
  /-- The stored admin added an issuer. -/
  | register {s env admin issuer} : s.admin = some admin → env.authorized admin = true →
      Effect s env (.registerIssuer admin issuer) (.ok .unit) (s.addIssuer issuer)
  /-- The stored admin removed an issuer. -/
  | remove {s env admin issuer} : s.admin = some admin → env.authorized admin = true →
      Effect s env (.removeIssuer admin issuer) (.ok .unit) (s.removeIssuer issuer)
  /-- A current issuer published a fresh, unrevoked record under an unused id. -/
  | create {s env issuer subject claimType expiration} : env.authorized issuer = true →
      s.issuers issuer = true →
      s.attestations (generateId issuer subject claimType env.timestamp) = none →
      Effect s env (.createAttestation issuer subject claimType expiration)
        (.ok (.id (generateId issuer subject claimType env.timestamp)))
        (s.recordAttestation ⟨generateId issuer subject claimType env.timestamp, issuer,
          subject, claimType, env.timestamp, expiration, false⟩)
  /-- The record's own issuer set its revoked flag. -/
  | revoke {s env issuer attestationId a} : env.authorized issuer = true →
      s.attestations attestationId = some a → a.issuer = issuer → a.revoked = false →
      Effect s env (.revokeAttestation issuer attestationId) (.ok .unit)
        (s.setAttestation { a with revoked := true })

variable {generateId}

theorem effect_initializeAdmin (s : Storage Address) (env : Env Address) (admin : Address) :
    Effect generateId s env (.initializeAdmin admin)
      (invoke generateId s env (.initializeAdmin admin)).1
      (invoke generateId s env (.initializeAdmin admin)).2 := by
  simp only [invoke, withValue, initializeAdmin]
  split_ifs with h₁ h₂
  · exact .noop (.inr ⟨_, rfl⟩)
  · exact .noop (.inr ⟨_, rfl⟩)
  · exact .admin (by simpa [Storage.hasAdmin] using h₁) (by simpa using h₂)

theorem effect_adminUpdate {update : Storage Address → Address → Storage Address}
    {c : Call Address} {s : Storage Address} {env : Env Address} {admin issuer : Address}
    (hc : ∀ s, s.admin = some admin → env.authorized admin = true →
      Effect generateId s env c (.ok .unit) (update s issuer)) :
    Effect generateId s env c ((adminUpdate update s env admin issuer).1.map fun _ => .unit)
      (adminUpdate update s env admin issuer).2 := by
  unfold adminUpdate
  split_ifs with h₁
  · exact .noop (.inr ⟨_, rfl⟩)
  · split
    · exact .noop (.inr ⟨_, rfl⟩)
    · exact hc s ((Validation.requireAdmin_eq_ok s admin).mp ‹_›) (by simpa using h₁)

theorem effect_createAttestation (s : Storage Address) (env : Env Address)
    (issuer subject : Address) (claimType : String) (expiration : Option Nat) :
    Effect generateId s env (.createAttestation issuer subject claimType expiration)
      (invoke generateId s env (.createAttestation issuer subject claimType expiration)).1
      (invoke generateId s env (.createAttestation issuer subject claimType expiration)).2 := by
  simp only [invoke, withValue, createAttestation]
  split_ifs with h₁ h₂ <;> (try split) <;> try exact .noop (.inr ⟨_, rfl⟩)
  refine .create (by simpa using h₁) ((Validation.requireIssuer_eq_ok s issuer).mp ‹_›) ?_
  simpa [Storage.hasAttestation] using h₂

theorem effect_revokeAttestation (s : Storage Address) (env : Env Address) (issuer : Address)
    (attestationId : String) :
    Effect generateId s env (.revokeAttestation issuer attestationId)
      (invoke generateId s env (.revokeAttestation issuer attestationId)).1
      (invoke generateId s env (.revokeAttestation issuer attestationId)).2 := by
  simp only [invoke, withValue, revokeAttestation]
  split_ifs with h₁ <;> try exact .noop (.inr ⟨_, rfl⟩)
  split
  · exact .noop (.inr ⟨_, rfl⟩)
  · rename_i a ha
    split_ifs with h₂ h₃ <;> try exact .noop (.inr ⟨_, rfl⟩)
    exact .revoke (by simpa using h₁) ((Storage.getAttestation_eq_ok s _ a).mp ha)
      (by simpa using h₂) (by simpa using h₃)

variable (generateId) in
/-- **One inversion for every step**: whatever is invoked, storage changes only as one of
the `Effect` constructors says. -/
theorem invoke_effect (s : Storage Address) (env : Env Address) (c : Call Address) :
    Effect generateId s env c (invoke generateId s env c).1 (invoke generateId s env c).2 := by
  cases c with
  | initializeAdmin admin => exact effect_initializeAdmin s env admin
  | registerIssuer admin issuer => exact effect_adminUpdate fun _ => .register
  | removeIssuer admin issuer => exact effect_adminUpdate fun _ => .remove
  | createAttestation issuer subject claimType expiration =>
    exact effect_createAttestation s env issuer subject claimType expiration
  | revokeAttestation issuer attestationId =>
    exact effect_revokeAttestation s env issuer attestationId
  | _ => exact .noop (.inl rfl)

variable (generateId) in
theorem effect_of_invoke {s s' : Storage Address} {env : Env Address} {c : Call Address}
    {r : Except Failure (Value Address)} (h : invoke generateId s env c = (r, s')) :
    Effect generateId s env c r s' := by
  have he := invoke_effect generateId s env c
  rwa [h] at he

end generateId

end TrustLink
