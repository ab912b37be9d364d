import TrustLink.Lifecycle

/-!
# TrustLink: what each call returns after any history

The spec's scenarios (§8) — initialise once, register an issuer and attest, remove it and
try again, revoke — are about what a call returns given the calls made before it.  Here
that is stated for every run of a fresh deployment: the result of the next `initialize`,
`get_admin`, `create_attestation` or `revoke_attestation` is read off the run's transcript
alone, every error code included.  The storage is the transcript's summary: the admin slot
holds the first successful `initialize`'s admin (`runFrom_admin`), an issuer flag the last
admin write naming it (`runFrom_issuers`), the store the creations (`run_registry`), and a
record's revoked flag whether a successful revocation named it (`runFrom_revoked`).

* `run_initializeAdmin_outcome` — `get_admin` answers the first successful `initialize`'s
  admin; a further `initialize` fails with `AlreadyInitialized` exactly when there was one.
* `run_createAttestation_outcome` — a creation succeeds exactly when its issuer
  authenticates, the last admin write naming it was a registration, and its derived id was
  never returned before; otherwise it fails with `Unauthorized` or `DuplicateAttestation`,
  checked in that order.  So a registration lasts until a removal, and a creation cannot be
  repeated in its tick, whatever ran in between.
* `run_revokeAttestation_outcome` — a revocation is decided by the creation that returned
  the id and the revocations since, and never by the issuer set: a removed issuer still
  revokes its own records.
* `createAttestation_then_valid` — a creation that is not already expired is immediately
  visible to `has_valid_claim` and `get_attestation`.
* `revokeAttestation_then_final` — a revoked record reads `Revoked` at every tick, cannot be
  revoked again, and no longer counts for `has_valid_claim`.
-/

namespace TrustLink

open Registry

variable {Address : Type}

/-! ## What a transcript records, continued -/

/-- The admin an invocation stored: the argument of a successful `initialize`. -/
def initializedAdmin : Call Address → Except Failure (Value Address) → Option Address
  | .initializeAdmin admin, .ok _ => some admin
  | _, _ => none

/-- The admins a transcript's successful `initialize` calls stored, in call order. -/
def initializedAdmins : Transcript Address → List Address
  | [] => []
  | (i, r) :: tr => (initializedAdmin i.call r).toList ++ initializedAdmins tr

/-- The id an invocation revoked: the argument of a successful `revoke_attestation`. -/
def revokedBy : Call Address → Except Failure (Value Address) → Option String
  | .revokeAttestation _ attestationId, .ok _ => some attestationId
  | _, _ => none

/-- The ids a transcript's successful `revoke_attestation` calls revoked, in call order. -/
def revocations : Transcript Address → List String
  | [] => []
  | (i, r) :: tr => (revokedBy i.call r).toList ++ revocations tr

variable [DecidableEq Address]
variable {generateId : Address → Address → String → Nat → String}

/-! ## The storage as the summary of the transcript -/

/-- One step fills an empty admin slot with the admin a successful `initialize` named. -/
theorem Effect.admin_apply {s s' : Storage Address} {env : Env Address} {c : Call Address}
    {r : Except Failure (Value Address)} (he : Effect generateId s env c r s') :
    s'.admin = s.admin.or (initializedAdmin c r) := by
  cases he with
  | noop h =>
    rcases h with h | ⟨f, rfl⟩
    · cases c <;> simp_all [Call.isQuery, initializedAdmin, Option.or_none]
    · cases c <;> simp [initializedAdmin, Option.or_none]
  | admin hnone => simp [hnone, initializedAdmin]
  | _ => simp [initializedAdmin, Option.or_none]

theorem runFrom_admin (s : Storage Address) (is : List (Invocation Address)) :
    (runFrom generateId s is).1.admin =
      s.admin.or (initializedAdmins (runFrom generateId s is).2).head? := by
  induction is generalizing s with
  | nil => exact Option.or_none.symm
  | cons i is ih =>
    simp only [runFrom, initializedAdmins, List.head?_append, ih, Option.or_assoc,
      (invoke_effect generateId s i.env i.call).admin_apply]
    cases initializedAdmin i.call (invoke generateId s i.env i.call).1 <;> rfl

/-- One step sets the revoked flag of the record under `id` exactly when it is a successful
revocation of `id`. -/
theorem Effect.revoked_apply {s s' : Storage Address} {env : Env Address} {c : Call Address}
    {r : Except Failure (Value Address)} (he : Effect generateId s env c r s') (hk : Keyed s)
    (id : String) :
    (s'.attestations id).any Attestation.revoked =
      ((s.attestations id).any Attestation.revoked || decide (revokedBy c r = some id)) := by
  cases he with
  | noop h =>
    rcases h with h | ⟨f, rfl⟩
    · cases c <;> simp_all [Call.isQuery, revokedBy]
    · cases c <;> simp [revokedBy]
  | admin | register | remove => simp [revokedBy]
  | create _ _ hnone =>
    simp only [Storage.recordAttestation_attestations, Function.update_apply]
    split_ifs with h
    · subst h; simp [hnone, revokedBy]
    · simp [revokedBy]
  | @revoke issuer attestationId a _ ha =>
    simp only [Storage.setAttestation_attestations, Function.update_apply, hk ha]
    split_ifs with h
    · subst h; simp [revokedBy]
    · simp [revokedBy, Ne.symm h]

theorem runFrom_revoked {s : Storage Address} (hs : Reachable generateId s)
    (is : List (Invocation Address)) (id : String) :
    ((runFrom generateId s is).1.attestations id).any Attestation.revoked =
      ((s.attestations id).any Attestation.revoked ||
        decide (id ∈ revocations (runFrom generateId s is).2)) := by
  induction is generalizing s with
  | nil => simp [runFrom, revocations]
  | cons i is ih =>
    simp only [runFrom, revocations, ih (hs.step i.env i.call),
      (invoke_effect generateId s i.env i.call).revoked_apply hs.keyed, List.mem_append,
      Option.mem_toList, Option.mem_def, Bool.decide_or, Bool.or_assoc]

/-- The issuer of the record stored under `id` is that of the entry with id `id`. -/
theorem Registry.attestations_issuer (r : Registry Address) (id : String) :
    (r.toStorage.attestations id).map Attestation.issuer =
      (r.entries.find? (·.id = id)).map Creation.issuer := by
  simp [toStorage, entries, List.find?_map, Function.comp_def, Option.map_map]

/-! ## Initialisation -/

variable (generateId) in
/-- **`initialize` after any history.**  After any run of a fresh deployment, `get_admin`
returns the admin of the run's first successful `initialize`, or `NotInitialized` if there
was none; and a further `initialize`, by anyone, fails with `AlreadyInitialized` exactly when
there was one, and otherwise succeeds exactly when the named admin authenticates. -/
theorem run_initializeAdmin_outcome (is : List (Invocation Address)) (env : Env Address)
    (admin : Address) :
    getAdmin (run generateId is).1 =
      (match (initializedAdmins (run generateId is).2).head? with
        | some a => .ok a
        | none => .error .notInitialized) ∧
    (initializeAdmin (run generateId is).1 env admin).1 =
      if initializedAdmins (run generateId is).2 = [] then
        (if env.authorized admin then .ok () else .error .authTrap)
      else .error (.contract .alreadyInitialized) := by
  have h : (run generateId is).1.admin = (initializedAdmins (run generateId is).2).head? :=
    runFrom_admin Storage.init is
  refine ⟨?_, ?_⟩
  · cases ha : (initializedAdmins (run generateId is).2).head? <;>
      simp [getAdmin, Storage.getAdmin, h, ha]
  simp only [initializeAdmin, Storage.hasAdmin, h]
  cases initializedAdmins (run generateId is).2 <;> cases env.authorized admin <;> rfl

/-- After the example run, `get_admin` answers `0` and a second `initialize` is refused. -/
theorem run_initializeAdmin_outcome_example :
    getAdmin exampleState = .ok 0 ∧
      (initializeAdmin exampleState ⟨5, fun _ => true⟩ 3).1 =
        .error (.contract .alreadyInitialized) :=
  have h := run_initializeAdmin_outcome exampleId exampleRun ⟨5, fun _ => true⟩ 3
  ⟨h.1.trans rfl, h.2.trans rfl⟩

/-! ## Creation -/

variable (generateId) in
/-- **`create_attestation` after any history.**  After any run of a fresh deployment, a
creation aborts unless its issuer authenticates; then fails with `Unauthorized` unless the
last successful `register_issuer` or `remove_issuer` naming the issuer was a registration;
then fails with `DuplicateAttestation` if its derived id was returned by an earlier creation
(revoked since or not); and otherwise returns that id. -/
theorem run_createAttestation_outcome (is : List (Invocation Address)) (env : Env Address)
    (issuer subject : Address) (claimType : String) (expiration : Option Nat) :
    (createAttestation generateId (run generateId is).1 env issuer subject claimType
      expiration).1 =
      if env.authorized issuer = false then .error .authTrap
      else if ((issuerWrites issuer (run generateId is).2).getLast?).getD false = false then
        .error (.contract .unauthorized)
      else if generateId issuer subject claimType env.timestamp ∈
          (creations (run generateId is).2).map Creation.id then
        .error (.contract .duplicateAttestation)
      else .ok (generateId issuer subject claimType env.timestamp) := by
  obtain ⟨r, hs, hL⟩ := run_registry generateId is
  have hiss : (run generateId is).1.issuers issuer =
      ((issuerWrites issuer (run generateId is).2).getLast?).getD false :=
    runFrom_issuers Storage.init is issuer
  have hstored : ∀ k, ((run generateId is).1.attestations k).isSome ↔
      k ∈ (creations (run generateId is).2).map Creation.id := by
    rw [hs, ← hL, entries_ids]
    exact r.toStorage_isSome_iff
  simp only [createAttestation, Validation.requireIssuer, Storage.isIssuer,
    Storage.hasAttestation, hiss, hstored]
  cases env.authorized issuer <;>
    cases ((issuerWrites issuer (run generateId is).2).getLast?).getD false <;> simp [apply_ite]

/-- Admin `0` removes issuer `1` after the example run. -/
def removalRun : List (Invocation Nat) :=
  exampleRun ++ [⟨⟨30, fun a => a = 0⟩, .removeIssuer 0 1⟩]

/-- After `removalRun`, issuer `1` can no longer attest. -/
theorem run_createAttestation_outcome_example :
    (createAttestation exampleId (run exampleId removalRun).1 ⟨31, fun a => a = 1⟩ 1 2 "AML"
      none).1 = .error (.contract .unauthorized) :=
  (run_createAttestation_outcome exampleId removalRun ⟨31, fun a => a = 1⟩ 1 2 "AML" none).trans
    rfl

/-! ## Revocation after any history -/

variable (generateId) in
/-- **`revoke_attestation` after any history.**  After any run of a fresh deployment, a
revocation aborts unless its caller authenticates; then fails with `NotFound` unless an
earlier creation returned the id, with `Unauthorized` unless that creation's issuer is the
caller, and with `AlreadyRevoked` if a successful revocation named the id since; otherwise it
succeeds.  The issuer set plays no part. -/
theorem run_revokeAttestation_outcome (is : List (Invocation Address)) (env : Env Address)
    (issuer : Address) (attestationId : String) :
    (revokeAttestation (run generateId is).1 env issuer attestationId).1 =
      if env.authorized issuer = false then .error .authTrap
      else
        match (creations (run generateId is).2).find? (·.id = attestationId) with
        | none => .error (.contract .notFound)
        | some creation =>
          if creation.issuer ≠ issuer then .error (.contract .unauthorized)
          else if attestationId ∈ revocations (run generateId is).2 then
            .error (.contract .alreadyRevoked)
          else .ok () := by
  obtain ⟨r, hs, hL⟩ := run_registry generateId is
  have hiss := r.attestations_issuer attestationId
  rw [← hs, hL] at hiss
  have hrev : ((run generateId is).1.attestations attestationId).any Attestation.revoked =
      decide (attestationId ∈ revocations (run generateId is).2) :=
    runFrom_revoked (Reachable.init : Reachable generateId Storage.init) is attestationId
  unfold revokeAttestation
  cases env.authorized issuer
  · rfl
  · cases ha : (run generateId is).1.attestations attestationId with
    | none =>
      rw [ha, Option.map_none'] at hiss
      simp [Storage.getAttestation, ha, Option.map_eq_none'.mp hiss.symm]
    | some a =>
      rw [ha, Option.map_some'] at hiss
      rw [ha, Option.any_some] at hrev
      obtain ⟨c, hc, hci⟩ := Option.map_eq_some'.mp hiss.symm
      simp [Storage.getAttestation, ha, hc, hci, hrev]
      split_ifs <;> rfl

/-- After `removalRun`, issuer `1` still revokes its `KYC_PASSED@10` record. -/
theorem run_revokeAttestation_outcome_example :
    (revokeAttestation (run exampleId removalRun).1 ⟨31, fun a => a = 1⟩ 1
      "KYC_PASSED@10").1 = .ok () :=
  (run_revokeAttestation_outcome exampleId removalRun ⟨31, fun a => a = 1⟩ 1
    "KYC_PASSED@10").trans rfl

/-! ## The round trip -/

/-- **Round trip.**  Right after a successful `create_attestation` whose expiration has not
passed, `has_valid_claim` holds for its subject and claim type, and `get_attestation`
returns the new record. -/
theorem createAttestation_then_valid {s s' : Storage Address} {env : Env Address}
    {issuer subject : Address} {claimType : String} {expiration : Option Nat} {id : String}
    (h : createAttestation generateId s env issuer subject claimType expiration = (.ok id, s'))
    (hexp : ∀ e, expiration = some e → env.timestamp < e) :
    hasValidClaim s' env subject claimType = true ∧
      getAttestation s' id =
        .ok ⟨id, issuer, subject, claimType, env.timestamp, expiration, false⟩ := by
  obtain ⟨-, -, -, rfl, rfl⟩ := createAttestation_eq_ok.mp h
  refine ⟨?_, by simp [getAttestation]⟩
  rw [hasValidClaim, hasValidClaimFrom_eq_true_iff]
  refine ⟨_, ?_, _, Function.update_same _ _ _, rfl,
    (Attestation.getStatus_eq_valid_iff _ _).mpr ⟨rfl, hexp⟩⟩
  simp [Storage.getSubjectAttestations]

/-- The example run's last creation, read back in its own tick. -/
theorem createAttestation_then_valid_example :
    hasValidClaim exampleState ⟨11, fun a => a = 1⟩ 2 "ACCREDITED" = true ∧
      getAttestation exampleState "ACCREDITED@11" =
        .ok ⟨"ACCREDITED@11", 1, 2, "ACCREDITED", 11, none, false⟩ :=
  createAttestation_then_valid
    (show createAttestation exampleId (run exampleId (exampleRun.take 3)).1
      ⟨11, fun a => a = 1⟩ 1 2 "ACCREDITED" none = (.ok "ACCREDITED@11", exampleState) from
      Prod.ext rfl rfl) (fun _ h => nomatch h)

/-! ## Revocation -/

/-- **Revocation is final.**  After a successful `revoke_attestation` from a reachable state,
the record reads `Revoked` at every tick, a second revocation fails with `AlreadyRevoked`
and writes nothing, and `has_valid_claim` holds exactly when some other stored record of
the subject and claim type is valid. -/
theorem revokeAttestation_then_final {s s' : Storage Address} (hs : Reachable generateId s)
    {env : Env Address} {issuer : Address} {attestationId : String}
    (h : revokeAttestation s env issuer attestationId = (.ok (), s')) :
    (∀ env', getAttestationStatus s' env' attestationId = .ok .revoked) ∧
    (∀ env', env'.authorized issuer = true →
      revokeAttestation s' env' issuer attestationId =
        (.error (.contract .alreadyRevoked), s')) ∧
    ∀ env' subject claimType, hasValidClaim s' env' subject claimType = true ↔
      ∃ k a, k ≠ attestationId ∧ s.attestations k = some a ∧ a.subject = subject ∧
        a.claimType = claimType ∧ a.getStatus env'.timestamp = .valid := by
  obtain ⟨-, a, ha, hi, -, rfl⟩ := revokeAttestation_eq_ok.mp h
  obtain ⟨r, rfl⟩ := reachable_registry hs
  have hk : a.id = attestationId := r.toStorage_keyed ha
  refine ⟨fun env' => ?_, fun env' hauth => ?_, fun env' subject claimType => ?_⟩
  · simp [getAttestationStatus, Storage.getAttestation, hk, Attestation.getStatus]
  · simp [revokeAttestation, hauth, Storage.getAttestation, hk, hi]
  · rw [r.setAttestation_revoke_toStorage ha, r.hasValidClaim_revoke_toStorage]
    constructor
    · rintro ⟨b, hb, hs, hc, hne, hv⟩
      exact ⟨b.id, b, hne, r.find_id_eq_some_iff.mpr ⟨hb, rfl⟩, hs, hc, hv⟩
    · rintro ⟨_, b, hne, hb, hs, hc, hv⟩
      obtain ⟨hmem, rfl⟩ := r.find_id_eq_some_iff.mp hb
      exact ⟨b, hmem, hs, hc, hne, hv⟩

/-- Issuer `1` revokes `KYC_PASSED@10` after the example run: it reads `Revoked` and cannot
be revoked again. -/
theorem revokeAttestation_then_final_example :
    getAttestationStatus (revokeAttestation exampleState ⟨20, fun a => a = 1⟩ 1
      "KYC_PASSED@10").2 ⟨20, fun _ => false⟩ "KYC_PASSED@10" = .ok .revoked ∧
    revokeAttestation (revokeAttestation exampleState ⟨20, fun a => a = 1⟩ 1 "KYC_PASSED@10").2
      ⟨21, fun a => a = 1⟩ 1 "KYC_PASSED@10" =
        (.error (.contract .alreadyRevoked),
          (revokeAttestation exampleState ⟨20, fun a => a = 1⟩ 1 "KYC_PASSED@10").2) :=
  have h := revokeAttestation_then_final reachable_exampleState
    (show revokeAttestation exampleState ⟨20, fun a => a = 1⟩ 1 "KYC_PASSED@10" =
      (.ok (), (revokeAttestation exampleState ⟨20, fun a => a = 1⟩ 1 "KYC_PASSED@10").2) from
      Prod.ext rfl rfl)
  ⟨h.1 _, h.2.1 _ rfl⟩

end TrustLink
