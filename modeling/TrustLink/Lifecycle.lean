import TrustLink.Registry

/-!
# TrustLink: authorization and the attestation lifecycle

The safety properties of the contract, each over every invocation from every reachable
state, all derived from the one inversion `invoke_effect` and the representation
invariant of `TrustLink.Registry`.

* `failed_call_or_query_leaves_storage` — a failed call or a query writes nothing: no
  entry point writes before it can still fail.
* `mutation_requires_authorization` — the issuer set changes only through the stored
  admin, and a record appears only through a current issuer's successful creation.
* `records_immutable_revoked_monotone` — a stored record keeps every field but its
  revoked flag, which only goes from `false` to `true`; so the status of an id never
  leaves `Revoked` and never returns from `Expired` to `Valid`.
* `runFrom_records_revoked_only` — the same over every sequence of invocations, by
  induction from the step lemma `Effect.record_kept`.
* `hasValidClaim_changes_only_by_create_or_revoke` — `has_valid_claim` turns true only by
  a matching creation and false only by the clock or a matching revocation.
* `admin_set_once_and_gates` — one successful `initialize` at most, the admin is never
  reassigned, and before it nothing else is stored.
* `run_isIssuer_last_write` — after any run, `is_issuer(a)` is what the last successful
  `register_issuer` or `remove_issuer` naming `a` wrote.
* `revoke_decided_by_authorship` — revocation is decided by the record's own issuer, not
  the current issuer set, and flips exactly one flag.
-/

namespace TrustLink

open Registry

variable {Address : Type} [DecidableEq Address]
variable {generateId : Address → Address → String → Nat → String}

/-- Every stored record sits under its own id. -/
def Keyed (s : Storage Address) : Prop :=
  ∀ ⦃k : String⦄ ⦃a : Attestation Address⦄, s.attestations k = some a → a.id = k

theorem Reachable.keyed {s : Storage Address} (hs : Reachable generateId s) : Keyed s := by
  obtain ⟨r, rfl⟩ := reachable_registry hs
  exact fun _ _ => r.toStorage_keyed

/-! ## Failed calls and queries -/

variable (generateId) in
/-- **Failed calls and queries leave storage as it was**: every entry point checks all its
guards before its first write, and the queries write nothing. -/
theorem failed_call_or_query_leaves_storage {s s' : Storage Address} {env : Env Address}
    {c : Call Address} {r : Except Failure (Value Address)}
    (hstep : invoke generateId s env c = (r, s'))
    (hfail : (∃ f, r = .error f) ∨ c.isQuery = true) : s' = s := by
  cases effect_of_invoke generateId hstep with
  | noop => rfl
  | _ => simp [Call.isQuery] at hfail

/-- Issuing the same claim again in the same tick fails, and leaves storage as it was. -/
theorem failed_call_or_query_leaves_storage_example :
    (invoke exampleId exampleState ⟨10, fun a => a = 1⟩
      (.createAttestation 1 2 "KYC_PASSED" (some 100))).2 = exampleState :=
  failed_call_or_query_leaves_storage exampleId (Prod.ext rfl rfl) (.inl ⟨_, rfl⟩)

/-! ## Who may change what -/

/-- **Authorization of every mutation.**  From a reachable state, the issuer set changes only
by a successful `register_issuer` or `remove_issuer` whose `admin` argument authenticated and
is the stored admin; and a new id appears in the store only by a successful
`create_attestation` of an authenticated, currently registered issuer, stored with that
issuer and unrevoked.  No revocation and no query does either. -/
theorem mutation_requires_authorization {s s' : Storage Address} {env : Env Address}
    {c : Call Address} {r : Except Failure (Value Address)}
    (hs : Reachable generateId s) (hstep : invoke generateId s env c = (r, s')) :
    (s'.issuers ≠ s.issuers →
      ∃ admin issuer, (c = .registerIssuer admin issuer ∨ c = .removeIssuer admin issuer) ∧
        r = .ok .unit ∧ env.authorized admin = true ∧ s.admin = some admin) ∧
    (∀ k, s.attestations k = none → s'.attestations k ≠ none →
      ∃ issuer subject claimType expiration,
        c = .createAttestation issuer subject claimType expiration ∧ r = .ok (.id k) ∧
        env.authorized issuer = true ∧ s.issuers issuer = true ∧
        ∃ a, s'.attestations k = some a ∧ a.issuer = issuer ∧ a.revoked = false) := by
  cases effect_of_invoke generateId hstep with
  | noop | admin => exact ⟨fun h => absurd rfl h, fun _ h₁ h₂ => absurd h₁ h₂⟩
  | @register admin issuer hadmin hauth | @remove admin issuer hadmin hauth =>
    exact ⟨fun _ => ⟨admin, issuer, by simp, rfl, hauth, hadmin⟩, fun _ h₁ h₂ => absurd h₁ h₂⟩
  | @create issuer subject claimType expiration hauth hiss _ =>
    refine ⟨fun h => absurd rfl h, fun k h₁ h₂ => ?_⟩
    simp only [Storage.recordAttestation_attestations, Function.update_apply] at h₂ ⊢
    split_ifs at h₂ ⊢ with hk
    · subst hk
      exact ⟨issuer, subject, claimType, expiration, rfl, rfl, hauth, hiss, _, rfl, rfl, rfl⟩
    · exact absurd h₁ h₂
  | revoke _ ha =>
    refine ⟨fun h => absurd rfl h, fun k h₁ h₂ => ?_⟩
    simp only [Storage.setAttestation_attestations, Function.update_apply] at h₂
    split_ifs at h₂ with hk
    · rw [hk, hs.keyed ha, ha] at h₁
      cases h₁
    · exact absurd h₁ h₂

/-- In the example, the KYC record appeared through issuer `1`, registered at that point. -/
theorem mutation_requires_authorization_example :
    (run exampleId (exampleRun.take 2)).1.issuers 1 = true := by
  obtain ⟨_, _, _, _, hc, -, -, hiss, -⟩ :=
    (@mutation_requires_authorization Nat _ exampleId _ _ ⟨10, fun a => a = 1⟩
      (.createAttestation 1 2 "KYC_PASSED" (some 100)) _
      ((reachable_iff_run _).mpr ⟨exampleRun.take 2, rfl⟩) (Prod.ext rfl rfl)).2
      "KYC_PASSED@10" rfl (by decide)
  cases hc
  exact hiss

/-! ## Records are never lost or rewritten -/

/-- A step keeps every stored record, at most setting its revoked flag. -/
theorem Effect.record_kept {s s' : Storage Address} {env : Env Address} {c : Call Address}
    {r : Except Failure (Value Address)} (he : Effect generateId s env c r s') (hk : Keyed s)
    {k : String} {a : Attestation Address} (h : s.attestations k = some a) :
    ∃ a', s'.attestations k = some a' ∧ (a' = a ∨ a' = { a with revoked := true }) := by
  cases he with
  | noop | admin | register | remove => exact ⟨a, h, .inl rfl⟩
  | @create issuer subject claimType _ _ _ hnone =>
    have hne : k ≠ generateId issuer subject claimType env.timestamp :=
      ne_of_apply_ne s.attestations (by rw [h, hnone]; simp)
    exact ⟨a, by simp [Function.update_noteq hne, h], .inl rfl⟩
  | revoke _ ha =>
    simp only [Storage.setAttestation_attestations, Function.update_apply]
    split_ifs with hk'
    · rw [hk', hk ha, ha] at h
      cases h
      exact ⟨_, rfl, .inr rfl⟩
    · exact ⟨a, h, .inl rfl⟩

omit [DecidableEq Address] in
/-- Read at a later tick, a record that was at most revoked in between is still `Revoked` if
it was, and is not `Valid` if it had expired. -/
theorem getAttestationStatus_later {s : Storage Address} (s' : Storage Address) (k : String)
    {env env' : Env Address} (ht : env.timestamp ≤ env'.timestamp)
    (kept : ∀ {a}, s.attestations k = some a →
      ∃ a', s'.attestations k = some a' ∧ (a' = a ∨ a' = { a with revoked := true })) :
    (getAttestationStatus s env k = .ok .revoked →
      getAttestationStatus s' env' k = .ok .revoked) ∧
    (getAttestationStatus s env k = .ok .expired →
      getAttestationStatus s' env' k ≠ .ok .valid) := by
  simp only [getAttestationStatus_eq_ok, ne_eq, not_exists, not_and]
  constructor
  · rintro ⟨a, h, hst⟩
    obtain ⟨a', h', ha'⟩ := kept h
    exact ⟨a', h', (Attestation.getStatus_never_improves ha' ht).1 hst⟩
  · rintro ⟨a, h, hst⟩ a'' h''
    obtain ⟨a', h', ha'⟩ := kept h
    cases h'.symm.trans h''
    exact (Attestation.getStatus_never_improves ha' ht).2 hst

/-- **Records are immutable except for a one-way revoked flag.**  From a reachable state,
every step keeps every stored id, with the same id, issuer, subject, claim type, timestamp
and expiration, and a revoked record stays revoked; so with the clock not going back, the
status of an id never leaves `Revoked` and never goes from `Expired` back to `Valid`,
whether the clock alone moved (`s` at `env'`) or an invocation ran first (`s'` at `env'`). -/
theorem records_immutable_revoked_monotone {s s' : Storage Address} {env : Env Address}
    {c : Call Address} {r : Except Failure (Value Address)}
    (hs : Reachable generateId s) (hstep : invoke generateId s env c = (r, s')) :
    (∀ k a, s.attestations k = some a → ∃ a', s'.attestations k = some a' ∧
      a'.id = a.id ∧ a'.issuer = a.issuer ∧ a'.subject = a.subject ∧
      a'.claimType = a.claimType ∧ a'.timestamp = a.timestamp ∧
      a'.expiration = a.expiration ∧ (a.revoked = true → a'.revoked = true)) ∧
    (∀ k (env' : Env Address), env.timestamp ≤ env'.timestamp →
      (getAttestationStatus s env k = .ok .revoked →
        getAttestationStatus s env' k = .ok .revoked ∧
        getAttestationStatus s' env' k = .ok .revoked) ∧
      (getAttestationStatus s env k = .ok .expired →
        getAttestationStatus s env' k ≠ .ok .valid ∧
        getAttestationStatus s' env' k ≠ .ok .valid)) := by
  have kept := fun {k a} (h : s.attestations k = some a) =>
    (effect_of_invoke generateId hstep).record_kept hs.keyed h
  refine ⟨fun k a h => ?_, fun k env' ht => ?_⟩
  · obtain ⟨a', h', rfl | rfl⟩ := kept h
    · exact ⟨_, h', rfl, rfl, rfl, rfl, rfl, rfl, id⟩
    · exact ⟨_, h', rfl, rfl, rfl, rfl, rfl, rfl, fun _ => rfl⟩
  · have now := getAttestationStatus_later s k ht fun h => ⟨_, h, .inl rfl⟩
    have next := getAttestationStatus_later s' k ht kept
    exact ⟨fun h => ⟨now.1 h, next.1 h⟩, fun h => ⟨now.2 h, next.2 h⟩⟩

/-- The example's KYC record has expired by tick 150; after a further creation, at tick 200
it is still not valid. -/
theorem records_immutable_revoked_monotone_example :
    getAttestationStatus (invoke exampleId exampleState ⟨150, fun a => a = 1⟩
        (.createAttestation 1 3 "KYC_PASSED" none)).2 ⟨200, fun _ => false⟩ "KYC_PASSED@10" ≠
      .ok .valid :=
  (((@records_immutable_revoked_monotone Nat _ exampleId _ _ ⟨150, fun a => a = 1⟩
    (.createAttestation 1 3 "KYC_PASSED" none) _ reachable_exampleState (Prod.ext rfl rfl)).2
    "KYC_PASSED@10" ⟨200, fun _ => false⟩ (by decide)).2 rfl).2

/-- The run lemma of `Effect.record_kept`: any sequence of invocations from a reachable
state keeps a stored record, at most revoked. -/
theorem runFrom_record_kept {s : Storage Address} (hs : Reachable generateId s) {k : String}
    {a : Attestation Address} (h : s.attestations k = some a) (is : List (Invocation Address)) :
    ∃ a', (runFrom generateId s is).1.attestations k = some a' ∧
      (a' = a ∨ a' = { a with revoked := true }) := by
  induction is generalizing s a with
  | nil => exact ⟨a, h, .inl rfl⟩
  | cons i is ih =>
    obtain ⟨a₁, h₁, ha₁⟩ := (invoke_effect generateId s i.env i.call).record_kept hs.keyed h
    obtain ⟨a', h', ha'⟩ := ih (hs.step i.env i.call) h₁
    refine ⟨a', h', ?_⟩
    rcases ha₁ with rfl | rfl <;> rcases ha' with rfl | rfl <;>
      first | exact .inl rfl | exact .inr rfl

/-- **Records over whole runs.**  From a reachable state, every sequence of invocations
leaves each stored record either as it was or with exactly its revoked flag set; so, read at
a later tick after the run, an id that was `Revoked` still is, and one that had `Expired` is
not `Valid`. -/
theorem runFrom_records_revoked_only {s : Storage Address} (hs : Reachable generateId s)
    (is : List (Invocation Address)) (k : String) :
    (∀ a, s.attestations k = some a → ∃ a', (runFrom generateId s is).1.attestations k = some a' ∧
      (a' = a ∨ a' = { a with revoked := true })) ∧
    ∀ env env' : Env Address, env.timestamp ≤ env'.timestamp →
      (getAttestationStatus s env k = .ok .revoked →
        getAttestationStatus (runFrom generateId s is).1 env' k = .ok .revoked) ∧
      (getAttestationStatus s env k = .ok .expired →
        getAttestationStatus (runFrom generateId s is).1 env' k ≠ .ok .valid) :=
  ⟨fun _ h => runFrom_record_kept hs h is,
    fun _ _ ht => getAttestationStatus_later _ k ht fun h => runFrom_record_kept hs h is⟩

/-- The example's KYC record, expired at tick 150, is still not valid at tick 200 after a
revocation attempt by a stranger and a new creation. -/
theorem runFrom_records_revoked_only_example :
    getAttestationStatus (runFrom exampleId exampleState
      [⟨⟨160, fun a => a = 5⟩, .revokeAttestation 5 "KYC_PASSED@10"⟩,
       ⟨⟨170, fun a => a = 1⟩, .createAttestation 1 3 "AML" none⟩]).1
      ⟨200, fun _ => false⟩ "KYC_PASSED@10" ≠ .ok .valid :=
  ((runFrom_records_revoked_only reachable_exampleState _ "KYC_PASSED@10").2
    ⟨150, fun _ => false⟩ _ (by decide)).2 rfl

/-! ## Why `has_valid_claim` changes -/

omit [DecidableEq Address] in
/-- A step that leaves the store and the subject index alone cannot change
`has_valid_claim`, so any claim about how it changed holds vacuously. -/
theorem hasValidClaim_unchanged {s s' : Storage Address} {env : Env Address} {subject : Address}
    {claimType : String} {P Q : Prop} (ha : s'.attestations = s.attestations)
    (hi : s'.subjectAttestations = s.subjectAttestations) :
    (hasValidClaim s env subject claimType = false →
      hasValidClaim s' env subject claimType = true → P) ∧
    (hasValidClaim s env subject claimType = true →
      hasValidClaim s' env subject claimType = false → Q) := by
  rw [hasValidClaim_congr s' s ha hi]
  exact ⟨fun h₁ h₂ => absurd (h₁.symm.trans h₂) (by decide),
    fun h₁ h₂ => absurd (h₂.symm.trans h₁) (by decide)⟩

/-- **`has_valid_claim` changes only for the right reasons.**  From a reachable state: the
clock moving forward can only end a claim; and an invocation at the same tick makes the
claim hold only by a successful `create_attestation` for this subject and claim type that
is not already expired, and makes it fail only by a successful `revoke_attestation` of a
record of this subject and claim type.  Issuer changes (removing an issuer does not
invalidate its attestations), other subjects and claim types, and failed calls never
change it. -/
theorem hasValidClaim_changes_only_by_create_or_revoke {s : Storage Address}
    (hs : Reachable generateId s) (subject : Address) (claimType : String) :
    (∀ env env' : Env Address, env.timestamp ≤ env'.timestamp →
      hasValidClaim s env' subject claimType = true →
      hasValidClaim s env subject claimType = true) ∧
    (∀ (env : Env Address) (c : Call Address) r s', invoke generateId s env c = (r, s') →
      (hasValidClaim s env subject claimType = false →
        hasValidClaim s' env subject claimType = true →
        ∃ issuer expiration id, c = .createAttestation issuer subject claimType expiration ∧
          r = .ok (.id id) ∧ ∀ e, expiration = some e → env.timestamp < e) ∧
      (hasValidClaim s env subject claimType = true →
        hasValidClaim s' env subject claimType = false →
        ∃ issuer id a, c = .revokeAttestation issuer id ∧ r = .ok .unit ∧
          s.attestations id = some a ∧ a.subject = subject ∧ a.claimType = claimType)) := by
  refine ⟨fun env env' ht => hasValidClaim_of_le s ht subject claimType,
    fun env c r s' hstep => ?_⟩
  obtain ⟨R, rfl⟩ := reachable_registry hs
  cases effect_of_invoke generateId hstep with
  | noop | admin | register | remove => exact hasValidClaim_unchanged rfl rfl
  | @create issuer subject' claimType' expiration _ _ hnone =>
    rw [toStorage_attestations_eq_none] at hnone
    simp only [← Bool.not_eq_true]
    rw [R.recordAttestation_toStorage _ hnone, R.hasValidClaim_append_toStorage]
    refine ⟨fun h₁ h₂ => ?_, fun h₁ h₂ => absurd (.inl h₁) h₂⟩
    obtain h₂ | ⟨rfl, rfl, hv⟩ := h₂
    · exact absurd h₂ h₁
    · exact ⟨issuer, expiration, _, rfl, rfl, ((Attestation.getStatus_eq_valid_iff _ _).mp hv).2⟩
  | @revoke issuer id a _ ha _ _ =>
    simp only [R.setAttestation_revoke_toStorage ha, ← Bool.not_eq_true]
    rw [R.hasValidClaim_revoke_toStorage, R.hasValidClaim_toStorage]
    refine ⟨fun h₁ ⟨b, hb, hbs, hbc, _, hbv⟩ => absurd ⟨b, hb, hbs, hbc, hbv⟩ h₁,
      fun h₁ h₂ => ?_⟩
    obtain ⟨b, hb, hbs, hbc, hbv⟩ := h₁
    by_cases hid : b.id = id
    · exact ⟨issuer, id, b, rfl, trivial, R.find_id_eq_some_iff.mpr ⟨hb, hid⟩, hbs, hbc⟩
    · exact absurd ⟨b, hb, hbs, hbc, hid, hbv⟩ h₂

/-- Revoking the example's KYC record at tick 20 ends the claim, and that revocation
succeeded. -/
theorem hasValidClaim_changes_only_by_create_or_revoke_example :
    (invoke exampleId exampleState ⟨20, fun a => a = 1⟩
      (.revokeAttestation 1 "KYC_PASSED@10")).1 = .ok .unit := by
  obtain ⟨_, _, _, -, hr, -⟩ :=
    ((hasValidClaim_changes_only_by_create_or_revoke reachable_exampleState 2 "KYC_PASSED").2
      ⟨20, fun a => a = 1⟩ (.revokeAttestation 1 "KYC_PASSED@10") _ _ (Prod.ext rfl rfl)).2
      (by decide) (by decide)
  exact hr

/-! ## The administrator -/

/-- No step reassigns or clears a stored admin. -/
theorem Effect.admin_kept {s s' : Storage Address} {env : Env Address} {c : Call Address}
    {r : Except Failure (Value Address)} (he : Effect generateId s env c r s') {a : Address}
    (h : s.admin = some a) : s'.admin = some a := by
  cases he with
  | admin hnone => rw [h] at hnone; cases hnone
  | _ => exact h

/-- Only a successful `initialize` writes the admin slot, and only an empty one. -/
theorem Effect.admin_eq {s s' : Storage Address} {env : Env Address} {c : Call Address}
    {r : Except Failure (Value Address)} (he : Effect generateId s env c r s') :
    initializedBy c r = true ∧ s.admin = none ∧ s'.admin ≠ none ∨
      initializedBy c r = false ∧ s'.admin = s.admin := by
  cases he with
  | noop h =>
    rcases h with h | ⟨f, rfl⟩
    · exact .inr ⟨initializedBy_query h _, rfl⟩
    · exact .inr ⟨initializedBy_error _ f, rfl⟩
  | admin hnone => exact .inl ⟨rfl, hnone, by simp⟩
  | _ => exact .inr ⟨rfl, rfl⟩

variable (generateId) in
theorem initializations_runFrom (s : Storage Address) (is : List (Invocation Address)) :
    initializations (runFrom generateId s is).2 ≤ if s.admin = none then 1 else 0 := by
  induction is generalizing s with
  | nil => exact Nat.zero_le _
  | cons i is ih =>
    have hrest := ih (invoke generateId s i.env i.call).2
    simp only [runFrom, initializations, List.countP_cons] at hrest ⊢
    rcases (invoke_effect generateId s i.env i.call).admin_eq with
      ⟨h, hnone, hsome⟩ | ⟨h, heq⟩
    · simp only [h, hnone, if_pos, if_neg hsome] at hrest ⊢
      omega
    · simpa [h, heq] using hrest

theorem runFrom_admin_kept {s : Storage Address} {a : Address} (h : s.admin = some a)
    (is : List (Invocation Address)) : (runFrom generateId s is).1.admin = some a := by
  induction is generalizing s with
  | nil => exact h
  | cons i is ih => exact ih ((invoke_effect generateId s i.env i.call).admin_kept h)

/-- Before `initialize` nothing is stored, and no step changes that. -/
theorem Effect.eq_init_of_admin_none {s s' : Storage Address} {env : Env Address}
    {c : Call Address} {r : Except Failure (Value Address)} (he : Effect generateId s env c r s')
    (ih : s.admin = none → s = Storage.init) (h : s'.admin = none) : s' = Storage.init := by
  cases he with
  | noop => exact ih h
  | admin | register | remove => simp_all
  | create _ hiss =>
    rw [ih h] at hiss
    cases hiss
  | revoke _ ha =>
    rw [ih h] at ha
    cases ha

theorem Reachable.eq_init_of_admin_none {s : Storage Address} (hs : Reachable generateId s)
    (h : s.admin = none) : s = Storage.init :=
  reachable_induction (P := fun s => s.admin = none → s = Storage.init) (fun _ => rfl)
    (fun s env c _ ih => (invoke_effect generateId s env c).eq_init_of_admin_none ih) hs h

/-- **The administrator is set exactly once and gates everything.**  In every run of a fresh
deployment at most one `initialize` succeeds; once the admin slot holds `a` it holds `a` in
every later state, so `get_admin` returns `a` from then on; and while the slot is empty the
issuer set, the store and both indexes are empty. -/
theorem admin_set_once_and_gates (is : List (Invocation Address)) :
    initializations (run generateId is).2 ≤ 1 ∧
    (∀ (a : Address) (js : List (Invocation Address)), (run generateId is).1.admin = some a →
      (run generateId (is ++ js)).1.admin = some a ∧
      getAdmin (run generateId (is ++ js)).1 = .ok a) ∧
    ((run generateId is).1.admin = none → (run generateId is).1 = Storage.init) := by
  have hinit := initializations_runFrom generateId Storage.init is
  refine ⟨by simpa [Storage.init] using hinit, fun a js h => ?_,
    (reachable_runFrom .init is).eq_init_of_admin_none⟩
  have hkept : (run generateId (is ++ js)).1.admin = some a := by
    rw [run, runFrom_append]
    exact runFrom_admin_kept h js
  exact ⟨hkept, (Storage.getAdmin_eq_ok _ a).mpr hkept⟩

/-! ## The issuer set over whole runs -/

/-- The write to `a`'s issuer flag an invocation made: `true` for a successful
`register_issuer` of `a`, `false` for a successful `remove_issuer` of `a`. -/
def issuerWrite (a : Address) : Call Address → Except Failure (Value Address) → Option Bool
  | .registerIssuer _ issuer, .ok _ => if issuer = a then some true else none
  | .removeIssuer _ issuer, .ok _ => if issuer = a then some false else none
  | _, _ => none

/-- The writes to `a`'s issuer flag in a transcript, in call order. -/
def issuerWrites (a : Address) : Transcript Address → List Bool
  | [] => []
  | (i, r) :: tr => (issuerWrite a i.call r).toList ++ issuerWrites a tr

/-- One step sets `a`'s flag to what it wrote there, if anything. -/
theorem Effect.issuers_apply {s s' : Storage Address} {env : Env Address} {c : Call Address}
    {r : Except Failure (Value Address)} (he : Effect generateId s env c r s') (a : Address) :
    s'.issuers a = (issuerWrite a c r).getD (s.issuers a) := by
  cases he with
  | noop h =>
    rcases h with h | ⟨f, rfl⟩
    · cases c <;> cases r <;> simp_all [Call.isQuery, issuerWrite]
    · cases c <;> rfl
  | @register admin issuer | @remove admin issuer =>
    by_cases h : issuer = a
    · subst h; simp [issuerWrite]
    · simp [issuerWrite, h, Function.update_apply, Ne.symm h]
  | admin | create | revoke => rfl

theorem runFrom_issuers (s : Storage Address) (is : List (Invocation Address)) (a : Address) :
    (runFrom generateId s is).1.issuers a =
      ((issuerWrites a (runFrom generateId s is).2).getLast?).getD (s.issuers a) := by
  induction is generalizing s with
  | nil => rfl
  | cons i is ih =>
    simp only [runFrom, issuerWrites, List.getLast?_append, ih,
      (invoke_effect generateId s i.env i.call).issuers_apply a]
    generalize (issuerWrites a _).getLast? = last
    cases last <;> cases issuerWrite a i.call (invoke generateId s i.env i.call).1 <;> rfl

/-- **The issuer set is decided by the last admin write.**  After any run of a fresh
deployment, `is_issuer(a)` holds exactly when the last successful `register_issuer` or
`remove_issuer` naming `a` was a registration; with none, it does not hold. -/
theorem run_isIssuer_last_write (generateId : Address → Address → String → Nat → String)
    (is : List (Invocation Address)) (a : Address) :
    isIssuer (run generateId is).1 a =
      ((issuerWrites a (run generateId is).2).getLast?).getD false :=
  runFrom_issuers Storage.init is a

/-! ## Revocation -/

/-- **Revocation is decided by authorship alone and touches exactly one record.**  For an
authenticated caller in a reachable state, `revoke_attestation` succeeds exactly when the
record exists, names the caller as its issuer and is not yet revoked, whatever the issuer
set now says; it fails with `NotFound`, `Unauthorized` and `AlreadyRevoked` checked in that
order; and on success only the stored record's revoked flag changes. -/
theorem revoke_decided_by_authorship {s s' : Storage Address} {env : Env Address}
    {issuer : Address} {attestationId : String} {r : Except Failure Unit}
    (hs : Reachable generateId s) (hauth : env.authorized issuer = true)
    (hrev : revokeAttestation s env issuer attestationId = (r, s')) :
    (r = .ok () ↔
      ∃ a, s.attestations attestationId = some a ∧ a.issuer = issuer ∧ a.revoked = false) ∧
    (s.attestations attestationId = none → r = .error (.contract .notFound)) ∧
    (∀ a, s.attestations attestationId = some a → a.issuer ≠ issuer →
      r = .error (.contract .unauthorized)) ∧
    (∀ a, s.attestations attestationId = some a → a.issuer = issuer → a.revoked = true →
      r = .error (.contract .alreadyRevoked)) ∧
    (r = .ok () → ∃ a, s.attestations attestationId = some a ∧
      s' = { s with attestations :=
        Function.update s.attestations attestationId (some { a with revoked := true }) }) := by
  rw [Prod.ext_iff] at hrev
  obtain ⟨rfl, rfl⟩ := hrev
  cases h : s.attestations attestationId with
  | none => simp [revokeAttestation, Storage.getAttestation, h, hauth]
  | some a =>
    have hid : a.id = attestationId := hs.keyed h
    by_cases hi : a.issuer = issuer <;> by_cases hr : a.revoked <;>
      simp [revokeAttestation, Storage.getAttestation, Storage.setAttestation, h, hauth, hi, hr,
        hid]

/-- Issuer `1` revokes its own KYC record in the example. -/
theorem revoke_decided_by_authorship_example :
    (revokeAttestation exampleState ⟨20, fun a => a = 1⟩ 1 "KYC_PASSED@10").1 = .ok () :=
  (@revoke_decided_by_authorship Nat _ exampleId _ _ ⟨20, fun a => a = 1⟩ 1 "KYC_PASSED@10" _
    reachable_exampleState rfl (Prod.ext rfl rfl)).1.mpr ⟨_, rfl, rfl, rfl⟩

end TrustLink
