import TrustLink.Run
import Mathlib.Data.List.Nodup

/-!
# TrustLink: the registry the storage implements

The spec's data model (§3) is a registry: an admin, a set of issuers, and every
attestation ever created, in creation order, under pairwise distinct ids.  `Registry`
is that model, with the distinctness carried as a field.  The contract's storage is a
*representation* of it: `Registry.toStorage` puts each record under its id and lists,
per subject and per issuer, the ids of its records oldest first.

* `effect_registry` — **every invocation on a represented storage leaves a represented
  storage**, and the registry only grows by the record a successful `create_attestation`
  reports, or flips one record's revoked flag.
* `runFrom_registry`, `reachable_registry` — hence every reachable storage represents a
  registry, whose records are listed in exactly the order the run created them.
* `run_index_store_consistent` — the store and both indexes agree with the ids the run's
  successful `create_attestation` calls returned.
* `hasValidClaim_iff_stored_valid` — the indexed scan of `has_valid_claim` agrees with the
  store: it finds a valid record of the subject and claim type exactly when one is stored.
-/

namespace TrustLink

variable {Address : Type}

/-- The registry as the spec describes it. -/
structure Registry (Address : Type) where
  admin : Option Address
  issuers : Address → Bool
  /-- Every attestation ever created, oldest first, with its current revoked flag. -/
  records : List (Attestation Address)
  nodup : (records.map Attestation.id).Nodup

/-- Set the revoked flag of the record with id `id`. -/
def revokeRecord (id : String) (a : Attestation Address) : Attestation Address :=
  if a.id = id then { a with revoked := true } else a

@[simp] theorem revokeRecord_id (id : String) (a : Attestation Address) :
    (revokeRecord id a).id = a.id := by
  unfold revokeRecord; split <;> rfl

@[simp] theorem revokeRecord_subject (id : String) (a : Attestation Address) :
    (revokeRecord id a).subject = a.subject := by
  unfold revokeRecord; split <;> rfl

@[simp] theorem revokeRecord_issuer (id : String) (a : Attestation Address) :
    (revokeRecord id a).issuer = a.issuer := by
  unfold revokeRecord; split <;> rfl

@[simp] theorem revokeRecord_claimType (id : String) (a : Attestation Address) :
    (revokeRecord id a).claimType = a.claimType := by
  unfold revokeRecord; split <;> rfl

/-- A record stays valid through `revokeRecord` exactly when it is not the one revoked. -/
theorem getStatus_revokeRecord_eq_valid (id : String) (a : Attestation Address) (t : Nat) :
    (revokeRecord id a).getStatus t = .valid ↔ a.id ≠ id ∧ a.getStatus t = .valid := by
  unfold revokeRecord
  split_ifs with h <;> simp [Attestation.getStatus, h]

variable [DecidableEq Address]

namespace Registry

/-- The storage that represents `r`. -/
def toStorage (r : Registry Address) : Storage Address where
  admin := r.admin
  issuers := r.issuers
  attestations id := r.records.find? (·.id = id)
  subjectAttestations subject := (r.records.filter (·.subject = subject)).map Attestation.id
  issuerAttestations issuer := (r.records.filter (·.issuer = issuer)).map Attestation.id

/-- What identifies each record: its id, subject and issuer, oldest first. -/
def entries (r : Registry Address) : List (Creation Address) :=
  r.records.map fun a => ⟨a.id, a.subject, a.issuer⟩

/-- Nothing registered. -/
def empty : Registry Address := ⟨none, fun _ => false, [], List.nodup_nil⟩

/-- A new record, under an id no record has yet. -/
def append (r : Registry Address) (a : Attestation Address)
    (h : a.id ∉ r.records.map Attestation.id) : Registry Address :=
  ⟨r.admin, r.issuers, r.records ++ [a], by
    simpa [List.nodup_append] using
      ⟨r.nodup, fun b hb hba => h (hba ▸ List.mem_map_of_mem _ hb)⟩⟩

/-- The record with id `id`, revoked. -/
def revoke (r : Registry Address) (id : String) : Registry Address :=
  ⟨r.admin, r.issuers, r.records.map (revokeRecord id), by
    simpa [List.map_map, Function.comp_def] using r.nodup⟩

variable (r : Registry Address)

omit [DecidableEq Address] in
theorem find_id_eq_some_iff {k : String} {a : Attestation Address} :
    r.records.find? (·.id = k) = some a ↔ a ∈ r.records ∧ a.id = k := by
  constructor
  · intro h
    exact ⟨List.mem_of_find?_eq_some h, by simpa using List.find?_some h⟩
  · rintro ⟨ha, rfl⟩
    cases hb : r.records.find? (·.id = a.id) with
    | none => exact absurd (List.find?_eq_none.mp hb a ha) (by simp)
    | some b =>
      have hid : b.id = a.id := by simpa using List.find?_some hb
      rw [List.inj_on_of_nodup_map r.nodup (List.mem_of_find?_eq_some hb) ha hid]

@[simp] theorem toStorage_attestations_eq_some {k : String} {a : Attestation Address} :
    r.toStorage.attestations k = some a ↔ a ∈ r.records ∧ a.id = k :=
  r.find_id_eq_some_iff

@[simp] theorem toStorage_attestations_eq_none {k : String} :
    r.toStorage.attestations k = none ↔ k ∉ r.records.map Attestation.id := by
  simp [toStorage]

theorem toStorage_empty : (empty : Registry Address).toStorage = Storage.init := by
  refine Storage.ext rfl rfl ?_ ?_ ?_ <;> rfl

omit [DecidableEq Address] in
/-- Pushing a record's id onto the index of its key `f a` is indexing the extended list. -/
theorem pushId_filter_map {β : Type} [DecidableEq β] (L : List (Attestation Address))
    (f : Attestation Address → β) (a : Attestation Address) :
    pushId (fun k => (L.filter (f · = k)).map Attestation.id) (f a) a.id =
      fun k => ((L ++ [a]).filter (f · = k)).map Attestation.id := by
  funext k
  by_cases hk : k = f a
  · subst hk; simp
  · simp [hk, Ne.symm hk]

/-- Publishing a record with a fresh id is appending it to the registry. -/
theorem recordAttestation_toStorage (a : Attestation Address)
    (h : a.id ∉ r.records.map Attestation.id) :
    r.toStorage.recordAttestation a = (r.append a h).toStorage := by
  have hnone : r.records.find? (·.id = a.id) = none := by simpa using h
  refine Storage.ext rfl rfl ?_ (pushId_filter_map r.records Attestation.subject a)
    (pushId_filter_map r.records Attestation.issuer a)
  funext k
  by_cases hk : k = a.id
  · subst hk; simp [toStorage, append, hnone]
  · simp [toStorage, append, hk, Ne.symm hk]

/-- Writing a stored record back revoked is revoking it in the registry. -/
theorem setAttestation_revoke_toStorage {id : String} {a : Attestation Address}
    (h : r.toStorage.attestations id = some a) :
    r.toStorage.setAttestation { a with revoked := true } = (r.revoke id).toStorage := by
  obtain ⟨ha, rfl⟩ := (r.toStorage_attestations_eq_some).mp h
  have hfind : r.records.find? (·.id = a.id) = some a := h
  refine Storage.ext rfl rfl ?_ ?_ ?_ <;> funext k
  · have hp : ((fun b : Attestation Address => decide (b.id = k)) ∘ revokeRecord a.id) =
        fun b => decide (b.id = k) := by funext b; simp
    by_cases hk : k = a.id
    · subst hk; simp [toStorage, revoke, hp, hfind, revokeRecord]
    · simp only [Storage.setAttestation_attestations, Function.update_noteq hk, toStorage,
        revoke, List.find?_map, hp]
      cases hb : r.records.find? (·.id = k) with
      | none => rfl
      | some b =>
        have : b.id = k := by simpa using List.find?_some hb
        simp [revokeRecord, this, hk]
  all_goals simp [toStorage, revoke, List.filter_map, Function.comp_def]

/-! ## Reading a represented storage -/

omit [DecidableEq Address] in
theorem entries_ids : r.entries.map Creation.id = r.records.map Attestation.id := by
  simp [entries, Function.comp_def]

theorem toStorage_keyed {k : String} {a : Attestation Address}
    (h : r.toStorage.attestations k = some a) : a.id = k :=
  ((r.toStorage_attestations_eq_some).mp h).2

theorem toStorage_isSome_iff (k : String) :
    (r.toStorage.attestations k).isSome ↔ k ∈ r.records.map Attestation.id := by
  simp [Option.isSome_iff_exists]

theorem toStorage_entry {e : Creation Address} (he : e ∈ r.entries) :
    ∃ a, r.toStorage.attestations e.id = some a ∧ a.subject = e.subject ∧
      a.issuer = e.issuer := by
  obtain ⟨a, ha, rfl⟩ := List.mem_map.mp he
  exact ⟨a, (r.toStorage_attestations_eq_some).mpr ⟨ha, rfl⟩, rfl, rfl⟩

theorem toStorage_getSubjectAttestations (subject : Address) :
    r.toStorage.getSubjectAttestations subject =
      (r.entries.filter (·.subject = subject)).map Creation.id := by
  simp [Storage.getSubjectAttestations, toStorage, entries, List.filter_map, Function.comp_def]

theorem toStorage_getIssuerAttestations (issuer : Address) :
    r.toStorage.getIssuerAttestations issuer =
      (r.entries.filter (·.issuer = issuer)).map Creation.id := by
  simp [Storage.getIssuerAttestations, toStorage, entries, List.filter_map, Function.comp_def]

/-- On a represented storage, `has_valid_claim` is the registry's own question: is there a
record of this subject and claim type that is valid now? -/
theorem hasValidClaim_toStorage (env : Env Address) (subject : Address) (claimType : String) :
    hasValidClaim r.toStorage env subject claimType = true ↔
      ∃ a ∈ r.records, a.subject = subject ∧ a.claimType = claimType ∧
        a.getStatus env.timestamp = .valid := by
  rw [hasValidClaim, hasValidClaimFrom_eq_true_iff]
  simp only [Storage.getSubjectAttestations, toStorage, List.mem_map, List.mem_filter,
    decide_eq_true_eq]
  constructor
  · rintro ⟨_, ⟨b, ⟨hb, hbs⟩, rfl⟩, a, ha, hc, hv⟩
    obtain ⟨ha', hab⟩ := r.find_id_eq_some_iff.mp ha
    obtain rfl := List.inj_on_of_nodup_map r.nodup ha' hb hab
    exact ⟨a, ha', hbs, hc, hv⟩
  · rintro ⟨a, ha, hs, hc, hv⟩
    exact ⟨a.id, ⟨a, ⟨ha, hs⟩, rfl⟩, a, r.find_id_eq_some_iff.mpr ⟨ha, rfl⟩, hc, hv⟩

/-- After a new record, a claim holds exactly when it held before or the new record makes it. -/
theorem hasValidClaim_append_toStorage (a : Attestation Address)
    (h : a.id ∉ r.records.map Attestation.id) (env : Env Address) (subject : Address)
    (claimType : String) :
    hasValidClaim (r.append a h).toStorage env subject claimType = true ↔
      hasValidClaim r.toStorage env subject claimType = true ∨
        a.subject = subject ∧ a.claimType = claimType ∧ a.getStatus env.timestamp = .valid := by
  simp [hasValidClaim_toStorage, append, or_and_right, exists_or]

/-- After a revocation, a claim holds exactly when a record under another id makes it. -/
theorem hasValidClaim_revoke_toStorage (id : String) (env : Env Address) (subject : Address)
    (claimType : String) :
    hasValidClaim (r.revoke id).toStorage env subject claimType = true ↔
      ∃ a ∈ r.records, a.subject = subject ∧ a.claimType = claimType ∧ a.id ≠ id ∧
        a.getStatus env.timestamp = .valid := by
  simp only [hasValidClaim_toStorage, revoke, List.mem_map, exists_exists_and_eq_and,
    revokeRecord_subject, revokeRecord_claimType, getStatus_revokeRecord_eq_valid]


/-! ## Every step keeps the storage a representation -/

/-- The registry after `initialize`: a write to the admin slot. -/
def withAdmin (r : Registry Address) (admin : Option Address) : Registry Address :=
  ⟨admin, r.issuers, r.records, r.nodup⟩

/-- The registry after `register_issuer` or `remove_issuer`: a write to the issuer set. -/
def withIssuers (r : Registry Address) (issuers : Address → Bool) : Registry Address :=
  ⟨r.admin, issuers, r.records, r.nodup⟩

omit [DecidableEq Address] in
theorem entries_append (a : Attestation Address) (h : a.id ∉ r.records.map Attestation.id) :
    (r.append a h).entries = r.entries ++ [⟨a.id, a.subject, a.issuer⟩] := by
  simp [entries, append]

omit [DecidableEq Address] in
theorem entries_revoke (id : String) : (r.revoke id).entries = r.entries := by
  simp [entries, revoke, Function.comp_def]

variable {generateId : Address → Address → String → Nat → String}

/-- **Refinement, one step.**  An invocation on the storage of a registry leaves the
storage of a registry, whose entries are the old ones followed by what a successful
`create_attestation` reported. -/
theorem effect_registry {env : Env Address} {c : Call Address}
    {res : Except Failure (Value Address)} {s' : Storage Address}
    (he : Effect generateId r.toStorage env c res s') :
    ∃ r' : Registry Address, s' = r'.toStorage ∧
      r'.entries = r.entries ++ (createdBy c res).toList := by
  cases he with
  | noop h =>
    refine ⟨r, rfl, ?_⟩
    rcases h with h | ⟨f, rfl⟩
    · simp [createdBy_query h]
    · simp [createdBy_error]
  | admin => exact ⟨r.withAdmin _, rfl, by simp [createdBy, entries, withAdmin]⟩
  | register => exact ⟨r.withIssuers _, rfl, by simp [createdBy, entries, withIssuers]⟩
  | remove => exact ⟨r.withIssuers _, rfl, by simp [createdBy, entries, withIssuers]⟩
  | create _ _ hnone =>
    rw [toStorage_attestations_eq_none] at hnone
    exact ⟨_, r.recordAttestation_toStorage _ hnone, by simp [entries_append, createdBy]⟩
  | revoke _ ha =>
    exact ⟨_, r.setAttestation_revoke_toStorage ha, by simp [entries_revoke, createdBy]⟩

end Registry

open Registry

variable {generateId : Address → Address → String → Nat → String}

omit [DecidableEq Address] in
theorem creations_cons (i : Invocation Address) (res : Except Failure (Value Address))
    (tr : Transcript Address) :
    creations ((i, res) :: tr) = (createdBy i.call res).toList ++ creations tr := by
  cases h : createdBy i.call res <;> simp [creations, h]

/-- **Refinement, whole runs.**  A run from the storage of a registry ends in the storage
of a registry that has gained exactly the run's creations, in call order. -/
theorem runFrom_registry (r : Registry Address) (is : List (Invocation Address)) :
    ∃ r' : Registry Address, (runFrom generateId r.toStorage is).1 = r'.toStorage ∧
      r'.entries = r.entries ++ creations (runFrom generateId r.toStorage is).2 := by
  induction is generalizing r with
  | nil => exact ⟨r, rfl, by simp [runFrom, creations]⟩
  | cons i is ih =>
    obtain ⟨r₁, h₁, he₁⟩ :=
      r.effect_registry (invoke_effect generateId r.toStorage i.env i.call)
    obtain ⟨r₂, h₂, he₂⟩ := ih r₁
    refine ⟨r₂, by simpa [runFrom, h₁] using h₂, ?_⟩
    simp only [runFrom, creations_cons, he₂, he₁, h₁, List.append_assoc]

variable (generateId) in
theorem run_registry (is : List (Invocation Address)) :
    ∃ r : Registry Address, (run generateId is).1 = r.toStorage ∧
      r.entries = creations (run generateId is).2 := by
  simpa [run, ← toStorage_empty, entries, empty] using runFrom_registry empty is

/-- Every reachable storage represents a registry. -/
theorem reachable_registry {s : Storage Address} (hs : Reachable generateId s) :
    ∃ r : Registry Address, s = r.toStorage :=
  reachable_induction (P := fun s => ∃ r : Registry Address, s = r.toStorage)
    ⟨empty, toStorage_empty.symm⟩ (fun _ env c _ ⟨r, hr⟩ => by
    subst hr
    obtain ⟨r', h, -⟩ := r.effect_registry (invoke_effect generateId r.toStorage env c)
    exact ⟨r', h⟩) hs

/-! ## The store and the indexes agree -/

/-- **Index/store consistency over every run.**  After any run of a fresh deployment: every
stored record sits under its own id; the ids the run's successful `create_attestation` calls
returned are pairwise distinct and are exactly the stored keys, each stored with the subject
and issuer passed to its call; and each subject's and each issuer's index lists exactly the
ids of that subject's (issuer's) creations, in call order. -/
theorem run_index_store_consistent (is : List (Invocation Address)) :
    let s := (run generateId is).1
    let L := creations (run generateId is).2
    (∀ k a, s.attestations k = some a → a.id = k) ∧
    (L.map Creation.id).Nodup ∧
    (∀ k, (s.attestations k).isSome ↔ k ∈ L.map Creation.id) ∧
    (∀ e ∈ L, ∃ a, s.attestations e.id = some a ∧ a.subject = e.subject ∧
      a.issuer = e.issuer) ∧
    (∀ subject, s.getSubjectAttestations subject =
      (L.filter (·.subject = subject)).map Creation.id) ∧
    (∀ issuer, s.getIssuerAttestations issuer =
      (L.filter (·.issuer = issuer)).map Creation.id) := by
  obtain ⟨r, hs, hL⟩ := run_registry generateId is
  simp only [hs, ← hL, entries_ids]
  exact ⟨fun _ _ => r.toStorage_keyed, r.nodup, r.toStorage_isSome_iff,
    fun _ => r.toStorage_entry, r.toStorage_getSubjectAttestations,
    r.toStorage_getIssuerAttestations⟩

/-- **The indexed lookup agrees with the store.**  In every reachable state, scanning the
subject's index (skipping missing records, stopping at the first valid match) reports a
valid claim exactly when some stored record of that subject and claim type is unrevoked and
unexpired. -/
theorem hasValidClaim_iff_stored_valid {s : Storage Address} (hs : Reachable generateId s)
    (env : Env Address) (subject : Address) (claimType : String) :
    hasValidClaim s env subject claimType = true ↔
      ∃ id a, s.attestations id = some a ∧ a.subject = subject ∧ a.claimType = claimType ∧
        a.revoked = false ∧ ∀ e, a.expiration = some e → env.timestamp < e := by
  obtain ⟨r, rfl⟩ := reachable_registry hs
  rw [r.hasValidClaim_toStorage]
  simp only [toStorage_attestations_eq_some, Attestation.getStatus_eq_valid_iff]
  constructor
  · rintro ⟨a, ha, h⟩
    exact ⟨a.id, a, ⟨ha, rfl⟩, h⟩
  · rintro ⟨_, a, ⟨ha, -⟩, h⟩
    exact ⟨a, ha, h⟩

/-- At tick 50 the example's KYC record is stored, unrevoked and unexpired, so the scan
finds it. -/
theorem hasValidClaim_iff_stored_valid_example :
    hasValidClaim exampleState ⟨50, fun _ => false⟩ 2 "KYC_PASSED" = true :=
  (hasValidClaim_iff_stored_valid reachable_exampleState _ _ _).mpr
    ⟨"KYC_PASSED@10", _, rfl, rfl, rfl, rfl, fun e he => by cases he; decide⟩

end TrustLink
