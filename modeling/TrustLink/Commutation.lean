import TrustLink.Lifecycle

/-!
# TrustLink: calls on separate keys commute

The spec leaves concurrency to the host, which must serialise calls that touch overlapping
storage keys.  What that asks of the code is that calls touching *separate* keys may run
in either order.  This file says which keys each entry point touches and writes, read off
the `Storage` functions it calls (`storage.rs`) at the arguments `lib.rs` passes, and
proves that order does not matter between independent calls.

* `Call.touches`, `Call.writes`, `Independent` — the footprints of a call and when two
  invocations stay off each other's.  What `has_valid_claim` reads depends on storage: its
  subject's index and the records of the ids listed there, so footprints are taken at the
  storage the two calls start from.
* `Effect.frame` — a call leaves every key it does not write as it was;
  `invoke_local` — a storage that agrees with `s` on a call's footprint at `s` gives the
  same result and the same written values.
* `invoke_commute` — from a keyed storage, two independent invocations return the same
  results and reach the same storage in either order.
* `run_swap_independent` — **in any run, swapping two adjacent independent invocations
  changes no result and not the final storage.**
-/

namespace TrustLink

variable {Address : Type}

section Footprints

variable (generateId : Address → Address → String → Nat → String)

/-- The keys an entry point may read or write in context `env`, started on storage `s`. -/
def Call.touches (s : Storage Address) (env : Env Address) :
    Call Address → StorageKey Address → Prop
  | .initializeAdmin _, k => k = .admin
  | .registerIssuer _ issuer, k | .removeIssuer _ issuer, k => k = .admin ∨ k = .issuer issuer
  | .createAttestation issuer subject claimType _, k =>
    k = .issuer issuer ∨ k = .attestation (generateId issuer subject claimType env.timestamp) ∨
      k = .subjectAttestations subject ∨ k = .issuerAttestations issuer
  | .revokeAttestation _ attestationId, k => k = .attestation attestationId
  | .hasValidClaim subject _, k =>
    k = .subjectAttestations subject ∨ ∃ id ∈ s.getSubjectAttestations subject, k = .attestation id
  | .getAttestation attestationId, k | .getAttestationStatus attestationId, k =>
    k = .attestation attestationId
  | .getSubjectAttestations subject _ _, k => k = .subjectAttestations subject
  | .getIssuerAttestations issuer _ _, k => k = .issuerAttestations issuer
  | .isIssuer address, k => k = .issuer address
  | .getAdmin, k => k = .admin

/-- The keys an entry point may write in context `env`. -/
def Call.writes (env : Env Address) : Call Address → StorageKey Address → Prop
  | .initializeAdmin _, k => k = .admin
  | .registerIssuer _ issuer, k | .removeIssuer _ issuer, k => k = .issuer issuer
  | .createAttestation issuer subject claimType _, k =>
    k = .attestation (generateId issuer subject claimType env.timestamp) ∨
      k = .subjectAttestations subject ∨ k = .issuerAttestations issuer
  | .revokeAttestation _ attestationId, k => k = .attestation attestationId
  | _, _ => False

/-- Started on `s`, neither invocation writes a key the other touches. -/
def Independent (s : Storage Address) (i₁ i₂ : Invocation Address) : Prop :=
  ∀ k, (i₁.call.writes generateId i₁.env k → ¬ i₂.call.touches generateId s i₂.env k) ∧
    (i₂.call.writes generateId i₂.env k → ¬ i₁.call.touches generateId s i₁.env k)

end Footprints

variable {generateId : Address → Address → String → Nat → String}

theorem Call.touches_of_writes (s : Storage Address) {env : Env Address} {c : Call Address}
    {k : StorageKey Address} (h : c.writes generateId env k) : c.touches generateId s env k := by
  cases c <;> simp only [Call.writes, Call.touches] at h ⊢ <;> tauto

variable [DecidableEq Address]

/-! ## What one call does outside and inside its footprint -/

/-- Every step keeps every record under its own id. -/
theorem Effect.keyed {s s' : Storage Address} {env : Env Address} {c : Call Address}
    {r : Except Failure (Value Address)} (he : Effect generateId s env c r s') (hk : Keyed s) :
    Keyed s' := by
  cases he with
  | noop | admin | register | remove => exact hk
  | create | revoke =>
    intro k a h
    simp only [Storage.recordAttestation_attestations, Storage.setAttestation_attestations,
      Function.update_apply] at h
    split_ifs at h with hk'
    · cases h; exact hk'.symm
    · exact hk h

/-- **Frame.**  A step leaves every key its call does not write as it was. -/
theorem Effect.frame {s s' : Storage Address} {env : Env Address} {c : Call Address}
    {r : Except Failure (Value Address)} (he : Effect generateId s env c r s') (hk : Keyed s)
    {k : StorageKey Address} (hw : ¬ c.writes generateId env k) : s'.get k = s.get k := by
  cases he with
  | noop => rfl
  | admin | register | remove | create =>
    cases k <;>
      simp_all [Call.writes, Storage.get, Storage.recordAttestation, Function.update_apply]
  | revoke _ ha =>
    cases k <;> simp_all [Call.writes, Storage.get, Function.update_apply, hk ha]

omit [DecidableEq Address] in
/-- The `has_valid_claim` loop reads only the records of the ids it visits. -/
theorem hasValidClaimFrom_congr {s t : Storage Address} (claimType : String) (currentTime : Nat)
    {ids : List String} (h : ∀ id ∈ ids, s.attestations id = t.attestations id) :
    hasValidClaimFrom s claimType currentTime ids = hasValidClaimFrom t claimType currentTime ids := by
  induction ids with
  | nil => rfl
  | cons id ids ih =>
    simp only [hasValidClaimFrom, Storage.getAttestation, h id (List.mem_cons_self _ _),
      ih fun id' hid' => h id' (List.mem_cons_of_mem _ hid')]

/-- **Locality.**  A storage `t` that reads like the keyed storage `s` on a call's footprint
at `s` gives the call the same result and makes it write the same values. -/
theorem invoke_local {s t : Storage Address} (hks : Keyed s) (env : Env Address)
    (c : Call Address) (h : ∀ k, c.touches generateId s env k → s.get k = t.get k) :
    (invoke generateId s env c).1 = (invoke generateId t env c).1 ∧
    ∀ k, c.writes generateId env k →
      (invoke generateId s env c).2.get k = (invoke generateId t env c).2.get k := by
  cases c with
  | initializeAdmin admin =>
    have ha : s.admin = t.admin := by simpa [Storage.get] using h .admin rfl
    simp only [invoke, withValue, initializeAdmin, Storage.hasAdmin, ha, Call.writes, forall_eq]
    split_ifs <;> simp [Storage.get, ha]
  | registerIssuer admin issuer | removeIssuer admin issuer =>
    have ha : s.admin = t.admin := by simpa [Storage.get] using h .admin (.inl rfl)
    have hi : s.issuers issuer = t.issuers issuer := by
      simpa [Storage.get] using h (.issuer issuer) (.inr rfl)
    have hreq : Validation.requireAdmin s admin = Validation.requireAdmin t admin := by
      simp [Validation.requireAdmin, Storage.getAdmin, ha]
    simp only [invoke, withValue, registerIssuer, removeIssuer, adminUpdate, hreq, Call.writes,
      forall_eq]
    split_ifs <;> (try split) <;> simp [Storage.get, hi]
  | createAttestation issuer subject claimType expiration =>
    have hiss : s.issuers issuer = t.issuers issuer := by
      simpa [Storage.get] using h (.issuer issuer) (.inl rfl)
    have hatt : s.attestations (generateId issuer subject claimType env.timestamp) =
        t.attestations (generateId issuer subject claimType env.timestamp) := by
      simpa [Storage.get] using h (.attestation _) (.inr (.inl rfl))
    have hsub : s.subjectAttestations subject = t.subjectAttestations subject := by
      simpa [Storage.get] using h (.subjectAttestations subject) (.inr (.inr (.inl rfl)))
    have hisa : s.issuerAttestations issuer = t.issuerAttestations issuer := by
      simpa [Storage.get] using h (.issuerAttestations issuer) (.inr (.inr (.inr rfl)))
    simp only [invoke, withValue, createAttestation, Validation.requireIssuer, Storage.isIssuer,
      Storage.hasAttestation, hiss, hatt, Call.writes]
    refine ⟨by split_ifs <;> rfl, ?_⟩
    rintro k (rfl | rfl | rfl) <;> split_ifs <;>
      simp [Storage.get, Storage.recordAttestation, hatt, hsub, hisa]
  | revokeAttestation issuer attestationId =>
    have hatt : s.attestations attestationId = t.attestations attestationId := by
      simpa [Storage.get] using h (.attestation attestationId) rfl
    simp only [invoke, withValue, revokeAttestation, Storage.getAttestation, hatt, Call.writes,
      forall_eq]
    cases ha : s.attestations attestationId with
    | none => cases env.authorized issuer <;> simp [Storage.get, ← hatt, ha]
    | some a =>
      by_cases hi : a.issuer = issuer <;> cases hr : a.revoked <;>
        cases env.authorized issuer <;> simp [Storage.get, ← hatt, ha, hks ha, hi, hr]
  | hasValidClaim subject claimType =>
    have hsub : s.subjectAttestations subject = t.subjectAttestations subject := by
      simpa [Storage.get] using h (.subjectAttestations subject) (.inl rfl)
    -- the loop visits only the ids the index lists, and those records agree
    have hatt : ∀ id ∈ s.getSubjectAttestations subject, s.attestations id = t.attestations id :=
      fun id hid => by simpa [Storage.get] using h (.attestation id) (.inr ⟨id, hid, rfl⟩)
    refine ⟨?_, fun _ hk => False.elim hk⟩
    simp only [invoke, hasValidClaim]
    rw [hasValidClaimFrom_congr claimType env.timestamp hatt]
    simp only [Storage.getSubjectAttestations, hsub]
  | getAttestation attestationId | getAttestationStatus attestationId =>
    have hatt : s.attestations attestationId = t.attestations attestationId := by
      simpa [Storage.get] using h (.attestation attestationId) rfl
    exact ⟨by simp [invoke, getAttestation, getAttestationStatus, Storage.getAttestation, hatt],
      fun _ hk => False.elim hk⟩
  | getSubjectAttestations subject start limit =>
    have hsub : s.subjectAttestations subject = t.subjectAttestations subject := by
      simpa [Storage.get] using h (.subjectAttestations subject) rfl
    exact ⟨by simp [invoke, getSubjectAttestations, Storage.getSubjectAttestations, hsub],
      fun _ hk => False.elim hk⟩
  | getIssuerAttestations issuer start limit =>
    have hisa : s.issuerAttestations issuer = t.issuerAttestations issuer := by
      simpa [Storage.get] using h (.issuerAttestations issuer) rfl
    exact ⟨by simp [invoke, getIssuerAttestations, Storage.getIssuerAttestations, hisa],
      fun _ hk => False.elim hk⟩
  | isIssuer address =>
    have hi : s.issuers address = t.issuers address := by
      simpa [Storage.get] using h (.issuer address) rfl
    exact ⟨by simp [invoke, isIssuer, Storage.isIssuer, hi], fun _ hk => False.elim hk⟩
  | getAdmin =>
    have ha : s.admin = t.admin := by simpa [Storage.get] using h .admin rfl
    exact ⟨by simp [invoke, getAdmin, Storage.getAdmin, ha], fun _ hk => False.elim hk⟩

/-! ## Independent calls commute -/

/-- **Step.**  From a keyed storage, two independent invocations return the same results and
reach the same storage in either order. -/
theorem invoke_commute {s : Storage Address} (hk : Keyed s) {i₁ i₂ : Invocation Address}
    (hind : Independent generateId s i₁ i₂) :
    (invoke generateId (invoke generateId s i₁.env i₁.call).2 i₂.env i₂.call).1 =
      (invoke generateId s i₂.env i₂.call).1 ∧
    (invoke generateId (invoke generateId s i₂.env i₂.call).2 i₁.env i₁.call).1 =
      (invoke generateId s i₁.env i₁.call).1 ∧
    (invoke generateId (invoke generateId s i₁.env i₁.call).2 i₂.env i₂.call).2 =
      (invoke generateId (invoke generateId s i₂.env i₂.call).2 i₁.env i₁.call).2 := by
  have e₁ := invoke_effect generateId s i₁.env i₁.call
  have e₂ := invoke_effect generateId s i₂.env i₂.call
  -- each call finds its footprint as the other left it, that is as it was
  have loc₂ := invoke_local hk i₂.env i₂.call fun k hk₂ =>
    (e₁.frame hk fun hw => (hind k).1 hw hk₂).symm
  have loc₁ := invoke_local hk i₁.env i₁.call fun k hk₁ =>
    (e₂.frame hk fun hw => (hind k).2 hw hk₁).symm
  refine ⟨loc₂.1.symm, loc₁.1.symm, Storage.ext_get fun k => ?_⟩
  have f₁₂ := fun hw =>
    (invoke_effect generateId _ i₂.env i₂.call).frame (e₁.keyed hk) (k := k) hw
  have f₂₁ := fun hw =>
    (invoke_effect generateId _ i₁.env i₁.call).frame (e₂.keyed hk) (k := k) hw
  by_cases hw₁ : i₁.call.writes generateId i₁.env k
  · have hw₂ : ¬ i₂.call.writes generateId i₂.env k := fun hw₂ =>
      (hind k).1 hw₁ (Call.touches_of_writes s hw₂)
    rw [f₁₂ hw₂, ← loc₁.2 k hw₁]
  · rw [f₂₁ hw₁]
    by_cases hw₂ : i₂.call.writes generateId i₂.env k
    · exact (loc₂.2 k hw₂).symm
    · rw [f₁₂ hw₂, e₁.frame hk hw₁, e₂.frame hk hw₂]

variable (generateId) in
/-- **Reordering independent calls.**  In any run of a fresh deployment, swapping two
adjacent invocations that, from the storage the run has reached, write no key the other
touches leaves both results, the rest of the run and the final storage unchanged. -/
theorem run_swap_independent (pre post : List (Invocation Address))
    {i₁ i₂ : Invocation Address} (hind : Independent generateId (run generateId pre).1 i₁ i₂) :
    (run generateId (pre ++ i₂ :: i₁ :: post)).1 =
      (run generateId (pre ++ i₁ :: i₂ :: post)).1 ∧
    ∃ tr r₁ r₂ tr',
      (run generateId (pre ++ i₁ :: i₂ :: post)).2 = tr ++ (i₁, r₁) :: (i₂, r₂) :: tr' ∧
      (run generateId (pre ++ i₂ :: i₁ :: post)).2 = tr ++ (i₂, r₂) :: (i₁, r₁) :: tr' := by
  obtain ⟨h₂, h₁, hs⟩ := invoke_commute (reachable_runFrom .init pre).keyed hind
  simp only [run, runFrom_append, runFrom]
  rw [h₂, h₁, hs]
  exact ⟨rfl, _, _, _, _, rfl, rfl⟩

/-- After the example run, a `has_valid_claim` check of subject `2` and issuer `1` attesting
about subject `3` in one tick touch separate keys: the check reads subject `2`'s index and
its two records, the creation writes a new record and the indexes of `3` and `1`. -/
theorem run_swap_independent_example :
    (run exampleId (exampleRun ++
      [⟨⟨12, fun a => a = 1⟩, .createAttestation 1 3 "AML" none⟩,
       ⟨⟨12, fun _ => false⟩, .hasValidClaim 2 "KYC_PASSED"⟩])).1 =
    (run exampleId (exampleRun ++
      [⟨⟨12, fun _ => false⟩, .hasValidClaim 2 "KYC_PASSED"⟩,
       ⟨⟨12, fun a => a = 1⟩, .createAttestation 1 3 "AML" none⟩])).1 :=
  (run_swap_independent exampleId exampleRun [] fun _ =>
    ⟨False.elim,
     fun hw => by
      simp only [Call.writes, Call.touches] at hw ⊢
      rcases hw with rfl | rfl | rfl <;> decide⟩).1

end TrustLink
