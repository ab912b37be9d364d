import TrustLink.Registry

/-!
# TrustLink: paginated listings of a running contract

`get_subject_attestations` and `get_issuer_attestations` on the storage a run leaves.

* `run_listing_window` — when `start + limit` fits in a `u32`, a listing returns exactly
  the requested window of the subject's (issuer's) creations, in call order.
* `reachable_index_entries_stored` — in every reachable state each index lists every id
  once, and every id it lists is a stored record of that subject (issuer).
* `listing_windows_stable` — the indexes only grow at their ends, so a window a listing
  returned is, after any further calls, the start of the window the same request returns.
* `getSubjectAttestations_tail_request_traps` — a request for "everything from `start`
  on" with `limit = u32::MAX` and `start ≥ 1` does not saturate: the `u32` addition
  overflows and the call panics, where the spec asks for the whole tail.
-/

namespace TrustLink

open Registry

variable {Address : Type} [DecidableEq Address]

/-- **Listings are windows of the creation order.**  After any run, a listing whose
`start + limit` fits in a `u32` is the part `[start, start + limit)` of the ids the run's
successful `create_attestation` calls returned for that subject (issuer), in call order. -/
theorem run_listing_window (generateId : Address → Address → String → Nat → String)
    (is : List (Invocation Address)) (a : Address) {start limit : UInt32}
    (h : start.toNat + limit.toNat < UInt32.size) :
    getSubjectAttestations (run generateId is).1 a start limit =
      .ok (((((creations (run generateId is).2).filter (·.subject = a)).map Creation.id).drop
        start.toNat).take limit.toNat) ∧
    getIssuerAttestations (run generateId is).1 a start limit =
      .ok (((((creations (run generateId is).2).filter (·.issuer = a)).map Creation.id).drop
        start.toNat).take limit.toNat) := by
  obtain ⟨r, hs, hL⟩ := run_registry generateId is
  rw [hs, ← hL, getSubjectAttestations, getIssuerAttestations, toStorage_getSubjectAttestations,
    toStorage_getIssuerAttestations]
  exact ⟨paginate_eq_ok _ h, paginate_eq_ok _ h⟩

/-- The example run's subject `2`, listed from position `1` with the window in range. -/
theorem run_listing_window_example :
    getSubjectAttestations exampleState 2 1 5 = .ok ["ACCREDITED@11"] := by
  rw [exampleState, (run_listing_window exampleId exampleRun 2 (by decide)).1]
  rfl

/-- **Every index entry is a stored record of its key, listed once.**  The index half of
the storage invariant (spec §3), in every reachable state. -/
theorem reachable_index_entries_stored {generateId : Address → Address → String → Nat → String}
    {s : Storage Address} (hs : Reachable generateId s) (a : Address) :
    (s.getSubjectAttestations a).Nodup ∧
      (∀ id ∈ s.getSubjectAttestations a, ∃ att, s.attestations id = some att ∧ att.subject = a) ∧
    (s.getIssuerAttestations a).Nodup ∧
      (∀ id ∈ s.getIssuerAttestations a, ∃ att, s.attestations id = some att ∧ att.issuer = a) := by
  obtain ⟨r, rfl⟩ := reachable_registry hs
  have hnodup : (r.entries.map Creation.id).Nodup := by rw [entries_ids]; exact r.nodup
  rw [toStorage_getSubjectAttestations, toStorage_getIssuerAttestations]
  refine ⟨hnodup.sublist ((List.filter_sublist _).map _), ?_,
    hnodup.sublist ((List.filter_sublist _).map _), ?_⟩ <;>
  · intro id hid
    obtain ⟨e, he, rfl⟩ := List.mem_map.mp hid
    obtain ⟨he, hkey⟩ := List.mem_filter.mp he
    obtain ⟨att, hatt, hsub, hiss⟩ := r.toStorage_entry he
    exact ⟨att, hatt, by simp_all⟩

/-- The example run's subject index. -/
theorem reachable_index_entries_stored_example :
    (exampleState.getSubjectAttestations 2).Nodup ∧
      ∀ id ∈ exampleState.getSubjectAttestations 2,
        ∃ att, exampleState.attestations id = some att ∧ att.subject = 2 :=
  have h := reachable_index_entries_stored reachable_exampleState 2
  ⟨h.1, h.2.1⟩

/-! ## The indexes only grow at the end -/

section Append

variable {generateId : Address → Address → String → Nat → String}

/-- A step only appends to each subject's and each issuer's index. -/
theorem Effect.index_grows {s s' : Storage Address} {env : Env Address} {c : Call Address}
    {r : Except Failure (Value Address)} (he : Effect generateId s env c r s') (a : Address) :
    s.subjectAttestations a <+: s'.subjectAttestations a ∧
      s.issuerAttestations a <+: s'.issuerAttestations a := by
  cases he with
  | noop | admin | register | remove | revoke => exact ⟨List.prefix_refl _, List.prefix_refl _⟩
  | create =>
    simp only [Storage.recordAttestation, Storage.addIssuerAttestation,
      Storage.addSubjectAttestation, Storage.setAttestation, pushId_apply]
    constructor <;> split_ifs <;> first | exact List.prefix_append _ _ | exact List.prefix_refl _

/-- Any sequence of invocations only appends to each index. -/
theorem runFrom_index_grows (s : Storage Address) (is : List (Invocation Address))
    (a : Address) :
    s.subjectAttestations a <+: (runFrom generateId s is).1.subjectAttestations a ∧
      s.issuerAttestations a <+: (runFrom generateId s is).1.issuerAttestations a := by
  induction is generalizing s with
  | nil => exact ⟨List.prefix_refl _, List.prefix_refl _⟩
  | cons i is ih =>
    have step := (invoke_effect generateId s i.env i.call).index_grows a
    have rest := ih (invoke generateId s i.env i.call).2
    exact ⟨step.1.trans rest.1, step.2.trans rest.2⟩

/-- **Listing windows are stable.**  Once `get_subject_attestations` (or
`get_issuer_attestations`) returns a window, the same request after any further invocations
returns that window extended at its end: no listed id moves, disappears or changes place,
so paging through an index neither skips nor repeats an entry. -/
theorem listing_windows_stable (s : Storage Address) (is : List (Invocation Address))
    (a : Address) (start limit : UInt32) (ids : List String) :
    (getSubjectAttestations s a start limit = .ok ids → ∃ ids',
      getSubjectAttestations (runFrom generateId s is).1 a start limit = .ok ids' ∧
        ids <+: ids') ∧
    (getIssuerAttestations s a start limit = .ok ids → ∃ ids',
      getIssuerAttestations (runFrom generateId s is).1 a start limit = .ok ids' ∧
        ids <+: ids') :=
  ⟨paginate_extends (runFrom_index_grows s is a).1, paginate_extends (runFrom_index_grows s is a).2⟩

end Append

/-- Subject `2`'s first page of five after the example run is still the start of that page
after issuer `1` attests `AML` about `2` at tick 12. -/
theorem listing_windows_stable_example :
    ∃ ids', getSubjectAttestations (runFrom exampleId exampleState
        [⟨⟨12, fun a => a = 1⟩, .createAttestation 1 2 "AML" none⟩]).1 2 0 5 = .ok ids' ∧
      ["KYC_PASSED@10", "ACCREDITED@11"] <+: ids' :=
  (listing_windows_stable exampleState _ 2 0 5 _).1 rfl

/-- **The failing input of the unsaturated window.**  Subject `2` of the example run has two
ids; asking for everything from position `1` with `limit = u32::MAX` traps on the `u32`
addition `1 + u32::MAX`, although the window the spec describes is `["ACCREDITED@11"]`. -/
theorem getSubjectAttestations_tail_request_traps :
    getSubjectAttestations exampleState 2 1 4294967295 = .error .overflowTrap ∧
      ((exampleState.getSubjectAttestations 2).drop 1).take 4294967295 = ["ACCREDITED@11"] :=
  ⟨paginate_overflow _ (by decide), by decide⟩

end TrustLink
