import Mathlib.Logic.Function.Basic

/-!
# TrustLink: the contract's types

The record, status and error types of the TrustLink attestation registry
(`src/src/lib.rs` imports them from `types.rs`, which is not among the sources).
Their shape is read off their uses: `create_attestation` builds an `Attestation`
field by field, `test_expired_attestation` names `AttestationStatus::Expired`, and
`lib.rs`, `storage.rs` and `validation.rs` return every `Error` variant below.

* `Attestation.getStatus` — the derived status, modelled from the spec (§3): revocation
  dominates expiry, and an attestation expires *at* its expiration tick.
* `getStatus_eq_valid_iff` — the status is `Valid` exactly when the record is unrevoked
  and unexpired.
* `getStatus_valid_of_le` — validity only ever ends as the clock moves forward.

Ledger timestamps are `u64` in the source; here they are `Nat`.  The contract only
compares them, so every `u64` reading is covered and no wrap-around is lost.
-/

namespace TrustLink

/-- `types::Error`: the contract's error codes. -/
inductive Error where
  | alreadyInitialized
  | notInitialized
  | unauthorized
  | notFound
  | duplicateAttestation
  | alreadyRevoked
  deriving DecidableEq, Repr

/-- `types::AttestationStatus`. -/
inductive AttestationStatus where
  | valid
  | expired
  | revoked
  deriving DecidableEq, Repr

/-- `types::Attestation`, with the fields `create_attestation` fills in. -/
structure Attestation (Address : Type) where
  id : String
  issuer : Address
  subject : Address
  claimType : String
  timestamp : Nat
  expiration : Option Nat
  revoked : Bool
  deriving DecidableEq, Repr

/-- How a contract invocation fails: the function returns `Err(e)`, or the host
aborts it, because a `require_auth` was not satisfied or `u32` arithmetic
overflowed. -/
inductive Failure where
  | contract (e : Error)
  | authTrap
  | overflowTrap
  deriving DecidableEq, Repr

namespace Attestation

variable {Address : Type}

/-- Modelled from the spec: `Attestation::get_status` (§3 of the spec; its body is in the
missing `types.rs`).  `Revoked` if the flag is set, otherwise `Expired` once the clock has
reached the expiration, otherwise `Valid`. -/
def getStatus (a : Attestation Address) (currentTime : Nat) : AttestationStatus :=
  if a.revoked then .revoked
  else
    match a.expiration with
    | some expiration => if currentTime ≥ expiration then .expired else .valid
    | none => .valid

theorem getStatus_eq_valid_iff (a : Attestation Address) (t : Nat) :
    a.getStatus t = .valid ↔ a.revoked = false ∧ ∀ e, a.expiration = some e → t < e := by
  unfold getStatus
  cases a.revoked <;> cases a.expiration <;> simp

theorem getStatus_eq_revoked_iff (a : Attestation Address) (t : Nat) :
    a.getStatus t = .revoked ↔ a.revoked = true := by
  unfold getStatus
  cases a.revoked <;> cases a.expiration <;> simp
  split_ifs <;> simp

/-- Validity only ends as time passes: valid at a later tick means valid now. -/
theorem getStatus_valid_of_le (a : Attestation Address) {t t' : Nat} (h : t ≤ t')
    (hv : a.getStatus t' = .valid) : a.getStatus t = .valid := by
  rw [getStatus_eq_valid_iff] at hv ⊢
  exact ⟨hv.1, fun e he => Nat.lt_of_le_of_lt h (hv.2 e he)⟩

/-- Once the clock has moved on and the record has at most been revoked, its status is no
better: `Revoked` stays `Revoked`, and `Expired` never becomes `Valid`. -/
theorem getStatus_never_improves {a a' : Attestation Address}
    (ha : a' = a ∨ a' = { a with revoked := true }) {t t' : Nat} (ht : t ≤ t') :
    (a.getStatus t = .revoked → a'.getStatus t' = .revoked) ∧
    (a.getStatus t = .expired → a'.getStatus t' ≠ .valid) := by
  rcases ha with rfl | rfl
  · refine ⟨fun h => by rwa [getStatus_eq_revoked_iff] at h ⊢, fun h hv => ?_⟩
    rw [getStatus_valid_of_le a' ht hv] at h
    cases h
  · simp [getStatus]

end Attestation

end TrustLink
