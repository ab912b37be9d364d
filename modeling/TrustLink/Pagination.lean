import Mathlib.Data.List.Infix
import TrustLink.Types

/-!
# TrustLink: paginated listing

`get_subject_attestations` and `get_issuer_attestations` (`src/src/lib.rs`, lines
166–207) have the same body over different indexes; `paginate` is that body.  It
computes `end = (start + limit).min(total)` in `u32` and pushes `all_ids.get(i)` for
every `i` in `start..end`.

* `paginate_eq_ok` — when `start + limit` fits in a `u32`, the page is exactly
  `take limit (drop start ids)`: contiguous, in index order, empty when `start` is past
  the end or `limit` is zero.
* `paginate_overflow` — when it does not fit, the addition panics and the call traps.
  The spec asks for a saturating sum here; the code uses the plain `+`.

Rust's `+` on `u32` panics on overflow in the builds that run the tests and in the
Soroban release profile; `addU32` models that.
-/

namespace TrustLink

/-- Rust's `a + b` on `u32` with overflow checks: a sum past `u32::MAX` panics. -/
def addU32 (a b : UInt32) : Except Failure UInt32 :=
  if a.toNat + b.toNat < UInt32.size then .ok (a + b) else .error .overflowTrap

/-- The body of `get_subject_attestations` and `get_issuer_attestations`, over the index
`allIds` it read. -/
def paginate (allIds : List String) (start limit : UInt32) : Except Failure (List String) :=
  match addU32 start limit with
  | .error f => .error f
  | .ok sum =>
    let total := allIds.length
    let stop := Nat.min sum.toNat total
    .ok ((List.range' start.toNat (stop - start.toNat)).filterMap fun i => allIds[i]?)

theorem addU32_toNat {a b : UInt32} (h : a.toNat + b.toNat < UInt32.size) :
    (a + b).toNat = a.toNat + b.toNat := by
  show (a.toBitVec + b.toBitVec).toNat = _
  rw [BitVec.toNat_add]
  exact Nat.mod_eq_of_lt h

/-- The loop `for i in start..start + n { if let Some(id) = all_ids.get(i) { push } }`
collects exactly the `n` entries from `start` on, or fewer where the list ends. -/
theorem filterMap_range'_eq_drop_take (l : List String) (start n : Nat) :
    (List.range' start n).filterMap (fun i => l[i]?) = (l.drop start).take n := by
  induction n generalizing start with
  | zero => simp
  | succ n ih =>
    rw [List.range'_succ, List.filterMap_cons, ih]
    by_cases hs : start < l.length
    · rw [List.getElem?_eq_getElem hs, List.drop_eq_getElem_cons hs]
      rfl
    · simp [List.getElem?_eq_none (Nat.le_of_not_lt hs),
        List.drop_eq_nil_of_le (Nat.le_of_not_lt hs),
        List.drop_eq_nil_of_le (Nat.le_succ_of_le (Nat.le_of_not_lt hs))]

/-- **The page is the requested window** whenever `start + limit` fits in a `u32`. -/
theorem paginate_eq_ok (allIds : List String) {start limit : UInt32}
    (h : start.toNat + limit.toNat < UInt32.size) :
    paginate allIds start limit = .ok ((allIds.drop start.toNat).take limit.toNat) := by
  simp only [paginate, addU32, if_pos h, addU32_toNat h, filterMap_range'_eq_drop_take,
    Nat.min_eq_min, Except.ok.injEq]
  rw [List.take_eq_take, List.length_drop]
  omega

/-- **The addition does not saturate**: a window reaching past `u32::MAX` traps. -/
theorem paginate_overflow (allIds : List String) {start limit : UInt32}
    (h : UInt32.size ≤ start.toNat + limit.toNat) :
    paginate allIds start limit = .error .overflowTrap := by
  simp [paginate, addU32, Nat.not_lt.mpr h]

/-- A window of a longer list starts with the same window of a list it extends; whether the
addition traps does not depend on the list. -/
theorem paginate_extends {allIds allIds' : List String} (h : allIds <+: allIds')
    {start limit : UInt32} {ids : List String} (hp : paginate allIds start limit = .ok ids) :
    ∃ ids', paginate allIds' start limit = .ok ids' ∧ ids <+: ids' := by
  by_cases hov : start.toNat + limit.toNat < UInt32.size
  · rw [paginate_eq_ok _ hov] at hp
    cases hp
    exact ⟨_, paginate_eq_ok _ hov, (h.drop _).take _⟩
  · rw [paginate_overflow _ (Nat.not_lt.mp hov)] at hp
    cases hp

end TrustLink
