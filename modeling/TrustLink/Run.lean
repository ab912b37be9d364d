import TrustLink.Contract

/-!
# TrustLink: runs of the contract

A run is any list of invocations (any entry point, any arguments, any clock reading,
any set of authorising addresses), executed one after the other on the contract's
storage starting from a fresh deployment.  `runFrom` keeps, next to the final
storage, the transcript of every invocation with its result, so that properties
"over the ids the run's successful `create_attestation` calls returned" can be stated.

* `Reachable` — the storage states of runs, as an inductive predicate;
  `reachable_iff_run` shows it is exactly the set of final states of runs.
* `creations` — the `(id, subject, issuer)` of every successful `create_attestation`
  of a transcript, in call order.
* `reachable_induction` — an invariant that holds initially and survives every
  invocation from a reachable state holds in every reachable state.
-/

namespace TrustLink

variable {Address : Type} [DecidableEq Address]
variable (generateId : Address → Address → String → Nat → String)

/-- One invocation: the host context it runs in, and the entry point it calls. -/
structure Invocation (Address : Type) where
  env : Env Address
  call : Call Address

/-- An invocation with the result it returned. -/
abbrev Transcript (Address : Type) := List (Invocation Address × Except Failure (Value Address))

/-- Run `is` in order from `s`: the storage at the end, and each invocation with its result. -/
def runFrom (s : Storage Address) :
    List (Invocation Address) → Storage Address × Transcript Address
  | [] => (s, [])
  | i :: is =>
    let out := invoke generateId s i.env i.call
    let rest := runFrom out.2 is
    (rest.1, (i, out.1) :: rest.2)

/-- A run of a freshly deployed contract. -/
def run (is : List (Invocation Address)) : Storage Address × Transcript Address :=
  runFrom generateId Storage.init is

/-- The id derivation of the examples: the claim type and the creation tick. -/
def exampleId (_issuer _subject : Nat) (claimType : String) (timestamp : Nat) : String :=
  claimType ++ "@" ++ toString timestamp

/-- A run used by the examples: admin `0` initialises and registers issuer `1`, which
attests two claims about subject `2`, the first expiring at tick 100. -/
def exampleRun : List (Invocation Nat) :=
  [⟨⟨0, fun a => a = 0⟩, .initializeAdmin 0⟩,
   ⟨⟨0, fun a => a = 0⟩, .registerIssuer 0 1⟩,
   ⟨⟨10, fun a => a = 1⟩, .createAttestation 1 2 "KYC_PASSED" (some 100)⟩,
   ⟨⟨11, fun a => a = 1⟩, .createAttestation 1 2 "ACCREDITED" none⟩]

/-- The storage after `exampleRun`. -/
def exampleState : Storage Nat := (run exampleId exampleRun).1

/-- The storage states some run of a fresh deployment reaches. -/
inductive Reachable : Storage Address → Prop
  | init : Reachable Storage.init
  | step {s : Storage Address} (env : Env Address) (c : Call Address) :
      Reachable s → Reachable (invoke generateId s env c).2

variable {generateId}

theorem runFrom_append (s : Storage Address) (is js : List (Invocation Address)) :
    runFrom generateId s (is ++ js) =
      ((runFrom generateId (runFrom generateId s is).1 js).1,
        (runFrom generateId s is).2 ++ (runFrom generateId (runFrom generateId s is).1 js).2) := by
  induction is generalizing s with
  | nil => rfl
  | cons i is ih => simp [runFrom, ih]

theorem reachable_runFrom {s : Storage Address} (hs : Reachable generateId s)
    (is : List (Invocation Address)) : Reachable generateId (runFrom generateId s is).1 := by
  induction is generalizing s with
  | nil => exact hs
  | cons i is ih => exact ih (hs.step i.env i.call)

/-- `Reachable` is exactly "the final storage of some run". -/
theorem reachable_iff_run (s : Storage Address) :
    Reachable generateId s ↔ ∃ is, (run generateId is).1 = s := by
  constructor
  · intro hs
    induction hs with
    | init => exact ⟨[], rfl⟩
    | step env c _ ih =>
      obtain ⟨is, rfl⟩ := ih
      exact ⟨is ++ [⟨env, c⟩], by simp [run, runFrom_append, runFrom]⟩
  · rintro ⟨is, rfl⟩
    exact reachable_runFrom .init is

theorem reachable_exampleState : Reachable exampleId exampleState :=
  (reachable_iff_run _).mpr ⟨exampleRun, rfl⟩

/-- An invariant of every reachable state: true of a fresh deployment, and kept by every
invocation made from a reachable state. -/
theorem reachable_induction {P : Storage Address → Prop} (init : P Storage.init)
    (step : ∀ s env c, Reachable generateId s → P s → P (invoke generateId s env c).2)
    {s : Storage Address} (hs : Reachable generateId s) : P s := by
  induction hs with
  | init => exact init
  | step env c hr ih => exact step _ env c hr ih

/-! ## What a transcript records -/

/-- What a successful `create_attestation` was given and returned: the new id, and the
subject and issuer passed to the call. -/
structure Creation (Address : Type) where
  id : String
  subject : Address
  issuer : Address

/-- The creation an invocation made, if it was a successful `create_attestation`. -/
def createdBy : Call Address → Except Failure (Value Address) → Option (Creation Address)
  | .createAttestation issuer subject _ _, .ok (.id id) => some ⟨id, subject, issuer⟩
  | _, _ => none

/-- The creations of a transcript, in call order. -/
def creations (tr : Transcript Address) : List (Creation Address) :=
  tr.filterMap fun p => createdBy p.1.call p.2

/-- Whether an invocation was a successful `initialize`. -/
def initializedBy : Call Address → Except Failure (Value Address) → Bool
  | .initializeAdmin _, .ok _ => true
  | _, _ => false

/-- The successful `initialize` calls of a transcript. -/
def initializations (tr : Transcript Address) : Nat :=
  tr.countP fun p => initializedBy p.1.call p.2

omit [DecidableEq Address] in
theorem createdBy_error (c : Call Address) (f : Failure) : createdBy c (.error f) = none := by
  cases c <;> rfl

omit [DecidableEq Address] in
theorem createdBy_query {c : Call Address} (hc : c.isQuery = true)
    (r : Except Failure (Value Address)) : createdBy c r = none := by
  cases c <;> simp_all [Call.isQuery, createdBy]

omit [DecidableEq Address] in
theorem initializedBy_error (c : Call Address) (f : Failure) :
    initializedBy c (.error f) = false := by
  cases c <;> rfl

omit [DecidableEq Address] in
theorem initializedBy_query {c : Call Address} (hc : c.isQuery = true)
    (r : Except Failure (Value Address)) : initializedBy c r = false := by
  cases c <;> simp_all [Call.isQuery, initializedBy]

end TrustLink
