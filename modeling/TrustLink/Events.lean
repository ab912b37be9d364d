import TrustLink.Lifecycle

/-!
# TrustLink: the event stream

`src/src/events.rs` and the two places `src/src/lib.rs` calls it.  `create_attestation`
publishes the record it built, and `revoke_attestation` the id with its caller, each as the
last statement before `Ok`; no other entry point publishes.  Events are the contract's only
output to the outside besides return values, so the question a consumer asks is what the
stream lets it know.

* `Indexer` — an off-chain consumer that rebuilds records and indexes from the stream and
  refuses what a well-formed stream never holds: a second creation of an id, and a
  revocation of an unknown id, by anyone but its issuer, or of an id already revoked.
* `Effect.replay_published` — one invocation's events take the consumer's view of the
  storage before to its view of the storage after; `replay_runFrom` lifts it to runs.
* `run_events_rebuild_storage` — **the stream is a complete log**: replaying the events of
  any run of a fresh deployment is never refused and yields every stored record but its
  expiration, and both indexes.
* `run_events_ordered_per_id` — any two events about one id are its creation followed by
  its revocation by the issuer that created it.
-/

namespace TrustLink

variable {Address : Type}

/-- What `env.events().publish` receives from `events.rs`. -/
inductive Event (Address : Type) where
  /-- Topics `("created", subject)`, data `(id, issuer, claim_type, timestamp)`. -/
  | created (subject : Address) (attestationId : String) (issuer : Address)
      (claimType : String) (timestamp : Nat)
  /-- Topics `("revoked", issuer)`, data `attestation_id`. -/
  | revoked (issuer : Address) (attestationId : String)
  deriving DecidableEq, Repr

namespace Events

/-- `Events::attestation_created`. -/
def attestationCreated (attestation : Attestation Address) : Event Address :=
  .created attestation.subject attestation.id attestation.issuer attestation.claimType
    attestation.timestamp

/-- `Events::attestation_revoked`. -/
def attestationRevoked (attestationId : String) (issuer : Address) : Event Address :=
  .revoked issuer attestationId

end Events

/-- The events an invocation publishes.  The two calls into `Events` are the last statements
of the success paths of `create_attestation` (`lib.rs`, line 92, with the record it built)
and `revoke_attestation` (line 119), after every check and write, so a call publishes
exactly when it returns `Ok`. -/
def published (env : Env Address) :
    Call Address → Except Failure (Value Address) → List (Event Address)
  | .createAttestation issuer subject claimType expiration, .ok (.id attestationId) =>
    [Events.attestationCreated
      ⟨attestationId, issuer, subject, claimType, env.timestamp, expiration, false⟩]
  | .revokeAttestation issuer attestationId, .ok _ =>
    [Events.attestationRevoked attestationId issuer]
  | _, _ => []

/-- The event stream of a transcript, in call order. -/
def eventsOf : Transcript Address → List (Event Address)
  | [] => []
  | (i, r) :: tr => published i.env i.call r ++ eventsOf tr

theorem published_error (env : Env Address) (c : Call Address) (f : Failure) :
    published env c (.error f) = [] := by
  cases c <;> rfl

theorem published_query (env : Env Address) {c : Call Address} (hc : c.isQuery = true)
    (r : Except Failure (Value Address)) : published env c r = [] := by
  cases c <;> simp_all [Call.isQuery, published]

/-- The id an event is about. -/
def Event.attestationId : Event Address → String
  | .created _ attestationId _ _ _ => attestationId
  | .revoked _ attestationId => attestationId

/-- How two events of one stream may stand, the first before the second: about different
ids, or the creation of an id followed by its revocation by the issuer that created it. -/
def Event.Ordered : Event Address → Event Address → Prop
  | .created _ id _ _ _, .created _ id' _ _ _ => id ≠ id'
  | .created _ id issuer _ _, .revoked issuer' id' => id = id' → issuer' = issuer
  | .revoked _ id, .created _ id' _ _ _ => id ≠ id'
  | .revoked _ id, .revoked _ id' => id ≠ id'

theorem Event.ordered_of_ne {e b : Event Address} (h : e.attestationId ≠ b.attestationId) :
    e.Ordered b := by
  cases e <;> cases b <;> simp_all [Event.Ordered, Event.attestationId]

/-! ## A consumer of the stream -/

/-- What the events say about one attestation: every field but the expiration, which no
event carries. -/
structure Seen (Address : Type) where
  subject : Address
  issuer : Address
  claimType : String
  timestamp : Nat
  revoked : Bool
  deriving DecidableEq, Repr

/-- A stored record as the events describe it. -/
def Attestation.seen (a : Attestation Address) : Seen Address :=
  ⟨a.subject, a.issuer, a.claimType, a.timestamp, a.revoked⟩

/-- An off-chain consumer's view: the records and the two indexes. -/
@[ext] structure Indexer (Address : Type) where
  records : String → Option (Seen Address)
  subjectIds : Address → List String
  issuerIds : Address → List String

variable [DecidableEq Address]

namespace Indexer

/-- Nothing seen yet. -/
def empty : Indexer Address := ⟨fun _ => none, fun _ => [], fun _ => []⟩

/-- Take in one event, refusing a second creation of an id, and a revocation of an unknown
id, by anyone but its issuer, or of an id already revoked. -/
def consume (x : Indexer Address) : Event Address → Option (Indexer Address)
  | .created subject attestationId issuer claimType timestamp =>
    match x.records attestationId with
    | some _ => none
    | none => some
      ⟨Function.update x.records attestationId
          (some ⟨subject, issuer, claimType, timestamp, false⟩),
        pushId x.subjectIds subject attestationId, pushId x.issuerIds issuer attestationId⟩
  | .revoked issuer attestationId =>
    match x.records attestationId with
    | some r =>
      if r.issuer = issuer ∧ r.revoked = false then
        some { x with
          records := Function.update x.records attestationId (some { r with revoked := true }) }
      else none
    | none => none

/-- Take in a stream, failing at the first refused event. -/
def replay (x : Indexer Address) : List (Event Address) → Option (Indexer Address)
  | [] => some x
  | e :: es => (x.consume e).bind fun y => y.replay es

/-- The view a consumer should hold of a storage. -/
def ofStorage (s : Storage Address) : Indexer Address :=
  ⟨Option.map Attestation.seen ∘ s.attestations, s.subjectAttestations, s.issuerAttestations⟩

theorem replay_append (x : Indexer Address) (es fs : List (Event Address)) :
    x.replay (es ++ fs) = (x.replay es).bind fun y => y.replay fs := by
  induction es generalizing x with
  | nil => rfl
  | cons e es ih => simp only [List.cons_append, replay, List.append_eq, ih, Option.bind_assoc]

/-! ### What consuming one event does to the records -/

theorem consume_records_ne {x x' : Indexer Address} {e : Event Address}
    (hc : x.consume e = some x') {k : String} (hk : k ≠ e.attestationId) :
    x'.records k = x.records k := by
  cases e <;> simp only [consume, Event.attestationId] at hc hk <;> split at hc <;>
    (try split_ifs at hc) <;> cases hc <;> exact Function.update_noteq hk _ _

/-- An event about an id the consumer holds is accepted only as the revocation of a live
record by its issuer, and leaves it revoked. -/
theorem consume_known {x x' : Indexer Address} {e : Event Address} (hc : x.consume e = some x')
    {r : Seen Address} (hr : x.records e.attestationId = some r) :
    e = .revoked r.issuer e.attestationId ∧ r.revoked = false ∧
      x'.records e.attestationId = some { r with revoked := true } := by
  cases e with
  | created =>
    simp only [Event.attestationId] at hr
    simp [consume, hr] at hc
  | revoked issuer id =>
    simp only [Event.attestationId] at hr ⊢
    simp only [consume, hr] at hc
    split_ifs at hc with h
    cases hc
    exact ⟨by rw [h.1], h.2, Function.update_same _ _ _⟩

/-- An event about an id the consumer does not hold is accepted only as its creation, and
records it live. -/
theorem consume_unknown {x x' : Indexer Address} {e : Event Address}
    (hc : x.consume e = some x') (hr : x.records e.attestationId = none) :
    ∃ subject issuer claimType timestamp,
      e = .created subject e.attestationId issuer claimType timestamp ∧
      x'.records e.attestationId = some ⟨subject, issuer, claimType, timestamp, false⟩ := by
  cases e with
  | created subject id issuer claimType timestamp =>
    simp only [Event.attestationId] at hr ⊢
    simp only [consume, hr, Option.some.injEq] at hc
    subst hc
    exact ⟨subject, issuer, claimType, timestamp, rfl, Function.update_same _ _ _⟩
  | revoked =>
    simp only [Event.attestationId] at hr
    simp [consume, hr] at hc

/-- In an accepted stream, every event about an id the consumer already holds is the
revocation of that live record by its issuer. -/
theorem replay_known {x y : Indexer Address} {es : List (Event Address)}
    (h : x.replay es = some y) :
    ∀ b ∈ es, ∀ r, x.records b.attestationId = some r →
      b = .revoked r.issuer b.attestationId ∧ r.revoked = false := by
  induction es generalizing x with
  | nil => simp
  | cons e es ih =>
    obtain ⟨x', hc, hr⟩ := Option.bind_eq_some.mp h
    intro b hb r hbr
    rcases List.mem_cons.mp hb with rfl | hb
    · exact (consume_known hc hbr).imp_right And.left
    · by_cases hbe : b.attestationId = e.attestationId
      · rw [hbe] at hbr
        cases (ih hr b hb _ (hbe ▸ (consume_known hc hbr).2.2)).2
      · exact ih hr b hb r (by rw [consume_records_ne hc hbe, hbr])

/-- An accepted stream is ordered per id: any two events about one id are its creation
followed by its revocation by the creating issuer. -/
theorem replay_ordered {x y : Indexer Address} {es : List (Event Address)}
    (h : x.replay es = some y) : es.Pairwise Event.Ordered := by
  induction es generalizing x with
  | nil => exact .nil
  | cons e es ih =>
    obtain ⟨x', hc, hr⟩ := Option.bind_eq_some.mp h
    refine .cons (fun b hb => ?_) (ih hr)
    by_cases hbe : e.attestationId = b.attestationId
    · have later := replay_known hr b hb
      rw [← hbe] at later
      cases hx : x.records e.attestationId with
      | some r => cases (later _ (consume_known hc hx).2.2).2
      | none =>
        obtain ⟨subject, issuer, claimType, timestamp, he, hx'⟩ := consume_unknown hc hx
        rw [(later _ hx').1, he]
        exact fun _ => rfl
    · exact Event.ordered_of_ne hbe

omit [DecidableEq Address] in
theorem ofStorage_init : ofStorage (Storage.init : Storage Address) = empty := rfl

end Indexer

open Indexer

/-! ## The stream follows the storage -/

variable {generateId : Address → Address → String → Nat → String}

/-- **Step.**  The events of one invocation from a keyed storage take the consumer's view of
the storage before exactly to its view of the storage after. -/
theorem Effect.replay_published {s s' : Storage Address} {env : Env Address}
    {c : Call Address} {r : Except Failure (Value Address)} (he : Effect generateId s env c r s')
    (hk : Keyed s) : (ofStorage s).replay (published env c r) = some (ofStorage s') := by
  cases he with
  | noop h =>
    rcases h with h | ⟨f, rfl⟩
    · rw [published_query env h]; rfl
    · rw [published_error]; rfl
  | admin | register | remove => rfl
  | create _ _ hnone =>
    simp only [published, Events.attestationCreated, replay, consume, ofStorage,
      Function.comp_apply, hnone, Option.map_none', Option.some_bind]
    congr 2
    show _ = Option.map Attestation.seen ∘ Function.update s.attestations _ _
    rw [Function.comp_update]
    rfl
  | revoke _ ha hi hr =>
    simp only [published, Events.attestationRevoked, replay, consume, ofStorage,
      Function.comp_apply, ha, Option.map_some', Attestation.seen, hi, hr, and_self, if_true,
      Option.some_bind]
    congr 2
    show _ = Option.map Attestation.seen ∘ Function.update s.attestations _ _
    rw [Function.comp_update, hk ha]
    rfl

/-- **Run.**  From a reachable storage, the events of any run take the consumer's view of
the start to its view of the end. -/
theorem replay_runFrom {s : Storage Address} (hs : Reachable generateId s)
    (is : List (Invocation Address)) :
    (ofStorage s).replay (eventsOf (runFrom generateId s is).2) =
      some (ofStorage (runFrom generateId s is).1) := by
  induction is generalizing s with
  | nil => rfl
  | cons i is ih =>
    simp only [runFrom, eventsOf, replay_append,
      (invoke_effect generateId s i.env i.call).replay_published hs.keyed, Option.some_bind]
    exact ih (hs.step i.env i.call)

/-- **The event stream is a complete log of the attestations.**  Replaying the events of any
run of a fresh deployment, refusing a second creation of an id and any revocation of an
unknown id, by anyone but its issuer, or of an id already revoked, never refuses an event
and ends holding every stored record except its expiration, and the subject and issuer
indexes. -/
theorem run_events_rebuild_storage (generateId : Address → Address → String → Nat → String)
    (is : List (Invocation Address)) :
    Indexer.empty.replay (eventsOf (run generateId is).2) =
      some (Indexer.ofStorage (run generateId is).1) :=
  (@ofStorage_init Address) ▸ replay_runFrom .init is

/-- **Each id's events are its creation, then at most its revocation by its issuer.**  In
the event stream of any run of a fresh deployment, any two events about one attestation id
are its creation followed by its revocation by the issuer that created it: no id is created
twice, revoked twice, revoked before it is created, or revoked by anyone else. -/
theorem run_events_ordered_per_id (generateId : Address → Address → String → Nat → String)
    (is : List (Invocation Address)) :
    (eventsOf (run generateId is).2).Pairwise Event.Ordered := by
  have h := replay_runFrom (Reachable.init : Reachable generateId Storage.init) is
  rw [ofStorage_init] at h
  exact replay_ordered h

end TrustLink
