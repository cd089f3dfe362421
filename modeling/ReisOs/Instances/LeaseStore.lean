import ReisOs.Core.Json
import ReisOs.Kernel.LeaseLedger

/-!
# The lease snapshot store

`AuthenticatedLeaseSnapshotStore` writes a signed snapshot as a JSON document and rebuilds
the manager from it.  The document is taken as the value the text stands for.
-/

namespace ReisOs.Instances

open ReisOs.Core
open ReisOs.Kernel

/-! ## Documents -/

def leaseStateOf : Json ℤ → Option LeaseState
  | .string value =>
    if value = LeaseState.active.value then some .active
    else if value = LeaseState.consumed.value then some .consumed
    else if value = LeaseState.released.value then some .released
    else none
  | _ => none

def naturalOf : Json ℤ → Option ℕ
  | .number (.ofNat value) => some value
  | _ => none

/-- `asdict` of a lease. -/
def leaseDocument (lease : AuthorityLease) : Json ℤ :=
  .object
    [("lease_id", .string lease.leaseId), ("ocs", .string lease.ocs),
      ("capability", .string lease.capability), ("expires_at", .number lease.expiresAt),
      ("actor", .string lease.actor), ("issued_at", .number lease.issuedAt),
      ("not_before", .number lease.notBefore),
      ("scope", .array (lease.scope.map .string)), ("tenant", .string lease.tenant),
      ("context_ref", .string lease.contextRef),
      ("authority_ref", .string lease.authorityRef),
      ("policy_snapshot", .string lease.policySnapshot),
      ("action_binding", .string lease.actionBinding),
      ("object_ref_or_selector", .string lease.objectRefOrSelector),
      ("trace_ref", .string lease.traceRef), ("max_uses", .number lease.maxUses),
      ("uses_consumed", .number lease.usesConsumed), ("revocable", .bool lease.revocable),
      ("single_use", .bool lease.singleUse), ("state", .string lease.state.value),
      ("revoked", .bool lease.revoked)]

/-- `AuthorityLease(**{...})`, with the defaults of the class. -/
def leaseOf (json : Json ℤ) : Option AuthorityLease := do
  let leaseId ← json.fieldAs "lease_id" Json.asString
  let ocs ← json.fieldAs "ocs" Json.asString
  let capability ← json.fieldAs "capability" Json.asString
  let expiresAt ← json.fieldAs "expires_at" Json.asNumber
  let actor ← json.fieldOr "actor" Json.asString ""
  let issuedAt ← json.fieldOr "issued_at" Json.asNumber 0
  let notBefore ← json.fieldOr "not_before" Json.asNumber 0
  let scope ← json.fieldAs "scope" (Json.asList Json.asString)
  let tenant ← json.fieldOr "tenant" Json.asString ""
  let contextRef ← json.fieldOr "context_ref" Json.asString ""
  let authorityRef ← json.fieldOr "authority_ref" Json.asString ""
  let policySnapshot ← json.fieldOr "policy_snapshot" Json.asString ""
  let actionBinding ← json.fieldOr "action_binding" Json.asString ""
  let objectRefOrSelector ← json.fieldOr "object_ref_or_selector" Json.asString ""
  let traceRef ← json.fieldOr "trace_ref" Json.asString ""
  let maxUses ← json.fieldOr "max_uses" naturalOf 1
  let usesConsumed ← json.fieldOr "uses_consumed" naturalOf 0
  let revocable ← json.fieldOr "revocable" Json.asBool true
  let singleUse ← json.fieldOr "single_use" Json.asBool false
  let state ← json.fieldAs "state" leaseStateOf
  let revoked ← json.fieldOr "revoked" Json.asBool false
  return { leaseId, ocs, capability, expiresAt, actor, issuedAt, notBefore, scope, tenant,
           contextRef, authorityRef, policySnapshot, actionBinding, objectRefOrSelector,
           traceRef, maxUses, usesConsumed, revocable, singleUse, state, revoked }

theorem leaseOf_leaseDocument (lease : AuthorityLease) :
    leaseOf (leaseDocument lease) = some lease := by
  have hstring (value : String) : (Json.string (N := ℤ) value).asString = some value := rfl
  have hscope := Json.asList_array hstring lease.scope
  have hstate : leaseStateOf (.string lease.state.value) = some lease.state := by
    cases lease.state <;> decide
  have hmaxUses : naturalOf (.number (lease.maxUses : ℤ)) = some lease.maxUses := rfl
  have huses : naturalOf (.number (lease.usesConsumed : ℤ)) = some lease.usesConsumed := rfl
  simp [leaseOf, leaseDocument, Json.fieldAs, Json.fieldOr, Json.field, Json.asString,
    Json.asNumber, Json.asBool, hscope, hstate, hmaxUses, huses]

def reservationDocument (row : ReservationRow) : Json ℤ :=
  .array [.string row.1, .string row.2.1, .number row.2.2]

def reservationOf : Json ℤ → Option ReservationRow
  | .array [.string key, .string actionId, .number (.ofNat useIndex)] =>
    some (key, actionId, useIndex)
  | _ => none

def snapshotDocument (item : LeaseSnapshot) : Json ℤ :=
  .object
    [("lease", leaseDocument item.lease),
      ("reservations", .array (item.reservations.map reservationDocument))]

def snapshotOf (json : Json ℤ) : Option LeaseSnapshot := do
  let lease ← json.fieldAs "lease" leaseOf
  let reservations ← json.fieldAs "reservations" (Json.asList reservationOf)
  return { lease, reservations }

def signedDocument (signed : AuthenticatedLeaseSnapshot) : Json ℤ :=
  .object
    [("algorithm", .string signed.algorithm), ("mac", .string signed.mac),
      ("snapshots", .array (signed.snapshots.map snapshotDocument))]

def signedOf (json : Json ℤ) : Option AuthenticatedLeaseSnapshot := do
  let snapshots ← json.fieldAs "snapshots" (Json.asList snapshotOf)
  let mac ← json.fieldAs "mac" Json.asString
  let algorithm ← json.fieldAs "algorithm" Json.asString
  return { snapshots, mac, algorithm }

theorem snapshotOf_snapshotDocument (item : LeaseSnapshot) :
    snapshotOf (snapshotDocument item) = some item := by
  have hrow (row : ReservationRow) : reservationOf (reservationDocument row) = some row := rfl
  have hlease : (snapshotDocument item).field "lease" =
      some (leaseDocument item.lease) := rfl
  have hreservations : (snapshotDocument item).field "reservations" =
      some (.array (item.reservations.map reservationDocument)) := rfl
  rw [snapshotOf, Json.fieldAs_of_field hlease, Json.fieldAs_of_field hreservations,
    leaseOf_leaseDocument, Json.asList_array hrow]
  rfl

theorem signedOf_signedDocument (signed : AuthenticatedLeaseSnapshot) :
    signedOf (signedDocument signed) = some signed := by
  have hitems := Json.asList_array snapshotOf_snapshotDocument signed.snapshots
  simp [signedOf, signedDocument, Json.fieldAs, Json.field, Json.asString, hitems]

/-! ## The store -/

/-- `AuthenticatedLeaseSnapshotStore`; its constructor refuses an empty key. -/
structure AuthenticatedLeaseSnapshotStore where
  authenticationKey : AuthenticationKey
  keyed : authenticationKey ≠ []

namespace AuthenticatedLeaseSnapshotStore

variable (hmac : SnapshotMac) (store : AuthenticatedLeaseSnapshotStore)

/-- The document that takes the file's place. -/
def save (manager : AuthorityLeaseManager) : Except PyError (Json ℤ) :=
  match manager.authenticatedSnapshot hmac store.authenticationKey with
  | .error error => .error error
  | .ok signed => .ok (signedDocument signed)

def load (document : Json ℤ) : Except PyError AuthorityLeaseManager :=
  match signedOf document with
  | none => .error (.keyError "snapshots")
  | some signed =>
    AuthorityLeaseManager.fromSnapshot hmac (.inl signed) (some store.authenticationKey)

/-! ## The round trip -/

/-- The manager's authenticated snapshot is rebuilt, directly and through the file, into
one manager that agrees with it. -/
def RoundTrips (manager : AuthorityLeaseManager) : Prop :=
  ∃ signed document restored,
    manager.authenticatedSnapshot hmac store.authenticationKey = .ok signed ∧
      AuthorityLeaseManager.fromSnapshot hmac (.inl signed) (some store.authenticationKey) =
        .ok restored ∧
      store.save hmac manager = .ok document ∧ store.load hmac document = .ok restored ∧
      restored.Agrees manager

variable {hmac store} {manager : AuthorityLeaseManager}

theorem exists_signed (hmac : SnapshotMac) (store : AuthenticatedLeaseSnapshotStore)
    (manager : AuthorityLeaseManager) :
    ∃ signed, manager.authenticatedSnapshot hmac store.authenticationKey = .ok signed ∧
      AuthorityLeaseManager.fromSnapshot hmac (.inl signed) (some store.authenticationKey) =
        manager.snapshot.foldlM AuthorityLeaseManager.readItem .empty := by
  have hkey : store.authenticationKey.isEmpty = false := by simpa using store.keyed
  refine ⟨⟨manager.snapshot, hmac store.authenticationKey manager.snapshot, "HMAC-SHA256"⟩,
    ?_, ?_⟩
  · simp [AuthorityLeaseManager.authenticatedSnapshot, AuthenticatedLeaseSnapshot.sign, hkey]
  · simp [AuthorityLeaseManager.fromSnapshot, AuthenticatedLeaseSnapshot.authenticated, hkey]

theorem roundTrips_iff (h : manager.Accounted) :
    store.RoundTrips hmac manager ↔ manager.Labelled := by
  obtain ⟨signed, hsigned, hread⟩ := exists_signed hmac store manager
  rw [← h.restorable_iff, ← hread]
  constructor
  · rintro ⟨other, document, restored, hother, hrestored, -⟩
    rw [hsigned] at hother
    cases hother
    exact ⟨restored, hrestored⟩
  · rintro ⟨restored, hrestored⟩
    have hsave : store.save hmac manager = .ok (signedDocument signed) := by
      unfold save
      rw [hsigned]
    have hload : store.load hmac (signedDocument signed) = .ok restored := by
      unfold load
      rw [signedOf_signedDocument]
      exact hrestored
    obtain ⟨hagrees, -⟩ :=
      AuthorityLeaseManager.restored_agrees h.named h.opened (hread ▸ hrestored)
    exact ⟨signed, _, restored, hsigned, hrestored, hsave, hload, hagrees⟩

/-- In every run that labels its reservations each manager reached goes through the store,
and any manager reached does so exactly if its reservations are labelled. -/
theorem run_roundTrips (hmac : SnapshotMac) (store : AuthenticatedLeaseSnapshotStore)
    {P : Type} (commands : List (LeaseCommand P)) :
    ((∀ command ∈ commands, command.Labels) →
      store.RoundTrips hmac (AuthorityLeaseManager.empty.applyAll commands)) ∧
    (store.RoundTrips hmac (AuthorityLeaseManager.empty.applyAll commands) ↔
      (AuthorityLeaseManager.empty.applyAll commands).Labelled) := by
  have hiff : store.RoundTrips hmac (AuthorityLeaseManager.empty.applyAll commands) ↔
      (AuthorityLeaseManager.empty.applyAll commands).Labelled :=
    roundTrips_iff (AuthorityLeaseManager.applyAll_accounted commands)
  refine ⟨fun hlabels => ?_, hiff⟩
  exact hiff.mpr (AuthorityLeaseManager.applyAll_labelled hlabels)

end AuthenticatedLeaseSnapshotStore

/-- A store over the fixture's key. -/
def fixtureStore : AuthenticatedLeaseSnapshotStore := ⟨[7], by decide⟩

/-- The lease is issued and a use of it reserved for a proposal. -/
def reservingCommands (p : ActionProposal ℕ) : List (LeaseCommand ℕ) :=
  .issue 100 Fixture.lease ::
    (buildEnvelope p 1).toList.map fun envelope => .reserveUse 100 100 envelope

/-- A reservation without an action id is accepted, and then neither the snapshot nor the
file can be read. -/
theorem unlabelled_not_restored :
    let manager := AuthorityLeaseManager.empty.applyAll
      (reservingCommands { Fixture.proposal with actionId := "" })
    manager.reservation "lease-1" "key-1" = some ("", 1) ∧
      ∃ signed document, manager.authenticatedSnapshot Fixture.hmac [7] = .ok signed ∧
        AuthorityLeaseManager.fromSnapshot Fixture.hmac (.inl signed) (some [7]) =
          .error (.valueError "lease_snapshot_reservation_binding_invalid") ∧
        fixtureStore.save Fixture.hmac manager = .ok document ∧
        fixtureStore.load Fixture.hmac document =
          .error (.valueError "lease_snapshot_reservation_binding_invalid") := by
  exact ⟨rfl, _, _, rfl, rfl, rfl, rfl⟩

end ReisOs.Instances
