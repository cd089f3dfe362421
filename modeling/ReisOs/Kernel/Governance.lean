import ReisOs.Core.Checks
import ReisOs.Kernel.Contracts

/-!
# Governance: evidence, leases and authorization

`AuthorityLeaseManager`, `EvidenceEngine` and `GovernanceEngine`.  Every manager
method holds the manager's lock for its whole body, so each is one atomic
function of the manager's state.  `time()` is read anew at each place the source
reads it: a method that reads it twice takes two clock values.
-/

namespace ReisOs.Kernel

open ReisOs.Core

/-! ## Identities, capabilities and evidence -/

structure OCSIdentity where
  ocs : String
  allowedCapabilities : List String
  deriving DecidableEq, Repr

/-- The fields an assurance receipt's authentication code covers. -/
structure AssurancePayload where
  receiptId : String
  evidenceRef : String
  objectRef : String
  policySnapshot : String
  assurer : String
  verdictPassed : Bool
  issuedAt : Time
  deriving DecidableEq, Repr

structure AssuranceReceipt extends AssurancePayload where
  mac : String
  deriving DecidableEq, Repr

/-- `mac` is the keyed HMAC of the registry. -/
structure AssuranceReceiptRegistry where
  mac : AssurancePayload → String
  receipts : Dict String AssuranceReceipt

variable {P : Type}

def AssuranceReceiptRegistry.validateFor (registry : AssuranceReceiptRegistry)
    (evidenceRef : String) (proposal : ActionProposal P) : Bool × String :=
  match registry.receipts.lookup evidenceRef with
  | none => (false, "assurance_receipt_not_found")
  | some receipt =>
    verdict
      [(registry.mac receipt.toAssurancePayload != receipt.mac,
          "assurance_receipt_authentication_failed"),
        (!receipt.verdictPassed, "assurance_receipt_failed"),
        (proposal.objectRef != some receipt.objectRef,
          "assurance_receipt_object_mismatch"),
        (proposal.policySnapshot != some receipt.policySnapshot,
          "assurance_receipt_revision_mismatch"),
        (receipt.assurer == proposal.ocs || receipt.assurer == proposal.actor,
          "self_assurance_denied")]
      "assurance_receipt_valid"

/-- `EvidenceEngine.assess`; the engine is its optional assurance registry. -/
def assess (registry : Option AssuranceReceiptRegistry)
    (proposal : ActionProposal P) : EvidenceAssessment :=
  let failed := (proposal.evidence.filter (!·.passed)).map (·.ref)
  let independent :=
    match registry with
    | none => false
    | some registry =>
      proposal.evidence.any fun item => (registry.validateFor item.ref proposal).1
  let deficits :=
    (if proposal.evidence.isEmpty then ["evidence_required"] else []) ++
    (if failed.isEmpty then [] else ["evidence_failed"]) ++
    (if proposal.risk == .high && !independent then
      ["independent_assurance_required"] else [])
  { sufficiency := deficits.isEmpty
    deficits := deficits
    contradictions := failed
    riskBurden := proposal.risk
    evidenceRef :=
      match proposal.evidenceAssessmentRef with
      | some ref => if ref = "" then s!"assessment:{proposal.actionId}" else ref
      | none => s!"assessment:{proposal.actionId}" }

/-! ## Authority leases -/

inductive LeaseState where
  | active | consumed | released
  deriving DecidableEq, Repr

def LeaseState.value : LeaseState → String
  | .active => "active"
  | .consumed => "consumed"
  | .released => "released"

structure AuthorityLease where
  leaseId : String
  ocs : String
  capability : String
  expiresAt : Time
  actor : String
  issuedAt : Time
  notBefore : Time
  scope : List String
  tenant : String
  contextRef : String
  authorityRef : String
  policySnapshot : String
  actionBinding : String
  objectRefOrSelector : String
  traceRef : String
  maxUses : ℕ
  usesConsumed : ℕ
  revocable : Bool
  singleUse : Bool
  state : LeaseState
  revoked : Bool
  deriving DecidableEq, Repr

/-- Idempotency key to the action and use index it reserved. -/
abbrev Reservations := Dict String (String × ℕ)

structure AuthorityLeaseManager where
  leases : Dict String AuthorityLease
  usage : Dict String Reservations
  deriving DecidableEq

namespace AuthorityLeaseManager

def empty : AuthorityLeaseManager := ⟨∅, ∅⟩

/-- The reservation an idempotency key holds under a lease. -/
def reservation (manager : AuthorityLeaseManager) (leaseId key : String) :
    Option (String × ℕ) :=
  (manager.usage.lookup leaseId).bind (·.lookup key)

def issue (manager : AuthorityLeaseManager) (now : Time) (lease : AuthorityLease) :
    Except PyError AuthorityLeaseManager :=
  let bindings :=
    [lease.actor, lease.tenant, lease.contextRef, lease.authorityRef,
      lease.policySnapshot, lease.actionBinding, lease.objectRefOrSelector,
      lease.traceRef]
  let failure := firstFailure
    [(lease.maxUses == 0, "lease_max_uses_must_be_positive"),
      (lease.usesConsumed != 0, "lease_must_issue_unconsumed"),
      (lease.singleUse && lease.maxUses != 1,
        "single_use_lease_requires_max_uses_one"),
      (lease.scope.isEmpty, "lease_scope_required"),
      (lease.state != .active, "lease_must_issue_active"),
      (lease.issuedAt ≤ 0 || now < lease.issuedAt, "lease_issued_at_invalid"),
      (lease.notBefore < lease.issuedAt, "lease_not_before_invalid"),
      (lease.expiresAt ≤ lease.notBefore, "lease_expiry_invalid"),
      (bindings.any (· == ""), "lease_binding_required"),
      ((manager.leases.lookup lease.leaseId).isSome, "duplicate_lease_id")]
  match failure with
  | some reason => .error (.valueError reason)
  | none =>
    .ok
      { leases := manager.leases.insert lease.leaseId lease
        usage := manager.usage.insert lease.leaseId ∅ }

/-- `self._leases[lease_id] = lease`. -/
def setLease (manager : AuthorityLeaseManager) (leaseId : String)
    (lease : AuthorityLease) : AuthorityLeaseManager :=
  { manager with leases := manager.leases.insert leaseId lease }

def leaseFor (manager : AuthorityLeaseManager) (leaseId : String) :
    Except PyError AuthorityLease :=
  match manager.leases.lookup leaseId with
  | none => .error (.keyError leaseId)
  | some lease => .ok lease

def revoke (manager : AuthorityLeaseManager) (leaseId : String) :
    Except PyError AuthorityLeaseManager :=
  match manager.leases.lookup leaseId with
  | none => .error (.keyError leaseId)
  | some lease =>
    if !lease.revocable then .error (.valueError "lease_not_revocable")
    else .ok (manager.setLease leaseId { lease with revoked := true })

def release (manager : AuthorityLeaseManager) (leaseId : String) :
    Except PyError AuthorityLeaseManager :=
  match manager.leases.lookup leaseId with
  | none => .error (.keyError leaseId)
  | some lease =>
    match lease.state with
    | .released => .ok manager
    | .active => .error (.valueError "lease_release_requires_consumed_state")
    | .consumed => .ok (manager.setLease leaseId { lease with state := .released })

def finalize (manager : AuthorityLeaseManager) (leaseId : String) :
    Except PyError (AuthorityLeaseManager × LeaseState) :=
  match manager.leases.lookup leaseId with
  | none => .error (.keyError leaseId)
  | some lease =>
    match lease.state with
    | .released => .ok (manager, .released)
    | .active => .error (.valueError "lease_finalize_requires_consumed_state")
    | .consumed =>
      if lease.singleUse then
        .ok (manager.setLease leaseId { lease with state := .released }, .released)
      else .ok (manager, .consumed)

/-- `_validate_basic_unlocked`. -/
def validateBasic (manager : AuthorityLeaseManager) (now : Time)
    (leaseId : Option String) (ocs capability : String) : Bool × String :=
  match leaseId with
  | none => (false, "lease_required")
  | some leaseId =>
    match manager.leases.lookup leaseId with
    | none => (false, "lease_unknown")
    | some lease =>
      verdict
        [(lease.revoked, "lease_revoked"),
          (lease.state == .released, "lease_released"),
          (now < lease.notBefore, "lease_not_before"),
          (lease.expiresAt ≤ now, "lease_expired"),
          (lease.ocs != ocs || lease.capability != capability,
            "lease_scope_mismatch")]
        "lease_valid"

/-- `validate_proposal`: `now` is read by the basic check, `later` by the expiry
check at the end. -/
def validateProposal (manager : AuthorityLeaseManager) (now later : Time)
    (proposal : ActionProposal P) : Bool × String :=
  let basic := manager.validateBasic now proposal.leaseId proposal.ocs proposal.capability
  match basic.1, proposal.leaseId.bind manager.leases.lookup with
  | true, some lease =>
    verdict
      [(proposal.actor != lease.actor, "lease_actor_mismatch"),
        (proposal.actionType != some lease.actionBinding,
          "lease_action_binding_mismatch"),
        (proposal.objectRef != some lease.objectRefOrSelector,
          "lease_object_binding_mismatch"),
        (proposal.traceId != some lease.traceRef, "lease_trace_binding_mismatch"),
        (proposal.issuedAt.all (· < lease.notBefore), "lease_not_before"),
        (proposal.tenant != some lease.tenant, "lease_tenant_mismatch"),
        (proposal.contextRef != some lease.contextRef, "lease_context_mismatch"),
        (proposal.authorityRef != some lease.authorityRef,
          "lease_authority_ref_mismatch"),
        (proposal.policySnapshot != some lease.policySnapshot,
          "lease_policy_snapshot_mismatch"),
        (proposal.scope.isEmpty || !(proposal.scope ⊆ lease.scope : Bool),
          "lease_scope_mismatch"),
        (proposal.expiresAt.all (lease.expiresAt < ·),
          "envelope_expiry_exceeds_lease"),
        (proposal.expiresAt.all (· ≤ later), "envelope_expired")]
      "lease_binding_valid"
  | _, _ => (false, basic.2)

/-- `_validate_envelope_bindings_unlocked`. -/
def validateEnvelopeBindings (now : Time) (envelope : AuthorizedActionEnvelope P)
    (lease : AuthorityLease) : Bool × String :=
  verdict
    [(envelope.actor != lease.actor, "lease_actor_mismatch"),
      (envelope.actionType != lease.actionBinding, "lease_action_binding_mismatch"),
      (envelope.objectRef != lease.objectRefOrSelector,
        "lease_object_binding_mismatch"),
      (envelope.traceId != lease.traceRef, "lease_trace_binding_mismatch"),
      (envelope.issuedAt < lease.notBefore, "lease_not_before"),
      (envelope.tenant != lease.tenant, "lease_tenant_mismatch"),
      (envelope.contextRef != lease.contextRef, "lease_context_mismatch"),
      (envelope.authorityRef != lease.authorityRef, "lease_authority_ref_mismatch"),
      (envelope.policySnapshot != lease.policySnapshot,
        "lease_policy_snapshot_mismatch"),
      (!envelope.validScope || !(envelope.scope ⊆ lease.scope : Bool),
        "lease_scope_mismatch"),
      (lease.expiresAt < envelope.expiresAt || envelope.expiresAt ≤ now,
        "envelope_expired"),
      (envelope.maxUses != lease.maxUses, "lease_max_uses_binding_mismatch")]
    "lease_envelope_binding_valid"

/-- The two checks `reserve_use` and `_validate_reserved_use_unlocked` begin with. -/
def validateUse (manager : AuthorityLeaseManager) (now later : Time)
    (envelope : AuthorizedActionEnvelope P) : Except String AuthorityLease :=
  let basic := manager.validateBasic now (some envelope.leaseId) envelope.ocs
    envelope.capability
  match basic.1, manager.leases.lookup envelope.leaseId with
  | true, some lease =>
    let binding := validateEnvelopeBindings later envelope lease
    if binding.1 then .ok lease else .error binding.2
  | _, _ => .error basic.2

/-- Reserve the next use of a lease for an envelope. -/
def recordUse (manager : AuthorityLeaseManager) (lease : AuthorityLease)
    (envelope : AuthorizedActionEnvelope P) : AuthorityLeaseManager :=
  { leases := manager.leases.insert envelope.leaseId
      { lease with usesConsumed := lease.usesConsumed + 1, state := .consumed }
    usage := manager.usage.insert envelope.leaseId
      (((manager.usage.lookup envelope.leaseId).getD ∅).insert envelope.idempotencyKey
        (envelope.actionId, lease.usesConsumed + 1)) }

/-- `reserve_use`: a refusal, or the reason with the use index. -/
def reserveUse (manager : AuthorityLeaseManager) (now later : Time)
    (envelope : AuthorizedActionEnvelope P) :
    AuthorityLeaseManager × Except String (String × ℕ) :=
  match manager.validateUse now later envelope with
  | .error reason => (manager, .error reason)
  | .ok lease =>
    match manager.reservation envelope.leaseId envelope.idempotencyKey with
    | some (existingAction, useIndex) =>
      if existingAction ≠ envelope.actionId then
        (manager, .error "idempotency_conflict")
      else (manager, .ok ("lease_use_already_reserved", useIndex))
    | none =>
      if lease.maxUses ≤ lease.usesConsumed then
        (manager, .error "lease_max_uses_exhausted")
      else
        (manager.recordUse lease envelope,
          .ok ("lease_use_reserved", lease.usesConsumed + 1))

/-- `_validate_reserved_use_unlocked`. -/
def validateReservedUse (manager : AuthorityLeaseManager) (now later : Time)
    (envelope : AuthorizedActionEnvelope P) : Bool × String :=
  match manager.validateUse now later envelope with
  | .error reason => (false, reason)
  | .ok _ =>
    match envelope.leaseUseIndex with
    | none => (false, "lease_reservation_required")
    | some leaseUseIndex =>
      match manager.reservation envelope.leaseId envelope.idempotencyKey with
      | none => (false, "lease_reservation_missing")
      | some (actionId, useIndex) =>
        if actionId ≠ envelope.actionId then
          (false, "lease_reservation_action_mismatch")
        else if useIndex ≠ leaseUseIndex then
          (false, "lease_reservation_index_mismatch")
        else (true, "lease_reserved_use_valid_at_effect")

/-- Entering `material_effect_guard`. -/
def materialEffectGuard (manager : AuthorityLeaseManager) (now later : Time)
    (envelope : AuthorizedActionEnvelope P) : Except PyError Unit :=
  let check := manager.validateReservedUse now later envelope
  if check.1 then .ok () else .error (.valueError check.2)

end AuthorityLeaseManager

/-! ## Authorization -/

/-- The static parts of a `GovernanceEngine`; the lease manager is passed along. -/
structure GovernanceEngine where
  identities : Dict String OCSIdentity
  capabilities : Dict String (List String)
  assurance : Option AssuranceReceiptRegistry

/-- `_validate_envelope_contract`.  The required names are listed in the sorted
order in which the source joins the missing ones. -/
def validateEnvelopeContract (now : Time) (proposal : ActionProposal P) : Bool × String :=
  let absent (value : Option String) : Bool := value = none || value = some ""
  let missing := [("action_type", absent proposal.actionType),
      ("authority_ref", absent proposal.authorityRef),
      ("context_ref", absent proposal.contextRef),
      ("csp_ref", absent proposal.cspRef),
      ("evidence_assessment_ref", absent proposal.evidenceAssessmentRef),
      ("expected_effect", absent proposal.expectedEffect),
      ("expires_at", proposal.expiresAt.isNone),
      ("idempotency_key", absent proposal.idempotencyKey),
      ("issued_at", proposal.issuedAt.isNone),
      ("object_ref", absent proposal.objectRef),
      ("policy_snapshot", absent proposal.policySnapshot),
      ("recovery_ref", absent proposal.recoveryRef),
      ("reversibility_class", proposal.reversibilityClass.isNone),
      ("side_effect_class", proposal.sideEffectClass.isNone),
      ("tenant", absent proposal.tenant),
      ("trace_id", absent proposal.traceId)].filter (·.2)
  if !missing.isEmpty then
    (false, "action_envelope_incomplete:" ++ ",".intercalate (missing.map (·.1)))
  else if proposal.scope.isEmpty then (false, "action_envelope_incomplete:scope")
  else
    match proposal.issuedAt, proposal.expiresAt with
    | some issuedAt, some expiresAt =>
      verdict
        [(now < issuedAt, "action_envelope_issued_in_future"),
          (expiresAt < issuedAt, "action_envelope_invalid_lifetime")]
        "action_envelope_complete"
    | _, _ => (false, "action_envelope_incomplete:scope")

/-- The envelope `authorize` assembles; `none` only if a required field is absent. -/
def buildEnvelope (proposal : ActionProposal P) (maxUses : ℕ) :
    Option (AuthorizedActionEnvelope P) := do
  return {
    actionId := proposal.actionId
    actor := proposal.actor
    ocs := proposal.ocs
    capability := proposal.capability
    operation := proposal.operation
    actionType := ← proposal.actionType
    issuedAt := ← proposal.issuedAt
    payload := proposal.payload
    leaseId := ← proposal.leaseId
    evidenceRefs := proposal.evidence.map (·.ref)
    cspRef := ← proposal.cspRef
    objectRef := ← proposal.objectRef
    tenant := ← proposal.tenant
    contextRef := ← proposal.contextRef
    scope := proposal.scope
    validScope := true
    authorityRef := ← proposal.authorityRef
    policySnapshot := ← proposal.policySnapshot
    idempotencyKey := ← proposal.idempotencyKey
    expectedEffect := ← proposal.expectedEffect
    sideEffectClass := ← proposal.sideEffectClass
    reversibilityClass := ← proposal.reversibilityClass
    recoveryRef := ← proposal.recoveryRef
    expiresAt := ← proposal.expiresAt
    evidenceAssessmentRef := ← proposal.evidenceAssessmentRef
    maxUses := maxUses
    traceId := ← proposal.traceId
    leaseUseIndex := none }

namespace GovernanceEngine

/-- The checks of `authorize`, up to its second use of the lease manager;
`clock i` is their `i`-th reading of `time()`. -/
def authorizeChecks (engine : GovernanceEngine) (manager : AuthorityLeaseManager)
    (clock : ℕ → Time) (proposal : ActionProposal P) :
    Except PyError (GovernanceResult P) :=
  match engine.identities.lookup proposal.ocs with
  | none => .error (.valueError "unknown_ocs_identity")
  | some identity =>
    if proposal.actor ≠ proposal.ocs then .ok ⟨.deny, "actor_ocs_mismatch", none, none⟩
    else if proposal.capability ∉ identity.allowedCapabilities then
      .ok ⟨.deny, "constitution_denies_capability", none, none⟩
    else if proposal.capability ∉ (engine.capabilities.lookup proposal.ocs).getD [] then
      .ok ⟨.deny, "capability_not_registered", none, none⟩
    else if proposal.evidence.any fun item =>
        item.independentAssurer == some proposal.ocs ||
          item.independentAssurer == some proposal.actor then
      .ok ⟨.deny, "self_assurance_denied", none, none⟩
    else
      let assessment := assess engine.assurance proposal
      if !assessment.contradictions.isEmpty then
        .ok ⟨.deny, "evidence_failed", none, some assessment⟩
      else if !assessment.sufficiency then
        .ok ⟨.hold, assessment.deficits.headD "", none, some assessment⟩
      else
        let contract := validateEnvelopeContract (clock 0) proposal
        if !contract.1 then .ok ⟨.deny, contract.2, none, some assessment⟩
        else
          let lease := manager.validateProposal (clock 1) (clock 2) proposal
          if !lease.1 then .ok ⟨.deny, lease.2, none, some assessment⟩
          else .ok ⟨.allow, "authorized", none, some assessment⟩

/-- The rest of `authorize`: `lease_for` and the envelope.  The lease manager's
lock is free between the checks and this. -/
def assembleEnvelope (manager : AuthorityLeaseManager) (proposal : ActionProposal P)
    (checked : GovernanceResult P) : Except PyError (GovernanceResult P) :=
  match proposal.leaseId.bind manager.leases.lookup with
  | none => .error (.keyError (proposal.leaseId.getD ""))
  | some lease => .ok { checked with envelope := buildEnvelope proposal lease.maxUses }

/-- `authorize` when nothing else touches the lease manager meanwhile. -/
def authorize (engine : GovernanceEngine) (manager : AuthorityLeaseManager)
    (clock : ℕ → Time) (proposal : ActionProposal P) :
    Except PyError (GovernanceResult P) :=
  match engine.authorizeChecks manager clock proposal with
  | .error error => .error error
  | .ok checked =>
    match checked.decision with
    | .allow => assembleEnvelope manager proposal checked
    | .deny | .hold => .ok checked

/-- `reserve_authority`. -/
def reserveAuthority (manager : AuthorityLeaseManager) (now later : Time)
    (envelope : AuthorizedActionEnvelope P) :
    AuthorityLeaseManager × GovernanceResult P :=
  match manager.reserveUse now later envelope with
  | (manager, .error reason) => (manager, ⟨.deny, reason, none, none⟩)
  | (manager, .ok (reason, useIndex)) =>
    (manager,
      ⟨.allow, reason, some { envelope with leaseUseIndex := some useIndex }, none⟩)

end GovernanceEngine

end ReisOs.Kernel
