import ReisOs.Instances.World

/-!
# Binding, checkpointing and replacing

`OCSInstanceBinder`: each method is a script of the world in the order of the source.
-/

namespace ReisOs.Instances

open ReisOs.Core ReisOs.Kernel World InstanceStore

variable {S : Type}

/-! ## Leases -/

/-- `_validate_request`. -/
def validateRequest (request : PrepareInstanceRequest) : Service S Unit :=
  .raiseIf
    ([request.missionId, request.organizationId, request.ocsId, request.capability,
        request.leaseId, request.host, request.idempotencyKey, request.correlationId,
        request.actor, request.contextRef, request.policySnapshot,
        request.traceRef].any (· = "") ∨ request.scope = [])
    (.value "instance_prepare_fields_required")

/-- The checks of `_validated_lease` on the lease itself. -/
def leaseFailure (request : PrepareInstanceRequest) (profile : OCSProfile)
    (actionBinding : String) (lease : AuthorityLease) : Option String :=
  firstFailure
    [(lease.actor != request.actor, "lease_actor_mismatch"),
      (lease.contextRef != request.contextRef, "lease_context_mismatch"),
      (lease.policySnapshot != request.policySnapshot, "lease_policy_snapshot_mismatch"),
      (lease.traceRef != request.traceRef, "lease_trace_binding_mismatch"),
      (lease.tenant != request.organizationId, "lease_tenant_mismatch"),
      (lease.objectRefOrSelector != request.missionId, "mission_specific_lease_required"),
      (lease.actionBinding != actionBinding, s!"{actionBinding}_action_lease_required"),
      (!(request.scope ⊆ lease.scope : Bool), "lease_scope_mismatch"),
      (lease.authorityRef != profile.authorityEnvelopeRef,
        "profile_authority_ref_mismatch"),
      (request.host != "ChatGPT Work", "work_host_required")]

/-- `_validated_lease`. -/
def validatedLease (request : PrepareInstanceRequest) (profile : OCSProfile)
    (actionBinding : String) : Service S AuthorityLease := do
  let now ← tick
  let valid ← Script.read
    (·.leases.validateBasic now (some request.leaseId) request.ocsId request.capability)
  .raiseIf (valid.1 = false) (.value valid.2)
  let lease ← leaseFor request.leaseId
  match leaseFailure request profile actionBinding lease with
  | some reason => .raise (.value reason)
  | none => return lease

/-- The envelope under which `_reserve_action_lease` reserves a use. -/
def leaseEnvelope (request : PrepareInstanceRequest) (profile : OCSProfile)
    (lease : AuthorityLease) (binding : InstanceBinding)
    (actionType actionId idempotencyKey : String) : AuthorizedActionEnvelope String :=
  { actionId := actionId
    actor := request.actor
    ocs := request.ocsId
    capability := request.capability
    operation := actionType
    actionType := actionType
    issuedAt := binding.createdAt
    payload := binding.bindingId
    leaseId := lease.leaseId
    evidenceRefs := []
    cspRef := profile.cspRef
    objectRef := request.missionId
    tenant := request.organizationId
    contextRef := request.contextRef
    scope := request.scope
    validScope := true
    authorityRef := lease.authorityRef
    policySnapshot := request.policySnapshot
    idempotencyKey := idempotencyKey
    expectedEffect := actionType
    sideEffectClass := .bounded
    reversibilityClass := .reversible
    recoveryRef := profile.recoveryPolicy
    expiresAt := lease.expiresAt
    evidenceAssessmentRef := s!"assessment:{binding.bindingId}"
    maxUses := lease.maxUses
    traceId := request.traceRef
    leaseUseIndex := none }

/-- `_reserve_action_lease`; `profile` is `PROFILES[request.ocs_id]`. -/
def reserveActionLease (request : PrepareInstanceRequest) (profile : OCSProfile)
    (lease : AuthorityLease) (binding : InstanceBinding)
    (actionType actionId idempotencyKey : String) : Service S Unit := do
  let now ← tick
  let later ← tick
  reserveUse now later
    (leaseEnvelope request profile lease binding actionType actionId idempotencyKey)

/-- `_reserve_binding_lease`. -/
def reserveBindingLease (request : PrepareInstanceRequest) (profile : OCSProfile)
    (lease : AuthorityLease) (binding : InstanceBinding) : Service S Unit :=
  reserveActionLease request profile lease binding "ocs_instance_binding"
    s!"bind:{binding.bindingId}" request.idempotencyKey

/-- `_reconcile_binding_lease`. -/
def reconcileBindingLease (request : PrepareInstanceRequest) (profile : OCSProfile)
    (lease : AuthorityLease) (binding : InstanceBinding) : Service S Unit := do
  let current ← leaseFor lease.leaseId
  if current.state = .released then
    return ()
  else
    reserveBindingLease request profile current binding
    finalize current.leaseId

/-! ## Envelopes -/

/-- The bootstrap envelope, from the checkpoint it hands over. -/
def bootstrapEnvelope (binding : InstanceBinding) (profile : OCSProfile)
    (lease : AuthorityLease) (nonce : String) (checkpointVersion : ℕ)
    (checkpointHash : Option String) : InstanceBootstrapEnvelope :=
  { schemaVersion := "ocs-instance-bootstrap-v1"
    bindingId := binding.bindingId
    missionId := binding.missionId
    runId := binding.runId
    ocsId := binding.ocsId
    canonicalName := profile.ocsId
    identityRef := profile.identity
    ancestryRef := profile.ancestry
    constitutionRef := profile.constitutionRef
    cspRef := profile.cspRef
    profileVersion := binding.profileVersion
    profileHash := binding.profileHash
    identityBindingHash := binding.identityBindingHash
    maturity := binding.maturity
    host := binding.host
    capability := binding.capability
    leaseId := binding.leaseId
    authorityRef := binding.authorityRef
    scope := binding.scope
    allowedActionClasses := profile.allowedActionClasses
    deniedActionClasses := profile.deniedActionClasses
    toolPermissions := profile.toolPermissions
    stateNamespace := binding.stateNamespace
    memoryNamespace := binding.memoryNamespace
    stopPolicy := profile.stopPolicy
    handoffPolicy := profile.handoffPolicy
    recoveryPolicy := profile.recoveryPolicy
    generation := binding.generation
    predecessorBindingId := binding.predecessorBindingId
    checkpointVersion := checkpointVersion
    checkpointHash := checkpointHash
    challengeNonce := nonce
    issuedAt := binding.createdAt
    expiresAt := lease.expiresAt }

/-- `_envelope`. -/
def envelope (binding : InstanceBinding) (profile : OCSProfile) (lease : AuthorityLease)
    (nonce : String) : Service S InstanceBootstrapEnvelope := do
  if binding.status = .prepared then
    return bootstrapEnvelope binding profile lease nonce binding.checkpointVersion
      binding.checkpointHash
  else
    match binding.predecessorBindingId with
    | none => return bootstrapEnvelope binding profile lease nonce 0 none
    | some predecessorId =>
      let predecessor ← onStore (get predecessorId)
      return bootstrapEnvelope binding profile lease nonce predecessor.checkpointVersion
        predecessor.checkpointHash

/-! ## Preparing -/

def recoverArguments (binding : InstanceBinding) : RecoverArguments :=
  { runId := binding.runId
    expectedOcs := binding.ocsId
    host := binding.host
    authorityRef := binding.authorityRef }

/-- The `state` of `_ensure_hazel`. -/
def preparedState (binding : InstanceBinding) : HazelPayload S :=
  .prepared binding.bindingId binding.missionId binding.organizationId binding.generation
    binding.profileHash binding.identityBindingHash binding.bootstrapHash binding.maturity

/-- `except (KeyError, HazelIntegrationError)`. -/
def isMissing : InstanceError → Bool
  | .hazel (.integration _) | .hazel (.kernel (.keyError _)) => true
  | .binding _ | .hazel (.kernel (.valueError _)) | .hazel (.kernel (.runtimeError _))
  | .hazel (.kernel .integrityError) => false

/-- `str` of a field of a Hazel record. -/
def textOf (field : Option String) : String := field.getD "None"

/-- The `except` branch of `_ensure_hazel`. -/
def persistPrepared (config : BinderConfig S) (binding : InstanceBinding) :
    Service S (HazelRecord (HazelPayload S)) := do
  let receipt ← persistState config
    { runId := binding.runId
      expectedOcs := binding.ocsId
      host := binding.host
      authorityRef := binding.authorityRef
      stateVersion := 1
      predecessorHash := none
      state := preparedState binding
      traceId := s!"trace:{binding.bindingId}:prepare" }
  let recovered ← recoverState config (recoverArguments binding)
  .raiseIf (recovered.eventHash ≠ receipt.eventHash)
    (.binding "hazel_prepare_readback_mismatch")
  return recovered

/-- The `try` statement of `_ensure_hazel`. -/
def recoverOrPersist [DecidableEq S] (config : BinderConfig S)
    (binding : InstanceBinding) : Service S (HazelRecord (HazelPayload S)) :=
  Script.handle
    (do
      let recovered ← recoverState config (recoverArguments binding)
      .raiseIf (recovered.payload ≠ some (preparedState binding))
        (.binding "hazel_prepare_recovery_conflict")
      return recovered)
    fun error => if isMissing error then some (persistPrepared config binding) else none

/-- `_ensure_hazel`. -/
def ensureHazel [DecidableEq S] (config : BinderConfig S) (binding : InstanceBinding)
    (request : PrepareInstanceRequest) : Service S InstanceBinding := do
  let recovered ← recoverOrPersist config binding
  .raiseIf (recovered.payload ≠ some (preparedState binding))
    (.binding "hazel_prepare_readback_mismatch")
  onStore (transition
    { bindingId := binding.bindingId
      expectedVersion := binding.version
      target := .persisted
      idempotencyKey := s!"{request.idempotencyKey}:hazel"
      eventType := "OCS_INSTANCE_PERSISTED"
      checkpointVersion := some 1
      checkpointHash := some (textOf recovered.payloadHash)
      hazelEventHash := some (textOf recovered.eventHash)
      payload := [("event_hash", textOrNone recovered.eventHash),
        ("payload_hash", textOrNone recovered.payloadHash)] })

/-- The branch of `prepare` for an idempotency key that is stored. -/
def replayPrepare [DecidableEq S] (config : BinderConfig S)
    (request : PrepareInstanceRequest) (profile : OCSProfile)
    (recovered : InstanceBinding) :
    Service S (InstanceBinding × InstanceBootstrapEnvelope) := do
  let lease ← leaseFor recovered.leaseId
  .raiseIf (recovered.requestHash ≠ config.requestHash request)
    (.binding "instance_idempotency_conflict")
  let replayed ← envelope recovered profile lease (config.nonce (config.requestHash request))
  .raiseIf (config.digest replayed ≠ recovered.bootstrapHash)
    (.binding "bootstrap_recovery_hash_mismatch")
  reconcileBindingLease request profile lease recovered
  if recovered.status = .prepared then
    let durable ← ensureHazel config recovered request
    return (durable, replayed)
  else
    return (recovered, replayed)

/-- The hash that `prepare` passes as the session context. -/
def sessionContext (config : BinderConfig S) (request : PrepareInstanceRequest) : String :=
  "context:" ++ config.canonicalHash (.session institution request.organizationId
    request.missionId request.ocsId request.contextRef request.policySnapshot
    request.traceRef)

/-- The identity part of `prepare`: bind the run if it is unknown, then validate it. -/
def activeIdentity (config : BinderConfig S) (request : PrepareInstanceRequest)
    (runId : String) : Service S ActiveIdentityBinding := do
  match ← Script.read (·.guard.bindingFor runId) with
  | some _ => pure ()
  | none =>
    let now ← tick
    onGuard .kernel fun guard =>
      match guard.bindActiveIdentity config.hazel.identity now runId request.ocsId
          request.host (sessionContext config request) with
      | .error error => (guard, .error error)
      | .ok (guard, _) => (guard, .ok ())
  onGuard .kernel
    (·.requireValid config.hazel.identity runId request.ocsId .coldStart (some request.host))

/-- The provisional binding of `prepare`. -/
def preparedBinding (config : BinderConfig S) (request : PrepareInstanceRequest)
    (profile : OCSProfile) (lease : AuthorityLease) (active : ActiveIdentityBinding)
    (runId : String) (generation : ℕ) (now : Time) : InstanceBinding :=
  { bindingId := config.bindingId request
    missionId := request.missionId
    runId := runId
    organizationId := request.organizationId
    ocsId := request.ocsId
    profileVersion := profile.version
    profileHash := config.profileHash profile
    identityBindingHash := config.hazel.identity.bindingHash active
    requestHash := config.requestHash request
    maturity := .preparedUnverified
    host := request.host
    capability := request.capability
    leaseId := request.leaseId
    authorityRef := lease.authorityRef
    scope := request.scope
    stateNamespace := active.stateNamespace
    memoryNamespace := active.memoryNamespace
    generation := generation
    platformInstanceId := none
    challengeHash := config.challengeHash (config.nonce (config.requestHash request))
    bootstrapHash := ""
    status := .prepared
    version := 1
    predecessorBindingId := none
    checkpointVersion := 0
    checkpointHash := none
    hazelEventHash := none
    idempotencyKey := request.idempotencyKey
    correlationId := request.correlationId
    causationId := request.causationId
    createdAt := now }

/-- Seal a provisional binding: its bootstrap hash is the digest of its envelope. -/
def sealed (config : BinderConfig S) (provisional : InstanceBinding)
    (profile : OCSProfile) (lease : AuthorityLease) (nonce : String) :
    Service S (InstanceBinding × InstanceBootstrapEnvelope) := do
  let unsigned ← envelope provisional profile lease nonce
  let binding := { provisional with bootstrapHash := config.digest unsigned }
  let signed ← envelope binding profile lease nonce
  return (binding, signed)

/-- The branch of `prepare` for a new idempotency key. -/
def prepareNew [DecidableEq S] (config : BinderConfig S)
    (request : PrepareInstanceRequest) (profile : OCSProfile) :
    Service S (InstanceBinding × InstanceBootstrapEnvelope) := do
  let lease ← validatedLease request profile "ocs_instance_binding"
  let runId := config.runId request.organizationId request.missionId request.ocsId
  let active ← activeIdentity config request runId
  let latest ← Script.read
    (·.store.latestGeneration request.organizationId request.missionId request.ocsId)
  let now ← tick
  let (binding, signed) ← sealed config
    (preparedBinding config request profile lease active runId (latest + 1) now)
    profile lease (config.nonce (config.requestHash request))
  reserveBindingLease request profile lease binding
  let stored ← onStore (create binding)
  finalize lease.leaseId
  let durable ← ensureHazel config stored request
  return (durable, signed)

def prepare [DecidableEq S] (config : BinderConfig S) (request : PrepareInstanceRequest) :
    Service S (InstanceBinding × InstanceBootstrapEnvelope) := do
  validateRequest request
  match config.profiles.lookup request.ocsId with
  | none => .raise (.value "unknown_ocs_identity")
  | some profile =>
    match ← Script.read (·.store.byIdempotency request.idempotencyKey) with
    | some recovered => replayPrepare config request profile recovered
    | none => prepareNew config request profile

/-! ## Sagas -/

/-- Advance a saga that is in the expected state; `saga` is its row as last read. -/
def advanceFrom (idempotencyKey : String) (saga : ActionSaga)
    (expected target : SagaState) : Service S ActionSaga := do
  if saga.state = expected then
    let now ← tick
    onStore (advanceActionSaga idempotencyKey expected target now)
  else
    return saga

/-- The end of a saga: finalize the lease unless `lease` reads as released. -/
def finalizeSaga (idempotencyKey : String) (saga : ActionSaga) (lease : AuthorityLease) :
    Service S Unit := do
  if saga.state = .localCommitted then
    if lease.state ≠ .released then
      finalize lease.leaseId
    let now ← tick
    let _ ← onStore (advanceActionSaga idempotencyKey .localCommitted
      .leaseFinalized now)
    return ()
  else
    return ()

/-! ## Checkpoints -/

/-- The keyword arguments of `checkpoint`. -/
structure CheckpointCall (S : Type) where
  bindingId : String
  authority : PrepareInstanceRequest
  platformInstanceId : String
  generation : ℕ
  expectedVersion : ℕ
  state : S
  idempotencyKey : String

/-- `_require_physical_worker`. -/
def requirePhysicalWorker (binding : InstanceBinding) (platformInstanceId : String)
    (generation : ℕ) : Service S Unit := do
  .raiseIf (binding.platformInstanceId ≠ some platformInstanceId)
    (.binding "platform_instance_fenced")
  .raiseIf (binding.generation ≠ generation) (.binding "instance_generation_fenced")

namespace CheckpointCall

/-- `checkpoint_payload`. -/
def payload (call : CheckpointCall S) (binding : InstanceBinding) : HazelPayload S :=
  .checkpoint binding.bindingId binding.missionId binding.generation call.state

/-- `request_fingerprint`. -/
def fingerprint (config : BinderConfig S) (call : CheckpointCall S)
    (binding : InstanceBinding) : String :=
  config.canonicalHash (.checkpoint (call.payload binding) call.authority)

end CheckpointCall

/-- The branch of `checkpoint` for a checkpoint that is in the journal. -/
def replayCheckpoint (call : CheckpointCall S) (replay : InstanceBinding) :
    Service S InstanceBinding := do
  let saga ← onStore (actionSaga call.idempotencyKey)
  let saga ← advanceFrom call.idempotencyKey saga .effectApplied .readbackVerified
  let saga ← advanceFrom call.idempotencyKey saga .readbackVerified .localCommitted
  if saga.state = .localCommitted then
    let lease ← leaseFor call.authority.leaseId
    finalizeSaga call.idempotencyKey saga lease
    return replay
  else
    return replay

/-- Reserve the lease and begin the saga of a checkpoint. -/
def beginCheckpoint (config : BinderConfig S) (call : CheckpointCall S)
    (binding : InstanceBinding) (profile : OCSProfile) :
    Service S (ActionSaga × AuthorityLease) := do
  let lease ← validatedLease call.authority profile "ocs_instance_checkpoint"
  reserveActionLease call.authority profile lease binding "ocs_instance_checkpoint"
    s!"checkpoint:{binding.bindingId}:{binding.checkpointVersion + 1}" call.idempotencyKey
  let now ← tick
  let saga ← onStore (beginActionSaga
    { idempotencyKey := call.idempotencyKey
      bindingId := binding.bindingId
      operation := .checkpoint
      requestFingerprint := call.fingerprint config binding
      state := .leaseReserved
      leaseId := lease.leaseId
      updatedAt := now })
  return (saga, lease)

/-- The `try` statement of `checkpoint`: the saga and the lease to go on with. -/
def checkpointSaga (config : BinderConfig S) (call : CheckpointCall S)
    (binding : InstanceBinding) (profile : OCSProfile) :
    Service S (ActionSaga × AuthorityLease) := do
  match ← Script.read (·.store.saga call.idempotencyKey) with
  | none => beginCheckpoint config call binding profile
  | some saga =>
    .raiseIf (saga.bindingId ≠ binding.bindingId ∨
        saga.requestFingerprint ≠ call.fingerprint config binding)
      (.binding "instance_idempotency_conflict")
    let lease ← leaseFor call.authority.leaseId
    return (saga, lease)

/-- The external write of `checkpoint`, unless Hazel already has it: the event hash. -/
def checkpointEffect [DecidableEq S] (config : BinderConfig S) (call : CheckpointCall S)
    (binding : InstanceBinding) : Service S (Option String) := do
  let recovered ← recoverState config (recoverArguments binding)
  if recovered.stateVersion = some (binding.checkpointVersion + 1) then
    .raiseIf (recovered.payload ≠ some (call.payload binding))
      (.binding "checkpoint_recovery_conflict")
    return recovered.eventHash
  else if recovered.stateVersion = some binding.checkpointVersion then
    let receipt ← persistState config
      { runId := binding.runId
        expectedOcs := binding.ocsId
        host := binding.host
        authorityRef := binding.authorityRef
        stateVersion := binding.checkpointVersion + 1
        predecessorHash := binding.hazelEventHash
        state := call.payload binding
        traceId :=
          s!"trace:{binding.bindingId}:checkpoint:{binding.checkpointVersion + 1}" }
    return receipt.eventHash
  else
    .raise (.binding "checkpoint_state_version_conflict")

/-- The transition by which `checkpoint` commits. -/
def checkpointTransition (config : BinderConfig S) (call : CheckpointCall S)
    (binding : InstanceBinding) (recovered : HazelRecord (HazelPayload S)) :
    InstanceStore.Transition :=
  { bindingId := binding.bindingId
    expectedVersion := call.expectedVersion
    target := .checkpointed
    idempotencyKey := call.idempotencyKey
    eventType := "OCS_INSTANCE_CHECKPOINTED"
    checkpointVersion := some (binding.checkpointVersion + 1)
    checkpointHash := some (textOf recovered.payloadHash)
    hazelEventHash := some (textOf recovered.eventHash)
    payload := [("state_version", .number (binding.checkpointVersion + 1)),
      ("event_hash", textOrNone recovered.eventHash),
      ("request_fingerprint", .text (call.fingerprint config binding))] }

/-- The branch of `checkpoint` for a checkpoint that is not in the journal. -/
def checkpointNew [DecidableEq S] (config : BinderConfig S) (call : CheckpointCall S)
    (binding : InstanceBinding) (profile : OCSProfile) : Service S InstanceBinding := do
  .raiseIf (call.authority.organizationId ≠ binding.organizationId ∨
      call.authority.missionId ≠ binding.missionId ∨ call.authority.ocsId ≠ binding.ocsId)
    (.binding "checkpoint_authority_scope_mismatch")
  let (saga, lease) ← checkpointSaga config call binding profile
  let eventHash ← checkpointEffect config call binding
  let saga ← advanceFrom call.idempotencyKey saga .leaseReserved .effectApplied
  let recovered ← recoverState config (recoverArguments binding)
  .raiseIf (recovered.eventHash ≠ eventHash) (.binding "checkpoint_readback_mismatch")
  let saga ← advanceFrom call.idempotencyKey saga .effectApplied .readbackVerified
  let committed ← onStore (transition
    (checkpointTransition config call binding recovered))
  let saga ← advanceFrom call.idempotencyKey saga .readbackVerified .localCommitted
  finalizeSaga call.idempotencyKey saga lease
  return committed

def checkpoint [DecidableEq S] (config : BinderConfig S) (call : CheckpointCall S) :
    Service S InstanceBinding := do
  let binding ← onStore (get call.bindingId)
  .raiseIf (binding.status ≠ .active ∧ binding.status ≠ .checkpointed)
    (.binding "active_instance_required_for_checkpoint")
  requirePhysicalWorker binding call.platformInstanceId call.generation
  let replay ← onStore (checkpointReplay binding.bindingId
    call.idempotencyKey (call.fingerprint config binding))
  match replay with
  | some replay => replayCheckpoint call replay
  | none =>
    match config.profiles.lookup binding.ocsId with
    | none => .raise (.kernel (.keyError binding.ocsId))
    | some profile => checkpointNew config call binding profile

/-! ## Replacements -/

/-- The keyword arguments of `replace_instance`. -/
structure ReplaceCall where
  bindingId : String
  request : PrepareInstanceRequest
  platformInstanceId : String
  generation : ℕ
  expectedVersion : ℕ
  idempotencyKey : String

/-- The branch of `replace_instance` for a predecessor that has been replaced. -/
def replayReplace (config : BinderConfig S) (call : ReplaceCall)
    (previous : InstanceBinding) (replayed : Option InstanceBinding) :
    Service S (InstanceBinding × InstanceBootstrapEnvelope) := do
  match replayed with
  | none => .raise (.binding "replacement_idempotency_conflict")
  | some replayed =>
    .raiseIf (replayed.predecessorBindingId ≠ some previous.bindingId ∨
        replayed.requestHash ≠ config.requestHash call.request)
      (.binding "replacement_idempotency_conflict")
    match config.profiles.lookup replayed.ocsId with
    | none => .raise (.kernel (.keyError replayed.ocsId))
    | some profile =>
      let lease ← leaseFor replayed.leaseId
      let signed ← envelope replayed profile lease (config.nonce replayed.requestHash)
      .raiseIf (config.digest signed ≠ replayed.bootstrapHash)
        (.binding "bootstrap_recovery_hash_mismatch")
      reconcileBindingLease call.request profile lease replayed
      match ← Script.read (·.store.saga call.idempotencyKey) with
      | none => return (replayed, signed)
      | some saga =>
        let _ ← advanceFrom call.idempotencyKey saga .localCommitted .leaseFinalized
        return (replayed, signed)

/-- `replacement_fingerprint`. -/
def replacementFingerprint (config : BinderConfig S) (call : ReplaceCall)
    (previous : InstanceBinding) : String :=
  config.canonicalHash (.replacement (config.requestHash call.request) previous.bindingId
    previous.checkpointHash previous.checkpointVersion)

/-- The provisional successor of `replace_instance`. -/
def successorBinding (config : BinderConfig S) (request : PrepareInstanceRequest)
    (previous : InstanceBinding) (lease : AuthorityLease) (now : Time) :
    InstanceBinding :=
  { previous with
    bindingId := config.bindingId request
    capability := request.capability
    leaseId := request.leaseId
    authorityRef := lease.authorityRef
    scope := request.scope
    generation := previous.generation + 1
    platformInstanceId := none
    challengeHash := config.challengeHash (config.nonce (config.requestHash request))
    bootstrapHash := ""
    status := .prepared
    version := 1
    predecessorBindingId := some previous.bindingId
    requestHash := config.requestHash request
    idempotencyKey := request.idempotencyKey
    correlationId := request.correlationId
    causationId := request.causationId
    createdAt := now }

/-- The lease of a replacement, and its saga if it has begun. -/
def replacementSaga (config : BinderConfig S) (call : ReplaceCall)
    (previous : InstanceBinding) (profile : OCSProfile) :
    Service S (Option ActionSaga × AuthorityLease) := do
  match ← Script.read (·.store.saga call.idempotencyKey) with
  | none =>
    let lease ← validatedLease call.request profile "ocs_instance_binding"
    return (none, lease)
  | some saga =>
    .raiseIf (saga.bindingId ≠ previous.bindingId ∨
        saga.requestFingerprint ≠ replacementFingerprint config call previous)
      (.binding "replacement_idempotency_conflict")
    let lease ← leaseFor call.request.leaseId
    return (some saga, lease)

/-- Reserve the lease and begin the saga of a replacement, unless it has begun. -/
def beginReplacement (config : BinderConfig S) (call : ReplaceCall)
    (previous successor : InstanceBinding) (profile : OCSProfile) (lease : AuthorityLease)
    (begun : Option ActionSaga) : Service S ActionSaga := do
  match begun with
  | some saga => return saga
  | none =>
    reserveBindingLease call.request profile lease successor
    let now ← tick
    onStore (beginActionSaga
      { idempotencyKey := call.idempotencyKey
        bindingId := previous.bindingId
        operation := .replacement
        requestFingerprint := replacementFingerprint config call previous
        state := .leaseReserved
        leaseId := lease.leaseId
        updatedAt := now })

/-- `replacement_state`. -/
def replacementState (successor previous : InstanceBinding)
    (recoveredPayload : HazelPayload S) : HazelPayload S :=
  .replacement successor.bindingId successor.missionId successor.generation
    previous.bindingId recoveredPayload successor.bootstrapHash

/-- The payload that the successor takes over, from the record before the effect; a
record that is already the successor's own carries it inside. -/
def takenOver (successor previous : InstanceBinding)
    (prior : HazelRecord (HazelPayload S)) : Service S (HazelPayload S) := do
  match prior.payload with
  | none => .raise (.kernel (.keyError "payload"))
  | some payload =>
    if prior.stateVersion = some (previous.checkpointVersion + 1) ∧
        payload.bindingId = successor.bindingId then
      match payload.recoveredPayload with
      | none => .raise (.kernel (.keyError "recovered_payload"))
      | some recoveredPayload => return recoveredPayload
    else
      return payload

/-- The external write of `replace_instance`, unless Hazel already has it. -/
def replacementEffect [DecidableEq S] (config : BinderConfig S)
    (previous successor : InstanceBinding) (lease : AuthorityLease)
    (recoveredPayload : HazelPayload S) : Service S (Option String) := do
  let recovered ← recoverState config (recoverArguments successor)
  if recovered.stateVersion = some (previous.checkpointVersion + 1) then
    .raiseIf (recovered.payload ≠ some (replacementState successor previous recoveredPayload))
      (.binding "replacement_recovery_conflict")
    return recovered.eventHash
  else if recovered.stateVersion = some previous.checkpointVersion then
    let receipt ← persistState config
      { runId := previous.runId
        expectedOcs := previous.ocsId
        host := previous.host
        authorityRef := lease.authorityRef
        stateVersion := previous.checkpointVersion + 1
        predecessorHash := previous.hazelEventHash
        state := replacementState successor previous recoveredPayload
        traceId := s!"trace:{successor.bindingId}:replacement" }
    return receipt.eventHash
  else
    .raise (.binding "replacement_state_version_conflict")

/-- The arguments with which a replacement is committed. -/
def replacementCommit (predecessorId successorId idempotencyKey : String)
    (predecessorVersion successorVersion checkpointVersion : ℕ)
    (recovered : HazelRecord (HazelPayload S)) : InstanceStore.Replacement :=
  { predecessorId := predecessorId
    predecessorExpectedVersion := predecessorVersion
    successorId := successorId
    successorExpectedVersion := successorVersion
    idempotencyKey := idempotencyKey
    checkpointVersion := checkpointVersion
    checkpointHash := textOf recovered.payloadHash
    hazelEventHash := textOf recovered.eventHash }

/-- The checks of `replace_instance` on a predecessor that is not replaced yet. -/
def checkReplaceable (config : BinderConfig S) (call : ReplaceCall)
    (previous : InstanceBinding) : Service S OCSProfile := do
  .raiseIf (previous.status ≠ .checkpointed)
    (.binding "verified_checkpoint_required_for_replacement")
  requirePhysicalWorker previous call.platformInstanceId call.generation
  .raiseIf (call.request.organizationId ≠ previous.organizationId ∨
      call.request.missionId ≠ previous.missionId ∨ call.request.ocsId ≠ previous.ocsId)
    (.binding "replacement_identity_scope_mismatch")
  .raiseIf (call.request.causationId ≠ previous.hazelEventHash)
    (.binding "replacement_causation_mismatch")
  match config.profiles.lookup call.request.ocsId with
  | none => .raise (.kernel (.keyError call.request.ocsId))
  | some profile =>
    .raiseIf (previous.profileVersion ≠ profile.version ∨
        previous.profileHash ≠ config.profileHash profile)
      (.binding "replacement_profile_drift")
    let previousLease ← leaseFor previous.leaseId
    .raiseIf (call.request.contextRef ≠ previousLease.contextRef ∨
        call.request.policySnapshot ≠ previousLease.policySnapshot ∨
        call.request.traceRef ≠ previousLease.traceRef)
      (.binding "replacement_authority_context_drift")
    return profile

/-- The branch of `replace_instance` for a predecessor that is not replaced yet. -/
def replaceNew [DecidableEq S] (config : BinderConfig S) (call : ReplaceCall)
    (previous : InstanceBinding) :
    Service S (InstanceBinding × InstanceBootstrapEnvelope) := do
  let profile ← checkReplaceable config call previous
  let (begun, lease) ← replacementSaga config call previous profile
  let prior ← recoverState config (recoverArguments previous)
  let now ← tick
  let (provisional, signed) ← sealed config
    (successorBinding config call.request previous lease now) profile lease
    (config.nonce (config.requestHash call.request))
  let saga ← beginReplacement config call previous provisional profile lease begun
  let successor ← onStore (create provisional)
  let recoveredPayload ← takenOver successor previous prior
  let eventHash ← replacementEffect config previous successor lease recoveredPayload
  let saga ← advanceFrom call.idempotencyKey saga .leaseReserved .effectApplied
  let recovered ← recoverState config (recoverArguments successor)
  .raiseIf (recovered.eventHash ≠ eventHash) (.binding "replacement_readback_mismatch")
  let saga ← advanceFrom call.idempotencyKey saga .effectApplied .readbackVerified
  let (_, durable) ← onStore (commitReplacement
    (replacementCommit previous.bindingId successor.bindingId call.idempotencyKey
      call.expectedVersion 1 (previous.checkpointVersion + 1) recovered))
  let saga ← advanceFrom call.idempotencyKey saga .readbackVerified .localCommitted
  finalizeSaga call.idempotencyKey saga lease
  return (durable, signed)

def replaceInstance [DecidableEq S] (config : BinderConfig S) (call : ReplaceCall) :
    Service S (InstanceBinding × InstanceBootstrapEnvelope) := do
  validateRequest call.request
  let previous ← onStore (get call.bindingId)
  let replayed ← Script.read (·.store.byIdempotency call.request.idempotencyKey)
  if previous.status = .replaced then
    replayReplace config call previous replayed
  else
    replaceNew config call previous

end ReisOs.Instances
