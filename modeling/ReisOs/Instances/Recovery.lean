import ReisOs.Instances.Binder

/-!
# Cold recovery of a lineage

`OCSInstanceRecovery`: the latest generation is reconciled with Hazel, and a replacement
that was cut short is finished.
-/

namespace ReisOs.Instances

open ReisOs.Core ReisOs.Kernel World InstanceStore

variable {S : Type}

structure RecoveryResult where
  binding : InstanceBinding
  hazelStateVersion : ℕ
  hazelEventHash : String
  sagaState : Option SagaState
  deriving DecidableEq, Repr

/-! ## Queries -/

namespace InstanceStore

/-- The query of `_latest_binding`. -/
def latestBinding (store : InstanceStore) (organizationId missionId ocsId : String) :
    Option InstanceBinding :=
  (store.lineage organizationId missionId ocsId).find?
    (·.generation = store.latestGeneration organizationId missionId ocsId)

/-- The count of `_require_single_active_generation`. -/
def activeCount (store : InstanceStore) (organizationId missionId ocsId : String) : ℕ :=
  (store.lineage organizationId missionId ocsId).countP (·.status = .active)

/-- The sagas of the replacements of a binding. -/
def replacementSagas (store : InstanceStore) (predecessorId : String) : List ActionSaga :=
  store.sagas.filter fun saga =>
    saga.bindingId = predecessorId ∧ saga.operation = .replacement

/-- The saga that was updated later, the earlier row if they are level. -/
def laterSaga (latest : Option ActionSaga) (saga : ActionSaga) : Option ActionSaga :=
  match latest with
  | none => some saga
  | some kept => if kept.updatedAt < saga.updatedAt then some saga else some kept

/-- The query of `_replacement_saga_or_none`: the saga that was updated last. -/
def latestReplacementSaga (store : InstanceStore) (predecessorId : String) :
    Option ActionSaga :=
  (store.replacementSagas predecessorId).foldl laterSaga none

end InstanceStore

/-! ## Checks -/

/-- The checks of `_validate_local_identity` against the profile. -/
def identityFailure (config : BinderConfig S) (binding : InstanceBinding)
    (profile : OCSProfile) : Option String :=
  firstFailure
    [(binding.profileVersion != profile.version, "recovery_profile_version_drift"),
      (binding.profileHash != config.profileHash profile, "recovery_profile_hash_drift"),
      (binding.authorityRef != profile.authorityEnvelopeRef,
        "recovery_authority_ref_drift"),
      (binding.stateNamespace != profile.stateNamespace,
        "recovery_state_namespace_drift"),
      (binding.memoryNamespace != profile.memoryNamespace,
        "recovery_memory_namespace_drift")]

/-- `_validate_local_identity`. -/
def validateLocalIdentity (config : BinderConfig S) (binding : InstanceBinding) :
    Service S Unit := do
  match config.profiles.lookup binding.ocsId with
  | none => .raise (.binding "recovery_unknown_ocs_identity")
  | some profile =>
    match identityFailure config binding profile with
    | some reason => .raise (.binding reason)
    | none =>
      let lease ← leaseFor binding.leaseId
      .raiseIf (lease.authorityRef ≠ binding.authorityRef)
        (.binding "recovery_lease_authority_drift")

/-- `_recover_hazel`. -/
def recoverHazel (config : BinderConfig S) (binding : InstanceBinding) :
    Service S (HazelRecord (HazelPayload S)) :=
  recoverState config (recoverArguments binding)

/-- `int(recovered["state_version"])`. -/
def stateVersionOf (recovered : HazelRecord (HazelPayload S)) : Service S ℕ :=
  match recovered.stateVersion with
  | none => .raise (.kernel (.keyError "state_version"))
  | some stateVersion => pure stateVersion

/-- The checks of `_validate_replacement_hazel` after the version. -/
def replacementFailure (predecessor successor : InstanceBinding)
    (recovered : HazelRecord (HazelPayload S)) : Option String :=
  firstFailure
    [(recovered.predecessorHash != predecessor.hazelEventHash,
        "replacement_predecessor_hash_mismatch"),
      (recovered.payload.isNone, "replacement_recovery_payload_invalid"),
      (recovered.payload.map (·.bindingId) != some successor.bindingId,
        "replacement_recovery_binding_mismatch"),
      (recovered.payload.bind (·.recoveredFrom) != some predecessor.bindingId,
        "replacement_recovered_from_mismatch"),
      (recovered.payload.map (·.generation) != some (predecessor.generation + 1),
        "replacement_generation_mismatch")]

/-- `_validate_replacement_hazel`. -/
def validateReplacementHazel (predecessor successor : InstanceBinding)
    (recovered : HazelRecord (HazelPayload S)) (expectedVersion : ℕ) : Service S Unit := do
  let stateVersion ← stateVersionOf recovered
  .raiseIf (stateVersion ≠ expectedVersion)
    (.binding "replacement_recovery_version_mismatch")
  match replacementFailure predecessor successor recovered with
  | some reason => .raise (.binding reason)
  | none => return ()

/-- The checks of `_validate_hazel_fidelity` after the version. -/
def fidelityFailure (binding : InstanceBinding) (recovered : HazelRecord (HazelPayload S)) :
    Option String :=
  firstFailure
    [(some (textOf recovered.eventHash) != binding.hazelEventHash,
        "recovery_event_hash_mismatch"),
      (some (textOf recovered.payloadHash) != binding.checkpointHash,
        "recovery_payload_hash_mismatch"),
      (recovered.payload.isNone, "recovery_payload_invalid"),
      (recovered.payload.map (·.bindingId) != some binding.bindingId,
        "recovery_binding_lineage_mismatch"),
      (recovered.payload.map (·.generation) != some binding.generation,
        "recovery_generation_mismatch")]

/-- `_validate_hazel_fidelity`. -/
def validateHazelFidelity (binding : InstanceBinding)
    (recovered : HazelRecord (HazelPayload S)) : Service S Unit := do
  let stateVersion ← stateVersionOf recovered
  .raiseIf (stateVersion ≠ binding.checkpointVersion)
    (.binding "recovery_state_version_mismatch")
  match fidelityFailure binding recovered with
  | some reason => .raise (.binding reason)
  | none =>
    match binding.predecessorBindingId with
    | none => return ()
    | some predecessorId =>
      let predecessor ← onStore (get predecessorId)
      validateReplacementHazel predecessor binding recovered binding.checkpointVersion

/-! ## Reconciling a replacement -/

/-- The external write of `_reconcile_replacement`, unless Hazel already has it. -/
def recoveryEffect (config : BinderConfig S) (predecessor successor : InstanceBinding) :
    Service S (Option String) := do
  let recovered ← recoverHazel config successor
  let stateVersion ← stateVersionOf recovered
  if stateVersion = predecessor.checkpointVersion then
    .raiseIf (successor.status ≠ .prepared) (.binding "replacement_hazel_effect_missing")
    match recovered.payload with
    | none => .raise (.kernel (.keyError "payload"))
    | some payload =>
      let receipt ← persistState config
        { runId := successor.runId
          expectedOcs := successor.ocsId
          host := successor.host
          authorityRef := successor.authorityRef
          stateVersion := predecessor.checkpointVersion + 1
          predecessorHash := predecessor.hazelEventHash
          state := replacementState successor predecessor payload
          traceId := s!"trace:{successor.bindingId}:cold-recovery" }
      return receipt.eventHash
  else if stateVersion = predecessor.checkpointVersion + 1 then
    return recovered.eventHash
  else
    .raise (.binding "replacement_state_version_conflict")

/-- The local commit of `_reconcile_replacement`, unless it is there already; the result
is the committed successor. -/
def recoveryCommit (predecessorId successorId sagaId : String) (nextVersion : ℕ)
    (recovered : HazelRecord (HazelPayload S)) : Service S InstanceBinding := do
  let predecessor ← onStore (get predecessorId)
  let successor ← onStore (get successorId)
  if predecessor.status = .checkpointed ∧ successor.status = .prepared then
    let _ ← onStore (commitReplacement
      (replacementCommit predecessor.bindingId successor.bindingId sagaId
        predecessor.version successor.version nextVersion recovered))
  let predecessor ← onStore (get predecessorId)
  let successor ← onStore (get successorId)
  .raiseIf (predecessor.status ≠ .replaced ∨
      successor.status ∉ [.persisted, .bound, .active, .checkpointed])
    (.binding "replacement_local_commit_incomplete")
  return successor

/-- The end of `_reconcile_replacement`: commit and finalize the saga. -/
def recoveryFinalize (successor : InstanceBinding) (sagaId : String) :
    Service S SagaState := do
  let saga ← onStore (actionSaga sagaId)
  let saga ← advanceFrom sagaId saga .readbackVerified .localCommitted
  if saga.state = .localCommitted then
    let lease ← leaseFor successor.leaseId
    if lease.state ≠ .released then
      finalize lease.leaseId
    let saga ← advanceFrom sagaId saga .localCommitted .leaseFinalized
    .raiseIf (saga.state ≠ .leaseFinalized) (.binding "replacement_recovery_saga_incomplete")
    return saga.state
  else
    .raiseIf (saga.state ≠ .leaseFinalized) (.binding "replacement_recovery_saga_incomplete")
    return saga.state

/-- `_reconcile_replacement` of a successor of the given predecessor. -/
def reconcileReplacement (config : BinderConfig S) (successor : InstanceBinding)
    (predecessorId : String) : Service S (InstanceBinding × SagaState) := do
  let predecessor ← onStore (get predecessorId)
  match ← Script.read (·.store.latestReplacementSaga predecessor.bindingId) with
  | none => .raise (.binding "replacement_recovery_saga_missing")
  | some saga =>
    let sagaId := saga.idempotencyKey
    .raiseIf (saga.leaseId ≠ successor.leaseId)
      (.binding "replacement_recovery_lease_mismatch")
    let lease ← leaseFor saga.leaseId
    .raiseIf (lease.authorityRef ≠ successor.authorityRef)
      (.binding "replacement_recovery_authority_mismatch")
    let eventHash ← recoveryEffect config predecessor successor
    let saga ← advanceFrom sagaId saga .leaseReserved .effectApplied
    let recovered ← recoverHazel config successor
    validateReplacementHazel predecessor successor recovered
      (predecessor.checkpointVersion + 1)
    .raiseIf (recovered.eventHash ≠ eventHash) (.binding "replacement_readback_mismatch")
    let _ ← advanceFrom sagaId saga .effectApplied .readbackVerified
    let successor ← recoveryCommit predecessor.bindingId successor.bindingId sagaId
      (predecessor.checkpointVersion + 1) recovered
    let sagaState ← recoveryFinalize successor sagaId
    return (successor, sagaState)

/-! ## Recovering -/

/-- The part of `recover_instance` that settles the lineage. -/
def settleLineage (config : BinderConfig S) (binding : InstanceBinding) :
    Service S (InstanceBinding × Option SagaState) := do
  match binding.predecessorBindingId with
  | none =>
    let stranded ← Script.read (·.store.latestReplacementSaga binding.bindingId)
    .raiseIf (stranded.any (·.state ≠ .leaseFinalized))
      (.binding "replacement_successor_missing")
    return (binding, none)
  | some predecessorId =>
    let (successor, sagaState) ← reconcileReplacement config binding predecessorId
    return (successor, some sagaState)

def recoverInstance (config : BinderConfig S) (organizationId missionId ocsId : String) :
    Service S RecoveryResult := do
  match ← Script.read (·.store.latestBinding organizationId missionId ocsId) with
  | none => .raise (.binding "recovery_binding_not_found")
  | some latest =>
    validateLocalIdentity config latest
    let active ← Script.read (·.store.activeCount organizationId missionId ocsId)
    .raiseIf (1 < active) (.binding "multiple_active_generations_detected")
    let (binding, sagaState) ← settleLineage config latest
    let recovered ← recoverHazel config binding
    validateHazelFidelity binding recovered
    let stateVersion ← stateVersionOf recovered
    return {
      binding := binding
      hazelStateVersion := stateVersion
      hazelEventHash := textOf recovered.eventHash
      sagaState := sagaState }

end ReisOs.Instances
