import ReisOs.DistributedRuntime.Supervisors
import ReisOs.Core.Identifiers

/-!
# The recoverable fleet

`RecoverableElevenOCSFleet`: a fence of generations, the replacement of one worker, a
mission in whose middle one worker is replaced, and the exercise in which a worker of an
old generation stays alive for a while.
-/

namespace ReisOs.DistributedRuntime

open ReisOs.Core Supervisor

/-! ## `GenerationFenceRegistry` -/

def advance (ocs : String) (oldGeneration : ℕ) : Procedure ℕ :=
  .act fun world =>
    if world.fence ocs ≠ oldGeneration then
      (world, .error (.permissionError "dr6_generation_advance_race"))
    else
      ({ world with fence := Function.update world.fence ocs (oldGeneration + 1) },
        .ok (oldGeneration + 1))

def assertCurrent (ocs : String) (generation : ℕ) : Procedure Unit :=
  .act fun world =>
    if world.fence ocs ≠ generation then
      (world, .error (.permissionError "dr6_stale_generation_fenced"))
    else
      (world, .ok ())

/-- What a replacement reports. -/
structure RecoveryEvent where
  ocsId : String
  oldInstance : ℕ
  newInstance : ℕ
  oldGeneration : ℕ
  newGeneration : ℕ
  replayedMessageId : String
  identityPreserved : Bool
  authorityPreserved : Bool
  profilePreserved : Bool
  stateNamespacePreserved : Bool
  memoryNamespacePreserved : Bool
  deriving DecidableEq, Repr

structure RecoveredMissionResult (V D : Type) where
  missionId : String
  traceId : String
  correlationId : String
  receipts : List (CausalMissionReceipt V D)
  finalPayload : Payload V
  recovery : RecoveryEvent

namespace RecoverableElevenOCSFleet

/-- Every worker is stopped, and the table is emptied if all stops return. -/
def stopAll (assignment : Assignment) : Procedure Unit := do
  let workers ← .read (·.entries missionOrder)
  stopEach (stopWorker assignment .causal) workers
  .act fun world => ({ world with table := fun _ => none }, .ok ())

/-- The loop of `start`: here a worker is stored after it has started. -/
def launchEach (assignment : Assignment) : List String → Procedure Unit
  | [] => pure ()
  | ocs :: order => do
      let binding ← .read (·.bindings ocs)
      let worker ← construct assignment .causal binding
      startWorker assignment .causal worker
      store ocs worker
      launchEach assignment order

/-- `distinct`: whether the workers have eleven instance ids. -/
def start (assignment : Assignment) (distinct : Bool) : Procedure Unit :=
  .handle
    (do
      launchEach assignment missionOrder
      .raiseIf (distinct = false) (.runtimeError "dr6_requires_eleven_material_workers"))
    fun error => some do
      stopAll assignment
      .raise error

/-- The checks with which a mission and the exercise begin. -/
def requireStarted (ocs : String) : Procedure Unit := do
  let workers ← .read (·.entries missionOrder)
  .raiseIf (workers.length ≠ 11) (.runtimeError "dr6_fleet_not_started")
  .raiseIf (ocs ∉ missionOrder) (.valueError "dr6_unknown_failed_ocs")

/-- `_restart_actor`. -/
def restartActor (assignment : Assignment) (ocs messageId : String) :
    Procedure RecoveryEvent := do
  let old ← entry ocs
  let oldBinding ← .read (·.bindings ocs)
  crashWorker old
  let newGeneration ← advance ocs oldBinding.generation
  let newBinding := successorBinding oldBinding "" newGeneration
  let replacement ← construct assignment .causal newBinding
  startWorker assignment .causal replacement
  bindTo ocs newBinding
  store ocs replacement
  pure
    { ocsId := ocs
      oldInstance := old
      newInstance := replacement
      oldGeneration := oldBinding.generation
      newGeneration := newGeneration
      replayedMessageId := messageId
      identityPreserved := newBinding.ocsId = oldBinding.ocsId
      authorityPreserved := newBinding.authorityRef = oldBinding.authorityRef
      profilePreserved := newBinding.profileHash = oldBinding.profileHash
      stateNamespacePreserved := newBinding.stateNamespace = oldBinding.stateNamespace
      memoryNamespacePreserved := newBinding.memoryNamespace = oldBinding.memoryNamespace }

/-! ## The mission -/

variable {V D : Type}

/-- What the hop to one worker meets; `again` answers the second call of `health`. -/
structure FleetHop (V D : Type) where
  health : Response
  again : Response
  process : ProcessAnswer V D

/-- The texts that identify a mission. -/
structure MissionIds where
  missionId : String
  traceId : String
  correlationId : String

/-- The variables of the loop over the workers. -/
structure Leg (V D : Type) where
  payload : Payload V
  receipts : List (CausalMissionReceipt V D)
  previousMessageId : String
  predecessorOutputHash : D
  recovery : Option RecoveryEvent

/-- The worker of the OCS answers, and its generation is the current one. -/
def currentTarget (response : Response) (ocs : String) : Procedure (ℕ × ℕ) := do
  let worker ← entry ocs
  commandWorker .causal response worker
  let generation ← .read fun world => (world.workers worker).binding.generation
  assertCurrent ocs generation
  pure (worker, generation)

/-- The envelope of a hop. -/
def envelopeTo (ids : MissionIds) (leg : Leg V D) (ocs messageId : String) (generation : ℕ)
    (payloadHash : D) : CausalMissionEnvelope V D :=
  { messageId := messageId
    missionId := ids.missionId
    sourceOcs := leg.receipts.getLast?.elim "FOUNDER_INPUT" (·.targetOcs)
    sourceInstance := leg.receipts.getLast?.map (·.targetInstance)
    sourceGeneration := leg.receipts.getLast?.elim 0 (·.targetGeneration)
    targetOcs := ocs
    targetExpectedGeneration := generation
    payload := leg.payload
    payloadHash := payloadHash
    predecessorOutputHash := leg.predecessorOutputHash
    causationId := leg.previousMessageId
    correlationId := ids.correlationId
    traceId := ids.traceId }

/-- The worker that is to fail is replaced before it gets the message. -/
def restartIf (assignment : Assignment) (failed ocs : String)
    (envelope : CausalMissionEnvelope V D) (recovery : Option RecoveryEvent) :
    Procedure (CausalMissionEnvelope V D × Option RecoveryEvent) :=
  if ocs = failed then do
    let event ← restartActor assignment ocs envelope.messageId
    assertCurrent ocs event.newGeneration
    pure ({ envelope with targetExpectedGeneration := event.newGeneration }, some event)
  else
    pure (envelope, recovery)

variable [DecidableEq D]

/-- `process`. -/
def processWorker (hash : Payload V → D) (assignment : Assignment)
    (answer : ProcessAnswer V D) (worker : ℕ) (envelope : CausalMissionEnvelope V D) :
    Procedure (CausalMissionReceipt V D) := do
  callWorker worker (Worker.requireActive .causal)
  let now ← .read (·.workers worker)
  match answer.settle (workerProcess hash assignment.profiles now.binding worker envelope) with
  | .receipt receipt => pure receipt
  | .childError text => do
      crashWorker worker
      .raise (.runtimeError ("dr5a_worker_child_error:" ++ text))
  | .responseTimeout | .own => do
      crashWorker worker
      .raise (.timeoutError "dr5a_worker_response_timeout")

/-- The first check of a receipt that fails. -/
def receiptFailure (hash : Payload V → D) (ids : MissionIds)
    (envelope : CausalMissionEnvelope V D) (receipt : CausalMissionReceipt V D) :
    Option Failure :=
  if receipt.missionId ≠ ids.missionId then
    some (.runtimeError "dr6_cross_mission_receipt_contamination")
  else if receipt.traceId ≠ ids.traceId ∨ receipt.correlationId ≠ ids.correlationId then
    some (.runtimeError "dr6_trace_or_correlation_break")
  else if receipt.inputPayloadHash ≠ envelope.payloadHash then
    some (.runtimeError "dr6_input_hash_mismatch")
  else if hash receipt.outputPayload ≠ receipt.outputPayloadHash then
    some (.runtimeError "dr6_output_hash_mismatch")
  else if receipt.outputPayload.missionId ≠ some ids.missionId then
    some (.runtimeError "dr6_cross_mission_payload_contamination")
  else none

def fleetHop (hash : Payload V → D) (assignment : Assignment) (failed : String)
    (ids : MissionIds) (hop : FleetHop V D) (ocs : String) (leg : Leg V D) :
    Procedure (Leg V D) := do
  let (_, generation) ← currentTarget hop.health ocs
  let payloadHash := hash leg.payload
  .raiseIf (payloadHash ≠ leg.predecessorOutputHash)
    (.runtimeError "dr6_causal_hash_chain_break")
  let number ← draw assignment
  let (envelope, recovery) ← restartIf assignment failed ocs
    (envelopeTo ids leg ocs ("dr6-msg:" ++ number) generation payloadHash) leg.recovery
  let (worker, _) ← currentTarget hop.again ocs
  let receipt ← processWorker hash assignment hop.process worker envelope
  check (receiptFailure hash ids envelope receipt)
  pure
    { payload := receipt.outputPayload
      receipts := leg.receipts ++ [receipt]
      previousMessageId := envelope.messageId
      predecessorOutputHash := receipt.outputPayloadHash
      recovery := recovery }

def fleetHops (hash : Payload V → D) (assignment : Assignment) (failed : String)
    (ids : MissionIds) (hops : String → FleetHop V D) :
    List String → Leg V D → Procedure (Leg V D)
  | [], leg => pure leg
  | ocs :: order, leg => do
      let next ← fleetHop hash assignment failed ids (hops ocs) ocs leg
      fleetHops hash assignment failed ids hops order next

/-- `mission_id or f"mission:dr6:{uuid.uuid4()}"`. -/
def missionIdOr (assignment : Assignment) (missionId : Option String) : Procedure String :=
  match missionId with
  | some given =>
    if given = "" then do
      let number ← draw assignment
      pure ("mission:dr6:" ++ number)
    else pure given
  | none => do
      let number ← draw assignment
      pure ("mission:dr6:" ++ number)

/-- The loop's variables before the first hop. -/
def firstLeg (hash : Payload V → D) (given : Dict String V) (missionId : String) : Leg V D :=
  let payload : Payload V := ⟨given, some missionId, ∅, none⟩
  ⟨payload, [], "FOUNDER_ROOT", hash payload, none⟩

def executeWithMidflightRecovery (hash : Payload V → D) (assignment : Assignment)
    (initialPayload : Dict String V) (failed : String) (missionId : Option String)
    (hops : String → FleetHop V D) : Procedure (RecoveredMissionResult V D) := do
  requireStarted failed
  let missionId ← missionIdOr assignment missionId
  let trace ← draw assignment
  let correlation ← draw assignment
  let ids : MissionIds := ⟨missionId, "dr6-trace:" ++ trace, "dr6-correlation:" ++ correlation⟩
  let leg ← fleetHops hash assignment failed ids hops missionOrder
    (firstLeg hash initialPayload missionId)
  match leg.recovery with
  | none => .raise (.runtimeError "dr6_recovery_not_exercised")
  | some recovery => do
      .raiseIf (missionHasAllSpecialtyContributions assignment.profiles leg.payload = false)
        (.runtimeError "dr6_all_specialty_contributions_required")
      .raiseIf ((leg.receipts.map (·.targetOcs)).dedup.length ≠ 11)
        (.runtimeError "dr6_duplicate_or_missing_contribution")
      pure ⟨ids.missionId, ids.traceId, ids.correlationId, leg.receipts, leg.payload, recovery⟩

/-! ## The exercise -/

end RecoverableElevenOCSFleet

/-!
## Longitudinal operation

`LongitudinalDistributedOperation`: missions one after another on one fleet, each of which
loses and replaces the worker that the schedule names.
-/

open Instances (InstanceBinding)
open RecoverableElevenOCSFleet (FleetHop)

structure LongitudinalCycleRecord where
  cycleIndex : ℕ
  missionId : String
  failedOcs : String
  traceId : String
  correlationId : String
  recoveredGeneration : ℕ
  recoveredInstance : ℕ
  receiptCount : ℕ
  contributionCount : ℕ
  identityBindingStable : Bool
  authorityBindingStable : Bool
  profileBindingStable : Bool
  stateNamespaceStable : Bool
  memoryNamespaceStable : Bool
  causalReconstructionValid : Bool
  missionIsolationValid : Bool

/-- What the last check of `execute_cycles` asks of a record. -/
def LongitudinalCycleRecord.isSound (record : LongitudinalCycleRecord) : Bool :=
  record.identityBindingStable && record.authorityBindingStable &&
    record.profileBindingStable && record.stateNamespaceStable &&
    record.memoryNamespaceStable && record.causalReconstructionValid &&
    record.missionIsolationValid && record.receiptCount = 11 &&
    record.contributionCount = 11

structure LongitudinalQualificationResult where
  cycles : List LongitudinalCycleRecord
  finalGenerations : List (String × ℕ)
  missionIds : List String
  traceIds : List String
  correlationIds : List String
  completed : Bool

/-- What the cycles so far have recorded and the identifiers they have used. -/
structure Cycles where
  records : List LongitudinalCycleRecord
  seenMissions : List String
  seenTraces : List String
  seenCorrelations : List String

namespace LongitudinalDistributedOperation

variable {D : Type} [DecidableEq D]

/-- Every pair of neighbours is linked. -/
def linked (receipts : List (CausalMissionReceipt String D)) : Bool :=
  (receipts.zip receipts.tail).all fun pair =>
    pair.1.outputPayloadHash = pair.2.inputPayloadHash

/-- `_causal_reconstruction_valid`. -/
def causalReconstructionValid (result : RecoveredMissionResult String D) : Bool :=
  result.receipts.length = 11 &&
    (result.receipts.all fun receipt => receipt.traceId = result.traceId) &&
    (result.receipts.all fun receipt => receipt.correlationId = result.correlationId) &&
    (result.receipts.all fun receipt => receipt.missionId = result.missionId) &&
    linked result.receipts

/-- `_validate_cycle`: the failure it raises, if it does. -/
def cycleFailure (profiles : Profiles) (result : RecoveredMissionResult String D)
    (marker : String) (cycles : Cycles) : Option Failure :=
  if result.missionId ∈ cycles.seenMissions then
    some (.runtimeError "dr7_duplicate_mission_id")
  else if result.traceId ∈ cycles.seenTraces then
    some (.runtimeError "dr7_duplicate_trace_id")
  else if result.correlationId ∈ cycles.seenCorrelations then
    some (.runtimeError "dr7_duplicate_correlation_id")
  else if result.finalPayload.given.lookup "cycle_marker" ≠ some marker then
    some (.runtimeError "dr7_cross_mission_payload_contamination")
  else if result.receipts.length ≠ 11 then some (.runtimeError "dr7_receipt_count_drift")
  else if (result.receipts.map (·.targetOcs)).dedup.length ≠ 11 then
    some (.runtimeError "dr7_duplicate_or_missing_actor_contribution")
  else if missionHasAllSpecialtyContributions profiles result.finalPayload = false then
    some (.runtimeError "dr7_specialty_contribution_drift")
  else none

/-- The record of a cycle; `initial` is the binding with which the operation was built. -/
def cycleRecord (index : ℕ) (failed marker : String) (initial : InstanceBinding)
    (result : RecoveredMissionResult String D) : LongitudinalCycleRecord :=
  { cycleIndex := index
    missionId := result.missionId
    failedOcs := failed
    traceId := result.traceId
    correlationId := result.correlationId
    recoveredGeneration := result.recovery.newGeneration
    recoveredInstance := result.recovery.newInstance
    receiptCount := result.receipts.length
    contributionCount := result.finalPayload.contributions.keys.length
    identityBindingStable :=
      result.recovery.identityPreserved && result.recovery.ocsId = initial.ocsId
    authorityBindingStable := result.recovery.authorityPreserved
    profileBindingStable := result.recovery.profilePreserved
    stateNamespaceStable := result.recovery.stateNamespacePreserved
    memoryNamespaceStable := result.recovery.memoryNamespacePreserved
    causalReconstructionValid := causalReconstructionValid result
    missionIsolationValid := result.finalPayload.given.lookup "cycle_marker" = some marker }

/-- `DR7_CYCLE_{index:04d}`. -/
def cycleMarker (index : ℕ) : String := "DR7_CYCLE_" ++ zeroPadded 4 index

/-- `{mission_prefix}:{index:04d}`. -/
def cycleMission (stem : String) (index : ℕ) : String := stem ++ ":" ++ zeroPadded 4 index

/-- The initial payload of a cycle. -/
def cyclePayload (index : ℕ) : Dict String String :=
  ((∅ : Dict String String).insert "goal" "longitudinal-distributed-operation").insert
    "cycle_marker" (cycleMarker index)

/-- A cycle. -/
def cycle (hash : Payload String → D) (assignment : Assignment)
    (initial : String → InstanceBinding) (stem : String)
    (hops : String → FleetHop String D) (index : ℕ) (failed : String) (cycles : Cycles) :
    Procedure Cycles := do
  let result ← RecoverableElevenOCSFleet.executeWithMidflightRecovery hash assignment
    (cyclePayload index) failed (some (cycleMission stem index)) hops
  check (cycleFailure assignment.profiles result (cycleMarker index) cycles)
  pure
    { records := cycles.records ++
        [cycleRecord index failed (cycleMarker index) (initial failed) result]
      seenMissions := cycles.seenMissions.insert result.missionId
      seenTraces := cycles.seenTraces.insert result.traceId
      seenCorrelations := cycles.seenCorrelations.insert result.correlationId }

/-- The loop over the schedule. -/
def cyclesFrom (hash : Payload String → D) (assignment : Assignment)
    (initial : String → InstanceBinding) (stem : String)
    (hops : ℕ → String → FleetHop String D) : ℕ → List String → Cycles → Procedure Cycles
  | _, [], cycles => pure cycles
  | index, failed :: schedule, cycles => do
      let next ← cycle hash assignment initial stem (hops index) index failed cycles
      cyclesFrom hash assignment initial stem hops (index + 1) schedule next

/-- `execute_cycles`. -/
def executeCycles (hash : Payload String → D) (assignment : Assignment)
    (initial : String → InstanceBinding) (started : Bool) (stem : String)
    (hops : ℕ → String → FleetHop String D) (schedule : List String) :
    Procedure LongitudinalQualificationResult := do
  .raiseIf (started = false) (.runtimeError "dr7_not_started")
  .raiseIf (schedule.length < 11)
    (.valueError "dr7_requires_at_least_eleven_longitudinal_cycles")
  .raiseIf (∃ ocs ∈ schedule, ocs ∉ missionOrder) (.valueError "dr7_unknown_failure_target")
  let cycles ← cyclesFrom hash assignment initial stem hops 1 schedule ⟨[], [], [], []⟩
  .raiseIf (cycles.seenMissions.length ≠ schedule.length)
    (.runtimeError "dr7_mission_identity_drift_or_reuse")
  .raiseIf (cycles.seenTraces.length ≠ schedule.length)
    (.runtimeError "dr7_trace_reuse_detected")
  .raiseIf (cycles.seenCorrelations.length ≠ schedule.length)
    (.runtimeError "dr7_correlation_reuse_detected")
  .raiseIf ((cycles.records.all LongitudinalCycleRecord.isSound) = false)
    (.runtimeError "dr7_longitudinal_invariant_failure")
  let fence ← .read (·.fence)
  pure
    { cycles := cycles.records
      finalGenerations := missionOrder.map fun ocs => (ocs, fence ocs)
      missionIds := cycles.records.map (·.missionId)
      traceIds := cycles.records.map (·.traceId)
      correlationIds := cycles.records.map (·.correlationId)
      completed := true }

end LongitudinalDistributedOperation

end ReisOs.DistributedRuntime
