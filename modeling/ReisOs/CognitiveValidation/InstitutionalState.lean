import ReisOs.Core.Dict
import ReisOs.Core.Links
import ReisOs.Core.Runs
import ReisOs.Kernel.AuditFile

/-!
# The institutional state of missions

`ObservationEvidenceStateUpdater.qualify_and_update` reads whether a receipt has been
consumed, then the current snapshot of the mission, and commits the snapshot that follows
it.  The steps of other calls can come between.
-/

namespace ReisOs.CognitiveValidation

open ReisOs.Core

structure EffectObservation (V : Type) where
  missionId : String
  capabilityId : String
  ocsId : String
  governedExecutionReceipt : String
  executionStatus : String
  observedEffect : Dict String V

/-- What `qualify_and_update` reads of a `GovernedSoftwareExecutionResult`. -/
structure GovernedExecution where
  missionId : String
  capabilityId : String
  ocsId : String
  executionStatus : String
  adapterExecutionReceipt : String
  governedExecutionReceipt : String
  deriving DecidableEq, Repr

structure InstitutionalStateSnapshot (V : Type) where
  missionId : String
  previousStateHash : String
  evidenceReceipt : String
  stateVersion : ℕ
  state : Dict String V
  stateHash : String

structure EvidenceReceipt where
  missionId : String
  capabilityId : String
  ocsId : String
  governedExecutionReceipt : String
  executionStatus : String
  observationHash : String
  evidenceReceipt : String
  deriving DecidableEq, Repr

structure ObservationEvidenceStateResult (V : Type) where
  observation : EffectObservation V
  evidence : EvidenceReceipt
  stateSnapshot : InstitutionalStateSnapshot V

/-- The arguments of `qualify_and_update`. -/
structure UpdateRequest (V : Type) where
  execution : GovernedExecution
  observation : EffectObservation V
  stateDelta : Dict String V

/-- What `_digest` is applied to. -/
inductive DigestPayload (V : Type) where
  | observation (observation : EffectObservation V)
  | evidence (observationHash adapterExecutionReceipt governedExecutionReceipt : String)
  | state (missionId previousStateHash evidenceReceipt : String) (stateVersion : ℕ)
      (state : Dict String V)

structure InstitutionalStateStore (V : Type) where
  state : Dict String (InstitutionalStateSnapshot V)
  consumedExecutionReceipts : List String

namespace InstitutionalStateStore

variable {V : Type} (store : InstitutionalStateStore V)

def current (missionId : String) : Option (InstitutionalStateSnapshot V) :=
  store.state.lookup missionId

def hasConsumed (governedExecutionReceipt : String) : Bool :=
  governedExecutionReceipt ∈ store.consumedExecutionReceipts

/-- `commit`; it raises when the receipt has been consumed. -/
def commit (snapshot : InstitutionalStateSnapshot V) (governedExecutionReceipt : String) :
    Except String (InstitutionalStateStore V) :=
  if store.hasConsumed governedExecutionReceipt then
    .error "evidence_execution_receipt_replay"
  else
    .ok
      { state := store.state.insert snapshot.missionId snapshot
        consumedExecutionReceipts :=
          store.consumedExecutionReceipts ++ [governedExecutionReceipt] }

end InstitutionalStateStore

/-! ## The parts of a call -/

section Parts

variable {V : Type}

/-- `EffectObservation.validate`. -/
def EffectObservation.validate (observation : EffectObservation V) : Except String Unit := do
  for field in
      [("mission_id", observation.missionId), ("capability_id", observation.capabilityId),
        ("ocs_id", observation.ocsId),
        ("governed_execution_receipt", observation.governedExecutionReceipt),
        ("execution_status", observation.executionStatus)] do
    if field.2.toList.all Kernel.AuditFile.isSpace then
      throw ("observation_" ++ field.1 ++ "_required")
  if observation.observedEffect.entries.isEmpty then
    throw "observation_effect_required"

def successStatuses : List String := ["EXECUTED", "EXECUTED_CONFIRMED", "SUCCESS"]

/-- The checks before `has_consumed`. -/
def UpdateRequest.validate (request : UpdateRequest V) : Except String Unit := do
  request.observation.validate
  if request.execution.missionId ≠ request.observation.missionId then
    throw "evidence_mission_mismatch"
  if request.execution.capabilityId ≠ request.observation.capabilityId then
    throw "evidence_capability_mismatch"
  if request.execution.ocsId ≠ request.observation.ocsId then
    throw "evidence_ocs_mismatch"
  if request.execution.governedExecutionReceipt ≠
      request.observation.governedExecutionReceipt then
    throw "evidence_execution_receipt_mismatch"
  if request.execution.executionStatus ≠ request.observation.executionStatus then
    throw "evidence_execution_status_mismatch"
  if request.observation.executionStatus ∉ successStatuses then
    throw "evidence_unqualified_execution_status"

variable (digest : DigestPayload V → Except String String)

/-- The call up to the evidence receipt, with its `has_consumed`. -/
def UpdateRequest.qualify (store : InstitutionalStateStore V) (request : UpdateRequest V) :
    Except String String := do
  request.validate
  if store.hasConsumed request.observation.governedExecutionReceipt then
    throw "evidence_execution_receipt_replay"
  if request.stateDelta.entries.isEmpty then
    throw "state_delta_required"
  let observationHash ← digest (.observation request.observation)
  digest (.evidence observationHash request.execution.adapterExecutionReceipt
    request.execution.governedExecutionReceipt)

/-- `{**previous_state, **dict(state_delta)}`. -/
def mergeState (previous : Option (InstitutionalStateSnapshot V)) (delta : Dict String V) :
    Dict String V :=
  ((previous.map InstitutionalStateSnapshot.state).getD ∅).insertAll
    (delta.entries.map fun entry => (entry.1, entry.2))

def previousHash (previous : Option (InstitutionalStateSnapshot V)) : String :=
  (previous.map (·.stateHash)).getD "GENESIS"

def nextVersion (previous : Option (InstitutionalStateSnapshot V)) : ℕ :=
  (previous.map (·.stateVersion + 1)).getD 1

/-- The snapshot that follows the one that has been read. -/
def UpdateRequest.snapshot (request : UpdateRequest V) (evidenceReceipt : String)
    (previous : Option (InstitutionalStateSnapshot V)) :
    Except String (InstitutionalStateSnapshot V) := do
  let stateHash ← digest (.state request.observation.missionId (previousHash previous)
    evidenceReceipt (nextVersion previous) (mergeState previous request.stateDelta))
  pure
    { missionId := request.observation.missionId
      previousStateHash := previousHash previous
      evidenceReceipt := evidenceReceipt
      stateVersion := nextVersion previous
      state := mergeState previous request.stateDelta
      stateHash := stateHash }

end Parts

/-! ## Calls side by side -/

/-- Where a call is: it has qualified its evidence, or also read the current snapshot. -/
inductive UpdatePhase (V : Type) where
  | qualified (request : UpdateRequest V) (evidenceReceipt : String)
  | prepared (request : UpdateRequest V) (evidenceReceipt : String)
      (previous : Option (InstitutionalStateSnapshot V))

/-- A commit, with the snapshot that its call had read. -/
structure CommittedUpdate (V : Type) where
  previous : Option (InstitutionalStateSnapshot V)
  snapshot : InstitutionalStateSnapshot V
  delta : Dict String V
  governedExecutionReceipt : String

/-- The store and the calls that are under way; `committed` records the commits in order. -/
structure UpdatePool (K V : Type) where
  store : InstitutionalStateStore V
  calls : K → Option (UpdatePhase V)
  committed : List (CommittedUpdate V)

inductive UpdateStep (K V : Type) where
  | qualify (call : K) (request : UpdateRequest V)
  | current (call : K)
  | commit (call : K)

namespace UpdatePool

variable {K V : Type}

def empty : UpdatePool K V where
  store := ⟨∅, []⟩
  calls _ := none
  committed := []

variable [DecidableEq K] (digest : DigestPayload V → Except String String)

/-- The pool after a call has ended. -/
def ended (pool : UpdatePool K V) (call : K) : UpdatePool K V :=
  { pool with calls := Function.update pool.calls call none }

/-- One step of a call, and what it raises. -/
def exec (pool : UpdatePool K V) : UpdateStep K V → UpdatePool K V × Option String
  | .qualify call request =>
    match pool.calls call with
    | some _ => (pool, none)
    | none =>
      match request.qualify digest pool.store with
      | .error error => (pool, some error)
      | .ok evidenceReceipt =>
        ({ pool with
          calls := Function.update pool.calls call
            (some (.qualified request evidenceReceipt)) }, none)
  | .current call =>
    match pool.calls call with
    | some (.qualified request evidenceReceipt) =>
      ({ pool with
        calls := Function.update pool.calls call
          (some (.prepared request evidenceReceipt
            (pool.store.current request.observation.missionId))) }, none)
    | _ => (pool, none)
  | .commit call =>
    match pool.calls call with
    | some (.prepared request evidenceReceipt previous) =>
      match request.snapshot digest evidenceReceipt previous with
      | .error error => (pool.ended call, some error)
      | .ok snapshot =>
        match pool.store.commit snapshot
            request.observation.governedExecutionReceipt with
        | .error error => (pool.ended call, some error)
        | .ok store =>
          ({ store := store
             calls := Function.update pool.calls call none
             committed := pool.committed ++
              [⟨previous, snapshot, request.stateDelta,
                request.observation.governedExecutionReceipt⟩] }, none)
    | _ => (pool, none)

def step (pool : UpdatePool K V) (input : UpdateStep K V) : UpdatePool K V :=
  (pool.exec digest input).1

end UpdatePool

end ReisOs.CognitiveValidation
