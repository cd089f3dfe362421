import ReisOs.Core.Scripts
import ReisOs.Instances.Contracts

/-!
# The instance registry

`InstanceBindingStore`: three SQLite tables, rows in the order of insertion.  Reads run
outside any transaction; the writes of a method form one transaction, which commits
as a whole or not at all.  `time()` is an argument of the methods that store it.
-/

namespace ReisOs.Instances

open ReisOs.Core ReisOs.Kernel

/-- The content of a journal entry's `payload_json`. -/
inductive JournalPayload where
  | created (profileHash : String)
  | transition (details : Details) (platformInstanceId : Option String)
      (checkpointVersion : Option ℕ) (checkpointHash hazelEventHash : Option String)
      (maturity : Option BindingMaturity)
  | replaced (successorBindingId : String)
      (predecessorExpectedVersion successorExpectedVersion checkpointVersion : ℕ)
      (checkpointHash hazelEventHash : String)
  | successor (predecessorBindingId : String) (stateVersion : ℕ)
  deriving DecidableEq, Repr

/-- `payload.get("request_fingerprint")`. -/
def JournalPayload.requestFingerprint : JournalPayload → Option Detail
  | transition details .. => details.lookup "request_fingerprint"
  | created .. | replaced .. | successor .. => none

structure JournalEntry where
  eventId : String
  bindingId : String
  eventType : String
  fromStatus : Option InstanceStatus
  toStatus : InstanceStatus
  bindingVersion : ℕ
  idempotencyKey : String
  payload : JournalPayload
  deriving DecidableEq, Repr

inductive SagaState where
  | leaseReserved | effectApplied | readbackVerified | localCommitted | leaseFinalized
  deriving DecidableEq, Repr

inductive SagaOperation where
  | checkpoint | replacement
  deriving DecidableEq, Repr

/-- A row of `ocs_action_sagas`; `payload_json` only ever holds the lease id. -/
structure ActionSaga where
  idempotencyKey : String
  bindingId : String
  operation : SagaOperation
  requestFingerprint : String
  state : SagaState
  leaseId : String
  updatedAt : Time
  deriving DecidableEq, Repr

structure InstanceStore where
  bindings : List InstanceBinding
  journal : List JournalEntry
  sagas : List ActionSaga
  deriving DecidableEq, Repr

namespace InstanceStore

def empty : InstanceStore := ⟨[], [], []⟩

/-! ## Queries -/

/-- `SELECT * FROM ocs_instance_bindings WHERE binding_id = ?`. -/
def row (store : InstanceStore) (bindingId : String) : Option InstanceBinding :=
  store.bindings.find? (·.bindingId = bindingId)

def byIdempotency (store : InstanceStore) (idempotencyKey : String) :
    Option InstanceBinding :=
  store.bindings.find? (·.idempotencyKey = idempotencyKey)

/-- The rows of a mission-scoped OCS. -/
def lineage (store : InstanceStore) (organizationId missionId ocsId : String) :
    List InstanceBinding :=
  store.bindings.filter fun binding =>
    binding.organizationId = organizationId ∧ binding.missionId = missionId ∧
      binding.ocsId = ocsId

def latestGeneration (store : InstanceStore) (organizationId missionId ocsId : String) :
    ℕ :=
  ((store.lineage organizationId missionId ocsId).map (·.generation)).foldr max 0

/-- The statuses of the probe in `create`. -/
def isLive : InstanceStatus → Bool
  | .prepared | .persisted | .bound | .active | .checkpointed => true
  | .replaced | .closed | .revoked | .hold => false

def activeRow (store : InstanceStore) (organizationId missionId ocsId : String) :
    Option InstanceBinding :=
  (store.lineage organizationId missionId ocsId).find? (isLive ·.status)

def entry (store : InstanceStore) (idempotencyKey : String) : Option JournalEntry :=
  store.journal.find? (·.idempotencyKey = idempotencyKey)

def saga (store : InstanceStore) (idempotencyKey : String) : Option ActionSaga :=
  store.sagas.find? (·.idempotencyKey = idempotencyKey)

/-- `get`. -/
def get (bindingId : String) : Script InstanceStore InstanceError InstanceBinding := do
  match ← Script.read (·.row bindingId) with
  | none => .raise (.binding "instance_binding_not_found")
  | some binding => return binding

/-! ## Writes of a transaction -/

/-- The row that `_append_event` inserts. -/
def event (binding : InstanceBinding) (eventType : String)
    (fromStatus : Option InstanceStatus) (idempotencyKey : String)
    (payload : JournalPayload) : JournalEntry :=
  { eventId := s!"{binding.bindingId}:{binding.version}:{eventType}"
    bindingId := binding.bindingId
    eventType := eventType
    fromStatus := fromStatus
    toStatus := binding.status
    bindingVersion := binding.version
    idempotencyKey := idempotencyKey
    payload := payload }

/-- `_append_event`, with the two unique columns of the journal. -/
def appendEvent (store : InstanceStore) (entry : JournalEntry) :
    Except InstanceError InstanceStore :=
  if store.journal.any fun other =>
      other.eventId = entry.eventId || other.idempotencyKey = entry.idempotencyKey then
    .error .integrity
  else .ok { store with journal := store.journal ++ [entry] }

/-- The primary key and the unique columns of the table of bindings. -/
def clashes (binding other : InstanceBinding) : Bool :=
  other.bindingId = binding.bindingId || other.idempotencyKey = binding.idempotencyKey ||
    (other.organizationId = binding.organizationId &&
      other.missionId = binding.missionId && other.ocsId = binding.ocsId &&
      other.generation = binding.generation) ||
    (binding.platformInstanceId.isSome &&
      other.platformInstanceId = binding.platformInstanceId)

def insertRow (store : InstanceStore) (binding : InstanceBinding) :
    Except InstanceError InstanceStore :=
  if store.bindings.any (clashes binding) then .error .integrity
  else .ok { store with bindings := store.bindings ++ [binding] }

/-- The rows after `UPDATE … WHERE binding_id = ? AND version = ?`. -/
def updated (bindings : List InstanceBinding) (bindingId : String) (version : ℕ)
    (columns : InstanceBinding → InstanceBinding) : List InstanceBinding :=
  bindings.map fun binding =>
    if binding.bindingId = bindingId ∧ binding.version = version then columns binding
    else binding

/-- The update, and the check that it found its row. -/
def updateRow (store : InstanceStore) (bindingId : String) (version : ℕ)
    (columns : InstanceBinding → InstanceBinding) : Except InstanceError InstanceStore :=
  if store.bindings.any fun binding =>
      binding.bindingId = bindingId && binding.version = version then
    .ok { store with bindings := updated store.bindings bindingId version columns }
  else .error (.binding "instance_version_conflict")

/-- `UNIQUE(platform_instance_id)` on an update of one row. -/
def platformTaken (store : InstanceStore) (bindingId : String)
    (platformInstanceId : Option String) : Bool :=
  platformInstanceId.isSome &&
    store.bindings.any fun other =>
      other.bindingId ≠ bindingId && other.platformInstanceId = platformInstanceId

/-- Commit the transaction, or roll it back and raise. -/
def commit (writes : InstanceStore → Except InstanceError InstanceStore) :
    Script InstanceStore InstanceError Unit :=
  .act fun store =>
    match writes store with
    | .error error => (store, .error error)
    | .ok written => (written, .ok ())

/-! ## Creating -/

/-- The comparison of a replacement with its predecessor that `create` and
`commit_replacement` make. -/
def sameLineage (binding predecessor : InstanceBinding) : Bool :=
  binding.organizationId = predecessor.organizationId &&
    binding.missionId = predecessor.missionId && binding.ocsId = predecessor.ocsId &&
    binding.runId = predecessor.runId &&
    binding.profileVersion = predecessor.profileVersion &&
    binding.profileHash = predecessor.profileHash &&
    binding.authorityRef = predecessor.authorityRef &&
    binding.stateNamespace = predecessor.stateNamespace &&
    binding.memoryNamespace = predecessor.memoryNamespace &&
    binding.generation = predecessor.generation + 1

/-- The checks of `create` on the predecessor of a replacement. -/
def checkPredecessor (binding : InstanceBinding) :
    Script InstanceStore InstanceError Unit :=
  match binding.predecessorBindingId with
  | none => pure ()
  | some predecessorId => do
      match ← Script.read (·.row predecessorId) with
      | none => .raise (.binding "replacement_predecessor_not_found")
      | some predecessor =>
        .raiseIf (predecessor.status ≠ .checkpointed ∨ ¬ sameLineage binding predecessor)
          (.binding "replacement_lineage_mismatch")

/-- The transaction of `create`. -/
def insertCreated (binding : InstanceBinding) (store : InstanceStore) :
    Except InstanceError InstanceStore := do
  let store ← store.insertRow binding
  store.appendEvent (event binding "OCS_INSTANCE_PREPARED" none
    s!"{binding.idempotencyKey}:prepared" (.created binding.profileHash))

def create (binding : InstanceBinding) :
    Script InstanceStore InstanceError InstanceBinding := do
  .raiseIf (binding.status ≠ .prepared ∨ binding.version ≠ 1)
    (.binding "instance_initial_state_invalid")
  match ← Script.read (·.byIdempotency binding.idempotencyKey) with
  | some recovered =>
    .raiseIf (recovered.requestHash ≠ binding.requestHash)
      (.binding "instance_idempotency_conflict")
    return recovered
  | none =>
    let active ← Script.read
      (·.activeRow binding.organizationId binding.missionId binding.ocsId)
    .raiseIf (active.isSome ∧ binding.predecessorBindingId = none)
      (.binding "active_mission_ocs_binding_exists")
    checkPredecessor binding
    commit (insertCreated binding)
    return binding

/-! ## Transitions -/

/-- The keyword arguments of `transition`. -/
structure Transition where
  bindingId : String
  expectedVersion : ℕ
  target : InstanceStatus
  idempotencyKey : String
  eventType : String
  platformInstanceId : Option String := none
  checkpointVersion : Option ℕ := none
  checkpointHash : Option String := none
  hazelEventHash : Option String := none
  maturity : Option BindingMaturity := none
  payload : Details := []

namespace Transition

/-- `requested_payload`. -/
def requestedPayload (arguments : Transition) : JournalPayload :=
  .transition arguments.payload arguments.platformInstanceId arguments.checkpointVersion
    arguments.checkpointHash arguments.hazelEventHash arguments.maturity

/-- `updated`, from the row that was read. -/
def columns (arguments : Transition) (current : InstanceBinding) : InstanceBinding :=
  { current with
    status := arguments.target
    version := current.version + 1
    platformInstanceId := arguments.platformInstanceId.or current.platformInstanceId
    checkpointVersion := arguments.checkpointVersion.getD current.checkpointVersion
    checkpointHash := arguments.checkpointHash.or current.checkpointHash
    maturity := arguments.maturity.getD current.maturity
    hazelEventHash := arguments.hazelEventHash.or current.hazelEventHash }

/-- The columns that the update writes over a row. -/
def overRow (arguments : Transition) (current binding : InstanceBinding) : InstanceBinding :=
  { binding with
    status := (arguments.columns current).status
    version := (arguments.columns current).version
    maturity := (arguments.columns current).maturity
    platformInstanceId := (arguments.columns current).platformInstanceId
    checkpointVersion := (arguments.columns current).checkpointVersion
    checkpointHash := (arguments.columns current).checkpointHash
    hazelEventHash := (arguments.columns current).hazelEventHash }

/-- Whether an entry with the same idempotency key is this transition's own. -/
def replays (arguments : Transition) (replay : JournalEntry) : Bool :=
  replay.bindingId = arguments.bindingId && replay.eventType = arguments.eventType &&
    replay.toStatus = arguments.target && replay.payload = arguments.requestedPayload

end Transition

/-- The transaction of `transition`, from the row that it has read. -/
def applyTransition (arguments : Transition) (current : InstanceBinding)
    (store : InstanceStore) : Except InstanceError InstanceStore := do
  let written ← store.updateRow arguments.bindingId arguments.expectedVersion
    (arguments.overRow current)
  if store.platformTaken arguments.bindingId
      (arguments.columns current).platformInstanceId then
    .error .integrity
  else
    written.appendEvent (event (arguments.columns current) arguments.eventType
      (some current.status) arguments.idempotencyKey arguments.requestedPayload)

def transition (arguments : Transition) :
    Script InstanceStore InstanceError InstanceBinding := do
  match ← Script.read (·.entry arguments.idempotencyKey) with
  | some replay =>
    .raiseIf (¬ arguments.replays replay) (.binding "instance_idempotency_conflict")
    get arguments.bindingId
  | none =>
    let current ← get arguments.bindingId
    .raiseIf (current.version ≠ arguments.expectedVersion)
      (.binding "instance_version_conflict")
    .raiseIf (arguments.target ∉ allowedTransitions current.status)
      (transitionForbidden current.status arguments.target)
    commit (applyTransition arguments current)
    return arguments.columns current

/-! ## Replacements -/

/-- The keyword arguments of `commit_replacement`. -/
structure Replacement where
  predecessorId : String
  predecessorExpectedVersion : ℕ
  successorId : String
  successorExpectedVersion : ℕ
  idempotencyKey : String
  checkpointVersion : ℕ
  checkpointHash : String
  hazelEventHash : String

namespace Replacement

/-- `replay_payload`. -/
def replayPayload (arguments : Replacement) : JournalPayload :=
  .replaced arguments.successorId arguments.predecessorExpectedVersion
    arguments.successorExpectedVersion arguments.checkpointVersion
    arguments.checkpointHash arguments.hazelEventHash

def replaced (predecessor : InstanceBinding) : InstanceBinding :=
  { predecessor with status := .replaced, version := predecessor.version + 1 }

def persisted (arguments : Replacement) (successor : InstanceBinding) : InstanceBinding :=
  { successor with
    status := .persisted
    version := successor.version + 1
    checkpointVersion := arguments.checkpointVersion
    checkpointHash := some arguments.checkpointHash
    hazelEventHash := some arguments.hazelEventHash }

/-- The columns that the first update writes over a row. -/
def overPredecessor (predecessor binding : InstanceBinding) : InstanceBinding :=
  { binding with
    status := (replaced predecessor).status
    version := (replaced predecessor).version }

/-- The columns that the second update writes over a row. -/
def overSuccessor (arguments : Replacement) (successor binding : InstanceBinding) :
    InstanceBinding :=
  { binding with
    status := (arguments.persisted successor).status
    version := (arguments.persisted successor).version
    checkpointVersion := (arguments.persisted successor).checkpointVersion
    checkpointHash := (arguments.persisted successor).checkpointHash
    hazelEventHash := (arguments.persisted successor).hazelEventHash }

def replays (arguments : Replacement) (replay : JournalEntry) : Bool :=
  replay.bindingId = arguments.predecessorId &&
    replay.eventType = "OCS_INSTANCE_REPLACED" && replay.toStatus = .replaced &&
    replay.payload = arguments.replayPayload

end Replacement

/-- The transaction of `commit_replacement`, from the rows that it has read. -/
def applyReplacement (arguments : Replacement) (predecessor successor : InstanceBinding)
    (store : InstanceStore) : Except InstanceError InstanceStore := do
  let store ← store.updateRow arguments.predecessorId arguments.predecessorExpectedVersion
    (Replacement.overPredecessor predecessor)
  let store ← store.updateRow arguments.successorId arguments.successorExpectedVersion
    (arguments.overSuccessor successor)
  let store ← store.appendEvent (event (Replacement.replaced predecessor)
    "OCS_INSTANCE_REPLACED" (some predecessor.status) arguments.idempotencyKey
    arguments.replayPayload)
  store.appendEvent (event (arguments.persisted successor) "OCS_REPLACEMENT_PERSISTED"
    (some successor.status) s!"{arguments.idempotencyKey}:successor"
    (.successor arguments.predecessorId arguments.checkpointVersion))

/-- `commit_replacement`: the predecessor and the successor afterwards. -/
def commitReplacement (arguments : Replacement) :
    Script InstanceStore InstanceError (InstanceBinding × InstanceBinding) := do
  match ← Script.read (·.entry arguments.idempotencyKey) with
  | some replay =>
    .raiseIf (¬ arguments.replays replay) (.binding "instance_idempotency_conflict")
    let predecessor ← get arguments.predecessorId
    let successor ← get arguments.successorId
    return (predecessor, successor)
  | none =>
    let predecessorRow ← Script.read (·.row arguments.predecessorId)
    let successorRow ← Script.read (·.row arguments.successorId)
    match predecessorRow, successorRow with
    | some predecessor, some successor =>
      .raiseIf (successor.predecessorBindingId ≠ some predecessor.bindingId ∨
          ¬ sameLineage successor predecessor)
        (.binding "replacement_lineage_mismatch")
      .raiseIf (predecessor.version ≠ arguments.predecessorExpectedVersion ∨
          successor.version ≠ arguments.successorExpectedVersion)
        (.binding "instance_version_conflict")
      .raiseIf (predecessor.status ≠ .checkpointed)
        (.binding "verified_checkpoint_required_for_replacement")
      .raiseIf (successor.status ≠ .prepared)
        (.binding "replacement_successor_not_prepared")
      commit (applyReplacement arguments predecessor successor)
      return (Replacement.replaced predecessor, arguments.persisted successor)
    | _, _ => .raise (.binding "replacement_binding_not_found")

/-! ## Sagas -/

/-- `checkpoint_replay`. -/
def checkpointReplay (bindingId idempotencyKey requestFingerprint : String) :
    Script InstanceStore InstanceError (Option InstanceBinding) := do
  match ← Script.read (·.entry idempotencyKey) with
  | none => return none
  | some replay =>
    .raiseIf (replay.bindingId ≠ bindingId ∨
        replay.eventType ≠ "OCS_INSTANCE_CHECKPOINTED" ∨
        replay.toStatus ≠ .checkpointed ∨
        replay.payload.requestFingerprint ≠ some (.text requestFingerprint))
      (.binding "instance_idempotency_conflict")
    let binding ← get bindingId
    return some binding

/-- `action_saga`. -/
def actionSaga (idempotencyKey : String) : Script InstanceStore InstanceError ActionSaga := do
  match ← Script.read (·.saga idempotencyKey) with
  | none => .raise (.binding "action_saga_not_found")
  | some saga => return saga

/-- The insertion of `begin_action_saga`, with the foreign key to the bindings. -/
def insertSaga (saga : ActionSaga) (store : InstanceStore) :
    Except InstanceError InstanceStore :=
  if (store.saga saga.idempotencyKey).isSome ∨ store.row saga.bindingId = none then
    .error .integrity
  else .ok { store with sagas := store.sagas ++ [saga] }

/-- `begin_action_saga`; `saga` is the row that it inserts. -/
def beginActionSaga (saga : ActionSaga) : Script InstanceStore InstanceError ActionSaga := do
  match ← Script.read (·.saga saga.idempotencyKey) with
  | some current =>
    .raiseIf (current.bindingId ≠ saga.bindingId ∨ current.operation ≠ saga.operation ∨
        current.requestFingerprint ≠ saga.requestFingerprint ∨
        current.leaseId ≠ saga.leaseId)
      (.binding "instance_idempotency_conflict")
    return current
  | none =>
    commit (insertSaga saga)
    actionSaga saga.idempotencyKey

/-- The update of `advance_action_saga` and the check of a row that it did not find. -/
def moveSaga (idempotencyKey : String) (expected target : SagaState) (now : Time)
    (store : InstanceStore) : Except InstanceError InstanceStore :=
  match store.saga idempotencyKey with
  | none => .error (.binding "action_saga_state_conflict")
  | some saga =>
    if saga.state = expected then
      .ok { store with
        sagas := store.sagas.map fun saga =>
          if saga.idempotencyKey = idempotencyKey ∧ saga.state = expected then
            { saga with state := target, updatedAt := now }
          else saga }
    else if saga.state = target then .ok store
    else .error (.binding "action_saga_state_conflict")

/-- `advance_action_saga`. -/
def advanceActionSaga (idempotencyKey : String) (expected target : SagaState)
    (now : Time) : Script InstanceStore InstanceError ActionSaga := do
  commit (moveSaga idempotencyKey expected target now)
  actionSaga idempotencyKey

end InstanceStore

end ReisOs.Instances
