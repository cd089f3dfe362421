import ReisOs.Core.Runs
import ReisOs.Core.Scripts
import Mathlib.Data.List.Dedup
import Mathlib.Data.List.Sort
import Mathlib.Data.Rat.Defs
import Mathlib.Data.String.Basic

/-!
# The continuous executor

`ContinuousExecutor`: events wait in a queue that is lost with the process, and a journal of
rows is kept on disk.  A crash may fall between any two steps of a call; an executor that is
opened on the journal reads from it which events are unfinished.
-/

namespace ReisOs.RecursiveRuntime.Executor

open ReisOs.Core

inductive GateDisposition where
  | «continue»
  | repair
  | recurse
  | converge
  | hold
  | escalate
  | stop
  | failClosed
  deriving DecidableEq, Repr

structure ExecutorLease where
  executorInstanceId : String
  executorLeaseId : String
  missionNamespace : String
  executorEpoch : ℤ
  expiresAt : ℚ
  deriving DecidableEq, Repr

structure ExecutorEvent where
  eventId : String
  missionNamespace : String
  payloadRef : String
  deriving DecidableEq, Repr

inductive ExecutorRow where
  | enqueued (eventId missionNamespace payloadRef : String)
  | intent (eventId : String) (epoch : ℤ)
  | result (eventId : String) (result : GateDisposition)
  deriving DecidableEq, Repr

/-- The executor of a process and the rows of its journal. -/
structure ContinuousExecutor where
  lease : ExecutorLease
  queue : List ExecutorEvent
  /-- The entry of `_active_writer` for the namespace of the lease. -/
  activeWriter : String × ℤ
  modelInferenceCount : ℕ
  journal : List ExecutorRow
  deriving DecidableEq, Repr

/-- `ContinuousExecutor(lease, now, journal)`. -/
def opened (lease : ExecutorLease) (journal : List ExecutorRow) : ContinuousExecutor :=
  ⟨lease, [], (lease.executorInstanceId, lease.executorEpoch), 0, journal⟩

/-- What `run_once` answers. -/
inductive RunAnswer where
  | idle
  | disposed (disposition : GateDisposition)
  deriving DecidableEq, Repr

namespace ContinuousExecutor

def validateLease (executor : ContinuousExecutor) (now : ℚ) : GateDisposition :=
  if executor.lease.expiresAt ≤ now then .hold
  else if executor.activeWriter ≠
      (executor.lease.executorInstanceId, executor.lease.executorEpoch) then .failClosed
  else .continue

/-- A step that changes the executor or its journal. -/
def change (f : ContinuousExecutor → ContinuousExecutor) :
    Script ContinuousExecutor String Unit :=
  .act fun executor => (f executor, .ok ())

def append (row : ExecutorRow) : Script ContinuousExecutor String Unit :=
  change fun executor => { executor with journal := executor.journal ++ [row] }

def enqueue (event : ExecutorEvent) : Script ContinuousExecutor String Unit := do
  let executor ← Script.read id
  Script.raiseIf (event.missionNamespace ≠ executor.lease.missionNamespace)
    "MISSION_NAMESPACE_MISMATCH"
  change fun executor => { executor with queue := executor.queue ++ [event] }
  append (.enqueued event.eventId event.missionNamespace event.payloadRef)

/-- The part of `run_once` after an event has been taken from the queue. -/
def dispose (event : ExecutorEvent) (epoch : ℤ)
    (handler : ExecutorEvent → Except String GateDisposition) :
    Script ContinuousExecutor String RunAnswer := do
  append (.intent event.eventId epoch)
  change fun executor =>
    { executor with modelInferenceCount := executor.modelInferenceCount + 1 }
  match handler event with
  | .error error => Script.raise error
  | .ok result =>
    append (.result event.eventId result)
    pure (.disposed result)

def runOnce (now : ℚ) (handler : ExecutorEvent → Except String GateDisposition) :
    Script ContinuousExecutor String RunAnswer := do
  let executor ← Script.read id
  match executor.queue with
  | [] => pure .idle
  | event :: rest =>
    if executor.validateLease now = .continue then
      change fun executor => { executor with queue := rest }
      dispose event executor.lease.executorEpoch handler
    else pure (.disposed (executor.validateLease now))

def replaceActiveWriter (instanceId : String) (epoch : ℤ) :
    Script ContinuousExecutor String Unit := do
  let executor ← Script.read id
  Script.raiseIf (epoch ≤ executor.lease.executorEpoch) "EXECUTOR_EPOCH_MUST_ADVANCE"
  change fun executor => { executor with activeWriter := (instanceId, epoch) }

end ContinuousExecutor

/-! ## Replay -/

def ExecutorRow.enqueuedId : ExecutorRow → Option String
  | .enqueued eventId _ _ => some eventId
  | _ => none

def ExecutorRow.completedId : ExecutorRow → Option String
  | .result eventId _ => some eventId
  | _ => none

/-- `replay_unfinished`: the ids that have been enqueued and have no result, sorted. -/
def replayUnfinished (journal : List ExecutorRow) : List String :=
  let completed := journal.filterMap ExecutorRow.completedId
  ((journal.filterMap ExecutorRow.enqueuedId).dedup.filter (· ∉ completed)).insertionSort
    (· ≤ ·)

theorem mem_replayUnfinished_iff {journal : List ExecutorRow} {eventId : String} :
    eventId ∈ replayUnfinished journal ↔
      (∃ row ∈ journal, row.enqueuedId = some eventId) ∧
        ∀ row ∈ journal, row.completedId ≠ some eventId := by
  rw [replayUnfinished, List.mem_insertionSort, List.mem_filter, List.mem_dedup,
    List.mem_filterMap]
  simp

/-! ## Calls and crashes -/

inductive ExecutorCall where
  | enqueue (event : ExecutorEvent)
  | runOnce (now : ℚ) (handler : ExecutorEvent → Except String GateDisposition)
  | replaceActiveWriter (instanceId : String) (epoch : ℤ)

/-- A call that runs to its end, or one that a crash cuts off after some steps, after
which an executor is opened on the journal. -/
inductive ExecutorInput where
  | call (call : ExecutorCall)
  | crash (call : ExecutorCall) (steps : ℕ) (lease : ExecutorLease)

/-- The executor after a call, and after some of its steps. -/
def ExecutorCall.finish (executor : ContinuousExecutor) : ExecutorCall → ContinuousExecutor
  | enqueue event => ((ContinuousExecutor.enqueue event).exec executor).1
  | runOnce now handler => ((ContinuousExecutor.runOnce now handler).exec executor).1
  | replaceActiveWriter instanceId epoch =>
    ((ContinuousExecutor.replaceActiveWriter instanceId epoch).exec executor).1

def ExecutorCall.cutOff (executor : ContinuousExecutor) (steps : ℕ) :
    ExecutorCall → ContinuousExecutor
  | enqueue event => (ContinuousExecutor.enqueue event).crashed steps executor
  | runOnce now handler => (ContinuousExecutor.runOnce now handler).crashed steps executor
  | replaceActiveWriter instanceId epoch =>
    (ContinuousExecutor.replaceActiveWriter instanceId epoch).crashed steps executor

def executorStep (executor : ContinuousExecutor) : ExecutorInput → ContinuousExecutor
  | .call call => call.finish executor
  | .crash call steps lease => opened lease (call.cutOff executor steps).journal

end ReisOs.RecursiveRuntime.Executor
