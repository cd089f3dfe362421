import ReisOs.RecursiveRuntime.Cancellation

/-!
# Recovery

`RecoveryService`: a predecessor is fenced and a successor takes over from its latest
checkpoint.  The transition is written to the journal in three records; `replay` finishes
the transitions that have no commit.
-/

namespace ReisOs.RecursiveRuntime

open ReisOs.Core DurableJournal

/-- The values of `crash_at` that raise. -/
inductive CrashPoint where
  | afterJournalBeforeCommit
  | afterCommitBeforeAck
  deriving DecidableEq, Repr

/-- `CheckpointRepository.latest`. -/
def latestCheckpoint (actorId : String) (runtime : RuntimeState) : Except Fault Checkpoint :=
  match (runtime.checkpoints actorId).getLast? with
  | none => .error (.invalidCheckpoint "NO_VALID_CHECKPOINT")
  | some checkpoint => .ok checkpoint

/-- `RecoveryService.checkpoint`: the copy is kept under the id that it has. -/
def checkpoint (actorId checkpointId : String) : RuntimeScript Checkpoint := do
  let actor ← look (·.states.get actorId)
  .act fun runtime =>
    ({ runtime with
      checkpoints := Function.update runtime.checkpoints actor.actorId
        (runtime.checkpoints actor.actorId ++ [⟨checkpointId, actor⟩]) },
      .ok ⟨checkpointId, actor⟩)

def transitionId (predecessorId successorId : String) (predecessor : ActorState) : String :=
  "recovery:" ++ predecessorId ++ "->" ++ successorId ++ ":g" ++
    toString (predecessor.generation + 1)

def transitionRecord (predecessorId successorId : String) (predecessor : ActorState) :
    JournalRecord :=
  { journalId := transitionId predecessorId successorId predecessor
    kind := "RECOVERY_TRANSITION"
    actorId := predecessorId
    traceId := predecessor.traceId
    generation := predecessor.generation
    fencingEpoch := predecessor.fencingEpoch
    status := "INTENT_PERSISTED"
    payload := [("successor_id", successorId)] }

def fencedRecord (predecessorId successorId : String) (predecessor : ActorState) :
    JournalRecord :=
  { journalId := transitionId predecessorId successorId predecessor ++ ":fenced"
    kind := "FENCING_COMMIT"
    actorId := predecessorId
    traceId := predecessor.traceId
    generation := predecessor.generation
    fencingEpoch := predecessor.fencingEpoch
    status := "FENCED"
    payload := [("successor_id", successorId)] }

def committedRecord (journalId predecessorId : String) (successor : ActorState) :
    JournalRecord :=
  { journalId := journalId
    kind := "RECOVERY_COMMIT"
    actorId := successor.actorId
    traceId := successor.traceId
    generation := successor.generation
    fencingEpoch := successor.fencingEpoch
    status := "COMMITTED"
    payload := [("predecessor_id", predecessorId)] }

/-- The successor of a predecessor, from the actor of its checkpoint. -/
def successorActor (checkpointed predecessor : ActorState) (successorId : String) :
    ActorState :=
  { checkpointed with
    actorId := successorId
    stateNamespace :=
      checkpointed.stateNamespace ++ ":g" ++ toString (predecessor.generation + 1)
    generation := predecessor.generation + 1
    fencingEpoch := predecessor.fencingEpoch + 1
    lifecycle := if checkpointed.lifecycle = .cancelling then .cancelling else .active }

/-- A successor is added, or only made current if its id is in use. -/
def installSuccessor (successor : ActorState) (states : StateRepository) :
    Except Fault StateRepository :=
  match states.actors successor.actorId with
  | none => states.add successor true
  | some _ => states.setActive successor.actorId

/-- A crash is injected at the point. -/
def crashAt (crash : Option CrashPoint) (point : CrashPoint) (message : String) :
    RuntimeScript Unit :=
  if crash = some point then Script.raise (.runtimeError message) else pure ()

def recover (config : RuntimeConfig) (predecessorId successorId : String)
    (crash : Option CrashPoint) : RuntimeScript ActorState := do
  let found ← look (latestCheckpoint predecessorId)
  let predecessor ← look (·.states.get predecessorId)
  journalPutIf config.recoveryJournal (transitionRecord predecessorId successorId predecessor)
  crashAt crash .afterJournalBeforeCommit "CRASH_INJECTED_AFTER_JOURNAL"
  changeStates (·.states.setLifecycle predecessorId .fenced)
  journalPutIf config.recoveryJournal (fencedRecord predecessorId successorId predecessor)
  changeStates fun runtime =>
    installSuccessor (successorActor found.actor predecessor successorId) runtime.states
  journalPutIf config.recoveryJournal
    (committedRecord (transitionId predecessorId successorId predecessor ++ ":commit")
      predecessorId (successorActor found.actor predecessor successorId))
  crashAt crash .afterCommitBeforeAck "CRASH_INJECTED_AFTER_COMMIT"
  pure (successorActor found.actor predecessor successorId)

/-- A transition without a commit is finished, from the actor and the checkpoint of its
predecessor as they are now. -/
def finishTransition (row : JournalRecord) (successorId : String) (found : Checkpoint)
    (predecessor : ActorState) : RuntimeScript (List String) := do
  changeStates (·.states.setLifecycle row.actorId .fenced)
  changeStates fun runtime =>
    installSuccessor (successorActor found.actor predecessor successorId) runtime.states
  journalPut (committedRecord (row.journalId ++ ":commit") row.actorId
    (successorActor found.actor predecessor successorId))
  pure [successorId]

/-- A transition with a commit makes its successor current again. -/
def repeatTransition (successorId : String) : RuntimeScript (List String) :=
  .act fun runtime =>
    match runtime.states.actors successorId with
    | none => (runtime, .ok [])
    | some _ =>
      match runtime.states.setActive successorId with
      | .error fault => (runtime, .error fault)
      | .ok states => ({ runtime with states := states }, .ok [successorId])

/-- One turn of the loop of `replay`, over the rows that were read at its start.  The rows
of transitions always name a successor. -/
def replayTransition (rows : List JournalRecord) (row : JournalRecord) :
    RuntimeScript (List String) :=
  match row.field "successor_id" with
  | none => pure []
  | some successorId =>
    if rows.any (·.journalId = row.journalId ++ ":commit") then repeatTransition successorId
    else do
      let start ← Script.read fun runtime => runtime
      match start.states.actors row.actorId, latestCheckpoint row.actorId start with
      | some predecessor, .ok found =>
        finishTransition row successorId found predecessor
      | _, _ => pure []

def replayTransitions (rows : List JournalRecord) :
    List JournalRecord → RuntimeScript (List String)
  | [] => pure []
  | row :: rest => do
      let repaired ← replayTransition rows row
      let others ← replayTransitions rows rest
      pure (repaired ++ others)

/-- The loop of `RecoveryService.replay`. -/
def replayRows (rows : List JournalRecord) : RuntimeScript (List String) := do
  let repaired ← replayTransitions rows (rows.filter (·.kind = "RECOVERY_TRANSITION"))
  pure repaired.eraseDups

/-- `RecoveryService.replay`. -/
def replayRecoveries (config : RuntimeConfig) : RuntimeScript (List String) :=
  if config.recoveryJournal then Script.read (·.journal) >>= replayRows else pure []

end ReisOs.RecursiveRuntime
