import Mathlib.Data.List.Sort
import ReisOs.Kernel.Contracts

/-!
# State and trace cores

`StateCore` with its optional SQLite port, and `TraceCore`.  Canonical JSON, its
digest and Unicode case folding come from the configuration; rows of the database
hold the record that their JSON text denotes.
-/

namespace ReisOs.Kernel

open ReisOs.Core

/-- The library functions `StateCore` calls.  `recordHash` is `none` on a record
whose payload is not JSON-serialisable; `roundTrip` is the payload that loading
its JSON text gives back. -/
structure StateCodec (P : Type) where
  recordHash : StateRecord P → Option String
  roundTrip : P → P
  casefold : String → String

/-- Numbers as payloads: the fields' text is the digest, and reloading is exact. -/
def StateCodec.numbers : StateCodec ℕ :=
  { recordHash := fun record =>
      let predecessor := record.predecessor.getD ""
      some (s!"{record.stateId}|{record.ocs}|{record.version}|" ++
        s!"{predecessor}|{record.payload}|{record.verified}")
    roundTrip := id
    casefold := id }

variable {P : Type}

/-! ## The durable port -/

structure StateRow (P : Type) where
  stateId : String
  ocs : String
  version : ℕ
  predecessor : Option String
  recordJson : StateRecord P
  recordHash : String
  deriving DecidableEq, Repr

/-- The table `state_records`. -/
abbrev StateDatabase (P : Type) := List (StateRow P)

namespace StateDatabase

/-- `SQLiteStatePersistencePort.write`. -/
def write (codec : StateCodec P) (database : StateDatabase P) (record : StateRecord P) :
    Except PyError (StateDatabase P) :=
  match codec.recordHash record with
  | none => .error (.valueError "state_payload_not_serializable")
  | some digest =>
    if database.any fun row =>
        row.stateId = record.stateId ||
          (row.ocs = record.ocs && row.version = record.version) then
      .error .integrityError
    else
      .ok (database ++ [{
        stateId := record.stateId
        ocs := record.ocs
        version := record.version
        predecessor := record.predecessor
        recordJson := { record with payload := codec.roundTrip record.payload }
        recordHash := digest }])

def readFresh (codec : StateCodec P) (database : StateDatabase P) (stateId : String) :
    Except PyError (StateRecord P) :=
  match database.find? (·.stateId = stateId) with
  | none => .error (.keyError stateId)
  | some row =>
    match codec.recordHash row.recordJson with
    | none => .error (.valueError "state_payload_not_serializable")
    | some digest =>
      if digest ≠ row.recordHash then
        .error (.runtimeError "state_durable_integrity_failed")
      else .ok row.recordJson

def delete (database : StateDatabase P) (stateId : String) : StateDatabase P :=
  database.filter (·.stateId ≠ stateId)

/-- `ORDER BY ocs ASC, version ASC`. -/
def rowOrder (left right : StateRow P) : Prop :=
  left.ocs < right.ocs ∨ (left.ocs = right.ocs ∧ left.version ≤ right.version)

instance : DecidableRel (rowOrder (P := P)) := fun left right =>
  inferInstanceAs
    (Decidable (left.ocs < right.ocs ∨
      (left.ocs = right.ocs ∧ left.version ≤ right.version)))

def loadAll (codec : StateCodec P) (database : StateDatabase P) :
    Except PyError (List (StateRecord P)) :=
  (database.insertionSort rowOrder).mapM fun row =>
    database.readFresh codec row.stateId

end StateDatabase

/-! ## State core -/

structure StateCore (P : Type) where
  records : Dict String (StateRecord P)
  currentIds : Dict String String
  persistence : Option (StateDatabase P)
  deriving DecidableEq

/-- The keyword arguments of `StateCore.write`. -/
structure WriteContext where
  actorOcsId : Option String
  targetNamespace : Option String
  stateRef : Option String
  authorityContext : Option String
  deriving DecidableEq, Repr

/-- A caller-supplied `readback_check`, which may raise. -/
abbrev ReadbackCheck (P : Type) := StateRecord P → Except PyError Bool

/-- `state://{ocs}/{area}`. -/
def stateNamespace (ocs area : String) : String := s!"state://{ocs}/{area}"

/-- The owner part of a namespace without its prefix. -/
def namespaceOwner (target : String) : String :=
  String.ofList ((target.toList.drop "state://".length).takeWhile (· ≠ '/'))

/-- `_validate_namespace`: the reason it raises, if it does. -/
def validateNamespace (codec : StateCodec P)
    (actorOcsId targetNamespace recordOcs : String) : Option String :=
  let owner := namespaceOwner targetNamespace
  if !"state://".toList.isPrefixOf targetNamespace.toList then
    some "state_namespace_invalid"
  else if owner = "" then some "state_namespace_owner_required"
  else if codec.casefold owner ≠ codec.casefold recordOcs then
    some "state_namespace_record_owner_mismatch"
  else if codec.casefold actorOcsId ≠ codec.casefold owner then
    some "state_namespace_violation"
  else none

namespace StateCore

def empty : StateCore P := ⟨∅, ∅, none⟩

def get (core : StateCore P) (stateId : String) : Except PyError (StateRecord P) :=
  match core.records.lookup stateId with
  | none => .error (.keyError stateId)
  | some record => .ok record

def current (core : StateCore P) (ocs : String) :
    Except PyError (Option (StateRecord P)) :=
  match core.currentIds.lookup ocs with
  | none => .ok none
  | some stateId =>
    match core.records.lookup stateId with
    | none => .error (.keyError stateId)
    | some record => .ok (some record)

/-- The argument checks of `write`, up to the comparison with the current record. -/
def checkContext (codec : StateCodec P) (record : StateRecord P)
    (context : WriteContext) : Option String :=
  match context.actorOcsId, context.targetNamespace, context.stateRef,
      context.authorityContext with
  | none, _, _, _ => some "state_actor_ocs_required"
  | some _, none, _, _ => some "state_namespace_required"
  | some _, some _, none, _ => some "state_ref_required"
  | some _, some _, some _, none => some "state_authority_context_required"
  | some actorOcsId, some targetNamespace, some stateRef, some authorityContext =>
    if authorityContext = "" then some "state_authority_context_required"
    else
      match validateNamespace codec actorOcsId targetNamespace record.ocs with
      | some reason => some reason
      | none =>
        if stateRef ≠ record.stateId then some "state_ref_mismatch"
        else if record.version < 1 then some "state_version_required"
        else none

/-- The genesis or successor rule of `write`. -/
def checkSuccession (current : Option (StateRecord P)) (record : StateRecord P) :
    Option String :=
  match current with
  | none =>
    if record.predecessor ≠ none then some "genesis_predecessor_must_be_none"
    else if record.version ≠ 1 then some "genesis_version_must_be_one"
    else none
  | some current =>
    if record.predecessor ≠ some current.stateId then some "predecessor_required"
    else if record.version ≠ current.version + 1 then
      some "state_version_must_increment"
    else none

/-- One record of the loop in `_reload_from_durable_state`. -/
def reloadRecord (core : StateCore P) (record : StateRecord P) :
    Except PyError (StateCore P) :=
  let failed : Except PyError (StateCore P) :=
    .error (.runtimeError "state_durable_integrity_failed")
  if (core.records.lookup record.stateId).isSome then failed
  else
    match core.current record.ocs with
    | .error error => .error error
    | .ok current =>
      match checkSuccession current record with
      | some _ => failed
      | none =>
        .ok { core with
          records := core.records.insert record.stateId record
          currentIds := core.currentIds.insert record.ocs record.stateId }

/-- A new core over an existing database. -/
def reload (codec : StateCodec P) (database : StateDatabase P) :
    Except PyError (StateCore P) :=
  match database.loadAll codec with
  | .error error => .error error
  | .ok records => records.foldlM reloadRecord ⟨∅, ∅, some database⟩

/-- All checks `write` makes before it stores anything. -/
def checkWrite (codec : StateCodec P) (core : StateCore P) (record : StateRecord P)
    (context : WriteContext) : Except PyError Unit :=
  match checkContext codec record context with
  | some reason => .error (.valueError reason)
  | none =>
    match core.current record.ocs with
    | .error error => .error error
    | .ok current =>
      match checkSuccession current record with
      | some reason => .error (.valueError reason)
      | none => .ok ()

/-- `self._records[id] = persisted; self._current[ocs] = id`. -/
def install (core : StateCore P) (record persisted : StateRecord P) : StateCore P :=
  { core with
    records := core.records.insert record.stateId persisted
    currentIds := core.currentIds.insert record.ocs record.stateId }

/-- The storing half of `write` without a port. -/
def storeInMemory (core : StateCore P) (record : StateRecord P)
    (readbackCheck : ReadbackCheck P) :
    StateCore P × Except PyError (StateRecord P) :=
  let stored := { core with records := core.records.insert record.stateId record }
  match readbackCheck record with
  | .error error => (stored, .error error)
  | .ok false =>
    ({ stored with records := stored.records.erase record.stateId },
      .error (.runtimeError "state_readback_failed"))
  | .ok true => (stored.install record record, .ok record)

/-- The comparison of the persisted record with the requested one. -/
def checkPersisted (codec : StateCodec P) (record persisted : StateRecord P)
    (readbackCheck : ReadbackCheck P) : Except PyError Unit :=
  if persisted.stateId ≠ record.stateId ∨ persisted.ocs ≠ record.ocs ∨
      persisted.version ≠ record.version ∨
      persisted.predecessor ≠ record.predecessor ∨
      codec.recordHash persisted ≠ codec.recordHash record then
    .error (.runtimeError "state_readback_failed")
  else
    match readbackCheck persisted with
    | .error error => .error error
    | .ok false => .error (.runtimeError "state_readback_failed")
    | .ok true => .ok ()

/-- The storing half of `write` with a port. -/
def storeDurably (codec : StateCodec P) (core : StateCore P)
    (database : StateDatabase P) (record : StateRecord P)
    (readbackCheck : ReadbackCheck P) :
    StateCore P × Except PyError (StateRecord P) :=
  match database.write codec record with
  | .error error => (core, .error error)
  | .ok written =>
    let rejected := { core with persistence := some (written.delete record.stateId) }
    match written.readFresh codec record.stateId with
    | .error error => (rejected, .error error)
    | .ok persisted =>
      match checkPersisted codec record persisted readbackCheck with
      | .error error => (rejected, .error error)
      | .ok () =>
        ({ core with persistence := some written }.install record persisted,
          .ok persisted)

def write (codec : StateCodec P) (core : StateCore P) (record : StateRecord P)
    (readbackCheck : ReadbackCheck P) (context : WriteContext) :
    StateCore P × Except PyError (StateRecord P) :=
  match core.checkWrite codec record context with
  | .error error => (core, .error error)
  | .ok () =>
    match core.persistence with
    | none => core.storeInMemory record readbackCheck
    | some database => core.storeDurably codec database record readbackCheck

/-- `recovery:{checkpoint_id}:{version}`. -/
def recoveryId (checkpointId : String) (version : ℕ) : String :=
  s!"recovery:{checkpointId}:{version}"

/-- The checks of `restore_verified` on the checkpoint's source record. -/
def checkSource (codec : StateCodec P) (core : StateCore P)
    (checkpoint : VerifiedCheckpoint P) : Except String (StateRecord P) :=
  if !checkpoint.state.verified then .error "verified_checkpoint_required"
  else
    match core.records.lookup checkpoint.state.stateId with
    | none => .error "verified_checkpoint_source_missing"
    | some source =>
      if !source.verified then .error "verified_checkpoint_source_not_verified"
      else if codec.casefold source.ocs ≠ codec.casefold checkpoint.state.ocs then
        .error "verified_checkpoint_source_ocs_mismatch"
      else
        match codec.recordHash source, codec.recordHash checkpoint.state with
        | some sourceHash, some checkpointHash =>
          if sourceHash ≠ checkpointHash then
            .error "verified_checkpoint_source_mismatch"
          else .ok source
        | _, _ => .error "state_payload_not_serializable"

/-- The record `restore_verified` writes on top of the current one. -/
def restoredRecord (checkpointId : String) (source : StateRecord P)
    (current : Option (StateRecord P)) : StateRecord P :=
  let version := current.elim 1 (·.version + 1)
  { source with
    stateId := recoveryId checkpointId version
    version := version
    predecessor := current.map (·.stateId)
    verified := true }

/-- The checks of `restore_verified` and the record it goes on to write. -/
def restoreTarget (codec : StateCodec P) (core : StateCore P)
    (checkpoint : VerifiedCheckpoint P) : Except PyError (StateRecord P) :=
  match core.checkSource codec checkpoint with
  | .error reason => .error (.valueError reason)
  | .ok source =>
    match core.current checkpoint.state.ocs with
    | .error error => .error error
    | .ok current => .ok (restoredRecord checkpoint.checkpointId source current)

/-- The keyword arguments with which `restore_verified` writes. -/
def restoreContext (restored : StateRecord P) : WriteContext :=
  { actorOcsId := some restored.ocs
    targetNamespace := some (stateNamespace restored.ocs "recovery")
    stateRef := some restored.stateId
    authorityContext := some "recovery:verified-checkpoint:provenance-bound" }

def restoreVerified [DecidableEq P] (codec : StateCodec P) (core : StateCore P)
    (checkpoint : VerifiedCheckpoint P) :
    StateCore P × Except PyError (StateRecord P) :=
  match core.restoreTarget codec checkpoint with
  | .error error => (core, .error error)
  | .ok restored =>
    core.write codec restored (fun stored => .ok (stored = restored))
      (restoreContext restored)

end StateCore

/-! ## Trace core -/

structure TraceCore where
  events : List TraceEvent
  failNextAppend : Bool
  failNextPreflight : Bool
  failNextFinalization : Bool
  deriving DecidableEq, Repr

namespace TraceCore

def empty : TraceCore := ⟨[], false, false, false⟩

def append (trace : TraceCore) (event : TraceEvent) :
    TraceCore × Except PyError Unit :=
  if trace.failNextAppend then
    ({ trace with failNextAppend := false },
      .error (.runtimeError "trace_append_failed"))
  else if event.predecessor ≠ trace.events.getLast?.map (·.eventId) then
    (trace, .error (.valueError "trace_predecessor_mismatch"))
  else ({ trace with events := trace.events ++ [event] }, .ok ())

def appendStage (trace : TraceCore) (eventId actionId stage : String)
    (details : Details) : TraceCore × Except PyError Unit :=
  if stage = "TRACE_CLOSE" ∧ trace.failNextFinalization then
    ({ trace with failNextFinalization := false },
      .error (.runtimeError "trace_finalization_failed"))
  else
    trace.append
      { eventId := eventId
        actionId := actionId
        stage := stage
        predecessor := trace.events.getLast?.map (·.eventId)
        details := details }

def preflightGate (trace : TraceCore) : TraceCore × Except PyError Unit :=
  if trace.failNextPreflight then
    ({ trace with failNextPreflight := false },
      .error (.runtimeError "trace_preflight_failed"))
  else (trace, .ok ())

def preflight (trace : TraceCore) (eventId actionId : String) (details : Details) :
    TraceCore × Except PyError Unit :=
  match trace.preflightGate with
  | (trace, .error error) => (trace, .error error)
  | (trace, .ok ()) => trace.appendStage eventId actionId "TRACE_PREFLIGHT" details

/-- The loop of `chain_is_valid`, from the predecessor it expects next. -/
def chainFrom : Option String → List TraceEvent → Bool
  | _, [] => true
  | predecessor, event :: events =>
    if event.predecessor ≠ predecessor then false
    else chainFrom (some event.eventId) events

def chainIsValid (trace : TraceCore) : Bool := chainFrom none trace.events

end TraceCore

end ReisOs.Kernel
