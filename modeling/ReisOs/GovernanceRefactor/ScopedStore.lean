import ReisOs.Core.Runs
import ReisOs.Core.Scripts
import ReisOs.GovernanceRefactor.Contracts

/-!
# The scoped governance store

`ScopedGovernanceStore.append` on the tables of the migrated schema.  It is one
transaction of several statements, any of which may fail; `failing` is the number of the
one that does.
-/

namespace ReisOs.GovernanceRefactor

open ReisOs.Core ReisOs.Core.JsonText

inductive GovernanceError where
  | projection (code : String)
  | attributeError
  | jsonDecodeError
  | integrityError
  deriving DecidableEq, Repr

/-! ## Tables -/

/-- A record type, a record id and a schema version. -/
abbrev Key := String × String × String

structure RecordRow where
  position : ℕ
  recordType : String
  recordId : String
  schemaVersion : String
  payloadJson : List Char
  payloadHash : String
  sourceRefsJson : List Char
  provenanceRefsJson : List Char
  writtenAt : String
  deriving DecidableEq, Repr

structure EventRow where
  position : ℕ
  eventId : String
  recordType : String
  recordId : String
  schemaVersion : String
  eventType : String
  payloadHash : String
  payloadJson : List Char
  sourceRefsJson : List Char
  provenanceRefsJson : List Char
  occurredAt : String
  deriving DecidableEq, Repr

structure ScopeRow where
  organizationId : String
  recordType : String
  recordId : String
  schemaVersion : String
  boundAt : String
  deriving DecidableEq, Repr

def RecordRow.key (row : RecordRow) : Key := (row.recordType, row.recordId, row.schemaVersion)

def EventRow.key (row : EventRow) : Key := (row.recordType, row.recordId, row.schemaVersion)

def ScopeRow.key (row : ScopeRow) : Key := (row.recordType, row.recordId, row.schemaVersion)

structure Database where
  records : List RecordRow
  events : List EventRow
  scopes : List ScopeRow
  deriving DecidableEq, Repr

namespace Database

/-- The tables as the migration creates them. -/
def empty : Database := ⟨[], [], []⟩

/-- The record of a key with the organization it is bound to, if any. -/
def existing (database : Database) (key : Key) : Option (RecordRow × Option String) :=
  (database.records.find? (·.key = key)).map fun row =>
    (row, (database.scopes.find? (·.key = row.key)).map ScopeRow.organizationId)

/-- `INSERT INTO governance_candidate_records`, whose positions are unique, as are its
keys. -/
def insertRecord (row : RecordRow) (database : Database) :
    Database × Except GovernanceError Unit :=
  if database.records.any fun old => old.position = row.position ∨ old.key = row.key then
    (database, .error .integrityError)
  else ({ database with records := database.records ++ [row] }, .ok ())

/-- `INSERT INTO governance_candidate_events`, whose positions are unique, as are its
event ids. -/
def insertEvent (row : EventRow) (database : Database) :
    Database × Except GovernanceError Unit :=
  if database.events.any fun old => old.position = row.position ∨ old.eventId = row.eventId
  then (database, .error .integrityError)
  else ({ database with events := database.events ++ [row] }, .ok ())

/-- `INSERT INTO governance_candidate_scopes`, whose keys are unique with or without the
organization. -/
def insertScope (row : ScopeRow) (database : Database) :
    Database × Except GovernanceError Unit :=
  if database.scopes.any fun old => old.key = row.key then
    (database, .error .integrityError)
  else ({ database with scopes := database.scopes ++ [row] }, .ok ())

end Database

/-- `_next_position`. -/
def nextPosition (positions : List ℕ) : ℕ := positions.foldr max 0 + 1

/-! ## Appending -/

structure AppendCall (N : Type) where
  record : CandidateRecord N
  organizationId : String
  occurredAt : Moment
  failing : Option ℕ

/-- What `append` computes of its arguments before the transaction. -/
structure Envelope where
  organizationId : String
  recordType : String
  recordId : String
  schemaVersion : String
  payloadJson : List Char
  payloadHash : String
  sourceRefs : List String
  provenanceRefs : List String
  timestamp : String
  eventId : String
  deriving DecidableEq, Repr

structure Receipt where
  recordType : String
  recordId : String
  payloadHash : String
  organizationId : String
  replayed : Bool
  deriving DecidableEq, Repr

namespace Envelope

def key (envelope : Envelope) : Key :=
  (envelope.recordType, envelope.recordId, envelope.schemaVersion)

def receipt (envelope : Envelope) (replayed : Bool) : Receipt :=
  ⟨envelope.recordType, envelope.recordId, envelope.payloadHash, envelope.organizationId,
    replayed⟩

end Envelope

section Append

variable {N : Type} (library : Library N)

/-- The checks and the values of `append` up to its transaction. -/
def prepare (call : AppendCall N) : Except GovernanceError Envelope :=
  if isBlankText call.organizationId then
    .error (.projection "candidate_organization_id_invalid")
  else if call.occurredAt.utcoffset = none then
    .error (.projection "timezone_aware_timestamp_required")
  else
    let payload := library.payload call.record
    let version := library.strOf ((payload.lookup "schema_version").getD (.string ""))
    if version ≠ schemaVersion then
      .error (.projection "candidate_schema_version_incompatible")
    else if call.record.recordType ∉ allowedRecordTypes then
      .error (.projection "candidate_record_type_not_allowed")
    else
      match call.record.recordId with
      | none => .error .attributeError
      | some identifier =>
        let payloadJson := library.canonicalJson (.dict payload)
        let payloadHash := library.sha256 payloadJson
        let recordType := call.record.recordType
        .ok
          { organizationId := call.organizationId
            recordType
            recordId := identifier
            schemaVersion := version
            payloadJson
            payloadHash
            sourceRefs := library.refs payload "source_refs"
            provenanceRefs := library.refs payload "provenance_refs"
            timestamp := library.isoformat call.occurredAt
            eventId := library.sha256
              s!"{recordType}:{identifier}:{version}:{payloadHash}".toList }

def recordRow (position : ℕ) (envelope : Envelope) : RecordRow where
  position
  recordType := envelope.recordType
  recordId := envelope.recordId
  schemaVersion := envelope.schemaVersion
  payloadJson := envelope.payloadJson
  payloadHash := envelope.payloadHash
  sourceRefsJson := library.refsJson envelope.sourceRefs
  provenanceRefsJson := library.refsJson envelope.provenanceRefs
  writtenAt := envelope.timestamp

def eventRow (position : ℕ) (envelope : Envelope) : EventRow where
  position
  eventId := envelope.eventId
  recordType := envelope.recordType
  recordId := envelope.recordId
  schemaVersion := envelope.schemaVersion
  eventType := "CANDIDATE_RECORD_APPENDED"
  payloadHash := envelope.payloadHash
  payloadJson := envelope.payloadJson
  sourceRefsJson := library.refsJson envelope.sourceRefs
  provenanceRefsJson := library.refsJson envelope.provenanceRefs
  occurredAt := envelope.timestamp

def scopeRow (envelope : Envelope) : ScopeRow where
  organizationId := envelope.organizationId
  recordType := envelope.recordType
  recordId := envelope.recordId
  schemaVersion := envelope.schemaVersion
  boundAt := envelope.timestamp

/-- `json.loads(stored) != refs` raises. -/
def checkRefs (stored : List Char) (refs : List String) : Except GovernanceError Unit :=
  match library.loads stored with
  | none => .error .jsonDecodeError
  | some value =>
    if asRefs value = some refs then .ok ()
    else .error (.projection "candidate_evidence_envelope_mismatch")

/-- `_replay`. -/
def replay (row : RecordRow) (owner : Option String) (envelope : Envelope) :
    Except GovernanceError Receipt :=
  match owner with
  | none => .error (.projection "candidate_unscoped_record_conflict")
  | some organizationId =>
    if organizationId ≠ envelope.organizationId then
      .error (.projection "candidate_scope_conflict")
    else if row.payloadHash ≠ envelope.payloadHash then
      .error (.projection "candidate_append_conflict")
    else do
      checkRefs library row.sourceRefsJson envelope.sourceRefs
      checkRefs library row.provenanceRefsJson envelope.provenanceRefs
      return ⟨row.recordType, row.recordId, envelope.payloadHash, envelope.organizationId,
        true⟩

/-- The statements of `append`, from `BEGIN IMMEDIATE` to the commit. -/
def statements (envelope : Envelope) : Script Database GovernanceError Receipt := do
  let _ ← Script.read fun _ => ()
  let existing ← Script.read fun database => database.existing envelope.key
  match existing with
  | some (row, owner) =>
    match replay library row owner envelope with
    | .error error => Script.raise error
    | .ok receipt =>
      let _ ← Script.read fun _ => ()
      return receipt
  | none =>
    let recordPosition ← Script.read fun database =>
      nextPosition (database.records.map RecordRow.position)
    let eventPosition ← Script.read fun database =>
      nextPosition (database.events.map EventRow.position)
    let _ ← Script.act (Database.insertRecord (recordRow library recordPosition envelope))
    let _ ← Script.act (Database.insertEvent (eventRow library eventPosition envelope))
    let _ ← Script.act (Database.insertScope (scopeRow envelope))
    let _ ← Script.read fun _ => ()
    return envelope.receipt false

/-- `append`: the database it leaves, with its receipt or its error; a failing statement
leaves neither. -/
def append (database : Database) (call : AppendCall N) :
    Database × Option (Except GovernanceError Receipt) :=
  match prepare library call with
  | .error error => (database, some (.error error))
  | .ok envelope => (statements library envelope).transact call.failing database

/-- The database after a sequence of calls. -/
def stored (calls : List (AppendCall N)) : Database :=
  run (fun database call => (append library database call).1) .empty calls

end Append

end ReisOs.GovernanceRefactor
