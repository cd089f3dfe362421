import Mathlib.Data.List.Dedup
import ReisOs.GovernanceRefactor.ScopedStore

/-!
# Projections of the governance store

`GovernanceCommandViews`: four queries that read the records or the events of one
organization through the scopes.  The clock is an argument, which stands for `now` or for
the current time.
-/

namespace ReisOs.GovernanceRefactor

open ReisOs.Core ReisOs.Core.JsonText

/-! ## Requests -/

structure CandidateFilter where
  recordType : Option String := none
  missionId : Option String := none
  ocsId : Option String := none
  deriving DecidableEq, Repr

/-- `CandidateFilter.validate`. -/
def CandidateFilter.validate (filters : CandidateFilter) : Except GovernanceError Unit :=
  if filters.recordType.any fun recordType => recordType ∉ allowedRecordTypes then
    .error (.projection "candidate_record_type_not_allowed")
  else if filters.missionId.any isBlankText then
    .error (.projection "candidate_mission_id_invalid")
  else if filters.ocsId.any isBlankText then
    .error (.projection "candidate_ocs_id_invalid")
  else .ok ()

/-- `_validate_request`. -/
def validateRequest (organizationId : String) (filters : CandidateFilter)
    (cursor limit : ℤ) : Except GovernanceError Unit :=
  if isBlankText organizationId then
    .error (.projection "candidate_organization_id_invalid")
  else if cursor < 0 then .error (.projection "candidate_cursor_invalid")
  else if ¬(1 ≤ limit ∧ limit ≤ 100) then .error (.projection "candidate_limit_invalid")
  else filters.validate

/-! ## Answers -/

/-- `_health`. -/
inductive Health where
  | available | unavailable | error | incompatible
  deriving DecidableEq, Repr

/-- `_source`. -/
structure Source where
  health : Health
  schemaVersion : Option String
  truthRole : String
  duplicatesCommandEventTruth : Bool
  deriving DecidableEq, Repr

def source (health : Health) : Source where
  health
  schemaVersion := if health = .available then some schemaVersion else none
  truthRole := "governance_candidate_store"
  duplicatesCommandEventTruth := false

/-- `_boundary`. -/
structure Boundary where
  candidateIsAuthority : Bool := false
  requestedIsExecuted : Bool := false
  executedIsVerified : Bool := false
  verifiedIsAssured : Bool := false
  unknownIsZero : Bool := false
  noDataIsHealthy : Bool := false
  deriving DecidableEq, Repr

structure CandidateItem (N : Type) where
  position : ℕ
  recordType : String
  recordId : String
  schemaVersion : String
  payloadHash : String
  payload : PyValue N
  sourceRefs : PyValue N
  provenanceRefs : PyValue N
  writtenAt : String
  freshness : String
  claimState : String

structure EventItem where
  position : ℕ
  eventId : String
  recordType : String
  recordId : String
  eventType : String
  payloadHash : String
  occurredAt : String
  deriving DecidableEq, Repr

/-- A page of items; only an empty one has the cursor. -/
structure Page (A : Type) where
  items : List A
  count : ℕ
  nextCursor : Option ℕ
  cursor : Option ℤ
  source : Source
  epistemicBoundary : Boundary

/-- `_empty`. -/
def Page.empty {A : Type} (health : Health) (cursor : ℤ) : Page A :=
  ⟨[], 0, none, some cursor, GovernanceRefactor.source health, {}⟩

structure Summary where
  countsByType : List (String × ℕ)
  total : Option ℕ
  source : Source
  epistemicBoundary : Boundary
  deriving DecidableEq, Repr

/-! ## Rows -/

section Rows

variable {N : Type} (library : Library N)

namespace Library

mutual

/-- `left == right`. -/
def equal : PyValue N → PyValue N → Bool
  | .none, .none => true
  | .bool left, .bool right => left = right
  | .bool left, .number right => library.sameNumber (library.ofBool left) right
  | .number left, .bool right => library.sameNumber left (library.ofBool right)
  | .number left, .number right => library.sameNumber left right
  | .string left, .string right => left = right
  | .list left, .list right => equalItems left right
  | .dict left, .dict right => left.length = right.length && equalFields left right
  | _, _ => false

def equalItems : List (PyValue N) → List (PyValue N) → Bool
  | [], [] => true
  | left :: lefts, right :: rights => equal left right && equalItems lefts rights
  | _, _ => false

def equalFields : Fields N → Fields N → Bool
  | [], _ => true
  | (key, left) :: lefts, rights =>
    (match rights.find? (·.1 = key) with
      | some right => equal left right.2
      | none => false) &&
      equalFields lefts rights

end

/-- `json.loads`, or the exception it raises. -/
def parse (text : List Char) : Except GovernanceError (PyValue N) :=
  match library.loads text with
  | none => .error .jsonDecodeError
  | some value => .ok value

/-- `payload.get(key, default)`. -/
def get (payload : PyValue N) (key : String) (default : PyValue N) :
    Except GovernanceError (PyValue N) :=
  match payload with
  | .dict fields => .ok (((fields.find? (·.1 = key)).map Prod.snd).getD default)
  | _ => .error .attributeError

/-- `_verify_hash`. -/
def verifyHash (payloadJson : List Char) (expected : String) : Except GovernanceError Unit :=
  if library.sha256 payloadJson ≠ expected then
    .error (.projection "candidate_projection_hash_mismatch")
  else .ok ()

/-- One round of `_verify_evidence_envelope`. -/
def verifyRefs (payload : PyValue N) (key : String) (column : List Char) :
    Except GovernanceError Unit := do
  let stored ← library.parse column
  let embedded ← get payload key (.list [])
  if library.equal stored embedded then .ok ()
  else .error (.projection "candidate_evidence_envelope_mismatch")

/-- `_verify_evidence_envelope`. -/
def verifyEvidenceEnvelope (payload : PyValue N) (sourceRefs provenanceRefs : List Char) :
    Except GovernanceError Unit := do
  library.verifyRefs payload "source_refs" sourceRefs
  library.verifyRefs payload "provenance_refs" provenanceRefs

/-- `_observed_at`. -/
def observedAt (payload : PyValue N) (fallback : String) :
    Except GovernanceError (Option Moment) := do
  let value ← get payload "observed_at" (.string fallback)
  match library.fromisoformat (library.strOf value) with
  | none => return none
  | some parsed => return if parsed.utcoffset = none then none else some parsed

end Library

/-- The time of an aware `datetime`, in microseconds. -/
def Moment.instant (moment : Moment) : ℤ := moment.microseconds - moment.utcoffset.getD 0

/-- `_freshness`. -/
def freshness (observed : Option Moment) (now : Moment) : Except GovernanceError String :=
  match observed with
  | none => .ok "unknown"
  | some observed =>
    if now.utcoffset = none then
      .error (.projection "timezone_aware_timestamp_required")
    else
      let age := now.instant - observed.instant
      if age < 0 then .ok "unknown"
      else if age ≤ 300 * 1000000 then .ok "current"
      else .ok "stale"

/-- `_record`. -/
def candidateItem (row : RecordRow) (now : Moment) :
    Except GovernanceError (CandidateItem N) := do
  library.verifyHash row.payloadJson row.payloadHash
  let payload ← library.parse row.payloadJson
  library.verifyEvidenceEnvelope payload row.sourceRefsJson row.provenanceRefsJson
  let observed ← library.observedAt payload row.writtenAt
  let sourceRefs ← library.parse row.sourceRefsJson
  let provenanceRefs ← library.parse row.provenanceRefsJson
  let freshness ← freshness observed now
  return ⟨row.position, row.recordType, row.recordId, row.schemaVersion, row.payloadHash,
    payload, sourceRefs, provenanceRefs, row.writtenAt, freshness, "candidate"⟩

/-- `_event`. -/
def eventItem (row : EventRow) : Except GovernanceError EventItem := do
  library.verifyHash row.payloadJson row.payloadHash
  let payload ← library.parse row.payloadJson
  library.verifyEvidenceEnvelope payload row.sourceRefsJson row.provenanceRefsJson
  return ⟨row.position, row.eventId, row.recordType, row.recordId, row.eventType,
    row.payloadHash, row.occurredAt⟩

end Rows

/-! ## Queries -/

/-- The rows that the scopes join to an organization. -/
def Database.joined {R : Type} (database : Database) (key : R → Key) (rows : List R)
    (organizationId : String) : List R :=
  rows.flatMap fun row =>
    (database.scopes.filter fun scope =>
      scope.key = key row ∧ scope.organizationId = organizationId).map fun _ => row

def Database.joinedRecords (database : Database) (organizationId : String) :
    List RecordRow :=
  database.joined RecordRow.key database.records organizationId

def Database.joinedEvents (database : Database) (organizationId : String) : List EventRow :=
  database.joined EventRow.key database.events organizationId

/-- `ORDER BY ... ASC`. -/
def ascending {A K : Type} [LinearOrder K] (column : A → K) (rows : List A) : List A :=
  rows.insertionSort fun left right => column left ≤ column right

section Views

variable {N : Type} (library : Library N)

/-- The `WHERE` clause of `list_candidates`. -/
def selects (filters : CandidateFilter) (cursor : ℤ) (row : RecordRow) : Bool :=
  cursor < row.position && row.recordType ∈ allowedRecordTypes &&
    filters.recordType.all (row.recordType = ·) &&
    filters.missionId.all (library.jsonExtract row.payloadJson "$.mission_id" = some ·) &&
    filters.ocsId.all (library.jsonExtract row.payloadJson "$.ocs_id" = some ·)

/-- `list_candidates`. -/
def listCandidates (database : Database) (health : Health) (organizationId : String)
    (filters : CandidateFilter) (cursor limit : ℤ) (now : Moment) :
    Except GovernanceError (Page (CandidateItem N)) := do
  validateRequest organizationId filters cursor limit
  if health ≠ .available then return .empty health cursor
  let rows := (ascending RecordRow.position
    ((database.joinedRecords organizationId).filter (selects library filters cursor))).take
      (limit + 1).toNat
  let items ← rows.mapM fun row => candidateItem library row now
  let selected := items.take limit.toNat
  return {
    items := selected
    count := selected.length
    nextCursor :=
      if limit < items.length then selected.getLast?.map CandidateItem.position else none
    cursor := none
    source := source health
    epistemicBoundary := {} }

/-- `get_candidate`. -/
def getCandidate (database : Database) (health : Health)
    (organizationId recordType recordId : String) (now : Moment) :
    Except GovernanceError (CandidateItem N) := do
  validateRequest organizationId { recordType := some recordType } 0 1
  if isBlankText recordId then
    .error (.projection "candidate_record_id_invalid")
  else if health ≠ .available then
    .error (.projection "candidate_projection_unavailable")
  else
    match (database.joinedRecords organizationId).filter
        (·.key = (recordType, recordId, schemaVersion)) with
    | [] => .error (.projection "candidate_record_not_found")
    | row :: _ => candidateItem library row now

/-- `events`. -/
def events (database : Database) (health : Health) (organizationId : String)
    (cursor limit : ℤ) : Except GovernanceError (Page EventItem) := do
  validateRequest organizationId {} cursor limit
  if health ≠ .available then return .empty health cursor
  let rows := (ascending EventRow.position
    ((database.joinedEvents organizationId).filter fun row =>
      cursor < row.position ∧ row.recordType ∈ allowedRecordTypes)).take (limit + 1).toNat
  let items ← (rows.take limit.toNat).mapM (eventItem library)
  return {
    items
    count := items.length
    nextCursor := if limit < rows.length then items.getLast?.map EventItem.position else none
    cursor := none
    source := source health
    epistemicBoundary := {} }

/-- `summary`. -/
def summary (database : Database) (health : Health) (organizationId : String) :
    Except GovernanceError Summary := do
  validateRequest organizationId {} 0 100
  if health ≠ .available then return ⟨[], none, source health, {}⟩
  let types := ((database.joinedRecords organizationId).map RecordRow.recordType).filter
    (· ∈ allowedRecordTypes)
  let counts := (ascending id types.dedup).map fun recordType =>
    (recordType, types.count recordType)
  return ⟨counts, some ((counts.map Prod.snd).foldr (· + ·) 0), source health, {}⟩

end Views

end ReisOs.GovernanceRefactor
