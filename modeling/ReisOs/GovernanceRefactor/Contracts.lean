import ReisOs.Core.Documents
import ReisOs.Kernel.AuditFile

/-!
# Governance candidates

The candidate records that governance may append, each a dataclass of its own, and what
`asdict` and `_normalize` make of them.  What is computed of numbers, times and digests
is a parameter.
-/

namespace ReisOs.GovernanceRefactor

open ReisOs.Core ReisOs.Core.JsonText

abbrev Fields (N : Type) := List (String × PyValue N)

/-- A `datetime`, in microseconds of its own clock; a naive one has no offset. -/
structure Moment where
  microseconds : ℤ
  utcoffset : Option ℤ
  deriving DecidableEq, Repr

/-- What is used of Python's and SQLite's libraries; `jsonExtract` has an answer where
the member is a text. -/
structure Library (N : Type) where
  format : NumberFormat N
  sameNumber : N → N → Bool
  ofBool : Bool → N
  str : PyValue N → String
  isoformat : Moment → String
  fromisoformat : String → Option Moment
  sha256 : List Char → String
  jsonExtract : List Char → String → Option String

/-- `not text.strip()`. -/
def isBlankText (text : String) : Bool := text.toList.all Kernel.AuditFile.isSpace

/-- `SCHEMA_VERSION`. -/
def schemaVersion : String := "governance-candidate-v0.1"

/-! ## Records -/

/-- The values that records hold. -/
inductive Value (N : Type) where
  | none
  | bool (value : Bool)
  | number (value : N)
  | string (value : String)
  | datetime (value : Moment)
  | enum (value : String)
  | tuple (items : List (Value N))
  | dataclass (fields : List (String × Value N))

/-- A record by the name of its dataclass, with its fields. -/
structure CandidateRecord (N : Type) where
  recordType : String
  fields : List (String × Value N)

/-- `ALLOWED_RECORD_TYPES`. -/
def allowedRecordTypes : List String :=
  ["MissionMetricsRecord", "GatePerformanceRecord", "QualityApplicabilityMatrix",
    "QualityDomainAssessment", "QualityEvidenceBundle", "PromotionReadinessState",
    "FounderApprovalDecision", "RefactorEvent", "IntegrationCapabilityRecord",
    "AgentAvailabilityContract", "ChatInstitutionalRoutingContract",
    "AuxiliaryAgentEvidenceContract"]

/-- The attribute that `record_id` returns for a type of record. -/
def recordIdField (recordType : String) : String :=
  if recordType = "MissionMetricsRecord" then "record_id"
  else if recordType = "GatePerformanceRecord" then "gate_id"
  else if recordType = "QualityApplicabilityMatrix" then "matrix_id"
  else if recordType = "QualityDomainAssessment" then "assessment_id"
  else if recordType = "QualityEvidenceBundle" then "bundle_id"
  else if recordType = "PromotionReadinessState" then "readiness_id"
  else if recordType = "FounderApprovalDecision" then "decision_id"
  else if recordType = "RefactorEvent" then "refactor_id"
  else if recordType = "IntegrationCapabilityRecord" then "integration_id"
  else if recordType = "AgentAvailabilityContract" then "contract_id"
  else if recordType = "ChatInstitutionalRoutingContract" then "route_id"
  else "evidence_id"

/-- `record_id`; identifiers are strings. -/
def CandidateRecord.recordId {N : Type} (record : CandidateRecord N) : Option String :=
  match record.fields.lookup (recordIdField record.recordType) with
  | some (.string identifier) => some identifier
  | _ => none

/-! ## Payloads -/

namespace Library

variable {N : Type} (library : Library N)

mutual

/-- `_normalize`. -/
def normalize : Value N → PyValue N
  | .none => .none
  | .bool value => .bool value
  | .number value => .number value
  | .string value => .string value
  | .datetime value => .string (library.isoformat value)
  | .enum value => .string value
  | .tuple items => .list (normalizeItems items)
  | .dataclass fields => .dict (normalizeFields fields)

def normalizeItems : List (Value N) → List (PyValue N)
  | [] => []
  | item :: items => normalize item :: normalizeItems items

def normalizeFields : List (String × Value N) → Fields N
  | [] => []
  | (key, value) :: fields => (key, normalize value) :: normalizeFields fields

end

/-- `_normalize(asdict(record))`. -/
def payload (record : CandidateRecord N) : Fields N := library.normalizeFields record.fields

/-- `str(value)`. -/
def strOf : PyValue N → String
  | .string value => value
  | value => library.str value

/-- `_refs`. -/
def refs (payload : Fields N) (key : String) : List String :=
  match payload.lookup key with
  | some (.list items) => items.map library.strOf
  | _ => []

/-- `_canonical_json`. -/
def canonicalJson (value : PyValue N) : List Char :=
  write library.format .compact value.document

/-- `json.loads`. -/
def loads (text : List Char) : Option (PyValue N) :=
  (read library.format text).map PyValue.ofJson

/-- A list of references as it is stored. -/
def refsJson (refs : List String) : List Char :=
  library.canonicalJson (.list (refs.map .string))

end Library

/-! ### References -/

section References

variable {N : Type} {library : Library N}

/-- The strings of a list that has nothing else. -/
def asRefs : PyValue N → Option (List String)
  | .list items => items.mapM fun item =>
    match item with
    | .string value => some value
    | _ => none
  | _ => none

theorem loads_refsJson (refs : List String) :
    library.loads (library.refsJson refs) =
      some (.list (refs.map PyValue.string : List (PyValue N))) := by
  have hitems : (refs.map PyValue.string : List (PyValue N)).map PyValue.document =
      refs.map Json.string := by
    rw [List.map_map]
    apply List.map_congr_left
    intro ref _
    rfl
  rw [Library.loads, Library.refsJson, Library.canonicalJson, read_write, Option.map_some,
    PyValue.document, PyValue.itemDocuments_eq_map, hitems, PyValue.ofJson,
    PyValue.ofItems_eq_map, List.map_map]
  rfl

theorem asRefs_list (refs : List String) :
    asRefs (.list (refs.map PyValue.string : List (PyValue N))) = some refs := by
  change (refs.map PyValue.string : List (PyValue N)).mapM _ = some refs
  induction refs with
  | nil => rfl
  | cons ref refs ih =>
    rw [List.map_cons, List.mapM_cons, ih]
    rfl

end References

end ReisOs.GovernanceRefactor
