import ReisOs.Core.Dict
import ReisOs.Core.Json
import ReisOs.Kernel.AuditFile

/-!
# Command events

The events of the command log and their validation.  A payload is what its JSON text is
read back to.
-/

namespace ReisOs.Command

open ReisOs.Core

/-- The class of an exception and its message. -/
inductive EventError where
  | validation (message : String)
  | store (message : String)
  | typeError
  | overflow
  deriving DecidableEq, Repr

/-- `Freshness`. -/
inductive Freshness where
  | live | recent | stale | unknown
  deriving DecidableEq, Repr

def Freshness.value : Freshness → String
  | live => "live"
  | recent => "recent"
  | stale => "stale"
  | unknown => "unknown"

/-- A `datetime`, in microseconds of its own clock; a naive one has no offset. -/
structure Timestamp where
  microseconds : ℤ
  utcoffset : Option ℤ
  deriving DecidableEq, Repr

/-- What is used of Python's library: `str`, `str.casefold`, and `isoformat` of a
timestamp in UTC where the calendar has it. -/
structure Library (N : Type) where
  str : Json N → String
  casefold : String → String
  utcText : Timestamp → Option String

/-- A library for events of ASCII texts. -/
def asciiLibrary : Library ℕ where
  str json := json.asString.getD ""
  casefold := id
  utcText _ := some "t"

/-- A dictionary with texts for keys. -/
abbrev Mapping (N : Type) := Dict String (Json N)

structure CommandEvent (N : Type) where
  eventId : String
  eventType : String
  schemaVersion : String
  occurredAt : Timestamp
  source : String
  sourceVersion : String
  institutionId : String
  ocsId : Option String
  projectId : Option String
  runId : Option String
  causationId : Option String
  correlationId : Option String
  sequence : ℤ
  idempotencyKey : String
  freshness : Freshness
  evidenceRefs : List String
  payload : Mapping N

variable {N : Type}

/-- `not value.strip()`. -/
def isBlankText (value : String) : Bool := value.toList.all Kernel.AuditFile.isSpace

/-- `value in {…}` for a set of texts; lists and dictionaries have no hash. -/
def isOneOf (texts : List String) : Option (Json N) → Except EventError Bool
  | some (.string value) => .ok (texts.contains value)
  | some (.array _) => .error .typeError
  | some (.object _) => .error .typeError
  | _ => .ok false

namespace CommandEvent

/-- The texts that `validate` requires. -/
def required (event : CommandEvent N) : List String :=
  [event.eventId, event.eventType, event.schemaVersion, event.source, event.sourceVersion,
    event.institutionId, event.idempotencyKey]

/-- `target_ocs is not None and target_ocs != self.ocs_id`. -/
def contaminated (event : CommandEvent N) : Bool :=
  match event.payload.lookup "target_ocs_id" with
  | none => false
  | some .null => false
  | some (.string target) => some target ≠ event.ocsId
  | some _ => true

def validate (library : Library N) (event : CommandEvent N) : Except EventError Unit :=
  if event.required.any isBlankText then
    .error (.validation "command_event_required_field_missing")
  else if event.sequence < 1 then .error (.validation "command_event_sequence_invalid")
  else if event.occurredAt.utcoffset = none then
    .error (.validation "command_event_occurred_at_must_be_timezone_aware")
  else if ["unknown", "", "unspecified"].contains (library.casefold event.source) then
    .error (.validation "command_event_source_unknown")
  else if event.contaminated then
    .error (.validation "command_event_cross_ocs_contamination")
  else
    match isOneOf ["verified", "assured"] (event.payload.lookup "claim_state") with
    | .error error => .error error
    | .ok claimed =>
      if claimed ∧ event.evidenceRefs = [] then
        .error (.validation "command_event_claim_requires_evidence")
      else .ok ()

/-- `occurred_at_utc`. -/
def occurredAtUtc (library : Library N) (event : CommandEvent N) :
    Except EventError String :=
  match library.utcText event.occurredAt with
  | none => .error .overflow
  | some text => .ok text

/-- What events number their sequences by: the source, institution, OCS and run. -/
abbrev Stream := String × String × Option String × Option String

def stream (event : CommandEvent N) : Stream :=
  (event.source, event.institutionId, event.ocsId, event.runId)

theorem one_le_sequence {library : Library N} {event : CommandEvent N}
    (h : event.validate library = .ok ()) : 1 ≤ event.sequence := by
  by_contra hless
  have hsequence : event.sequence < 1 := by omega
  rw [validate] at h
  by_cases hblank : event.required.any isBlankText = true
  · rw [if_pos hblank] at h
    cases h
  · rw [if_neg hblank, if_pos hsequence] at h
    cases h

end CommandEvent

/-- A valid event of an institution, with no OCS. -/
def institutionEvent (eventId idempotencyKey : String) (payload : Mapping ℕ) :
    CommandEvent ℕ where
  eventId
  eventType := "e"
  schemaVersion := "1"
  occurredAt := ⟨0, some 0⟩
  source := "s"
  sourceVersion := "1"
  institutionId := "i"
  ocsId := none
  projectId := none
  runId := none
  causationId := none
  correlationId := none
  sequence := 1
  idempotencyKey
  freshness := .live
  evidenceRefs := []
  payload

end ReisOs.Command
