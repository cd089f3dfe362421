import ReisOs.Core.Documents
import ReisOs.Core.Fallible
import ReisOs.Core.Runs
import ReisOs.Core.TextLines
import ReisOs.Kernel.Identity

/-!
# The file of an identity audit log

`IdentityAuditLog` with its file: every event is one line of JSON, and a log opened on
the file reads its lines and checks their chain.  Numbers are an arbitrary type with an
embedding of the integers, and the SHA-256 digest of a text is a parameter.
-/

namespace ReisOs.Kernel.AuditFile

open ReisOs.Core ReisOs.Core.JsonText

/-- Python's numbers, as texts have them. -/
structure Numbers (N : Type) where
  format : NumberFormat N
  ofInt : ℤ → N
  toInt : N → Option ℤ
  toInt_ofInt : ∀ value, toInt (ofInt value) = some value

variable {N : Type}

abbrev Fields (N : Type) := List (String × PyValue N)

/-! ## Events -/

/-- The part of an event its hash covers; the binding and the details are
dictionaries. -/
structure IdentityLogBase (N : Type) where
  sequence : ℤ
  eventType : String
  runId : String
  ocsId : String
  binding : Fields N
  details : Fields N
  predecessorHash : Option String

structure IdentityLogEvent (N : Type) extends IdentityLogBase N where
  eventHash : String

def textOrNone : Option String → PyValue N
  | none => .none
  | some text => .string text

/-- `asdict(binding)`, with the value of its status. -/
def bindingData (clock : Time → N) (binding : ActiveIdentityBinding) : Fields N :=
  [("run_id", .string binding.runId),
    ("ocs_canonical_name", .string binding.ocsCanonicalName),
    ("ocs_id", .string binding.ocsId),
    ("institution", .string binding.institution),
    ("lineage_ref", .string binding.lineageRef),
    ("identity_ref", .string binding.identityRef),
    ("constitution_ref", .string binding.constitutionRef),
    ("csp_ref", .string binding.cspRef),
    ("host", .string binding.host),
    ("session_context", .string binding.sessionContext),
    ("state_namespace", .string binding.stateNamespace),
    ("memory_namespace", .string binding.memoryNamespace),
    ("authority_envelope_ref", .string binding.authorityEnvelopeRef),
    ("profile_version", .string binding.profileVersion),
    ("bound_at", .number (clock binding.boundAt)),
    ("status", .string (match binding.status with
      | .valid => "valid"
      | .hold => "hold")),
    ("hold_reason", textOrNone binding.holdReason)]

section Log

variable (numbers : Numbers N)

def basePayload (base : IdentityLogBase N) : Fields N :=
  [("sequence", .number (numbers.ofInt base.sequence)),
    ("event_type", .string base.eventType),
    ("run_id", .string base.runId),
    ("ocs_id", .string base.ocsId),
    ("binding", .dict base.binding),
    ("details", .dict base.details),
    ("predecessor_hash", textOrNone base.predecessorHash)]

/-- `asdict(event)`. -/
def eventData (event : IdentityLogEvent N) : Fields N :=
  basePayload numbers event.toIdentityLogBase ++ [("event_hash", .string event.eventHash)]

/-- `dumps(..., sort_keys=True, ensure_ascii=False)` in either style. -/
def dumps (style : Style) (fields : Fields N) : List Char :=
  write numbers.format style (PyValue.dict fields).document

/-- `loads`. -/
def loads (line : List Char) : Option (PyValue N) :=
  (read numbers.format line).map PyValue.ofJson

variable (digest : List Char → String)

/-- `_hash_payload`. -/
def hashPayload (base : IdentityLogBase N) : String :=
  digest (dumps numbers .compact (basePayload numbers base))

/-- The check of `chain_is_valid` from a position on. -/
def chainIsValidFrom : ℤ → Option String → List (IdentityLogEvent N) → Bool
  | _, _, [] => true
  | sequence, predecessor, event :: events =>
    event.sequence = sequence && event.predecessorHash = predecessor &&
      hashPayload numbers digest event.toIdentityLogBase = event.eventHash &&
      chainIsValidFrom (sequence + 1) (some event.eventHash) events

def chainIsValid (events : List (IdentityLogEvent N)) : Bool :=
  chainIsValidFrom numbers digest 1 none events

end Log

/-! ## Appending and loading -/

/-- A log and the text of its file.  A file that does not exist is an empty one. -/
structure IdentityAuditLog (N : Type) where
  events : List (IdentityLogEvent N)
  text : List Char

def IdentityAuditLog.empty : IdentityAuditLog N := ⟨[], []⟩

/-- The arguments of a call of `append`. -/
structure AppendCall (N : Type) where
  eventType : String
  binding : ActiveIdentityBinding
  details : Fields N

inductive LoadError where
  | jsonDecodeError | malformedEvent | integrityFailed
  deriving DecidableEq, Repr

section Methods

variable (numbers : Numbers N) (clock : Time → N) (digest : List Char → String)

def append (log : IdentityAuditLog N) (call : AppendCall N) : IdentityAuditLog N :=
  let base : IdentityLogBase N :=
    { sequence := log.events.length + 1
      eventType := call.eventType
      runId := call.binding.runId
      ocsId := call.binding.ocsId
      binding := bindingData clock call.binding
      details := call.details
      predecessorHash := log.events.getLast?.map (·.eventHash) }
  let event : IdentityLogEvent N := { base with eventHash := hashPayload numbers digest base }
  { events := log.events ++ [event]
    text := log.text ++ (dumps numbers .spaced (eventData numbers event) ++ ['\n']) }

def asInt : PyValue N → Option ℤ
  | .number value => numbers.toInt value
  | _ => none

def asText : PyValue N → Option String
  | .string value => some value
  | _ => none

def asTextOrNone : PyValue N → Option (Option String)
  | .none => some none
  | .string value => some (some value)
  | _ => none

def asDict : PyValue N → Option (Fields N)
  | .dict fields => some fields
  | _ => none

/-- The event of a line's data.  A member of a type that no written line has is an
error here. -/
def eventOf (data : PyValue N) : Option (IdentityLogEvent N) := do
  let sequence ← (data.item "sequence").bind (asInt numbers)
  let eventType ← (data.item "event_type").bind asText
  let runId ← (data.item "run_id").bind asText
  let ocsId ← (data.item "ocs_id").bind asText
  let binding ← (data.item "binding").bind asDict
  let details ← (data.item "details").bind asDict
  let predecessorHash ← (data.item "predecessor_hash").bind asTextOrNone
  let eventHash ← (data.item "event_hash").bind asText
  return ⟨⟨sequence, eventType, runId, ocsId, binding, details, predecessorHash⟩, eventHash⟩

/-- `str.isspace` of a character. -/
def isSpace (c : Char) : Bool :=
  isBlank c || isLineBreak c ||
    c ∈ ['\x1f', '\xa0', '\u1680', '\u202f', '\u205f', '\u3000'] ||
    ('\u2000' ≤ c && c ≤ '\u200a')

def loadLine (line : List Char) : Except LoadError (IdentityLogEvent N) :=
  match loads numbers line with
  | none => .error .jsonDecodeError
  | some data =>
    match eventOf numbers data with
    | none => .error .malformedEvent
    | some event => .ok event

/-- The loop of `_load`. -/
def loadLines : List (List Char) → Except LoadError (List (IdentityLogEvent N))
  | [] => .ok []
  | line :: lines =>
    if line.all isSpace then loadLines lines
    else do
      let event ← loadLine numbers line
      let events ← loadLines lines
      return event :: events

/-- A log opened on a file: `_load`.  The translation of newlines on reading breaks lines
where `splitlines` does anyway. -/
def load (text : List Char) : Except LoadError (IdentityAuditLog N) := do
  let events ← loadLines numbers (splitlines text)
  if !chainIsValid numbers digest events then .error .integrityFailed
  else return ⟨events, text⟩

end Methods

end ReisOs.Kernel.AuditFile
