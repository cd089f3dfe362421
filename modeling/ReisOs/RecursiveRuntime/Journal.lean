import ReisOs.Core.AsciiText
import ReisOs.Core.Runs
import ReisOs.Kernel.AuditFile

/-!
# The durable journal

`DurableJournalRepository`: every record is one line of JSON in a file.  A record that is
put has a payload of tuples; the rows that are read back have lists in their place, and
`put` compares the one with the other.
-/

namespace ReisOs.RecursiveRuntime

open ReisOs.Core ReisOs.Core.JsonText

structure JournalRecord where
  journalId : String
  kind : String
  actorId : String
  traceId : String
  generation : ℤ
  fencingEpoch : ℤ
  status : String
  payload : List (String × String)
  deriving DecidableEq, Repr

/-- An item of a payload: a pair as it was put, or a list as it is read back. -/
inductive PayloadItem where
  | tuple (key value : String)
  | list (items : List String)
  deriving DecidableEq, Repr

/-- The dictionary of a line. -/
structure JournalRow where
  journalId : String
  kind : String
  actorId : String
  traceId : String
  generation : ℤ
  fencingEpoch : ℤ
  status : String
  payload : List PayloadItem
  deriving DecidableEq, Repr

/-- `Conflict`, or a line that cannot be read. -/
inductive JournalError where
  | conflict (message : String)
  | unreadable
  deriving DecidableEq, Repr

namespace JournalRecord

/-- The row with the given form of the payload. -/
def row (record : JournalRecord) (item : String × String → PayloadItem) : JournalRow :=
  { journalId := record.journalId
    kind := record.kind
    actorId := record.actorId
    traceId := record.traceId
    generation := record.generation
    fencingEpoch := record.fencingEpoch
    status := record.status
    payload := record.payload.map item }

/-- The `payload` of `put`, with `list(record.payload)` in it. -/
def fresh (record : JournalRecord) : JournalRow := record.row fun pair => .tuple pair.1 pair.2

/-- The record as it is read back, its payload in list form. -/
def stored (record : JournalRecord) : JournalRow := record.row fun pair => .list [pair.1, pair.2]

end JournalRecord

/-! ## Lines -/

namespace PayloadItem

def document : PayloadItem → Json ℤ
  | tuple key value => .array [.string key, .string value]
  | list items => .array (items.map .string)

def ofDocument (json : Json ℤ) : Option PayloadItem :=
  (json.asList Json.asString).map list

end PayloadItem

namespace JournalRow

/-- The row with its keys sorted. -/
def document (row : JournalRow) : Json ℤ :=
  .object [("actor_id", .string row.actorId),
    ("fencing_epoch", .number row.fencingEpoch),
    ("generation", .number row.generation),
    ("journal_id", .string row.journalId),
    ("kind", .string row.kind),
    ("payload", .array (row.payload.map PayloadItem.document)),
    ("status", .string row.status),
    ("trace_id", .string row.traceId)]

/-- The members of a decoded line, where they have the types that a written line has. -/
def ofDocument (json : Json ℤ) : Option JournalRow := do
  let journalId ← json.fieldAs "journal_id" Json.asString
  let kind ← json.fieldAs "kind" Json.asString
  let actorId ← json.fieldAs "actor_id" Json.asString
  let traceId ← json.fieldAs "trace_id" Json.asString
  let generation ← json.fieldAs "generation" Json.asNumber
  let fencingEpoch ← json.fieldAs "fencing_epoch" Json.asNumber
  let status ← json.fieldAs "status" Json.asString
  let payload ← json.fieldAs "payload" (Json.asList PayloadItem.ofDocument)
  return ⟨journalId, kind, actorId, traceId, generation, fencingEpoch, status, payload⟩

/-- `json.dumps(payload, sort_keys=True)`. -/
def dumps (row : JournalRow) : List Char := dumpsAscii integerFormat .spaced row.document

def loads (line : List Char) : Option JournalRow :=
  (loadsAscii integerFormat line).bind ofDocument

end JournalRow

/-! ## The repository -/

namespace DurableJournal

/-- `out[row["journal_id"]] = row`. -/
def setRow (rows : List JournalRow) (row : JournalRow) : List JournalRow :=
  if rows.any (·.journalId = row.journalId) then
    rows.map fun other => if other.journalId = row.journalId then row else other
  else rows ++ [row]

/-- The loop of `_load`. -/
def loadLines (rows : List JournalRow) : List (List Char) → Except JournalError (List JournalRow)
  | [] => .ok rows
  | line :: lines =>
    if line.all Kernel.AuditFile.isSpace then loadLines rows lines
    else
      match JournalRow.loads line with
      | none => .error .unreadable
      | some row => loadLines (setRow rows row) lines

/-- `_load`, of the text of the file; and `all`. -/
def load (text : List Char) : Except JournalError (List JournalRow) :=
  loadLines [] (splitlines text)

/-- `put`: the text afterwards, and the error if one is raised. -/
def put (text : List Char) (record : JournalRecord) :
    List Char × Except JournalError Unit :=
  match load text with
  | .error error => (text, .error error)
  | .ok rows =>
    match rows.find? (·.journalId = record.journalId) with
    | some existing =>
      if existing = record.fresh then (text, .ok ())
      else (text, .error (.conflict "JOURNAL_ID_CONFLICT"))
    | none => (text ++ (record.fresh.dumps ++ ['\n']), .ok ())

/-- A file, and the records that have been put without an error. -/
structure History where
  text : List Char
  accepted : List JournalRecord

/-- A repository object on the file puts a record. -/
def History.put (history : History) (record : JournalRecord) : History :=
  let answer := DurableJournal.put history.text record
  match answer.2 with
  | .error _ => { history with text := answer.1 }
  | .ok _ => ⟨answer.1, history.accepted ++ [record]⟩

/-- A new file and the puts of any number of repository objects. -/
def history (records : List JournalRecord) : History := run History.put ⟨[], []⟩ records

end DurableJournal

end ReisOs.RecursiveRuntime
