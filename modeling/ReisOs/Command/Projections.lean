import ReisOs.Command.Events

/-!
# The projections of the command log

`CommandProjector` folds the log into one state.  An entry of the state is a dictionary
made of the event's provenance and of the data in its payload, the latter on top.
-/

namespace ReisOs.Command

open ReisOs.Core

variable {N : Type}

/-- `ProjectionState`. -/
structure ProjectionState (N : Type) where
  institution : Mapping N
  ocs : Dict String (Mapping N)
  operations : Dict String (Mapping N)
  gates : Dict String (Mapping N)
  events : List (Mapping N)
  evidence : Dict String (Mapping N)
  systemHealth : Mapping N
  maps : Dict String (Mapping N)

/-- A text, or null. -/
def optionalText : Option String → Json N
  | none => .null
  | some text => .string text

/-- A state without events. -/
def ProjectionState.init : ProjectionState N where
  institution := ∅
  ocs := ∅
  operations := ∅
  gates := ∅
  events := []
  evidence := ∅
  systemHealth := Dict.insertAll ∅
    [("status", .string "unknown"), ("freshness", .string Freshness.unknown.value),
      ("evidence_refs", .array [])]
  maps := ∅

namespace CommandEvent

/-- The fields of `common` that say where an entry comes from; the UTC text is given. -/
def provenance (event : CommandEvent N) (occurredAt : String) : List (String × Json N) :=
  [("event_id", .string event.eventId), ("source", .string event.source),
    ("source_version", .string event.sourceVersion),
    ("freshness", .string event.freshness.value),
    ("evidence_refs", .array (event.evidenceRefs.map .string)),
    ("occurred_at", .string occurredAt)]

/-- `common`. -/
def common (event : CommandEvent N) (occurredAt : String) : Mapping N :=
  Dict.insertAll ∅ (event.provenance occurredAt ++
    [("event_type", .string event.eventType),
      ("correlation_id", optionalText event.correlationId),
      ("causation_id", optionalText event.causationId)])

/-- `kind`, where it is a text. -/
def kind (event : CommandEvent N) : Option String :=
  (event.payload.lookup "projection").bind Json.asString

/-- `data`; what is no dictionary counts as an empty one. -/
def data (event : CommandEvent N) : List (String × Json N) :=
  match event.payload.lookup "data" with
  | some (.object fields) => fields
  | _ => []

/-- `data.get(name)`. -/
def datum (event : CommandEvent N) (name : String) : Option (Json N) :=
  (event.data.find? fun field => field.1 = name).map Prod.snd

/-- `str(data.get(name, event.event_id))`. -/
def dataKey (library : Library N) (event : CommandEvent N) (name : String) : String :=
  library.str ((event.datum name).getD (.string event.eventId))

/-- `event.run_id or event.project_id or event.event_id`. -/
def operationKey (event : CommandEvent N) : String :=
  if event.runId.getD "" ≠ "" then event.runId.getD ""
  else if event.projectId.getD "" ≠ "" then event.projectId.getD ""
  else event.eventId

/-- The status of a health event, which needs evidence. -/
def status (library : Library N) (event : CommandEvent N) : String :=
  let status := library.str ((event.datum "status").getD (.string "unknown"))
  if event.evidenceRefs = [] ∧ status ≠ "unknown" then "unknown" else status

end CommandEvent

/-- `apply`. -/
def ProjectionState.apply (library : Library N) (state : ProjectionState N)
    (event : CommandEvent N) : Except EventError (ProjectionState N) :=
  match event.occurredAtUtc library with
  | .error error => .error error
  | .ok occurredAt =>
    let common := event.common occurredAt
    let payload := event.payload.entries.map fun entry => (entry.1, entry.2)
    let state := { state with
      events := state.events ++ [common.insertAll [("payload", .object payload)]] }
    let entry := common.insertAll event.data
    if event.kind = some "institution" then .ok { state with institution := entry }
    else if event.kind = some "ocs" then
      match event.ocsId with
      | none => .ok state
      | some ocsId => .ok { state with ocs := state.ocs.insert ocsId entry }
    else if event.kind = some "operation" then
      .ok { state with operations := state.operations.insert event.operationKey entry }
    else if event.kind = some "gate" then
      .ok { state with
        gates := state.gates.insert (event.dataKey library "gate_id") entry }
    else
      match isOneOf ["evidence", "receipt"] (event.payload.lookup "projection") with
      | .error error => .error error
      | .ok true =>
        .ok { state with
          evidence := state.evidence.insert (event.dataKey library "evidence_id")
            entry }
      | .ok false =>
        if event.kind = some "system_health" then
          .ok { state with
            systemHealth := entry.insert "status" (.string (event.status library)) }
        else if event.kind = some "map" then
          .ok { state with
            maps := state.maps.insert (event.dataKey library "map_id") entry }
        else .ok state

/-- `rebuild`. -/
def rebuild (library : Library N) (log : List (CommandEvent N)) :
    Except EventError (ProjectionState N) :=
  log.foldlM (ProjectionState.apply library) .init

end ReisOs.Command
