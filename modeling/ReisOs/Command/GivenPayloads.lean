import ReisOs.Command.EventStore

/-!
# Payloads as they are given

A payload may hold any value that `json.dumps` writes.  Some of them are read back as
others: a tuple is written like a list, and a number that is a key like its text.
-/

namespace ReisOs.Command

open ReisOs.Core

/-- A value that `json.dumps` writes with its keys sorted.  Dictionaries have no order, so
their fields stand in the order of their keys; one with numbers for keys has at least one,
as the empty one has no keys of either kind. -/
inductive Data (N : Type) where
  | null
  | bool (value : Bool)
  | number (value : N)
  | string (value : String)
  | list (items : List (Data N))
  | tuple (items : List (Data N))
  | dict (fields : List (String × Data N))
  | numbered (key : ℤ) (value : Data N) (fields : List (ℤ × Data N))

namespace Data

variable {N : Type}

mutual

/-- What the value is written as. -/
def json : Data N → Json N
  | .null => .null
  | .bool value => .bool value
  | .number value => .number value
  | .string value => .string value
  | .list items => .array (jsonItems items)
  | .tuple items => .array (jsonItems items)
  | .dict fields => .object (jsonFields fields)
  | .numbered key value fields =>
    .object ((toString key, value.json) :: jsonNumbered fields)

def jsonItems : List (Data N) → List (Json N)
  | [] => []
  | item :: items => item.json :: jsonItems items

def jsonFields : List (String × Data N) → List (String × Json N)
  | [] => []
  | (key, value) :: fields => (key, value.json) :: jsonFields fields

def jsonNumbered : List (ℤ × Data N) → List (String × Json N)
  | [] => []
  | (key, value) :: fields => (toString key, value.json) :: jsonNumbered fields

end

mutual

/-- What `json.loads` reads. -/
def ofJson : Json N → Data N
  | .null => .null
  | .bool value => .bool value
  | .number value => .number value
  | .string value => .string value
  | .array items => .list (ofItems items)
  | .object fields => .dict (ofFields fields)

def ofItems : List (Json N) → List (Data N)
  | [] => []
  | item :: items => ofJson item :: ofItems items

def ofFields : List (String × Json N) → List (String × Data N)
  | [] => []
  | (key, value) :: fields => (key, ofJson value) :: ofFields fields

end

mutual

/-- Without tuples and without numbers for keys. -/
def isPlain : Data N → Bool
  | .list items => arePlain items
  | .tuple _ => false
  | .dict fields => fieldsPlain fields
  | .numbered _ _ _ => false
  | _ => true

def arePlain : List (Data N) → Bool
  | [] => true
  | item :: items => item.isPlain && arePlain items

def fieldsPlain : List (String × Data N) → Bool
  | [] => true
  | (_, value) :: fields => value.isPlain && fieldsPlain fields

end

mutual

/-- Whether `hash` of the value raises no error. -/
def isHashable : Data N → Bool
  | .list _ => false
  | .tuple items => areHashable items
  | .dict _ => false
  | .numbered _ _ _ => false
  | _ => true

def areHashable : List (Data N) → Bool
  | [] => true
  | item :: items => item.isHashable && areHashable items

end

mutual

theorem json_ofJson : ∀ value : Json N, (ofJson value).json = value
  | .null => rfl
  | .bool _ => rfl
  | .number _ => rfl
  | .string _ => rfl
  | .array items => congrArg Json.array (jsonItems_ofItems items)
  | .object fields => congrArg Json.object (jsonFields_ofFields fields)

theorem jsonItems_ofItems : ∀ items : List (Json N), jsonItems (ofItems items) = items
  | [] => rfl
  | item :: items => by
    rw [ofItems, jsonItems, json_ofJson item, jsonItems_ofItems items]

theorem jsonFields_ofFields : ∀ fields : List (String × Json N),
    jsonFields (ofFields fields) = fields
  | [] => rfl
  | (key, value) :: fields => by
    rw [ofFields, jsonFields, json_ofJson value, jsonFields_ofFields fields]

end

mutual

theorem ofJson_json : ∀ value : Data N, ofJson value.json = value ↔ value.isPlain = true
  | .null => by simp [json, ofJson, isPlain]
  | .bool _ => by simp [json, ofJson, isPlain]
  | .number _ => by simp [json, ofJson, isPlain]
  | .string _ => by simp [json, ofJson, isPlain]
  | .list items => by
    rw [json, ofJson, isPlain, ← ofItems_jsonItems items]
    exact ⟨Data.list.inj, congrArg Data.list⟩
  | .tuple _ => by simp [json, ofJson, isPlain]
  | .dict fields => by
    rw [json, ofJson, isPlain, ← ofFields_jsonFields fields]
    exact ⟨Data.dict.inj, congrArg Data.dict⟩
  | .numbered _ _ _ => by simp [json, ofJson, isPlain]

theorem ofItems_jsonItems : ∀ items : List (Data N),
    ofItems (jsonItems items) = items ↔ arePlain items = true
  | [] => by simp [jsonItems, ofItems, arePlain]
  | item :: items => by
    rw [jsonItems, ofItems, arePlain, Bool.and_eq_true, ← ofJson_json item,
      ← ofItems_jsonItems items, List.cons.injEq]

theorem ofFields_jsonFields : ∀ fields : List (String × Data N),
    ofFields (jsonFields fields) = fields ↔ fieldsPlain fields = true
  | [] => by simp [jsonFields, ofFields, fieldsPlain]
  | (key, value) :: fields => by
    rw [jsonFields, ofFields, fieldsPlain, Bool.and_eq_true, ← ofJson_json value,
      ← ofFields_jsonFields fields, List.cons.injEq, Prod.mk.injEq, eq_self, true_and]

end

/-- `value in {…}` for a set of texts. -/
def isOneOf (texts : List String) : Option (Data N) → Except EventError Bool
  | some (.string value) => .ok (texts.contains value)
  | some value => if value.isHashable then .ok false else .error .typeError
  | none => .ok false

end Data

/-- An event as it is given to `append`: its form once it is written, and its payload. -/
structure GivenEvent (N : Type) where
  form : CommandEvent N
  payload : Dict String (Data N)
  written : form.payload = payload.mapValues Data.json

namespace GivenEvent

variable {N : Type}

/-- An event of the columns of another one. -/
def ofColumns (columns : CommandEvent N) (payload : Dict String (Data N)) : GivenEvent N :=
  ⟨{ columns with payload := payload.mapValues Data.json }, payload, rfl⟩

def validate (library : Library N) (event : GivenEvent N) : Except EventError Unit :=
  if event.form.required.any isBlankText then
    .error (.validation "command_event_required_field_missing")
  else if event.form.sequence < 1 then
    .error (.validation "command_event_sequence_invalid")
  else if event.form.occurredAt.utcoffset = none then
    .error (.validation "command_event_occurred_at_must_be_timezone_aware")
  else if ["unknown", "", "unspecified"].contains (library.casefold event.form.source) then
    .error (.validation "command_event_source_unknown")
  else if event.form.contaminated then
    .error (.validation "command_event_cross_ocs_contamination")
  else
    match Data.isOneOf ["verified", "assured"] (event.payload.lookup "claim_state") with
    | .error error => .error error
    | .ok claimed =>
      if claimed ∧ event.form.evidenceRefs = [] then
        .error (.validation "command_event_claim_requires_evidence")
      else .ok ()

/-- A row as `_row_to_event` reads it. -/
def ofRow (row : CommandEvent N) : GivenEvent N where
  form := row
  payload := row.payload.mapValues Data.ofJson
  written := by
    rw [Dict.mapValues_mapValues, Dict.mapValues_eq Data.json_ofJson]

/-- What the table has of the event beside the payload. -/
def columns (event : GivenEvent N) : CommandEvent N :=
  { event.form.persisted with payload := ∅ }

/-- Equal as events; times are equal if they are the same instant. -/
structure Same (event other : GivenEvent N) : Prop where
  columns : event.columns = other.columns
  payload : ∀ key, event.payload.lookup key = other.payload.lookup key

def IsPlain (event : GivenEvent N) : Prop :=
  ∀ key value, event.payload.lookup key = some value → value.isPlain = true

theorem Same.trans {first second third : GivenEvent N} (h : first.Same second)
    (hnext : second.Same third) : first.Same third where
  columns := h.columns.trans hnext.columns
  payload key := (h.payload key).trans (hnext.payload key)

end GivenEvent

end ReisOs.Command
