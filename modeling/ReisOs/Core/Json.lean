/-!
# JSON values

Values as a JSON document holds them, over an arbitrary type of numbers, and the
accessors a decoder uses.  A tuple is written as an array.
-/

namespace ReisOs.Core

inductive Json (N : Type) where
  | null
  | bool (value : Bool)
  | number (value : N)
  | string (value : String)
  | array (items : List (Json N))
  | object (fields : List (String × Json N))

namespace Json

variable {N A : Type}

/-- Induction over a document: what holds of all parts holds of the whole. -/
@[elab_as_elim]
theorem induction {motive : Json N → Prop} (null : motive .null)
    (bool : ∀ value, motive (.bool value)) (number : ∀ value, motive (.number value))
    (string : ∀ value, motive (.string value))
    (array : ∀ items, (∀ item ∈ items, motive item) → motive (.array items))
    (object : ∀ fields, (∀ field ∈ fields, motive field.2) → motive (.object fields))
    (json : Json N) : motive json := by
  apply @Json.rec N motive (fun items => ∀ item ∈ items, motive item)
    (fun fields => ∀ field ∈ fields, motive field.2) (fun field => motive field.2)
  · exact null
  · exact bool
  · exact number
  · exact string
  · exact array
  · exact object
  · exact fun _ hitem => absurd hitem List.not_mem_nil
  · intro head tail hhead htail item hitem
    rcases List.mem_cons.mp hitem with rfl | hmem
    · exact hhead
    · exact htail item hmem
  · exact fun _ hfield => absurd hfield List.not_mem_nil
  · intro head tail hhead htail field hfield
    rcases List.mem_cons.mp hfield with rfl | hmem
    · exact hhead
    · exact htail field hmem
  · exact fun _ _ hvalue => hvalue

/-- The value of a key. -/
def field (name : String) : Json N → Option (Json N)
  | .object fields => (fields.find? fun field => field.1 == name).map Prod.snd
  | _ => none

def asBool : Json N → Option Bool
  | .bool value => some value
  | _ => none

def asNumber : Json N → Option N
  | .number value => some value
  | _ => none

def asString : Json N → Option String
  | .string value => some value
  | _ => none

def asArray : Json N → Option (List (Json N))
  | .array items => some items
  | _ => none

/-- An array whose items are all read by `decode`. -/
def asList (decode : Json N → Option A) (json : Json N) : Option (List A) :=
  json.asArray.bind fun items => items.mapM decode

/-- The value of a key that may be left out. -/
def fieldOr (name : String) (decode : Json N → Option A) (default : A) (json : Json N) :
    Option A :=
  match json.field name with
  | none => some default
  | some value => decode value

/-- The value of a key that has to be there. -/
def fieldAs (name : String) (decode : Json N → Option A) (json : Json N) : Option A :=
  (json.field name).bind decode

theorem fieldAs_of_field {name : String} {decode : Json N → Option A} {json value : Json N}
    (h : json.field name = some value) : json.fieldAs name decode = decode value := by
  rw [fieldAs, h, Option.bind_some]

theorem asList_array {decode : Json N → Option A} {encode : A → Json N}
    (hdecode : ∀ value, decode (encode value) = some value) (values : List A) :
    (Json.array (values.map encode)).asList decode = some values := by
  change (values.map encode).mapM decode = some values
  induction values with
  | nil => rfl
  | cons value values ih =>
    rw [List.map_cons, List.mapM_cons, hdecode, ih]
    rfl

end Json

end ReisOs.Core
