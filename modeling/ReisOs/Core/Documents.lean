import Mathlib.Data.List.Nodup
import Mathlib.Data.List.Sort
import Mathlib.Data.String.Basic
import ReisOs.Core.Journals
import ReisOs.Core.JsonChars

/-!
# Values and their documents

The values that a dynamically typed program hands to a JSON writer that sorts keys, and
the values it gets back from a reader.  A dictionary is written with its keys in the
order of the dictionary's own kind of key, as strings or as integers, and is read back
with strings; the two orders need not agree.
-/

namespace ReisOs.Core

/-- Values that can be written with sorted keys: the keys of a dictionary are all of one
kind. -/
inductive PyValue (N : Type) where
  | none
  | bool (value : Bool)
  | number (value : N)
  | string (value : String)
  | list (items : List (PyValue N))
  | dict (fields : List (String × PyValue N))
  | intDict (fields : List (ℤ × PyValue N))

namespace PyValue

variable {N V K : Type}

/-- Induction over a value: what holds of all parts holds of the whole. -/
@[elab_as_elim]
theorem induction {motive : PyValue N → Prop} (none : motive .none)
    (bool : ∀ value, motive (.bool value)) (number : ∀ value, motive (.number value))
    (string : ∀ value, motive (.string value))
    (list : ∀ items, (∀ item ∈ items, motive item) → motive (.list items))
    (dict : ∀ fields, (∀ field ∈ fields, motive field.2) → motive (.dict fields))
    (intDict : ∀ fields, (∀ field ∈ fields, motive field.2) → motive (.intDict fields))
    (value : PyValue N) : motive value := by
  apply @PyValue.rec N motive (fun items => ∀ item ∈ items, motive item)
    (fun fields => ∀ field ∈ fields, motive field.2)
    (fun fields => ∀ field ∈ fields, motive field.2) (fun field => motive field.2)
    (fun field => motive field.2)
  · exact none
  · exact bool
  · exact number
  · exact string
  · exact list
  · exact dict
  · exact intDict
  · exact fun _ hitem => absurd hitem List.not_mem_nil
  · intro head tail hhead htail item hitem
    rcases List.mem_cons.mp hitem with rfl | hmem
    · exact hhead
    · exact htail item hmem
  · exact fun _ hfield => absurd hfield List.not_mem_nil
  · intro head tail hhead htail field hfield
    rcases List.mem_cons.mp hfield with rfl | hmem
    · exact hhead
    · exact htail field hmem
  · exact fun _ hfield => absurd hfield List.not_mem_nil
  · intro head tail hhead htail field hfield
    rcases List.mem_cons.mp hfield with rfl | hmem
    · exact hhead
    · exact htail field hmem
  · exact fun _ _ hvalue => hvalue
  · exact fun _ _ hvalue => hvalue

/-! ## Writing -/

def keyOrder [LinearOrder K] (left right : K × V) : Prop := left.1 ≤ right.1

instance [LinearOrder K] : DecidableRel (keyOrder (K := K) (V := V)) := fun left right =>
  inferInstanceAs (Decidable (left.1 ≤ right.1))

/-- The members of an object in the order of their keys. -/
def sortKeys [LinearOrder K] (fields : List (K × V)) : List (K × V) :=
  fields.insertionSort keyOrder

mutual

/-- The document that is written of a value with sorted keys. -/
def document : PyValue N → Json N
  | .none => .null
  | .bool value => .bool value
  | .number value => .number value
  | .string value => .string value
  | .list items => .array (itemDocuments items)
  | .dict fields => .object (sortKeys (fieldDocuments fields))
  | .intDict fields =>
    .object ((sortKeys (intFieldDocuments fields)).map fun field =>
      (field.1.repr, field.2))

def itemDocuments : List (PyValue N) → List (Json N)
  | [] => []
  | item :: items => document item :: itemDocuments items

def fieldDocuments : List (String × PyValue N) → List (String × Json N)
  | [] => []
  | (key, value) :: fields => (key, document value) :: fieldDocuments fields

def intFieldDocuments : List (ℤ × PyValue N) → List (ℤ × Json N)
  | [] => []
  | (key, value) :: fields => (key, document value) :: intFieldDocuments fields

end

/-! ## Reading -/

/-- `fields[key] = value`. -/
def setItem (fields : List (String × V)) (field : String × V) : List (String × V) :=
  if fields.any fun old => old.1 = field.1 then
    fields.map fun old => if old.1 = field.1 then field else old
  else fields ++ [field]

/-- `dict(pairs)`. -/
def dictOf (pairs : List (String × V)) : List (String × V) := pairs.foldl setItem []

mutual

/-- The value of a document that has been read. -/
def ofJson : Json N → PyValue N
  | .null => .none
  | .bool value => .bool value
  | .number value => .number value
  | .string value => .string value
  | .array items => .list (ofItems items)
  | .object fields => .dict (dictOf (ofFields fields))

def ofItems : List (Json N) → List (PyValue N)
  | [] => []
  | item :: items => ofJson item :: ofItems items

def ofFields : List (String × Json N) → List (String × PyValue N)
  | [] => []
  | (key, value) :: fields => (key, ofJson value) :: ofFields fields

end

/-- The value that is read back for a written one. -/
def readBack (value : PyValue N) : PyValue N := ofJson (document value)

/-- The JSON normal form: keys are strings, in the order of strings. -/
def normalForm (value : PyValue N) : Json N := document (readBack value)

/-! ## Keys in order -/

mutual

/-- Read as strings, the keys of every dictionary come in the order in which they are
written. -/
def KeysInOrder : PyValue N → Prop
  | .none => True
  | .bool _ => True
  | .number _ => True
  | .string _ => True
  | .list items => ItemsInOrder items
  | .dict fields => (fields.map Prod.fst).Nodup ∧ FieldsInOrder fields
  | .intDict fields =>
    (((fields.map Prod.fst).insertionSort (· ≤ ·)).map Int.repr).Pairwise (· < ·) ∧
      IntFieldsInOrder fields

def ItemsInOrder : List (PyValue N) → Prop
  | [] => True
  | item :: items => KeysInOrder item ∧ ItemsInOrder items

def FieldsInOrder : List (String × PyValue N) → Prop
  | [] => True
  | (_, value) :: fields => KeysInOrder value ∧ FieldsInOrder fields

def IntFieldsInOrder : List (ℤ × PyValue N) → Prop
  | [] => True
  | (_, value) :: fields => KeysInOrder value ∧ IntFieldsInOrder fields

end

end PyValue

namespace Json

variable {N : Type}

mutual

/-- Every object lists its members in strictly increasing order of keys. -/
def KeysSorted : Json N → Prop
  | .null => True
  | .bool _ => True
  | .number _ => True
  | .string _ => True
  | .array items => ItemsSorted items
  | .object fields => (fields.map Prod.fst).Pairwise (· < ·) ∧ FieldsSorted fields

def ItemsSorted : List (Json N) → Prop
  | [] => True
  | item :: items => KeysSorted item ∧ ItemsSorted items

def FieldsSorted : List (String × Json N) → Prop
  | [] => True
  | (_, value) :: fields => KeysSorted value ∧ FieldsSorted fields

end

theorem itemsSorted_iff {items : List (Json N)} :
    ItemsSorted items ↔ ∀ item ∈ items, KeysSorted item := by
  induction items with
  | nil => simp [ItemsSorted]
  | cons item items ih => rw [ItemsSorted, ih, List.forall_mem_cons]

theorem fieldsSorted_iff {fields : List (String × Json N)} :
    FieldsSorted fields ↔ ∀ field ∈ fields, KeysSorted field.2 := by
  induction fields with
  | nil => simp [FieldsSorted]
  | cons field fields ih => rw [FieldsSorted, ih, List.forall_mem_cons]

end Json

namespace PyValue

variable {N V K : Type}

theorem itemsInOrder_iff {items : List (PyValue N)} :
    ItemsInOrder items ↔ ∀ item ∈ items, KeysInOrder item := by
  induction items with
  | nil => simp [ItemsInOrder]
  | cons item items ih => rw [ItemsInOrder, ih, List.forall_mem_cons]

theorem fieldsInOrder_iff {fields : List (String × PyValue N)} :
    FieldsInOrder fields ↔ ∀ field ∈ fields, KeysInOrder field.2 := by
  induction fields with
  | nil => simp [FieldsInOrder]
  | cons field fields ih => rw [FieldsInOrder, ih, List.forall_mem_cons]

theorem intFieldsInOrder_iff {fields : List (ℤ × PyValue N)} :
    IntFieldsInOrder fields ↔ ∀ field ∈ fields, KeysInOrder field.2 := by
  induction fields with
  | nil => simp [IntFieldsInOrder]
  | cons field fields ih => rw [IntFieldsInOrder, ih, List.forall_mem_cons]

theorem itemDocuments_eq_map (items : List (PyValue N)) :
    itemDocuments items = items.map document := by
  induction items with
  | nil => rfl
  | cons item items ih => rw [itemDocuments, List.map_cons, ih]

theorem fieldDocuments_eq_map (fields : List (String × PyValue N)) :
    fieldDocuments fields = fields.map fun field => (field.1, document field.2) := by
  induction fields with
  | nil => rfl
  | cons field fields ih => rw [fieldDocuments, List.map_cons, ih]

theorem intFieldDocuments_eq_map (fields : List (ℤ × PyValue N)) :
    intFieldDocuments fields = fields.map fun field => (field.1, document field.2) := by
  induction fields with
  | nil => rfl
  | cons field fields ih => rw [intFieldDocuments, List.map_cons, ih]

theorem ofItems_eq_map (items : List (Json N)) : ofItems items = items.map ofJson := by
  induction items with
  | nil => rfl
  | cons item items ih => rw [ofItems, List.map_cons, ih]

theorem ofFields_eq_map (fields : List (String × Json N)) :
    ofFields fields = fields.map fun field => (field.1, ofJson field.2) := by
  induction fields with
  | nil => rfl
  | cons field fields ih => rw [ofFields, List.map_cons, ih]

/-! ### Sorting -/

section Sorting

variable [LinearOrder K]

theorem perm_sortKeys (fields : List (K × V)) : (sortKeys fields).Perm fields :=
  List.perm_insertionSort keyOrder fields

theorem map_fst_sortKeys (fields : List (K × V)) :
    (sortKeys fields).map Prod.fst = (fields.map Prod.fst).insertionSort (· ≤ ·) :=
  List.map_insertionSort _ _ _ _ fun _ _ _ _ => Iff.rfl

theorem pairwise_lt_insertionSort_iff {keys : List K} :
    (keys.insertionSort (· ≤ ·)).Pairwise (· < ·) ↔ keys.Nodup := by
  have hperm := List.perm_insertionSort (· ≤ ·) keys
  have hsorted := List.pairwise_insertionSort (· ≤ ·) keys
  rw [← hperm.nodup_iff]
  constructor
  · exact fun h => h.imp fun hlt => hlt.ne
  · exact fun h => hsorted.imp₂ (fun _ _ hle hne => lt_of_le_of_ne hle hne) h

theorem sortKeys_of_sorted {fields : List (K × V)}
    (h : (fields.map Prod.fst).Pairwise (· < ·)) : sortKeys fields = fields := by
  apply List.Pairwise.insertionSort_eq
  exact (List.pairwise_map.mp h).imp fun hlt => hlt.le

end Sorting

/-! ### Dictionaries -/

variable {fields : List (String × V)}

theorem any_key_iff {key : String} :
    (fields.any fun old => old.1 = key) = true ↔ key ∈ fields.map Prod.fst := by
  simp

variable {field : String × V}

theorem setItem_new
    (h : field.1 ∉ fields.map Prod.fst) : setItem fields field = fields ++ [field] := by
  rw [setItem, if_neg]
  rw [any_key_iff]
  exact h

theorem map_fst_setItem_old
    (h : field.1 ∈ fields.map Prod.fst) :
    (setItem fields field).map Prod.fst = fields.map Prod.fst := by
  rw [setItem, if_pos (any_key_iff.mpr h), List.map_map]
  apply List.map_congr_left
  intro old _
  by_cases hkey : old.1 = field.1 <;> simp [hkey]

theorem nodup_setItem (h : (fields.map Prod.fst).Nodup)
    (field : String × V) : ((setItem fields field).map Prod.fst).Nodup := by
  by_cases hkey : field.1 ∈ fields.map Prod.fst
  · rw [map_fst_setItem_old hkey]
    exact h
  · rw [setItem_new hkey, List.map_append, List.map_singleton]
    exact List.Nodup.append h (List.nodup_singleton _) (List.disjoint_singleton.mpr hkey)

theorem nodup_dictOf (pairs : List (String × V)) :
    ((dictOf pairs).map Prod.fst).Nodup := by
  have hloop (fields : List (String × V)) (h : (fields.map Prod.fst).Nodup) :
      ((pairs.foldl setItem fields).map Prod.fst).Nodup := by
    induction pairs generalizing fields with
    | nil => exact h
    | cons pair pairs ih => exact ih _ (nodup_setItem h pair)
  exact hloop [] List.nodup_nil

theorem mem_setItem {found : String × V}
    (h : found ∈ setItem fields field) : found ∈ fields ∨ found = field := by
  by_cases hkey : field.1 ∈ fields.map Prod.fst
  · rw [setItem, if_pos (any_key_iff.mpr hkey)] at h
    obtain ⟨old, hold, rfl⟩ := List.mem_map.mp h
    by_cases hsame : old.1 = field.1
    · exact .inr (if_pos hsame)
    · rw [if_neg hsame]
      exact .inl hold
  · rw [setItem_new hkey, List.mem_append, List.mem_singleton] at h
    exact h

theorem mem_dictOf {pairs : List (String × V)} {found : String × V}
    (h : found ∈ dictOf pairs) : found ∈ pairs := by
  have hloop (fields : List (String × V)) (h : found ∈ pairs.foldl setItem fields) :
      found ∈ fields ∨ found ∈ pairs := by
    clear * - h
    induction pairs generalizing fields with
    | nil => exact .inl h
    | cons pair pairs ih =>
      rcases ih (setItem fields pair) h with hset | hrest
      · rcases mem_setItem hset with hold | rfl
        · exact .inl hold
        · exact .inr List.mem_cons_self
      · exact .inr (List.mem_cons_of_mem pair hrest)
  exact (hloop [] h).resolve_left List.not_mem_nil

theorem dictOf_of_nodup {pairs : List (String × V)} (h : (pairs.map Prod.fst).Nodup) :
    dictOf pairs = pairs := by
  have hloop (fields : List (String × V)) (h : ((fields ++ pairs).map Prod.fst).Nodup) :
      pairs.foldl setItem fields = fields ++ pairs := by
    clear * - h
    induction pairs generalizing fields with
    | nil => rw [List.append_nil, List.foldl_nil]
    | cons pair pairs ih =>
      have hnew : pair.1 ∉ fields.map Prod.fst := by
        rw [List.map_append, List.map_cons] at h
        intro hmem
        exact List.disjoint_of_nodup_append h hmem List.mem_cons_self
      rw [List.foldl_cons, setItem_new hnew, ih, List.append_assoc,
        List.singleton_append]
      rw [List.append_assoc]
      exact h
  exact hloop [] h

/-! ### Round trips -/

theorem keysSorted_document (value : PyValue N) :
    (document value).KeysSorted ↔ value.KeysInOrder := by
  induction value using PyValue.induction with
  | none => exact Iff.rfl
  | bool value => exact Iff.rfl
  | number value => exact Iff.rfl
  | string value => exact Iff.rfl
  | list items ih =>
    rw [document, Json.KeysSorted, Json.itemsSorted_iff, KeysInOrder, itemsInOrder_iff,
      itemDocuments_eq_map, List.forall_mem_map]
    exact forall₂_congr ih
  | dict fields ih =>
    have hkeys : (sortKeys (fieldDocuments fields)).map Prod.fst =
        (fields.map Prod.fst).insertionSort (· ≤ ·) := by
      rw [map_fst_sortKeys, fieldDocuments_eq_map, List.map_map]
      rfl
    rw [document, Json.KeysSorted, Json.fieldsSorted_iff, KeysInOrder, fieldsInOrder_iff,
      hkeys, pairwise_lt_insertionSort_iff]
    apply and_congr_right'
    have hmem (field : String × Json N) : field ∈ sortKeys (fieldDocuments fields) ↔
        field ∈ fieldDocuments fields := (perm_sortKeys _).mem_iff
    simp only [hmem]
    rw [fieldDocuments_eq_map, List.forall_mem_map]
    exact forall₂_congr ih
  | intDict fields ih =>
    have hkeys : ((sortKeys (intFieldDocuments fields)).map fun field =>
        (field.1.repr, field.2)).map Prod.fst =
          ((fields.map Prod.fst).insertionSort (· ≤ ·)).map Int.repr := by
      have hsorted : (sortKeys (intFieldDocuments fields)).map Prod.fst =
          (fields.map Prod.fst).insertionSort (· ≤ ·) := by
        rw [map_fst_sortKeys, intFieldDocuments_eq_map, List.map_map]
        rfl
      rw [← hsorted, List.map_map, List.map_map]
      rfl
    rw [document, Json.KeysSorted, Json.fieldsSorted_iff, KeysInOrder,
      intFieldsInOrder_iff, hkeys, List.forall_mem_map]
    apply and_congr_right'
    have hmem (field : ℤ × Json N) : field ∈ sortKeys (intFieldDocuments fields) ↔
        field ∈ intFieldDocuments fields := (perm_sortKeys _).mem_iff
    simp only [hmem]
    rw [intFieldDocuments_eq_map, List.forall_mem_map]
    exact forall₂_congr ih

/-- A document with sorted keys is written again as it was read. -/
theorem document_ofJson (json : Json N) (h : json.KeysSorted) :
    document (ofJson json) = json := by
  induction json using Json.induction with
  | null => rfl
  | bool value => rfl
  | number value => rfl
  | string value => rfl
  | array items ih =>
    rw [Json.KeysSorted, Json.itemsSorted_iff] at h
    have hitems : items.map (document ∘ ofJson) = items.map id :=
      List.map_congr_left fun item hitem => ih item hitem (h item hitem)
    rw [ofJson, document, ofItems_eq_map, itemDocuments_eq_map, List.map_map, hitems,
      List.map_id]
  | object fields ih =>
    rw [Json.KeysSorted, Json.fieldsSorted_iff] at h
    have hkeys : (ofFields fields).map Prod.fst = fields.map Prod.fst := by
      rw [ofFields_eq_map, List.map_map]
      rfl
    have hnodup : ((ofFields fields).map Prod.fst).Nodup := by
      rw [hkeys]
      exact h.1.imp fun hlt => hlt.ne
    have hfields : fieldDocuments (ofFields fields) = fields.map id := by
      rw [fieldDocuments_eq_map, ofFields_eq_map, List.map_map]
      apply List.map_congr_left
      intro field hfield
      exact Prod.ext rfl (ih field hfield (h.2 field hfield))
    rw [ofJson, document, dictOf_of_nodup hnodup, hfields, List.map_id,
      sortKeys_of_sorted h.1]

theorem keysSorted_document_ofJson (json : Json N) : (document (ofJson json)).KeysSorted := by
  rw [keysSorted_document]
  induction json using Json.induction with
  | null => trivial
  | bool value => trivial
  | number value => trivial
  | string value => trivial
  | array items ih =>
    rw [ofJson, KeysInOrder, itemsInOrder_iff, ofItems_eq_map, List.forall_mem_map]
    exact ih
  | object fields ih =>
    rw [ofJson, KeysInOrder, fieldsInOrder_iff]
    refine ⟨nodup_dictOf _, ?_⟩
    intro field hfield
    have hmem := mem_dictOf hfield
    rw [ofFields_eq_map] at hmem
    obtain ⟨old, hold, rfl⟩ := List.mem_map.mp hmem
    exact ih old hold

theorem keysInOrder_readBack (value : PyValue N) : (readBack value).KeysInOrder :=
  (keysSorted_document _).mp (keysSorted_document_ofJson _)

theorem document_readBack {value : PyValue N} (h : value.KeysInOrder) :
    document (readBack value) = document value :=
  document_ofJson _ ((keysSorted_document value).mpr h)

theorem normalForm_readBack (value : PyValue N) :
    normalForm (readBack value) = normalForm value :=
  document_readBack (keysInOrder_readBack value)

/-! ### Members -/

/-- `value[name]`. -/
def item (name : String) : PyValue N → Option (PyValue N)
  | .dict fields => (fields.find? (·.1 = name)).map Prod.snd
  | _ => Option.none

/-- The dictionary that is read back for a written one. -/
def reread (fields : List (String × PyValue N)) : List (String × PyValue N) :=
  dictOf (ofFields (sortKeys (fieldDocuments fields)))

theorem readBack_dict (fields : List (String × PyValue N)) :
    readBack (.dict fields) = .dict (reread fields) := rfl

theorem item_readBack {fields : List (String × PyValue N)} (h : (fields.map Prod.fst).Nodup)
    {name : String} {value : PyValue N} (hvalue : item name (.dict fields) = some value) :
    item name (readBack (.dict fields)) = some (readBack value) := by
  have hkeys : ((fieldDocuments fields).map Prod.fst).Nodup := by
    rw [fieldDocuments_eq_map, List.map_map]
    exact h
  have hperm := perm_sortKeys (fieldDocuments fields)
  have hread : reread fields = ofFields (sortKeys (fieldDocuments fields)) := by
    apply dictOf_of_nodup
    rw [ofFields_eq_map, List.map_map]
    exact (hperm.map Prod.fst).nodup_iff.mpr hkeys
  obtain ⟨field, hfield, rfl⟩ := Option.map_eq_some_iff.mp hvalue
  have hfound : (fieldDocuments fields).find? (·.1 = name) =
      some (field.1, document field.2) := by
    rw [fieldDocuments_eq_map, List.find?_map]
    exact congrArg (Option.map _) hfield
  have hsorted : (sortKeys (fieldDocuments fields)).find? (·.1 = name) =
      some (field.1, document field.2) := by
    rw [← hfound]
    exact find?_key_perm ((hperm.map Prod.fst).nodup_iff.mpr hkeys) hperm name
  rw [readBack_dict, item, hread, ofFields_eq_map, List.find?_map]
  exact congrArg (Option.map _) (congrArg (Option.map _) hsorted)

/-! ### Strings -/

mutual

/-- The strings and string keys of a value. -/
def strings : PyValue N → List String
  | .none => []
  | .bool _ => []
  | .number _ => []
  | .string value => [value]
  | .list items => itemStrings items
  | .dict fields => fieldStrings fields
  | .intDict fields => intFieldStrings fields

def itemStrings : List (PyValue N) → List String
  | [] => []
  | item :: items => strings item ++ itemStrings items

def fieldStrings : List (String × PyValue N) → List String
  | [] => []
  | (key, value) :: fields => key :: (strings value ++ fieldStrings fields)

def intFieldStrings : List (ℤ × PyValue N) → List String
  | [] => []
  | (_, value) :: fields => strings value ++ intFieldStrings fields

end

theorem mem_itemStrings {items : List (PyValue N)} {text : String} :
    text ∈ itemStrings items ↔ ∃ item ∈ items, text ∈ strings item := by
  induction items with
  | nil => simp [itemStrings]
  | cons item items ih => simp [itemStrings, ih]

theorem mem_fieldStrings {fields : List (String × PyValue N)} {text : String} :
    text ∈ fieldStrings fields ↔
      ∃ field ∈ fields, text = field.1 ∨ text ∈ strings field.2 := by
  induction fields with
  | nil => simp [fieldStrings]
  | cons field fields ih =>
    rw [fieldStrings, List.mem_cons, List.mem_append, ih]
    simp [or_assoc]

theorem mem_intFieldStrings {fields : List (ℤ × PyValue N)} {text : String} :
    text ∈ intFieldStrings fields ↔ ∃ field ∈ fields, text ∈ strings field.2 := by
  induction fields with
  | nil => simp [intFieldStrings]
  | cons field fields ih => simp [intFieldStrings, ih]

/-- A document has the strings of its value and the texts of its integer keys. -/
theorem strings_document (value : PyValue N) : ∀ {text : String},
    text ∈ JsonText.strings (document value) →
      text ∈ strings value ∨ ∃ key : ℤ, text = key.repr := by
  induction value using PyValue.induction with
  | none => exact fun h => .inl h
  | bool value => exact fun h => .inl h
  | number value => exact fun h => .inl h
  | string value => exact fun h => .inl h
  | list items ih =>
    intro text h
    rw [document, JsonText.strings, JsonText.mem_itemStrings, itemDocuments_eq_map] at h
    obtain ⟨json, hjson, htext⟩ := h
    obtain ⟨item, hitem, rfl⟩ := List.mem_map.mp hjson
    rcases ih item hitem htext with hfound | hkey
    · exact .inl (mem_itemStrings.mpr ⟨item, hitem, hfound⟩)
    · exact .inr hkey
  | dict fields ih =>
    intro text h
    rw [document, JsonText.strings, JsonText.mem_fieldStrings] at h
    obtain ⟨member, hmember, htext⟩ := h
    rw [(perm_sortKeys _).mem_iff, fieldDocuments_eq_map] at hmember
    obtain ⟨field, hfield, rfl⟩ := List.mem_map.mp hmember
    rcases htext with rfl | hvalue
    · exact .inl (mem_fieldStrings.mpr ⟨field, hfield, .inl rfl⟩)
    · rcases ih field hfield hvalue with hfound | hkey
      · exact .inl (mem_fieldStrings.mpr ⟨field, hfield, .inr hfound⟩)
      · exact .inr hkey
  | intDict fields ih =>
    intro text h
    rw [document, JsonText.strings, JsonText.mem_fieldStrings] at h
    obtain ⟨written, hwritten, htext⟩ := h
    obtain ⟨member, hmember, rfl⟩ := List.mem_map.mp hwritten
    rw [(perm_sortKeys _).mem_iff, intFieldDocuments_eq_map] at hmember
    obtain ⟨field, hfield, rfl⟩ := List.mem_map.mp hmember
    rcases htext with rfl | hvalue
    · exact .inr ⟨field.1, rfl⟩
    · rcases ih field hfield hvalue with hfound | hkey
      · exact .inl (mem_intFieldStrings.mpr ⟨field, hfield, hfound⟩)
      · exact .inr hkey

theorem strings_mem_document (value : PyValue N) : ∀ {text : String},
    text ∈ strings value → text ∈ JsonText.strings (document value) := by
  induction value using PyValue.induction with
  | none => exact fun h => h
  | bool value => exact fun h => h
  | number value => exact fun h => h
  | string value => exact fun h => h
  | list items ih =>
    intro text h
    obtain ⟨item, hitem, htext⟩ := mem_itemStrings.mp h
    rw [document, JsonText.strings, JsonText.mem_itemStrings, itemDocuments_eq_map]
    exact ⟨_, List.mem_map_of_mem hitem, ih item hitem htext⟩
  | dict fields ih =>
    intro text h
    obtain ⟨field, hfield, htext⟩ := mem_fieldStrings.mp h
    rw [document, JsonText.strings, JsonText.mem_fieldStrings]
    refine ⟨(field.1, document field.2), ?_, htext.imp_right (ih field hfield)⟩
    rw [(perm_sortKeys _).mem_iff, fieldDocuments_eq_map]
    exact List.mem_map_of_mem hfield
  | intDict fields ih =>
    intro text h
    obtain ⟨field, hfield, htext⟩ := mem_intFieldStrings.mp h
    rw [document, JsonText.strings, JsonText.mem_fieldStrings]
    refine ⟨(field.1.repr, document field.2), ?_, .inr (ih field hfield htext)⟩
    apply List.mem_map.mpr
    refine ⟨(field.1, document field.2), ?_, rfl⟩
    rw [(perm_sortKeys _).mem_iff, intFieldDocuments_eq_map]
    exact List.mem_map_of_mem hfield

end PyValue

end ReisOs.Core
