import Mathlib.Data.List.AList

/-!
# Keyed tables

A mutable map from keys to values, as the programs below use it: one value per
key, assignment overwrites, deletion forgets.  The carrier is Mathlib's
association list without duplicate keys; what is added here is the case-split
form of its lookup lemmas, which is the one symbolic execution needs.
-/

namespace ReisOs.Core

/-- A table with at most one value per key. -/
abbrev Dict (K V : Type) := AList (fun _ : K => V)

namespace Dict

variable {K V : Type} [DecidableEq K]

theorem lookup_insert_eq (table : Dict K V) (key other : K) (value : V) :
    (table.insert key value).lookup other =
      if other = key then some value else table.lookup other := by
  by_cases h : other = key
  · subst h
    simp
  · simp [h, AList.lookup_insert_ne h]

theorem lookup_erase_eq (table : Dict K V) (key other : K) :
    (table.erase key).lookup other =
      if other = key then none else table.lookup other := by
  by_cases h : other = key
  · subst h
    simp
  · simp [h, AList.lookup_erase_ne h]

/-- Assigning all fields of a list; of two values for one key the first one counts. -/
def insertAll (table : Dict K V) (fields : List (K × V)) : Dict K V :=
  fields.foldr (fun field table => table.insert field.1 field.2) table

theorem lookup_insertAll (table : Dict K V) (fields : List (K × V)) (key : K) :
    (table.insertAll fields).lookup key =
      ((fields.find? fun field => field.1 = key).map Prod.snd).or (table.lookup key) := by
  induction fields with
  | nil => rfl
  | cons field fields ih =>
    have hcons : table.insertAll (field :: fields) =
        (table.insertAll fields).insert field.1 field.2 := rfl
    rw [hcons, lookup_insert_eq, ih]
    by_cases hkey : key = field.1
    · subst hkey
      simp
    · simp [hkey, Ne.symm hkey]

/-! ## Values -/

/-- The table with the same keys and `f` of their values. -/
def mapValues {K V W : Type} (f : V → W) (table : Dict K V) : Dict K W :=
  ⟨table.entries.map fun entry => ⟨entry.1, f entry.2⟩,
    List.NodupKeys.map₂ (fun _ => f) table.entries table.nodupKeys⟩

theorem lookup_mapValues {W : Type} (f : V → W) (table : Dict K V) (key : K) :
    (table.mapValues f).lookup key = (table.lookup key).map f :=
  @List.dlookup_map₂ K _ _ _ table.entries (fun _ => f) key

omit [DecidableEq K] in
theorem mapValues_mapValues {W X : Type} (f : V → W) (g : W → X) (table : Dict K V) :
    (table.mapValues f).mapValues g = table.mapValues fun value => g (f value) := by
  apply AList.ext
  simp [mapValues]

omit [DecidableEq K] in
theorem mapValues_eq {f : V → V} (h : ∀ value, f value = value) (table : Dict K V) :
    table.mapValues f = table := by
  apply AList.ext
  simp [mapValues, h]

end Dict

end ReisOs.Core
