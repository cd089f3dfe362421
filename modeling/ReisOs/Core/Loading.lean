import ReisOs.Core.Fallible

/-!
# Loading keyed rows

A loop that reads rows into a table, refuses a row whose key the table already has, and
stops at the first row it cannot read.  The table is seen through a lookup only, so that
the rules hold for one table as well as for several that are filled together.
-/

namespace ReisOs.Core

variable {S I K V E : Type*} [DecidableEq K]

/-- What one round of such a loop does: `view` looks a key up, and `read` is the value a
row gives. -/
structure Loads (view : S → K → Option V) (key : I → K) (read : I → Option V)
    (step : S → I → Except E S) : Prop where
  accepted : ∀ {state item next}, step state item = .ok next →
    view state (key item) = none ∧ ∃ value, read item = some value ∧
      ∀ other, view next other = if other = key item then some value else view state other
  accepts : ∀ {state item value}, view state (key item) = none → read item = some value →
    ∃ next, step state item = .ok next

namespace Loads

variable {view : S → K → Option V} {key : I → K} {read : I → Option V}
  {step : S → I → Except E S}

theorem foldlM_cons_ok {item : I} {items : List I} {start last : S}
    (h : (item :: items).foldlM step start = .ok last) :
    ∃ next, step start item = .ok next ∧ items.foldlM step next = .ok last := by
  rw [List.foldlM_cons] at h
  cases hitem : step start item with
  | error error =>
    rw [hitem] at h
    cases h
  | ok next =>
    rw [hitem] at h
    exact ⟨next, rfl, h⟩

/-- A completed load has read every row and holds exactly the rows it read. -/
theorem loaded (hloads : Loads view key read step) {items : List I} {start last : S}
    (h : items.foldlM step start = .ok last) :
    (∀ item ∈ items, (read item).isSome = true) ∧
      ∀ other value, view last other = some value ↔
        view start other = some value ∨
          ∃ item ∈ items, key item = other ∧ read item = some value := by
  induction items generalizing start with
  | nil =>
    cases h
    simp
  | cons item items ih =>
    obtain ⟨next, hitem, hrest⟩ := foldlM_cons_ok h
    obtain ⟨hnew, value, hread, hview⟩ := hloads.accepted hitem
    obtain ⟨hreadable, hlast⟩ := ih hrest
    constructor
    · intro other hother
      rcases List.mem_cons.mp hother with rfl | hother
      · rw [hread, Option.isSome_some]
      · exact hreadable other hother
    · intro other found
      rw [hlast, hview]
      by_cases hsame : other = key item
      · simp [hsame, hnew, hread]
      · have hdifferent : key item ≠ other := fun h => hsame h.symm
        simp [hsame, hdifferent]

/-- Readable rows with distinct keys that the table does not have are all loaded. -/
theorem exists_loaded (hloads : Loads view key read step) {items : List I} {start : S}
    (hdistinct : (items.map key).Nodup)
    (hitems : ∀ item ∈ items, view start (key item) = none ∧ (read item).isSome = true) :
    ∃ last, items.foldlM step start = .ok last := by
  induction items generalizing start with
  | nil => exact ⟨start, rfl⟩
  | cons item items ih =>
    obtain ⟨hnew, hreadable⟩ := hitems item List.mem_cons_self
    obtain ⟨value, hread⟩ := Option.isSome_iff_exists.mp hreadable
    obtain ⟨next, hnext⟩ := hloads.accepts hnew hread
    obtain ⟨-, _, -, hview⟩ := hloads.accepted hnext
    rw [List.map_cons, List.nodup_cons] at hdistinct
    have hrest : ∀ later ∈ items,
        view next (key later) = none ∧ (read later).isSome = true := by
      intro later hlater
      have hkey : key later ≠ key item := fun hsame =>
        hdistinct.1 (hsame ▸ List.mem_map_of_mem hlater)
      obtain ⟨hfree, hlaterRead⟩ := hitems later (List.mem_cons_of_mem _ hlater)
      rw [hview, if_neg hkey]
      exact ⟨hfree, hlaterRead⟩
    obtain ⟨last, hlast⟩ := ih hdistinct.2 hrest
    exact ⟨last, by rw [List.foldlM_cons, hnext]; exact hlast⟩

end Loads

end ReisOs.Core
