import Mathlib.Data.List.Nodup
import Mathlib.Data.List.Sort
import ReisOs.Core.Interleaving

/-!
# Tables of rows

Rows of a relational table in the order of their insertion, the update statement on
them, and transactions that either leave a new database and an answer or nothing.
-/

namespace ReisOs.Core

/-! ## Updates -/

section Updates

variable {A B K : Type*}

/-- `UPDATE rows SET change WHERE chosen`. -/
def updateWhere (chosen : A → Bool) (change : A → A) (rows : List A) : List A :=
  rows.map fun row => if chosen row then change row else row

variable {chosen keep : A → Bool} {change : A → A} {rows : List A}

theorem mem_updateWhere {row : A} : row ∈ updateWhere chosen change rows ↔
    (∃ old ∈ rows, chosen old = true ∧ change old = row) ∨
      (row ∈ rows ∧ chosen row = false) := by
  unfold updateWhere
  rw [List.mem_map]
  constructor
  · rintro ⟨old, hold, rfl⟩
    by_cases hchosen : chosen old = true
    · rw [if_pos hchosen]
      exact .inl ⟨old, hold, hchosen, rfl⟩
    · rw [if_neg hchosen]
      exact .inr ⟨hold, Bool.eq_false_iff.mpr hchosen⟩
  · rintro (⟨old, hold, hchosen, rfl⟩ | ⟨hrow, hchosen⟩)
    · exact ⟨old, hold, if_pos hchosen⟩
    · exact ⟨row, hrow, by simp [hchosen]⟩

theorem updateWhere_of_none_chosen (hnone : ∀ row ∈ rows, chosen row = false) :
    updateWhere chosen change rows = rows := by
  have hsame : rows.map (fun row => if chosen row then change row else row) = rows.map id := by
    apply List.map_congr_left
    intro row hrow
    simp [hnone row hrow]
  rw [updateWhere, hsame, List.map_id]

theorem map_updateWhere {column : A → B} (hcolumn : ∀ row, column (change row) = column row) :
    (updateWhere chosen change rows).map column = rows.map column := by
  rw [updateWhere, List.map_map]
  apply List.map_congr_left
  intro row _
  by_cases hchosen : chosen row = true <;> simp [hchosen, hcolumn]

theorem filter_updateWhere
    (hkeep : ∀ row ∈ rows, chosen row = true → keep (change row) = keep row) :
    (updateWhere chosen change rows).filter keep =
      updateWhere chosen change (rows.filter keep) := by
  rw [updateWhere, updateWhere, List.filter_map]
  congr 1
  apply List.filter_congr
  intro row hrow
  by_cases hchosen : chosen row = true
  · simp [hchosen, hkeep row hrow hchosen]
  · simp [hchosen]

theorem filter_updateWhere_of_drops (hdrops : ∀ row, keep (change row) = false) :
    (updateWhere chosen change rows).filter keep =
      (rows.filter keep).filter fun row => !chosen row := by
  induction rows with
  | nil => rfl
  | cons row rows ih =>
    rw [updateWhere, List.map_cons, ← updateWhere]
    by_cases hchosen : chosen row = true
    · by_cases hkeep : keep row = true <;> simp [hchosen, hkeep, hdrops, ih]
    · by_cases hkeep : keep row = true <;> simp [hchosen, hkeep, ih]

theorem exists_mem_updateWhere {row : A} (hrow : row ∈ rows) :
    ∃ updated ∈ updateWhere chosen change rows, updated = row ∨ updated = change row := by
  refine ⟨_, List.mem_map_of_mem hrow, ?_⟩
  by_cases hchosen : chosen row = true <;> simp [hchosen]

/-- An update of the one row with a key that brings it into an empty selection. -/
theorem filter_updateWhere_of_joins [DecidableEq K] {key : A → K} {row : A}
    (hkeys : (rows.map key).Nodup) (hrow : row ∈ rows) (hjoins : keep (change row) = true)
    (hnone : rows.filter keep = []) :
    (updateWhere (fun other => decide (key other = key row)) change rows).filter keep =
      [change row] := by
  induction rows with
  | nil => cases hrow
  | cons head rows ih =>
    rw [List.map_cons, List.nodup_cons] at hkeys
    have hhead : keep head = false ∧ rows.filter keep = [] := by
      by_cases hkeep : keep head = true
      · simp [hkeep] at hnone
      · simpa [hkeep] using hnone
    rcases List.mem_cons.mp hrow with rfl | hmem
    · have hrest : updateWhere (fun other => decide (key other = key row)) change rows =
          rows := by
        apply updateWhere_of_none_chosen
        intro other hother
        have hne : key other ≠ key row := by
          intro heq
          exact hkeys.1 (heq ▸ List.mem_map_of_mem hother)
        exact decide_eq_false hne
      rw [updateWhere, List.map_cons, ← updateWhere, hrest]
      simp [hjoins, hhead.2]
    · have hne : key head ≠ key row := by
        intro heq
        exact hkeys.1 (heq ▸ List.mem_map_of_mem hmem)
      rw [updateWhere, List.map_cons, ← updateWhere]
      simp [hne, hhead.1, ih hkeys.2 hmem hhead.2]

end Updates

/-! ## Orders -/

theorem head?_insertionSort_spec {A : Type*} {order : A → A → Prop} [DecidableRel order]
    [Std.Total order] [IsTrans A order] {rows : List A} {row : A}
    (h : (rows.insertionSort order).head? = some row) :
    row ∈ rows ∧ ∀ other ∈ rows, other = row ∨ order row other := by
  obtain ⟨rest, hsorted⟩ := List.head?_eq_some_iff.mp h
  have hpairwise : (row :: rest).Pairwise order := by
    rw [← hsorted]
    exact List.pairwise_insertionSort order rows
  constructor
  · rw [← List.mem_insertionSort order, hsorted]
    exact List.mem_cons_self
  · intro other hother
    rw [← List.mem_insertionSort order, hsorted] at hother
    rcases List.mem_cons.mp hother with heq | hrest
    · exact .inl heq
    · exact .inr (List.rel_of_pairwise_cons hpairwise hrest)

/-! ## Transactions -/

/-- A transaction on a database: on an error the database is left as it was. -/
abbrev Transaction (D E A : Type) := D → Except E (D × A)

namespace Transaction

variable {D E A : Type}

/-- The database a transaction leaves. -/
def leaves (transaction : Transaction D E A) (database : D) : D :=
  match transaction database with
  | .ok (after, _) => after
  | .error _ => database

/-- A transaction as one atomic step. -/
def commit (transaction : Transaction D E A) : Script D E A :=
  .act fun database =>
    match transaction database with
    | .ok (after, answer) => (after, .ok answer)
    | .error error => (database, .error error)

theorem leaves_induction {transaction : Transaction D E A} {database : D}
    (holds : D → Prop) (hrefused : holds database)
    (hcommitted : ∀ after answer, transaction database = .ok (after, answer) →
      holds after) :
    holds (transaction.leaves database) := by
  unfold leaves
  cases htransaction : transaction database with
  | error error => exact hrefused
  | ok answer => exact hcommitted answer.1 answer.2 htransaction

theorem safe_commit {rule : Discipline D} {Post : A → D → Prop}
    {transaction : Transaction D E A} {database : D}
    (h : ∀ now, rule.Inv now → rule.Others database now →
      ∀ after answer, transaction now = .ok (after, answer) →
        rule.Inv after ∧ rule.Grows now after ∧ Post answer after) :
    Script.Safe rule Post (commit transaction) database := by
  apply Script.safe_act
  intro now hinv hothers
  cases htransaction : transaction now with
  | error error => exact ⟨hinv, rule.refl now, by simp⟩
  | ok result =>
    obtain ⟨after, answer⟩ := result
    obtain ⟨hafter, hgrows, hpost⟩ := h now hinv hothers after answer htransaction
    refine ⟨hafter, hgrows, ?_⟩
    intro value hvalue
    cases hvalue
    exact hpost

end Transaction

end ReisOs.Core
