import Mathlib.Data.List.Basic

/-!
# Ordered validations

A validator that tests a list of failure conditions in order and reports the
first one that holds.  The position of a condition decides which reason is
reported; acceptance only depends on the conditions themselves.
-/

namespace ReisOs.Core

/-- The reason of the first condition that holds. -/
def firstFailure : List (Bool × String) → Option String
  | [] => none
  | (failed, reason) :: checks =>
    if failed then some reason else firstFailure checks

theorem firstFailure_eq_none_iff {checks : List (Bool × String)} :
    firstFailure checks = none ↔ ∀ check ∈ checks, check.1 = false := by
  induction checks with
  | nil => simp [firstFailure]
  | cons check checks ih =>
    obtain ⟨failed, reason⟩ := check
    cases failed <;> simp [firstFailure, ih]

/-- Acceptance flag and reason, as a pair. -/
def verdict (checks : List (Bool × String)) (accepted : String) : Bool × String :=
  match firstFailure checks with
  | none => (true, accepted)
  | some reason => (false, reason)

theorem verdict_fst_iff {checks : List (Bool × String)} {accepted : String} :
    (verdict checks accepted).1 = true ↔ ∀ check ∈ checks, check.1 = false := by
  rw [← firstFailure_eq_none_iff, verdict]
  cases firstFailure checks <;> simp

end ReisOs.Core
