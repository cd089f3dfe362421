import Mathlib.Data.List.Basic

/-!
# Linked entries

A log whose entries each have a value before and a value after.  The entries are linked
when every one of them starts from the value that the one before it has led to.
-/

namespace ReisOs.Core

variable {E A : Type*} (start : A) (before after : E → A)

/-- The value after the last entry. -/
def reached (entries : List E) : A := (entries.getLast?.map after).getD start

def Linked (entries : List E) : Prop :=
  ∀ index entry, entries[index]? = some entry →
    before entry = reached start after (entries.take index)

variable {start before after} {entries : List E} {entry : E}

@[simp]
theorem reached_append_singleton : reached start after (entries ++ [entry]) = after entry := by
  simp [reached]

theorem linked_nil : Linked start before after [] := by
  intro index entry hentry
  cases hentry

theorem linked_append_singleton_iff :
    Linked start before after (entries ++ [entry]) ↔
      Linked start before after entries ∧ before entry = reached start after entries := by
  constructor
  · intro h
    constructor
    · intro index other hother
      have hindex : index < entries.length := (List.getElem?_eq_some_iff.mp hother).1
      have hlinked := h index other (by rw [List.getElem?_append_left hindex, hother])
      rwa [List.take_append_of_le_length (Nat.le_of_lt hindex)] at hlinked
    · have hlast := h entries.length entry (by simp)
      rwa [List.take_left] at hlast
  · intro h index other hother
    by_cases hindex : index < entries.length
    · rw [List.getElem?_append_left hindex] at hother
      rw [List.take_append_of_le_length (Nat.le_of_lt hindex)]
      exact h.1 index other hother
    · have hlast : index = entries.length := by
        have hlength := (List.getElem?_eq_some_iff.mp hother).1
        rw [List.length_append, List.length_singleton] at hlength
        omega
      rw [hlast] at hother ⊢
      rw [List.getElem?_concat_length] at hother
      cases hother
      rw [List.take_left]
      exact h.2

theorem Linked.first (h : Linked start before after entries)
    (hentry : entries[0]? = some entry) : before entry = start :=
  h 0 entry hentry

theorem Linked.next (h : Linked start before after entries) {index : ℕ} {other : E}
    (hentry : entries[index]? = some entry) (hother : entries[index + 1]? = some other) :
    before other = after entry := by
  rw [h (index + 1) other hother, List.take_add_one, hentry]
  exact reached_append_singleton

theorem reached_take_succ {index : ℕ} (hentry : entries[index]? = some entry) :
    reached start after (entries.take (index + 1)) = after entry := by
  rw [List.take_add_one, hentry]
  exact reached_append_singleton

end ReisOs.Core
