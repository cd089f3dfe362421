import Mathlib.Data.List.Basic
import Mathlib.Logic.Relation

/-!
# Ancestry

Members that join one after the other, each under a new key and with a parent among those
who are there already, or none.  The latest member comes first in the list.  The relation of
members to their parents has no cycles.
-/

namespace ReisOs.Core

variable {M A : Type*} (key : M → A) (parent : M → Option A) (Edge : M → M → Prop)

/-- Every member has joined under a new key and below an older one. -/
def Grown : List M → Prop
  | [] => True
  | member :: older =>
    (∀ other ∈ older, key other ≠ key member) ∧
      (∀ above, parent member = some above →
        ∃ other ∈ older, key other = above ∧ Edge member other) ∧
      Grown older

/-- `above` is the parent of the member under `below`. -/
def DescendsFrom (members : List M) (below above : A) : Prop :=
  ∃ member ∈ members, key member = below ∧ parent member = some above

variable {key parent Edge} {members : List M}

theorem Grown.of_append {newer older : List M}
    (h : Grown key parent Edge (newer ++ older)) : Grown key parent Edge older := by
  induction newer with
  | nil => exact h
  | cons member newer ih => exact ih h.2.2

theorem Grown.keys_nodup (h : Grown key parent Edge members) : (members.map key).Nodup := by
  induction members with
  | nil => exact List.nodup_nil
  | cons member older ih =>
    rw [List.map_cons, List.nodup_cons]
    refine ⟨?_, ih h.2.2⟩
    intro hmem
    rw [List.mem_map] at hmem
    rcases hmem with ⟨other, hother, hsame⟩
    exact h.1 other hother hsame

theorem Grown.parent_mem (h : Grown key parent Edge members) {member : M}
    (hmember : member ∈ members) {above : A} (habove : parent member = some above) :
    ∃ other ∈ members, key other = above ∧ Edge member other := by
  induction members with
  | nil => cases hmember
  | cons latest older ih =>
    rcases List.mem_cons.mp hmember with rfl | hmember
    · rcases h.2.1 above habove with ⟨other, hother, hedge⟩
      exact ⟨other, List.mem_cons_of_mem _ hother, hedge⟩
    · rcases ih h.2.2 hmember with ⟨other, hother, hedge⟩
      exact ⟨other, List.mem_cons_of_mem _ hother, hedge⟩

section Rank

variable [DecidableEq A]

/-- The place of a key, counted from the oldest member. -/
def rank (key : M → A) : List M → A → ℕ
  | [], _ => 0
  | member :: older, id => if key member = id then older.length + 1 else rank key older id

theorem rank_le_length (members : List M) (id : A) : rank key members id ≤ members.length := by
  induction members with
  | nil => exact Nat.le_refl 0
  | cons member older ih =>
    rw [rank]
    split
    · exact Nat.le_refl _
    · exact Nat.le_trans ih (Nat.le_succ _)

theorem Grown.rank_lt (h : Grown key parent Edge members) {below above : A}
    (hedge : DescendsFrom key parent members below above) :
    rank key members above < rank key members below := by
  induction members with
  | nil =>
    rcases hedge with ⟨member, hmember, _⟩
    cases hmember
  | cons latest older ih =>
    rcases hedge with ⟨member, hmember, rfl, habove⟩
    have hother : ∃ other ∈ older, key other = above := by
      rcases List.mem_cons.mp hmember with rfl | hmember
      · rcases h.2.1 above habove with ⟨other, hother, hkey, _⟩
        exact ⟨other, hother, hkey⟩
      · rcases h.2.2.parent_mem hmember habove with ⟨other, hother, hkey, _⟩
        exact ⟨other, hother, hkey⟩
    rcases hother with ⟨other, hother, hkey⟩
    have habove_ne : key latest ≠ above := hkey ▸ (h.1 other hother).symm
    rw [rank, if_neg habove_ne]
    rcases List.mem_cons.mp hmember with rfl | hmember
    · rw [rank, if_pos rfl]
      exact Nat.lt_succ_of_le (rank_le_length older above)
    · rw [rank, if_neg (h.1 member hmember).symm]
      exact ih h.2.2 ⟨member, hmember, rfl, habove⟩

end Rank

theorem Grown.acyclic (h : Grown key parent Edge members) (id : A) :
    ¬ Relation.TransGen (DescendsFrom key parent members) id id := by
  classical
  intro hcycle
  have hlt (below above : A)
      (hpath : Relation.TransGen (DescendsFrom key parent members) below above) :
      rank key members above < rank key members below := by
    induction hpath with
    | single hedge => exact h.rank_lt hedge
    | tail _ hedge ih => exact Nat.lt_trans (h.rank_lt hedge) ih
  exact Nat.lt_irrefl _ (hlt id id hcycle)

end ReisOs.Core
