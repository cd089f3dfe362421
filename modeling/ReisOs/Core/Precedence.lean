import Mathlib.Data.List.Induction
import Mathlib.Data.List.Perm.Basic
import Mathlib.Logic.Function.Basic

/-!
# Items of highest rank

Items are merged under their keys: an item takes the place of another one only if its rank
is higher, so of several items of highest rank the first one stays.  Which of them that is
depends on the order of the items, and on nothing else.
-/

namespace ReisOs.Core

variable {A K : Type} (key : A → K) (rank : A → ℕ)

/-- Whether an item takes the place of the one that is there. -/
def replaces (item : A) : Option A → Bool
  | none => true
  | some present => rank present < rank item

variable [DecidableEq K]

def mergeItem (merged : K → Option A) (item : A) : K → Option A :=
  if replaces rank item (merged (key item)) then Function.update merged (key item) (some item)
  else merged

def mergeAll (merged : K → Option A) (items : List A) : K → Option A :=
  items.foldl (mergeItem key rank) merged

omit [DecidableEq K] in
/-- An item of the key with no item of a higher rank beside it. -/
structure IsTop (items : List A) (k : K) (item : A) : Prop where
  mem : item ∈ items
  keyed : key item = k
  highest : ∀ other ∈ items, key other = k → rank other ≤ rank item

variable {key rank} {items : List A} {merged : K → Option A} {k : K} {item : A}

omit [DecidableEq K] in
theorem IsTop.perm {others : List A} (h : IsTop key rank items k item)
    (hperm : items.Perm others) : IsTop key rank others k item := by
  refine ⟨hperm.subset h.mem, h.keyed, ?_⟩
  intro other hother
  exact h.highest other (hperm.symm.subset hother)

theorem mergeItem_of_ne (h : key item ≠ k) : mergeItem key rank merged item k = merged k := by
  rw [mergeItem]
  split
  · exact Function.update_of_ne (Ne.symm h) _ _
  · rfl

theorem mergeItem_of_none (hkey : key item = k) (hmerged : merged k = none) :
    mergeItem key rank merged item k = some item := by
  rw [← hkey] at hmerged ⊢
  simp only [mergeItem, hmerged, replaces, if_true]
  exact Function.update_self _ _ _

theorem mergeItem_of_some {present : A} (hkey : key item = k)
    (hmerged : merged k = some present) :
    mergeItem key rank merged item k =
      some (if rank present < rank item then item else present) := by
  rw [← hkey] at hmerged ⊢
  simp only [mergeItem, hmerged, replaces, decide_eq_true_eq]
  split
  · exact Function.update_self _ _ _
  · exact hmerged

theorem mergeAll_of_highest {present : A} (hpresent : merged k = some present)
    (h : ∀ other ∈ items, key other = k → rank other ≤ rank present) :
    mergeAll key rank merged items k = some present := by
  induction items generalizing merged with
  | nil => exact hpresent
  | cons item items ih =>
    obtain ⟨hitem, hothers⟩ := List.forall_mem_cons.mp h
    refine ih ?_ hothers
    by_cases hkey : key item = k
    · rw [mergeItem_of_some hkey hpresent, if_neg (Nat.not_lt.mpr (hitem hkey))]
    · rw [mergeItem_of_ne hkey]
      exact hpresent

theorem mergeAll_of_equal (hmerged : merged k = none)
    (h : ∀ other ∈ items, key other = k → other = item) (hmem : item ∈ items)
    (hkey : key item = k) : mergeAll key rank merged items k = some item := by
  induction items generalizing merged with
  | nil => cases hmem
  | cons first items ih =>
    obtain ⟨hfirst, hothers⟩ := List.forall_mem_cons.mp h
    by_cases hsame : key first = k
    · obtain rfl := hfirst hsame
      have hlater : ∀ other ∈ items, key other = k → rank other ≤ rank first := by
        intro other hother hkeyed
        exact Nat.le_of_eq (congrArg rank (hothers other hother hkeyed))
      change mergeAll key rank (mergeItem key rank merged first) items k = some first
      exact mergeAll_of_highest (mergeItem_of_none hsame hmerged) hlater
    · refine ih ?_ hothers ?_
      · rw [mergeItem_of_ne hsame]
        exact hmerged
      · refine (List.mem_cons.mp hmem).resolve_left ?_
        rintro rfl
        exact hsame hkey

/-- What is merged is of highest rank, and nothing is merged only if nothing is there. -/
theorem mergeAll_spec (key : A → K) (rank : A → ℕ) (items : List A) (k : K) :
    (∀ item, mergeAll key rank (fun _ => none) items k = some item →
      IsTop key rank items k item) ∧
    (mergeAll key rank (fun _ => none) items k = none → ∀ item ∈ items, key item ≠ k) := by
  induction items using List.reverseRecOn with
  | nil =>
    constructor
    · intro item hitem
      cases hitem
    · intro _ item hitem
      cases hitem
  | append_singleton front last ih =>
    obtain ⟨htop, hnone⟩ := ih
    have hfold : mergeAll key rank (fun _ => none) (front ++ [last]) =
        mergeItem key rank (mergeAll key rank (fun _ => none) front) last := by
      rw [mergeAll, List.foldl_append]
      rfl
    rw [hfold]
    by_cases hkey : key last = k
    · cases hpresent : mergeAll key rank (fun _ => none) front k with
      | none =>
        rw [mergeItem_of_none hkey hpresent]
        refine ⟨?_, fun hnever => by cases hnever⟩
        rintro _ ⟨⟩
        refine ⟨by simp, hkey, fun other hother hkeyed => ?_⟩
        cases List.mem_append.mp hother with
        | inl hfront => exact absurd hkeyed (hnone hpresent other hfront)
        | inr hlast =>
          exact Nat.le_of_eq (congrArg rank (List.mem_singleton.mp hlast))
      | some present =>
        obtain ⟨hmem, hkeyed, hhighest⟩ := htop present hpresent
        rw [mergeItem_of_some hkey hpresent]
        refine ⟨?_, fun hnever => by cases hnever⟩
        rintro _ ⟨⟩
        split
        · next hless =>
            refine ⟨by simp, hkey, fun other hother hsame => ?_⟩
            cases List.mem_append.mp hother with
            | inl hfront =>
              exact Nat.le_trans (hhighest other hfront hsame) (Nat.le_of_lt hless)
            | inr hlast =>
              exact Nat.le_of_eq (congrArg rank (List.mem_singleton.mp hlast))
        · next hleast =>
            refine ⟨List.mem_append_left _ hmem, hkeyed, fun other hother hsame => ?_⟩
            cases List.mem_append.mp hother with
            | inl hfront => exact hhighest other hfront hsame
            | inr hlast =>
              rw [List.mem_singleton.mp hlast]
              exact Nat.not_lt.mp hleast
    · rw [mergeItem_of_ne hkey]
      constructor
      · intro item hitem
        obtain ⟨hmem, hkeyed, hhighest⟩ := htop item hitem
        refine ⟨List.mem_append_left _ hmem, hkeyed, fun other hother hsame => ?_⟩
        cases List.mem_append.mp hother with
        | inl hfront => exact hhighest other hfront hsame
        | inr hlast =>
          rw [List.mem_singleton.mp hlast] at hsame
          exact absurd hsame hkey
      · intro hpresent item hitem
        cases List.mem_append.mp hitem with
        | inl hfront => exact hnone hpresent item hfront
        | inr hlast =>
          rw [List.mem_singleton.mp hlast]
          exact hkey

/-- Any choice among the items of highest rank is what some order of the items merges. -/
theorem exists_perm_mergeAll [DecidableEq A] {choice : K → Option A}
    (hchoice : ∀ k item, choice k = some item → IsTop key rank items k item) :
    ∃ others, others.Perm items ∧ ∀ k item, choice k = some item →
      mergeAll key rank (fun _ => none) others k = some item := by
  let chosen (item : A) : Bool := choice (key item) = some item
  refine ⟨items.filter chosen ++ items.filter fun item => !chosen item,
    List.filter_append_perm chosen items, ?_⟩
  intro k item hitem
  obtain ⟨hmem, hkeyed, hhighest⟩ := hchoice k item hitem
  have hfirst : mergeAll key rank (fun _ => none) (items.filter chosen) k = some item := by
    refine mergeAll_of_equal rfl ?_ ?_ hkeyed
    · intro other hother hsame
      have hother : choice (key other) = some other :=
        of_decide_eq_true (List.mem_filter.mp hother).2
      rw [hsame, hitem] at hother
      exact (Option.some.inj hother).symm
    · rw [List.mem_filter]
      refine ⟨hmem, decide_eq_true ?_⟩
      rw [hkeyed]
      exact hitem
  rw [mergeAll, List.foldl_append]
  refine mergeAll_of_highest hfirst ?_
  intro other hother
  exact hhighest other (List.mem_filter.mp hother).1

end ReisOs.Core
