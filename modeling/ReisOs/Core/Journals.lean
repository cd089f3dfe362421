import Mathlib.Data.List.Sort
import Mathlib.Data.List.Nodup
import Mathlib.Data.List.Induction

/-!
# Journals and keyed tables

Rows are appended to a table and each is judged against the last row of its own
group.  The chain of a group then depends on the rows of the group only, and a
stable order that sorts the groups apart leaves every chain as it was written.
-/

namespace ReisOs.Core

variable {A G K : Type*}

/-! ## Chains -/

/-- Every row succeeds the one before it, the first one succeeds nothing. -/
def Chained (succeeds : Option A → A → Prop) (rows : List A) : Prop :=
  ∀ earlier row later, rows = earlier ++ row :: later → succeeds earlier.getLast? row

theorem chained_nil (succeeds : Option A → A → Prop) : Chained succeeds [] := by
  intro earlier row later h
  simp at h

variable {rows : List A}

theorem Chained.of_append {succeeds : Option A → A → Prop} {more : List A}
    (h : Chained succeeds (rows ++ more)) : Chained succeeds rows := by
  intro earlier row later hsplit
  exact h earlier row (later ++ more) (by rw [hsplit]; simp)

variable {last : A}

theorem chained_concat_iff {succeeds : Option A → A → Prop} :
    Chained succeeds (rows ++ [last]) ↔
      Chained succeeds rows ∧ succeeds rows.getLast? last := by
  constructor
  · intro h
    exact ⟨h.of_append, h rows last [] rfl⟩
  · rintro ⟨hrows, hlast⟩ earlier row later hsplit
    rcases List.eq_nil_or_concat later with rfl | ⟨later, final, rfl⟩
    · obtain ⟨rfl, hsame⟩ := List.append_inj' hsplit rfl
      cases hsame
      exact hlast
    · have hshift : earlier ++ row :: (later ++ [final]) =
          (earlier ++ row :: later) ++ [final] := by simp
      rw [List.concat_eq_append, hshift] at hsplit
      exact hrows earlier row later (List.append_inj' hsplit rfl).1

theorem Chained.map_eq_range' {succeeds : Option A → A → Prop}
    (number : A → ℕ) (h : Chained succeeds rows)
    (hcounts : ∀ previous row, succeeds previous row →
      number row = previous.elim 1 (number · + 1)) :
    rows.map number = List.range' 1 rows.length := by
  induction rows using List.reverseRecOn with
  | nil => rfl
  | append_singleton rows last ih =>
    obtain ⟨hrows, hlast⟩ := chained_concat_iff.mp h
    have hbefore := ih hrows
    have hnumber : number last = 1 + rows.length := by
      rw [hcounts _ _ hlast]
      rcases List.eq_nil_or_concat rows with rfl | ⟨front, previous, rfl⟩
      · rfl
      · have hprevious := congrArg (·[front.length]?) hbefore
        have hvalue : number previous = 1 + front.length := by
          simpa [List.concat_eq_append] using hprevious
        simp [hvalue]
        omega
    rw [List.map_append, hbefore, List.length_append, List.length_singleton,
      List.range'_append_1.symm, List.map_singleton, hnumber]
    rfl

theorem Chained.number_getLast? {succeeds : Option A → A → Prop}
    (number : A → ℕ) (h : Chained succeeds rows)
    (hcounts : ∀ previous row, succeeds previous row →
      number row = previous.elim 1 (number · + 1)) (hlast : rows.getLast? = some last) : number last = rows.length := by
  obtain ⟨front, rfl⟩ := List.getLast?_eq_some_iff.mp hlast
  have hnumbers := congrArg (·[front.length]?) (h.map_eq_range' number hcounts)
  have hvalue : number last = 1 + front.length := by simpa using hnumbers
  rw [hvalue, List.length_append, List.length_singleton, Nat.add_comm]

theorem Chained.pairwise_lt {succeeds : Option A → A → Prop}
    (number : A → ℕ) (h : Chained succeeds rows)
    (hcounts : ∀ previous row, succeeds previous row →
      number row = previous.elim 1 (number · + 1)) :
    rows.Pairwise (fun left right => number left < number right) := by
  have hnumbers := h.map_eq_range' number hcounts
  rw [← List.pairwise_map (f := number) (R := (· < ·)), hnumbers]
  exact List.pairwise_lt_range'

/-! ## Groups of a table -/

variable [DecidableEq G]

/-- The rows of each group form a chain. -/
def GroupChained (succeeds : Option A → A → Prop) (group : A → G) (rows : List A) : Prop :=
  ∀ g, Chained succeeds (rows.filter (group · = g))

theorem groupChained_concat {succeeds : Option A → A → Prop} {group : A → G} (h : GroupChained succeeds group rows)
    (hlast : succeeds (rows.filter (group · = group last)).getLast? last) :
    GroupChained succeeds group (rows ++ [last]) := by
  intro g
  rw [List.filter_append]
  by_cases hgroup : group last = g
  · subst hgroup
    simpa using chained_concat_iff.mpr ⟨h _, hlast⟩
  · simpa [hgroup] using h g

theorem GroupChained.of_append {succeeds : Option A → A → Prop} {group : A → G}
    {more : List A} (h : GroupChained succeeds group (rows ++ more)) :
    GroupChained succeeds group rows := by
  intro g
  have hboth := h g
  rw [List.filter_append] at hboth
  exact hboth.of_append

/-- In a table whose groups are chains, a row succeeds the last one of its group
among the rows before it. -/
theorem GroupChained.succeeds {succeeds : Option A → A → Prop} {group : A → G}
    {earlier later : List A} {row : A}
    (h : GroupChained succeeds group (earlier ++ row :: later)) :
    succeeds (earlier.filter (group · = group row)).getLast? row := by
  apply h (group row) _ row (later.filter (group · = group row))
  simp

/-- An order that agrees with the writing order inside a group sorts the group into
itself. -/
theorem filter_insertionSort_eq (order : A → A → Prop) [DecidableRel order]
    [Std.Total order] [IsTrans A order] {keep : A → Bool}
    (hwritten : (rows.filter keep).Pairwise order)
    (hanti : ∀ left ∈ rows, ∀ right ∈ rows, keep left = true → keep right = true →
      order left right → order right left → left = right) :
    (rows.insertionSort order).filter keep = rows.filter keep := by
  have hperm : (rows.insertionSort order).Perm rows := List.perm_insertionSort ..
  have hsorted : (rows.insertionSort order).Pairwise order :=
    List.pairwise_insertionSort ..
  apply List.Perm.eq_of_pairwise _ (hsorted.filter keep) hwritten (hperm.filter keep)
  intro left right hleft hright
  obtain ⟨hleft, hkeptleft⟩ := List.mem_filter.mp hleft
  obtain ⟨hright, hkeptright⟩ := List.mem_filter.mp hright
  exact hanti left (hperm.mem_iff.mp hleft) right hright hkeptleft hkeptright

/-! ## Keys -/

variable [DecidableEq K]

variable {key : A → K}

theorem find?_key_eq_some_iff (hkeys : (rows.map key).Nodup)
    {k : K} {row : A} :
    rows.find? (key · = k) = some row ↔ row ∈ rows ∧ key row = k := by
  constructor
  · intro h
    exact ⟨List.mem_of_find?_eq_some h, by simpa using List.find?_some h⟩
  · rintro ⟨hmem, hkey⟩
    cases hfound : rows.find? (key · = k) with
    | none =>
      have hmissing := List.find?_eq_none.mp hfound row hmem
      simp [hkey] at hmissing
    | some found =>
      have hfoundkey : key found = k := by simpa using List.find?_some hfound
      have hsame := List.inj_on_of_nodup_map hkeys
        (List.mem_of_find?_eq_some hfound) hmem (hfoundkey.trans hkey.symm)
      rw [hsame]

/-- With a primary key, one row is selected by the key it has. -/
theorem filter_key_eq_singleton
    (hkeys : (rows.map key).Nodup) {row : A} (hrow : row ∈ rows) :
    rows.filter (key · = key row) = [row] := by
  induction rows with
  | nil => cases hrow
  | cons first rows ih =>
    rw [List.map_cons, List.nodup_cons] at hkeys
    by_cases hfirst : key first = key row
    · have hnone : rows.filter (key · = key row) = [] := by
        rw [List.filter_eq_nil_iff]
        intro other hother hkey
        apply hkeys.1
        rw [hfirst, ← of_decide_eq_true hkey]
        exact List.mem_map_of_mem hother
      have hsame : first = row := by
        rcases List.mem_cons.mp hrow with heq | hrest
        · exact heq.symm
        · exact absurd (hfirst ▸ List.mem_map_of_mem hrest) hkeys.1
      rw [List.filter_cons_of_pos (by simpa using hfirst), hnone, hsame]
    · have hrest : row ∈ rows := by
        rcases List.mem_cons.mp hrow with heq | hrest
        · exact absurd (heq ▸ rfl) hfirst
        · exact hrest
      rw [List.filter_cons_of_neg (by simpa using hfirst)]
      exact ih hkeys.2 hrest

theorem find?_key_perm {other : List A} (hkeys : (rows.map key).Nodup)
    (hperm : rows.Perm other) (k : K) :
    rows.find? (key · = k) = other.find? (key · = k) := by
  have hother : (other.map key).Nodup := (hperm.map key).nodup_iff.mp hkeys
  apply Option.ext
  intro row
  rw [find?_key_eq_some_iff hkeys, find?_key_eq_some_iff hother, hperm.mem_iff]

theorem find?_key_concat
    (hfresh : ∀ row ∈ rows, key row ≠ key last) (k : K) :
    (rows ++ [last]).find? (key · = k) =
      if k = key last then some last else rows.find? (key · = k) := by
  rw [List.find?_append]
  by_cases hkey : k = key last
  · subst hkey
    have hnone : rows.find? (key · = key last) = none := by
      simpa using hfresh
    simp [hnone]
  · simp [hkey, Ne.symm hkey]

/-! ## First uses -/

/-- What is mine and is used has been used first by one of mine. -/
def UsedFirst (uses mine : A → Bool) (rows : List A) : Prop :=
  ∀ earlier row later, rows = earlier ++ row :: later → mine row → uses row →
    (∃ first ∈ earlier, uses first) → ∃ first ∈ earlier, uses first ∧ mine first

theorem usedFirst_nil (uses mine : A → Bool) : UsedFirst uses mine [] := by
  intro earlier row later h
  simp at h

theorem UsedFirst.of_append {uses mine : A → Bool} {more : List A}
    (h : UsedFirst uses mine (rows ++ more)) : UsedFirst uses mine rows := by
  intro earlier row later hsplit
  exact h earlier row (later ++ more) (by rw [hsplit]; simp)

theorem usedFirst_concat_iff {uses mine : A → Bool} :
    UsedFirst uses mine (rows ++ [last]) ↔
      UsedFirst uses mine rows ∧ (mine last → uses last → (∃ first ∈ rows, uses first) →
        ∃ first ∈ rows, uses first ∧ mine first) := by
  constructor
  · intro h
    exact ⟨h.of_append, h rows last [] rfl⟩
  · rintro ⟨hrows, hlast⟩ earlier row later hsplit
    rcases List.eq_nil_or_concat later with rfl | ⟨later, final, rfl⟩
    · obtain ⟨rfl, hsame⟩ := List.append_inj' hsplit rfl
      cases hsame
      exact hlast
    · have hshift : earlier ++ row :: (later ++ [final]) =
          (earlier ++ row :: later) ++ [final] := by simp
      rw [List.concat_eq_append, hshift] at hsplit
      exact hrows earlier row later (List.append_inj' hsplit rfl).1

/-- The first use is found among mine, if there is one of mine and mine come first. -/
theorem UsedFirst.find?_filter {uses mine : A → Bool}
    (h : UsedFirst uses mine rows) (hmine : ∃ row ∈ rows, uses row ∧ mine row) :
    (rows.filter mine).find? uses = rows.find? uses := by
  have hfound : (rows.find? fun row => uses row && mine row).isSome := by
    simpa using hmine
  obtain ⟨row, hrow⟩ := Option.isSome_iff_exists.mp hfound
  obtain ⟨hboth, earlier, later, rfl, hearlier⟩ := List.find?_eq_some_iff_append.mp hrow
  rw [Bool.and_eq_true] at hboth
  have hnone : earlier.find? uses = none := by
    rw [List.find?_eq_none]
    intro first hfirst huses
    obtain ⟨other, hother, hotheruses, hothermine⟩ :=
      h earlier row later rfl hboth.2 hboth.1 ⟨first, hfirst, huses⟩
    have hnot := hearlier other hother
    rw [hotheruses, hothermine] at hnot
    cases hnot
  have hnonemine : (earlier.filter mine).find? uses = none := by
    rw [List.find?_eq_none] at hnone ⊢
    intro first hfirst
    exact hnone first (List.mem_of_mem_filter hfirst)
  rw [List.filter_append, List.find?_append, List.find?_append, hnone, hnonemine,
    List.filter_cons_of_pos hboth.2, List.find?_cons_of_pos hboth.1,
    List.find?_cons_of_pos hboth.1]

end ReisOs.Core
