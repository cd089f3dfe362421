import Mathlib.Data.List.Nodup
import Mathlib.Order.Lattice

/-!
# Paging by keys

Rows with a key of a linear order are read page by page, in the order of their keys.  A
page starts after the last key of the page before it, and what is visible may change in
between.  While it changes only by rows that lie before the old ones, the pages together
list everything that was visible at first.
-/

namespace ReisOs.Core.Keyset

variable {A K : Type*} [LinearOrder K] (key : A → K)

/-- The rows whose keys come after the cursor. -/
def after (cursor : Option K) (rows : List A) : List A :=
  rows.filter fun row => cursor.all fun last => decide (last < key row)

/-- The cursor of the next page, if there is one. -/
def next (limit : ℕ) (candidates : List A) : Option K :=
  if limit < candidates.length then (candidates.take limit).getLast?.map key else none

/-- All pages from the one of the given number on, for at most `fuel` pages. -/
def pages (visible : ℕ → List A) (limit : ℕ) : ℕ → ℕ → Option K → Option (List A)
  | 0, _, _ => none
  | fuel + 1, index, cursor =>
    let candidates := after key cursor (visible index)
    match next key limit candidates with
    | none => some (candidates.take limit)
    | some last =>
      (pages visible limit fuel (index + 1) (some last)).map
        fun rest => candidates.take limit ++ rest

variable {key}

theorem mem_after {cursor : Option K} {rows : List A} {row : A} :
    row ∈ after key cursor rows ↔ row ∈ rows ∧ ∀ last ∈ cursor, last < key row := by
  rw [after, List.mem_filter]
  cases cursor with
  | none => simp
  | some last => simp

theorem after_sublist (cursor : Option K) (rows : List A) :
    (after key cursor rows).Sublist rows :=
  List.filter_sublist

omit [LinearOrder K] in
theorem next_eq_none_iff {limit : ℕ} (hlimit : 0 < limit) {candidates : List A} :
    next key limit candidates = none ↔ candidates.length ≤ limit := by
  rw [next]
  by_cases hlength : limit < candidates.length
  · have hsome : candidates.take limit ≠ [] := by
      intro hnil
      have hzero := congrArg List.length hnil
      rw [List.length_take, List.length_nil] at hzero
      omega
    rw [if_pos hlength, Option.map_eq_none_iff, List.getLast?_eq_none_iff]
    exact iff_of_false hsome (Nat.not_le.mpr hlength)
  · rw [if_neg hlength]
    exact iff_of_true rfl (Nat.not_lt.mp hlength)

/-- The next cursor is the key of a selected row, which no other selected row exceeds and
every row left over does. -/
theorem exists_of_next_eq_some {limit : ℕ} {candidates : List A}
    (hsorted : (candidates.map key).Pairwise (· < ·)) {last : K}
    (h : next key limit candidates = some last) :
    (∃ row ∈ candidates, key row = last) ∧
      (∀ row ∈ candidates.take limit, key row ≤ last) ∧
      ∀ row ∈ candidates, last < key row ∨ row ∈ candidates.take limit := by
  rw [next] at h
  split at h
  · obtain ⟨final, hfinal, rfl⟩ := Option.map_eq_some_iff.mp h
    obtain ⟨front, hfront⟩ := List.getLast?_eq_some_iff.mp hfinal
    have hsplit : candidates = front ++ final :: candidates.drop limit := by
      calc
        candidates = candidates.take limit ++ candidates.drop limit :=
          (List.take_append_drop limit candidates).symm
        _ = front ++ final :: candidates.drop limit := by rw [hfront]; simp
    rw [List.pairwise_map] at hsorted
    refine ⟨⟨final, ?_, rfl⟩, ?_, ?_⟩
    · rw [hsplit]
      simp
    · intro row hrow
      rw [hfront, List.mem_append, List.mem_singleton] at hrow
      rcases hrow with hbefore | rfl
      · rw [hsplit, List.pairwise_append] at hsorted
        exact (hsorted.2.2 row hbefore final List.mem_cons_self).le
      · exact le_rfl
    · intro row hrow
      rw [← List.take_append_drop limit candidates, List.mem_append] at hrow
      rcases hrow with htaken | hleft
      · exact .inr htaken
      · rw [hsplit, List.pairwise_append] at hsorted
        exact .inl (List.rel_of_pairwise_cons hsorted.2.1 hleft)
  · cases h

/-! ## Reading all pages -/

section Reading

variable {visible : ℕ → List A} {limit : ℕ} {known wanted : List A}

theorem length_after_lt {cursor : Option K} {row : A} (hrow : row ∈ known)
    (hcursor : ∀ last ∈ cursor, last < key row) :
    (after key (some (key row)) known).length < (after key cursor known).length := by
  have hdropped : (after key (some (key row)) known) =
      (after key cursor known).filter fun other => decide (key row < key other) := by
    rw [after, after, List.filter_filter]
    apply List.filter_congr
    intro other _
    cases cursor with
    | none => simp
    | some last =>
      have hlast := hcursor last rfl
      by_cases hother : key row < key other
      · simp [hother, hlast.trans hother]
      · simp [hother]
  rw [hdropped]
  apply List.length_filter_lt_length_iff_exists.mpr
  exact ⟨row, mem_after.mpr ⟨hrow, hcursor⟩, by simp⟩

/-- The pages after a cursor are in order, list old rows only and list every wanted
row. -/
theorem pages_after (hlimit : 0 < limit)
    (hsorted : ∀ index, ((visible index).map key).Pairwise (· < ·))
    (hwanted : ∀ index, ∀ row ∈ wanted, row ∈ visible index)
    (hnew : ∀ index, ∀ row ∈ visible index, row ∈ known ∨
      ∀ old ∈ known, key row < key old)
    {fuel index : ℕ} {cursor : Option K}
    (hold : ∀ row ∈ after key cursor (visible index), row ∈ known)
    (hfuel : (after key cursor known).length < fuel) :
    ∃ items, pages key visible limit fuel index cursor = some items ∧
      (items.map key).Pairwise (· < ·) ∧
      (∀ row ∈ items, row ∈ known ∧ ∀ last ∈ cursor, last < key row) ∧
      ∀ row ∈ wanted, (∀ last ∈ cursor, last < key row) → row ∈ items := by
  induction fuel generalizing index cursor with
  | zero => exact absurd hfuel (Nat.not_lt_zero _)
  | succ fuel ih =>
    have hcandidates : ((after key cursor (visible index)).map key).Pairwise (· < ·) :=
      (hsorted index).sublist ((after_sublist cursor (visible index)).map key)
    have hselected : ∀ row ∈ (after key cursor (visible index)).take limit,
        row ∈ known ∧ ∀ last ∈ cursor, last < key row := by
      intro row hrow
      have hmem := List.mem_of_mem_take hrow
      exact ⟨hold row hmem, (mem_after.mp hmem).2⟩
    have hwantedHere : ∀ row ∈ wanted, (∀ last ∈ cursor, last < key row) →
        row ∈ after key cursor (visible index) := fun row hrow hlater =>
      mem_after.mpr ⟨hwanted index row hrow, hlater⟩
    rw [pages]
    cases hnext : next key limit (after key cursor (visible index)) with
    | none =>
      have hall := (next_eq_none_iff hlimit).mp hnext
      refine ⟨_, rfl, ?_, hselected, ?_⟩
      · exact hcandidates.sublist ((List.take_sublist _ _).map key)
      · intro row hrow hlater
        rw [List.take_of_length_le hall]
        exact hwantedHere row hrow hlater
    | some last =>
      obtain ⟨⟨final, hfinal, rfl⟩, hbelow, hleft⟩ :=
        exists_of_next_eq_some hcandidates hnext
      have hfinalOld := hold final hfinal
      have hfinalLater := (mem_after.mp hfinal).2
      have hrestOld : ∀ row ∈ after key (some (key final)) (visible (index + 1)),
          row ∈ known := by
        intro row hrow
        obtain ⟨hvisible, hlater⟩ := mem_after.mp hrow
        rcases hnew (index + 1) row hvisible with hin | hbefore
        · exact hin
        · exact absurd (hbefore final hfinalOld) (hlater _ rfl).asymm
      have hless := length_after_lt hfinalOld hfinalLater
      obtain ⟨rest, hpages, hrestSorted, hrest, hrestWanted⟩ :=
        ih hrestOld (by omega)
      have hboth := congrArg (Option.map
        fun rest => (after key cursor (visible index)).take limit ++ rest) hpages
      refine ⟨_, hboth, ?_, ?_, ?_⟩
      · rw [List.map_append, List.pairwise_append]
        refine ⟨hcandidates.sublist ((List.take_sublist _ _).map key), hrestSorted, ?_⟩
        intro early hearly late hlate
        obtain ⟨first, hfirst, rfl⟩ := List.mem_map.mp hearly
        obtain ⟨second, hsecond, rfl⟩ := List.mem_map.mp hlate
        exact (hbelow first hfirst).trans_lt ((hrest second hsecond).2 _ rfl)
      · intro row hrow
        rcases List.mem_append.mp hrow with hhere | hthere
        · exact hselected row hhere
        · refine ⟨(hrest row hthere).1, fun early hearly => ?_⟩
          exact (hfinalLater early hearly).trans ((hrest row hthere).2 _ rfl)
      · intro row hrow hlater
        rw [List.mem_append]
        rcases hleft row (hwantedHere row hrow hlater) with hover | htaken
        · right
          apply hrestWanted row hrow
          rintro _ ⟨⟩
          exact hover
        · exact .inl htaken

variable (key visible known wanted) in
/-- Read from the first page on, the pages list everything that is always visible. -/
theorem pages_enumerate (hlimit : 0 < limit)
    (hsorted : ∀ index, ((visible index).map key).Pairwise (· < ·))
    (hwanted : ∀ index, ∀ row ∈ wanted, row ∈ visible index)
    (hnew : ∀ index, ∀ row ∈ visible index, row ∈ known ∨
      ∀ old ∈ known, key row < key old)
    (hfirst : ∀ row ∈ visible 0, row ∈ known) :
    ∃ items, pages key visible limit (known.length + 1) 0 none = some items ∧
      (items.map key).Pairwise (· < ·) ∧ (∀ row ∈ items, row ∈ known) ∧
      ∀ row ∈ wanted, row ∈ items := by
  have hold : ∀ row ∈ after key none (visible 0), row ∈ known := fun row hrow =>
    hfirst row (mem_after.mp hrow).1
  have hfuel : (after key none known).length < known.length + 1 :=
    Nat.lt_succ_of_le (after_sublist none known).length_le
  obtain ⟨items, hpages, hitems, hin, hall⟩ :=
    pages_after hlimit hsorted hwanted hnew hold hfuel
  refine ⟨items, hpages, hitems, fun row hrow => (hin row hrow).1, fun row hrow => ?_⟩
  exact hall row hrow (by rintro _ ⟨⟩)

end Reading

end ReisOs.Core.Keyset
