import Mathlib.Topology.Instances.Real.Lemmas
import Mathlib.Topology.Order.IntermediateValue
import Mathlib.Topology.Order.Compact
import Mathlib.Topology.Algebra.Order.Field
import Mathlib.Tactic.Linarith
import Mathlib.Tactic.NormNum

/-!
# Paths between their extremes

A continuous path through a unit of time, given by its ends and its extremes.  A path takes
every value between its extremes, and the first moment of a value exists.  The path that goes
straight to its maximum, to its minimum and to its end shows what the ends and the extremes do
not determine.
-/

namespace ReisOs.Core

/-- The path goes from one end to the other, and its extremes are the given ones. -/
structure Spans (path : ℝ → ℝ) (start finish low high : ℝ) : Prop where
  continuous : ContinuousOn path (Set.Icc 0 1)
  starts : path 0 = start
  finishes : path 1 = finish
  above : ∀ time ∈ Set.Icc (0 : ℝ) 1, low ≤ path time
  below : ∀ time ∈ Set.Icc (0 : ℝ) 1, path time ≤ high
  lowest : ∃ time ∈ Set.Icc (0 : ℝ) 1, path time = low
  highest : ∃ time ∈ Set.Icc (0 : ℝ) 1, path time = high

namespace Spans

variable {path : ℝ → ℝ} {start finish low high level : ℝ}

theorem neg (spans : Spans path start finish low high) :
    Spans (fun time => -path time) (-start) (-finish) (-high) (-low) where
  continuous := spans.continuous.neg
  starts := by rw [spans.starts]
  finishes := by rw [spans.finishes]
  above := fun time inside => neg_le_neg (spans.below time inside)
  below := fun time inside => neg_le_neg (spans.above time inside)
  lowest := by
    have ⟨time, inside, top⟩ := spans.highest
    exact ⟨time, inside, by rw [top]⟩
  highest := by
    have ⟨time, inside, bottom⟩ := spans.lowest
    exact ⟨time, inside, by rw [bottom]⟩

theorem meets (spans : Spans path start finish low high) {first last : ℝ}
    (begun : 0 ≤ first) (ended : last ≤ 1) (ordered : first ≤ last)
    (between : level ∈ Set.uIcc (path first) (path last)) :
    ∃ time ∈ Set.Icc first last, path time = level := by
  have part : Set.uIcc first last ⊆ Set.Icc (0 : ℝ) 1 := by
    rw [Set.uIcc_of_le ordered]
    exact Set.Icc_subset_Icc begun ended
  have ⟨time, inside, found⟩ := intermediate_value_uIcc (spans.continuous.mono part) between
  rw [Set.uIcc_of_le ordered] at inside
  exact ⟨time, inside, found⟩

theorem touches (spans : Spans path start finish low high) (least : low ≤ level)
    (most : level ≤ high) : ∃ time ∈ Set.Icc (0 : ℝ) 1, path time = level := by
  have ⟨bottom, inBottom, atBottom⟩ := spans.lowest
  have ⟨top, inTop, atTop⟩ := spans.highest
  by_cases ordered : bottom ≤ top
  · have between : level ∈ Set.uIcc (path bottom) (path top) := by
      rw [atBottom, atTop]
      exact Set.mem_uIcc_of_le least most
    have ⟨time, inside, found⟩ := spans.meets inBottom.1 inTop.2 ordered between
    exact ⟨time, ⟨le_trans inBottom.1 inside.1, le_trans inside.2 inTop.2⟩, found⟩
  · have between : level ∈ Set.uIcc (path top) (path bottom) := by
      rw [atBottom, atTop]
      exact Set.mem_uIcc_of_ge least most
    have ⟨time, inside, found⟩ :=
      spans.meets inTop.1 inBottom.2 (le_of_not_ge ordered) between
    exact ⟨time, ⟨le_trans inTop.1 inside.1, le_trans inside.2 inBottom.2⟩, found⟩

theorem first_touch (spans : Spans path start finish low high) (least : low ≤ level)
    (most : level ≤ high) :
    ∃ time ∈ Set.Icc (0 : ℝ) 1, path time = level ∧
      ∀ earlier ∈ Set.Icc (0 : ℝ) 1, earlier < time → path earlier ≠ level := by
  have closed : IsClosed (Set.Icc (0 : ℝ) 1 ∩ Set.preimage path {level}) :=
    spans.continuous.preimage_isClosed_of_isClosed isClosed_Icc isClosed_singleton
  have compact : IsCompact (Set.Icc (0 : ℝ) 1 ∩ Set.preimage path {level}) :=
    isCompact_Icc.of_isClosed_subset closed Set.inter_subset_left
  have ⟨moment, inside, found⟩ := spans.touches least most
  have ⟨time, member, first⟩ := compact.exists_isLeast ⟨moment, inside, found⟩
  refine ⟨time, member.1, member.2, fun earlier early before same => ?_⟩
  have late : time ≤ earlier := first ⟨early, same⟩
  exact absurd late (not_le_of_gt before)

/-- A path that starts at or below a value, or that ends above a higher one, is above the
higher one after the first moment of the value. -/
theorem rises_after (spans : Spans path start finish low high) {upper time : ℝ}
    (higher : level < upper) (reached : upper ≤ high) (inside : time ∈ Set.Icc (0 : ℝ) 1)
    (first : ∀ earlier ∈ Set.Icc (0 : ℝ) 1, earlier < time → path earlier ≠ level)
    (shown : start ≤ level ∨ upper ≤ finish) :
    ∃ later ∈ Set.Icc (0 : ℝ) 1, time ≤ later ∧ upper ≤ path later := by
  cases shown with
  | inr ends => exact ⟨1, ⟨zero_le_one, le_refl 1⟩, inside.2, by rwa [spans.finishes]⟩
  | inl starts =>
    have ⟨top, inTop, atTop⟩ := spans.highest
    refine ⟨top, inTop, ?_, by rwa [atTop]⟩
    -- the path cannot be at its maximum before it has met the value
    apply le_of_not_gt
    intro early
    have between : level ∈ Set.uIcc (path 0) (path top) := by
      rw [spans.starts, atTop]
      exact Set.mem_uIcc_of_le starts (le_trans (le_of_lt higher) reached)
    have ⟨moment, met, same⟩ := spans.meets (le_refl 0) inTop.2 inTop.1 between
    exact first moment ⟨met.1, le_trans met.2 inTop.2⟩ (lt_of_le_of_lt met.2 early) same

end Spans

/-! ## Straight to the maximum, to the minimum and to the end -/

/-- The path through four corners, a third of the time apart. -/
noncomputable def zigzag (start top bottom finish time : ℝ) : ℝ :=
  if time ≤ 1 / 3 then start + 3 * time * (top - start)
  else if time ≤ 2 / 3 then top + (3 * time - 1) * (bottom - top)
  else bottom + (3 * time - 2) * (finish - bottom)

section Zigzag

variable {start top bottom finish : ℝ}

theorem zigzag_continuous : Continuous (zigzag start top bottom finish) := by
  unfold zigzag
  apply Continuous.if_le
  · fun_prop
  · apply Continuous.if_le
    · fun_prop
    · fun_prop
    · fun_prop
    · fun_prop
    · intro time corner
      rw [corner]
      ring
  · fun_prop
  · fun_prop
  · intro time corner
    rw [corner]
    norm_num

theorem mean_bounds {weight one other : ℝ} (least : 0 ≤ weight) (most : weight ≤ 1) :
    min one other ≤ one + weight * (other - one) ∧
      one + weight * (other - one) ≤ max one other := by
  have rest : 0 ≤ 1 - weight := by linarith
  have split : one + weight * (other - one) = (1 - weight) * one + weight * other := by ring
  rw [split]
  constructor
  · calc min one other = (1 - weight) * min one other + weight * min one other := by ring
      _ ≤ (1 - weight) * one + weight * other :=
          add_le_add (mul_le_mul_of_nonneg_left (min_le_left _ _) rest)
            (mul_le_mul_of_nonneg_left (min_le_right _ _) least)
  · calc (1 - weight) * one + weight * other
        ≤ (1 - weight) * max one other + weight * max one other :=
          add_le_add (mul_le_mul_of_nonneg_left (le_max_left _ _) rest)
            (mul_le_mul_of_nonneg_left (le_max_right _ _) least)
      _ = max one other := by ring

variable {time : ℝ}

variable (start top bottom finish) in
theorem zigzag_first (begun : 0 ≤ time) (early : time ≤ 1 / 3) :
    min start top ≤ zigzag start top bottom finish time ∧
      zigzag start top bottom finish time ≤ max start top := by
  rw [zigzag, if_pos early]
  exact mean_bounds (by linarith) (by linarith)

variable (start top bottom finish) in
theorem zigzag_second (begun : 1 / 3 < time) (early : time ≤ 2 / 3) :
    min top bottom ≤ zigzag start top bottom finish time ∧
      zigzag start top bottom finish time ≤ max top bottom := by
  rw [zigzag, if_neg (not_le_of_gt begun), if_pos early]
  exact mean_bounds (by linarith) (by linarith)

variable (start top bottom finish) in
theorem zigzag_third (begun : 2 / 3 < time) (early : time ≤ 1) :
    min bottom finish ≤ zigzag start top bottom finish time ∧
      zigzag start top bottom finish time ≤ max bottom finish := by
  have late : ¬ time ≤ 1 / 3 := by linarith
  rw [zigzag, if_neg late, if_neg (not_le_of_gt begun)]
  exact mean_bounds (by linarith) (by linarith)

theorem zigzag_bounds (low : bottom ≤ min start finish) (high : max start finish ≤ top) (inside : time ∈ Set.Icc (0 : ℝ) 1) :
    bottom ≤ zigzag start top bottom finish time ∧
      zigzag start top bottom finish time ≤ top := by
  have ⟨lowStart, lowFinish⟩ := le_min_iff.mp low
  have ⟨highStart, highFinish⟩ := max_le_iff.mp high
  by_cases first : time ≤ 1 / 3
  · have ⟨least, most⟩ := zigzag_first start top bottom finish inside.1 first
    rw [min_eq_left highStart] at least
    rw [max_eq_right highStart] at most
    exact ⟨le_trans lowStart least, most⟩
  · by_cases second : time ≤ 2 / 3
    · have ⟨least, most⟩ := zigzag_second start top bottom finish
        (lt_of_not_ge first) second
      have lowTop : bottom ≤ top := le_trans lowStart highStart
      rw [min_eq_right lowTop] at least
      rw [max_eq_left lowTop] at most
      exact ⟨least, most⟩
    · have ⟨least, most⟩ := zigzag_third start top bottom finish
        (lt_of_not_ge second) inside.2
      rw [min_eq_left lowFinish] at least
      rw [max_eq_right lowFinish] at most
      exact ⟨least, le_trans most highFinish⟩

theorem zigzag_spans (low : bottom ≤ min start finish) (high : max start finish ≤ top) :
    Spans (zigzag start top bottom finish) start finish bottom top where
  continuous := zigzag_continuous.continuousOn
  starts := by norm_num [zigzag]
  finishes := by norm_num [zigzag]
  above := fun _ inside => (zigzag_bounds low high inside).1
  below := fun _ inside => (zigzag_bounds low high inside).2
  lowest := ⟨2 / 3, by norm_num, by norm_num [zigzag]⟩
  highest := ⟨1 / 3, by norm_num, by norm_num [zigzag]⟩

/-- A path that starts above a value and goes to its maximum first does not come back to a
higher value that its end is below. -/
theorem zigzag_stays {level upper later : ℝ} (startAbove : level < start)
    (high : start ≤ top) (lowest : bottom ≤ level) (higher : level < upper)
    (finishBelow : finish < upper) (begun : 0 ≤ time)
    (touched : zigzag start top bottom finish time = level) (after : time ≤ later)
    (ended : later ≤ 1) : zigzag start top bottom finish later < upper := by
  have notFirst : 1 / 3 < time := by
    apply lt_of_not_ge
    intro early
    have least := (zigzag_first start top bottom finish begun early).1
    rw [min_eq_left high, touched] at least
    linarith
  by_cases second : later ≤ 2 / 3
  · -- between the maximum and the minimum the path only falls
    have falls : zigzag start top bottom finish later ≤ zigzag start top bottom finish time := by
      rw [zigzag, zigzag, if_neg (by linarith), if_pos second, if_neg (by linarith),
        if_pos (le_trans after second)]
      have drop : bottom - top ≤ 0 := by linarith
      have := mul_le_mul_of_nonpos_right (show 3 * time - 1 ≤ 3 * later - 1 by linarith) drop
      linarith
    linarith
  · have most := (zigzag_third start top bottom finish (lt_of_not_ge second) ended).2
    have end_ : max bottom finish < upper := max_lt (by linarith) finishBelow
    linarith

end Zigzag

end ReisOs.Core
