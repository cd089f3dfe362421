import Mathlib.Data.List.Induction
import Mathlib.Data.List.Sort
import Mathlib.Data.Rat.Floor
import ReisOs.Core.Dict

/-!
# The longitudinal learning experiment

A contextual learner and a frozen control go through a stream of tasks whose contexts take
turns.  The mistakes that are repeated are counted between neighbouring cycles, so that
those of one context are not seen where another context comes between.
-/

namespace ReisOs.CognitiveValidation.LongitudinalLearning

open ReisOs.Core

structure LearningCycle where
  index : ℕ
  context : String
  action : String
  reward : ℕ
  learned : Bool
  deriving DecidableEq, Repr

structure LongitudinalMetrics where
  cycles : ℕ
  successes : ℕ
  successRate : ℚ
  firstWindowSuccessRate : ℚ
  finalWindowSuccessRate : ℚ
  repeatedMistakes : ℕ
  policyUpdates : ℕ
  deriving DecidableEq, Repr

structure LongitudinalExperimentResult where
  treatment : LongitudinalMetrics
  frozenBaseline : LongitudinalMetrics
  treatmentCycles : List LearningCycle
  baselineCycles : List LearningCycle
  deriving DecidableEq, Repr

/-! ## The policy -/

/-- For every action the sum of its rewards and how often it was taken. -/
abbrev ActionStats := Dict String (ℕ × ℕ)

structure ContextualPolicy where
  actions : List String
  learningEnabled : Bool
  stats : Dict String ActionStats
  updates : ℕ

namespace ContextualPolicy

/-- `__init__`. -/
def init (actions : List String) (learningEnabled : Bool) : Except String ContextualPolicy :=
  let normalized := actions.dedup.insertionSort (· ≤ ·)
  if normalized.length < 2 then .error "at least two actions are required"
  else .ok ⟨normalized, learningEnabled, ∅, 0⟩

/-- What `setdefault` finds for a context. -/
def contextStats (policy : ContextualPolicy) (context : String) : ActionStats :=
  (policy.stats.lookup context).getD
    (Dict.insertAll ∅ (policy.actions.map fun action => (action, (0, 0))))

def statsOf (stats : ActionStats) (action : String) : ℕ × ℕ :=
  (stats.lookup action).getD (0, 0)

/-- `score`: the mean reward, and the name where the means are equal. -/
def scoreLt (stats : ActionStats) (left right : String) : Prop :=
  ((statsOf stats left).1 : ℚ) / (statsOf stats left).2 <
      ((statsOf stats right).1 : ℚ) / (statsOf stats right).2 ∨
    ((statsOf stats left).1 : ℚ) / (statsOf stats left).2 =
      ((statsOf stats right).1 : ℚ) / (statsOf stats right).2 ∧ left < right

instance (stats : ActionStats) (left right : String) :
    Decidable (scoreLt stats left right) :=
  instDecidableOr

/-- `max` by the score. -/
def best (stats : ActionStats) (found : String) : List String → String
  | [] => found
  | action :: rest => best stats (if scoreLt stats found action then action else found) rest

/-- The action that is taken: each one once, then the best one. -/
def choice (policy : ContextualPolicy) (context : String) : String :=
  let stats := policy.contextStats context
  (policy.actions.find? fun action => (statsOf stats action).2 = 0).getD
    (best stats (policy.actions.headD "") policy.actions)

def select (policy : ContextualPolicy) (context : String) : String × ContextualPolicy :=
  if policy.learningEnabled then
    (policy.choice context,
      { policy with stats := policy.stats.insert context (policy.contextStats context) })
  else (policy.actions.headD "", policy)

/-- The statistics of a context after one more reward. -/
def rewarded (stats : ActionStats) (action : String) (reward : ℕ) : ActionStats :=
  stats.insert action ((statsOf stats action).1 + reward, (statsOf stats action).2 + 1)

def observe (policy : ContextualPolicy) (context action : String) (reward : ℕ) :
    Except String (Bool × ContextualPolicy) :=
  if reward ≠ 0 ∧ reward ≠ 1 then .error "reward must be binary"
  else if action ∉ policy.actions then .error "unknown action"
  else if policy.learningEnabled then
    .ok (true,
      { policy with
        stats := policy.stats.insert context
          (rewarded (policy.contextStats context) action reward)
        updates := policy.updates + 1 })
  else .ok (false, policy)

end ContextualPolicy

/-! ## The measures -/

/-- `_window_rate`. -/
def windowRate (cycles : List LearningCycle) (start stop : ℕ) : Except String ℚ :=
  let window := (cycles.take stop).drop start
  if window = [] then .error "window cannot be empty"
  else .ok (((window.map (·.reward)).sum : ℕ) / window.length)

/-- The condition under which two neighbouring cycles are counted. -/
def RepeatsCycle (previous current : LearningCycle) : Prop :=
  previous.context = current.context ∧ previous.action = current.action ∧
    previous.reward = current.reward ∧ current.reward = 0

instance (previous current : LearningCycle) : Decidable (RepeatsCycle previous current) :=
  instDecidableAnd

/-- The sum over `zip(cycles, cycles[1:])`. -/
def repeatedMistakes (cycles : List LearningCycle) : ℕ :=
  ((cycles.zip cycles.tail).filter fun pair => RepeatsCycle pair.1 pair.2).length

/-- `_metrics`. -/
def metrics (cycles : List LearningCycle) (policyUpdates window : ℕ) :
    Except String LongitudinalMetrics := do
  if cycles.length < window * 2 then
    throw "cycles must contain at least two measurement windows"
  let successes := (cycles.map (·.reward)).sum
  let first ← windowRate cycles 0 window
  let final ← windowRate cycles (cycles.length - window) cycles.length
  return {
    cycles := cycles.length
    successes := successes
    successRate := (successes : ℚ) / cycles.length
    firstWindowSuccessRate := first
    finalWindowSuccessRate := final
    repeatedMistakes := repeatedMistakes cycles
    policyUpdates := policyUpdates }

/-! ## The experiment -/

def contextAt (index : ℕ) : String := if index % 2 = 0 then "context-a" else "context-b"

/-- `target_by_context`. -/
def targetOf (context : String) : String := if context = "context-a" then "alpha" else "beta"

/-- What the loop has built up. -/
structure Progress where
  treatmentPolicy : ContextualPolicy
  baselinePolicy : ContextualPolicy
  treatmentCycles : List LearningCycle
  baselineCycles : List LearningCycle

/-- One pass through the body of the loop. -/
def cycle (progress : Progress) (index : ℕ) : Except String Progress := do
  let context := contextAt index
  let target := targetOf context
  let (treatmentAction, treatmentPolicy) := progress.treatmentPolicy.select context
  let treatmentReward := if treatmentAction = target then 1 else 0
  let (learned, treatmentPolicy) ←
    treatmentPolicy.observe context treatmentAction treatmentReward
  let (baselineAction, baselinePolicy) := progress.baselinePolicy.select context
  let baselineReward := if baselineAction = target then 1 else 0
  let (_, baselinePolicy) ← baselinePolicy.observe context baselineAction baselineReward
  return {
    treatmentPolicy := treatmentPolicy
    baselinePolicy := baselinePolicy
    treatmentCycles := progress.treatmentCycles ++
      [⟨index, context, treatmentAction, treatmentReward, learned⟩]
    baselineCycles := progress.baselineCycles ++
      [⟨index, context, baselineAction, baselineReward, false⟩] }

def runLongitudinalLearningExperiment (cycles window : ℕ) :
    Except String LongitudinalExperimentResult := do
  if cycles < 500 then throw "AB3 requires at least 500 cycles"
  if window < 20 ∨ cycles < window * 2 then throw "invalid measurement window"
  let treatmentPolicy ← ContextualPolicy.init ["alpha", "beta"] true
  let baselinePolicy ← ContextualPolicy.init ["alpha", "beta"] false
  let progress ← (List.range cycles).foldlM cycle ⟨treatmentPolicy, baselinePolicy, [], []⟩
  let treatment ← metrics progress.treatmentCycles progress.treatmentPolicy.updates window
  let baseline ← metrics progress.baselineCycles progress.baselinePolicy.updates window
  return {
    treatment := treatment
    frozenBaseline := baseline
    treatmentCycles := progress.treatmentCycles
    baselineCycles := progress.baselineCycles }

/-! ## Mistakes from visit to visit -/

/-- The last cycle of the context among those already seen. -/
def previousVisit (seen : List LearningCycle) (context : String) : Option LearningCycle :=
  seen.reverse.find? fun cycle => cycle.context = context

/-- The cycle fails with the action that had failed at the previous visit of its context. -/
def RepeatsVisit (seen : List LearningCycle) (current : LearningCycle) : Prop :=
  ∃ previous ∈ previousVisit seen current.context,
    previous.action = current.action ∧ previous.reward = 0 ∧ current.reward = 0

instance (seen : List LearningCycle) (current : LearningCycle) :
    Decidable (RepeatsVisit seen current) :=
  Option.decidableExistsMem (previousVisit seen current.context)

def visitMistakesFrom (seen : List LearningCycle) : List LearningCycle → ℕ
  | [] => 0
  | current :: rest =>
    (if RepeatsVisit seen current then 1 else 0) +
      visitMistakesFrom (seen ++ [current]) rest

/-- The number of mistakes repeated from one visit of a context to the next. -/
def visitMistakes (cycles : List LearningCycle) : ℕ := visitMistakesFrom [] cycles

theorem visitMistakesFrom_append (seen cycles : List LearningCycle)
    (current : LearningCycle) :
    visitMistakesFrom seen (cycles ++ [current]) =
      visitMistakesFrom seen cycles +
        if RepeatsVisit (seen ++ cycles) current then 1 else 0 := by
  induction cycles generalizing seen with
  | nil => simp [visitMistakesFrom]
  | cons first cycles ih =>
    rw [List.cons_append, visitMistakesFrom, ih, visitMistakesFrom, List.append_assoc,
      List.singleton_append, add_assoc]

theorem visitMistakes_append (cycles : List LearningCycle) (current : LearningCycle) :
    visitMistakes (cycles ++ [current]) =
      visitMistakes cycles + if RepeatsVisit cycles current then 1 else 0 :=
  visitMistakesFrom_append [] cycles current

theorem zip_tail_append {A : Type} (items : List A) (last : A) :
    (items ++ [last]).zip (items ++ [last]).tail =
      items.zip items.tail ++ (items.getLast?.map fun item => (item, last)).toList := by
  induction items with
  | nil => rfl
  | cons first items ih =>
    cases items with
    | nil => rfl
    | cons second items =>
      rw [List.getLast?_cons_cons]
      change (first, second) :: (second :: items ++ [last]).zip
        (second :: items ++ [last]).tail = _
      rw [ih]
      rfl

/-- The cycle right before repeats its mistake. -/
def RepeatsAtOnce (seen : List LearningCycle) (current : LearningCycle) : Prop :=
  ∃ previous ∈ seen.getLast?, RepeatsCycle previous current

instance (seen : List LearningCycle) (current : LearningCycle) :
    Decidable (RepeatsAtOnce seen current) :=
  Option.decidableExistsMem seen.getLast?

theorem repeats_last (last : Option LearningCycle) (current : LearningCycle) :
    ((last.map fun item => (item, current)).toList.filter fun pair =>
        RepeatsCycle pair.1 pair.2).length =
      if ∃ previous ∈ last, RepeatsCycle previous current then 1 else 0 := by
  cases last with
  | none => simp
  | some previous =>
    by_cases hrepeats : RepeatsCycle previous current
    · simp [hrepeats]
    · simp [hrepeats]

theorem repeatedMistakes_append (cycles : List LearningCycle) (current : LearningCycle) :
    repeatedMistakes (cycles ++ [current]) =
      repeatedMistakes cycles + if RepeatsAtOnce cycles current then 1 else 0 := by
  unfold repeatedMistakes
  rw [zip_tail_append, List.filter_append, List.length_append, repeats_last]
  rfl

variable {seen : List LearningCycle}

theorem previousVisit_last {previous : LearningCycle}
    {context : String} (hlast : seen.getLast? = some previous)
    (hcontext : previous.context = context) : previousVisit seen context = some previous := by
  obtain ⟨before, hbefore⟩ := List.getLast?_eq_some_iff.mp hlast
  rw [previousVisit, hbefore, List.reverse_append, List.reverse_singleton,
    List.singleton_append, List.find?_cons_of_pos]
  exact decide_eq_true hcontext

theorem RepeatsAtOnce.repeatsVisit {current : LearningCycle}
    (h : RepeatsAtOnce seen current) : RepeatsVisit seen current := by
  obtain ⟨previous, hlast, hcontext, haction, hreward, hfailed⟩ := h
  exact ⟨previous, previousVisit_last hlast hcontext, haction, hreward.trans hfailed, hfailed⟩

theorem RepeatsVisit.repeatsAtOnce {current : LearningCycle}
    (h : RepeatsVisit seen current)
    (hnext : ∃ previous ∈ seen.getLast?, previous.context = current.context) :
    RepeatsAtOnce seen current := by
  obtain ⟨previous, hlast, hcontext⟩ := hnext
  obtain ⟨visited, hvisited, haction, hreward, hfailed⟩ := h
  rw [previousVisit_last hlast hcontext] at hvisited
  cases hvisited
  exact ⟨previous, hlast, hcontext, haction, hreward.trans hfailed.symm, hfailed⟩

theorem repeatedMistakes_le (cycles : List LearningCycle) :
    repeatedMistakes cycles ≤ visitMistakes cycles := by
  induction cycles using List.reverseRecOn with
  | nil => exact Nat.le_refl 0
  | append_singleton cycles current ih =>
    rw [repeatedMistakes_append, visitMistakes_append]
    by_cases hvisit : RepeatsVisit cycles current
    · rw [if_pos hvisit]
      split_ifs
      · omega
      · omega
    · have honce : ¬ RepeatsAtOnce cycles current := fun h => hvisit h.repeatsVisit
      rw [if_neg hvisit, if_neg honce]
      exact ih

theorem repeatedMistakes_append_eq_iff (cycles : List LearningCycle)
    (current : LearningCycle) :
    repeatedMistakes (cycles ++ [current]) = visitMistakes (cycles ++ [current]) ↔
      repeatedMistakes cycles = visitMistakes cycles ∧
        (RepeatsVisit cycles current → RepeatsAtOnce cycles current) := by
  have hle := repeatedMistakes_le cycles
  rw [repeatedMistakes_append, visitMistakes_append]
  by_cases hvisit : RepeatsVisit cycles current
  · by_cases honce : RepeatsAtOnce cycles current
    · simp [hvisit, honce]
    · simp only [hvisit, honce, if_true, if_false, forall_true_left, and_false, iff_false]
      omega
  · have honce : ¬ RepeatsAtOnce cycles current := fun h => hvisit h.repeatsVisit
    simp [hvisit, honce]

/-- No mistake is repeated after cycles of other contexts. -/
def RepeatedOnlyAtOnce (cycles : List LearningCycle) : Prop :=
  ∀ seen current rest, cycles = seen ++ current :: rest → RepeatsVisit seen current →
    ∃ previous ∈ seen.getLast?, previous.context = current.context

theorem repeatedOnlyAtOnce_append (cycles : List LearningCycle) (current : LearningCycle) :
    RepeatedOnlyAtOnce (cycles ++ [current]) ↔
      RepeatedOnlyAtOnce cycles ∧ (RepeatsVisit cycles current →
        ∃ previous ∈ cycles.getLast?, previous.context = current.context) := by
  constructor
  · intro h
    constructor
    · intro seen middle rest hsplit
      apply h seen middle (rest ++ [current])
      rw [hsplit, List.append_assoc, List.cons_append]
    · exact h cycles current [] rfl
  · intro ⟨hbefore, hlast⟩ seen middle rest hsplit
    cases rest using List.reverseRecOn with
    | nil =>
      obtain ⟨hseen, hmiddle⟩ := List.append_inj' hsplit rfl
      cases hmiddle
      rw [← hseen]
      exact hlast
    | append_singleton rest last =>
      rw [← List.cons_append, ← List.append_assoc] at hsplit
      exact hbefore seen middle rest (List.append_inj' hsplit rfl).1

theorem repeatedMistakes_eq_iff (cycles : List LearningCycle) :
    repeatedMistakes cycles = visitMistakes cycles ↔ RepeatedOnlyAtOnce cycles := by
  induction cycles using List.reverseRecOn with
  | nil =>
    constructor
    · intro _ seen current rest hsplit
      simp at hsplit
    · exact fun _ => rfl
  | append_singleton cycles current ih =>
    rw [repeatedMistakes_append_eq_iff, repeatedOnlyAtOnce_append, ih]
    apply and_congr_right
    intro _
    constructor
    · intro h hvisit
      obtain ⟨previous, hlast, hrepeats⟩ := h hvisit
      exact ⟨previous, hlast, hrepeats.1⟩
    · exact fun h hvisit => hvisit.repeatsAtOnce (h hvisit)

variable {cycles : List LearningCycle}

theorem metrics_repeatedMistakes {policyUpdates window : ℕ}
    {measured : LongitudinalMetrics} (h : metrics cycles policyUpdates window = .ok measured) :
    measured.repeatedMistakes = repeatedMistakes cycles := by
  unfold metrics at h
  split_ifs at h with hshort
  · cases h
  · change (windowRate cycles 0 window >>= fun first =>
      windowRate cycles (cycles.length - window) cycles.length >>= fun final => _) = _ at h
    cases hfirst : windowRate cycles 0 window with
    | error error =>
      rw [hfirst] at h
      cases h
    | ok first =>
      rw [hfirst] at h
      cases hfinal : windowRate cycles (cycles.length - window) cycles.length with
      | error error =>
        simp only [bind, Except.bind, hfinal] at h
        cases h
      | ok final =>
        simp only [bind, Except.bind, hfinal] at h
        cases h
        rfl

/-! ## The measures of the experiment -/

namespace ContextualPolicy

theorem best_mem (stats : ActionStats) (found : String) (actions : List String) :
    best stats found actions ∈ found :: actions := by
  induction actions generalizing found with
  | nil => exact List.mem_cons_self
  | cons action rest ih =>
    rw [best]
    split_ifs
    · exact List.mem_cons_of_mem found (ih action)
    · cases List.mem_cons.mp (ih found) with
      | inl hfound =>
        rw [hfound]
        exact List.mem_cons_self
      | inr hrest => exact List.mem_cons_of_mem _ (List.mem_cons_of_mem _ hrest)

theorem headD_mem {actions : List String} (h : actions ≠ []) :
    actions.headD "" ∈ actions := by
  cases actions with
  | nil => exact absurd rfl h
  | cons action rest => exact List.mem_cons_self

variable {policy : ContextualPolicy}

theorem choice_mem (h : policy.actions ≠ []) (context : String) :
    policy.choice context ∈ policy.actions := by
  unfold choice
  simp only
  cases hfind : policy.actions.find? fun action =>
      (statsOf (policy.contextStats context) action).2 = 0 with
  | some action => exact List.mem_of_find?_eq_some hfind
  | none =>
    have hbest := best_mem (policy.contextStats context) (policy.actions.headD "")
      policy.actions
    cases List.mem_cons.mp hbest with
    | inl hhead =>
      rw [Option.getD_none, hhead]
      exact headD_mem h
    | inr hrest => exact hrest

theorem select_mem (h : policy.actions ≠ []) (context : String) :
    (policy.select context).1 ∈ policy.actions := by
  unfold select
  split_ifs
  · exact choice_mem h context
  · exact headD_mem h

theorem select_actions (policy : ContextualPolicy) (context : String) :
    (policy.select context).2.actions = policy.actions := by
  unfold select
  split_ifs
  all_goals rfl

theorem observe_ok {action : String} {reward : ℕ}
    (hreward : reward = 0 ∨ reward = 1) (haction : action ∈ policy.actions)
    (context : String) :
    ∃ learned after, policy.observe context action reward = .ok (learned, after) ∧
      after.actions = policy.actions := by
  unfold observe
  rw [if_neg (by omega), if_neg (not_not_intro haction)]
  split_ifs
  · exact ⟨_, _, rfl, rfl⟩
  · exact ⟨_, _, rfl, rfl⟩

end ContextualPolicy

/-- The control, which never learns. -/
def frozen : ContextualPolicy := ⟨["alpha", "beta"], false, ∅, 0⟩

def baselineAt (index : ℕ) : LearningCycle where
  index := index
  context := contextAt index
  action := "alpha"
  reward := if index % 2 = 0 then 1 else 0
  learned := false

/-- What holds before the cycle of an index. -/
structure Course (count : ℕ) (progress : Progress) : Prop where
  actions : progress.treatmentPolicy.actions = ["alpha", "beta"]
  baseline : progress.baselinePolicy = frozen
  contexts : progress.treatmentCycles.map (·.context) = (List.range count).map contextAt
  cycles : progress.baselineCycles = (List.range count).map baselineAt

theorem binary (p : Prop) [Decidable p] :
    (if p then 1 else 0) = 0 ∨ (if p then 1 else 0) = 1 := by
  split_ifs
  · exact Or.inr rfl
  · exact Or.inl rfl

theorem frozen_reward (index : ℕ) :
    (if (frozen.select (contextAt index)).1 = targetOf (contextAt index) then 1 else 0) =
      (baselineAt index).reward := by
  have hselect : (frozen.select (contextAt index)).1 = "alpha" := rfl
  rw [hselect, targetOf, contextAt, baselineAt]
  by_cases heven : index % 2 = 0
  · simp [heven]
  · simp [heven]

theorem Course.step {count : ℕ} {progress : Progress} (h : Course count progress) :
    ∃ after, cycle progress count = .ok after ∧ Course (count + 1) after := by
  have hactions : progress.treatmentPolicy.actions ≠ [] := by
    rw [h.actions]
    decide
  have hmem := ContextualPolicy.select_mem hactions (contextAt count)
  rw [← ContextualPolicy.select_actions progress.treatmentPolicy (contextAt count)] at hmem
  obtain ⟨learned, learner, hobserve, hlearner⟩ :=
    ContextualPolicy.observe_ok (binary ((progress.treatmentPolicy.select
      (contextAt count)).1 = targetOf (contextAt count))) hmem (contextAt count)
  have hfrozen : frozen.observe (contextAt count) (frozen.select (contextAt count)).1
      (baselineAt count).reward = .ok (false, frozen) := by
    have hbinary : (baselineAt count).reward = 0 ∨ (baselineAt count).reward = 1 :=
      (binary (count % 2 = 0))
    rw [ContextualPolicy.observe, if_neg (by omega),
      if_neg (not_not_intro (ContextualPolicy.select_mem (by decide) _))]
    rfl
  let treated : LearningCycle :=
    { index := count
      context := contextAt count
      action := (progress.treatmentPolicy.select (contextAt count)).1
      reward := if (progress.treatmentPolicy.select (contextAt count)).1 =
        targetOf (contextAt count) then 1 else 0
      learned := learned }
  refine ⟨⟨learner, frozen, progress.treatmentCycles ++ [treated],
    progress.baselineCycles ++ [baselineAt count]⟩, ?_, ?_⟩
  · unfold cycle
    simp only [hobserve, h.baseline, frozen_reward]
    change (frozen.observe (contextAt count) (frozen.select (contextAt count)).1
      (baselineAt count).reward >>= fun observed => _) = _
    rw [hfrozen]
    rfl
  · apply Course.mk
    · rw [hlearner, ContextualPolicy.select_actions, h.actions]
    · rfl
    · rw [List.map_append, h.contexts, List.range_succ, List.map_append]
      rfl
    · rw [h.cycles, List.range_succ, List.map_append]
      rfl

theorem course_run (count : ℕ) {progress : Progress} (h : Course 0 progress) :
    ∃ after, (List.range count).foldlM cycle progress = .ok after ∧ Course count after := by
  induction count with
  | zero => exact ⟨progress, rfl, h⟩
  | succ count ih =>
    obtain ⟨middle, hmiddle, hcourse⟩ := ih
    obtain ⟨after, hstep, hafter⟩ := hcourse.step
    refine ⟨after, ?_, hafter⟩
    rw [List.range_succ, List.foldlM_append, hmiddle]
    change [count].foldlM cycle middle = _
    rw [List.foldlM_cons, hstep]
    rfl

theorem contextAt_succ (index : ℕ) : contextAt index ≠ contextAt (index + 1) := by
  unfold contextAt
  by_cases heven : index % 2 = 0
  · rw [if_pos heven, if_neg (by omega)]
    decide
  · rw [if_neg heven, if_pos (by omega)]
    decide

theorem contextAt_add_two (index : ℕ) : contextAt (index + 2) = contextAt index := by
  rw [contextAt, Nat.add_mod_right, contextAt]

theorem repeatedMistakes_of_contexts {count : ℕ}
    (h : cycles.map (·.context) = (List.range count).map contextAt) :
    repeatedMistakes cycles = 0 := by
  induction cycles using List.reverseRecOn generalizing count with
  | nil => rfl
  | append_singleton cycles current ih =>
    cases count with
    | zero => simp at h
    | succ count =>
      rw [List.range_succ, List.map_append, List.map_append] at h
      obtain ⟨hbefore, hcurrent⟩ := List.append_inj' h rfl
      have hcontext : current.context = contextAt count := by
        simpa using hcurrent
      have honce : ¬ RepeatsAtOnce cycles current := by
        intro ⟨previous, hlast, hrepeats⟩
        obtain ⟨seen, hseen⟩ := List.getLast?_eq_some_iff.mp hlast
        cases count with
        | zero => simp [hseen] at hbefore
        | succ count =>
          rw [hseen, List.range_succ, List.map_append, List.map_append] at hbefore
          have hprevious : previous.context = contextAt count := by
            simpa using (List.append_inj' hbefore rfl).2
          apply contextAt_succ count
          rw [← hprevious, ← hcontext]
          exact hrepeats.1
      rw [repeatedMistakes_append, ih hbefore, if_neg honce]

theorem previousVisit_baseline (index : ℕ) :
    previousVisit ((List.range (index + 2)).map baselineAt) (contextAt (index + 2)) =
      some (baselineAt index) := by
  have hlast : ¬ (baselineAt (index + 1)).context = contextAt (index + 2) :=
    contextAt_succ (index + 1)
  have hvisit : (baselineAt index).context = contextAt (index + 2) :=
    (contextAt_add_two index).symm
  rw [previousVisit, List.range_succ, List.range_succ]
  simp only [List.map_append, List.map_cons, List.map_nil, List.reverse_append,
    List.reverse_cons, List.reverse_nil, List.nil_append, List.cons_append]
  rw [List.find?_cons_of_neg (by simpa using hlast), List.find?_cons_of_pos (by simpa using hvisit)]

/-- The frozen control repeats the mistake of every other visit to the second context. -/
theorem visitMistakes_baseline (count : ℕ) :
    visitMistakes ((List.range count).map baselineAt) = count / 2 - 1 := by
  induction count with
  | zero => rfl
  | succ count ih =>
    rw [List.range_succ, List.map_append, List.map_singleton, visitMistakes_append, ih]
    cases count with
    | zero => decide
    | succ count =>
      cases count with
      | zero => decide
      | succ index =>
        have hrepeats : RepeatsVisit ((List.range (index + 2)).map baselineAt)
            (baselineAt (index + 2)) ↔ index % 2 = 1 := by
          rw [RepeatsVisit]
          change (∃ previous ∈ previousVisit _ (contextAt (index + 2)), _) ↔ _
          rw [previousVisit_baseline]
          simp only [Option.mem_def, Option.some.injEq, exists_eq_left', baselineAt,
            Nat.add_mod_right, true_and, and_self]
          cases Nat.mod_two_eq_zero_or_one index with
          | inl heven => simp [heven]
          | inr hodd => simp [hodd]
        by_cases hodd : index % 2 = 1
        · rw [if_pos (hrepeats.mpr hodd)]
          omega
        · rw [if_neg (mt hrepeats.mp hodd)]
          omega

theorem windowRate_ok {start stop : ℕ} (hstart : start < stop)
    (hstop : stop ≤ cycles.length) : ∃ measured, windowRate cycles start stop = .ok measured := by
  have hne : (cycles.take stop).drop start ≠ [] := by
    rw [Ne, List.drop_eq_nil_iff, List.length_take]
    omega
  exact ⟨_, if_neg hne⟩

theorem metrics_ok {window : ℕ} (hwindow : 1 ≤ window)
    (hlength : window * 2 ≤ cycles.length) (policyUpdates : ℕ) :
    ∃ measured, metrics cycles policyUpdates window = .ok measured := by
  obtain ⟨first, hfirst⟩ := windowRate_ok (show 0 < window by omega)
    (show window ≤ cycles.length by omega)
  obtain ⟨final, hfinal⟩ := windowRate_ok
    (show cycles.length - window < cycles.length by omega) (Nat.le_refl _)
  rw [metrics, if_neg (by omega), hfirst, hfinal]
  exact ⟨_, rfl⟩

/-- In every experiment that is accepted no mistake is counted, however often the control
repeats its own. -/
theorem experiment_repeatedMistakes {cycles window : ℕ} (hcycles : 500 ≤ cycles)
    (hwindow : 20 ≤ window ∧ window * 2 ≤ cycles) :
    ∃ result, runLongitudinalLearningExperiment cycles window = .ok result ∧
      result.treatment.repeatedMistakes = 0 ∧ result.frozenBaseline.repeatedMistakes = 0 ∧
      visitMistakes result.baselineCycles = cycles / 2 - 1 := by
  have hinit : ∀ enabled, ContextualPolicy.init ["alpha", "beta"] enabled =
      .ok ⟨["alpha", "beta"], enabled, ∅, 0⟩ := by
    intro enabled
    rfl
  have hstart : Course 0 ⟨⟨["alpha", "beta"], true, ∅, 0⟩, frozen, [], []⟩ :=
    ⟨rfl, rfl, rfl, rfl⟩
  obtain ⟨progress, hrun, hcourse⟩ := course_run cycles hstart
  have htreatmentLength : progress.treatmentCycles.length = cycles := by
    have hlengths := congrArg List.length hcourse.contexts
    simpa using hlengths
  have hbaselineLength : progress.baselineCycles.length = cycles := by
    rw [hcourse.cycles, List.length_map, List.length_range]
  obtain ⟨treatment, htreatment⟩ := metrics_ok (show 1 ≤ window by omega)
    (show window * 2 ≤ progress.treatmentCycles.length by omega) progress.treatmentPolicy.updates
  obtain ⟨baseline, hbaseline⟩ := metrics_ok (show 1 ≤ window by omega)
    (show window * 2 ≤ progress.baselineCycles.length by omega) progress.baselinePolicy.updates
  have hcontexts : progress.baselineCycles.map (·.context) =
      (List.range cycles).map contextAt := by
    rw [hcourse.cycles, List.map_map]
    rfl
  refine ⟨⟨treatment, baseline, progress.treatmentCycles, progress.baselineCycles⟩, ?_, ?_, ?_,
    ?_⟩
  · unfold runLongitudinalLearningExperiment
    rw [if_neg (by omega), if_neg (by omega), hinit, hinit]
    change (List.range cycles).foldlM cycle ⟨_, frozen, [], []⟩ >>= (fun progress => _) = _
    rw [hrun]
    change metrics progress.treatmentCycles progress.treatmentPolicy.updates window >>=
      (fun treatment => _) = _
    rw [htreatment]
    change metrics progress.baselineCycles progress.baselinePolicy.updates window >>=
      (fun baseline => _) = _
    rw [hbaseline]
    rfl
  · rw [metrics_repeatedMistakes htreatment]
    exact repeatedMistakes_of_contexts hcourse.contexts
  · rw [metrics_repeatedMistakes hbaseline]
    exact repeatedMistakes_of_contexts hcontexts
  · rw [hcourse.cycles]
    exact visitMistakes_baseline cycles

/-- The control of the shortest experiment repeats 249 mistakes, and none is counted. -/
theorem experiment_uncounted :
    ∃ result, runLongitudinalLearningExperiment 500 20 = .ok result ∧
      result.frozenBaseline.repeatedMistakes = 0 ∧
      visitMistakes result.baselineCycles = 249 := by
  obtain ⟨result, hrun, -, hbaseline, hvisits⟩ :=
    experiment_repeatedMistakes (Nat.le_refl 500) (show 20 ≤ 20 ∧ 20 * 2 ≤ 500 by decide)
  exact ⟨result, hrun, hbaseline, hvisits⟩

/-- The metric counts the mistakes that are repeated from visit to visit exactly where each
of them is repeated at once. -/
theorem metrics_repeatedMistakes_iff {cycles : List LearningCycle}
    {policyUpdates window : ℕ} {measured : LongitudinalMetrics}
    (h : metrics cycles policyUpdates window = .ok measured) :
    measured.repeatedMistakes = visitMistakes cycles ↔ RepeatedOnlyAtOnce cycles := by
  rw [metrics_repeatedMistakes h]
  exact repeatedMistakes_eq_iff cycles

theorem metrics_repeatedMistakes_iff_twice :
    ∃ measured, metrics [⟨0, "a", "alpha", 0, true⟩, ⟨1, "a", "alpha", 0, true⟩] 2 1 =
        .ok measured ∧
      (measured.repeatedMistakes =
          visitMistakes [⟨0, "a", "alpha", 0, true⟩, ⟨1, "a", "alpha", 0, true⟩] ↔
        RepeatedOnlyAtOnce [⟨0, "a", "alpha", 0, true⟩, ⟨1, "a", "alpha", 0, true⟩]) := by
  have hlength : 1 * 2 ≤ [LearningCycle.mk 0 "a" "alpha" 0 true,
      ⟨1, "a", "alpha", 0, true⟩].length := by decide
  obtain ⟨measured, hmeasured⟩ := metrics_ok (Nat.le_refl 1) hlength 2
  exact ⟨measured, hmeasured, metrics_repeatedMistakes_iff hmeasured⟩

end ReisOs.CognitiveValidation.LongitudinalLearning
