import Mathlib.Algebra.Group.Action.Defs
import Mathlib.Data.List.Sort
import Mathlib.Data.Rat.Floor

/-!
# The plasticity experiment

The environment changes its target once, and a policy that revises its action after enough
failures in a row is measured before and after the change.  Rates are kept as the fractions
that the code divides out.
-/

namespace ReisOs.CognitiveValidation.Plasticity

structure PlasticityCycle where
  index : ℕ
  phase : String
  target : String
  action : String
  reward : ℕ
  switched : Bool
  deriving DecidableEq, Repr

structure PlasticityMetrics where
  cycles : ℕ
  preDriftSuccessRate : ℚ
  postDriftSuccessRate : ℚ
  finalWindowSuccessRate : ℚ
  adaptationLatency : ℕ
  switches : ℕ
  deriving DecidableEq, Repr

structure PlasticityExperimentResult where
  treatment : PlasticityMetrics
  frozenBaseline : PlasticityMetrics
  treatmentCycles : List PlasticityCycle
  baselineCycles : List PlasticityCycle
  deriving DecidableEq, Repr

/-! ## The policies -/

structure DriftAdaptivePolicy where
  actions : String × String
  current : String
  failureThreshold : ℕ
  consecutiveFailures : ℕ
  switches : ℕ
  deriving DecidableEq, Repr

namespace DriftAdaptivePolicy

/-- `__init__`. -/
def init (actions : List String) (failureThreshold : ℕ) :
    Except String DriftAdaptivePolicy :=
  match actions.dedup.insertionSort (· ≤ ·) with
  | [first, second] =>
    if failureThreshold < 1 then .error "failure_threshold must be positive"
    else .ok
      { actions := (first, second)
        current := first
        failureThreshold := failureThreshold
        consecutiveFailures := 0
        switches := 0 }
  | _ => .error "AB4 harness requires exactly two actions"

def select (policy : DriftAdaptivePolicy) : String := policy.current

/-- The action that a switch goes to. -/
def other (policy : DriftAdaptivePolicy) : String :=
  if policy.current = policy.actions.1 then policy.actions.2 else policy.actions.1

def observe (policy : DriftAdaptivePolicy) (reward : ℕ) :
    Except String (Bool × DriftAdaptivePolicy) :=
  if reward ≠ 0 ∧ reward ≠ 1 then .error "reward must be binary"
  else if reward = 1 then .ok (false, { policy with consecutiveFailures := 0 })
  else if policy.consecutiveFailures + 1 < policy.failureThreshold then
    .ok (false, { policy with consecutiveFailures := policy.consecutiveFailures + 1 })
  else
    .ok (true,
      { policy with
        current := policy.other
        consecutiveFailures := 0
        switches := policy.switches + 1 })

end DriftAdaptivePolicy

structure FrozenPolicy where
  action : String
  deriving DecidableEq, Repr

namespace FrozenPolicy

def select (policy : FrozenPolicy) : String := policy.action

def observe (_policy : FrozenPolicy) (reward : ℕ) : Except String Bool :=
  if reward ≠ 0 ∧ reward ≠ 1 then .error "reward must be binary" else .ok false

end FrozenPolicy

/-! ## The measures -/

/-- `_rate`. -/
def rate (cycles : List PlasticityCycle) : Except String ℚ :=
  if cycles = [] then .error "cycle window cannot be empty"
  else .ok (((cycles.map (·.reward)).sum : ℕ) / cycles.length)

/-- The loop over `enumerate(after)`: the first offset from which every reward is one, and
the length of the whole where there is none. -/
def latencyFrom (length offset : ℕ) : List PlasticityCycle → ℕ
  | [] => length
  | item :: rest =>
    if item.reward = 1 ∧ ∀ next ∈ item :: rest, next.reward = 1 then offset
    else latencyFrom length (offset + 1) rest

/-- `_metrics`. -/
def metrics (cycles : List PlasticityCycle) (preDriftCycles window switches : ℕ) :
    Except String PlasticityMetrics := do
  let before := cycles.take preDriftCycles
  let after := cycles.drop preDriftCycles
  let final := cycles.drop (cycles.length - window)
  let preRate ← rate before
  let postRate ← rate after
  let finalRate ← rate final
  return {
    cycles := cycles.length
    preDriftSuccessRate := preRate
    postDriftSuccessRate := postRate
    finalWindowSuccessRate := finalRate
    adaptationLatency := latencyFrom after.length 1 after
    switches := switches }

/-! ## The experiment -/

def phase (preDriftCycles index : ℕ) : String := if index < preDriftCycles then "A" else "B"

def target (preDriftCycles index : ℕ) : String :=
  if phase preDriftCycles index = "A" then "alpha" else "beta"

/-- What the loop has built up. -/
structure Progress where
  learner : DriftAdaptivePolicy
  baseline : FrozenPolicy
  treatmentCycles : List PlasticityCycle
  baselineCycles : List PlasticityCycle
  deriving DecidableEq, Repr

/-- One pass through the body of the loop. -/
def cycle (preDriftCycles : ℕ) (progress : Progress) (index : ℕ) : Except String Progress := do
  let phase := phase preDriftCycles index
  let target := target preDriftCycles index
  let action := progress.learner.select
  let reward := if action = target then 1 else 0
  let (switched, learner) ← progress.learner.observe reward
  let baselineAction := progress.baseline.select
  let baselineReward := if baselineAction = target then 1 else 0
  let _ ← progress.baseline.observe baselineReward
  return {
    learner := learner
    baseline := progress.baseline
    treatmentCycles :=
      progress.treatmentCycles ++ [⟨index, phase, target, action, reward, switched⟩]
    baselineCycles :=
      progress.baselineCycles ++ [⟨index, phase, target, baselineAction, baselineReward, false⟩] }

def runPlasticityExperiment
    (preDriftCycles postDriftCycles failureThreshold finalWindow : ℕ) :
    Except String PlasticityExperimentResult := do
  if preDriftCycles < 100 ∨ postDriftCycles < 100 then
    throw "AB4 requires at least 100 cycles per environment phase"
  if finalWindow < 20 ∨ postDriftCycles < finalWindow then throw "invalid final window"
  let learner ← DriftAdaptivePolicy.init ["alpha", "beta"] failureThreshold
  let progress ← (List.range (preDriftCycles + postDriftCycles)).foldlM
    (cycle preDriftCycles) ⟨learner, ⟨"alpha"⟩, [], []⟩
  let treatment ←
    metrics progress.treatmentCycles preDriftCycles finalWindow progress.learner.switches
  let frozenBaseline ← metrics progress.baselineCycles preDriftCycles finalWindow 0
  return {
    treatment := treatment
    frozenBaseline := frozenBaseline
    treatmentCycles := progress.treatmentCycles
    baselineCycles := progress.baselineCycles }

/-! ## The course of the experiment -/

/-- The learner before the cycle of an index. -/
def learnerAt (pre threshold index : ℕ) : DriftAdaptivePolicy where
  actions := ("alpha", "beta")
  current := if index < pre + threshold then "alpha" else "beta"
  failureThreshold := threshold
  consecutiveFailures := if index < pre + threshold then index - pre else 0
  switches := if index < pre + threshold then 0 else 1

def rewardAt (pre threshold index : ℕ) : ℕ :=
  if index < pre then 1 else if index < pre + threshold then 0 else 1

def treatmentAt (pre threshold index : ℕ) : PlasticityCycle where
  index := index
  phase := phase pre index
  target := target pre index
  action := (learnerAt pre threshold index).select
  reward := rewardAt pre threshold index
  switched := decide (index + 1 = pre + threshold)

def baselineAt (pre index : ℕ) : PlasticityCycle where
  index := index
  phase := phase pre index
  target := target pre index
  action := "alpha"
  reward := if index < pre then 1 else 0
  switched := false

theorem target_eq (pre index : ℕ) :
    target pre index = if index < pre then "alpha" else "beta" := by
  unfold target phase
  by_cases h : index < pre
  · rw [if_pos h, if_pos rfl, if_pos h]
  · rw [if_neg h, if_neg (by decide), if_neg h]

theorem reward_select (pre threshold index : ℕ) :
    (if (learnerAt pre threshold index).select = target pre index then 1 else 0) =
      rewardAt pre threshold index := by
  rw [target_eq, rewardAt, DriftAdaptivePolicy.select]
  simp only [learnerAt]
  by_cases hbefore : index < pre
  · have hswitch : index < pre + threshold := by omega
    simp [hbefore, hswitch]
  · by_cases hswitch : index < pre + threshold
    · simp [hbefore, hswitch]
    · simp [hbefore, hswitch]

theorem reward_baseline (pre index : ℕ) :
    (if (FrozenPolicy.mk "alpha").select = target pre index then 1 else 0) =
      (baselineAt pre index).reward := by
  rw [target_eq, FrozenPolicy.select]
  by_cases h : index < pre
  · simp [baselineAt, h]
  · simp [baselineAt, h]

variable {threshold : ℕ}

/-- What a cycle teaches the learner: only the failure that reaches the threshold makes it
switch. -/
theorem observe_learnerAt (hthreshold : 1 ≤ threshold) (pre index : ℕ) :
    (learnerAt pre threshold index).observe (rewardAt pre threshold index) =
      .ok (decide (index + 1 = pre + threshold), learnerAt pre threshold (index + 1)) := by
  by_cases hbefore : index < pre
  · have hswitch : index < pre + threshold := by omega
    have hnext : index + 1 < pre + threshold := by omega
    have hcount : index + 1 - pre = 0 := by omega
    have hne : index + 1 ≠ pre + threshold := by omega
    simp [DriftAdaptivePolicy.observe, learnerAt, rewardAt, hbefore, hswitch, hnext, hcount,
      hne]
  · by_cases hswitch : index < pre + threshold
    · by_cases hnext : index + 1 < pre + threshold
      · have hcount : index - pre + 1 < threshold := by omega
        have hsucc : index - pre + 1 = index + 1 - pre := by omega
        have hne : index + 1 ≠ pre + threshold := by omega
        simp [DriftAdaptivePolicy.observe, learnerAt, rewardAt, hbefore, hswitch, hnext,
          hcount, hne]
        omega
      · have hcount : ¬ index - pre + 1 < threshold := by omega
        have heq : index + 1 = pre + threshold := by omega
        simp [DriftAdaptivePolicy.observe, DriftAdaptivePolicy.other, learnerAt, rewardAt,
          hbefore, hswitch, hcount, heq]
    · have hnext : ¬ index + 1 < pre + threshold := by omega
      have hne : index + 1 ≠ pre + threshold := by omega
      simp [DriftAdaptivePolicy.observe, learnerAt, rewardAt, hbefore, hswitch, hnext, hne]

theorem observe_frozen (policy : FrozenPolicy) {reward : ℕ}
    (h : reward = 0 ∨ reward = 1) :
    policy.observe reward = .ok false := by
  rw [FrozenPolicy.observe, if_neg (by omega)]

theorem baselineAt_reward (pre index : ℕ) :
    (baselineAt pre index).reward = 0 ∨ (baselineAt pre index).reward = 1 := by
  simp only [baselineAt]
  split
  · exact Or.inr rfl
  · exact Or.inl rfl

theorem cycle_at (hthreshold : 1 ≤ threshold) (pre index : ℕ)
    (treatment baseline : List PlasticityCycle) :
    cycle pre ⟨learnerAt pre threshold index, ⟨"alpha"⟩, treatment, baseline⟩ index =
      .ok ⟨learnerAt pre threshold (index + 1), ⟨"alpha"⟩,
        treatment ++ [treatmentAt pre threshold index],
        baseline ++ [baselineAt pre index]⟩ := by
  have hlearner := observe_learnerAt hthreshold pre index
  have hfrozen := observe_frozen ⟨"alpha"⟩ (baselineAt_reward pre index)
  unfold cycle
  simp only [reward_select, reward_baseline, hlearner, hfrozen]
  rfl

theorem cycles_upto (hthreshold : 1 ≤ threshold) (pre count : ℕ) :
    (List.range count).foldlM (cycle pre) ⟨learnerAt pre threshold 0, ⟨"alpha"⟩, [], []⟩ =
      .ok ⟨learnerAt pre threshold count, ⟨"alpha"⟩,
        (List.range count).map (treatmentAt pre threshold),
        (List.range count).map (baselineAt pre)⟩ := by
  induction count with
  | zero => rfl
  | succ count ih =>
    rw [List.range_succ, List.foldlM_append, ih]
    have hstep := cycle_at hthreshold pre count
      ((List.range count).map (treatmentAt pre threshold))
      ((List.range count).map (baselineAt pre))
    rw [List.map_append, List.map_append]
    simp only [List.foldlM_cons, List.foldlM_nil, List.map_cons, List.map_nil]
    change cycle pre _ count >>= pure = _
    rw [hstep]
    rfl

/-! ## What is measured -/

theorem rewards_treatment {pre post : ℕ} (hpost : threshold ≤ post) :
    ((List.range (pre + post)).map (treatmentAt pre threshold)).map (·.reward) =
      List.replicate pre 1 ++
        (List.replicate threshold 0 ++ List.replicate (post - threshold) 1) := by
  apply List.ext_getElem
  · simp only [List.length_map, List.length_range, List.length_append, List.length_replicate]
    omega
  · intro index hleft hright
    simp only [List.getElem_map, List.getElem_range, treatmentAt, rewardAt,
      List.getElem_append, List.length_replicate, List.getElem_replicate]
    split_ifs
    all_goals first | rfl | omega

theorem rewards_baseline (pre post : ℕ) :
    ((List.range (pre + post)).map (baselineAt pre)).map (·.reward) =
      List.replicate pre 1 ++ List.replicate post 0 := by
  apply List.ext_getElem
  · simp only [List.length_map, List.length_range, List.length_append, List.length_replicate]
  · intro index hleft hright
    simp only [List.getElem_map, List.getElem_range, baselineAt, List.getElem_append,
      List.length_replicate, List.getElem_replicate]
    split_ifs
    all_goals rfl

variable {cycles : List PlasticityCycle}

theorem latencyFrom_phases {failures successes : ℕ}
    (length offset : ℕ)
    (h : cycles.map (·.reward) =
      List.replicate failures 0 ++ List.replicate (successes + 1) 1) :
    latencyFrom length offset cycles = offset + failures := by
  induction failures generalizing cycles offset with
  | zero =>
    rw [List.replicate_zero, List.nil_append] at h
    have hones : ∀ next ∈ cycles, next.reward = 1 := by
      intro next hnext
      have hmem : next.reward ∈ cycles.map (·.reward) := List.mem_map_of_mem hnext
      rw [h] at hmem
      exact List.eq_of_mem_replicate hmem
    cases cycles with
    | nil => simp [List.replicate_succ] at h
    | cons item rest =>
      rw [latencyFrom, if_pos ⟨hones item List.mem_cons_self, hones⟩, Nat.add_zero]
  | succ failures ih =>
    cases cycles with
    | nil => simp [List.replicate_succ] at h
    | cons item rest =>
      rw [List.replicate_succ, List.cons_append, List.map_cons, List.cons.injEq] at h
      have hfailed : ¬ item.reward = 1 := by omega
      rw [latencyFrom, if_neg (fun hboth => hfailed hboth.1), ih (offset + 1) h.2]
      omega

theorem latencyFrom_failures {failures : ℕ}
    (length offset : ℕ) (h : cycles.map (·.reward) = List.replicate failures 0) :
    latencyFrom length offset cycles = length := by
  induction cycles generalizing failures offset with
  | nil => rfl
  | cons item rest ih =>
    cases failures with
    | zero => simp at h
    | succ failures =>
      rw [List.map_cons, List.replicate_succ, List.cons.injEq] at h
      have hfailed : ¬ item.reward = 1 := by omega
      rw [latencyFrom, if_neg (fun hboth => hfailed hboth.1), ih (offset + 1) h.2]

theorem rate_of_rewards {rewards : List ℕ}
    (h : cycles.map (·.reward) = rewards) (hne : rewards ≠ []) :
    rate cycles = .ok ((rewards.sum : ℚ) / rewards.length) := by
  have hcycles : cycles ≠ [] := by
    intro hempty
    rw [hempty] at h
    exact hne h.symm
  rw [rate, if_neg hcycles, h, ← h, List.length_map]

theorem rewards_final (pre : ℕ) {post window : ℕ} (hpost : threshold ≤ post)
    (hwindow : window ≤ post) :
    (((List.range (pre + post)).map (treatmentAt pre threshold)).drop
        (pre + post - window)).map (·.reward) =
      List.replicate (window - (post - threshold)) 0 ++
        List.replicate (min window (post - threshold)) 1 := by
  rw [List.map_drop, rewards_treatment hpost]
  apply List.ext_getElem
  · simp only [List.length_drop, List.length_append, List.length_replicate]
    omega
  · intro index hleft hright
    simp only [List.length_append, List.length_replicate] at hright
    simp only [List.getElem_drop, List.getElem_append, List.length_replicate,
      List.getElem_replicate]
    split_ifs
    all_goals first | rfl | omega

theorem rewards_before (pre post threshold : ℕ) (hpost : threshold ≤ post) :
    (((List.range (pre + post)).map (treatmentAt pre threshold)).take pre).map (·.reward) =
      List.replicate pre 1 := by
  rw [List.map_take, rewards_treatment hpost]
  exact List.take_left' (List.length_replicate ..)

theorem rewards_after (pre post threshold : ℕ) (hpost : threshold ≤ post) :
    (((List.range (pre + post)).map (treatmentAt pre threshold)).drop pre).map (·.reward) =
      List.replicate threshold 0 ++ List.replicate (post - threshold) 1 := by
  rw [List.map_drop, rewards_treatment hpost]
  exact List.drop_left' (List.length_replicate ..)

theorem metrics_treatment {pre post window : ℕ} (hpre : 1 ≤ pre)
    (hpost : threshold < post) (hpositive : 1 ≤ window) (hwindow : window ≤ post)
    (switches : ℕ) :
    metrics ((List.range (pre + post)).map (treatmentAt pre threshold)) pre window switches =
      .ok
        { cycles := pre + post
          preDriftSuccessRate := 1
          postDriftSuccessRate := ((post - threshold : ℕ) : ℚ) / post
          finalWindowSuccessRate := ((min window (post - threshold) : ℕ) : ℚ) / window
          adaptationLatency := threshold + 1
          switches := switches } := by
  have hbefore := rate_of_rewards (rewards_before pre post threshold hpost.le)
    (by simp only [ne_eq, List.replicate_eq_nil_iff]; omega)
  have hafter := rate_of_rewards (rewards_after pre post threshold hpost.le)
    (by simp only [ne_eq, List.append_eq_nil_iff, List.replicate_eq_nil_iff]; omega)
  have hfinal := rate_of_rewards (rewards_final pre hpost.le hwindow)
    (by simp only [ne_eq, List.append_eq_nil_iff, List.replicate_eq_nil_iff]; omega)
  obtain ⟨successes, hsuccesses⟩ : ∃ successes, post - threshold = successes + 1 :=
    ⟨post - threshold - 1, by omega⟩
  have hlatency := latencyFrom_phases (pre + post - pre) 1
    ((rewards_after pre post threshold hpost.le).trans (by rw [hsuccesses]))
  have hnonzero : (pre : ℚ) ≠ 0 := by
    rw [Nat.cast_ne_zero]
    omega
  have hlengthAfter : threshold + (post - threshold) = post := by omega
  have hlengthFinal : window - (post - threshold) + min window (post - threshold) = window := by
    omega
  simp only [List.sum_append, List.sum_replicate, List.length_append, List.length_replicate,
    smul_eq_mul, mul_one, mul_zero, zero_add, hlengthAfter, hlengthFinal] at hbefore hafter hfinal
  unfold metrics
  simp only [List.length_map, List.length_range, List.length_drop, hbefore, hafter, hfinal,
    hlatency, div_self hnonzero]
  rw [add_comm 1 threshold]
  rfl

/-- The frozen policy never succeeds again. -/
def baselineMetrics (pre post : ℕ) : PlasticityMetrics where
  cycles := pre + post
  preDriftSuccessRate := 1
  postDriftSuccessRate := 0
  finalWindowSuccessRate := 0
  adaptationLatency := post
  switches := 0

theorem metrics_baseline {pre post window : ℕ} (hpre : 1 ≤ pre) (hpost : 1 ≤ post)
    (hpositive : 1 ≤ window) (hwindow : window ≤ post) :
    metrics ((List.range (pre + post)).map (baselineAt pre)) pre window 0 =
      .ok (baselineMetrics pre post) := by
  have hrewards := rewards_baseline pre post
  have htake : (((List.range (pre + post)).map (baselineAt pre)).take pre).map (·.reward) =
      List.replicate pre 1 := by
    rw [List.map_take, hrewards]
    exact List.take_left' (List.length_replicate ..)
  have hdrop : (((List.range (pre + post)).map (baselineAt pre)).drop pre).map (·.reward) =
      List.replicate post 0 := by
    rw [List.map_drop, hrewards]
    exact List.drop_left' (List.length_replicate ..)
  have hlast : (((List.range (pre + post)).map (baselineAt pre)).drop
      (pre + post - window)).map (·.reward) = List.replicate window 0 := by
    have hsplit : pre + post - window = pre + (post - window) := by omega
    rw [hsplit, ← List.drop_drop, List.map_drop, hdrop, List.drop_replicate]
    congr 1
    omega
  have hbefore := rate_of_rewards htake
    (by simp only [ne_eq, List.replicate_eq_nil_iff]; omega)
  have hafter := rate_of_rewards hdrop
    (by simp only [ne_eq, List.replicate_eq_nil_iff]; omega)
  have hfinal := rate_of_rewards hlast
    (by simp only [ne_eq, List.replicate_eq_nil_iff]; omega)
  have hlatency := latencyFrom_failures post 1 hdrop
  have hnonzero : (pre : ℚ) ≠ 0 := by
    rw [Nat.cast_ne_zero]
    omega
  simp only [List.sum_replicate, List.length_replicate, smul_eq_mul, mul_one, mul_zero,
    Nat.cast_zero, zero_div] at hbefore hafter hfinal
  unfold metrics
  simp only [List.length_map, List.length_range, List.length_drop, hbefore, hafter, hfinal,
    hlatency, div_self hnonzero, Nat.add_sub_cancel_left]
  rfl

/-! ## The result -/

theorem init_learner (h : 1 ≤ threshold) (pre : ℕ) :
    DriftAdaptivePolicy.init ["alpha", "beta"] threshold = .ok (learnerAt pre threshold 0) := by
  have hsorted : ["alpha", "beta"].dedup.insertionSort (· ≤ ·) = ["alpha", "beta"] := by
    decide
  have hswitch : 0 < pre + threshold := by omega
  rw [DriftAdaptivePolicy.init, hsorted]
  simp only [if_neg (Nat.not_lt.mpr h), learnerAt, if_pos hswitch, Nat.zero_sub]

/-- An experiment that is accepted, with a threshold that the second phase is long enough
for, ends with one switch: the learner fails as often as the threshold says, and from then
on not at all. -/
theorem runPlasticityExperiment_adapts {pre post threshold window : ℕ} (hpre : 100 ≤ pre)
    (hpost : 100 ≤ post) (hwindow : 20 ≤ window ∧ window ≤ post) (hthreshold : 1 ≤ threshold)
    (hlong : threshold < post) :
    ∃ result, runPlasticityExperiment pre post threshold window = .ok result ∧
      result.treatment =
        { cycles := pre + post
          preDriftSuccessRate := 1
          postDriftSuccessRate := ((post - threshold : ℕ) : ℚ) / post
          finalWindowSuccessRate := ((min window (post - threshold) : ℕ) : ℚ) / window
          adaptationLatency := threshold + 1
          switches := 1 } := by
  have hcycles := cycles_upto hthreshold pre (pre + post)
  have htreatment := metrics_treatment (show 1 ≤ pre by omega) hlong (by omega) hwindow.2
    (learnerAt pre threshold (pre + post)).switches
  have hbaseline := metrics_baseline (show 1 ≤ pre by omega) (by omega) (by omega) hwindow.2
  have hswitches : (learnerAt pre threshold (pre + post)).switches = 1 := by
    simp only [learnerAt]
    rw [if_neg (by omega)]
  rw [hswitches] at htreatment
  refine ⟨⟨_, baselineMetrics pre post, (List.range (pre + post)).map (treatmentAt pre threshold),
    (List.range (pre + post)).map (baselineAt pre)⟩, ?_, rfl⟩
  unfold runPlasticityExperiment
  rw [if_neg (by omega), if_neg (by omega), init_learner hthreshold pre]
  change (do
    let progress ← (List.range (pre + post)).foldlM (cycle pre)
      ⟨learnerAt pre threshold 0, ⟨"alpha"⟩, [], []⟩
    let treatment ← metrics progress.treatmentCycles pre window progress.learner.switches
    let frozenBaseline ← metrics progress.baselineCycles pre window 0
    return PlasticityExperimentResult.mk treatment frozenBaseline progress.treatmentCycles
      progress.baselineCycles) = _
  rw [hcycles]
  simp only [bind, Except.bind, hswitches, htreatment, hbaseline]
  rfl

theorem runPlasticityExperiment_adapts_three :
    ∃ result, runPlasticityExperiment 300 300 3 100 = .ok result ∧
      result.treatment =
        { cycles := 600
          preDriftSuccessRate := 1
          postDriftSuccessRate := ((300 - 3 : ℕ) : ℚ) / (300 : ℕ)
          finalWindowSuccessRate := ((min 100 (300 - 3) : ℕ) : ℚ) / (100 : ℕ)
          adaptationLatency := 4
          switches := 1 } :=
  runPlasticityExperiment_adapts (by decide) (by decide) (by decide) (by decide) (by decide)

end ReisOs.CognitiveValidation.Plasticity
