import Mathlib.Data.List.Sort
import Mathlib.Data.String.Basic
import ReisOs.CognitiveValidation.InstitutionalState
import ReisOs.CognitiveValidation.OperationalLearning
import ReisOs.Core.Json

/-!
# The closed operational learning loop

A failed capability is left out when the next one is chosen, and it is the only one that is.
The loop remembers no failure for longer than a step, so that two failing capabilities can
take turns for ever.
-/

namespace ReisOs.CognitiveValidation

open ReisOs.Core

structure ClosedOperationalLearningResult where
  feedback : LearningFeedback
  previousPlan : OperationalPlan
  nextPlan : OperationalPlan
  routeChanged : Bool
  learningReceipt : String
  deriving DecidableEq, Repr

namespace LearningLoop

variable {V : Type}

def optionalText : Option String → Json ℤ
  | none => .null
  | some value => .string value

/-- The payload of the feedback receipt. -/
def feedbackPayload (feedback : LearningFeedback) : Json ℤ :=
  .object
    [("mission_id", .string feedback.missionId),
      ("evidence_receipt", .string feedback.evidenceReceipt),
      ("state_hash", .string feedback.stateHash),
      ("state_version", .number feedback.stateVersion),
      ("outcome", .string feedback.outcome),
      ("failed_capability_id", optionalText feedback.failedCapabilityId)]

/-- The payload of the receipt of a plan that follows another one. -/
def planPayload (missionId : String) (planRevision : ℤ)
    (selectedCapabilityId priorPlanReceipt feedbackReceipt stateHash : String) : Json ℤ :=
  .object
    [("mission_id", .string missionId),
      ("plan_revision", .number planRevision),
      ("selected_capability_id", .string selectedCapabilityId),
      ("prior_plan_receipt", .string priorPlanReceipt),
      ("feedback_receipt", .string feedbackReceipt),
      ("state_hash", .string stateHash)]

def learningPayload (previousPlanReceipt feedbackReceipt nextPlanReceipt : String)
    (routeChanged : Bool) : Json ℤ :=
  .object
    [("previous_plan_receipt", .string previousPlanReceipt),
      ("feedback_receipt", .string feedbackReceipt),
      ("next_plan_receipt", .string nextPlanReceipt),
      ("route_changed", .bool routeChanged)]

def outcomes : List String := ["SUCCESS", "FAILURE", "PARTIAL"]

def failedCapability (previousPlan : OperationalPlan) (outcome : String) : Option String :=
  if outcome = "FAILURE" ∨ outcome = "PARTIAL" then some previousPlan.selectedCapabilityId
  else none

/-- The other candidates in the order of their names. -/
def alternatives (candidates : List String) (failed : String) : List String :=
  (candidates.filter fun item => item ≠ failed).insertionSort (· ≤ ·)

/-- The capability of the next plan. -/
def nextCapability (candidates : List String) (selected : String) :
    Option String → Except String String
  | none => .ok selected
  | some failed =>
    match alternatives candidates failed with
    | [] => .error "learning_no_alternative_route"
    | next :: _ => .ok next

variable (digest : Json ℤ → String)

def closeLoop (previousPlan : OperationalPlan) (coi11Result : ObservationEvidenceStateResult V)
    (candidateCapabilities : List String) (outcome : String) :
    Except String ClosedOperationalLearningResult := do
  if outcome ∉ outcomes then throw "learning_outcome_invalid"
  if candidateCapabilities = [] ∨
      ∃ item ∈ candidateCapabilities, item.toList.all Kernel.AuditFile.isSpace then
    throw "learning_candidates_required"
  if ¬ candidateCapabilities.Nodup then throw "learning_duplicate_candidate"
  let evidence := coi11Result.evidence
  let state := coi11Result.stateSnapshot
  if previousPlan.missionId ≠ evidence.missionId ∨ state.missionId ≠ evidence.missionId then
    throw "learning_mission_mismatch"
  if state.evidenceReceipt ≠ evidence.evidenceReceipt then
    throw "learning_evidence_state_mismatch"
  if previousPlan.stateHash = state.stateHash then throw "learning_requires_new_state"
  if previousPlan.selectedCapabilityId ∉ candidateCapabilities then
    throw "learning_previous_route_not_candidate"
  let feedback : LearningFeedback :=
    { missionId := evidence.missionId
      evidenceReceipt := evidence.evidenceReceipt
      stateHash := state.stateHash
      stateVersion := state.stateVersion
      outcome := outcome
      failedCapabilityId := failedCapability previousPlan outcome }
  let feedbackReceipt := digest (feedbackPayload feedback)
  let next ← nextCapability candidateCapabilities previousPlan.selectedCapabilityId
    feedback.failedCapabilityId
  let nextPlan : OperationalPlan :=
    { missionId := previousPlan.missionId
      planRevision := previousPlan.planRevision + 1
      selectedCapabilityId := next
      priorPlanReceipt := some previousPlan.planReceipt
      feedbackReceipt := some feedbackReceipt
      stateHash := state.stateHash
      planReceipt := digest (planPayload previousPlan.missionId (previousPlan.planRevision + 1)
        next previousPlan.planReceipt feedbackReceipt state.stateHash) }
  let routeChanged := decide (next ≠ previousPlan.selectedCapabilityId)
  return {
    feedback := feedback
    previousPlan := previousPlan
    nextPlan := nextPlan
    routeChanged := routeChanged
    learningReceipt := digest (learningPayload previousPlan.planReceipt feedbackReceipt
      nextPlan.planReceipt routeChanged) }

/-- What `close_loop` asks of the candidates. -/
structure Valid (candidates : List String) : Prop where
  named : ∀ item ∈ candidates, ¬ item.toList.all Kernel.AuditFile.isSpace = true
  distinct : candidates.Nodup

/-- The result is evidence of a new state of the plan's mission. -/
structure Evidenced (plan : OperationalPlan) (result : ObservationEvidenceStateResult V) :
    Prop where
  mission : plan.missionId = result.evidence.missionId
  snapshot : result.stateSnapshot.missionId = result.evidence.missionId
  receipt : result.stateSnapshot.evidenceReceipt = result.evidence.evidenceReceipt
  fresh : plan.stateHash ≠ result.stateSnapshot.stateHash

/-- The outcome of a capability: a success or a failure. -/
def outcomeOf (works : String → Bool) (capability : String) : String :=
  if works capability then "SUCCESS" else "FAILURE"

/-- Each step closes the loop over its own result, and the next plan goes into the next
step. -/
def iterate (candidates : List String) (works : String → Bool)
    (results : ℕ → ObservationEvidenceStateResult V) (plan : OperationalPlan) :
    ℕ → Except String OperationalPlan
  | 0 => .ok plan
  | count + 1 => do
      let previous ← iterate candidates works results plan count
      let closed ← closeLoop digest previous (results count) candidates
        (outcomeOf works previous.selectedCapabilityId)
      return closed.nextPlan

/-- The results follow each other with new states, the first of them after that of the
plan. -/
structure Observed (plan : OperationalPlan)
    (results : ℕ → ObservationEvidenceStateResult V) : Prop where
  first : Evidenced plan (results 0)
  mission : ∀ count, (results count).evidence.missionId = plan.missionId
  snapshot : ∀ count,
    (results count).stateSnapshot.missionId = (results count).evidence.missionId
  receipt : ∀ count,
    (results count).stateSnapshot.evidenceReceipt = (results count).evidence.evidenceReceipt
  fresh : ∀ count,
    (results count).stateSnapshot.stateHash ≠ (results (count + 1)).stateSnapshot.stateHash

/-! ## One step -/

section Steps

variable {candidates : List String} {works : String → Bool}

variable {plan : OperationalPlan}

theorem closeLoop_next {result : ObservationEvidenceStateResult V}
    {outcome next : String} (houtcome : outcome ∈ outcomes) (hvalid : Valid candidates)
    (hselected : plan.selectedCapabilityId ∈ candidates) (hevidenced : Evidenced plan result)
    (hnext : nextCapability candidates plan.selectedCapabilityId
      (failedCapability plan outcome) = .ok next) :
    ∃ closed, closeLoop digest plan result candidates outcome = .ok closed ∧
      closed.nextPlan.selectedCapabilityId = next ∧
      closed.nextPlan.missionId = plan.missionId ∧
      closed.nextPlan.stateHash = result.stateSnapshot.stateHash := by
  have hne : candidates ≠ [] := List.ne_nil_of_mem hselected
  have hnamed : ¬ (candidates = [] ∨
      ∃ item ∈ candidates, item.toList.all Kernel.AuditFile.isSpace = true) := by
    rintro (hempty | ⟨item, hitem, hblank⟩)
    · exact hne hempty
    · exact hvalid.named item hitem hblank
  have hmission : ¬ (plan.missionId ≠ result.evidence.missionId ∨
      result.stateSnapshot.missionId ≠ result.evidence.missionId) := by
    rw [not_or, not_not, not_not]
    exact ⟨hevidenced.mission, hevidenced.snapshot⟩
  unfold closeLoop
  rw [if_neg (not_not_intro houtcome), if_neg hnamed,
    if_neg (not_not_intro hvalid.distinct)]
  simp only
  rw [if_neg hmission, if_neg (not_not_intro hevidenced.receipt), if_neg hevidenced.fresh,
    if_neg (not_not_intro hselected), hnext]
  exact ⟨_, rfl, rfl, rfl, rfl⟩

theorem outcomeOf_mem (capability : String) : outcomeOf works capability ∈ outcomes := by
  unfold outcomeOf
  cases works capability with
  | true => decide
  | false => decide

theorem nextCapability_works
    (h : works plan.selectedCapabilityId = true) :
    nextCapability candidates plan.selectedCapabilityId
      (failedCapability plan (outcomeOf works plan.selectedCapabilityId)) =
      .ok plan.selectedCapabilityId := by
  rw [outcomeOf, if_pos h]
  rfl

variable {rest : List String}

theorem nextCapability_fails {next : String}
    (h : works plan.selectedCapabilityId = false)
    (halternatives : alternatives candidates plan.selectedCapabilityId = next :: rest) :
    nextCapability candidates plan.selectedCapabilityId
      (failedCapability plan (outcomeOf works plan.selectedCapabilityId)) = .ok next := by
  rw [outcomeOf, h]
  change nextCapability candidates _ (some plan.selectedCapabilityId) = _
  rw [nextCapability, halternatives]

theorem alternatives_eq (failed : String) :
    alternatives candidates failed =
      (candidates.insertionSort (· ≤ ·)).filter fun item => item ≠ failed := by
  apply List.Perm.eq_of_pairwise' (List.pairwise_insertionSort (· ≤ ·) _)
    ((List.pairwise_insertionSort (· ≤ ·) candidates).filter _)
  have hperm := List.perm_insertionSort (· ≤ ·) candidates
  exact (List.perm_insertionSort _ _).trans (hperm.filter _).symm

variable {least second : String}

/-- The least candidate is the alternative to every other one, and the one after it is the
alternative to the least. -/
theorem alternatives_head
    (hvalid : Valid candidates)
    (hsorted : candidates.insertionSort (· ≤ ·) = least :: second :: rest) (failed : String) :
    ∃ others, alternatives candidates failed =
      (if failed = least then second else least) :: others := by
  have hnodup : (least :: second :: rest).Nodup := by
    rw [← hsorted]
    exact (List.perm_insertionSort _ _).nodup_iff.mpr hvalid.distinct
  have hne : second ≠ least := fun heq =>
    (List.nodup_cons.mp hnodup).1 (heq ▸ List.mem_cons_self)
  rw [alternatives_eq, hsorted]
  by_cases hleast : failed = least
  · rw [if_pos hleast, List.filter_cons_of_neg (by simp [hleast]),
      List.filter_cons_of_pos (by simpa [hleast] using hne)]
    exact ⟨_, rfl⟩
  · rw [if_neg hleast, List.filter_cons_of_pos (by simpa using Ne.symm hleast)]
    exact ⟨_, rfl⟩

/-- The capability that follows the given one. -/
def following (works : String → Bool) (least second selected : String) : String :=
  if works selected then selected else if selected = least then second else least

theorem following_works {selected : String} (h : works selected = true) :
    following works least second selected = selected := if_pos h

theorem nextCapability_following (works : String → Bool) (hvalid : Valid candidates)
    (hsorted : candidates.insertionSort (· ≤ ·) = least :: second :: rest)
    (plan : OperationalPlan) :
    nextCapability candidates plan.selectedCapabilityId
        (failedCapability plan (outcomeOf works plan.selectedCapabilityId)) =
      .ok (following works least second plan.selectedCapabilityId) := by
  cases hworks : works plan.selectedCapabilityId with
  | true => rw [nextCapability_works hworks, following_works hworks]
  | false =>
    obtain ⟨others, hothers⟩ :=
      alternatives_head hvalid hsorted plan.selectedCapabilityId
    rw [nextCapability_fails hworks hothers, following, hworks]
    rfl

theorem mem_of_sorted {item : String}
    (hsorted : candidates.insertionSort (· ≤ ·) = least :: second :: rest)
    (h : item ∈ least :: second :: rest) : item ∈ candidates := by
  rw [← hsorted] at h
  exact (List.mem_insertionSort _).mp h

theorem following_mem {selected : String}
    (hsorted : candidates.insertionSort (· ≤ ·) = least :: second :: rest)
    (hselected : selected ∈ candidates) :
    following works least second selected ∈ candidates := by
  unfold following
  split_ifs
  · exact hselected
  · exact mem_of_sorted hsorted (List.mem_cons_of_mem _ List.mem_cons_self)
  · exact mem_of_sorted hsorted List.mem_cons_self

/-! ## The run -/

variable {results : ℕ → ObservationEvidenceStateResult V}

/-- The plans of a run, whose selections follow one another by the given function. -/
theorem iterate_of_step {follow : String → String} {Possible : String → Prop}
    (hvalid : Valid candidates) (hmem : ∀ selected, Possible selected → selected ∈ candidates)
    (hfollow : ∀ selected, Possible selected → Possible (follow selected))
    (hnext : ∀ plan : OperationalPlan, Possible plan.selectedCapabilityId →
      nextCapability candidates plan.selectedCapabilityId
          (failedCapability plan (outcomeOf works plan.selectedCapabilityId)) =
        .ok (follow plan.selectedCapabilityId))
    (hselected : Possible plan.selectedCapabilityId) (hobserved : Observed plan results)
    (count : ℕ) :
    ∃ after, iterate digest candidates works results plan count = .ok after ∧
      after.selectedCapabilityId = follow^[count] plan.selectedCapabilityId ∧
      Possible after.selectedCapabilityId ∧ Evidenced after (results count) := by
  induction count with
  | zero => exact ⟨plan, rfl, rfl, hselected, hobserved.first⟩
  | succ count ih =>
    obtain ⟨previous, hprevious, hiterate, hpossible, hevidenced⟩ := ih
    obtain ⟨closed, hclosed, hselection, hmission, hhash⟩ :=
      closeLoop_next digest (outcomeOf_mem _) hvalid (hmem _ hpossible) hevidenced
        (hnext previous hpossible)
    refine ⟨closed.nextPlan, ?_, ?_, ?_, ?_⟩
    · rw [iterate, hprevious]
      simp only [bind, Except.bind, hclosed]
      rfl
    · rw [hselection, hiterate, Function.iterate_succ_apply']
    · rw [hselection]
      exact hfollow _ hpossible
    · apply Evidenced.mk
      · rw [hmission, hevidenced.mission, hobserved.mission, hobserved.mission]
      · exact hobserved.snapshot (count + 1)
      · exact hobserved.receipt (count + 1)
      · rw [hhash]
        exact hobserved.fresh count

theorem iterate_works (hvalid : Valid candidates)
    (hselected : plan.selectedCapabilityId ∈ candidates) (hobserved : Observed plan results)
    (hworks : works plan.selectedCapabilityId = true) (count : ℕ) :
    ∃ after, iterate digest candidates works results plan count = .ok after ∧
      after.selectedCapabilityId = plan.selectedCapabilityId := by
  have hkept : ∀ other : OperationalPlan,
      other.selectedCapabilityId = plan.selectedCapabilityId →
      nextCapability candidates other.selectedCapabilityId
          (failedCapability other (outcomeOf works other.selectedCapabilityId)) =
        .ok (id other.selectedCapabilityId) := by
    intro other hother
    apply nextCapability_works
    rw [hother]
    exact hworks
  have hmem : ∀ selected, selected = plan.selectedCapabilityId → selected ∈ candidates := by
    intro selected heq
    rw [heq]
    exact hselected
  obtain ⟨after, hafter, -, hsame, -⟩ :=
    iterate_of_step digest hvalid hmem (fun _ h => h) hkept rfl hobserved count
  exact ⟨after, hafter, hsame⟩

theorem iterate_following (works : String → Bool)
    (hvalid : Valid candidates)
    (hsorted : candidates.insertionSort (· ≤ ·) = least :: second :: rest)
    (hselected : plan.selectedCapabilityId ∈ candidates) (hobserved : Observed plan results)
    (count : ℕ) :
    ∃ after, iterate digest candidates works results plan count = .ok after ∧
      after.selectedCapabilityId =
        (following works least second)^[count] plan.selectedCapabilityId := by
  obtain ⟨after, hafter, hiterate, -, -⟩ := iterate_of_step digest hvalid
    (fun _ h => h) (fun _ => following_mem hsorted)
    (fun plan _ => nextCapability_following works hvalid hsorted plan) hselected hobserved
    count
  exact ⟨after, hafter, hiterate⟩

/-! ## Where the run goes -/

/-- A capability that works is among those the loop ever selects. -/
def Reaches (candidates : List String) (works : String → Bool) (start : String) : Prop :=
  works start = true ∨
    ∃ capability ∈ (candidates.insertionSort (· ≤ ·)).take 2, works capability = true

variable {start : String}

theorem reaches_sorted
    (hsorted : candidates.insertionSort (· ≤ ·) = least :: second :: rest) :
    Reaches candidates works start ↔
      works start = true ∨ works least = true ∨ works second = true := by
  rw [Reaches, hsorted]
  simp

/-- The two least capabilities are tried within two steps. -/
theorem following_reaches (start : String)
    (h : works least = true ∨ works second = true) :
    ∃ steps ≤ 2, works ((following works least second)^[steps] start) = true := by
  cases hstart : works start with
  | true => exact ⟨0, by omega, hstart⟩
  | false =>
    have hfirst : following works least second start =
        if start = least then second else least := by
      rw [following, hstart]
      rfl
    by_cases hleast : works least = true
    · have hne : start ≠ least := by
        intro heq
        rw [heq, hleast] at hstart
        cases hstart
      refine ⟨1, by omega, ?_⟩
      rw [Function.iterate_one, hfirst, if_neg hne]
      exact hleast
    · have hsecond : works second = true := h.resolve_left hleast
      by_cases heq : start = least
      · refine ⟨1, by omega, ?_⟩
        rw [Function.iterate_one, hfirst, if_pos heq]
        exact hsecond
      · refine ⟨2, by omega, ?_⟩
        rw [Function.iterate_succ_apply, Function.iterate_one, hfirst, if_neg heq, following,
          if_neg hleast, if_pos rfl]
        exact hsecond

theorem following_fails (hstart : works start = false)
    (hleast : works least = false) (hsecond : works second = false) (count : ℕ) :
    works ((following works least second)^[count] start) = false := by
  induction count with
  | zero => exact hstart
  | succ count ih =>
    rw [Function.iterate_succ_apply', following, if_neg (by simp [ih])]
    split_ifs
    · exact hsecond
    · exact hleast

theorem following_kept {steps count : ℕ}
    (h : works ((following works least second)^[steps] start) = true) (hle : steps ≤ count) :
    works ((following works least second)^[count] start) = true := by
  have hsplit : count = (count - steps) + steps := by omega
  rw [hsplit, Function.iterate_add_apply, Function.iterate_fixed (following_works h)]
  exact h

/-- Of the candidates, one of which works while the given one does not, there are two
least ones. -/
theorem two_least {capability : String} (hstart : start ∈ candidates)
    (hfails : works start = false) (hmem : capability ∈ candidates)
    (hworks : works capability = true) :
    ∃ least second rest,
      candidates.insertionSort (· ≤ ·) = least :: second :: rest := by
  have hne : capability ≠ start := by
    intro heq
    rw [heq, hfails] at hworks
    cases hworks
  have hin := (List.mem_insertionSort (· ≤ ·)).mpr hstart
  have hother := (List.mem_insertionSort (· ≤ ·)).mpr hmem
  match hsorted : candidates.insertionSort (· ≤ ·) with
  | [] =>
    rw [hsorted] at hin
    cases hin
  | [single] =>
    rw [hsorted, List.mem_singleton] at hin hother
    exact absurd (hother.trans hin.symm) hne
  | least :: second :: rest => exact ⟨least, second, rest, rfl⟩

/-- What comes of a run: it selects a plan at every step, it settles on a capability that
works exactly where the loop ever selects one, and otherwise selects none. -/
structure Outcome (candidates : List String) (works : String → Bool)
    (results : ℕ → ObservationEvidenceStateResult V) (plan : OperationalPlan) : Prop where
  returns : ∀ count, ∃ after, iterate digest candidates works results plan count = .ok after
  settles : Reaches candidates works plan.selectedCapabilityId →
    ∃ steps ≤ candidates.length, ∀ count ≥ steps, ∀ after,
      iterate digest candidates works results plan count = .ok after →
        works after.selectedCapabilityId = true
  fails : ¬ Reaches candidates works plan.selectedCapabilityId → ∀ count after,
    iterate digest candidates works results plan count = .ok after →
      works after.selectedCapabilityId = false

theorem Outcome.of_works (hvalid : Valid candidates)
    (hselected : plan.selectedCapabilityId ∈ candidates) (hobserved : Observed plan results)
    (hworks : works plan.selectedCapabilityId = true) :
    Outcome digest candidates works results plan := by
  have hrun := iterate_works digest hvalid hselected hobserved hworks
  apply Outcome.mk
  · intro count
    obtain ⟨after, hafter, -⟩ := hrun count
    exact ⟨after, hafter⟩
  · intro _
    refine ⟨0, Nat.zero_le _, ?_⟩
    intro count _ after hafter
    obtain ⟨reached, hreached, hsame⟩ := hrun count
    rw [hafter] at hreached
    cases hreached
    rw [hsame]
    exact hworks
  · intro hnot
    exact absurd (Or.inl hworks) hnot

theorem Outcome.of_sorted
    (hvalid : Valid candidates)
    (hsorted : candidates.insertionSort (· ≤ ·) = least :: second :: rest)
    (hselected : plan.selectedCapabilityId ∈ candidates) (hobserved : Observed plan results)
    (hfails : works plan.selectedCapabilityId = false) :
    Outcome digest candidates works results plan := by
  have hrun := iterate_following digest works hvalid hsorted hselected hobserved
  have hcount : 2 ≤ candidates.length := by
    rw [← List.length_insertionSort (· ≤ ·) candidates, hsorted]
    simp
  apply Outcome.mk
  · intro count
    obtain ⟨after, hafter, -⟩ := hrun count
    exact ⟨after, hafter⟩
  · intro hreaches
    have hleast := ((reaches_sorted hsorted).mp hreaches).resolve_left (by simp [hfails])
    obtain ⟨steps, hsteps, hworks⟩ :=
      following_reaches plan.selectedCapabilityId hleast
    refine ⟨steps, hsteps.trans hcount, ?_⟩
    intro count hle after hafter
    obtain ⟨reached, hreached, hselection⟩ := hrun count
    rw [hafter] at hreached
    cases hreached
    rw [hselection]
    exact following_kept hworks hle
  · intro hnot count after hafter
    rw [reaches_sorted hsorted, not_or, not_or] at hnot
    obtain ⟨reached, hreached, hselection⟩ := hrun count
    rw [hafter] at hreached
    cases hreached
    rw [hselection]
    exact following_fails hfails (Bool.eq_false_of_not_eq_true hnot.2.1)
      (Bool.eq_false_of_not_eq_true hnot.2.2) count

/-- With candidates of which at least one works, and evidence of a new state at every step,
the loop settles on a working capability, within as many steps as there are candidates,
exactly where the capability it starts from or one of the two least candidates works; from
anywhere else it never selects a capability that works. -/
theorem closeLoop_outcome {plan : OperationalPlan}
    {results : ℕ → ObservationEvidenceStateResult V} (hvalid : Valid candidates)
    (hselected : plan.selectedCapabilityId ∈ candidates) (hobserved : Observed plan results)
    (hworks : ∃ capability ∈ candidates, works capability = true) :
    Outcome digest candidates works results plan := by
  cases hstart : works plan.selectedCapabilityId with
  | true => exact Outcome.of_works digest hvalid hselected hobserved hstart
  | false =>
    obtain ⟨capability, hmem, hcapability⟩ := hworks
    obtain ⟨least, second, rest, hsorted⟩ :=
      two_least hselected hstart hmem hcapability
    exact Outcome.of_sorted digest hvalid hsorted hselected hobserved hstart

end Steps

/-! ## Sample runs -/

/-- The results of a mission whose states take turns. -/
def sampleResult (count : ℕ) : ObservationEvidenceStateResult ℕ :=
  let stateHash := if count % 2 = 0 then "state-1" else "state-2"
  { observation := ⟨"mission-1", "adapter", "ocs", "execution", "EXECUTED", ∅⟩
    evidence := ⟨"mission-1", "adapter", "ocs", "execution", "EXECUTED", "hash", "evidence"⟩
    stateSnapshot := ⟨"mission-1", "GENESIS", "evidence", count, ∅, stateHash⟩ }

def samplePlan (capability : String) : OperationalPlan :=
  ⟨"mission-1", 1, capability, none, none, "GENESIS", "plan"⟩

theorem observed_sample (capability : String) :
    Observed (samplePlan capability) sampleResult := by
  apply Observed.mk
  · have hfresh : "GENESIS" ≠ "state-1" := by decide
    exact ⟨rfl, rfl, rfl, hfresh⟩
  · exact fun _ => rfl
  · exact fun _ => rfl
  · exact fun _ => rfl
  · intro count
    simp only [sampleResult]
    cases Nat.mod_two_eq_zero_or_one count with
    | inl heven =>
      rw [if_pos heven, if_neg (by omega)]
      decide
    | inr hodd =>
      rw [if_neg (by omega), if_pos (by omega)]
      decide

theorem valid_sample : Valid ["a", "b", "c"] := ⟨by decide, by decide⟩

theorem closeLoop_outcome_second :
    Outcome (fun _ => "") ["a", "b", "c"] (fun capability => capability = "b") sampleResult
      (samplePlan "a") :=
  closeLoop_outcome _ valid_sample (by decide) (observed_sample "a") ⟨"b", by decide, by decide⟩

/-- The third candidate works, and the loop goes back and forth between the first two. -/
theorem closeLoop_alternates :
    Valid ["a", "b", "c"] ∧ (samplePlan "a").selectedCapabilityId ∈ ["a", "b", "c"] ∧
      Observed (samplePlan "a") sampleResult ∧
      (∃ capability ∈ ["a", "b", "c"], capability = "c") ∧
      ∀ count, ∃ after, iterate (fun _ => "") ["a", "b", "c"]
          (fun capability => capability = "c") sampleResult (samplePlan "a") count =
            .ok after ∧
        after.selectedCapabilityId ≠ "c" := by
  have hsorted : ["a", "b", "c"].insertionSort (· ≤ ·) = ["a", "b", "c"] := by decide
  have houtcome : Outcome (fun _ => "") ["a", "b", "c"] (fun capability => capability = "c")
      sampleResult (samplePlan "a") :=
    Outcome.of_sorted _ valid_sample hsorted (by decide) (observed_sample "a") (by decide)
  refine ⟨valid_sample, by decide, observed_sample "a", ⟨"c", by decide, rfl⟩, ?_⟩
  intro count
  obtain ⟨after, hafter⟩ := houtcome.returns count
  refine ⟨after, hafter, ?_⟩
  have hfails := houtcome.fails (by rw [reaches_sorted hsorted]; decide) count after hafter
  exact of_decide_eq_false hfails

end LearningLoop

end ReisOs.CognitiveValidation
