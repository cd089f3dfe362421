import ReisOs.Core.Dict
import ReisOs.Core.Journals
import ReisOs.Core.Runs
import ReisOs.Kernel.AuditFile

/-!
# The durable state of operational learning

`PersistentOperationalLearningStore.commit` reads the plan it is to follow in one statement
and replaces the row of the mission in another one.  `sqlite3` begins a transaction only
before the second of them, so that the statements of other connections can come between.
-/

namespace ReisOs.CognitiveValidation

open ReisOs.Core

structure LearningFeedback where
  missionId : String
  evidenceReceipt : String
  stateHash : String
  stateVersion : ℤ
  outcome : String
  failedCapabilityId : Option String
  deriving DecidableEq, Repr

structure OperationalPlan where
  missionId : String
  planRevision : ℤ
  selectedCapabilityId : String
  priorPlanReceipt : Option String
  feedbackReceipt : Option String
  stateHash : String
  planReceipt : String
  deriving DecidableEq, Repr

/-- What a commit reads of a `ClosedOperationalLearningResult`. -/
structure LearningResult where
  feedback : LearningFeedback
  nextPlan : OperationalPlan
  learningReceipt : String
  deriving DecidableEq, Repr

/-- A row of `operational_learning_state`; the JSON columns as what they are read back to. -/
structure LearningRow where
  plan : OperationalPlan
  feedback : LearningFeedback
  learningReceipt : String
  committedStateHash : String
  stateVersion : ℤ
  deriving DecidableEq, Repr

/-! ## The two steps of a commit -/

/-- The checks of `commit` on the result alone. -/
def validateResult (result : LearningResult) : Except String Unit :=
  if result.nextPlan.missionId ≠ result.feedback.missionId then
    .error "persistent_learning_mission_mismatch"
  else if result.nextPlan.stateHash ≠ result.feedback.stateHash then
    .error "persistent_learning_state_hash_mismatch"
  else if result.learningReceipt.toList.all Kernel.AuditFile.isSpace then
    .error "persistent_learning_receipt_required"
  else if result.nextPlan.feedbackReceipt = none then
    .error "persistent_learning_feedback_receipt_required"
  else .ok ()

/-- The checks of `commit` against the plan it has read. -/
def validateAgainst (current : Option OperationalPlan) (plan : OperationalPlan) :
    Except String Unit :=
  match current with
  | none => .ok ()
  | some prior =>
    if plan.planRevision ≤ prior.planRevision then
      .error "persistent_learning_revision_not_monotonic"
    else if plan.priorPlanReceipt ≠ some prior.planReceipt then
      .error "persistent_learning_lineage_mismatch"
    else .ok ()

/-- The row that the upsert writes. -/
def LearningResult.row (result : LearningResult) : LearningRow where
  plan := result.nextPlan
  feedback := result.feedback
  learningReceipt := result.learningReceipt
  committedStateHash := result.feedback.stateHash
  stateVersion := result.feedback.stateVersion

/-- The database with its connections; a connection whose commit has passed the checks
holds the result it is about to write.  `committed` records the plans in the order in which
their commits took effect. -/
structure LearningStore (K : Type) where
  rows : Dict String LearningRow
  pending : K → Option LearningResult
  committed : List OperationalPlan

/-- What happens next: the reading part of a commit, its upsert, or its end before the
upsert has taken effect. -/
inductive CommitStep (K : Type) where
  | check (connection : K) (result : LearningResult)
  | upsert (connection : K)
  | fail (connection : K)

namespace LearningStore

variable {K : Type}

def empty : LearningStore K where
  rows := ∅
  pending _ := none
  committed := []

/-- `load_current_plan`, with no plan in place of its error. -/
def currentPlan (store : LearningStore K) (missionId : String) : Option OperationalPlan :=
  (store.rows.lookup missionId).map (·.plan)

/-- `commit` up to and with its SELECT. -/
def check (store : LearningStore K) (result : LearningResult) : Except String Unit :=
  match validateResult result with
  | .error error => .error error
  | .ok () => validateAgainst (store.currentPlan result.nextPlan.missionId) result.nextPlan

def step [DecidableEq K] (store : LearningStore K) : CommitStep K → LearningStore K
  | .check connection result =>
    match store.pending connection, store.check result with
    | none, .ok () =>
      { store with pending := Function.update store.pending connection (some result) }
    | _, _ => store
  | .upsert connection =>
    match store.pending connection with
    | none => store
    | some result =>
      { rows := store.rows.insert result.nextPlan.missionId result.row
        pending := Function.update store.pending connection none
        committed := store.committed ++ [result.nextPlan] }
  | .fail connection =>
    { store with pending := Function.update store.pending connection none }

end LearningStore

/-! ## Chains of plans -/

/-- A plan names the one before it and has a larger revision. -/
def Follows (previous : Option OperationalPlan) (plan : OperationalPlan) : Prop :=
  ∀ prior ∈ previous,
    prior.planRevision < plan.planRevision ∧ plan.priorPlanReceipt = some prior.planReceipt

instance (previous : Option OperationalPlan) (plan : OperationalPlan) :
    Decidable (Follows previous plan) :=
  match previous with
  | none => isTrue nofun
  | some prior => decidable_of_iff
      (prior.planRevision < plan.planRevision ∧ plan.priorPlanReceipt = some prior.planReceipt)
      ⟨fun h _ heq => Option.some.inj heq ▸ h, fun h => h prior rfl⟩

namespace LearningStore

variable {K : Type}

/-- The committed plans of every mission form one chain. -/
def Chains (store : LearningStore K) : Prop :=
  GroupChained Follows (·.missionId) store.committed

/-- Every mission's row is the plan committed last for it, and the plans are chains. -/
structure Wired (store : LearningStore K) : Prop where
  current : ∀ missionId, store.currentPlan missionId =
    (store.committed.filter (·.missionId = missionId)).getLast?
  chains : store.Chains

/-- An upsert finds a plan of the mission that the plan it writes follows. -/
def Timely (store : LearningStore K) : CommitStep K → Prop
  | .upsert connection => ∀ result ∈ store.pending connection,
      Follows (store.currentPlan result.nextPlan.missionId) result.nextPlan
  | _ => True

theorem wired_empty : (empty : LearningStore K).Wired where
  current _ := rfl
  chains _ := chained_nil Follows

variable {store : LearningStore K}

theorem Wired.of_same {after : LearningStore K} (h : store.Wired)
    (hrows : after.rows = store.rows) (hcommitted : after.committed = store.committed) :
    after.Wired := by
  constructor
  · intro missionId
    rw [currentPlan, hrows, hcommitted]
    exact h.current missionId
  · rw [Chains, hcommitted]
    exact h.chains

variable [DecidableEq K]

theorem step_check (store : LearningStore K) (connection : K) (result : LearningResult) :
    (store.step (.check connection result)).rows = store.rows ∧
      (store.step (.check connection result)).committed = store.committed := by
  rw [step]
  split <;> exact ⟨rfl, rfl⟩

theorem step_upsert {connection : K} {result : LearningResult}
    (h : store.pending connection = some result) :
    store.step (.upsert connection) =
      { rows := store.rows.insert result.nextPlan.missionId result.row
        pending := Function.update store.pending connection none
        committed := store.committed ++ [result.nextPlan] } := by
  rw [step, h]

theorem Wired.upsert (h : store.Wired) {connection : K}
    {result : LearningResult} (hpending : store.pending connection = some result)
    (hfollows : Follows (store.currentPlan result.nextPlan.missionId) result.nextPlan) :
    (store.step (.upsert connection)).Wired := by
  rw [step_upsert hpending]
  constructor
  · intro missionId
    have hcurrent := h.current missionId
    rw [currentPlan] at hcurrent ⊢
    simp only [Dict.lookup_insert_eq, List.filter_append]
    by_cases hsame : missionId = result.nextPlan.missionId
    · subst hsame
      simp [LearningResult.row]
    · rw [if_neg hsame, hcurrent]
      simp [Ne.symm hsame]
  · apply groupChained_concat h.chains
    rw [← h.current]
    exact hfollows

theorem Wired.step (h : store.Wired) {next : CommitStep K}
    (htimely : store.Timely next) : (store.step next).Wired := by
  cases next with
  | check connection result =>
    have hsame := step_check store connection result
    exact h.of_same hsame.1 hsame.2
  | upsert connection =>
    cases hpending : store.pending connection with
    | none =>
      rw [LearningStore.step, hpending]
      exact h
    | some result => exact h.upsert hpending (htimely result hpending)
  | fail connection => exact h.of_same rfl rfl

theorem Wired.timely (h : store.Wired) {next : CommitStep K}
    (hafter : (store.step next).Chains) : store.Timely next := by
  cases next with
  | check connection result => trivial
  | fail connection => trivial
  | upsert connection =>
    intro result hpending
    rw [step_upsert hpending] at hafter
    rw [h.current]
    exact hafter.succeeds

/-- All plans committed in a run form chains if and only if every upsert of the run still
finds a plan that its own plan follows. -/
theorem plans_chained_iff (steps : List (CommitStep K)) :
    (∀ before, before <+: steps → (run step (empty : LearningStore K) before).Chains) ↔
      Admissible step Timely (empty : LearningStore K) steps := by
  apply always_iff_admissible Wired Chains
  · intro store next h htimely
    exact h.step htimely
  · intro store h
    exact h.chains
  · intro store next h hafter
    exact h.timely hafter
  · exact wired_empty

/-! ## Commits one after the other -/

end LearningStore

/-! ## Two committers -/

/-- A result whose plan has the revision and follows the plan with the receipt. -/
def learned (revision : ℤ) (prior receipt : String) : LearningResult where
  feedback := ⟨"m", "e", "h", revision, "SUCCESS", none⟩
  nextPlan := ⟨"m", revision, "c", some prior, some "f", "h", receipt⟩
  learningReceipt := "l"

/-- Two connections derive a plan from the same one; the second upsert overwrites the
first. -/
def overlappingCommits : List (CommitStep Bool) :=
  [.check true (learned 2 "p" "q"), .check false (learned 2 "p" "r"), .upsert true,
    .upsert false]

theorem overlapping_commits_not_chained :
    ¬(run LearningStore.step (LearningStore.empty : LearningStore Bool)
      overlappingCommits).Chains := by
  intro h
  have hlast := h "m" [(learned 2 "p" "q").nextPlan] (learned 2 "p" "r").nextPlan []
    (by decide +kernel)
  revert hlast
  decide +kernel

end ReisOs.CognitiveValidation
