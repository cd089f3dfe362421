import ReisOs.Trial.SingleActive

/-!
# Exhausted autonomy budgets

A call of `accept_handoff` that finds the budget used up sets the mission's status to
HOLD and then raises in the same transaction, which rolls the status back.  No other
method sets it, and none of them reads it.
-/

namespace ReisOs.Trial

open ReisOs.Core

variable {database after : TrialDatabase} {missionId : String}

/-! ## Stored statuses -/

/-- The mission is stored with the status HOLD. -/
def OnHold (database : TrialDatabase) (missionId : String) : Prop :=
  ∃ mission, database.missions.lookup missionId = some mission ∧ mission.status = .hold

/-- Another step of the mission would exceed its budget. -/
def Exhausted (database : TrialDatabase) (missionId : String) : Prop :=
  ∃ mission, database.missions.lookup missionId = some mission ∧
    mission.autonomyBudget < (mission.autonomousStepCounter : ℤ) + 1

/-- No mission is stored with the status HOLD. -/
def NeverOnHold (database : TrialDatabase) : Prop :=
  ∀ missionId mission, database.missions.lookup missionId = some mission →
    mission.status ≠ .hold

theorem NeverOnHold.not_onHold (h : NeverOnHold database) (missionId : String) :
    ¬ OnHold database missionId := by
  rintro ⟨mission, hmission, hstatus⟩
  exact h missionId mission hmission hstatus

theorem NeverOnHold.congr (h : NeverOnHold database) (hsame : database.SameStanding after) :
    NeverOnHold after := by
  intro missionId mission hmission
  rw [hsame.missions] at hmission
  exact h missionId mission hmission

theorem NeverOnHold.updateMission (h : NeverOnHold database) {mission : MissionRow}
    (hstatus : mission.status ≠ .hold) :
    NeverOnHold (database.updateMission missionId mission) := by
  intro other found hfound
  rcases lookup_updateMission hfound with ⟨-, rfl⟩ | ⟨-, hold⟩
  · exact hstatus
  · exact h other found hold

theorem NeverOnHold.change (h : NeverOnHold database) (hkeyed : Keyed database) {rule : Rule}
    (hchange : Change rule database after) : NeverOnHold after := by
  cases hchange with
  | same | referenced | issued => exact h
  | created _ _ _ hstatus =>
    apply h.updateMission
    rw [hstatus]
    exact MissionStatus.noConfusion
  | @bound fenced mission row activates _ hbinds =>
    have hfenced : NeverOnHold { fenced with bindings := fenced.bindings ++ [row] } := by
      intro other found hfound
      rw [show ({ fenced with bindings := fenced.bindings ++ [row] } :
        TrialDatabase).missions = database.missions from hbinds.missions hkeyed] at hfound
      exact h other found hfound
    cases activates with
    | false => exact hfenced
    | true => exact hfenced.updateMission (h _ mission hbinds.found)
  | @accepted missionId handoffId mission target row closed _ hmission =>
    apply NeverOnHold.updateMission
    · exact h
    · exact h missionId mission hmission
  | @released missionId ocsId mission active hmission =>
    apply NeverOnHold.updateMission
    · exact h
    · exact h missionId mission hmission

theorem neverOnHold_changes {rule : Rule} (h : Keyed database ∧ NeverOnHold database)
    (hchanges : Changes rule database after) : Keyed after ∧ NeverOnHold after := by
  obtain ⟨middle, hchange, hsame⟩ := hchanges
  exact ⟨(h.1.change hchange).congr hsame, (h.2.change h.1 hchange).congr hsame⟩

theorem run_neverOnHold (canonicalHash : Value → String) (ops : List TrialOp) :
    NeverOnHold (run (perform canonicalHash) .empty ops) := by
  have hempty : Keyed .empty ∧ NeverOnHold .empty := by
    constructor
    · exact ⟨List.nodup_nil, by simp [TrialDatabase.empty], by simp [TrialDatabase.empty]⟩
    · simp [NeverOnHold, TrialDatabase.empty]
  have hrun := run_invariant (fun database => Keyed database ∧ NeverOnHold database)
    (fun database op h =>
      perform_induction neverOnHold_changes h op (permits_any canonicalHash database op))
    hempty ops
  exact hrun.2

/-! ## Accepting with nothing left -/

theorem acceptHandoff_within_budget {canonicalHash : Value → String} {handoffId : String}
    {now : ℕ → String} {answer : HandoffReceipt}
    (h : acceptHandoff canonicalHash missionId handoffId now database =
      .ok (after, answer)) : ¬ Exhausted database missionId := by
  simp only [acceptHandoff] at h
  obtain ⟨row, -, h⟩ := bind_eq_ok h
  split at h
  · cases h
  · obtain ⟨mission, hmission, h⟩ := bind_eq_ok h
    split at h
    · cases h
    · obtain ⟨target, -, h⟩ := bind_eq_ok h
      split at h
      · cases h
      · rename_i hbudget
        rintro ⟨found, hfound, hexhausted⟩
        rw [TrialDatabase.mission_eq_ok hmission, Option.some_inj] at hfound
        subst hfound
        exact hbudget hexhausted

theorem perform_acceptHandoff_exhausted (canonicalHash : Value → String)
    (h : Exhausted database missionId) (handoffId : String) (now : ℕ → String) :
    perform canonicalHash database (.acceptHandoff missionId handoffId now) = database := by
  cases hanswer : acceptHandoff canonicalHash missionId handoffId now database with
  | error error => simp only [perform, Transaction.leaves, hanswer]
  | ok answer => exact absurd h (acceptHandoff_within_budget hanswer)

/-- What is asked of a call of `accept_handoff` on an exhausted mission: the mission is
on hold afterwards and has no newly active instance, and as long as it is on hold no
handoff is accepted and no write allowed. -/
structure HoldsOnExhaustion (canonicalHash : Value → String) (database : TrialDatabase)
    (missionId handoffId : String) (now : ℕ → String) : Prop where
  held : OnHold (perform canonicalHash database (.acceptHandoff missionId handoffId now))
    missionId
  activates : ∀ binding ∈
      (perform canonicalHash database
        (.acceptHandoff missionId handoffId now)).activeBindings missionId,
    binding ∈ database.activeBindings missionId
  refuses : ∀ later : List TrialOp,
    (∀ before, before <+: later → OnHold (run (perform canonicalHash)
      (perform canonicalHash database (.acceptHandoff missionId handoffId now)) before)
      missionId) →
    let reached := run (perform canonicalHash)
      (perform canonicalHash database (.acceptHandoff missionId handoffId now)) later
    (∀ handoffId now result,
      acceptHandoff canonicalHash missionId handoffId now reached ≠ .ok result) ∧
    ∀ ocsId instanceId epoch namespaceKey, reached.writeDenialReason missionId ocsId
      instanceId epoch namespaceKey ≠ .ok none

/-- On an exhausted mission the call changes nothing, so it never puts the mission on
hold, in any run and for any handoff. -/
theorem never_holdsOnExhaustion (canonicalHash : Value → String) (ops : List TrialOp)
    (missionId handoffId : String) (now : ℕ → String)
    (h : Exhausted (run (perform canonicalHash) .empty ops) missionId) :
    ¬ HoldsOnExhaustion canonicalHash (run (perform canonicalHash) .empty ops) missionId
      handoffId now := by
  intro hholds
  have hheld := hholds.held
  rw [perform_acceptHandoff_exhausted canonicalHash h] at hheld
  exact (run_neverOnHold canonicalHash ops).not_onHold missionId hheld

/-! ### A budget of one handoff -/

/-- DÉDALA hands over to SOFIA, which uses the budget up, and SOFIA issues a handoff to
SÝNESIS. -/
def spentOps : List TrialOp :=
  [.createMission "m-001" "state:m-001" "gate-1" 1 (clockAt "t1"),
    .bind "m-001" "DÉDALA" "dedala-1" "authority-1" true (clockAt "t2"),
    .bind "m-001" "SOFIA" "sofia-1" "authority-1" false (clockAt "t3"),
    .bind "m-001" "SÝNESIS" "synesis-1" "authority-1" false (clockAt "t4"),
    .checkpoint "m-001" "dedala-1" (.object []) (clockAt "t5"),
    .issueHandoff "m-001" "L2-SINGLE-SURFACE-DEDALA-TO-SOFIA-PLAN-001" "sofia-1" "SOFIA"
      (.object []) (clockAt "t6"),
    .acceptHandoff "m-001"
      ("handoff:m-001L2-SINGLE-SURFACE-DEDALA-TO-SOFIA-PLAN-001dedala-1sofia-1" ++
        "checkpoint:m-001dedala-11") (clockAt "t7"),
    .checkpoint "m-001" "sofia-1" (.object []) (clockAt "t8"),
    .issueHandoff "m-001" "L2-SINGLE-SURFACE-SOFIA-TO-SYNESIS-ASSURANCE-001" "synesis-1"
      "SÝNESIS" (.object []) (clockAt "t9")]

/-- What the run leaves. -/
def spent : TrialDatabase := run (perform textDigest) .empty spentOps

/-- The handoff to SÝNESIS. -/
def spentHandoff : String :=
  "handoff:m-001L2-SINGLE-SURFACE-SOFIA-TO-SYNESIS-ASSURANCE-001sofia-1synesis-1" ++
    "checkpoint:m-001sofia-12"

theorem spent_exhausted : Exhausted spent "m-001" := by
  obtain ⟨mission, hmission, hcounts⟩ := Option.map_eq_some_iff.mp
    (show (spent.missions.lookup "m-001").map
      (fun mission => (mission.autonomyBudget, mission.autonomousStepCounter)) =
        some (1, 1) by decide +kernel)
  obtain ⟨hbudget, hsteps⟩ := Prod.mk.inj hcounts
  exact ⟨mission, hmission, by rw [hbudget, hsteps]; decide⟩

theorem spent_never_onHold (now : ℕ → String) :
    ¬ OnHold (perform textDigest spent (.acceptHandoff "m-001" spentHandoff now))
      "m-001" := by
  rw [perform_acceptHandoff_exhausted textDigest spent_exhausted]
  exact (run_neverOnHold textDigest spentOps).not_onHold "m-001"

theorem spent_not_holdsOnExhaustion :
    ¬ HoldsOnExhaustion textDigest spent "m-001" spentHandoff (clockAt "t10") :=
  never_holdsOnExhaustion textDigest spentOps "m-001" spentHandoff (clockAt "t10")
    spent_exhausted

/-- The call raises for the exhausted budget, the mission keeps its status, and SOFIA
may write on. -/
theorem spent_accept_lost :
    Exhausted spent "m-001" ∧
    (acceptHandoff textDigest "m-001" spentHandoff (clockAt "t10") spent).toOption =
      none ∧
    ((perform textDigest spent
        (.acceptHandoff "m-001" spentHandoff (clockAt "t10"))).missions.lookup
      "m-001").map (·.status) = some .buildVerification ∧
    (perform textDigest spent
        (.acceptHandoff "m-001" spentHandoff (clockAt "t10"))).writeDenialReason "m-001"
      "SOFIA" "sofia-1" 1 "trial:m-001:SOFIA:state:plan" = .ok none ∧
    ¬ HoldsOnExhaustion textDigest spent "m-001" spentHandoff (clockAt "t10") := by
  refine ⟨spent_exhausted, ?_, ?_, ?_, ?_⟩
  · have hnone : (acceptHandoff textDigest "m-001" spentHandoff (clockAt "t10")
        spent).toOption.isNone = true := by decide +kernel
    exact Option.isNone_iff_eq_none.mp hnone
  · decide +kernel
  · decide +kernel
  · intro hholds
    exact spent_never_onHold (clockAt "t10") hholds.held

end ReisOs.Trial
