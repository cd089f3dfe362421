import ReisOs.Core.Fallible
import ReisOs.Trial.Store

/-!
# What the methods change

Who may write follows from four tables: missions, bindings, fencing epochs and
handoffs.  `Change` lists everything a committed transaction can do to them, and
`perform_changes` says that a run of the store does nothing else.  Invariants of runs
are proved about changes.
-/

namespace ReisOs.Trial

open ReisOs.Core

namespace TrialDatabase

/-- The four tables agree. -/
structure SameStanding (database after : TrialDatabase) : Prop where
  missions : after.missions = database.missions
  bindings : after.bindings = database.bindings
  fencing : after.fencing = database.fencing
  handoffs : after.handoffs = database.handoffs

variable {canonicalHash : Value → String} {database after : TrialDatabase}
  {missionId : String}

theorem SameStanding.refl (database : TrialDatabase) : SameStanding database database :=
  ⟨rfl, rfl, rfl, rfl⟩

theorem SameStanding.symm (h : SameStanding database after) : SameStanding after database :=
  ⟨h.missions.symm, h.bindings.symm, h.fencing.symm, h.handoffs.symm⟩

theorem SameStanding.trans {database middle after : TrialDatabase}
    (hfirst : SameStanding database middle) (hlast : SameStanding middle after) :
    SameStanding database after where
  missions := hlast.missions.trans hfirst.missions
  bindings := hlast.bindings.trans hfirst.bindings
  fencing := hlast.fencing.trans hfirst.fencing
  handoffs := hlast.handoffs.trans hfirst.handoffs

theorem SameStanding.updateBinding (h : SameStanding database after) (bindingId : String)
    (change : BindingRow → BindingRow) :
    SameStanding (database.updateBinding bindingId change)
      (after.updateBinding bindingId change) where
  missions := h.missions
  bindings := by
    simp only [TrialDatabase.updateBinding, h.bindings]
  fencing := h.fencing
  handoffs := h.handoffs

theorem appendLedger_same {eventType eventRef : String} {payload : Value} {now : ℕ → String}
    (h : database.appendLedger canonicalHash missionId eventType eventRef payload now =
      .ok after) : SameStanding database after := by
  simp only [appendLedger] at h
  split at h
  · cases h
  · cases h
    exact ⟨rfl, rfl, rfl, rfl⟩

theorem receipt_same {kind receiptId : String} {payload : Value} {now : ℕ → String}
    (h : database.receipt canonicalHash missionId kind payload now =
      .ok (after, receiptId)) : SameStanding database after := by
  simp only [receipt] at h
  split at h
  · cases h
  · obtain ⟨noted, hledger, h⟩ := bind_eq_ok h
    cases h
    have hsame := appendLedger_same hledger
    exact ⟨hsame.missions, hsame.bindings, hsame.fencing, hsame.handoffs⟩

theorem mission_eq_ok {mission : MissionRow}
    (h : database.mission missionId = .ok mission) :
    database.missions.lookup missionId = some mission := by
  unfold TrialDatabase.mission at h
  split at h
  · cases h
  · cases h
    assumption

theorem insertBinding_eq_ok {row : BindingRow}
    (h : database.insertBinding row = .ok after) :
    after = { database with bindings := database.bindings ++ [row] } ∧
      ∀ binding ∈ database.bindings, binding.bindingId ≠ row.bindingId := by
  unfold insertBinding at h
  split at h
  · cases h
  · rename_i hconflict
    cases h
    refine ⟨rfl, fun binding hbinding heq => hconflict ?_⟩
    rw [List.any_eq_true]
    exact ⟨binding, hbinding, by simp [heq]⟩

theorem insertCheckpoint_same {row : CheckpointRow}
    (h : database.insertCheckpoint row = .ok after) : SameStanding database after := by
  unfold insertCheckpoint at h
  split at h
  · cases h
  · cases h
    exact ⟨rfl, rfl, rfl, rfl⟩

theorem insertHandoff_eq_ok {handoffId : String} {row : HandoffRow}
    (h : database.insertHandoff handoffId row = .ok after) :
    after = { database with handoffs := database.handoffs.insert handoffId row } := by
  unfold insertHandoff at h
  split at h
  · cases h
  · cases h
    rfl

end TrialDatabase

open TrialDatabase

theorem one_eq_ok {A : Type} {rows : List A} {row : A} (h : one rows = .ok row) :
    rows = [row] := by
  cases rows with
  | nil => cases h
  | cons first rest =>
    cases rest with
    | nil =>
      cases h
      rfl
    | cons second rest => cases h

theorem oneOrNone_eq_ok {A : Type} {rows : List A} {found : Option A}
    (h : oneOrNone rows = .ok found) : rows = found.toList := by
  cases rows with
  | nil =>
    cases h
    rfl
  | cons first rest =>
    cases rest with
    | nil =>
      cases h
      rfl
    | cons second rest => cases h

/-- The bindings of an instance made QUIESCENT. -/
def quiesce (database : TrialDatabase) (missionId instanceId : String) : TrialDatabase :=
  { database with
    bindings := updateWhere (fun binding => binding.missionId = missionId ∧
        binding.instanceId = instanceId)
      (fun binding => { binding with status := .quiescent }) database.bindings }

/-- The database after the updates of `accept_handoff`. -/
def accepted (database : TrialDatabase) (missionId handoffId : String) (mission : MissionRow)
    (target : BindingRow) (row closed : HandoffRow) : TrialDatabase :=
  let activated := (quiesce database missionId row.sourceInstanceId).updateBinding
    target.bindingId fun binding => { binding with status := .active }
  { activated with handoffs := database.handoffs.insert handoffId closed }.updateMission
    missionId
    { mission with
      activeOcsId := some row.targetOcsId
      activeInstanceId := some row.targetInstanceId
      autonomousStepCounter := mission.autonomousStepCounter + 1
      autonomousHandoffCounter := mission.autonomousHandoffCounter + 1
      version := mission.version + 1 }

/-- The database after the updates of a bind. -/
def bound (fenced : TrialDatabase) (mission : MissionRow) (row : BindingRow)
    (activates : Bool) : TrialDatabase :=
  let inserted := { fenced with bindings := fenced.bindings ++ [row] }
  if activates then
    inserted.updateMission row.missionId
      { mission with
        activeOcsId := some row.ocsId
        activeInstanceId := some row.instanceId
        version := mission.version + 1 }
  else inserted

/-- The database after the first transaction of `recover`. -/
def released (database : TrialDatabase) (missionId : String) (mission : MissionRow)
    (active : BindingRow) : TrialDatabase :=
  (database.updateBinding active.bindingId fun binding =>
      { binding with status := .fenced }).updateMission missionId
    { mission with activeOcsId := none, activeInstanceId := none }

/-- What a rule asks of the database before a bind, and of the target binding of an
accepted handoff. -/
structure Rule where
  binds : TrialDatabase → String → String → Prop
  accepts : BindingRow → HandoffRow → Prop

/-- The rule that asks nothing. -/
def Rule.any : Rule := ⟨fun _ _ _ => True, fun _ _ => True⟩

/-- What an accepted bind has found: its mission, the next epoch and generation of the
OCS, and that its identifier is new. -/
structure Binds (database fenced : TrialDatabase) (mission : MissionRow) (row : BindingRow)
    (activates : Bool) : Prop where
  found : database.missions.lookup row.missionId = some mission
  advance : ∃ predecessor, database.advanceEpoch row.missionId row.ocsId =
    .ok (fenced, row.fencingEpoch, row.generation, predecessor)
  idle : activates = true → mission.activeInstanceId = none
  status : row.status = if activates then .active else .bound
  fresh : ∀ binding ∈ fenced.bindings, binding.bindingId ≠ row.bindingId

/-- Everything a committed transaction can do to the four tables under a rule. -/
inductive Change (rule : Rule) (database : TrialDatabase) : TrialDatabase → Prop where
  | same : Change rule database database
  | created {missionId : String} {mission : MissionRow}
      (hnew : database.missions.lookup missionId = none)
      (hocs : mission.activeOcsId = none) (hinstance : mission.activeInstanceId = none)
      (hstatus : mission.status = .buildVerification) :
      Change rule database (database.updateMission missionId mission)
  | bound {fenced : TrialDatabase} {mission : MissionRow} {row : BindingRow}
      {activates : Bool} (hrule : rule.binds database row.missionId row.ocsId)
      (hbinds : Binds database fenced mission row activates) :
      Change rule database (Trial.bound fenced mission row activates)
  | referenced (bindingId checkpointRef : String) :
      Change rule database (database.updateBinding bindingId fun binding =>
        { binding with checkpointRef := some checkpointRef })
  | issued {handoffId : String} {row : HandoffRow} {target : BindingRow}
      (htarget : target ∈ database.bindings) (hmission : target.missionId = row.missionId)
      (hocs : target.ocsId = row.targetOcsId) :
      Change rule database { database with handoffs := database.handoffs.insert handoffId row }
  | accepted {missionId handoffId : String} {mission : MissionRow} {target : BindingRow}
      {row : HandoffRow} (closed : HandoffRow) (hrule : rule.accepts target row)
      (hmission : database.missions.lookup missionId = some mission)
      (hrow : database.handoffs.lookup handoffId = some row)
      (hrowMission : row.missionId = missionId)
      (hclosed : closed.missionId = row.missionId ∧ closed.targetOcsId = row.targetOcsId)
      (hsource : mission.activeInstanceId = some row.sourceInstanceId)
      (htarget : (database.instanceBindings missionId row.targetInstanceId).filter
        (fun binding => binding.status = .bound) = [target]) :
      Change rule database
        (Trial.accepted database missionId handoffId mission target row closed)
  | released {missionId ocsId : String} {mission : MissionRow} {active : BindingRow}
      (hmission : database.missions.lookup missionId = some mission)
      (hocs : mission.activeOcsId = some ocsId)
      (hactive : database.instanceBindings missionId (mission.activeInstanceId.getD "") =
        [active]) :
      Change rule database (Trial.released database missionId mission active)

/-- A change of the four tables and anything in the others. -/
def Changes (rule : Rule) (database after : TrialDatabase) : Prop :=
  ∃ middle, Change rule database middle ∧ middle.SameStanding after

theorem Changes.same {rule : Rule} {database after : TrialDatabase}
    (h : database.SameStanding after) : Changes rule database after :=
  ⟨database, .same, h⟩

/-! ## The methods -/

section Methods

variable {rule : Rule} {canonicalHash : Value → String} {database after : TrialDatabase}
  {missionId ocsId instanceId : String} {now : ℕ → String}

theorem createMission_changes {canonicalStateRef currentGate : String} {autonomyBudget : ℤ}
    (h : createMission canonicalHash missionId canonicalStateRef currentGate autonomyBudget
      now database = .ok (after, ())) : Changes rule database after := by
  simp only [createMission] at h
  split at h
  · cases h
  · split at h
    · cases h
    · rename_i hnew
      obtain ⟨noted, hledger, h⟩ := bind_eq_ok h
      cases h
      have hnone : database.missions.lookup missionId = none := by
        simpa using hnew
      exact ⟨_, .created hnone rfl rfl rfl, appendLedger_same hledger⟩

theorem bind_spec {authorityRef : String} {activateIfEmpty : Bool} {answer : BindingReceipt}
    (h : Trial.bind canonicalHash missionId ocsId instanceId authorityRef activateIfEmpty now
      database = .ok (after, answer)) :
    ∃ fenced mission row activates, row.missionId = missionId ∧ row.ocsId = ocsId ∧
      row.instanceId = instanceId ∧
      activates = (activateIfEmpty && mission.activeInstanceId.isNone) ∧
      Binds database fenced mission row activates ∧
        (Trial.bound fenced mission row activates).SameStanding after := by
  simp only [Trial.bind] at h
  split at h
  · cases h
  · obtain ⟨mission, hmission, h⟩ := bind_eq_ok h
    obtain ⟨⟨fenced, epoch, generation, predecessor⟩, hadvance, h⟩ := bind_eq_ok h
    obtain ⟨inserted, hinserted, h⟩ := bind_eq_ok h
    obtain ⟨⟨receipted, receiptId⟩, hreceipt, h⟩ := bind_eq_ok h
    cases h
    obtain ⟨rfl, hfresh⟩ := insertBinding_eq_ok hinserted
    refine ⟨fenced, mission, _, _, rfl, rfl, rfl, rfl,
      ⟨mission_eq_ok hmission, ⟨predecessor, hadvance⟩, ?_, rfl, hfresh⟩,
      receipt_same hreceipt⟩
    intro hactivates
    simpa using (Bool.and_eq_true_iff.mp hactivates).2

theorem bind_changes {authorityRef : String} {activateIfEmpty : Bool}
    {answer : BindingReceipt} (hrule : rule.binds database missionId ocsId)
    (h : Trial.bind canonicalHash missionId ocsId instanceId authorityRef activateIfEmpty now
      database = .ok (after, answer)) : Changes rule database after := by
  obtain ⟨fenced, mission, row, activates, rfl, rfl, -, -, hbinds, hsame⟩ := bind_spec h
  exact ⟨_, .bound hrule hbinds, hsame⟩

theorem checkpoint_changes {localState : Value} {checkpointId : String}
    (h : checkpoint canonicalHash missionId instanceId localState now database =
      .ok (after, checkpointId)) : Changes rule database after := by
  simp only [checkpoint] at h
  obtain ⟨mission, hmission, h⟩ := bind_eq_ok h
  split at h
  · cases h
  · obtain ⟨binding, hbinding, h⟩ := bind_eq_ok h
    obtain ⟨saved, hsaved, h⟩ := bind_eq_ok h
    obtain ⟨⟨receipted, receiptId⟩, hreceipt, h⟩ := bind_eq_ok h
    obtain ⟨noted, hledger, h⟩ := bind_eq_ok h
    cases h
    have hsame := (receipt_same hreceipt).trans (appendLedger_same hledger)
    exact ⟨_, .referenced binding.bindingId _,
      ((insertCheckpoint_same hsaved).updateBinding binding.bindingId _).trans hsame⟩

theorem writeState_changes {epoch : ℤ} {namespaceKey : String} {value : Value}
    {answer : MutationReceipt}
    (h : writeState canonicalHash missionId ocsId instanceId epoch namespaceKey value now
      database = .ok (after, answer)) : Changes rule database after := by
  simp only [writeState] at h
  obtain ⟨reason, hreason, h⟩ := bind_eq_ok h
  cases reason with
  | some reason =>
    obtain ⟨⟨receipted, receiptId⟩, hreceipt, h⟩ := bind_eq_ok h
    cases h
    exact .same (receipt_same hreceipt)
  | none =>
    obtain ⟨⟨receipted, receiptId⟩, hreceipt, h⟩ := bind_eq_ok h
    cases h
    have hsame := receipt_same hreceipt
    exact .same ⟨hsame.missions, hsame.bindings, hsame.fencing, hsame.handoffs⟩

variable {handoffId : String}

theorem issueHandoff_changes {routeId targetInstanceId targetOcsId : String}
    {envelope : Value}
    (h : issueHandoff canonicalHash missionId routeId targetInstanceId targetOcsId envelope
      now database = .ok (after, handoffId)) : Changes rule database after := by
  simp only [issueHandoff] at h
  split at h
  · cases h
  · obtain ⟨mission, hmission, h⟩ := bind_eq_ok h
    split at h
    · cases h
    · split at h
      · cases h
      · split at h
        · cases h
        · obtain ⟨source, hsource, h⟩ := bind_eq_ok h
          split at h
          · cases h
          · obtain ⟨found, hfound, h⟩ := bind_eq_ok h
            split at h
            · cases h
            · rename_i htarget
              obtain ⟨issued, hissued, h⟩ := bind_eq_ok h
              obtain ⟨noted, hledger, h⟩ := bind_eq_ok h
              cases h
              cases found with
              | none => exact absurd rfl htarget
              | some target =>
                have hmem : target ∈ (database.instanceBindings missionId
                    targetInstanceId).filter fun row =>
                      row.ocsId = targetOcsId ∧ row.status = .bound := by
                  rw [oneOrNone_eq_ok hfound]
                  exact List.mem_singleton_self target
                obtain ⟨hinstance, hbound⟩ := List.mem_filter.mp hmem
                obtain ⟨hrow, hmission⟩ := List.mem_filter.mp hinstance
                obtain rfl := insertHandoff_eq_ok hissued
                refine ⟨_, .issued hrow ?_ ?_, appendLedger_same hledger⟩
                · exact (of_decide_eq_true hmission).1
                · exact (of_decide_eq_true hbound).1

theorem acceptHandoff_spec {answer : HandoffReceipt}
    (h : acceptHandoff canonicalHash missionId handoffId now database =
      .ok (after, answer)) :
    ∃ mission target row closed, database.missions.lookup missionId = some mission ∧
      database.handoffs.lookup handoffId = some row ∧ row.missionId = missionId ∧
      (closed.missionId = row.missionId ∧ closed.targetOcsId = row.targetOcsId) ∧
      mission.activeInstanceId = some row.sourceInstanceId ∧
      (database.instanceBindings missionId row.targetInstanceId).filter
        (fun binding => binding.status = .bound) = [target] ∧
      (Trial.accepted database missionId handoffId mission target row closed).SameStanding
        after := by
  simp only [acceptHandoff] at h
  obtain ⟨row, hrow, h⟩ := bind_eq_ok h
  split at h
  · cases h
  · obtain ⟨mission, hmission, h⟩ := bind_eq_ok h
    split at h
    · cases h
    · rename_i hsource
      obtain ⟨target, htarget, h⟩ := bind_eq_ok h
      split at h
      · cases h
      · obtain ⟨⟨receipted, receiptId⟩, hreceipt, h⟩ := bind_eq_ok h
        obtain ⟨noted, hledger, h⟩ := bind_eq_ok h
        cases h
        have hmem : row ∈ (database.handoffs.lookup handoffId).toList.filter fun row =>
            row.missionId = missionId := by
          rw [one_eq_ok hrow]
          exact List.mem_singleton_self row
        obtain ⟨hlookup, hrowMission⟩ := List.mem_filter.mp hmem
        have hreceipted := receipt_same hreceipt
        have hnoted := appendLedger_same hledger
        have hhandoffs (closed : HandoffRow) : receipted.handoffs.insert handoffId closed =
            database.handoffs.insert handoffId closed :=
          congrArg (AList.insert handoffId closed) hreceipted.handoffs
        refine ⟨mission, target, row,
          { row with accepted := true, acceptanceReceiptRef := some receiptId },
          mission_eq_ok hmission, Option.mem_toList.mp hlookup,
          of_decide_eq_true hrowMission, ⟨rfl, rfl⟩, not_not.mp hsource,
          one_eq_ok htarget, ?_⟩
        constructor
        case missions =>
          exact hnoted.missions.trans (congrArg (AList.insert _ _) hreceipted.missions)
        case bindings => exact hnoted.bindings.trans hreceipted.bindings
        case fencing => exact hnoted.fencing.trans hreceipted.fencing
        case handoffs =>
          exact hnoted.handoffs.trans (hhandoffs _)

theorem acceptHandoff_changes {answer : HandoffReceipt}
    (hrule : ∀ row target, database.handoffs.lookup handoffId = some row →
      (database.instanceBindings missionId row.targetInstanceId).filter
        (fun binding => binding.status = .bound) = [target] → rule.accepts target row)
    (h : acceptHandoff canonicalHash missionId handoffId now database =
      .ok (after, answer)) : Changes rule database after := by
  obtain ⟨mission, target, row, closed, hmission, hrow, hrowMission, hclosed, hsource,
    htarget, hsame⟩ := acceptHandoff_spec h
  exact ⟨_, .accepted closed (hrule row target hrow htarget) hmission hrow hrowMission
    hclosed hsource htarget, hsame⟩

variable {activeInstance : String}

theorem release_spec
    (h : release missionId ocsId database = .ok (after, activeInstance)) :
    ∃ mission active, database.missions.lookup missionId = some mission ∧
      mission.activeOcsId = some ocsId ∧
      database.instanceBindings missionId (mission.activeInstanceId.getD "") = [active] ∧
      after = Trial.released database missionId mission active := by
  simp only [release] at h
  obtain ⟨mission, hmission, h⟩ := bind_eq_ok h
  split at h
  · cases h
  · rename_i hocs
    obtain ⟨active, hactive, h⟩ := bind_eq_ok h
    split at h
    · cases h
    · cases h
      exact ⟨mission, active, mission_eq_ok hmission, not_not.mp hocs, one_eq_ok hactive, rfl⟩

theorem release_changes
    (h : release missionId ocsId database = .ok (after, activeInstance)) :
    Changes rule database after := by
  obtain ⟨mission, active, hmission, hocs, hactive, rfl⟩ := release_spec h
  exact ⟨_, .released hmission hocs hactive, .refl _⟩

theorem recoveryReceipt_changes {successorInstanceId receiptId : String}
    {epoch : ℕ}
    (h : recoveryReceipt canonicalHash missionId activeInstance successorInstanceId epoch now
      database = .ok (after, receiptId)) : Changes rule database after :=
  .same (receipt_same h)

end Methods

/-! ## Calls -/

/-- The call's transactions meet the rule if they are accepted; the bind of `recover`
starts from what its first transaction leaves. -/
def Permits (rule : Rule) (canonicalHash : Value → String) (database : TrialDatabase) :
    TrialOp → Prop
  | .bind missionId ocsId instanceId authorityRef activateIfEmpty now =>
    (∃ result, Trial.bind canonicalHash missionId ocsId instanceId authorityRef
      activateIfEmpty now database = .ok result) → rule.binds database missionId ocsId
  | .acceptHandoff missionId handoffId now =>
    (∃ result, acceptHandoff canonicalHash missionId handoffId now database =
      .ok result) →
    ∀ row target, database.handoffs.lookup handoffId = some row →
      (database.instanceBindings missionId row.targetInstanceId).filter
        (fun binding => binding.status = .bound) = [target] → rule.accepts target row
  | .recover missionId ocsId _ _ _ _ =>
    ∀ after activeInstance, release missionId ocsId database = .ok (after, activeInstance) →
      rule.binds after missionId ocsId
  | _ => True

section Induction

variable {rule : Rule} {Inv : TrialDatabase → Prop} {canonicalHash : Value → String}
  {database : TrialDatabase}

/-- The discipline of a store that only one process uses. -/
def alone (Inv : TrialDatabase → Prop) : Discipline TrialDatabase :=
  .alone Inv (fun _ _ => True) (fun _ => trivial) fun _ _ => trivial

theorem recover_safe
    (hchanges : ∀ {database after}, Inv database → Changes rule database after → Inv after)
    (h : Inv database) {missionId ocsId successorInstanceId authorityRef : String}
    {now : ℕ → String}
    (hbinds : ∀ after activeInstance,
      release missionId ocsId database = .ok (after, activeInstance) →
      rule.binds after missionId ocsId) :
    Script.Safe (alone Inv) (fun _ _ => True)
      (recover canonicalHash missionId ocsId successorInstanceId authorityRef now)
      database := by
  have hrelease : Script.Safe (alone Inv)
      (fun _ released => rule.binds released missionId ocsId)
      (release missionId ocsId).commit database := by
    apply Transaction.safe_commit
    rintro found hfound rfl after activeInstance hok
    exact ⟨hchanges hfound (release_changes hok), trivial, hbinds after activeInstance hok⟩
  have hbind (released : TrialDatabase) (hrule : rule.binds released missionId ocsId) :
      Script.Safe (alone Inv) (fun _ _ => True)
        (Trial.bind canonicalHash missionId ocsId successorInstanceId authorityRef true
          now).commit released := by
    apply Transaction.safe_commit
    rintro found hfound rfl after receipt hok
    exact ⟨hchanges hfound (bind_changes hrule hok), trivial, trivial⟩
  have hreceipt (activeInstance : String) (epoch : ℕ) (later : ℕ → String)
      (bound : TrialDatabase) : Script.Safe (alone Inv) (fun _ _ => True)
        (recoveryReceipt canonicalHash missionId activeInstance successorInstanceId epoch
          later).commit bound := by
    apply Transaction.safe_commit
    rintro found hfound rfl after receiptId hok
    exact ⟨hchanges hfound (recoveryReceipt_changes hok), trivial, trivial⟩
  apply hrelease.bind h
  intro activeInstance released hreleased _ hrule
  apply (hbind released hrule).bind hreleased
  intro receipt bound hbound _ _
  apply (hreceipt activeInstance receipt.fencingEpoch _ bound).bind hbound
  intro _ _ _ _ _
  exact Script.safe_pure trivial

/-- The invariant rule for calls: what all changes under the rule keep, a call that meets
the rule keeps, wherever it stops. -/
theorem perform_induction
    (hchanges : ∀ {database after}, Inv database → Changes rule database after → Inv after)
    (h : Inv database) (op : TrialOp) (hpermits : Permits rule canonicalHash database op) :
    Inv (perform canonicalHash database op) := by
  have hleaves {A : Type} {transaction : Transaction TrialDatabase TrialError A}
      (hcommitted : ∀ after answer, transaction database = .ok (after, answer) →
        Changes rule database after) : Inv (transaction.leaves database) :=
    Transaction.leaves_induction Inv h fun after answer hok =>
      hchanges h (hcommitted after answer hok)
  cases op with
  | createMission => exact hleaves fun after _ hok => createMission_changes hok
  | bind => exact hleaves fun after answer hok => bind_changes (hpermits ⟨_, hok⟩) hok
  | checkpoint => exact hleaves fun after _ hok => checkpoint_changes hok
  | writeState => exact hleaves fun after _ hok => writeState_changes hok
  | issueHandoff => exact hleaves fun after _ hok => issueHandoff_changes hok
  | acceptHandoff =>
    exact hleaves fun after _ hok => acceptHandoff_changes (hpermits ⟨_, hok⟩) hok
  | recover missionId ocsId successorInstanceId authorityRef now crash =>
    cases crash with
    | none => exact ((recover_safe hchanges h hpermits).exec h).1
    | some count => exact ((recover_safe hchanges h hpermits).crashed h count).1

end Induction

theorem permits_any (canonicalHash : Value → String) (database : TrialDatabase)
    (op : TrialOp) : Permits .any canonicalHash database op := by
  cases op with
  | bind => exact fun _ => trivial
  | acceptHandoff => exact fun _ _ _ _ _ => trivial
  | recover => exact fun _ _ _ => trivial
  | _ => trivial

end ReisOs.Trial
