import ReisOs.Core.Fallible
import ReisOs.Core.Journals
import ReisOs.Trial2.Store

/-!
# What the methods change

For each method of the store, what an accepted call has found and the tables it leaves.
Observations and state entries are written and never read; the other seven tables are
the records of the store.
-/

namespace ReisOs.Trial2

open ReisOs.Core

namespace Database

/-- The records agree. -/
structure SameRecords (database after : Database) : Prop where
  missions : after.missions = database.missions
  bindings : after.bindings = database.bindings
  fencing : after.fencing = database.fencing
  checkpoints : after.checkpoints = database.checkpoints
  handoffs : after.handoffs = database.handoffs
  receipts : after.receipts = database.receipts
  effects : after.effects = database.effects

/-- The records agree, but for a new receipt. -/
structure Noted (missionId kind receiptId : String) (database after : Database) : Prop where
  fresh : database.receipts.lookup receiptId = none
  same : ∃ row : ReceiptRow, row.missionId = missionId ∧ row.kind = kind ∧
    SameRecords { database with receipts := database.receipts.insert receiptId row } after

variable {N : Type} {encoding : Encoding N} {database middle after : Database}
  {missionId kind receiptId : String}

theorem SameRecords.refl (database : Database) : SameRecords database database :=
  ⟨rfl, rfl, rfl, rfl, rfl, rfl, rfl⟩

theorem SameRecords.trans (hfirst : SameRecords database middle)
    (hlast : SameRecords middle after) : SameRecords database after where
  missions := hlast.missions.trans hfirst.missions
  bindings := hlast.bindings.trans hfirst.bindings
  fencing := hlast.fencing.trans hfirst.fencing
  checkpoints := hlast.checkpoints.trans hfirst.checkpoints
  handoffs := hlast.handoffs.trans hfirst.handoffs
  receipts := hlast.receipts.trans hfirst.receipts
  effects := hlast.effects.trans hfirst.effects

theorem Noted.trans (hnoted : Noted missionId kind receiptId database middle)
    (hlast : SameRecords middle after) : Noted missionId kind receiptId database after where
  fresh := hnoted.fresh
  same := by
    obtain ⟨row, hmission, hkind, hsame⟩ := hnoted.same
    exact ⟨row, hmission, hkind, hsame.trans hlast⟩

theorem Noted.missions (h : Noted missionId kind receiptId database after) :
    after.missions = database.missions := by
  obtain ⟨row, -, -, hsame⟩ := h.same
  exact hsame.missions

theorem Noted.bindings (h : Noted missionId kind receiptId database after) :
    after.bindings = database.bindings := by
  obtain ⟨row, -, -, hsame⟩ := h.same
  exact hsame.bindings

theorem Noted.fencing (h : Noted missionId kind receiptId database after) :
    after.fencing = database.fencing := by
  obtain ⟨row, -, -, hsame⟩ := h.same
  exact hsame.fencing

theorem Noted.checkpoints (h : Noted missionId kind receiptId database after) :
    after.checkpoints = database.checkpoints := by
  obtain ⟨row, -, -, hsame⟩ := h.same
  exact hsame.checkpoints

theorem Noted.handoffs (h : Noted missionId kind receiptId database after) :
    after.handoffs = database.handoffs := by
  obtain ⟨row, -, -, hsame⟩ := h.same
  exact hsame.handoffs

theorem Noted.effects (h : Noted missionId kind receiptId database after) :
    after.effects = database.effects := by
  obtain ⟨row, -, -, hsame⟩ := h.same
  exact hsame.effects

theorem Noted.receipts (h : Noted missionId kind receiptId database after) :
    ∃ row : ReceiptRow, row.missionId = missionId ∧ row.kind = kind ∧
      after.receipts = database.receipts.insert receiptId row := by
  obtain ⟨row, hmission, hkind, hsame⟩ := h.same
  exact ⟨row, hmission, hkind, hsame.receipts⟩

theorem mission_eq_ok {mission : MissionRow} (h : database.mission missionId = .ok mission) :
    database.missions.lookup missionId = some mission := by
  unfold Database.mission at h
  split at h
  · cases h
  · cases h
    assumption

theorem binding_eq_ok {instanceId : String} {binding : BindingRow}
    (h : database.binding missionId instanceId = .ok binding) :
    database.binding? missionId instanceId = some binding := by
  unfold Database.binding at h
  split at h
  · cases h
  · cases h
    assumption

theorem receipt_noted {payload : PyValue N} {time : String}
    (h : database.receipt encoding missionId kind payload time = .ok (after, receiptId)) :
    receiptId = encoding.receiptId missionId kind payload time ∧
      Noted missionId kind receiptId database after := by
  simp only [receipt] at h
  split at h
  · cases h
  · rename_i hfresh
    cases h
    have hnone : database.receipts.lookup (encoding.receiptId missionId kind payload time) =
        none := by
      simpa using hfresh
    exact ⟨rfl, hnone, _, rfl, rfl, .refl _⟩

theorem observe_same {gateBefore gateAfter : Option String} {before later : PyValue N}
    {observation : Observation} {outcome time : String}
    (h : database.observe encoding missionId gateBefore gateAfter before later observation
      outcome time = .ok after) : SameRecords database after := by
  simp only [observe] at h
  split at h
  · cases h
  · cases h
    exact ⟨rfl, rfl, rfl, rfl, rfl, rfl, rfl⟩

theorem observeMission_same {before : MissionRow} {observation : Observation}
    {outcome time : String}
    (h : database.observeMission encoding missionId before observation outcome time =
      .ok after) : SameRecords database after := by
  obtain ⟨mission, -, h⟩ := bind_eq_ok h
  exact observe_same h

theorem insertBinding_eq_ok {row : BindingRow}
    (h : database.insertBinding row = .ok after) :
    after = { database with bindings := database.bindings ++ [row] } ∧
      ∀ binding ∈ database.bindings, binding.bindingId ≠ row.bindingId ∧
        binding.key ≠ row.key := by
  unfold insertBinding at h
  split at h
  · cases h
  · rename_i hconflict
    cases h
    refine ⟨rfl, fun binding hbinding => ?_⟩
    simp only [List.any_eq_true, Bool.or_eq_true, decide_eq_true_eq, not_exists, not_and,
      not_or] at hconflict
    exact hconflict binding hbinding

theorem insertCheckpoint_eq_ok {row : CheckpointRow}
    (h : database.insertCheckpoint row = .ok after) :
    after = { database with checkpoints := database.checkpoints ++ [row] } ∧
      ∀ checkpoint ∈ database.checkpoints, checkpoint.checkpointId ≠ row.checkpointId := by
  unfold insertCheckpoint at h
  split at h
  · cases h
  · rename_i hconflict
    cases h
    refine ⟨rfl, fun checkpoint hcheckpoint heq => hconflict ?_⟩
    rw [List.any_eq_true]
    exact ⟨checkpoint, hcheckpoint, by simp [heq]⟩

variable {handoffId : String}

theorem insertHandoff_eq_ok {row : HandoffRow}
    (h : database.insertHandoff handoffId row = .ok after) :
    after = { database with handoffs := database.handoffs.insert handoffId row } ∧
      database.handoffs.lookup handoffId = none := by
  unfold insertHandoff at h
  split at h
  · cases h
  · rename_i hfresh
    cases h
    exact ⟨rfl, by simpa using hfresh⟩

theorem insertEffect_eq_ok {row : EffectRow} (h : database.insertEffect row = .ok after) :
    after = { database with effects := database.effects ++ [row] } ∧
      ∀ effect ∈ database.effects, effect.effectId ≠ row.effectId ∧
        effect.key ≠ row.key := by
  unfold insertEffect at h
  split at h
  · cases h
  · rename_i hconflict
    cases h
    refine ⟨rfl, fun effect heffect => ?_⟩
    simp only [List.any_eq_true, Bool.or_eq_true, decide_eq_true_eq, not_exists, not_and,
      not_or] at hconflict
    exact hconflict effect heffect

theorem handoffRow_eq_ok {row : HandoffRow}
    (h : database.handoffRow missionId handoffId = .ok row) :
    database.handoffs.lookup handoffId = some row ∧ row.missionId = missionId := by
  unfold handoffRow at h
  split at h
  · cases h
  · rename_i found hfound
    split at h
    · rename_i hmission
      cases h
      exact ⟨hfound, hmission⟩
    · cases h

theorem validatedHandoffRow_eq_ok {row : HandoffRow}
    (h : database.validatedHandoffRow encoding missionId handoffId = .ok row) :
    database.handoffRow missionId handoffId = .ok row := by
  obtain ⟨found, hfound, h⟩ := bind_eq_ok h
  split at h
  · cases h
  · split at h
    · cases h
    · cases h
      exact hfound

end Database

open Database

/-! ## Databases after the writes -/

/-- The database after the writes of a bind. -/
def bound (database : Database) (mission : MissionRow) (row : BindingRow) (active : Bool) :
    Database :=
  let inserted := { database with
    fencing := database.fencing.insert (row.missionId, row.ocsId) row.fencingEpoch
    bindings := database.bindings ++ [row] }
  if active then
    inserted.updateMission row.missionId
      { mission with
        activeOcsId := some row.ocsId
        activeInstanceId := some row.instanceId
        version := mission.version + 1 }
  else inserted

/-- The database after the writes of a checkpoint. -/
def checkpointed (database : Database) (row : CheckpointRow) (bindingId : String) :
    Database :=
  { database with checkpoints := database.checkpoints ++ [row] }.updateBinding bindingId
    fun binding => { binding with checkpointRef := some row.checkpointId }

/-- The database after the writes of an issued handoff. -/
def issued (database : Database) (mission : MissionRow) (handoffId : String)
    (row : HandoffRow) : Database :=
  { database with handoffs := database.handoffs.insert handoffId row }.updateMission
    row.missionId { mission with currentHandoffRef := some handoffId }

/-- The status a handoff gives a binding. -/
def restatus (reading : Reading) (binding : BindingRow) : BindingRow :=
  { binding with
    status :=
      if binding.bindingId = reading.target.bindingId then .active
      else if binding.bindingId = reading.source.bindingId then .quiescent
      else binding.status }

/-- The mission's row after a handoff. -/
def advanced (handoffId : String) (reading : Reading) (current : MissionRow) : MissionRow :=
  { current with
    activeOcsId := some reading.row.targetOcsId
    activeInstanceId := some reading.row.targetInstanceId
    currentHandoffRef := some handoffId
    autonomousStepCounter := reading.mission.autonomousStepCounter + 1
    autonomousHandoffCounter := reading.mission.autonomousHandoffCounter + 1
    version := reading.mission.version + 1 }

/-- The database after the writes of an accepted handoff; `stored` is the handoff's row
as the writes find it. -/
def handedOver (database : Database) (missionId handoffId : String) (reading : Reading)
    (current : MissionRow) (stored : HandoffRow) (receipt : String) : Database :=
  { database with
    missions := database.missions.insert missionId (advanced handoffId reading current)
    bindings := database.bindings.map (restatus reading)
    handoffs := database.handoffs.insert handoffId
      { stored with accepted := true, acceptanceReceiptRef := some receipt } }

/-! ## Accepted calls -/

/-- What an accepted bind has found. -/
structure Binds (database : Database) (mission : MissionRow) (row : BindingRow)
    (active : Bool) : Prop where
  named : row.missionId ≠ "" ∧ row.ocsId ≠ "" ∧ row.instanceId ≠ ""
  found : database.missions.lookup row.missionId = some mission
  epoch : (database.fencing.lookup (row.missionId, row.ocsId) = none ∧
      row.fencingEpoch = 1 ∧ row.generation = 1) ∨
    ∃ prior newest, database.fencing.lookup (row.missionId, row.ocsId) = some prior ∧
      database.newest row.missionId row.ocsId = some newest ∧
      row.fencingEpoch = prior + 1 ∧ row.generation = newest.generation + 1
  idle : active = true → mission.activeInstanceId = none
  status : row.status = if active then .active else .bound
  unsaved : row.checkpointRef = none
  fresh : ∀ binding ∈ database.bindings, binding.bindingId ≠ row.bindingId ∧
    binding.key ≠ row.key

/-- What an accepted checkpoint has found. -/
structure Saves (encoding : Encoding N) (database : Database) (mission : MissionRow)
    (binding : BindingRow) (row : CheckpointRow) (localState : PyValue N) : Prop where
  found : database.missions.lookup row.missionId = some mission
  pointer : mission.activeInstanceId = some row.instanceId
  seated : database.binding? row.missionId row.instanceId = some binding
  active : binding.status = .active
  named : row.checkpointId ≠ ""
  json : row.localStateJson = encoding.json localState
  hash : row.localStateHash = encoding.hash localState
  fresh : ∀ checkpoint ∈ database.checkpoints, checkpoint.checkpointId ≠ row.checkpointId

/-- What an issued handoff has found. -/
structure Issues (encoding : Encoding N) (database : Database) (mission : MissionRow)
    (source target : BindingRow) (handoffId : String) (row : HandoffRow)
    (envelope : PyValue N) : Prop where
  found : database.missions.lookup row.missionId = some mission
  ocs : mission.activeOcsId = some row.sourceOcsId
  pointer : mission.activeInstanceId = some row.sourceInstanceId
  sender : database.binding? row.missionId row.sourceInstanceId = some source
  receiver : database.binding? row.missionId row.targetInstanceId = some target
  saved : source.checkpointRef = some row.checkpointRef
  targetOcs : target.ocsId = row.targetOcsId
  route : row.targetOcsId ∈ routes.map fun route => route.2.2
  waiting : target.status = .bound
  named : handoffId ≠ ""
  pending : row.accepted = false
  json : row.envelopeJson = encoding.json envelope
  hash : row.envelopeHash = encoding.hash envelope
  fresh : database.handoffs.lookup handoffId = none

/-- What `accept_handoff` has read. -/
structure Acceptable (database : Database) (missionId handoffId : String)
    (reading : Reading) : Prop where
  found : database.missions.lookup missionId = some reading.mission
  row : database.handoffs.lookup handoffId = some reading.row
  ofMission : reading.row.missionId = missionId
  pending : reading.row.accepted = false
  pointer : reading.mission.activeInstanceId = some reading.row.sourceInstanceId
  sender : database.binding? missionId reading.row.sourceInstanceId = some reading.source
  receiver : database.binding? missionId reading.row.targetInstanceId = some reading.target
  saved : reading.source.checkpointRef = some reading.row.checkpointRef
  waiting : reading.target.status = .bound
  budget : (reading.mission.autonomousStepCounter + 1 : ℤ) ≤ reading.mission.autonomyBudget

theorem given_eq_some {text : Option String} {found : String} (h : given text = some found) :
    text = some found ∧ found ≠ "" := by
  unfold given at h
  rw [Option.filter_eq_some_iff] at h
  exact ⟨h.1, of_decide_eq_true h.2⟩

section Methods

variable {encoding : Encoding N} {database after : Database}
  {missionId ocsId instanceId : String} {now : ℕ → String}

theorem createMission_spec {canonicalStateRef currentGate : String} {autonomyBudget : ℤ}
    (h : createMission encoding missionId canonicalStateRef currentGate autonomyBudget now
      database = .ok (after, ())) :
    ∃ mission, database.missions.lookup missionId = none ∧ mission.activeOcsId = none ∧
      mission.activeInstanceId = none ∧ mission.currentHandoffRef = none ∧
      (mission.autonomousStepCounter : ℤ) ≤ mission.autonomyBudget ∧
      (database.updateMission missionId mission).SameRecords after := by
  simp only [createMission] at h
  split at h
  · cases h
  · rename_i hbudget
    split at h
    · cases h
    · rename_i hnew
      obtain ⟨noted, hobserve, h⟩ := bind_eq_ok h
      cases h
      have hnone : database.missions.lookup missionId = none := by
        simpa using hnew
      refine ⟨_, hnone, rfl, rfl, rfl, ?_, observe_same hobserve⟩
      show ((0 : ℕ) : ℤ) ≤ autonomyBudget
      omega

theorem advanceEpoch_eq_ok {advanced : Database} {epoch generation : ℕ}
    (h : database.advanceEpoch missionId ocsId = .ok (advanced, epoch, generation)) :
    ((database.fencing.lookup (missionId, ocsId) = none ∧ epoch = 1 ∧ generation = 1) ∨
      ∃ prior newest, database.fencing.lookup (missionId, ocsId) = some prior ∧
        database.newest missionId ocsId = some newest ∧ epoch = prior + 1 ∧
        generation = newest.generation + 1) ∧
      advanced = { database with
        fencing := database.fencing.insert (missionId, ocsId) epoch } := by
  unfold Database.advanceEpoch at h
  split at h
  · rename_i hnone
    cases h
    exact ⟨.inl ⟨hnone, rfl, rfl⟩, rfl⟩
  · rename_i prior hprior
    split at h
    · cases h
    · rename_i newest hnewest
      cases h
      exact ⟨.inr ⟨prior, newest, hprior, hnewest, rfl, rfl⟩, rfl⟩

theorem bind_spec {authorityRef role : String} {activateIfEmpty : Bool}
    {answer : BindResult}
    (h : Trial2.bind encoding missionId ocsId instanceId authorityRef role activateIfEmpty now
      database = .ok (after, answer)) :
    ∃ mission row active, row.missionId = missionId ∧ row.ocsId = ocsId ∧
      row.instanceId = instanceId ∧ Binds database mission row active ∧
      (Trial2.bound database mission row active).Noted missionId "binding"
        answer.receiptRef after := by
  simp only [Trial2.bind] at h
  split at h
  · cases h
  · rename_i hnamed
    simp only [not_or] at hnamed
    obtain ⟨mission, hmission, h⟩ := bind_eq_ok h
    obtain ⟨⟨advanced, epoch, generation⟩, hadvance, h⟩ := bind_eq_ok h
    obtain ⟨inserted, hinserted, h⟩ := bind_eq_ok h
    obtain ⟨⟨receipted, receiptId⟩, hreceipt, h⟩ := bind_eq_ok h
    obtain ⟨observed, hobserve, h⟩ := bind_eq_ok h
    cases h
    obtain ⟨hepoch, rfl⟩ := advanceEpoch_eq_ok hadvance
    obtain ⟨rfl, hfresh⟩ := insertBinding_eq_ok hinserted
    refine ⟨mission, _, activateIfEmpty && mission.activeInstanceId.isNone, rfl, rfl, rfl,
      ⟨⟨hnamed.1, hnamed.2.1, hnamed.2.2.1⟩, mission_eq_ok hmission, hepoch, ?_, rfl, rfl,
        hfresh⟩, (receipt_noted hreceipt).2.trans (observeMission_same hobserve)⟩
    intro hactive
    simpa using (Bool.and_eq_true_iff.mp hactive).2

theorem prefixed_ne_empty (label digest : String) (h : label ≠ "") :
    label ++ digest ≠ "" := by
  intro heq
  apply h
  have hlength := congrArg String.length heq
  rw [String.length_append] at hlength
  have hzero : label.length = 0 := by
    have : ("" : String).length = 0 := rfl
    omega
  exact String.length_eq_zero_iff.mp hzero

theorem checkpoint_spec {localState : PyValue N} {checkpointId : String}
    (h : checkpoint encoding missionId instanceId localState now database =
      .ok (after, checkpointId)) :
    ∃ mission binding row receipt, row.missionId = missionId ∧ row.instanceId = instanceId ∧
      Saves encoding database mission binding row localState ∧
      (checkpointed database row binding.bindingId).Noted missionId "checkpoint" receipt
        after := by
  simp only [checkpoint] at h
  obtain ⟨mission, hmission, h⟩ := bind_eq_ok h
  split at h
  · cases h
  · rename_i hpointer
    obtain ⟨binding, hbinding, h⟩ := bind_eq_ok h
    split at h
    · cases h
    · rename_i hactive
      obtain ⟨saved, hsaved, h⟩ := bind_eq_ok h
      obtain ⟨⟨receipted, receiptId⟩, hreceipt, h⟩ := bind_eq_ok h
      obtain ⟨observed, hobserve, h⟩ := bind_eq_ok h
      cases h
      obtain ⟨rfl, hfresh⟩ := insertCheckpoint_eq_ok hsaved
      refine ⟨mission, binding, _, receiptId, rfl, rfl,
        ⟨mission_eq_ok hmission, not_not.mp hpointer, binding_eq_ok hbinding,
          not_not.mp hactive, ?_, rfl, rfl, hfresh⟩,
        (receipt_noted hreceipt).2.trans (observeMission_same hobserve)⟩
      exact prefixed_ne_empty "checkpoint:" _ (by decide)

variable {handoffId : String}

theorem issueHandoff_spec {routeId targetInstanceId targetOcsId : String}
    {envelope : PyValue N}
    (h : issueHandoff encoding missionId routeId targetInstanceId targetOcsId envelope now
      database = .ok (after, handoffId)) :
    ∃ mission source target row receipt, row.missionId = missionId ∧
      Issues encoding database mission source target handoffId row envelope ∧
      (issued database mission handoffId row).Noted missionId "handoff_envelope" receipt
        after := by
  simp only [issueHandoff] at h
  split at h
  · cases h
  · rename_i routeSource routeTarget hroute
    obtain ⟨mission, hmission, h⟩ := bind_eq_ok h
    split at h
    · rename_i sourceOcs sourceInstance hocs hinstance
      split at h
      · cases h
      · split at h
        · cases h
        · rename_i htargetOcs
          obtain ⟨source, hsource, h⟩ := bind_eq_ok h
          obtain ⟨target, htarget, h⟩ := bind_eq_ok h
          split at h
          · cases h
          · rename_i checkpointRef hcheckpoint
            split at h
            · cases h
            · rename_i hwaiting
              obtain ⟨inserted, hinserted, h⟩ := bind_eq_ok h
              obtain ⟨⟨receipted, receiptId⟩, hreceipt, h⟩ := bind_eq_ok h
              obtain ⟨observed, hobserve, h⟩ := bind_eq_ok h
              cases h
              obtain ⟨rfl, hfresh⟩ := insertHandoff_eq_ok hinserted
              simp only [not_or, not_not] at hwaiting
              refine ⟨mission, source, target, _, receiptId, rfl, ?_,
                (receipt_noted hreceipt).2.trans (observeMission_same hobserve)⟩
              constructor
              case found => exact mission_eq_ok hmission
              case ocs => exact (given_eq_some hocs).1
              case pointer => exact (given_eq_some hinstance).1
              case sender => exact binding_eq_ok hsource
              case receiver => exact binding_eq_ok htarget
              case saved => exact (given_eq_some hcheckpoint).1
              case targetOcs => exact hwaiting.1
              case route =>
                rw [← not_not.mp htargetOcs]
                obtain ⟨earlier, later, hroutes, -⟩ := List.lookup_eq_some_iff.mp hroute
                rw [hroutes]
                simp
              case waiting => exact hwaiting.2
              case named => exact prefixed_ne_empty "handoff:" _ (by decide)
              case pending => rfl
              case json => rfl
              case hash => rfl
              case fresh => exact hfresh
    · cases h

variable {reading : Reading}

theorem readAcceptance_spec {found : Except Trial2Error HandoffRow}
    (hfound : ∀ row, found = .ok row →
      database.handoffs.lookup handoffId = some row ∧ row.missionId = missionId)
    (h : readAcceptance missionId found database = .ok reading) :
    Acceptable database missionId handoffId reading := by
  unfold readAcceptance at h
  obtain ⟨mission, hmission, h⟩ := bind_eq_ok h
  obtain ⟨row, hrow, h⟩ := bind_eq_ok h
  split at h
  · cases h
  · rename_i hpending
    split at h
    · cases h
    · rename_i hpointer
      obtain ⟨source, hsource, h⟩ := bind_eq_ok h
      obtain ⟨target, htarget, h⟩ := bind_eq_ok h
      split at h
      · cases h
      · rename_i hsaved
        split at h
        · cases h
        · rename_i hwaiting
          split at h
          · cases h
          · rename_i hbudget
            cases h
            constructor
            case found => exact mission_eq_ok hmission
            case row => exact (hfound row hrow).1
            case ofMission => exact (hfound row hrow).2
            case pending => exact Bool.eq_false_iff.mpr hpending
            case pointer => exact not_not.mp hpointer
            case sender => exact binding_eq_ok hsource
            case receiver => exact binding_eq_ok htarget
            case saved => exact (given_eq_some (not_not.mp hsaved)).1
            case waiting => exact not_not.mp hwaiting
            case budget => exact not_lt.mp hbudget

theorem readHandoff_spec
    (h : IntegrityChecked.readHandoff encoding missionId handoffId database = .ok reading) :
    Acceptable database missionId handoffId reading := by
  apply readAcceptance_spec _ h
  intro row hrow
  exact handoffRow_eq_ok (validatedHandoffRow_eq_ok hrow)

theorem updateWhere_restatus (reading : Reading) (rows : List BindingRow) :
    updateWhere (fun binding => binding.bindingId = reading.target.bindingId)
        (fun binding => { binding with status := .active })
        (updateWhere (fun binding => binding.bindingId = reading.source.bindingId)
          (fun binding => { binding with status := .quiescent }) rows) =
      rows.map (restatus reading) := by
  rw [updateWhere, updateWhere, List.map_map]
  apply List.map_congr_left
  intro binding _
  simp only [Function.comp_apply, restatus, decide_eq_true_eq]
  by_cases hsource : binding.bindingId = reading.source.bindingId
  · rw [if_pos hsource, if_pos hsource]
    by_cases htarget : binding.bindingId = reading.target.bindingId
    · rw [if_pos htarget, if_pos htarget]
    · rw [if_neg htarget, if_neg htarget]
  · rw [if_neg hsource, if_neg hsource]
    by_cases htarget : binding.bindingId = reading.target.bindingId
    · rw [if_pos htarget, if_pos htarget]
    · rw [if_neg htarget, if_neg htarget]

theorem handOver_spec {receipt : String}
    {current : MissionRow} {stored : HandoffRow}
    (hstored : database.handoffs.lookup handoffId = some stored)
    (h : handOver encoding missionId handoffId reading current now database =
      .ok (after, receipt)) :
    receipt ≠ "" ∧
      (handedOver database missionId handoffId reading current stored receipt).Noted
        missionId "handoff_acceptance" receipt after := by
  simp only [handOver] at h
  obtain ⟨⟨receipted, receiptId⟩, hreceipt, h⟩ := bind_eq_ok h
  obtain ⟨observed, hobserve, h⟩ := bind_eq_ok h
  cases h
  obtain ⟨hid, hnoted⟩ := receipt_noted hreceipt
  have hsame := observeMission_same hobserve
  constructor
  · rw [hid]
    exact prefixed_ne_empty "receipt:" _ (by decide)
  · constructor
    case fresh => exact hnoted.fresh
    case same =>
      obtain ⟨row, hmission, hkind, hreceipted⟩ := hnoted.same
      have hhandoffs : receipted.handoffs = database.handoffs := hreceipted.handoffs
      refine ⟨row, hmission, hkind, ?_⟩
      constructor
      case missions => exact hsame.missions.trans hreceipted.missions
      case bindings =>
        rw [hsame.bindings, ← hreceipted.bindings.symm]
        exact updateWhere_restatus reading database.bindings
      case fencing => exact hsame.fencing.trans hreceipted.fencing
      case checkpoints => exact hsame.checkpoints.trans hreceipted.checkpoints
      case handoffs =>
        rw [hsame.handoffs]
        simp only [hhandoffs, hstored]
        rfl
      case receipts => exact hsame.receipts.trans hreceipted.receipts
      case effects => exact hsame.effects.trans hreceipted.effects

theorem claim_spec {receipt : String} {stored : HandoffRow}
    (hstored : database.handoffs.lookup handoffId = some stored)
    (h : IntegrityChecked.claim encoding missionId handoffId reading now database =
      .ok (after, receipt)) :
    ∃ current, database.missions.lookup missionId = some current ∧
      current.version = reading.mission.version ∧
      current.activeInstanceId = some reading.row.sourceInstanceId ∧ receipt ≠ "" ∧
      (handedOver database missionId handoffId reading current stored receipt).Noted
        missionId "handoff_acceptance" receipt after := by
  unfold IntegrityChecked.claim at h
  split at h
  · cases h
  · rename_i current hcurrent
    split at h
    · cases h
    · rename_i hsame
      simp only [not_or, not_not] at hsame
      exact ⟨current, hcurrent, hsame.1, hsame.2, handOver_spec hstored h⟩

theorem acceptHandoff_spec {store : StoreClass} {receipt : String}
    (h : store.choose (acceptHandoff encoding missionId handoffId now)
      (IntegrityChecked.acceptHandoff encoding missionId handoffId now) database =
        .ok (after, receipt)) :
    ∃ reading, Acceptable database missionId handoffId reading ∧ receipt ≠ "" ∧
      (handedOver database missionId handoffId reading reading.mission reading.row
        receipt).Noted missionId "handoff_acceptance" receipt after := by
  cases store with
  | persistent =>
    obtain ⟨reading, hreading, h⟩ := bind_eq_ok h
    have hacceptable := readAcceptance_spec (fun _ => handoffRow_eq_ok) hreading
    exact ⟨reading, hacceptable, handOver_spec hacceptable.row h⟩
  | integrityChecked =>
    obtain ⟨reading, hreading, h⟩ := bind_eq_ok h
    have hacceptable := readHandoff_spec hreading
    obtain ⟨current, hcurrent, -, -, hnoted⟩ := claim_spec hacceptable.row h
    rw [hacceptable.found] at hcurrent
    cases hcurrent
    exact ⟨reading, hacceptable, hnoted⟩

theorem recoverSnapshotWith_same
    {handoffOf : Database → String → Except Trial2Error HandoffRow}
    {authorityValidator : String → String → String → Bool} {answer : RecoverySnapshot}
    (h : recoverSnapshotWith encoding handoffOf missionId authorityValidator now database =
      .ok (after, answer)) : database.SameRecords after := by
  simp only [recoverSnapshotWith] at h
  obtain ⟨mission, -, h⟩ := bind_eq_ok h
  split at h
  · obtain ⟨binding, -, h⟩ := bind_eq_ok h
    split at h
    · cases h
    · split at h
      · cases h
      · obtain ⟨-, -, h⟩ := bind_eq_ok h
        split at h
        · cases h
        · split at h
          · cases h
          · obtain ⟨-, -, h⟩ := bind_eq_ok h
            obtain ⟨observed, hobserve, h⟩ := bind_eq_ok h
            cases h
            exact observe_same hobserve
  · cases h

/-- What an effect of the active instance has found. -/
structure Admitted (database : Database) (missionId ocsId instanceId : String) (epoch : ℤ)
    (authorityRef : String) : Prop where
  pointer : ∃ mission, database.missions.lookup missionId = some mission ∧
    mission.activeOcsId = some ocsId ∧ mission.activeInstanceId = some instanceId
  seated : ∃ binding, database.binding? missionId instanceId = some binding ∧
    (binding.fencingEpoch : ℤ) = epoch ∧ binding.authorityRef = authorityRef

theorem applySyntheticEffectWith_spec {conflicts : EffectRow → Bool} {epoch : ℤ}
    {authorityRef idempotencyKey : String} {payload : PyValue N} {answer : EffectResult}
    (h : applySyntheticEffectWith encoding conflicts missionId ocsId instanceId epoch
      authorityRef idempotencyKey payload now database = .ok (after, answer)) :
    Admitted database missionId ocsId instanceId epoch authorityRef ∧
      ((∃ prior, database.effects.find? (EffectRow.key · = (missionId, idempotencyKey)) =
            some prior ∧ conflicts prior = false ∧ after = database ∧
          answer = ⟨prior.effectId, prior.receiptRef, 0, true⟩) ∨
        ∃ row, (∀ effect ∈ database.effects, effect.key ≠ row.key) ∧
          row.key = (missionId, idempotencyKey) ∧
          row.payloadHash = encoding.hash payload ∧
          answer = ⟨row.effectId, row.receiptRef, 1, false⟩ ∧
          Noted missionId "effect" row.receiptRef
            { database with effects := database.effects ++ [row] } after) := by
  simp only [applySyntheticEffectWith] at h
  obtain ⟨mission, hmission, h⟩ := bind_eq_ok h
  split at h
  · cases h
  · rename_i hpointer
    simp only [not_or, not_not] at hpointer
    obtain ⟨binding, hbinding, h⟩ := bind_eq_ok h
    split at h
    · cases h
    · rename_i hepoch
      split at h
      · cases h
      · rename_i hauthority
        refine ⟨⟨⟨mission, mission_eq_ok hmission, hpointer⟩,
          ⟨binding, binding_eq_ok hbinding, not_not.mp hepoch, not_not.mp hauthority⟩⟩, ?_⟩
        split at h
        · rename_i prior hprior
          split at h
          · cases h
          · rename_i hconflicts
            cases h
            exact .inl ⟨prior, hprior, Bool.eq_false_iff.mpr hconflicts, rfl, rfl⟩
        · obtain ⟨⟨receipted, receiptId⟩, hreceipt, h⟩ := bind_eq_ok h
          obtain ⟨inserted, hinserted, h⟩ := bind_eq_ok h
          cases h
          obtain ⟨rfl, hfresh⟩ := insertEffect_eq_ok hinserted
          have hnoted := (receipt_noted hreceipt).2
          obtain ⟨row, hrowMission, hkind, hsame⟩ := hnoted.same
          have heffects : receipted.effects = database.effects := hsame.effects
          rw [heffects] at hfresh
          refine .inr ⟨_, fun effect heffect => (hfresh effect heffect).2, rfl, rfl, rfl,
            hnoted.fresh, row, hrowMission, hkind, ?_⟩
          constructor
          case missions => exact hsame.missions
          case bindings => exact hsame.bindings
          case fencing => exact hsame.fencing
          case checkpoints => exact hsame.checkpoints
          case handoffs => exact hsame.handoffs
          case receipts => exact hsame.receipts
          case effects => exact congrArg (· ++ _) heffects

theorem writeState_spec {epoch : ℤ} {namespaceKey : String} {value : PyValue N}
    {count : ℕ}
    (h : writeState encoding missionId ocsId instanceId epoch namespaceKey value database =
      .ok (after, count)) :
    database.SameRecords after ∧
      (count = 1 → ∃ authorityRef,
        Admitted database missionId ocsId instanceId epoch authorityRef) := by
  simp only [writeState] at h
  obtain ⟨mission, hmission, h⟩ := bind_eq_ok h
  split at h
  · cases h
    exact ⟨.refl _, fun hcount => absurd hcount (by decide)⟩
  · rename_i hpointer
    simp only [not_or, not_not] at hpointer
    split at h
    · cases h
      exact ⟨.refl _, fun hcount => absurd hcount (by decide)⟩
    · obtain ⟨binding, hbinding, h⟩ := bind_eq_ok h
      split at h
      · cases h
        exact ⟨.refl _, fun hcount => absurd hcount (by decide)⟩
      · rename_i hepoch
        cases h
        refine ⟨⟨rfl, rfl, rfl, rfl, rfl, rfl, rfl⟩, fun _ => ⟨binding.authorityRef, ?_⟩⟩
        exact ⟨⟨mission, mission_eq_ok hmission, hpointer⟩,
          ⟨binding, binding_eq_ok hbinding, not_not.mp hepoch, rfl⟩⟩

end Methods

/-! ## Calls -/

/-- What a call does to the records. -/
inductive Change (encoding : Encoding N) (database : Database) : Call N → Database → Prop where
  | same {call : Call N} {after : Database} (hsame : database.SameRecords after) :
      Change encoding database call after
  | created {missionId canonicalStateRef currentGate : String} {autonomyBudget : ℤ}
      {now : ℕ → String} {mission : MissionRow} {after : Database}
      (hnew : database.missions.lookup missionId = none)
      (hocs : mission.activeOcsId = none) (hinstance : mission.activeInstanceId = none)
      (hhandoff : mission.currentHandoffRef = none)
      (hbudget : (mission.autonomousStepCounter : ℤ) ≤ mission.autonomyBudget)
      (hsame : (database.updateMission missionId mission).SameRecords after) :
      Change encoding database (.createMission missionId canonicalStateRef currentGate
        autonomyBudget now) after
  | bound {authorityRef role : String} {activateIfEmpty : Bool} {now : ℕ → String}
      {mission : MissionRow} {row : BindingRow} {active : Bool} {receipt : String}
      {after : Database} (hbinds : Binds database mission row active)
      (hnoted : (Trial2.bound database mission row active).Noted row.missionId "binding"
        receipt after) :
      Change encoding database (.bind row.missionId row.ocsId row.instanceId authorityRef role
        activateIfEmpty now) after
  | checkpointed {localState : PyValue N} {now : ℕ → String} {mission : MissionRow}
      {binding : BindingRow} {row : CheckpointRow} {receipt : String} {after : Database}
      (hsaves : Saves encoding database mission binding row localState)
      (hnoted : (Trial2.checkpointed database row binding.bindingId).Noted row.missionId
        "checkpoint" receipt after) :
      Change encoding database (.checkpoint row.missionId row.instanceId localState now) after
  | issued {routeId targetInstanceId targetOcsId handoffId : String} {envelope : PyValue N}
      {now : ℕ → String} {mission : MissionRow} {source target : BindingRow}
      {row : HandoffRow} {receipt : String} {after : Database}
      (hissues : Issues encoding database mission source target handoffId row envelope)
      (hnoted : (Trial2.issued database mission handoffId row).Noted row.missionId
        "handoff_envelope" receipt after) :
      Change encoding database (.issueHandoff row.missionId routeId targetInstanceId
        targetOcsId envelope now) after
  | accepted {store : StoreClass} {missionId handoffId receipt : String} {now : ℕ → String}
      {reading : Reading} {after : Database}
      (hacceptable : Acceptable database missionId handoffId reading) (hnamed : receipt ≠ "")
      (hnoted : (handedOver database missionId handoffId reading reading.mission reading.row
        receipt).Noted missionId "handoff_acceptance" receipt after) :
      Change encoding database (.acceptHandoff store missionId handoffId now) after
  | applied {store : StoreClass} {missionId ocsId instanceId : String} {epoch : ℤ}
      {authorityRef idempotencyKey : String} {payload : PyValue N} {now : ℕ → String}
      {row : EffectRow} {after : Database}
      (hadmitted : Admitted database missionId ocsId instanceId epoch authorityRef)
      (hfresh : ∀ effect ∈ database.effects, effect.key ≠ row.key)
      (hkey : row.key = (missionId, idempotencyKey))
      (hpayload : row.payloadHash = encoding.hash payload)
      (hnoted : Noted missionId "effect" row.receiptRef
        { database with effects := database.effects ++ [row] } after) :
      Change encoding database (.applySyntheticEffect store missionId ocsId instanceId epoch
        authorityRef idempotencyKey payload now) after

variable {encoding : Encoding N}

theorem recoverSnapshot_same {database after : Database} {store : StoreClass}
    {missionId : String} {authorityValidator : String → String → String → Bool}
    {now : ℕ → String} {answer : RecoverySnapshot}
    (h : store.choose (recoverSnapshot encoding missionId authorityValidator now)
      (IntegrityChecked.recoverSnapshot encoding missionId authorityValidator now) database =
        .ok (after, answer)) : database.SameRecords after := by
  cases store with
  | persistent => exact recoverSnapshotWith_same h
  | integrityChecked => exact recoverSnapshotWith_same h

theorem applySyntheticEffect_change {database after : Database} {store : StoreClass}
    {missionId ocsId instanceId authorityRef idempotencyKey : String} {epoch : ℤ}
    {payload : PyValue N} {now : ℕ → String} {answer : EffectResult}
    (h : store.choose
      (applySyntheticEffect encoding missionId ocsId instanceId epoch authorityRef
        idempotencyKey payload now)
      (IntegrityChecked.applySyntheticEffect encoding missionId ocsId instanceId epoch
        authorityRef idempotencyKey payload now) database = .ok (after, answer)) :
    Change encoding database (.applySyntheticEffect store missionId ocsId instanceId epoch
      authorityRef idempotencyKey payload now) after := by
  have hspec : ∃ conflicts, applySyntheticEffectWith encoding conflicts missionId ocsId
      instanceId epoch authorityRef idempotencyKey payload now database =
        .ok (after, answer) := by
    cases store with
    | persistent => exact ⟨_, h⟩
    | integrityChecked => exact ⟨_, h⟩
  obtain ⟨conflicts, hspec⟩ := hspec
  obtain ⟨hadmitted, hreplay | hnew⟩ := applySyntheticEffectWith_spec hspec
  · obtain ⟨prior, -, -, rfl, -⟩ := hreplay
    exact .same (.refl _)
  · obtain ⟨row, hfresh, hkey, hpayload, -, hnoted⟩ := hnew
    exact .applied hadmitted hfresh hkey hpayload hnoted

/-- A call changes the records in one of these ways. -/
theorem perform_change (encoding : Encoding N) (database : Database) (call : Call N) :
    Change encoding database call (perform encoding database call) := by
  have hrefused : Change encoding database call database := .same (.refl _)
  cases call with
  | createMission missionId canonicalStateRef currentGate autonomyBudget now =>
    apply Transaction.leaves_induction _ hrefused
    intro after answer h
    obtain ⟨mission, hnew, hocs, hinstance, hhandoff, hbudget, hsame⟩ := createMission_spec h
    exact .created hnew hocs hinstance hhandoff hbudget hsame
  | bind missionId ocsId instanceId authorityRef role activateIfEmpty now =>
    apply Transaction.leaves_induction _ hrefused
    intro after answer h
    obtain ⟨mission, row, active, rfl, rfl, rfl, hbinds, hnoted⟩ := bind_spec h
    exact .bound hbinds hnoted
  | checkpoint missionId instanceId localState now =>
    apply Transaction.leaves_induction _ hrefused
    intro after answer h
    obtain ⟨mission, binding, row, receipt, rfl, rfl, hsaves, hnoted⟩ := checkpoint_spec h
    exact .checkpointed hsaves hnoted
  | issueHandoff missionId routeId targetInstanceId targetOcsId envelope now =>
    apply Transaction.leaves_induction _ hrefused
    intro after answer h
    obtain ⟨mission, source, target, row, receipt, rfl, hissues, hnoted⟩ :=
      issueHandoff_spec h
    exact .issued hissues hnoted
  | acceptHandoff store missionId handoffId now =>
    apply Transaction.leaves_induction _ hrefused
    intro after answer h
    obtain ⟨reading, hacceptable, hnamed, hnoted⟩ := acceptHandoff_spec h
    exact .accepted hacceptable hnamed hnoted
  | recoverSnapshot store missionId authorityValidator now =>
    apply Transaction.leaves_induction _ hrefused
    intro after answer h
    exact .same (recoverSnapshot_same h)
  | applySyntheticEffect store missionId ocsId instanceId epoch authorityRef idempotencyKey
      payload now =>
      apply Transaction.leaves_induction _ hrefused
      intro after answer h
      exact applySyntheticEffect_change h
  | writeState missionId ocsId instanceId epoch namespaceKey value =>
    apply Transaction.leaves_induction _ hrefused
    intro after answer h
    exact .same (writeState_spec h).1

/-- The call is accepted. -/
def Accepted (encoding : Encoding N) (database : Database) : Call N → Prop
  | .createMission missionId canonicalStateRef currentGate autonomyBudget now =>
    ∃ answer, createMission encoding missionId canonicalStateRef currentGate autonomyBudget
      now database = .ok answer
  | .bind missionId ocsId instanceId authorityRef role activateIfEmpty now =>
    ∃ answer, Trial2.bind encoding missionId ocsId instanceId authorityRef role
      activateIfEmpty now database = .ok answer
  | .checkpoint missionId instanceId localState now =>
    ∃ answer, checkpoint encoding missionId instanceId localState now database = .ok answer
  | .issueHandoff missionId routeId targetInstanceId targetOcsId envelope now =>
    ∃ answer, issueHandoff encoding missionId routeId targetInstanceId targetOcsId envelope
      now database = .ok answer
  | .acceptHandoff store missionId handoffId now =>
    ∃ answer, store.choose (acceptHandoff encoding missionId handoffId now)
      (IntegrityChecked.acceptHandoff encoding missionId handoffId now) database =
        .ok answer
  | .recoverSnapshot store missionId authorityValidator now =>
    ∃ answer, store.choose (recoverSnapshot encoding missionId authorityValidator now)
      (IntegrityChecked.recoverSnapshot encoding missionId authorityValidator now)
        database = .ok answer
  | .applySyntheticEffect store missionId ocsId instanceId epoch authorityRef idempotencyKey
      payload now =>
      ∃ answer, store.choose
        (applySyntheticEffect encoding missionId ocsId instanceId epoch authorityRef
          idempotencyKey payload now)
        (IntegrityChecked.applySyntheticEffect encoding missionId ocsId instanceId epoch
          authorityRef idempotencyKey payload now) database = .ok answer
  | .writeState missionId ocsId instanceId epoch namespaceKey value =>
    ∃ after, writeState encoding missionId ocsId instanceId epoch namespaceKey value
      database = .ok (after, 1)

theorem perform_of_not_accepted {database : Database} {call : Call N}
    (h : ¬ Accepted encoding database call) :
    database.SameRecords (perform encoding database call) := by
  have hrefused (A : Type) (transaction : Transaction Database Trial2Error A)
      (hnone : ¬ ∃ answer, transaction database = .ok answer) :
      database.SameRecords (transaction.leaves database) := by
    apply Transaction.leaves_induction _ (.refl _)
    intro after answer haccepted
    exact absurd ⟨_, haccepted⟩ hnone
  cases call with
  | createMission => exact hrefused _ _ h
  | bind => exact hrefused _ _ h
  | checkpoint => exact hrefused _ _ h
  | issueHandoff => exact hrefused _ _ h
  | acceptHandoff => exact hrefused _ _ h
  | recoverSnapshot => exact hrefused _ _ h
  | applySyntheticEffect => exact hrefused _ _ h
  | writeState =>
    apply Transaction.leaves_induction _ (.refl _)
    intro after answer hwritten
    exact (writeState_spec hwritten).1

end ReisOs.Trial2
