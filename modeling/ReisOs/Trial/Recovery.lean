import Mathlib.Logic.Equiv.List
import ReisOs.Core.JsonChars
import ReisOs.Trial.Issued

/-!
# Recovery among concurrent binds

`recover` frees the mission's seat in its first transaction and lets `bind` fill it in
its second.  Between them, and between the second and the third, other calls of `bind`
may run, and the call may crash.  Who sits in the end is decided by the binds that follow
the release, whoever calls them.
-/

namespace ReisOs.Trial

open ReisOs.Core Trial

variable {canonicalHash : Value → String} {database after : TrialDatabase}
  {missionId ocsId successorInstanceId : String}

/-! ## The active pointer of any run -/

/-- An ACTIVE binding is that of its mission's active instance. -/
def Pointed (database : TrialDatabase) : Prop :=
  ∀ binding ∈ database.bindings, binding.status = .active →
    ∃ mission, database.missions.lookup binding.missionId = some mission ∧
      mission.activeInstanceId = some binding.instanceId

theorem Pointed.congr (h : Pointed database) (hsame : database.SameStanding after) :
    Pointed after := by
  intro binding hbinding hactive
  rw [hsame.bindings] at hbinding
  rw [hsame.missions]
  exact h binding hbinding hactive

theorem active_of_updateWhere {chosen : BindingRow → Bool} {status : BindingStatus}
    (hstatus : status ≠ .active) {rows : List BindingRow} {binding : BindingRow}
    (hbinding : binding ∈ updateWhere chosen
      (fun binding => { binding with status := status }) rows)
    (hactive : binding.status = .active) :
    binding ∈ rows ∧ chosen binding = false := by
  rcases mem_updateWhere.mp hbinding with ⟨old, -, -, rfl⟩ | hkept
  · exact absurd hactive hstatus
  · exact hkept

theorem active_of_advanceEpoch {fenced : TrialDatabase} {epoch generation : ℕ}
    {predecessor : Option String}
    (hadvance : database.advanceEpoch missionId ocsId =
      .ok (fenced, epoch, generation, predecessor)) {binding : BindingRow}
    (hbinding : binding ∈ fenced.bindings) (hactive : binding.status = .active) :
    binding ∈ database.bindings := by
  rcases advanceEpoch_eq_ok hadvance with
    ⟨-, -, -, rfl⟩ | ⟨current, prior, -, -, -, -, rfl⟩
  · exact hbinding
  · exact (active_of_updateWhere (by simp) hbinding hactive).1

theorem bindings_bound {fenced : TrialDatabase} {mission : MissionRow} {row : BindingRow}
    {activates : Bool} :
    (bound fenced mission row activates).bindings = fenced.bindings ++ [row] := by
  cases activates <;> rfl

theorem Pointed.bound (h : Pointed database) (hkeyed : Keyed database)
    {fenced : TrialDatabase} {mission : MissionRow} {row : BindingRow} {activates : Bool}
    (hbinds : Binds database fenced mission row activates) :
    Pointed (bound fenced mission row activates) := by
  obtain ⟨predecessor, hadvance⟩ := hbinds.advance
  have hmissions : fenced.missions = database.missions := hbinds.missions hkeyed
  intro binding hbinding hactive
  rw [bindings_bound] at hbinding
  rcases List.mem_append.mp hbinding with hold | hnew
  · have hmem := active_of_advanceEpoch hadvance hold hactive
    obtain ⟨found, hfound, hpointer⟩ := h binding hmem hactive
    cases activates with
    | false => exact ⟨found, hmissions ▸ hfound, hpointer⟩
    | true =>
      have hother : binding.missionId ≠ row.missionId := by
        intro hsame
        rw [hsame, hbinds.found] at hfound
        rw [← Option.some.inj hfound, hbinds.idle rfl] at hpointer
        cases hpointer
      refine ⟨found, ?_, hpointer⟩
      change (fenced.missions.insert row.missionId _).lookup binding.missionId = _
      rw [Dict.lookup_insert_eq, if_neg hother, hmissions]
      exact hfound
  · rw [List.mem_singleton.mp hnew] at hactive ⊢
    cases activates with
    | false =>
      rw [hbinds.status] at hactive
      cases hactive
    | true => exact ⟨_, AList.lookup_insert _, rfl⟩

theorem Pointed.released (h : Pointed database) {mission : MissionRow} {active : BindingRow}
    (hmission : database.missions.lookup missionId = some mission)
    (hactive : database.instanceBindings missionId (mission.activeInstanceId.getD "") =
      [active]) :
    Pointed (released database missionId mission active) := by
  intro binding hbinding hstatus
  obtain ⟨hmem, hkept⟩ := active_of_updateWhere (by simp) hbinding hstatus
  obtain ⟨found, hfound, hpointer⟩ := h binding hmem hstatus
  have hother : binding.missionId ≠ missionId := by
    intro hsame
    rw [hsame, hmission] at hfound
    have hlisted : binding ∈ database.instanceBindings missionId
        (mission.activeInstanceId.getD "") := by
      rw [Option.some.inj hfound, hpointer]
      exact List.mem_filter.mpr ⟨hmem, decide_eq_true ⟨hsame, rfl⟩⟩
    rw [hactive, List.mem_singleton] at hlisted
    rw [hlisted] at hkept
    simp at hkept
  refine ⟨found, ?_, hpointer⟩
  change (database.missions.insert missionId _).lookup binding.missionId = _
  rw [Dict.lookup_insert_eq, if_neg hother]
  exact hfound

theorem Pointed.accepted (h : Pointed database) (hkeyed : Keyed database)
    {handoffId : String} {mission : MissionRow} {target : BindingRow}
    {row closed : HandoffRow}
    (hmission : database.missions.lookup missionId = some mission)
    (hsource : mission.activeInstanceId = some row.sourceInstanceId)
    (htarget : (database.instanceBindings missionId row.targetInstanceId).filter
      (fun binding => binding.status = .bound) = [target]) :
    Pointed (accepted database missionId handoffId mission target row closed) := by
  have hmem : target ∈ (database.instanceBindings missionId row.targetInstanceId).filter
      fun binding => binding.status = .bound := by
    rw [htarget]
    exact List.mem_singleton_self target
  obtain ⟨hlisted, hkey⟩ := List.mem_filter.mp (List.mem_filter.mp hmem).1
  obtain ⟨htargetMission, htargetInstance⟩ := of_decide_eq_true hkey
  intro binding hbinding hactive
  rcases mem_updateWhere.mp hbinding with ⟨moved, hmoved, hid, rfl⟩ | ⟨hold, -⟩
  · obtain ⟨old, hmem', hsame⟩ : ∃ old ∈ database.bindings,
        SameBinding old moved ∧ moved.instanceId = old.instanceId := by
      rcases mem_updateWhere.mp hmoved with ⟨old, hold, -, rfl⟩ | ⟨hold, -⟩
      · exact ⟨old, hold, ⟨rfl, rfl, rfl, rfl, rfl⟩, rfl⟩
      · exact ⟨moved, hold, .refl moved, rfl⟩
    have heq : old = target := hkeyed.eq_of_id hmem' hlisted
      (hsame.1.bindingId.symm.trans (of_decide_eq_true hid))
    have hmovedMission : moved.missionId = missionId := by
      rw [hsame.1.missionId, heq, htargetMission]
    have hmovedInstance : moved.instanceId = row.targetInstanceId := by
      rw [hsame.2, heq, htargetInstance]
    refine ⟨{ mission with
      activeOcsId := some row.targetOcsId
      activeInstanceId := some row.targetInstanceId
      autonomousStepCounter := mission.autonomousStepCounter + 1
      autonomousHandoffCounter := mission.autonomousHandoffCounter + 1
      version := mission.version + 1 }, ?_, congrArg some hmovedInstance.symm⟩
    change (database.missions.insert missionId _).lookup moved.missionId = _
    rw [hmovedMission]
    exact AList.lookup_insert _
  · obtain ⟨hkept, hchosen⟩ := active_of_updateWhere (by simp) hold hactive
    obtain ⟨found, hfound, hpointer⟩ := h binding hkept hactive
    have hother : binding.missionId ≠ missionId := by
      intro hsame
      rw [hsame, hmission] at hfound
      rw [← Option.some.inj hfound, hsource] at hpointer
      simp [hsame, Option.some.inj hpointer] at hchosen
    refine ⟨found, ?_, hpointer⟩
    change (database.missions.insert missionId _).lookup binding.missionId = _
    rw [Dict.lookup_insert_eq, if_neg hother]
    exact hfound

theorem Pointed.change (h : Pointed database) (hkeyed : Keyed database) {rule : Rule}
    (hchange : Change rule database after) : Pointed after := by
  cases hchange with
  | same | issued => exact h
  | @created created mission hnew =>
    intro binding hbinding hactive
    obtain ⟨found, hfound, hpointer⟩ := h binding hbinding hactive
    have hother : binding.missionId ≠ created := by
      intro hsame
      rw [hsame, hnew] at hfound
      cases hfound
    refine ⟨found, ?_, hpointer⟩
    change (database.missions.insert created _).lookup binding.missionId = _
    rw [Dict.lookup_insert_eq, if_neg hother]
    exact hfound
  | bound _ hbinds => exact h.bound hkeyed hbinds
  | referenced =>
    intro binding hbinding hactive
    rcases mem_updateWhere.mp hbinding with ⟨old, hold, -, rfl⟩ | ⟨hold, -⟩
    · exact h old hold hactive
    · exact h binding hold hactive
  | accepted _ _ hmission _ _ _ hsource htarget =>
    exact h.accepted hkeyed hmission hsource htarget
  | released hmission _ hactive => exact h.released hmission hactive

theorem pointed_changes {rule : Rule} (h : Generations database ∧ Pointed database)
    (hchanges : Changes rule database after) : Generations after ∧ Pointed after := by
  obtain ⟨middle, hchange, hsame⟩ := hchanges
  have hpointed : Pointed middle := h.2.change h.1.keyed hchange
  exact ⟨(h.1.change hchange).congr hsame, hpointed.congr hsame⟩

/-- What holds of the database of every run. -/
structure Sound (canonicalHash : Value → String) (database : TrialDatabase) : Prop where
  generations : Generations database
  pointed : Pointed database
  issued : Issued canonicalHash database

theorem sound_run (canonicalHash : Value → String) (ops : List TrialOp) :
    Sound canonicalHash (run (perform canonicalHash) .empty ops) := by
  apply run_invariant (Sound canonicalHash)
  · intro database op h
    have hstanding := perform_induction pointed_changes ⟨h.generations, h.pointed⟩ op
      (permits_any canonicalHash database op)
    exact ⟨hstanding.1, hstanding.2, h.issued.perform op⟩
  · refine ⟨empty_standing.generations, ?_, ?_⟩
    · simp [Pointed, TrialDatabase.empty]
    · constructor <;> simp [TrialDatabase.empty]

/-! ## Calls of `bind` -/

structure BindCall where
  missionId : String
  ocsId : String
  instanceId : String
  authorityRef : String
  activateIfEmpty : Bool
  now : ℕ → String

/-- No argument is empty. -/
def BindCall.Given (call : BindCall) : Prop :=
  ¬ (call.missionId = "" ∨ call.ocsId = "" ∨ call.instanceId = "" ∨ call.authorityRef = "")

instance (call : BindCall) : Decidable call.Given :=
  inferInstanceAs (Decidable (¬ _))

section Calls

variable (canonicalHash : Value → String)

def BindCall.transaction (call : BindCall) :
    Transaction TrialDatabase TrialError BindingReceipt :=
  bind canonicalHash call.missionId call.ocsId call.instanceId call.authorityRef
    call.activateIfEmpty call.now

/-- The database after a call, accepted or rejected. -/
def afterBind (database : TrialDatabase) (call : BindCall) : TrialDatabase :=
  (call.transaction canonicalHash).leaves database

end Calls

/-- An accepted call has all its arguments and a mission, and binds; a rejected one lacks
an argument or the mission. -/
theorem afterBind_cases (hinjective : Function.Injective canonicalHash)
    (h : Sound canonicalHash database) (call : BindCall) :
    (afterBind canonicalHash database call = database ∧
      (call.Given → database.missions.lookup call.missionId = none)) ∨
    call.Given ∧ ∃ fenced mission row activates, row.missionId = call.missionId ∧
      row.ocsId = call.ocsId ∧ row.instanceId = call.instanceId ∧
      activates = (call.activateIfEmpty && mission.activeInstanceId.isNone) ∧
      Binds database fenced mission row activates ∧
        (bound fenced mission row activates).SameStanding
          (afterBind canonicalHash database call) := by
  unfold afterBind Transaction.leaves
  cases hcall : call.transaction canonicalHash database with
  | error error =>
    left
    refine ⟨rfl, fun hgiven => ?_⟩
    cases hmission : database.missions.lookup call.missionId with
    | none => rfl
    | some mission =>
      obtain ⟨result, hresult⟩ := bind_ok hinjective h.issued
        h.generations hmission hgiven call.activateIfEmpty call.now
      rw [BindCall.transaction, hresult] at hcall
      cases hcall
  | ok result =>
    right
    obtain ⟨bound, answer⟩ := result
    refine ⟨?_, bind_spec hcall⟩
    intro hlacks
    rw [BindCall.transaction, bind, if_pos hlacks] at hcall
    cases hcall

theorem Sound.step (h : Sound canonicalHash database) (call : BindCall) :
    Sound canonicalHash (afterBind canonicalHash database call) := by
  apply Transaction.leaves_induction (Sound canonicalHash) h
  intro after answer hok
  have hchanges : Changes .any database after := bind_changes trivial hok
  obtain ⟨hgenerations, hpointed⟩ := pointed_changes ⟨h.generations, h.pointed⟩ hchanges
  exact ⟨hgenerations, hpointed, bind_issued h.issued hok⟩

/-! ## The seat -/

/-- The mission has no active instance. -/
def Vacant (database : TrialDatabase) (missionId : String) : Prop :=
  ∃ mission, database.missions.lookup missionId = some mission ∧
    mission.activeOcsId = none ∧ mission.activeInstanceId = none

/-- The mission names the instance of the OCS active, and has an ACTIVE binding of it
whose epoch is higher than the given one. -/
def Held (database : TrialDatabase) (missionId ocsId instanceId : String)
    (floor : Option ℕ) : Prop :=
  ∃ mission, database.missions.lookup missionId = some mission ∧
    mission.activeOcsId = some ocsId ∧ mission.activeInstanceId = some instanceId ∧
    ∃ binding ∈ database.bindings, binding.missionId = missionId ∧ binding.ocsId = ocsId ∧
      binding.instanceId = instanceId ∧ binding.status = .active ∧
        ∀ epoch ∈ floor, epoch < binding.fencingEpoch

theorem Held.congr {instanceId : String} {floor : Option ℕ}
    (h : Held database missionId ocsId instanceId floor)
    (hsame : database.SameStanding after) : Held after missionId ocsId instanceId floor := by
  unfold Held
  rw [hsame.missions, hsame.bindings]
  exact h

section Bound

variable {fenced : TrialDatabase} {mission : MissionRow} {row : BindingRow}
  {activates : Bool} {instanceId : String} {floor : Option ℕ}

theorem Binds.mem_bindings_iff (hbinds : Binds database fenced mission row activates)
    (hkeyed : Keyed database) {binding : BindingRow}
    (hother : ¬ (binding.missionId = row.missionId ∧ binding.ocsId = row.ocsId)) :
    binding ∈ (bound fenced mission row activates).bindings ↔
      binding ∈ database.bindings := by
  obtain ⟨predecessor, hadvance⟩ := hbinds.advance
  have hrow : binding ≠ row := by
    rintro rfl
    exact hother ⟨rfl, rfl⟩
  rw [bindings_bound, List.mem_append, List.mem_singleton, or_iff_left hrow]
  rcases advanceEpoch_eq_ok hadvance with
    ⟨-, -, -, rfl⟩ | ⟨current, prior, -, hprior, -, -, rfl⟩
  · exact Iff.rfl
  · obtain ⟨hmem, hmission, hocs, -⟩ := newest_spec hprior
    change binding ∈ updateWhere _ _ _ ↔ _
    rw [mem_updateWhere]
    constructor
    · rintro (⟨old, hold, hid, rfl⟩ | ⟨hold, -⟩)
      · have heq : old = prior := hkeyed.eq_of_id hold hmem (of_decide_eq_true hid)
        subst heq
        exact absurd ⟨hmission, hocs⟩ hother
      · exact hold
    · intro hold
      refine .inr ⟨hold, decide_eq_false fun hid => hother ?_⟩
      rw [hkeyed.eq_of_id hold hmem hid]
      exact ⟨hmission, hocs⟩

theorem Binds.not_active (hbinds : Binds database fenced mission row false)
    (hgenerations : Generations database) {binding : BindingRow}
    (hbinding : binding ∈ (bound fenced mission row false).bindings)
    (hmission : binding.missionId = row.missionId) (hocs : binding.ocsId = row.ocsId) :
    binding.status ≠ .active := by
  obtain ⟨predecessor, hadvance⟩ := hbinds.advance
  intro hactive
  rw [bindings_bound] at hbinding
  rcases List.mem_append.mp hbinding with hold | hnew
  · have hsuperseded := (hgenerations.advanceEpoch hadvance).2
    exact (hsuperseded.earlier binding hold hmission hocs).1 (.inr hactive)
  · rw [List.mem_singleton.mp hnew, hbinds.status] at hactive
    cases hactive

theorem lookup_bound (hbinds : Binds database fenced mission row activates)
    (hkeyed : Keyed database) (other : String) :
    (bound fenced mission row activates).missions.lookup other =
      if activates = true ∧ other = row.missionId then
        some { mission with
          activeOcsId := some row.ocsId
          activeInstanceId := some row.instanceId
          version := mission.version + 1 }
      else database.missions.lookup other := by
  have hmissions : fenced.missions = database.missions := hbinds.missions hkeyed
  cases activates with
  | false =>
    rw [if_neg (by simp), ← hmissions]
    rfl
  | true =>
    change (fenced.missions.insert row.missionId _).lookup other = _
    rw [Dict.lookup_insert_eq, hmissions]
    simp

theorem Held.bound (h : Held database missionId ocsId instanceId floor)
    (hbinds : Binds database fenced mission row activates) (hkeyed : Keyed database)
    (hother : ¬ (missionId = row.missionId ∧ ocsId = row.ocsId)) :
    Held (bound fenced mission row activates) missionId ocsId instanceId floor := by
  obtain ⟨found, hfound, hocs, hinstance, binding, hbinding, rfl, rfl, hrest⟩ := h
  refine ⟨found, ?_, hocs, hinstance, binding, ?_, rfl, rfl, hrest⟩
  · rw [lookup_bound hbinds hkeyed, if_neg]
    · exact hfound
    · rintro ⟨hactivates, hsame⟩
      rw [hsame, hbinds.found] at hfound
      rw [← Option.some.inj hfound, hbinds.idle hactivates] at hinstance
      cases hinstance
  · exact (hbinds.mem_bindings_iff hkeyed hother).mpr hbinding

theorem Binds.held_of_bound (hbinds : Binds database fenced mission row activates)
    (hgenerations : Generations database) {found : MissionRow}
    (hfound : database.missions.lookup missionId = some found)
    (hpointer : found.activeInstanceId ≠ none)
    (hheld : Held (bound fenced mission row activates) missionId ocsId instanceId
      floor) :
    Held database missionId ocsId instanceId floor ∧
      ¬ (missionId = row.missionId ∧ ocsId = row.ocsId) := by
  have hidle : ¬ (activates = true ∧ missionId = row.missionId) := by
    rintro ⟨hactivates, hsame⟩
    rw [hsame, hbinds.found] at hfound
    rw [← Option.some.inj hfound] at hpointer
    exact hpointer (hbinds.idle hactivates)
  obtain ⟨now, hnow, hocs, hinstance, binding, hbinding, rfl, rfl, hname, hactive, hfloor⟩ :=
    hheld
  rw [lookup_bound hbinds hgenerations.keyed, if_neg hidle] at hnow
  have hother : ¬ (binding.missionId = row.missionId ∧ binding.ocsId = row.ocsId) := by
    rintro ⟨hmission, hsameOcs⟩
    have hquiet : activates = false := by
      rw [Bool.eq_false_iff]
      exact fun hactivates => hidle ⟨hactivates, hmission⟩
    subst hquiet
    exact hbinds.not_active hgenerations hbinding hmission hsameOcs hactive
  have hmem := (hbinds.mem_bindings_iff hgenerations.keyed hother).mp hbinding
  exact ⟨⟨now, hnow, hocs, hinstance, binding, hmem, rfl, rfl, hname, hactive, hfloor⟩,
    hother⟩

theorem Binds.held_iff (hbinds : Binds database fenced mission row true)
    (hkeyed : Keyed database)
    (hfloor : row.ocsId = ocsId → ∀ epoch ∈ floor, epoch < row.fencingEpoch) :
    Held (bound fenced mission row true) row.missionId ocsId instanceId floor ↔
      row.ocsId = ocsId ∧ row.instanceId = instanceId := by
  have hlookup := lookup_bound hbinds hkeyed row.missionId
  rw [if_pos ⟨rfl, rfl⟩] at hlookup
  constructor
  · rintro ⟨found, hfound, hocs, hinstance, -⟩
    rw [hlookup] at hfound
    obtain rfl := Option.some.inj hfound
    exact ⟨Option.some.inj hocs, Option.some.inj hinstance⟩
  · rintro ⟨rfl, rfl⟩
    refine ⟨_, hlookup, rfl, rfl, row, ?_, rfl, rfl, rfl, hbinds.status, hfloor rfl⟩
    rw [bindings_bound]
    exact List.mem_append_right _ (List.mem_singleton_self row)

/-- A bind raises the epoch of its own OCS and leaves the others. -/
theorem Binds.fencing (hbinds : Binds database fenced mission row activates)
    (missionId ocsId : String) :
    ((missionId, ocsId) = (row.missionId, row.ocsId) →
      (bound fenced mission row activates).fencing.lookup (missionId, ocsId) =
        some row.fencingEpoch ∧
      ∀ epoch ∈ database.fencing.lookup (missionId, ocsId), epoch < row.fencingEpoch) ∧
    ((missionId, ocsId) ≠ (row.missionId, row.ocsId) →
      (bound fenced mission row activates).fencing.lookup (missionId, ocsId) =
        database.fencing.lookup (missionId, ocsId)) := by
  obtain ⟨predecessor, hadvance⟩ := hbinds.advance
  have hkept : (bound fenced mission row activates).fencing = fenced.fencing := by
    cases activates <;> rfl
  have hinsert : fenced.fencing = database.fencing.insert (row.missionId, row.ocsId)
      row.fencingEpoch := by
    rcases advanceEpoch_eq_ok hadvance with
      ⟨-, hepoch, -, rfl⟩ | ⟨current, prior, -, -, hepoch, -, rfl⟩
    · rw [hepoch]
    · rw [hepoch]
  rw [hkept, hinsert, Dict.lookup_insert_eq]
  constructor
  · intro hkey
    refine ⟨if_pos hkey, fun epoch hepoch => ?_⟩
    rw [Option.mem_def, hkey] at hepoch
    rcases advanceEpoch_eq_ok hadvance with
      ⟨hnone, -⟩ | ⟨current, prior, hcurrent, -, hnext, -⟩
    · rw [hnone] at hepoch
      cases hepoch
    · rw [hcurrent] at hepoch
      rw [hnext, ← Option.some.inj hepoch]
      exact Nat.lt_succ_self current
  · exact fun hkey => if_neg hkey

end Bound

/-! ## Binds after a release -/

/-- What stays true after a release, whoever binds: epochs have only risen, the
predecessor's binding is FENCED, and the mission's row is another one. -/
structure Following (canonicalHash : Value → String) (start : TrialDatabase)
    (missionId ocsId predecessorId : String) (version : ℕ) (database : TrialDatabase) :
    Prop where
  sound : Sound canonicalHash database
  epochs : ∀ epoch ∈ start.fencing.lookup (missionId, ocsId),
    ∃ current ∈ database.fencing.lookup (missionId, ocsId), epoch ≤ current
  fenced : ∃ binding ∈ database.bindings, binding.bindingId = predecessorId ∧
    binding.status = .fenced
  moved : ∃ mission, database.missions.lookup missionId = some mission ∧
    (mission.activeOcsId = none ∧ mission.activeInstanceId = none ∧
      mission.version = version ∨ version < mission.version)

section Following

variable {start : TrialDatabase} {predecessorId instanceId : String} {version : ℕ}

theorem Binds.fenced_stays {fenced : TrialDatabase} {mission : MissionRow} {row : BindingRow}
    {activates : Bool} (hbinds : Binds database fenced mission row activates)
    (h : ∃ binding ∈ database.bindings, binding.bindingId = predecessorId ∧
      binding.status = .fenced) :
    ∃ binding ∈ (bound fenced mission row activates).bindings,
      binding.bindingId = predecessorId ∧ binding.status = .fenced := by
  obtain ⟨binding, hbinding, hid, hstatus⟩ := h
  obtain ⟨predecessor, hadvance⟩ := hbinds.advance
  rw [bindings_bound]
  rcases advanceEpoch_eq_ok hadvance with
    ⟨-, -, -, rfl⟩ | ⟨current, prior, -, -, -, -, rfl⟩
  · exact ⟨binding, List.mem_append_left _ hbinding, hid, hstatus⟩
  · obtain ⟨updated, hupdated, hwhich⟩ : ∃ updated ∈ updateWhere
        (fun other => decide (other.bindingId = prior.bindingId))
        (fun other : BindingRow => { other with status := .fenced }) database.bindings,
        updated = binding ∨ updated = { binding with status := .fenced } :=
      exists_mem_updateWhere hbinding
    refine ⟨updated, List.mem_append_left _ hupdated, ?_⟩
    rcases hwhich with rfl | rfl
    · exact ⟨hid, hstatus⟩
    · exact ⟨hid, rfl⟩

theorem Following.step (hinjective : Function.Injective canonicalHash)
    (h : Following canonicalHash start missionId ocsId predecessorId version database)
    (call : BindCall) :
    Following canonicalHash start missionId ocsId predecessorId version
      (afterBind canonicalHash database call) := by
  have hsound := h.sound.step call
  rcases afterBind_cases hinjective h.sound call with
    ⟨hsame, -⟩ | ⟨-, fenced, mission, row, activates, -, -, -, -, hbinds, hsame⟩
  · rw [hsame]
    exact h
  have hkeyed := h.sound.generations.keyed
  constructor
  case sound => exact hsound
  case epochs =>
    intro epoch hepoch
    obtain ⟨current, hcurrent, hle⟩ := h.epochs epoch hepoch
    rw [hsame.fencing]
    by_cases hkey : (missionId, ocsId) = (row.missionId, row.ocsId)
    · obtain ⟨hnow, hrises⟩ := (hbinds.fencing missionId ocsId).1 hkey
      exact ⟨row.fencingEpoch, hnow, hle.trans (hrises current hcurrent).le⟩
    · rw [(hbinds.fencing missionId ocsId).2 hkey]
      exact ⟨current, hcurrent, hle⟩
  case fenced =>
    rw [hsame.bindings]
    exact hbinds.fenced_stays h.fenced
  case moved =>
    obtain ⟨found, hfound, hmoved⟩ := h.moved
    rw [hsame.missions, lookup_bound hbinds hkeyed]
    by_cases hseats : activates = true ∧ missionId = row.missionId
    · rw [if_pos hseats]
      refine ⟨_, rfl, .inr ?_⟩
      rw [hseats.2, hbinds.found] at hfound
      obtain rfl := Option.some.inj hfound
      rcases hmoved with ⟨-, -, heq⟩ | hlt
      · exact heq ▸ Nat.lt_succ_self _
      · exact Nat.lt_succ_of_lt hlt
    · rw [if_neg hseats]
      exact ⟨found, hfound, hmoved⟩

/-- The call is a bind of the mission that the store does not refuse. -/
def BindCall.Heard (missionId : String) (call : BindCall) : Prop :=
  call.missionId = missionId ∧ call.Given

instance (missionId : String) (call : BindCall) : Decidable (call.Heard missionId) :=
  inferInstanceAs (Decidable (_ ∧ _))

/-- The calls that bind in the mission. -/
def heard (missionId : String) (calls : List BindCall) : List BindCall :=
  calls.filter fun call => call.Heard missionId

theorem heard_cons {missionId : String} {call : BindCall} (h : call.Heard missionId)
    (calls : List BindCall) :
    heard missionId (call :: calls) = call :: heard missionId calls :=
  List.filter_cons_of_pos (decide_eq_true h)

theorem unheard_cons {missionId : String} {call : BindCall} (h : ¬ call.Heard missionId)
    (calls : List BindCall) : heard missionId (call :: calls) = heard missionId calls :=
  List.filter_cons_of_neg (by simpa using h)

/-- The first of the calls that asks to be activated is for the instance of the OCS, and
no later one is for the OCS. -/
def Seats (ocsId instanceId : String) : List BindCall → Prop
  | [] => False
  | call :: later =>
    if call.activateIfEmpty then
      call.ocsId = ocsId ∧ call.instanceId = instanceId ∧
        ∀ other ∈ later, other.ocsId ≠ ocsId
    else Seats ocsId instanceId later

/-- Once the mission has an active instance, later binds can only unseat it. -/
theorem Sound.held_run_iff (hinjective : Function.Injective canonicalHash)
    (h : Sound canonicalHash database) {found : MissionRow}
    (hfound : database.missions.lookup missionId = some found)
    (hpointer : found.activeInstanceId ≠ none) {floor : Option ℕ} (calls : List BindCall) :
    Held (run (afterBind canonicalHash) database calls) missionId ocsId instanceId floor ↔
      Held database missionId ocsId instanceId floor ∧
        ∀ call ∈ heard missionId calls, call.ocsId ≠ ocsId := by
  induction calls generalizing database with
  | nil => simp [heard]
  | cons call calls ih =>
    rw [run_cons]
    rcases afterBind_cases hinjective h call with
      ⟨hsame, hrefused⟩ |
      ⟨hgiven, fenced, mission, row, activates, hmission, hocs, -, -, hbinds, hsame⟩
    · have hunheard : ¬ call.Heard missionId := by
        rintro ⟨rfl, hgiven⟩
        rw [hrefused hgiven] at hfound
        cases hfound
      rw [hsame, ih h hfound, unheard_cons hunheard]
    · have hgenerations := h.generations
      have hidle : ¬ (activates = true ∧ missionId = row.missionId) := by
        rintro ⟨hactivates, rfl⟩
        rw [hbinds.found] at hfound
        rw [← Option.some.inj hfound] at hpointer
        exact hpointer (hbinds.idle hactivates)
      have hkept : (afterBind canonicalHash database call).missions.lookup missionId =
          some found := by
        rw [hsame.missions, lookup_bound hbinds hgenerations.keyed, if_neg hidle]
        exact hfound
      have hstep : Held (afterBind canonicalHash database call) missionId ocsId instanceId
          floor ↔ Held database missionId ocsId instanceId floor ∧
            ¬ (missionId = row.missionId ∧ ocsId = row.ocsId) := by
        constructor
        · intro hheld
          exact hbinds.held_of_bound hgenerations hfound hpointer (hheld.congr hsame.symm)
        · rintro ⟨hheld, hother⟩
          exact (hheld.bound hbinds hgenerations.keyed hother).congr hsame
      rw [ih (h.step call) hkept, hstep, hmission, hocs, and_assoc]
      apply and_congr_right
      intro _
      by_cases hheard : call.missionId = missionId
      · rw [heard_cons ⟨hheard, hgiven⟩,
          List.forall_mem_cons]
        have hname : missionId = call.missionId := hheard.symm
        simp only [hname, true_and, ne_eq, eq_comm]
      · have hunheard : ¬ call.Heard missionId := fun hheard' => hheard hheard'.1
        rw [unheard_cons hunheard]
        have hname : missionId ≠ call.missionId := fun heq => hheard heq.symm
        simp only [hname, false_and, not_false_iff, true_and]

/-- Binds after a release seat the instance just if the first that asks to be activated
is for it and none after that is for its OCS. -/
theorem Following.held_iff_seats (hinjective : Function.Injective canonicalHash)
    (h : Following canonicalHash start missionId ocsId predecessorId version database)
    (hvacant : Vacant database missionId) (calls : List BindCall) :
    Held (run (afterBind canonicalHash) database calls) missionId ocsId instanceId
        (start.fencing.lookup (missionId, ocsId)) ↔
      Seats ocsId instanceId (heard missionId calls) := by
  obtain ⟨found, hfound, hocsNone, hnone⟩ := hvacant
  induction calls generalizing database with
  | nil =>
    constructor
    · rintro ⟨now, hnow, hocs, -⟩
      rw [run_nil, hfound] at hnow
      rw [← Option.some.inj hnow, hocsNone] at hocs
      cases hocs
    · exact False.elim
  | cons call calls ih =>
    rw [run_cons]
    rcases afterBind_cases hinjective h.sound call with
      ⟨hsame, hrefused⟩ |
      ⟨hgiven, fenced, mission, row, activates, hmission, hocs, hinstance, hactivates,
        hbinds, hsame⟩
    · have hunheard : ¬ call.Heard missionId := by
        rintro ⟨rfl, hgiven⟩
        rw [hrefused hgiven] at hfound
        cases hfound
      rw [hsame, ih h hfound, unheard_cons hunheard]
    · have hkeyed := h.sound.generations.keyed
      have hlookup := lookup_bound hbinds hkeyed missionId
      rw [← hsame.missions] at hlookup
      by_cases hheard : call.missionId = missionId
      · subst hheard
        rw [heard_cons ⟨rfl, hgiven⟩, Seats]
        have hmissionIs : mission = found := by
          rw [← hmission, hbinds.found] at hfound
          exact Option.some.inj hfound
        subst hmissionIs
        rw [hnone, Option.isNone_none, Bool.and_true] at hactivates
        subst hactivates
        by_cases hasks : call.activateIfEmpty = true
        · rw [if_pos hasks]
          rw [if_pos ⟨hasks, hmission.symm⟩] at hlookup
          rw [(h.sound.step call).held_run_iff hinjective hlookup (by simp), ← and_assoc]
          apply and_congr_left
          intro _
          rw [hasks] at hbinds hsame
          have hfloor : row.ocsId = ocsId →
              ∀ epoch ∈ start.fencing.lookup (call.missionId, ocsId),
                epoch < row.fencingEpoch := by
            rintro rfl epoch hepoch
            obtain ⟨current, hcurrent, hle⟩ := h.epochs epoch hepoch
            rw [← hmission] at hcurrent
            have hrises := ((hbinds.fencing row.missionId row.ocsId).1 rfl).2
            exact Nat.lt_of_le_of_lt hle (hrises current hcurrent)
          have hseated : Held (bound fenced mission row true) row.missionId ocsId
              instanceId (start.fencing.lookup (call.missionId, ocsId)) ↔
              row.ocsId = ocsId ∧ row.instanceId = instanceId :=
            hbinds.held_iff hkeyed hfloor
          rw [hmission, hocs, hinstance] at hseated
          rw [← hseated]
          exact ⟨fun hheld => hheld.congr hsame.symm, fun hheld => hheld.congr hsame⟩
        · rw [if_neg hasks]
          rw [if_neg fun hboth => hasks hboth.1] at hlookup
          exact ih (h.step hinjective call) (hlookup.trans hfound)
      · have hunheard : ¬ call.Heard missionId := fun hheard' => hheard hheard'.1
        rw [unheard_cons hunheard]
        apply ih (h.step hinjective call)
        rw [hlookup, if_neg]
        · exact hfound
        · rintro ⟨-, heq⟩
          exact hheard (hmission.symm.trans heq.symm)

end Following

/-! ## `recover` among concurrent binds -/

/-- What others do before the second and before the third transaction of `recover`. -/
def meanwhile (canonicalHash : Value → String) (first second : List BindCall) :
    ℕ → TrialDatabase → TrialDatabase
  | 1, database => run (afterBind canonicalHash) database first
  | 2, database => run (afterBind canonicalHash) database second
  | _, database => database

section Meanwhile

variable (canonicalHash : Value → String) (first second : List BindCall)
  (database : TrialDatabase)

@[simp]
theorem meanwhile_zero : meanwhile canonicalHash first second 0 database = database := rfl

@[simp]
theorem meanwhile_one : meanwhile canonicalHash first second (0 + 1) database =
    run (afterBind canonicalHash) database first := rfl

@[simp]
theorem meanwhile_two : meanwhile canonicalHash first second (0 + 1 + 1) database =
    run (afterBind canonicalHash) database second := rfl

end Meanwhile

/-- The recovery is done: the successor is active at a new epoch and the predecessor is
FENCED. -/
structure Recovered (start database : TrialDatabase)
    (missionId ocsId successorInstanceId : String) : Prop where
  active : ∃ mission, database.missions.lookup missionId = some mission ∧
    mission.activeOcsId = some ocsId ∧ mission.activeInstanceId = some successorInstanceId ∧
    ∃ binding ∈ database.bindings, binding.missionId = missionId ∧ binding.ocsId = ocsId ∧
      binding.instanceId = successorInstanceId ∧ binding.status = .active ∧
      database.fencing.lookup (missionId, ocsId) = some binding.fencingEpoch ∧
      ∀ epoch ∈ start.fencing.lookup (missionId, ocsId), epoch < binding.fencingEpoch
  fenced : ∀ mission predecessor, start.missions.lookup missionId = some mission →
    predecessor ∈ start.instanceBindings missionId (mission.activeInstanceId.getD "") →
    ∃ binding ∈ database.bindings, binding.bindingId = predecessor.bindingId ∧
      binding.status = .fenced

/-- The mission, its bindings and its epochs are as they were. -/
structure Untouched (start database : TrialDatabase) (missionId : String) : Prop where
  mission : database.missions.lookup missionId = start.missions.lookup missionId
  bindings : database.bindings.filter (fun binding => binding.missionId = missionId) =
    start.bindings.filter fun binding => binding.missionId = missionId
  fencing : ∀ ocsId, database.fencing.lookup (missionId, ocsId) =
    start.fencing.lookup (missionId, ocsId)

/-- The store refuses to recover the OCS: it is not the mission's active one, or its
instance has not one binding, or that has no checkpoint. -/
def Unrecoverable (database : TrialDatabase) (missionId ocsId : String) : Prop :=
  ∀ mission active, database.missions.lookup missionId = some mission →
    mission.activeOcsId = some ocsId →
    database.instanceBindings missionId (mission.activeInstanceId.getD "") = [active] →
    active.checkpointRef = none

theorem release_eq_ok_iff {activeInstance : String} :
    release missionId ocsId database = .ok (after, activeInstance) ↔
      ∃ mission active, database.missions.lookup missionId = some mission ∧
        mission.activeOcsId = some ocsId ∧
        database.instanceBindings missionId (mission.activeInstanceId.getD "") = [active] ∧
        active.checkpointRef ≠ none ∧
        after = released database missionId mission active ∧
        activeInstance = mission.activeInstanceId.getD "" := by
  constructor
  · intro h
    simp only [release] at h
    obtain ⟨mission, hmission, h⟩ := bind_eq_ok h
    split at h
    · cases h
    · rename_i hocs
      obtain ⟨active, hactive, h⟩ := bind_eq_ok h
      split at h
      · cases h
      · rename_i hcheckpoint
        cases h
        exact ⟨mission, active, TrialDatabase.mission_eq_ok hmission, not_not.mp hocs,
          one_eq_ok hactive, hcheckpoint, rfl, rfl⟩
  · rintro ⟨mission, active, hmission, hocs, hactive, hcheckpoint, rfl, rfl⟩
    have hfound : database.mission missionId = .ok mission := by
      rw [TrialDatabase.mission, hmission]
    rw [release, hfound]
    simp only [Bind.bind, Except.bind]
    rw [if_neg (not_not.mpr hocs), hactive]
    simp only [one]
    rw [if_neg hcheckpoint]
    rfl

/-- The binds that follow the release: those of others and, if it comes to it, the call's
own. -/
def followers (own : BindCall) (first second : List BindCall) (stop : Option ℕ) :
    List BindCall :=
  if stop = some 1 ∨ ¬ own.Given then first else first ++ own :: second

/-- Once `recover` has released, it leaves the four tables as the binds that follow do. -/
theorem amid_recover (hinjective : Function.Injective canonicalHash)
    {authorityRef activeInstance : String} {now : ℕ → String} {first second : List BindCall}
    {stop : Option ℕ} {released : TrialDatabase} (hstart : stop ≠ some 0)
    (hrelease : release missionId ocsId database = .ok (released, activeInstance))
    (hsound : ∀ calls, Sound canonicalHash (run (afterBind canonicalHash) released calls))
    (hmission : ∀ calls, ∃ mission,
      (run (afterBind canonicalHash) released calls).missions.lookup missionId =
        some mission) :
    (run (afterBind canonicalHash) released
        (followers ⟨missionId, ocsId, successorInstanceId, authorityRef, true, now⟩ first
          second stop)).SameStanding
      ((recover canonicalHash missionId ocsId successorInstanceId authorityRef now).amid
        (meanwhile canonicalHash first second) stop 0 database).1 := by
  unfold recover Transaction.commit
  rw [Script.amid_act_bind, if_neg hstart, meanwhile_zero]
  simp only [hrelease]
  rw [Script.amid_act_bind, meanwhile_one, followers]
  by_cases hone : stop = some (0 + 1)
  · rw [if_pos hone, if_pos (.inl hone)]
    exact .refl _
  rw [if_neg hone]
  have hown : afterBind canonicalHash (run (afterBind canonicalHash) released first)
      ⟨missionId, ocsId, successorInstanceId, authorityRef, true, now⟩ =
      (bind canonicalHash missionId ocsId successorInstanceId authorityRef true
        now).leaves (run (afterBind canonicalHash) released first) := rfl
  cases hbind : bind canonicalHash missionId ocsId successorInstanceId authorityRef
      true now (run (afterBind canonicalHash) released first) with
  | error error =>
    rw [if_pos]
    · exact .refl _
    · refine .inr fun hgiven => ?_
      obtain ⟨mission, hfound⟩ := hmission first
      obtain ⟨result, hresult⟩ := bind_ok hinjective (hsound first).issued
        (hsound first).generations hfound hgiven true now
      rw [hbind] at hresult
      cases hresult
  | ok result =>
    obtain ⟨bound, receipt⟩ := result
    rw [if_neg]
    · rw [run_append, run_cons, hown, Transaction.leaves, hbind]
      simp only
      rw [Script.amid_act_bind, meanwhile_two]
      split
      · exact .refl _
      · cases hreceipt : recoveryReceipt canonicalHash missionId activeInstance
            successorInstanceId receipt.fencingEpoch (fun n => now (n + 5))
            (run (afterBind canonicalHash) bound second) with
        | error error => exact .refl _
        | ok noted => exact TrialDatabase.receipt_same hreceipt
    · rintro (heq | hlacks)
      · exact hone heq
      · apply hlacks
        intro hempty
        rw [bind, if_pos hempty] at hbind
        cases hbind

theorem following_released {mission : MissionRow} {active : BindingRow}
    (h : Sound canonicalHash database)
    (hmission : database.missions.lookup missionId = some mission)
    (hocs : mission.activeOcsId = some ocsId)
    (hactive : database.instanceBindings missionId (mission.activeInstanceId.getD "") =
      [active]) (hcheckpoint : active.checkpointRef ≠ none) :
    Following canonicalHash database missionId ocsId active.bindingId mission.version
      (released database missionId mission active) := by
  have hrelease : release missionId ocsId database =
      .ok (released database missionId mission active,
        mission.activeInstanceId.getD "") :=
    release_eq_ok_iff.mpr ⟨mission, active, hmission, hocs, hactive, hcheckpoint, rfl, rfl⟩
  have hchange : Change .any database (released database missionId mission active) :=
    .released hmission hocs hactive
  have hmem : active ∈ database.instanceBindings missionId
      (mission.activeInstanceId.getD "") := by
    rw [hactive]
    exact List.mem_singleton_self active
  constructor
  case sound =>
    exact ⟨h.generations.change hchange, h.pointed.change h.generations.keyed hchange,
      release_issued h.issued hrelease⟩
  case epochs => exact fun epoch hepoch => ⟨epoch, hepoch, le_rfl⟩
  case fenced =>
    refine ⟨{ active with status := .fenced }, ?_, rfl, rfl⟩
    exact mem_updateWhere.mpr
      (.inl ⟨active, (List.mem_filter.mp hmem).1, decide_eq_true rfl, rfl⟩)
  case moved => exact ⟨_, AList.lookup_insert _, .inl ⟨rfl, rfl, rfl⟩⟩

theorem Following.not_untouched {start : TrialDatabase} {predecessorId : String}
    {mission : MissionRow}
    (h : Following canonicalHash start missionId ocsId predecessorId mission.version
      database)
    (hmission : start.missions.lookup missionId = some mission)
    (hocs : mission.activeOcsId = some ocsId) : ¬ Untouched start database missionId := by
  intro huntouched
  obtain ⟨found, hfound, hmoved⟩ := h.moved
  rw [huntouched.mission, hmission] at hfound
  rw [← Option.some.inj hfound] at hmoved
  rcases hmoved with ⟨hnone, -⟩ | hlt
  · rw [hocs] at hnone
    cases hnone
  · exact Nat.lt_irrefl _ hlt

theorem Following.recovered_iff {start : TrialDatabase} {mission : MissionRow}
    {active : BindingRow} {version : ℕ}
    (h : Following canonicalHash start missionId ocsId active.bindingId version database)
    (hmission : start.missions.lookup missionId = some mission)
    (hactive : start.instanceBindings missionId (mission.activeInstanceId.getD "") =
      [active]) :
    Recovered start database missionId ocsId successorInstanceId ↔
      Held database missionId ocsId successorInstanceId
        (start.fencing.lookup (missionId, ocsId)) := by
  constructor
  · intro hrecovered
    obtain ⟨found, hfound, hocs, hinstance, binding, hbinding, hkeyMission, hkeyOcs, hname,
      hstatus, -, hfloor⟩ := hrecovered.active
    exact ⟨found, hfound, hocs, hinstance, binding, hbinding, hkeyMission, hkeyOcs, hname,
      hstatus, hfloor⟩
  · rintro ⟨found, hfound, hocs, hinstance, binding, hbinding, rfl, rfl, hname, hstatus,
      hfloor⟩
    constructor
    · exact ⟨found, hfound, hocs, hinstance, binding, hbinding, rfl, rfl, hname, hstatus,
        h.sound.generations.live binding hbinding (.inr hstatus), hfloor⟩
    · intro old predecessor hold hpredecessor
      rw [hmission] at hold
      obtain rfl := Option.some.inj hold
      rw [hactive, List.mem_singleton] at hpredecessor
      rw [hpredecessor]
      exact h.fenced

theorem Recovered.congr {start : TrialDatabase}
    (h : Recovered start database missionId ocsId successorInstanceId)
    (hsame : database.SameStanding after) :
    Recovered start after missionId ocsId successorInstanceId := by
  constructor
  · rw [hsame.missions, hsame.bindings, hsame.fencing]
    exact h.active
  · rw [hsame.bindings]
    exact h.fenced

theorem Untouched.congr {start : TrialDatabase} (h : Untouched start database missionId)
    (hsame : database.SameStanding after) : Untouched start after missionId := by
  constructor
  · rw [hsame.missions]
    exact h.mission
  · rw [hsame.bindings]
    exact h.bindings
  · rw [hsame.fencing]
    exact h.fencing

/-- Each word as the decimal number that encodes it. -/
def wordFormat : JsonText.NumberFormat String where
  text word := Nat.toDigits 10 (Encodable.encode (word.toList.map Char.toNat))
  read digits :=
    (Encodable.decode (Nat.ofDigitChars 10 digits 0) : Option (List ℕ)).map fun codes =>
      String.ofList (codes.map Char.ofNat)
  read_text word := by
    have hcodes : Char.ofNat ∘ Char.toNat = id := by
      funext c
      exact Char.ofNat_toNat c
    rw [Nat.ofDigitChars_ten_toDigits, Encodable.encodek, Option.map_some, List.map_map,
      hcodes, List.map_id, String.ofList_toList]
  isWord word c hc := by
    have hdigit : c.isDigit = true :=
      Nat.isDigit_of_mem_toDigits (by decide) (by decide) hc
    simp [JsonText.isWordChar, Char.isAlphanum, hdigit]
  ne_nil word := Nat.toDigits_ne_nil
  ne_keyword word hword := by
    have hletters : JsonText.keywords.all (fun keyword =>
        keyword.any fun c => !c.isDigit) = true := by decide
    obtain ⟨c, hc, hother⟩ := List.any_eq_true.mp (List.all_eq_true.mp hletters _ hword)
    rw [Nat.isDigit_of_mem_toDigits (by decide) (by decide) hc] at hother
    cases hother

/-- A digest without collisions: the text itself. -/
def plainDigest (value : Value) : String :=
  String.ofList (JsonText.write wordFormat .compact value)

theorem plainDigest_injective : Function.Injective plainDigest := by
  intro left right h
  exact JsonText.write_injective wordFormat .compact (String.ofList_injective h)

/-- SOFIA is active and has a checkpoint. -/
def checkpointedOps : List TrialOp :=
  [.createMission "m-001" "state:m-001" "gate-1" 3 (clockAt "t1"),
    .bind "m-001" "SOFIA" "sofia-1" "authority-1" true (clockAt "t2"),
    .checkpoint "m-001" "sofia-1" .null (clockAt "t3")]

end ReisOs.Trial
