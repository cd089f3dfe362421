import ReisOs.Trial2.Changes

/-!
# How missions, bindings and handoffs refer to each other

Every run keeps the references between the tables: a mission points to an instance of
the OCS it names, exactly that instance has an ACTIVE binding, and a handoff points to a
binding of its target.  Fencing epochs and generations are not part of this.
-/

namespace ReisOs.Trial2

open ReisOs.Core

variable {N : Type} {encoding : Encoding N} {database middle after : Database}
  {missionId : String}

/-- The OCS that handoffs may go to. -/
def routeTargets : List String := routes.map fun route => route.2.2

/-- The references of a store. -/
structure Wired (database : Database) : Prop where
  ids : (database.bindings.map (·.bindingId)).Nodup
  keys : (database.bindings.map BindingRow.key).Nodup
  named : ∀ binding ∈ database.bindings, binding.ocsId ≠ "" ∧ binding.instanceId ≠ ""
  missions : ∀ binding ∈ database.bindings,
    (database.missions.lookup binding.missionId).isSome
  fenced : ∀ binding ∈ database.bindings,
    (database.fencing.lookup (binding.missionId, binding.ocsId)).isSome
  idle : ∀ missionId mission, database.missions.lookup missionId = some mission →
    mission.activeInstanceId = none → mission.activeOcsId = none
  seated : ∀ missionId mission, database.missions.lookup missionId = some mission →
    ∀ instanceId, mission.activeInstanceId = some instanceId →
      ∃ binding ∈ database.bindings, binding.key = (missionId, instanceId) ∧
        mission.activeOcsId = some binding.ocsId
  active : ∀ binding ∈ database.bindings, binding.status = .active ↔
    ∃ mission, database.missions.lookup binding.missionId = some mission ∧
      mission.activeInstanceId = some binding.instanceId
  handoffs : ∀ handoffId row, database.handoffs.lookup handoffId = some row →
    row.targetOcsId ∈ routeTargets ∧
      ∃ target ∈ database.bindings, target.key = (row.missionId, row.targetInstanceId) ∧
        target.ocsId = row.targetOcsId
  budget : ∀ missionId mission, database.missions.lookup missionId = some mission →
    (mission.autonomousStepCounter : ℤ) ≤ mission.autonomyBudget

namespace Wired

theorem binding?_eq_some (h : Wired database) {instanceId : String} {binding : BindingRow} :
    database.binding? missionId instanceId = some binding ↔
      binding ∈ database.bindings ∧ binding.key = (missionId, instanceId) :=
  find?_key_eq_some_iff h.keys

theorem eq_of_id (h : Wired database) {left right : BindingRow}
    (hleft : left ∈ database.bindings) (hright : right ∈ database.bindings)
    (hid : left.bindingId = right.bindingId) : left = right :=
  List.inj_on_of_nodup_map h.ids hleft hright hid

theorem eq_of_key (h : Wired database) {left right : BindingRow}
    (hleft : left ∈ database.bindings) (hright : right ∈ database.bindings)
    (hkey : left.key = right.key) : left = right :=
  List.inj_on_of_nodup_map h.keys hleft hright hkey

theorem congr (h : Wired database) (hmissions : after.missions = database.missions)
    (hbindings : after.bindings = database.bindings)
    (hfencing : after.fencing = database.fencing)
    (hhandoffs : after.handoffs = database.handoffs) : Wired after := by
  constructor
  case ids => rw [hbindings]; exact h.ids
  case keys => rw [hbindings]; exact h.keys
  case named => rw [hbindings]; exact h.named
  case missions => rw [hbindings, hmissions]; exact h.missions
  case fenced => rw [hbindings, hfencing]; exact h.fenced
  case idle => rw [hmissions]; exact h.idle
  case seated => rw [hmissions, hbindings]; exact h.seated
  case active => rw [hmissions, hbindings]; exact h.active
  case handoffs => rw [hhandoffs, hbindings]; exact h.handoffs
  case budget => rw [hmissions]; exact h.budget

theorem of_same (h : Wired database) (hsame : database.SameRecords after) : Wired after :=
  h.congr hsame.missions hsame.bindings hsame.fencing hsame.handoffs

theorem of_noted (h : Wired middle) {kind receipt : String}
    (hnoted : middle.Noted missionId kind receipt after) : Wired after :=
  h.congr hnoted.missions hnoted.bindings hnoted.fencing hnoted.handoffs

theorem start : Wired .empty := by
  constructor
  case ids => exact List.nodup_nil
  case keys => exact List.nodup_nil
  case named => exact fun _ hmem => absurd hmem List.not_mem_nil
  case missions => exact fun _ hmem => absurd hmem List.not_mem_nil
  case fenced => exact fun _ hmem => absurd hmem List.not_mem_nil
  case idle => exact fun _ _ hfound => nomatch hfound
  case seated => exact fun _ _ hfound => nomatch hfound
  case active => exact fun _ hmem => absurd hmem List.not_mem_nil
  case handoffs => exact fun _ _ hfound => nomatch hfound
  case budget => exact fun _ _ hfound => nomatch hfound

theorem missionId_ne (h : Wired database) (hnew : database.missions.lookup missionId = none)
    {binding : BindingRow} (hbinding : binding ∈ database.bindings) :
    binding.missionId ≠ missionId := by
  intro heq
  have hsome := h.missions binding hbinding
  rw [heq, hnew] at hsome
  cases hsome

/-! ### Missions -/

/-- A mission's row that points where the old one did. -/
theorem updateMission (h : Wired database) {old mission : MissionRow}
    (hfound : database.missions.lookup missionId = some old)
    (hocs : mission.activeOcsId = old.activeOcsId)
    (hinstance : mission.activeInstanceId = old.activeInstanceId)
    (hsteps : mission.autonomousStepCounter = old.autonomousStepCounter)
    (hbudget : mission.autonomyBudget = old.autonomyBudget) :
    Wired (database.updateMission missionId mission) := by
  have hlookup (other : String) (row : MissionRow)
      (hrow : (database.missions.insert missionId mission).lookup other = some row) :
      ∃ before, database.missions.lookup other = some before ∧
        row.activeOcsId = before.activeOcsId ∧
        row.activeInstanceId = before.activeInstanceId ∧
        row.autonomousStepCounter = before.autonomousStepCounter ∧
        row.autonomyBudget = before.autonomyBudget := by
    rw [Dict.lookup_insert_eq] at hrow
    split at hrow
    · rename_i heq
      cases hrow
      exact ⟨old, heq ▸ hfound, hocs, hinstance, hsteps, hbudget⟩
    · exact ⟨row, hrow, rfl, rfl, rfl, rfl⟩
  constructor
  case ids => exact h.ids
  case keys => exact h.keys
  case named => exact h.named
  case missions =>
    intro binding hbinding
    simp only [Database.updateMission, Dict.lookup_insert_eq]
    split
    · rfl
    · exact h.missions binding hbinding
  case fenced => exact h.fenced
  case idle =>
    intro other row hrow hnone
    obtain ⟨before, hbefore, hsameOcs, hsameInstance, -, -⟩ := hlookup other row hrow
    rw [hsameOcs]
    exact h.idle other before hbefore (hsameInstance ▸ hnone)
  case seated =>
    intro other row hrow instanceId hpointer
    obtain ⟨before, hbefore, hsameOcs, hsameInstance, -, -⟩ := hlookup other row hrow
    rw [hsameOcs]
    exact h.seated other before hbefore instanceId (hsameInstance ▸ hpointer)
  case active =>
    intro binding hbinding
    rw [h.active binding hbinding]
    constructor
    · rintro ⟨before, hbefore, hpointer⟩
      simp only [Database.updateMission, Dict.lookup_insert_eq]
      by_cases heq : binding.missionId = missionId
      · rw [heq, hfound] at hbefore
        cases hbefore
        exact ⟨mission, if_pos heq, hinstance.trans hpointer⟩
      · exact ⟨before, (if_neg heq).trans hbefore, hpointer⟩
    · rintro ⟨row, hrow, hpointer⟩
      obtain ⟨before, hbefore, -, hsameInstance, -⟩ := hlookup _ row hrow
      exact ⟨before, hbefore, hsameInstance ▸ hpointer⟩
  case handoffs => exact h.handoffs
  case budget =>
    intro other row hrow
    obtain ⟨before, hbefore, -, -, hsameSteps, hsameBudget⟩ := hlookup other row hrow
    rw [hsameSteps, hsameBudget]
    exact h.budget other before hbefore

theorem created (h : Wired database) {mission : MissionRow}
    (hnew : database.missions.lookup missionId = none) (hocs : mission.activeOcsId = none)
    (hinstance : mission.activeInstanceId = none)
    (hbudget : (mission.autonomousStepCounter : ℤ) ≤ mission.autonomyBudget) :
    Wired (database.updateMission missionId mission) := by
  have hlookup (other : String) (row : MissionRow)
      (hrow : (database.missions.insert missionId mission).lookup other = some row) :
      row = mission ∨ database.missions.lookup other = some row := by
    rw [Dict.lookup_insert_eq] at hrow
    split at hrow
    · cases hrow
      exact .inl rfl
    · exact .inr hrow
  constructor
  case ids => exact h.ids
  case keys => exact h.keys
  case named => exact h.named
  case missions =>
    intro binding hbinding
    simp only [Database.updateMission, Dict.lookup_insert_eq]
    rw [if_neg (h.missionId_ne hnew hbinding)]
    exact h.missions binding hbinding
  case fenced => exact h.fenced
  case idle =>
    intro other row hrow hnone
    rcases hlookup other row hrow with rfl | hold
    · exact hocs
    · exact h.idle other row hold hnone
  case seated =>
    intro other row hrow instanceId hpointer
    rcases hlookup other row hrow with rfl | hold
    · rw [hinstance] at hpointer
      cases hpointer
    · exact h.seated other row hold instanceId hpointer
  case active =>
    intro binding hbinding
    rw [h.active binding hbinding]
    simp only [Database.updateMission, Dict.lookup_insert_eq]
    rw [if_neg (h.missionId_ne hnew hbinding)]
  case handoffs => exact h.handoffs
  case budget =>
    intro other row hrow
    rcases hlookup other row hrow with rfl | hold
    · exact hbudget
    · exact h.budget other row hold

/-! ### Bindings -/

/-- A change of the bindings' rows that keeps what references are made of. -/
theorem mapBindings (h : Wired database) {change : BindingRow → BindingRow}
    (hids : ∀ binding, (change binding).bindingId = binding.bindingId)
    (hkeys : ∀ binding, (change binding).key = binding.key)
    (hocs : ∀ binding, (change binding).ocsId = binding.ocsId)
    (hstatus : ∀ binding, (change binding).status = binding.status) :
    Wired { database with bindings := database.bindings.map change } := by
  have hmission (binding : BindingRow) : (change binding).missionId = binding.missionId :=
    (Prod.mk.inj (hkeys binding)).1
  have hinstance (binding : BindingRow) : (change binding).instanceId = binding.instanceId :=
    (Prod.mk.inj (hkeys binding)).2
  constructor
  case ids =>
    simp only [List.map_map]
    rw [show (fun row : BindingRow => row.bindingId) ∘ change = (·.bindingId) from
      funext hids]
    exact h.ids
  case keys =>
    simp only [List.map_map]
    rw [show BindingRow.key ∘ change = BindingRow.key from funext hkeys]
    exact h.keys
  case named =>
    intro binding hbinding
    obtain ⟨old, hold, rfl⟩ := List.mem_map.mp hbinding
    rw [hocs, hinstance]
    exact h.named old hold
  case missions =>
    intro binding hbinding
    obtain ⟨old, hold, rfl⟩ := List.mem_map.mp hbinding
    rw [hmission]
    exact h.missions old hold
  case fenced =>
    intro binding hbinding
    obtain ⟨old, hold, rfl⟩ := List.mem_map.mp hbinding
    rw [hmission, hocs]
    exact h.fenced old hold
  case idle => exact h.idle
  case seated =>
    intro other mission hfound instanceId hpointer
    obtain ⟨old, hold, hkey, hactive⟩ := h.seated other mission hfound instanceId hpointer
    refine ⟨change old, List.mem_map_of_mem hold, (hkeys old).trans hkey, ?_⟩
    rw [hocs]
    exact hactive
  case active =>
    intro binding hbinding
    obtain ⟨old, hold, rfl⟩ := List.mem_map.mp hbinding
    rw [hstatus, hmission, hinstance]
    exact h.active old hold
  case handoffs =>
    intro handoffId row hrow
    obtain ⟨hroute, old, hold, hkey, htarget⟩ := h.handoffs handoffId row hrow
    exact ⟨hroute, change old, List.mem_map_of_mem hold, (hkeys old).trans hkey,
      (hocs old).trans htarget⟩
  case budget => exact h.budget

theorem lookup_bound {mission : MissionRow} {row : BindingRow} {active : Bool}
    (hbinds : Binds database mission row active) (other : String) :
    (bound database mission row active).missions.lookup other =
      if active = true ∧ other = row.missionId then
        some { mission with
          activeOcsId := some row.ocsId
          activeInstanceId := some row.instanceId
          version := mission.version + 1 }
      else database.missions.lookup other := by
  cases active with
  | false => simp [bound]
  | true => simp [bound, Database.updateMission, Dict.lookup_insert_eq]

theorem bindings_bound (mission : MissionRow) (row : BindingRow) (active : Bool) :
    (bound database mission row active).bindings = database.bindings ++ [row] := by
  cases active <;> rfl

theorem fencing_bound (mission : MissionRow) (row : BindingRow) (active : Bool) :
    (bound database mission row active).fencing =
      database.fencing.insert (row.missionId, row.ocsId) row.fencingEpoch := by
  cases active <;> rfl

theorem handoffs_bound (mission : MissionRow) (row : BindingRow) (active : Bool) :
    (bound database mission row active).handoffs = database.handoffs := by
  cases active <;> rfl

theorem bound (h : Wired database) {mission : MissionRow} {row : BindingRow} {active : Bool}
    (hbinds : Binds database mission row active) :
    Wired (Trial2.bound database mission row active) := by
  have hmem (binding : BindingRow) :
      binding ∈ (Trial2.bound database mission row active).bindings ↔
        binding ∈ database.bindings ∨ binding = row := by
    rw [bindings_bound, List.mem_append, List.mem_singleton]
  have hnew : mission.activeInstanceId ≠ some row.instanceId := by
    intro hpointer
    obtain ⟨binding, hbinding, hkey, -⟩ := h.seated _ mission hbinds.found _ hpointer
    exact (hbinds.fresh binding hbinding).2 hkey
  constructor
  case ids =>
    rw [bindings_bound, List.map_append, List.map_singleton, ← List.concat_eq_append]
    apply h.ids.concat
    intro hrow
    obtain ⟨binding, hbinding, hid⟩ := List.mem_map.mp hrow
    exact (hbinds.fresh binding hbinding).1 hid
  case keys =>
    rw [bindings_bound, List.map_append, List.map_singleton, ← List.concat_eq_append]
    apply h.keys.concat
    intro hrow
    obtain ⟨binding, hbinding, hkey⟩ := List.mem_map.mp hrow
    exact (hbinds.fresh binding hbinding).2 hkey
  case named =>
    intro binding hbinding
    rcases (hmem binding).mp hbinding with hold | rfl
    · exact h.named binding hold
    · exact hbinds.named.2
  case missions =>
    intro binding hbinding
    rw [lookup_bound hbinds]
    split
    · rfl
    · rcases (hmem binding).mp hbinding with hold | rfl
      · exact h.missions binding hold
      · rw [hbinds.found]
        rfl
  case fenced =>
    intro binding hbinding
    rw [fencing_bound, Dict.lookup_insert_eq]
    split
    · rfl
    · rename_i hother
      rcases (hmem binding).mp hbinding with hold | rfl
      · exact h.fenced binding hold
      · exact absurd rfl hother
  case idle =>
    intro other found hfound hnone
    rw [lookup_bound hbinds] at hfound
    split at hfound
    · cases hfound
      cases hnone
    · exact h.idle other found hfound hnone
  case seated =>
    intro other found hfound instanceId hpointer
    rw [lookup_bound hbinds] at hfound
    split at hfound
    · rename_i hactive
      cases hfound
      cases hpointer
      refine ⟨row, (hmem row).mpr (.inr rfl), ?_, rfl⟩
      rw [hactive.2]
      rfl
    · obtain ⟨binding, hbinding, hkey, hocs⟩ := h.seated other found hfound _ hpointer
      exact ⟨binding, (hmem binding).mpr (.inl hbinding), hkey, hocs⟩
  case active =>
    intro binding hbinding
    rw [lookup_bound hbinds]
    rcases (hmem binding).mp hbinding with hold | rfl
    · rw [h.active binding hold]
      split
      · rename_i hactive
        have hfound := hbinds.found
        rw [← hactive.2] at hfound
        constructor
        · rintro ⟨found, hother, hpointer⟩
          rw [hfound] at hother
          cases hother
          rw [hbinds.idle hactive.1] at hpointer
          cases hpointer
        · rintro ⟨found, hother, hpointer⟩
          cases hother
          exact absurd (Prod.ext hactive.2 (Option.some.inj hpointer).symm)
            (hbinds.fresh binding hold).2
      · rfl
    · rw [hbinds.status]
      cases active with
      | true => simp
      | false => simpa [hbinds.found] using hnew
  case handoffs =>
    intro handoffId handoff hrow
    rw [handoffs_bound] at hrow
    obtain ⟨hroute, target, htarget, hkey, hocs⟩ := h.handoffs handoffId handoff hrow
    exact ⟨hroute, target, (hmem target).mpr (.inl htarget), hkey, hocs⟩
  case budget =>
    intro other found hfound
    rw [lookup_bound hbinds] at hfound
    split at hfound
    · cases hfound
      exact h.budget row.missionId mission hbinds.found
    · exact h.budget other found hfound

/-! ### Handoffs -/

theorem issued (h : Wired database) {mission : MissionRow} {source target : BindingRow}
    {handoffId : String} {row : HandoffRow} {envelope : PyValue N}
    (hissues : Issues encoding database mission source target handoffId row envelope) :
    Wired (Trial2.issued database mission handoffId row) := by
  have hinserted : Wired { database with
      handoffs := database.handoffs.insert handoffId row } := by
    constructor
    case ids => exact h.ids
    case keys => exact h.keys
    case named => exact h.named
    case missions => exact h.missions
    case fenced => exact h.fenced
    case idle => exact h.idle
    case seated => exact h.seated
    case active => exact h.active
    case handoffs =>
      intro other found hfound
      simp only [Dict.lookup_insert_eq] at hfound
      split at hfound
      · cases hfound
        obtain ⟨htarget, hkey⟩ := h.binding?_eq_some.mp hissues.receiver
        exact ⟨hissues.route, target, htarget, hkey, hissues.targetOcs⟩
      · exact h.handoffs other found hfound
    case budget => exact h.budget
  exact hinserted.updateMission hissues.found rfl rfl rfl rfl

end Wired

/-- What a handoff of the mission has read, whenever that was, and the mission's row as
its writes find it. -/
structure Claimable (database : Database) (missionId : String) (reading : Reading)
    (current : MissionRow) (stored : HandoffRow) : Prop where
  found : database.missions.lookup missionId = some current
  pointer : current.activeInstanceId = some reading.row.sourceInstanceId
  source : ∃ binding ∈ database.bindings,
    binding.bindingId = reading.source.bindingId ∧
      binding.key = (missionId, reading.row.sourceInstanceId)
  target : ∃ binding ∈ database.bindings,
    binding.bindingId = reading.target.bindingId ∧
      binding.key = (missionId, reading.row.targetInstanceId) ∧
      binding.ocsId = reading.row.targetOcsId
  stored : stored.missionId = missionId ∧ stored.targetOcsId = reading.row.targetOcsId ∧
    stored.targetInstanceId = reading.row.targetInstanceId
  route : reading.row.targetOcsId ∈ routeTargets
  budget : (reading.mission.autonomousStepCounter + 1 : ℤ) ≤ current.autonomyBudget

theorem Acceptable.claimable {handoffId : String} {reading : Reading} (h : Wired database)
    (hacceptable : Acceptable database missionId handoffId reading) :
    Claimable database missionId reading reading.mission reading.row := by
  obtain ⟨hsource, hsourceKey⟩ := h.binding?_eq_some.mp hacceptable.sender
  obtain ⟨htarget, htargetKey⟩ := h.binding?_eq_some.mp hacceptable.receiver
  obtain ⟨hroute, other, hother, hotherKey, hocs⟩ := h.handoffs _ _ hacceptable.row
  rw [hacceptable.ofMission] at hotherKey
  have hsame : other = reading.target :=
    h.eq_of_key hother htarget (hotherKey.trans htargetKey.symm)
  constructor
  case found => exact hacceptable.found
  case pointer => exact hacceptable.pointer
  case source => exact ⟨reading.source, hsource, rfl, hsourceKey⟩
  case target => exact ⟨reading.target, htarget, rfl, htargetKey, hsame ▸ hocs⟩
  case stored => exact ⟨hacceptable.ofMission, rfl, rfl⟩
  case route => exact hroute
  case budget => exact hacceptable.budget

namespace Wired

theorem handedOver (h : Wired database) {handoffId receipt : String} {reading : Reading}
    {current : MissionRow} {stored : HandoffRow}
    (hclaimable : Claimable database missionId reading current stored) :
    Wired (Trial2.handedOver database missionId handoffId reading current stored receipt) := by
  obtain ⟨source, hsource, hsourceId, hsourceKey⟩ := hclaimable.source
  obtain ⟨target, htarget, htargetId, htargetKey, hocs⟩ := hclaimable.target
  have hlookup (other : String) (row : MissionRow)
      (hrow : (database.missions.insert missionId
        (advanced handoffId reading current)).lookup other = some row) :
      other = missionId ∧ row = advanced handoffId reading current ∨
        other ≠ missionId ∧ database.missions.lookup other = some row := by
    rw [Dict.lookup_insert_eq] at hrow
    split at hrow
    · rename_i heq
      cases hrow
      exact .inl ⟨heq, rfl⟩
    · rename_i hne
      exact .inr ⟨hne, hrow⟩
  constructor
  case ids =>
    simp only [Trial2.handedOver, List.map_map]
    exact h.ids
  case keys =>
    simp only [Trial2.handedOver, List.map_map]
    exact h.keys
  case named =>
    intro binding hbinding
    obtain ⟨old, hold, rfl⟩ := List.mem_map.mp hbinding
    exact h.named old hold
  case missions =>
    intro binding hbinding
    obtain ⟨old, hold, rfl⟩ := List.mem_map.mp hbinding
    simp only [Trial2.handedOver, Dict.lookup_insert_eq]
    split
    · rfl
    · exact h.missions old hold
  case fenced =>
    intro binding hbinding
    obtain ⟨old, hold, rfl⟩ := List.mem_map.mp hbinding
    exact h.fenced old hold
  case idle =>
    intro other row hrow hnone
    rcases hlookup other row hrow with ⟨-, rfl⟩ | ⟨-, hold⟩
    · cases hnone
    · exact h.idle other row hold hnone
  case seated =>
    intro other row hrow instanceId hpointer
    rcases hlookup other row hrow with ⟨rfl, rfl⟩ | ⟨-, hold⟩
    · refine ⟨restatus reading target, List.mem_map_of_mem htarget, ?_, ?_⟩
      · cases hpointer
        exact htargetKey
      · exact congrArg some hocs.symm
    · obtain ⟨binding, hbinding, hkey, hactive⟩ := h.seated other row hold _ hpointer
      exact ⟨restatus reading binding, List.mem_map_of_mem hbinding, hkey, hactive⟩
  case active =>
    intro binding hbinding
    obtain ⟨old, hold, rfl⟩ := List.mem_map.mp hbinding
    have hisTarget : old.bindingId = reading.target.bindingId ↔ old = target :=
      ⟨fun heq => h.eq_of_id hold htarget (heq.trans htargetId.symm),
        fun heq => heq ▸ htargetId⟩
    have hisSource : old.bindingId = reading.source.bindingId ↔ old = source :=
      ⟨fun heq => h.eq_of_id hold hsource (heq.trans hsourceId.symm),
        fun heq => heq ▸ hsourceId⟩
    have hstatus : (restatus reading old).status = .active ↔
        old = target ∨ old ≠ source ∧ old.status = .active := by
      simp only [restatus, hisTarget, hisSource]
      by_cases ht : old = target
      · simp [ht]
      · by_cases hs : old = source <;> simp [ht, hs]
    rw [hstatus]
    by_cases hmission : old.missionId = missionId
    · have hfound : (Trial2.handedOver database missionId handoffId reading current stored
          receipt).missions.lookup old.missionId =
            some (advanced handoffId reading current) := by
        simp only [Trial2.handedOver, Dict.lookup_insert_eq, if_pos hmission]
      have hidle : ¬ (old ≠ source ∧ old.status = .active) := by
        rintro ⟨hne, hactive⟩
        obtain ⟨found, hrow, hpointer⟩ := (h.active old hold).mp hactive
        rw [hmission, hclaimable.found] at hrow
        cases hrow
        rw [hclaimable.pointer] at hpointer
        apply hne
        apply h.eq_of_key hold hsource
        rw [hsourceKey]
        exact Prod.ext hmission (Option.some.inj hpointer).symm
      constructor
      · rintro (rfl | hother)
        · exact ⟨_, hfound, congrArg some (Prod.mk.inj htargetKey).2.symm⟩
        · exact absurd hother hidle
      · rintro ⟨row, hrow, hpointer⟩
        have hrow' := hfound.symm.trans hrow
        cases hrow'
        left
        apply h.eq_of_key hold htarget
        rw [htargetKey]
        exact Prod.ext hmission (Option.some.inj hpointer).symm
    · have hfound : (Trial2.handedOver database missionId handoffId reading current stored
          receipt).missions.lookup old.missionId =
            database.missions.lookup old.missionId := by
        simp only [Trial2.handedOver, Dict.lookup_insert_eq, if_neg hmission]
      have hneTarget : old ≠ target := by
        rintro rfl
        exact hmission (Prod.mk.inj htargetKey).1
      have hneSource : old ≠ source := by
        rintro rfl
        exact hmission (Prod.mk.inj hsourceKey).1
      have hsameActive : old = target ∨ old ≠ source ∧ old.status = .active ↔
          old.status = .active := by
        simp [hneTarget, hneSource]
      rw [hsameActive, h.active old hold]
      constructor
      · rintro ⟨row, hrow, hpointer⟩
        exact ⟨row, hfound.trans hrow, hpointer⟩
      · rintro ⟨row, hrow, hpointer⟩
        exact ⟨row, hfound.symm.trans hrow, hpointer⟩
  case handoffs =>
    intro other row hrow
    simp only [Trial2.handedOver, Dict.lookup_insert_eq] at hrow
    split at hrow
    · cases hrow
      refine ⟨?_, restatus reading target, List.mem_map_of_mem htarget, ?_, ?_⟩
      · show stored.targetOcsId ∈ routeTargets
        rw [hclaimable.stored.2.1]
        exact hclaimable.route
      · show target.key = (stored.missionId, stored.targetInstanceId)
        rw [htargetKey, hclaimable.stored.1, hclaimable.stored.2.2]
      · exact hocs.trans hclaimable.stored.2.1.symm
    · obtain ⟨hroute, binding, hbinding, hkey, hactive⟩ := h.handoffs other row hrow
      exact ⟨hroute, restatus reading binding, List.mem_map_of_mem hbinding, hkey, hactive⟩
  case budget =>
    intro other row hrow
    rcases hlookup other row hrow with ⟨-, rfl⟩ | ⟨-, hold⟩
    · exact hclaimable.budget
    · exact h.budget other row hold

/-! ### Runs -/

theorem checkpointed (h : Wired database) (row : CheckpointRow) (bindingId : String) :
    Wired (Trial2.checkpointed database row bindingId) := by
  have hsaved : Wired { database with checkpoints := database.checkpoints ++ [row] } :=
    h.congr rfl rfl rfl rfl
  apply hsaved.mapBindings
  · intro binding
    by_cases hid : binding.bindingId = bindingId <;> simp [hid]
  · intro binding
    by_cases hid : binding.bindingId = bindingId <;> simp [hid, BindingRow.key]
  · intro binding
    by_cases hid : binding.bindingId = bindingId <;> simp [hid]
  · intro binding
    by_cases hid : binding.bindingId = bindingId <;> simp [hid]

theorem change (h : Wired database) {call : Call N}
    (hchange : Change encoding database call after) : Wired after := by
  cases hchange with
  | same hsame => exact h.of_same hsame
  | created hnew hocs hinstance _ hbudget hsame =>
    exact (h.created hnew hocs hinstance hbudget).of_same hsame
  | bound hbinds hnoted => exact (h.bound hbinds).of_noted hnoted
  | checkpointed hsaves hnoted => exact (h.checkpointed _ _).of_noted hnoted
  | issued hissues hnoted => exact (h.issued hissues).of_noted hnoted
  | accepted hacceptable _ hnoted =>
    exact (h.handedOver (hacceptable.claimable h)).of_noted hnoted
  | applied _ _ _ _ hnoted =>
    exact h.congr hnoted.missions hnoted.bindings hnoted.fencing hnoted.handoffs

theorem perform (h : Wired database) (encoding : Encoding N) (call : Call N) :
    Wired (Trial2.perform encoding database call) :=
  h.change (perform_change encoding database call)

end Wired

/-! ## Checkpoints -/

/-- Every binding's checkpoint is stored. -/
def Stored (database : Database) : Prop :=
  ∀ binding ∈ database.bindings, ∀ checkpointRef,
    binding.checkpointRef = some checkpointRef →
      checkpointRef ≠ "" ∧ ∃ row ∈ database.checkpoints, row.checkpointId = checkpointRef

namespace Stored

theorem congr (h : Stored database) (hbindings : after.bindings = database.bindings)
    (hcheckpoints : after.checkpoints = database.checkpoints) : Stored after := by
  unfold Stored
  rw [hbindings, hcheckpoints]
  exact h

theorem checkpoints_bound (mission : MissionRow) (row : BindingRow) (active : Bool) :
    (bound database mission row active).checkpoints = database.checkpoints := by
  cases active <;> rfl

theorem bound (h : Stored database) {mission : MissionRow} {row : BindingRow} {active : Bool}
    (hbinds : Binds database mission row active) :
    Stored (Trial2.bound database mission row active) := by
  intro binding hbinding checkpointRef href
  rw [Wired.bindings_bound, List.mem_append, List.mem_singleton] at hbinding
  rw [checkpoints_bound]
  rcases hbinding with hold | rfl
  · exact h binding hold checkpointRef href
  · rw [hbinds.unsaved] at href
    cases href

theorem checkpointed (h : Stored database) {mission : MissionRow} {binding : BindingRow}
    {row : CheckpointRow} {localState : PyValue N}
    (hsaves : Saves encoding database mission binding row localState) :
    Stored (Trial2.checkpointed database row binding.bindingId) := by
  intro found hfound checkpointRef href
  obtain ⟨old, hold, rfl⟩ := List.mem_map.mp hfound
  by_cases hid : old.bindingId = binding.bindingId
  · have hnew : row.checkpointId = checkpointRef := by
      simpa [hid] using href
    rw [← hnew]
    exact ⟨hsaves.named, row, List.mem_append_right _ (List.mem_singleton_self row), rfl⟩
  · have hsame : old.checkpointRef = some checkpointRef := by
      simpa [hid] using href
    obtain ⟨hnamed, stored, hstored, hstoredId⟩ := h old hold checkpointRef hsame
    exact ⟨hnamed, stored, List.mem_append_left _ hstored, hstoredId⟩

theorem handedOver (h : Stored database) (handoffId receipt : String) (reading : Reading)
    (current : MissionRow) (stored : HandoffRow) :
    Stored (Trial2.handedOver database missionId handoffId reading current stored
      receipt) := by
  intro found hfound checkpointRef href
  obtain ⟨old, hold, rfl⟩ := List.mem_map.mp hfound
  exact h old hold checkpointRef href

theorem perform (h : Stored database) (call : Call N) :
    Stored (Trial2.perform encoding database call) := by
  have hchange := perform_change encoding database call
  cases hchange with
  | same hsame => exact h.congr hsame.bindings hsame.checkpoints
  | created _ _ _ _ _ hsame => exact h.congr hsame.bindings hsame.checkpoints
  | bound hbinds hnoted => exact (h.bound hbinds).congr hnoted.bindings hnoted.checkpoints
  | checkpointed hsaves hnoted =>
    exact (h.checkpointed hsaves).congr hnoted.bindings hnoted.checkpoints
  | issued _ hnoted => exact h.congr hnoted.bindings hnoted.checkpoints
  | accepted _ _ hnoted =>
    exact (h.handedOver _ _ _ _ _).congr hnoted.bindings hnoted.checkpoints
  | applied _ _ _ _ hnoted => exact h.congr hnoted.bindings hnoted.checkpoints

end Stored

end ReisOs.Trial2
