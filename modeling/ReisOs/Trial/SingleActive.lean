import ReisOs.Trial.Changes

/-!
# One active instance per mission

A mission's row names its active instance, and the status of a binding says the same
once more.  The two agree along every run that never binds anew to the OCS whose newest
binding is the active one; such a bind fences the binding and leaves the mission's row
as it is.
-/

namespace ReisOs.Trial

open ReisOs.Core TrialDatabase

variable {database after : TrialDatabase}

/-- Exactly the mission's active instance has an ACTIVE binding, and only one. -/
def SingleActive (database : TrialDatabase) : Prop :=
  ∀ missionId mission, database.missions.lookup missionId = some mission →
    (database.activeBindings missionId).map (·.instanceId) =
      mission.activeInstanceId.toList

/-- The newest binding of the OCS is not the active one. -/
def Dormant (database : TrialDatabase) (missionId ocsId : String) : Prop :=
  ∀ prior, database.newest missionId ocsId = some prior → prior.status ≠ .active

/-- Binding identifiers are keys, and every binding belongs to a mission and to an OCS
with a fencing epoch. -/
structure Keyed (database : TrialDatabase) : Prop where
  ids : (database.bindings.map (·.bindingId)).Nodup
  missions : ∀ binding ∈ database.bindings,
    (database.missions.lookup binding.missionId).isSome
  fenced : ∀ binding ∈ database.bindings,
    (database.fencing.lookup (binding.missionId, binding.ocsId)).isSome

/-! ## The newest binding -/

instance : Std.Total newerFirst :=
  ⟨fun left right => Nat.le_total right.generation left.generation⟩

instance : IsTrans BindingRow newerFirst :=
  ⟨fun _ _ _ hfirst hlast => Nat.le_trans hlast hfirst⟩

variable {ocsId : String} {prior : BindingRow}

theorem newest_spec {missionId : String}
    (h : database.newest missionId ocsId = some prior) :
    prior ∈ database.bindings ∧ prior.missionId = missionId ∧ prior.ocsId = ocsId ∧
      ∀ binding ∈ database.bindings, binding.missionId = missionId → binding.ocsId = ocsId →
        binding.generation ≤ prior.generation := by
  obtain ⟨hmem, hfirst⟩ := head?_insertionSort_spec h
  obtain ⟨hprior, hkey⟩ := List.mem_filter.mp hmem
  have hkey := of_decide_eq_true hkey
  refine ⟨hprior, hkey.1, hkey.2, ?_⟩
  intro binding hbinding hmission hocs
  have hfiltered : binding ∈ database.bindings.filter fun binding =>
      binding.missionId = missionId ∧ binding.ocsId = ocsId :=
    List.mem_filter.mpr ⟨hbinding, decide_eq_true ⟨hmission, hocs⟩⟩
  rcases hfirst binding hfiltered with rfl | hnewer
  · exact le_rfl
  · exact hnewer

variable {fenced : TrialDatabase}

theorem advanceEpoch_eq_ok {missionId : String}
    {epoch generation : ℕ} {predecessor : Option String}
    (h : database.advanceEpoch missionId ocsId =
      .ok (fenced, epoch, generation, predecessor)) :
    (database.fencing.lookup (missionId, ocsId) = none ∧ epoch = 1 ∧ generation = 1 ∧
        fenced = { database with
          fencing := database.fencing.insert (missionId, ocsId) 1 }) ∨
      ∃ current prior, database.fencing.lookup (missionId, ocsId) = some current ∧
        database.newest missionId ocsId = some prior ∧ epoch = current + 1 ∧
        generation = prior.generation + 1 ∧
        fenced = { database.updateBinding prior.bindingId fun binding =>
            { binding with status := .fenced } with
          fencing := database.fencing.insert (missionId, ocsId) (current + 1) } := by
  unfold advanceEpoch at h
  split at h
  · rename_i hnone
    cases h
    exact .inl ⟨hnone, rfl, rfl, rfl⟩
  · rename_i current hcurrent
    split at h
    · cases h
    · rename_i prior hprior
      cases h
      exact .inr ⟨current, prior, hcurrent, hprior, rfl, rfl, rfl⟩

/-! ## Active bindings -/

theorem mem_activeBindings {missionId : String} {binding : BindingRow} :
    binding ∈ database.activeBindings missionId ↔
      binding ∈ database.bindings ∧ binding.missionId = missionId ∧
        binding.status = .active := by
  rw [activeBindings, List.mem_filter, decide_eq_true_iff]

theorem activeBindings_deactivate {chosen : BindingRow → Bool} {status : BindingStatus}
    (hbindings : after.bindings = updateWhere chosen
      (fun binding => { binding with status := status }) database.bindings)
    (hstatus : status ≠ .active) (missionId : String) :
    after.activeBindings missionId =
      (database.activeBindings missionId).filter fun binding => !chosen binding := by
  rw [activeBindings, hbindings]
  apply filter_updateWhere_of_drops
  intro binding
  simp [hstatus]

theorem Keyed.eq_of_id (h : Keyed database) {left right : BindingRow}
    (hleft : left ∈ database.bindings) (hright : right ∈ database.bindings)
    (hid : left.bindingId = right.bindingId) : left = right :=
  List.inj_on_of_nodup_map h.ids hleft hright hid

theorem Keyed.of_bindings (h : Keyed database)
    (hids : after.bindings.map (·.bindingId) = database.bindings.map (·.bindingId))
    (hkeys : after.bindings.map (fun binding => (binding.missionId, binding.ocsId)) =
      database.bindings.map (fun binding => (binding.missionId, binding.ocsId)))
    (hmissions : ∀ missionId, (database.missions.lookup missionId).isSome →
      (after.missions.lookup missionId).isSome)
    (hfencing : ∀ key, (database.fencing.lookup key).isSome →
      (after.fencing.lookup key).isSome) : Keyed after := by
  have hold (binding : BindingRow) (hbinding : binding ∈ after.bindings) :
      ∃ old ∈ database.bindings, old.missionId = binding.missionId ∧
        old.ocsId = binding.ocsId := by
    have hmem : (binding.missionId, binding.ocsId) ∈
        database.bindings.map fun old => (old.missionId, old.ocsId) := by
      rw [← hkeys]
      exact List.mem_map_of_mem hbinding
    obtain ⟨old, hold, hkey⟩ := List.mem_map.mp hmem
    exact ⟨old, hold, Prod.mk.inj hkey⟩
  constructor
  case ids =>
    rw [hids]
    exact h.ids
  case missions =>
    intro binding hbinding
    obtain ⟨old, hmem, hmission, -⟩ := hold binding hbinding
    rw [← hmission]
    exact hmissions _ (h.missions old hmem)
  case fenced =>
    intro binding hbinding
    obtain ⟨old, hmem, hmission, hocs⟩ := hold binding hbinding
    rw [← hmission, ← hocs]
    exact hfencing _ (h.fenced old hmem)

theorem isSome_lookup_insert {K V : Type} [DecidableEq K] {table : Dict K V} {key other : K}
    {value : V} (h : (table.lookup other).isSome) :
    ((table.insert key value).lookup other).isSome := by
  rw [Dict.lookup_insert_eq]
  split
  · rfl
  · exact h

/-! ## Keys -/

theorem Keyed.congr (h : Keyed database) (hsame : database.SameStanding after) :
    Keyed after := by
  apply h.of_bindings
  · rw [hsame.bindings]
  · rw [hsame.bindings]
  · intro missionId hmission
    rw [hsame.missions]
    exact hmission
  · intro key hkey
    rw [hsame.fencing]
    exact hkey

theorem Keyed.advanceEpoch (h : Keyed database) {missionId : String} {epoch generation : ℕ} {predecessor : Option String}
    (hadvance : database.advanceEpoch missionId ocsId =
      .ok (fenced, epoch, generation, predecessor)) :
    Keyed fenced ∧ fenced.missions = database.missions ∧
      fenced.fencing.lookup (missionId, ocsId) = some epoch := by
  rcases advanceEpoch_eq_ok hadvance with
    ⟨-, rfl, -, rfl⟩ | ⟨current, prior, -, -, rfl, -, rfl⟩
  · refine ⟨?_, rfl, AList.lookup_insert _⟩
    exact h.of_bindings rfl rfl (fun _ hmission => hmission) fun _ => isSome_lookup_insert
  · refine ⟨?_, rfl, AList.lookup_insert _⟩
    exact h.of_bindings (map_updateWhere fun _ => rfl) (map_updateWhere fun _ => rfl)
      (fun _ hmission => hmission) fun _ => isSome_lookup_insert

variable {mission : MissionRow} {row : BindingRow} {activates : Bool}

theorem Binds.missions (hbinds : Binds database fenced mission row activates)
    (h : Keyed database) : fenced.missions = database.missions := by
  obtain ⟨predecessor, hadvance⟩ := hbinds.advance
  exact (h.advanceEpoch hadvance).2.1

theorem Keyed.insert (h : Keyed database)
    (hfresh : ∀ binding ∈ database.bindings, binding.bindingId ≠ row.bindingId)
    (hmission : (database.missions.lookup row.missionId).isSome)
    (hfenced : (database.fencing.lookup (row.missionId, row.ocsId)).isSome) :
    Keyed { database with bindings := database.bindings ++ [row] } := by
  constructor
  case ids =>
    have hnew : row.bindingId ∉ database.bindings.map (·.bindingId) := by
      intro hmem
      obtain ⟨binding, hbinding, hid⟩ := List.mem_map.mp hmem
      exact hfresh binding hbinding hid
    rw [List.map_append, List.map_singleton]
    exact List.Nodup.append h.ids (List.nodup_singleton _)
      (List.disjoint_singleton.mpr hnew)
  case missions =>
    intro binding hbinding
    rcases List.mem_append.mp hbinding with hold | hrow
    · exact h.missions binding hold
    · rw [List.mem_singleton.mp hrow]
      exact hmission
  case fenced =>
    intro binding hbinding
    rcases List.mem_append.mp hbinding with hold | hrow
    · exact h.fenced binding hold
    · rw [List.mem_singleton.mp hrow]
      exact hfenced

theorem Binds.keyed (hbinds : Binds database fenced mission row activates)
    (h : Keyed database) : Keyed { fenced with bindings := fenced.bindings ++ [row] } := by
  obtain ⟨predecessor, hadvance⟩ := hbinds.advance
  obtain ⟨hfenced, hmissions, hepoch⟩ := h.advanceEpoch hadvance
  apply hfenced.insert hbinds.fresh
  · rw [hmissions, hbinds.found]
    rfl
  · rw [hepoch]
    rfl

/-- Every change keeps the keys. -/
theorem Keyed.change (h : Keyed database) {rule : Rule}
    (hchange : Change rule database after) : Keyed after := by
  cases hchange with
  | same => exact h
  | created hnew =>
    exact h.of_bindings rfl rfl (fun _ => isSome_lookup_insert) fun _ hkey => hkey
  | @bound fenced mission row activates _ hbinds =>
    cases activates with
    | false => exact hbinds.keyed h
    | true =>
      exact (hbinds.keyed h).of_bindings rfl rfl (fun _ => isSome_lookup_insert)
        fun _ hkey => hkey
  | referenced =>
    exact h.of_bindings (map_updateWhere fun _ => rfl) (map_updateWhere fun _ => rfl)
      (fun _ hmission => hmission) fun _ hkey => hkey
  | issued => exact h.of_bindings rfl rfl (fun _ hmission => hmission) fun _ hkey => hkey
  | accepted =>
    apply h.of_bindings
    · simp only [Trial.accepted, quiesce, updateMission,
        updateBinding]
      rw [map_updateWhere, map_updateWhere] <;> exact fun _ => rfl
    · simp only [Trial.accepted, quiesce, updateMission,
        updateBinding]
      rw [map_updateWhere, map_updateWhere] <;> exact fun _ => rfl
    · exact fun _ => isSome_lookup_insert
    · exact fun _ hkey => hkey
  | released =>
    exact h.of_bindings (map_updateWhere fun _ => rfl) (map_updateWhere fun _ => rfl)
      (fun _ => isSome_lookup_insert) fun _ hkey => hkey

/-! ## The active pointer -/

theorem SingleActive.congr (h : SingleActive database)
    (hsame : database.SameStanding after) : SingleActive after := by
  intro missionId mission hmission
  rw [hsame.missions] at hmission
  rw [activeBindings, hsame.bindings]
  exact h missionId mission hmission

theorem activeBindings_fence (hkeyed : Keyed database)
    (hprior : prior ∈ database.bindings) (hstatus : prior.status ≠ .active)
    (missionId : String) :
    (database.updateBinding prior.bindingId fun binding =>
      { binding with status := .fenced }).activeBindings missionId =
      database.activeBindings missionId := by
  rw [activeBindings_deactivate rfl (by simp)]
  apply List.filter_eq_self.mpr
  intro binding hbinding
  obtain ⟨hmem, -, hactive⟩ := mem_activeBindings.mp hbinding
  have hne : binding.bindingId ≠ prior.bindingId := by
    intro hid
    rw [hkeyed.eq_of_id hmem hprior hid] at hactive
    exact hstatus hactive
  simp [hne]

variable {active : BindingRow}

theorem activeBindings_fence_only {missionId : String}
    (honly : database.activeBindings missionId = [active]) :
    (database.updateBinding active.bindingId fun binding =>
      { binding with status := .fenced }).activeBindings missionId = [] := by
  rw [activeBindings_deactivate rfl (by simp), honly]
  simp

theorem lookup_updateMission {missionId other : String} {found : MissionRow}
    (h : (database.updateMission missionId mission).missions.lookup other = some found) :
    (other = missionId ∧ found = mission) ∨
      (other ≠ missionId ∧ database.missions.lookup other = some found) := by
  rw [updateMission, Dict.lookup_insert_eq] at h
  by_cases hother : other = missionId
  · rw [if_pos hother] at h
    exact .inl ⟨hother, (Option.some.inj h).symm⟩
  · rw [if_neg hother] at h
    exact .inr ⟨hother, h⟩

theorem SingleActive.exists_active (h : SingleActive database) {missionId instanceId : String} (hmission : database.missions.lookup missionId = some mission)
    (hpointer : mission.activeInstanceId = some instanceId) :
    ∃ active ∈ database.bindings, database.activeBindings missionId = [active] ∧
      active.missionId = missionId ∧ active.instanceId = instanceId ∧
        active.status = .active := by
  have hmap := h missionId mission hmission
  rw [hpointer] at hmap
  obtain ⟨active, hactive, hinstance⟩ := List.map_eq_singleton_iff.mp hmap
  have hmem : active ∈ database.activeBindings missionId := by
    rw [hactive]
    exact List.mem_singleton_self active
  obtain ⟨hbinding, hactiveMission, hstatus⟩ := mem_activeBindings.mp hmem
  exact ⟨active, hbinding, hactive, hactiveMission, hinstance, hstatus⟩

theorem SingleActive.activeBindings_eq_nil (h : SingleActive database) {missionId : String} (hmission : database.missions.lookup missionId = some mission)
    (hpointer : mission.activeInstanceId = none) :
    database.activeBindings missionId = [] := by
  have hmap := h missionId mission hmission
  rw [hpointer] at hmap
  exact List.map_eq_nil_iff.mp hmap

theorem Keyed.activeBindings_eq_nil (h : Keyed database) {missionId : String}
    (hnew : database.missions.lookup missionId = none) :
    database.activeBindings missionId = [] := by
  apply List.eq_nil_iff_forall_not_mem.mpr
  intro binding hbinding
  obtain ⟨hmem, rfl, -⟩ := mem_activeBindings.mp hbinding
  have hsome := h.missions binding hmem
  rw [hnew] at hsome
  cases hsome

theorem SingleActive.created (h : SingleActive database) (hkeyed : Keyed database)
    {missionId : String} {mission : MissionRow}
    (hnew : database.missions.lookup missionId = none)
    (hinstance : mission.activeInstanceId = none) :
    SingleActive (database.updateMission missionId mission) := by
  intro other found hfound
  rcases lookup_updateMission hfound with ⟨rfl, rfl⟩ | ⟨-, hold⟩
  · have hnone : (database.updateMission other found).activeBindings other = [] :=
      hkeyed.activeBindings_eq_nil hnew
    rw [hnone, hinstance]
    rfl
  · exact h other found hold

theorem activeBindings_bound (hkeyed : Keyed database)
    (hdormant : Dormant database row.missionId row.ocsId)
    (hbinds : Binds database fenced mission row activates) (other : String) :
    (Trial.bound fenced mission row activates).activeBindings other =
      database.activeBindings other ++
        if activates = true ∧ row.missionId = other then [row] else [] := by
  obtain ⟨predecessor, hadvance⟩ := hbinds.advance
  have hfenced : fenced.activeBindings other = database.activeBindings other := by
    rcases advanceEpoch_eq_ok hadvance with
      ⟨-, -, -, rfl⟩ | ⟨current, prior, -, hprior, -, -, rfl⟩
    · rfl
    · obtain ⟨hmem, -⟩ := newest_spec hprior
      exact activeBindings_fence hkeyed hmem (hdormant prior hprior) other
  have happend : (Trial.bound fenced mission row activates).bindings =
      fenced.bindings ++ [row] := by
    cases activates <;> rfl
  rw [activeBindings, happend, List.filter_append, ← hfenced,
    activeBindings]
  cases activates <;> by_cases hother : row.missionId = other <;>
    simp [hbinds.status, hother]

theorem SingleActive.bound (h : SingleActive database) (hkeyed : Keyed database)
    {fenced : TrialDatabase} {mission : MissionRow} {row : BindingRow} {activates : Bool}
    (hdormant : Dormant database row.missionId row.ocsId)
    (hbinds : Binds database fenced mission row activates) :
    SingleActive (Trial.bound fenced mission row activates) := by
  have hmissions : fenced.missions = database.missions := hbinds.missions hkeyed
  intro other found hfound
  rw [activeBindings_bound hkeyed hdormant hbinds]
  cases activates with
  | false =>
    rw [if_neg (by simp), List.append_nil]
    exact h other found (hmissions ▸ hfound)
  | true =>
    rcases lookup_updateMission hfound with ⟨rfl, rfl⟩ | ⟨hother, hold⟩
    · rw [h.activeBindings_eq_nil hbinds.found (hbinds.idle rfl), if_pos ⟨rfl, rfl⟩]
      rfl
    · rw [if_neg fun hboth => hother hboth.2.symm, List.append_nil]
      exact h other found (hmissions ▸ hold)

theorem map_activeBindings_referenced {column : BindingRow → String}
    (hcolumn : ∀ binding ref, column { binding with checkpointRef := ref } = column binding)
    (bindingId checkpointRef other : String) :
    ((database.updateBinding bindingId fun binding =>
      { binding with checkpointRef := some checkpointRef }).activeBindings other).map
        column = (database.activeBindings other).map column := by
  simp only [activeBindings, updateBinding]
  rw [filter_updateWhere, map_updateWhere]
  · exact fun binding => hcolumn binding _
  · exact fun _ _ _ => rfl

theorem SingleActive.referenced (h : SingleActive database)
    (bindingId checkpointRef : String) :
    SingleActive (database.updateBinding bindingId fun binding =>
      { binding with checkpointRef := some checkpointRef }) := by
  intro other found hfound
  rw [map_activeBindings_referenced fun _ _ => rfl]
  exact h other found hfound

theorem activeBindings_filter_of_ne {missionId other : String} {chosen : BindingRow → Bool}
    (hchosen : ∀ binding ∈ database.bindings, chosen binding = true →
      binding.missionId = missionId) (hother : other ≠ missionId) :
    ((database.activeBindings other).filter fun binding => !chosen binding) =
      database.activeBindings other := by
  apply List.filter_eq_self.mpr
  intro binding hbinding
  obtain ⟨hmem, hmission, -⟩ := mem_activeBindings.mp hbinding
  rw [Bool.not_eq_true']
  by_contra hchose
  rw [Bool.not_eq_false] at hchose
  exact hother (hmission.symm.trans (hchosen binding hmem hchose))

theorem SingleActive.activeBindings_released (h : SingleActive database)
    {missionId : String}
    (hmission : database.missions.lookup missionId = some mission)
    (hactive : database.instanceBindings missionId (mission.activeInstanceId.getD "") =
      [active]) :
    (Trial.released database missionId mission active).activeBindings missionId = [] := by
  cases hpointer : mission.activeInstanceId with
  | none =>
    have hnone := h.activeBindings_eq_nil hmission hpointer
    have hdrops : (Trial.released database missionId mission active).activeBindings
        missionId = (database.activeBindings missionId).filter fun binding =>
          !decide (binding.bindingId = active.bindingId) :=
      activeBindings_deactivate rfl (by simp) missionId
    rw [hdrops, hnone]
    rfl
  | some instanceId =>
    obtain ⟨found, hfound, honly, hfoundMission, hinstance, -⟩ :=
      h.exists_active hmission hpointer
    have hmem : found ∈ database.instanceBindings missionId
        (mission.activeInstanceId.getD "") := by
      rw [hpointer]
      exact List.mem_filter.mpr ⟨hfound, decide_eq_true ⟨hfoundMission, hinstance⟩⟩
    rw [hactive, List.mem_singleton] at hmem
    rw [hmem] at honly
    exact activeBindings_fence_only honly

theorem activeBindings_released_of_ne (hkeyed : Keyed database) {missionId other : String}
    (hactive : database.instanceBindings missionId (mission.activeInstanceId.getD "") =
      [active]) (hother : other ≠ missionId) :
    (Trial.released database missionId mission active).activeBindings other =
      database.activeBindings other := by
  have hdrops : (Trial.released database missionId mission active).activeBindings other =
      (database.activeBindings other).filter fun binding =>
        !decide (binding.bindingId = active.bindingId) :=
    activeBindings_deactivate rfl (by simp) other
  have hmem : active ∈ database.instanceBindings missionId
      (mission.activeInstanceId.getD "") := by
    rw [hactive]
    exact List.mem_singleton_self active
  obtain ⟨hbinding, hkey⟩ := List.mem_filter.mp hmem
  rw [hdrops, activeBindings_filter_of_ne _ hother]
  intro binding hchosen hid
  rw [hkeyed.eq_of_id hchosen hbinding (of_decide_eq_true hid)]
  exact (of_decide_eq_true hkey).1

theorem SingleActive.released (h : SingleActive database) (hkeyed : Keyed database)
    {missionId : String} {mission : MissionRow} {active : BindingRow}
    (hmission : database.missions.lookup missionId = some mission)
    (hactive : database.instanceBindings missionId (mission.activeInstanceId.getD "") =
      [active]) :
    SingleActive (Trial.released database missionId mission active) := by
  intro other found hfound
  rcases lookup_updateMission hfound with ⟨rfl, rfl⟩ | ⟨hother, hold⟩
  · rw [h.activeBindings_released hmission hactive]
    rfl
  · rw [activeBindings_released_of_ne hkeyed hactive hother]
    exact h other found hold

theorem activeBindings_quiesce (missionId instanceId other : String) :
    (quiesce database missionId instanceId).activeBindings other =
      (database.activeBindings other).filter fun binding =>
        !decide (binding.missionId = missionId ∧ binding.instanceId = instanceId) :=
  activeBindings_deactivate rfl (by simp) other

section Activate

variable {moved : BindingRow} {bindingId missionId other : String}

theorem activeBindings_activate (hids : (database.bindings.map (·.bindingId)).Nodup)
    (hmoved : moved ∈ database.bindings) (hid : moved.bindingId = bindingId)
    (hmission : moved.missionId = missionId)
    (hnone : database.activeBindings missionId = []) :
    (database.updateBinding bindingId fun binding =>
      { binding with status := .active }).activeBindings missionId =
        [{ moved with status := .active }] := by
  subst hid hmission
  have hjoins : decide (moved.missionId = moved.missionId ∧
      BindingStatus.active = .active) = true := by simp
  exact filter_updateWhere_of_joins hids hmoved hjoins hnone

theorem activeBindings_activate_of_ne (hids : (database.bindings.map (·.bindingId)).Nodup)
    (hmoved : moved ∈ database.bindings) (hid : moved.bindingId = bindingId)
    (hother : other ≠ moved.missionId) :
    (database.updateBinding bindingId fun binding =>
      { binding with status := .active }).activeBindings other =
        database.activeBindings other := by
  have hmission (binding : BindingRow) (hbinding : binding ∈ database.bindings)
      (hchosen : decide (binding.bindingId = bindingId) = true) :
      binding.missionId ≠ other := by
    have heq : binding = moved := List.inj_on_of_nodup_map hids hbinding hmoved
      ((of_decide_eq_true hchosen).trans hid.symm)
    rw [heq]
    exact hother.symm
  rw [activeBindings, updateBinding, filter_updateWhere]
  · apply updateWhere_of_none_chosen
    intro binding hbinding
    obtain ⟨hmem, hkey⟩ := List.mem_filter.mp hbinding
    by_contra hchosen
    rw [Bool.not_eq_false] at hchosen
    exact hmission binding hmem hchosen (of_decide_eq_true hkey).1
  · intro binding hbinding hchosen
    simp [hmission binding hbinding hchosen]

end Activate

/-- An accepted handoff makes its target the mission's only active binding. -/
theorem SingleActive.activeBindings_accepted (h : SingleActive database)
    (hkeyed : Keyed database) {missionId handoffId : String}
    {target : BindingRow} {row closed : HandoffRow}
    (hmission : database.missions.lookup missionId = some mission)
    (hsource : mission.activeInstanceId = some row.sourceInstanceId)
    (htarget : (database.instanceBindings missionId row.targetInstanceId).filter
      (fun binding => binding.status = .bound) = [target]) :
    (∃ active, active.ocsId = target.ocsId ∧ active.instanceId = row.targetInstanceId ∧
      (Trial.accepted database missionId handoffId mission target row
        closed).activeBindings missionId = [active]) ∧
      ∀ other, other ≠ missionId →
        (Trial.accepted database missionId handoffId mission target row
          closed).activeBindings other = database.activeBindings other := by
  have hmem : target ∈ (database.instanceBindings missionId row.targetInstanceId).filter
      fun binding => binding.status = .bound := by
    rw [htarget]
    exact List.mem_singleton_self target
  obtain ⟨hinstance, -⟩ := List.mem_filter.mp hmem
  obtain ⟨hbinding, hkey⟩ := List.mem_filter.mp hinstance
  obtain ⟨htargetMission, htargetInstance⟩ := of_decide_eq_true hkey
  have hids : ((quiesce database missionId row.sourceInstanceId).bindings.map
      (·.bindingId)).Nodup := by
    have hsame : (quiesce database missionId row.sourceInstanceId).bindings.map
        (·.bindingId) = database.bindings.map (·.bindingId) := map_updateWhere fun _ => rfl
    rw [hsame]
    exact hkeyed.ids
  -- the target may be one of the source's own bindings, and then is QUIESCENT in between
  obtain ⟨moved, hmoved, hmovedIs⟩ :
      ∃ moved ∈ (quiesce database missionId row.sourceInstanceId).bindings,
        moved = target ∨ moved = { target with status := .quiescent } :=
    exists_mem_updateWhere hbinding
  have hmovedId : moved.bindingId = target.bindingId := by
    rcases hmovedIs with rfl | rfl <;> rfl
  have hmovedMission : moved.missionId = missionId := by
    rcases hmovedIs with rfl | rfl <;> exact htargetMission
  constructor
  · have hnone : (quiesce database missionId row.sourceInstanceId).activeBindings
        missionId = [] := by
      obtain ⟨active, -, honly, hactiveMission, hactiveInstance, -⟩ :=
        h.exists_active hmission hsource
      rw [activeBindings_quiesce, honly]
      simp [hactiveMission, hactiveInstance]
    refine ⟨{ moved with status := .active }, ?_, ?_,
      activeBindings_activate hids hmoved hmovedId hmovedMission hnone⟩
    · rcases hmovedIs with rfl | rfl <;> rfl
    · rcases hmovedIs with rfl | rfl <;> exact htargetInstance
  · intro other hother
    have hstays : (Trial.accepted database missionId handoffId mission target row
        closed).activeBindings other =
          (quiesce database missionId row.sourceInstanceId).activeBindings other :=
      activeBindings_activate_of_ne hids hmoved hmovedId (hmovedMission.symm ▸ hother)
    rw [hstays, activeBindings_quiesce, activeBindings_filter_of_ne _ hother]
    exact fun binding _ hchosen => (of_decide_eq_true hchosen).1

theorem SingleActive.accepted (h : SingleActive database) (hkeyed : Keyed database)
    {missionId handoffId : String} {mission : MissionRow} {target : BindingRow}
    {row closed : HandoffRow}
    (hmission : database.missions.lookup missionId = some mission)
    (hsource : mission.activeInstanceId = some row.sourceInstanceId)
    (htarget : (database.instanceBindings missionId row.targetInstanceId).filter
      (fun binding => binding.status = .bound) = [target]) :
    SingleActive (Trial.accepted database missionId handoffId mission target row closed) := by
  obtain ⟨⟨active, -, hinstance, honly⟩, hothers⟩ :=
    h.activeBindings_accepted hkeyed hmission hsource htarget
  intro other found hfound
  rcases lookup_updateMission hfound with ⟨rfl, rfl⟩ | ⟨hother, hold⟩
  · rw [honly, List.map_singleton, hinstance]
    rfl
  · rw [hothers other hother]
    exact h other found hold

/-! ## Runs -/

/-- The rule under which the two records of the active instance agree. -/
def dormantBinds : Rule := ⟨Dormant, fun _ _ => True⟩

theorem SingleActive.change (h : SingleActive database) (hkeyed : Keyed database)
    {rule : Rule} (hrule : ∀ missionId ocsId, rule.binds database missionId ocsId →
      Dormant database missionId ocsId)
    (hchange : Change rule database after) : SingleActive after := by
  cases hchange with
  | same => exact h
  | created hnew _ hinstance => exact h.created hkeyed hnew hinstance
  | bound hbinds hbound => exact h.bound hkeyed (hrule _ _ hbinds) hbound
  | referenced bindingId checkpointRef => exact h.referenced bindingId checkpointRef
  | issued => exact h
  | accepted _ _ hmission _ _ _ hsource htarget =>
    exact h.accepted hkeyed hmission hsource htarget
  | released hmission _ hactive => exact h.released hkeyed hmission hactive

theorem singleActive_changes (h : Keyed database ∧ SingleActive database)
    (hchanges : Changes dormantBinds database after) :
    Keyed after ∧ SingleActive after := by
  obtain ⟨middle, hchange, hsame⟩ := hchanges
  have hsingle : SingleActive middle := h.2.change h.1 (fun _ _ hdormant => hdormant) hchange
  exact ⟨(h.1.change hchange).congr hsame, hsingle.congr hsame⟩

/-- The call is no accepted bind to an OCS whose newest binding is the active one. -/
def BindsDormant (canonicalHash : Value → String) (database : TrialDatabase) :
    TrialOp → Prop
  | .bind missionId ocsId instanceId authorityRef activateIfEmpty now =>
    (∃ result, Trial.bind canonicalHash missionId ocsId instanceId authorityRef
      activateIfEmpty now database = .ok result) → Dormant database missionId ocsId
  | _ => True

theorem dormant_of_activeBindings {missionId : String}
    (h : database.activeBindings missionId = []) (ocsId : String) :
    Dormant database missionId ocsId := by
  intro prior hprior hactive
  obtain ⟨hmem, hmission, -⟩ := newest_spec hprior
  have hlisted : prior ∈ database.activeBindings missionId :=
    mem_activeBindings.mpr ⟨hmem, hmission, hactive⟩
  rw [h] at hlisted
  cases hlisted

theorem dormant_of_release (h : SingleActive database) {missionId activeInstance : String}
    (hrelease : release missionId ocsId database = .ok (after, activeInstance)) :
    Dormant after missionId ocsId := by
  obtain ⟨mission, active, hmission, -, hactive, rfl⟩ := release_spec hrelease
  exact dormant_of_activeBindings (h.activeBindings_released hmission hactive) ocsId

/-- A bind that fences the active binding leaves the mission's pointer without one. -/
theorem SingleActive.fences_active (h : SingleActive database) (hkeyed : Keyed database) (hbinds : Binds database fenced mission row activates)
    (hprior : database.newest row.missionId row.ocsId = some prior)
    (hactive : prior.status = .active) :
    activates = false ∧ database.activeBindings row.missionId = [prior] ∧
      mission.activeInstanceId = some prior.instanceId ∧
        (Trial.bound fenced mission row activates).activeBindings row.missionId = [] := by
  obtain ⟨hmem, hmission, hocs, -⟩ := newest_spec hprior
  have hlisted : prior ∈ database.activeBindings row.missionId :=
    mem_activeBindings.mpr ⟨hmem, hmission, hactive⟩
  cases hpointer : mission.activeInstanceId with
  | none =>
    rw [h.activeBindings_eq_nil hbinds.found hpointer] at hlisted
    cases hlisted
  | some instanceId =>
    obtain ⟨active, -, honly, -, rfl, -⟩ := h.exists_active hbinds.found hpointer
    rw [honly, List.mem_singleton] at hlisted
    subst hlisted
    have hkept : activates = false := by
      rw [Bool.eq_false_iff]
      intro hactivates
      rw [hbinds.idle hactivates] at hpointer
      cases hpointer
    subst hkept
    obtain ⟨predecessor, hadvance⟩ := hbinds.advance
    have hnone : fenced.activeBindings row.missionId = [] := by
      rcases advanceEpoch_eq_ok hadvance with
        ⟨hunfenced, -⟩ | ⟨current, found, -, hfound, -, -, rfl⟩
      · have hsome := hkeyed.fenced prior hmem
        rw [hmission, hocs, hunfenced] at hsome
        cases hsome
      · rw [Option.some.inj (hfound.symm.trans hprior)]
        exact activeBindings_fence_only honly
    have happend : (Trial.bound fenced mission row false).activeBindings row.missionId =
        fenced.activeBindings row.missionId ++ [row].filter fun binding =>
          binding.missionId = row.missionId ∧ binding.status = .active :=
      List.filter_append ..
    refine ⟨rfl, honly, rfl, ?_⟩
    rw [happend, hnone]
    simp [hbinds.status]

theorem dormant_of_bound (h : SingleActive database) (hkeyed : Keyed database)
    (hbinds : Binds database fenced mission row activates)
    (hafter : SingleActive (Trial.bound fenced mission row activates)) :
    Dormant database row.missionId row.ocsId := by
  intro prior hprior hactive
  obtain ⟨rfl, -, hpointer, hnone⟩ := h.fences_active hkeyed hbinds hprior hactive
  have hmissions : fenced.missions = database.missions := hbinds.missions hkeyed
  have hend := hafter row.missionId mission (hmissions ▸ hbinds.found)
  rw [hnone, hpointer] at hend
  cases hend

/-- The mission's row and its bindings agree on the active instance at every instant of
a run just if no bind of the run is to an OCS whose newest binding is the active one. -/
theorem always_singleActive_iff (canonicalHash : Value → String) (ops : List TrialOp) :
    (∀ before, before <+: ops →
      SingleActive (run (perform canonicalHash) .empty before)) ↔
      Admissible (perform canonicalHash) (BindsDormant canonicalHash) .empty ops := by
  apply always_iff_admissible fun database => Keyed database ∧ SingleActive database
  · intro database op h hallowed
    apply perform_induction singleActive_changes h
    cases op with
    | bind => exact hallowed
    | acceptHandoff => exact fun _ _ _ _ _ => trivial
    | recover => exact fun after activeInstance hrelease => dormant_of_release h.2 hrelease
    | _ => trivial
  · exact fun database h => h.2
  · intro database op h hafter
    cases op with
    | bind missionId ocsId instanceId authorityRef activateIfEmpty now =>
      rintro ⟨⟨after, answer⟩, hok⟩
      obtain ⟨fenced, mission, row, activates, rfl, rfl, -, -, hbinds, hsame⟩ :=
        bind_spec hok
      have hleaves : SingleActive after := by
        simpa only [perform, Transaction.leaves, hok] using hafter
      exact dormant_of_bound h.2 h.1 hbinds (hleaves.congr hsame.symm)
    | _ => trivial
  · exact ⟨⟨List.nodup_nil, by simp [empty], by simp [empty]⟩,
      by simp [SingleActive, empty]⟩

/-! ### A bind to the active OCS -/

/-- A digest that joins the texts of an object's fields. -/
def textDigest : Value → String
  | .object fields => String.join (fields.map fun field =>
    match field.2 with
    | .string text => text
    | .number text => text
    | _ => "")
  | _ => ""

/-- A clock whose readings all name the transaction. -/
def clockAt (transaction : String) : ℕ → String := fun _ => transaction

/-- SOFIA is active, and then bound once more. -/
def reboundOps : List TrialOp :=
  [.createMission "m-001" "state:m-001" "gate-1" 3 (clockAt "t1"),
    .bind "m-001" "SOFIA" "sofia-1" "authority-1" true (clockAt "t2"),
    .bind "m-001" "SOFIA" "sofia-2" "authority-1" false (clockAt "t3")]

/-- What the run leaves. -/
def rebound : TrialDatabase := run (perform textDigest) .empty reboundOps

/-- After the second bind the mission names an active instance and no binding is
active. -/
theorem rebound_not_singleActive :
    ¬ ∀ before, before <+: reboundOps →
      SingleActive (run (perform textDigest) .empty before) := by
  intro h
  have hactive : SingleActive rebound := h reboundOps List.prefix_rfl
  have hnone : rebound.activeBindings "m-001" = [] := by decide +kernel
  obtain ⟨mission, hmission, hpointer⟩ := Option.map_eq_some_iff.mp
    (show (rebound.missions.lookup "m-001").map (·.activeInstanceId) =
      some (some "sofia-1") by decide +kernel)
  have hpair := hactive "m-001" mission hmission
  rw [hnone, hpointer] at hpair
  cases hpair

end ReisOs.Trial
