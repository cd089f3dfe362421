import ReisOs.Trial.SingleActive

/-!
# Fenced writes

`write_state` accepts an instance by the mission's row and an epoch by the fencing
table; it never reads the instance's own binding.  The three tables agree, and every
accepted write is made under the writer's own active binding at its own epoch, along
every run that neither binds anew to the active OCS nor accepts a handoff whose target
has meanwhile been bound elsewhere.
-/

namespace ReisOs.Trial

open ReisOs.Core

variable {database after : TrialDatabase}

/-- The writer's own binding is the mission's active one, for the OCS it writes as and at
the epoch it quotes, and no newer epoch has been issued. -/
def HoldsEpoch (database : TrialDatabase) (missionId ocsId instanceId : String) (epoch : ℤ) :
    Prop :=
  ∃ binding, database.activeBindings missionId = [binding] ∧ binding.ocsId = ocsId ∧
    binding.instanceId = instanceId ∧ (binding.fencingEpoch : ℤ) = epoch ∧
      database.fencing.lookup (missionId, ocsId) = some binding.fencingEpoch

/-- Whoever `write_state` lets through holds the epoch it quotes. -/
def WritesFenced (database : TrialDatabase) : Prop :=
  ∀ missionId ocsId instanceId epoch namespaceKey,
    database.writeDenialReason missionId ocsId instanceId epoch namespaceKey = .ok none →
    HoldsEpoch database missionId ocsId instanceId epoch

variable {missionId ocsId : String}

theorem writeDenialReason_eq_none {instanceId namespaceKey : String}
    {epoch : ℤ} :
    database.writeDenialReason missionId ocsId instanceId epoch namespaceKey = .ok none ↔
      ∃ mission current, database.missions.lookup missionId = some mission ∧
        mission.activeOcsId = some ocsId ∧ mission.activeInstanceId = some instanceId ∧
        (stateNamespace missionId ocsId).toList.isPrefixOf namespaceKey.toList = true ∧
        database.fencing.lookup (missionId, ocsId) = some current ∧
          (current : ℤ) = epoch := by
  constructor
  · intro h
    unfold TrialDatabase.writeDenialReason at h
    obtain ⟨mission, hmission, h⟩ := bind_eq_ok h
    split at h
    · cases h
    · rename_i hpointer
      rw [not_or, not_not, not_not] at hpointer
      split at h
      · cases h
      · rename_i hnamespace
        split at h
        · cases h
        · rename_i current hcurrent
          split at h
          · cases h
          · rename_i hepoch
            exact ⟨mission, current, TrialDatabase.mission_eq_ok hmission, hpointer.1,
              hpointer.2, by simpa using hnamespace, hcurrent, not_not.mp hepoch⟩
  · rintro ⟨mission, current, hmission, hocs, hinstance, hnamespace, hcurrent, hepoch⟩
    have hfound : database.mission missionId = .ok mission := by
      rw [TrialDatabase.mission, hmission]
    have hpointer : ¬ (mission.activeOcsId ≠ some ocsId ∨
        mission.activeInstanceId ≠ some instanceId) := by
      simp [hocs, hinstance]
    have hkey : ¬ (!(stateNamespace missionId ocsId).toList.isPrefixOf
        namespaceKey.toList) = true := by
      simp only [hnamespace, Bool.not_true, Bool.false_eq_true, not_false_iff]
    rw [TrialDatabase.writeDenialReason, hfound]
    simp only [Bind.bind, Except.bind]
    rw [if_neg hpointer, if_neg hkey, hcurrent]
    exact if_neg (not_not.mpr hepoch)

/-- A binding that may still become or be the active one. -/
def BindingRow.Live (binding : BindingRow) : Prop :=
  binding.status = .bound ∨ binding.status = .active

/-- Generations and epochs of the bindings count up together, and what is live is of the
newest epoch. -/
structure Generations (database : TrialDatabase) : Prop where
  keyed : Keyed database
  numbered : ∀ binding ∈ database.bindings, binding.generation = binding.fencingEpoch
  bounded : ∀ binding ∈ database.bindings, ∀ epoch,
    database.fencing.lookup (binding.missionId, binding.ocsId) = some epoch →
    binding.generation ≤ epoch
  current : ∀ missionId ocsId epoch,
    database.fencing.lookup (missionId, ocsId) = some epoch →
    ∃ binding ∈ database.bindings, binding.missionId = missionId ∧
      binding.ocsId = ocsId ∧ binding.generation = epoch
  distinct : ∀ left ∈ database.bindings, ∀ right ∈ database.bindings,
    left.missionId = right.missionId → left.ocsId = right.ocsId →
    left.generation = right.generation → left.bindingId = right.bindingId
  live : ∀ binding ∈ database.bindings, binding.Live →
    database.fencing.lookup (binding.missionId, binding.ocsId) = some binding.fencingEpoch

/-- The columns of a binding that no update sets. -/
structure SameBinding (old new : BindingRow) : Prop where
  bindingId : new.bindingId = old.bindingId
  missionId : new.missionId = old.missionId
  ocsId : new.ocsId = old.ocsId
  generation : new.generation = old.generation
  fencingEpoch : new.fencingEpoch = old.fencingEpoch

theorem SameBinding.refl (binding : BindingRow) : SameBinding binding binding :=
  ⟨rfl, rfl, rfl, rfl, rfl⟩

/-- The bindings are the same ones, and those that are live were so before. -/
structure Descends (database after : TrialDatabase) : Prop where
  origin : ∀ binding ∈ after.bindings, ∃ old ∈ database.bindings,
    SameBinding old binding ∧ (binding.Live → old.Live)
  kept : ∀ old ∈ database.bindings, ∃ binding ∈ after.bindings, SameBinding old binding

theorem Descends.of_updateWhere {chosen : BindingRow → Bool}
    {change : BindingRow → BindingRow}
    (hbindings : after.bindings = updateWhere chosen change database.bindings)
    (hsame : ∀ binding, SameBinding binding (change binding))
    (hlive : ∀ binding ∈ database.bindings, chosen binding = true →
      (change binding).Live → binding.Live) : Descends database after where
  origin binding hbinding := by
    rw [hbindings] at hbinding
    rcases mem_updateWhere.mp hbinding with ⟨old, hold, hchosen, rfl⟩ | ⟨hold, -⟩
    · exact ⟨old, hold, hsame old, hlive old hold hchosen⟩
    · exact ⟨binding, hold, .refl binding, id⟩
  kept old hold := by
    have hupdated : ∃ updated ∈ after.bindings, updated = old ∨ updated = change old := by
      rw [hbindings]
      exact exists_mem_updateWhere hold
    obtain ⟨updated, hmem, rfl | rfl⟩ := hupdated
    · exact ⟨updated, hmem, .refl updated⟩
    · exact ⟨change old, hmem, hsame old⟩

theorem Descends.of_bindings (h : after.bindings = database.bindings) :
    Descends database after where
  origin binding hbinding := ⟨binding, h ▸ hbinding, .refl binding, id⟩
  kept old hold := ⟨old, h.symm ▸ hold, .refl old⟩

theorem Descends.of_status {chosen : BindingRow → Bool} {status : BindingStatus}
    (hbindings : after.bindings = updateWhere chosen
      (fun binding => { binding with status := status }) database.bindings)
    (hstatus : status ≠ .bound ∧ status ≠ .active) : Descends database after := by
  apply Descends.of_updateWhere hbindings
  · exact fun binding => ⟨rfl, rfl, rfl, rfl, rfl⟩
  · rintro binding - - (hbound | hactive)
    · exact absurd hbound hstatus.1
    · exact absurd hactive hstatus.2

/-- An accepted handoff revives no binding: its target was BOUND. -/
theorem Descends.accepted (hkeyed : Keyed database) {missionId handoffId : String}
    {mission : MissionRow} {target : BindingRow} {row closed : HandoffRow}
    (htarget : (database.instanceBindings missionId row.targetInstanceId).filter
      (fun binding => binding.status = .bound) = [target]) :
    Descends database
      (Trial.accepted database missionId handoffId mission target row closed) := by
  have hmem : target ∈ (database.instanceBindings missionId row.targetInstanceId).filter
      fun binding => binding.status = .bound := by
    rw [htarget]
    exact List.mem_singleton_self target
  obtain ⟨hinstance, hbound⟩ := List.mem_filter.mp hmem
  have hbinding := (List.mem_filter.mp hinstance).1
  have hquiesced : Descends database (quiesce database missionId row.sourceInstanceId) :=
    .of_status rfl (by simp)
  constructor
  · intro binding hafter
    rcases mem_updateWhere.mp hafter with ⟨moved, hmoved, hid, rfl⟩ | ⟨hmoved, -⟩
    · obtain ⟨old, hold, hsame, -⟩ := hquiesced.origin moved hmoved
      have heq : old = target := hkeyed.eq_of_id hold hbinding
        (hsame.bindingId.symm.trans (of_decide_eq_true hid))
      refine ⟨old, hold, ⟨hsame.bindingId, hsame.missionId, hsame.ocsId,
        hsame.generation, hsame.fencingEpoch⟩, fun _ => .inl ?_⟩
      rw [heq]
      exact of_decide_eq_true hbound
    · exact hquiesced.origin binding hmoved
  · intro old hold
    obtain ⟨moved, hmoved, hsame⟩ := hquiesced.kept old hold
    obtain ⟨binding, hbinding', rfl | rfl⟩ := exists_mem_updateWhere hmoved
    · exact ⟨binding, hbinding', hsame⟩
    · exact ⟨_, hbinding', ⟨hsame.bindingId, hsame.missionId, hsame.ocsId,
        hsame.generation, hsame.fencingEpoch⟩⟩

theorem Generations.of_descends (h : Generations database) (hkeyed : Keyed after)
    (hdescends : Descends database after) (hfencing : after.fencing = database.fencing) :
    Generations after := by
  constructor
  case keyed => exact hkeyed
  case numbered =>
    intro binding hbinding
    obtain ⟨old, hold, hsame, -⟩ := hdescends.origin binding hbinding
    rw [hsame.generation, hsame.fencingEpoch]
    exact h.numbered old hold
  case bounded =>
    intro binding hbinding epoch hepoch
    obtain ⟨old, hold, hsame, -⟩ := hdescends.origin binding hbinding
    rw [hsame.generation]
    rw [hfencing, hsame.missionId, hsame.ocsId] at hepoch
    exact h.bounded old hold epoch hepoch
  case current =>
    intro missionId ocsId epoch hepoch
    rw [hfencing] at hepoch
    obtain ⟨old, hold, rfl, rfl, rfl⟩ := h.current missionId ocsId epoch hepoch
    obtain ⟨binding, hbinding, hsame⟩ := hdescends.kept old hold
    exact ⟨binding, hbinding, hsame.missionId, hsame.ocsId, hsame.generation⟩
  case distinct =>
    intro left hleft right hright hmission hocs hgeneration
    obtain ⟨oldLeft, holdLeft, hsameLeft, -⟩ := hdescends.origin left hleft
    obtain ⟨oldRight, holdRight, hsameRight, -⟩ := hdescends.origin right hright
    rw [hsameLeft.missionId, hsameRight.missionId] at hmission
    rw [hsameLeft.ocsId, hsameRight.ocsId] at hocs
    rw [hsameLeft.generation, hsameRight.generation] at hgeneration
    rw [hsameLeft.bindingId, hsameRight.bindingId]
    exact h.distinct oldLeft holdLeft oldRight holdRight hmission hocs hgeneration
  case live =>
    intro binding hbinding hlive
    obtain ⟨old, hold, hsame, hwasLive⟩ := hdescends.origin binding hbinding
    rw [hfencing, hsame.missionId, hsame.ocsId, hsame.fencingEpoch]
    exact h.live old hold (hwasLive hlive)

theorem Generations.congr (h : Generations database) (hsame : database.SameStanding after) :
    Generations after := by
  apply h.of_descends (h.keyed.congr hsame) ?_ hsame.fencing
  constructor
  · intro binding hbinding
    rw [hsame.bindings] at hbinding
    exact ⟨binding, hbinding, .refl binding, id⟩
  · intro old hold
    rw [← hsame.bindings] at hold
    exact ⟨old, hold, .refl old⟩

theorem Generations.newest_generation (h : Generations database)
    {prior : BindingRow} {epoch : ℕ} (hprior : database.newest missionId ocsId = some prior)
    (hepoch : database.fencing.lookup (missionId, ocsId) = some epoch) :
    prior.generation = epoch := by
  obtain ⟨hmem, rfl, rfl, hnewest⟩ := newest_spec hprior
  obtain ⟨binding, hbinding, hmission, hocs, rfl⟩ := h.current _ _ epoch hepoch
  have hle : binding.generation ≤ prior.generation := hnewest binding hbinding hmission hocs
  have hge : prior.generation ≤ binding.generation := h.bounded prior hmem _ hepoch
  omega

theorem Generations.not_live_fenced (h : Generations database)
    {prior binding : BindingRow} {epoch : ℕ}
    (hprior : database.newest missionId ocsId = some prior)
    (hepoch : database.fencing.lookup (missionId, ocsId) = some epoch)
    (hbinding : binding ∈ (database.updateBinding prior.bindingId fun binding =>
      { binding with status := .fenced }).bindings)
    (hmission : binding.missionId = missionId) (hocs : binding.ocsId = ocsId) :
    ¬ binding.Live := by
  intro hlive
  obtain ⟨hmem, hpriorMission, hpriorOcs, -⟩ := newest_spec hprior
  rcases mem_updateWhere.mp hbinding with ⟨old, -, -, rfl⟩ | ⟨hold, hother⟩
  · rcases hlive with hbound | hactive
    · cases hbound
    · cases hactive
  · have hlookup := h.live binding hold hlive
    rw [hmission, hocs, hepoch] at hlookup
    have hgeneration : binding.generation = prior.generation := by
      rw [h.numbered binding hold, h.newest_generation hprior hepoch]
      exact (Option.some.inj hlookup).symm
    have hid : binding.bindingId = prior.bindingId :=
      h.distinct binding hold prior hmem (hmission.trans hpriorMission.symm)
        (hocs.trans hpriorOcs.symm) hgeneration
    simp [hid] at hother

/-- What the epoch step of a bind leaves: nothing of the OCS is live, and everything is of
an earlier generation than the one to come. -/
structure Superseded (database fenced : TrialDatabase) (missionId ocsId : String)
    (epoch : ℕ) : Prop where
  descends : Descends database fenced
  fencing : fenced.fencing = database.fencing.insert (missionId, ocsId) epoch
  earlier : ∀ binding ∈ fenced.bindings, binding.missionId = missionId →
    binding.ocsId = ocsId → ¬ binding.Live ∧ binding.generation < epoch

variable {fenced : TrialDatabase}

theorem Generations.advanceEpoch (h : Generations database) {epoch generation : ℕ} {predecessor : Option String}
    (hadvance : database.advanceEpoch missionId ocsId =
      .ok (fenced, epoch, generation, predecessor)) :
    generation = epoch ∧ Superseded database fenced missionId ocsId epoch := by
  rcases advanceEpoch_eq_ok hadvance with
    ⟨hnone, rfl, rfl, rfl⟩ | ⟨current, prior, hcurrent, hprior, rfl, rfl, rfl⟩
  · refine ⟨rfl, ?_, rfl, ?_⟩
    · exact ⟨fun binding hbinding => ⟨binding, hbinding, .refl binding, id⟩,
        fun old hold => ⟨old, hold, .refl old⟩⟩
    · rintro binding hbinding rfl rfl
      have hsome := h.keyed.fenced binding hbinding
      rw [hnone] at hsome
      cases hsome
  · have hdescends : Descends database (database.updateBinding prior.bindingId
        fun binding => { binding with status := .fenced }) := by
      apply Descends.of_updateWhere rfl
      · exact fun binding => ⟨rfl, rfl, rfl, rfl, rfl⟩
      · rintro binding - - (hbound | hactive)
        · cases hbound
        · cases hactive
    refine ⟨?_, ⟨hdescends.origin, hdescends.kept⟩, rfl, ?_⟩
    · rw [h.newest_generation hprior hcurrent]
    · intro binding hbinding hmission hocs
      refine ⟨h.not_live_fenced hprior hcurrent hbinding hmission hocs, ?_⟩
      obtain ⟨old, hold, hsame, -⟩ := hdescends.origin binding hbinding
      have hkey : (old.missionId, old.ocsId) = (missionId, ocsId) := by
        rw [← hsame.missionId, ← hsame.ocsId, hmission, hocs]
      have hle : old.generation ≤ current := h.bounded old hold current (hkey ▸ hcurrent)
      rw [hsame.generation]
      exact Nat.lt_succ_of_le hle

theorem Generations.insert (h : Generations database)
    {row : BindingRow}
    (hkeyed : Keyed { fenced with bindings := fenced.bindings ++ [row] })
    (hnumbered : row.generation = row.fencingEpoch)
    (hsuperseded : Superseded database fenced row.missionId row.ocsId row.fencingEpoch) :
    Generations { fenced with bindings := fenced.bindings ++ [row] } := by
  have hlookup (missionId ocsId : String) :
      fenced.fencing.lookup (missionId, ocsId) =
        if (missionId, ocsId) = (row.missionId, row.ocsId) then some row.fencingEpoch
        else database.fencing.lookup (missionId, ocsId) := by
    rw [hsuperseded.fencing, Dict.lookup_insert_eq]
  have hrow : fenced.fencing.lookup (row.missionId, row.ocsId) = some row.fencingEpoch := by
    rw [hlookup, if_pos rfl]
  constructor
  case keyed => exact hkeyed
  case numbered =>
    intro binding hbinding
    rcases List.mem_append.mp hbinding with hmem | hnew
    · obtain ⟨old, hold, hsame, -⟩ := hsuperseded.descends.origin binding hmem
      rw [hsame.generation, hsame.fencingEpoch]
      exact h.numbered old hold
    · rw [List.mem_singleton.mp hnew]
      exact hnumbered
  case bounded =>
    intro binding hbinding epoch hepoch
    rcases List.mem_append.mp hbinding with hmem | hnew
    · by_cases hkey : binding.missionId = row.missionId ∧ binding.ocsId = row.ocsId
      · have hearlier := (hsuperseded.earlier binding hmem hkey.1 hkey.2).2
        rw [hkey.1, hkey.2, hrow] at hepoch
        rw [← Option.some.inj hepoch]
        exact hearlier.le
      · obtain ⟨old, hold, hsame, -⟩ := hsuperseded.descends.origin binding hmem
        rw [hlookup, if_neg fun heq => hkey (Prod.mk.inj heq), hsame.missionId,
          hsame.ocsId] at hepoch
        rw [hsame.generation]
        exact h.bounded old hold epoch hepoch
    · rw [List.mem_singleton.mp hnew] at hepoch ⊢
      rw [hrow] at hepoch
      rw [hnumbered, Option.some.inj hepoch]
  case current =>
    intro missionId ocsId epoch hepoch
    rw [hlookup] at hepoch
    split at hepoch
    · rename_i hkey
      obtain ⟨rfl, rfl⟩ := Prod.mk.inj hkey
      refine ⟨row, List.mem_append_right _ (List.mem_singleton_self row), rfl, rfl, ?_⟩
      rw [hnumbered, Option.some.inj hepoch]
    · obtain ⟨old, hold, rfl, rfl, rfl⟩ := h.current missionId ocsId epoch hepoch
      obtain ⟨binding, hbinding, hsame⟩ := hsuperseded.descends.kept old hold
      exact ⟨binding, List.mem_append_left _ hbinding, hsame.missionId, hsame.ocsId,
        hsame.generation⟩
  case distinct =>
    intro left hleft right hright hmission hocs hgeneration
    rcases List.mem_append.mp hleft with hleft | hleft <;>
      rcases List.mem_append.mp hright with hright | hright
    · obtain ⟨oldLeft, holdLeft, hsameLeft, -⟩ := hsuperseded.descends.origin left hleft
      obtain ⟨oldRight, holdRight, hsameRight, -⟩ :=
        hsuperseded.descends.origin right hright
      rw [hsameLeft.missionId, hsameRight.missionId] at hmission
      rw [hsameLeft.ocsId, hsameRight.ocsId] at hocs
      rw [hsameLeft.generation, hsameRight.generation] at hgeneration
      rw [hsameLeft.bindingId, hsameRight.bindingId]
      exact h.distinct oldLeft holdLeft oldRight holdRight hmission hocs hgeneration
    · rw [List.mem_singleton.mp hright] at hmission hocs hgeneration
      have hearlier := (hsuperseded.earlier left hleft hmission hocs).2
      omega
    · rw [List.mem_singleton.mp hleft] at hmission hocs hgeneration
      have hearlier := (hsuperseded.earlier right hright hmission.symm hocs.symm).2
      omega
    · rw [List.mem_singleton.mp hleft, List.mem_singleton.mp hright]
  case live =>
    intro binding hbinding hlive
    rcases List.mem_append.mp hbinding with hmem | hnew
    · by_cases hkey : binding.missionId = row.missionId ∧ binding.ocsId = row.ocsId
      · exact absurd hlive (hsuperseded.earlier binding hmem hkey.1 hkey.2).1
      · obtain ⟨old, hold, hsame, hwasLive⟩ := hsuperseded.descends.origin binding hmem
        rw [hlookup, if_neg fun heq => hkey (Prod.mk.inj heq), hsame.missionId,
          hsame.ocsId, hsame.fencingEpoch]
        exact h.live old hold (hwasLive hlive)
    · rw [List.mem_singleton.mp hnew]
      exact hrow

theorem Generations.change (h : Generations database) {rule : Rule}
    (hchange : Change rule database after) : Generations after := by
  have hkeyed : Keyed after := h.keyed.change hchange
  cases hchange with
  | same => exact h
  | created | issued => exact h.of_descends hkeyed (.of_bindings rfl) rfl
  | @bound fenced mission row activates _ hbinds =>
    obtain ⟨predecessor, hadvance⟩ := hbinds.advance
    obtain ⟨hnumbered, hsuperseded⟩ := h.advanceEpoch hadvance
    have hinserted : Generations { fenced with bindings := fenced.bindings ++ [row] } :=
      h.insert (hbinds.keyed h.keyed) hnumbered hsuperseded
    cases activates with
    | false => exact hinserted
    | true => exact hinserted.of_descends hkeyed (.of_bindings rfl) rfl
  | referenced =>
    apply h.of_descends hkeyed ?_ rfl
    apply Descends.of_updateWhere rfl
    · exact fun binding => ⟨rfl, rfl, rfl, rfl, rfl⟩
    · exact fun binding _ _ hlive => hlive
  | accepted closed _ _ _ _ _ _ htarget =>
    exact h.of_descends hkeyed (.accepted h.keyed htarget) rfl
  | released => exact h.of_descends hkeyed (.of_status rfl (by simp)) rfl

/-! ## The active OCS -/

/-- The mission's active OCS is that of its active binding. -/
def ActiveOcs (database : TrialDatabase) : Prop :=
  ∀ missionId mission, database.missions.lookup missionId = some mission →
    (database.activeBindings missionId).map (·.ocsId) = mission.activeOcsId.toList

/-- Whatever a handoff may activate belongs to an OCS with a fencing epoch. -/
def HandoffsFenced (database : TrialDatabase) : Prop :=
  ∀ handoffId row, database.handoffs.lookup handoffId = some row →
    (database.fencing.lookup (row.missionId, row.targetOcsId)).isSome

/-- A bind leaves the active binding alone, and a handoff activates a binding of the OCS
it is for. -/
def fencedRule : Rule := ⟨Dormant, fun target row => target.ocsId = row.targetOcsId⟩

theorem ActiveOcs.congr (h : ActiveOcs database) (hsame : database.SameStanding after) :
    ActiveOcs after := by
  intro missionId mission hmission
  rw [hsame.missions] at hmission
  rw [TrialDatabase.activeBindings, hsame.bindings]
  exact h missionId mission hmission

theorem HandoffsFenced.congr (h : HandoffsFenced database)
    (hsame : database.SameStanding after) : HandoffsFenced after := by
  intro handoffId row hrow
  rw [hsame.handoffs] at hrow
  rw [hsame.fencing]
  exact h handoffId row hrow

theorem ActiveOcs.change (h : ActiveOcs database) (hsingle : SingleActive database)
    (hkeyed : Keyed database) (hchange : Change fencedRule database after) :
    ActiveOcs after := by
  cases hchange with
  | same | issued => exact h
  | created hnew hocs =>
    intro other found hfound
    rcases lookup_updateMission hfound with ⟨rfl, rfl⟩ | ⟨-, hold⟩
    · have hnone : (database.updateMission other found).activeBindings other = [] :=
        hkeyed.activeBindings_eq_nil hnew
      rw [hnone, hocs]
      rfl
    · exact h other found hold
  | @bound fenced mission row activates hdormant hbinds =>
    have hmissions : fenced.missions = database.missions := hbinds.missions hkeyed
    intro other found hfound
    rw [activeBindings_bound hkeyed hdormant hbinds]
    cases activates with
    | false =>
      rw [if_neg (by simp), List.append_nil]
      exact h other found (hmissions ▸ hfound)
    | true =>
      rcases lookup_updateMission hfound with ⟨rfl, rfl⟩ | ⟨hother, hold⟩
      · rw [hsingle.activeBindings_eq_nil hbinds.found (hbinds.idle rfl),
          if_pos ⟨rfl, rfl⟩]
        rfl
      · rw [if_neg fun hboth => hother hboth.2.symm, List.append_nil]
        exact h other found (hmissions ▸ hold)
  | referenced bindingId checkpointRef =>
    intro other found hfound
    rw [map_activeBindings_referenced fun _ _ => rfl]
    exact h other found hfound
  | accepted closed hocs hmission _ _ _ hsource htarget =>
    obtain ⟨⟨active, hactive, -, honly⟩, hothers⟩ :=
      hsingle.activeBindings_accepted hkeyed hmission hsource htarget
    intro other found hfound
    rcases lookup_updateMission hfound with ⟨rfl, rfl⟩ | ⟨hother, hold⟩
    · rw [honly, List.map_singleton, hactive, hocs]
      rfl
    · rw [hothers other hother]
      exact h other found hold
  | released hmission _ hactive =>
    intro other found hfound
    rcases lookup_updateMission hfound with ⟨rfl, rfl⟩ | ⟨hother, hold⟩
    · rw [hsingle.activeBindings_released hmission hactive]
      rfl
    · rw [activeBindings_released_of_ne hkeyed hactive hother]
      exact h other found hold

theorem HandoffsFenced.change (h : HandoffsFenced database) (hkeyed : Keyed database)
    {rule : Rule} (hchange : Change rule database after) : HandoffsFenced after := by
  cases hchange with
  | same | created | referenced | released => exact h
  | @bound fenced mission row activates _ hbinds =>
    obtain ⟨predecessor, hadvance⟩ := hbinds.advance
    have hgrows (key : String × String) (hkey : (database.fencing.lookup key).isSome) :
        (fenced.fencing.lookup key).isSome := by
      rcases advanceEpoch_eq_ok hadvance with
        ⟨-, -, -, rfl⟩ | ⟨current, prior, -, -, -, -, rfl⟩
      · exact isSome_lookup_insert hkey
      · exact isSome_lookup_insert hkey
    have hhandoffs : fenced.handoffs = database.handoffs := by
      rcases advanceEpoch_eq_ok hadvance with
        ⟨-, -, -, rfl⟩ | ⟨current, prior, -, -, -, -, rfl⟩ <;> rfl
    intro handoffId issued hissued
    have hold : database.handoffs.lookup handoffId = some issued := by
      rw [← hhandoffs]
      cases activates <;> exact hissued
    have hafter : (fenced.fencing.lookup (issued.missionId, issued.targetOcsId)).isSome :=
      hgrows _ (h handoffId issued hold)
    cases activates <;> exact hafter
  | @issued newId row target htarget hmission hocs =>
    intro handoffId found hfound
    have hfenced := hkeyed.fenced target htarget
    rw [Dict.lookup_insert_eq] at hfound
    split at hfound
    · rw [← Option.some.inj hfound, ← hmission, ← hocs]
      exact hfenced
    · exact h handoffId found hfound
  | @accepted missionId acceptedId mission target row closed _ _ hrow _ hclosed =>
    intro handoffId found hfound
    have hlookup : (database.handoffs.insert acceptedId closed).lookup handoffId =
        some found := hfound
    rw [Dict.lookup_insert_eq] at hlookup
    split at hlookup
    · rw [← Option.some.inj hlookup, hclosed.1, hclosed.2]
      exact h acceptedId row hrow
    · exact h handoffId found hlookup

/-! ## Runs -/

/-- What makes every accepted write a fenced one. -/
structure Standing (database : TrialDatabase) : Prop where
  generations : Generations database
  single : SingleActive database
  ocs : ActiveOcs database
  handoffs : HandoffsFenced database

theorem Standing.changes (h : Standing database)
    (hchanges : Changes fencedRule database after) : Standing after := by
  obtain ⟨middle, hchange, hsame⟩ := hchanges
  have hkeyed := h.generations.keyed
  have hsingle : SingleActive middle :=
    h.single.change hkeyed (fun _ _ hdormant => hdormant) hchange
  constructor
  case generations => exact (h.generations.change hchange).congr hsame
  case single => exact hsingle.congr hsame
  case ocs => exact (h.ocs.change h.single hkeyed hchange).congr hsame
  case handoffs => exact (h.handoffs.change hkeyed hchange).congr hsame

theorem Standing.writesFenced (h : Standing database) : WritesFenced database := by
  intro missionId ocsId instanceId epoch namespaceKey hallowed
  obtain ⟨mission, current, hmission, hocs, hinstance, -, hcurrent, rfl⟩ :=
    writeDenialReason_eq_none.mp hallowed
  obtain ⟨active, hmem, honly, rfl, rfl, hstatus⟩ :=
    h.single.exists_active hmission hinstance
  have hactiveOcs : active.ocsId = ocsId := by
    have hmap := h.ocs active.missionId mission hmission
    rw [honly, hocs] at hmap
    exact (List.cons.inj hmap).1
  have hepoch : database.fencing.lookup (active.missionId, active.ocsId) =
      some active.fencingEpoch := h.generations.live active hmem (.inr hstatus)
  rw [hactiveOcs] at hepoch
  have hnewest : current = active.fencingEpoch :=
    Option.some.inj (hcurrent.symm.trans hepoch)
  refine ⟨active, honly, hactiveOcs, rfl, ?_, hepoch⟩
  rw [hnewest]

variable {mission : MissionRow}

theorem WritesFenced.holdsEpoch (h : WritesFenced database)
    {instanceId : String}
    (hmission : database.missions.lookup missionId = some mission)
    (hocs : mission.activeOcsId = some ocsId)
    (hinstance : mission.activeInstanceId = some instanceId)
    (hfenced : (database.fencing.lookup (missionId, ocsId)).isSome) :
    ∃ epoch, HoldsEpoch database missionId ocsId instanceId epoch := by
  obtain ⟨current, hcurrent⟩ := Option.isSome_iff_exists.mp hfenced
  refine ⟨current, h missionId ocsId instanceId current (stateNamespace missionId ocsId) ?_⟩
  have hown : (stateNamespace missionId ocsId).toList.isPrefixOf
      (stateNamespace missionId ocsId).toList = true :=
    List.isPrefixOf_iff_prefix.mpr List.prefix_rfl
  exact writeDenialReason_eq_none.mpr
    ⟨mission, current, hmission, hocs, hinstance, hown, hcurrent, rfl⟩

theorem WritesFenced.congr (h : WritesFenced database) (hsame : database.SameStanding after) :
    WritesFenced after := by
  intro missionId ocsId instanceId epoch namespaceKey hallowed
  rw [writeDenialReason_eq_none, hsame.missions, hsame.fencing,
    ← writeDenialReason_eq_none] at hallowed
  have hactive : after.activeBindings missionId = database.activeBindings missionId := by
    rw [TrialDatabase.activeBindings, hsame.bindings, ← TrialDatabase.activeBindings]
  rw [HoldsEpoch, hactive, hsame.fencing]
  exact h missionId ocsId instanceId epoch namespaceKey hallowed

/-- The call is neither an accepted bind to an OCS whose newest binding is the active one
nor an accepted handoff whose target is a binding of another OCS. -/
def KeepsFencing (canonicalHash : Value → String) (database : TrialDatabase) :
    TrialOp → Prop
  | .acceptHandoff missionId handoffId now =>
    (∃ result, acceptHandoff canonicalHash missionId handoffId now database =
      .ok result) →
    ∀ row target, database.handoffs.lookup handoffId = some row →
      (database.instanceBindings missionId row.targetInstanceId).filter
        (fun binding => binding.status = .bound) = [target] →
      target.ocsId = row.targetOcsId
  | op => BindsDormant canonicalHash database op

theorem Standing.dormant_of_bound (h : Standing database) {row : BindingRow} {activates : Bool}
    (hbinds : Binds database fenced mission row activates)
    (hafter : WritesFenced (Trial.bound fenced mission row activates)) :
    Dormant database row.missionId row.ocsId := by
  intro prior hprior hactive
  obtain ⟨rfl, honly, hpointer, hnone⟩ :=
    h.single.fences_active h.generations.keyed hbinds hprior hactive
  obtain ⟨-, -, hpriorOcs, -⟩ := newest_spec hprior
  have hocs : mission.activeOcsId = some row.ocsId := by
    have hmap := h.ocs row.missionId mission hbinds.found
    rw [honly, List.map_singleton, hpriorOcs] at hmap
    exact (Option.toList_eq_singleton_iff.mp hmap.symm)
  have hmissions : fenced.missions = database.missions :=
    hbinds.missions h.generations.keyed
  have hfound : fenced.missions.lookup row.missionId = some mission := by
    rw [hmissions]
    exact hbinds.found
  have hfenced : (fenced.fencing.lookup (row.missionId, row.ocsId)).isSome := by
    obtain ⟨predecessor, hadvance⟩ := hbinds.advance
    rw [(h.generations.keyed.advanceEpoch hadvance).2.2]
    rfl
  obtain ⟨epoch, binding, hholds, -⟩ := hafter.holdsEpoch hfound hocs hpointer hfenced
  rw [hnone] at hholds
  cases hholds

theorem Standing.ocs_of_accepted (h : Standing database) {handoffId : String} {target : BindingRow} {row closed : HandoffRow}
    (hmission : database.missions.lookup missionId = some mission)
    (hrow : database.handoffs.lookup handoffId = some row)
    (hrowMission : row.missionId = missionId)
    (hsource : mission.activeInstanceId = some row.sourceInstanceId)
    (htarget : (database.instanceBindings missionId row.targetInstanceId).filter
      (fun binding => binding.status = .bound) = [target])
    (hafter : WritesFenced
      (Trial.accepted database missionId handoffId mission target row closed)) :
    target.ocsId = row.targetOcsId := by
  subst hrowMission
  obtain ⟨⟨active, hactive, -, honly⟩, -⟩ :=
    h.single.activeBindings_accepted h.generations.keyed hmission hsource htarget
  obtain ⟨epoch, binding, hholds, hocs, -⟩ :=
    hafter.holdsEpoch (AList.lookup_insert _) rfl rfl (h.handoffs handoffId row hrow)
  rw [honly] at hholds
  rw [← hactive, (List.cons.inj hholds).1, hocs]

theorem empty_standing : Standing .empty where
  generations := by
    constructor
    case keyed =>
      exact ⟨List.nodup_nil, by simp [TrialDatabase.empty], by simp [TrialDatabase.empty]⟩
    all_goals simp [TrialDatabase.empty]
  single := by simp [SingleActive, TrialDatabase.empty]
  ocs := by simp [ActiveOcs, TrialDatabase.empty]
  handoffs := by simp [HandoffsFenced, TrialDatabase.empty]

/-- Exactly the runs whose binds leave the active binding alone, and whose handoffs
activate bindings of the OCS they name, let only fenced writes through at every instant. -/
theorem always_writesFenced_iff (canonicalHash : Value → String) (ops : List TrialOp) :
    (∀ before, before <+: ops →
      WritesFenced (run (perform canonicalHash) .empty before)) ↔
      Admissible (perform canonicalHash) (KeepsFencing canonicalHash) .empty ops := by
  apply always_iff_admissible Standing
  · intro database op h hallowed
    apply perform_induction Standing.changes h
    cases op with
    | bind => exact hallowed
    | acceptHandoff => exact hallowed
    | recover => exact fun after activeInstance hrelease => dormant_of_release h.single hrelease
    | _ => trivial
  · exact fun database h => h.writesFenced
  · intro database op h hafter
    cases op with
    | bind missionId ocsId instanceId authorityRef activateIfEmpty now =>
      rintro ⟨⟨after, answer⟩, hok⟩
      obtain ⟨fenced, mission, row, activates, rfl, rfl, -, -, hbinds, hsame⟩ :=
        bind_spec hok
      have hleaves : WritesFenced after := by
        simpa only [perform, Transaction.leaves, hok] using hafter
      exact h.dormant_of_bound hbinds (hleaves.congr hsame.symm)
    | acceptHandoff missionId handoffId now =>
      rintro ⟨⟨after, answer⟩, hok⟩ asked found hasked hfound
      obtain ⟨mission, target, row, closed, hmission, hrow, hrowMission, -, hsource,
        htarget, hsame⟩ := acceptHandoff_spec hok
      have hleaves : WritesFenced after := by
        simpa only [perform, Transaction.leaves, hok] using hafter
      obtain rfl : asked = row := Option.some.inj (hasked.symm.trans hrow)
      obtain rfl : found = target := by
        rw [htarget] at hfound
        exact (List.cons.inj hfound).1.symm
      exact h.ocs_of_accepted hmission hrow hrowMission hsource htarget
        (hleaves.congr hsame.symm)
    | _ => trivial
  · exact empty_standing

/-- After the second bind the first instance, whose binding is FENCED, may write at the
second one's epoch. -/
theorem rebound_not_writesFenced :
    ¬ ∀ before, before <+: reboundOps →
      WritesFenced (run (perform textDigest) .empty before) := by
  intro h
  have hfenced : WritesFenced rebound := h reboundOps List.prefix_rfl
  have hallowed : rebound.writeDenialReason "m-001" "SOFIA" "sofia-1" 2
      "trial:m-001:SOFIA:state:plan" = .ok none := by decide +kernel
  obtain ⟨binding, honly, -⟩ := hfenced _ _ _ _ _ hallowed
  have hnone : rebound.activeBindings "m-001" = [] := by decide +kernel
  rw [hnone] at honly
  cases honly

end ReisOs.Trial
