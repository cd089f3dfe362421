import ReisOs.Trial2.Wiring

/-!
# Epoch fencing

A writer is checked against the epoch its binding was given; the fencing table holds the
epoch of the newest bind.  The two agree along exactly the runs that never bind the
active OCS anew and never hand over to a binding that has been overtaken.
-/

namespace ReisOs.Trial2

open ReisOs.Core

variable {N : Type} {encoding : Encoding N} {database after : Database} {missionId : String}

/-- Every write and every effect the store accepts carries the current epoch of its
OCS. -/
structure WritersFenced (encoding : Encoding N) (database : Database) : Prop where
  writes : ∀ missionId ocsId instanceId epoch namespaceKey value after,
    writeState encoding missionId ocsId instanceId epoch namespaceKey value database =
        .ok (after, 1) →
      ∃ current, database.fencing.lookup (missionId, ocsId) = some current ∧
        (current : ℤ) = epoch
  effects : ∀ (store : StoreClass) missionId ocsId instanceId epoch authorityRef
      idempotencyKey payload now answer,
    store.choose
        (applySyntheticEffect encoding missionId ocsId instanceId epoch authorityRef
          idempotencyKey payload now)
        (IntegrityChecked.applySyntheticEffect encoding missionId ocsId instanceId epoch
          authorityRef idempotencyKey payload now) database = .ok answer →
      ∃ current, database.fencing.lookup (missionId, ocsId) = some current ∧
        (current : ℤ) = epoch

/-- An accepted bind is not for the mission's active OCS, and the target of an accepted
handoff has the current epoch of its OCS. -/
def KeepsEpochs (encoding : Encoding N) (database : Database) (call : Call N) : Prop :=
  Accepted encoding database call →
    match call with
    | .bind missionId ocsId _ _ _ _ _ =>
      ∀ mission, database.missions.lookup missionId = some mission →
        mission.activeOcsId ≠ some ocsId
    | .acceptHandoff _ missionId handoffId _ =>
      ∀ row target, database.handoffs.lookup handoffId = some row →
        database.binding? missionId row.targetInstanceId = some target →
        database.fencing.lookup (missionId, row.targetOcsId) = some target.fencingEpoch
    | _ => True

/-- The active binding of every mission has the current epoch of its OCS. -/
def Current (database : Database) : Prop :=
  ∀ missionId mission instanceId binding,
    database.missions.lookup missionId = some mission →
    mission.activeInstanceId = some instanceId → binding ∈ database.bindings →
    binding.key = (missionId, instanceId) →
    database.fencing.lookup (missionId, binding.ocsId) = some binding.fencingEpoch

/-! ## Writers -/

variable {ocsId instanceId : String}

theorem Admitted.fenced (hwired : Wired database) (hcurrent : Current database)
    {authorityRef : String} {epoch : ℤ}
    (h : Admitted database missionId ocsId instanceId epoch authorityRef) :
    ∃ current, database.fencing.lookup (missionId, ocsId) = some current ∧
      (current : ℤ) = epoch := by
  obtain ⟨mission, hmission, hocs, hpointer⟩ := h.pointer
  obtain ⟨binding, hbinding, hepoch, -⟩ := h.seated
  obtain ⟨hmem, hkey⟩ := hwired.binding?_eq_some.mp hbinding
  obtain ⟨seated, hseated, hseatedKey, hseatedOcs⟩ :=
    hwired.seated missionId mission hmission instanceId hpointer
  have hsame : seated = binding := hwired.eq_of_key hseated hmem (hseatedKey.trans hkey.symm)
  have hbindingOcs : binding.ocsId = ocsId := by
    rw [hocs, hsame] at hseatedOcs
    exact (Option.some.inj hseatedOcs).symm
  refine ⟨binding.fencingEpoch, ?_, hepoch⟩
  rw [← hbindingOcs]
  exact hcurrent missionId mission instanceId binding hmission hpointer hmem hkey

theorem Current.writersFenced (hwired : Wired database) (hcurrent : Current database) :
    WritersFenced encoding database where
  writes := by
    intro missionId ocsId instanceId epoch namespaceKey value after h
    obtain ⟨authorityRef, hadmitted⟩ := (writeState_spec h).2 rfl
    exact hadmitted.fenced hwired hcurrent
  effects := by
    intro store missionId ocsId instanceId epoch authorityRef idempotencyKey payload now
      answer h
    have hspec : Admitted database missionId ocsId instanceId epoch authorityRef := by
      cases store with
      | persistent => exact (applySyntheticEffectWith_spec h).1
      | integrityChecked => exact (applySyntheticEffectWith_spec h).1
    exact hspec.fenced hwired hcurrent

theorem writeState_accepted {mission : MissionRow} {binding : BindingRow} (hmission : database.missions.lookup missionId = some mission)
    (hocs : mission.activeOcsId = some ocsId)
    (hpointer : mission.activeInstanceId = some instanceId)
    (hbinding : database.binding? missionId instanceId = some binding) :
    ∃ after, writeState encoding missionId ocsId instanceId binding.fencingEpoch
      (stateNamespace missionId ocsId) .none database = .ok (after, 1) := by
  have hfound : database.mission missionId = .ok mission := by
    rw [Database.mission, hmission]
  have hseated : database.binding missionId instanceId = .ok binding := by
    rw [Database.binding, hbinding]
  have hnamespace : (stateNamespace missionId ocsId).toList.isPrefixOf
      (stateNamespace missionId ocsId).toList = true :=
    List.isPrefixOf_iff_prefix.mpr (List.prefix_refl _)
  unfold writeState
  rw [hfound]
  simp only [Bind.bind, Except.bind]
  rw [if_neg (by simp [hocs, hpointer]), hnamespace, if_neg (by simp), hseated]
  simp only
  rw [if_neg (by simp)]
  exact ⟨_, rfl⟩

theorem WritersFenced.epoch (h : WritersFenced encoding database) {mission : MissionRow}
    {binding : BindingRow}
    (hmission : database.missions.lookup missionId = some mission)
    (hocs : mission.activeOcsId = some ocsId)
    (hpointer : mission.activeInstanceId = some instanceId)
    (hbinding : database.binding? missionId instanceId = some binding) :
    database.fencing.lookup (missionId, ocsId) = some binding.fencingEpoch := by
  obtain ⟨after, hwritten⟩ := writeState_accepted hmission hocs hpointer hbinding
  obtain ⟨current, hcurrent, hsame⟩ := h.writes _ _ _ _ _ _ _ hwritten
  rw [hcurrent, Int.ofNat_inj.mp hsame]

/-! ## Steps -/

theorem Current.congr (h : Current database)
    (hmissions : after.missions = database.missions)
    (hbindings : after.bindings = database.bindings)
    (hfencing : after.fencing = database.fencing) : Current after := by
  unfold Current
  rw [hmissions, hbindings, hfencing]
  exact h

theorem Current.created (h : Current database) {mission : MissionRow}
    (hinstance : mission.activeInstanceId = none) :
    Current (database.updateMission missionId mission) := by
  intro other found instanceId binding hfound hpointer hbinding hkey
  simp only [Database.updateMission, Dict.lookup_insert_eq] at hfound
  split at hfound
  · cases hfound
    rw [hinstance] at hpointer
    cases hpointer
  · exact h other found instanceId binding hfound hpointer hbinding hkey

theorem Current.bound (hwired : Wired database) (h : Current database) {mission : MissionRow}
    {row : BindingRow} {active : Bool} (hbinds : Binds database mission row active)
    (hother : mission.activeOcsId ≠ some row.ocsId) :
    Current (Trial2.bound database mission row active) := by
  intro other found instanceId binding hfound hpointer hbinding hkey
  rw [Wired.lookup_bound hbinds] at hfound
  rw [Wired.bindings_bound, List.mem_append, List.mem_singleton] at hbinding
  rw [Wired.fencing_bound, Dict.lookup_insert_eq]
  split at hfound
  · rename_i hactive
    cases hfound
    cases hpointer
    rcases hbinding with hold | rfl
    · rw [hactive.2] at hkey
      exact absurd hkey (hbinds.fresh binding hold).2
    · rw [if_pos]
      rw [hactive.2]
  · rcases hbinding with hold | rfl
    · have hepoch := h other found instanceId binding hfound hpointer hold hkey
      obtain ⟨seated, hseated, hseatedKey, hocs⟩ :=
        hwired.seated other found hfound instanceId hpointer
      have hsame : seated = binding :=
        hwired.eq_of_key hseated hold (hseatedKey.trans hkey.symm)
      rw [if_neg]
      · exact hepoch
      · intro heq
        obtain ⟨hmission, hocsId⟩ := Prod.mk.inj heq
        rw [hmission, hbinds.found] at hfound
        cases hfound
        rw [hsame, hocsId] at hocs
        exact hother hocs
    · obtain ⟨seated, hseated, hseatedKey, -⟩ :=
        hwired.seated other found hfound instanceId hpointer
      exact absurd (hseatedKey.trans hkey.symm) (hbinds.fresh seated hseated).2

theorem Current.mapBindings (h : Current database) {change : BindingRow → BindingRow}
    (hkeys : ∀ binding, (change binding).key = binding.key)
    (hocs : ∀ binding, (change binding).ocsId = binding.ocsId)
    (hepochs : ∀ binding, (change binding).fencingEpoch = binding.fencingEpoch) :
    Current { database with bindings := database.bindings.map change } := by
  intro other found instanceId binding hfound hpointer hbinding hkey
  obtain ⟨old, hold, rfl⟩ := List.mem_map.mp hbinding
  rw [hocs, hepochs]
  exact h other found instanceId old hfound hpointer hold ((hkeys old).symm.trans hkey)

theorem Current.issued (h : Current database) {mission : MissionRow} {handoffId : String}
    {row : HandoffRow} (hfound : database.missions.lookup row.missionId = some mission) :
    Current (Trial2.issued database mission handoffId row) := by
  intro other found instanceId binding hlookup hpointer hbinding hkey
  simp only [Trial2.issued, Database.updateMission, Dict.lookup_insert_eq] at hlookup
  split at hlookup
  · rename_i heq
    cases hlookup
    exact h other mission instanceId binding (heq ▸ hfound) hpointer hbinding hkey
  · exact h other found instanceId binding hlookup hpointer hbinding hkey

theorem Current.handedOver (hwired : Wired database) (h : Current database)
    {handoffId receipt : String} {reading : Reading}
    (hacceptable : Acceptable database missionId handoffId reading)
    (htarget : database.fencing.lookup (missionId, reading.row.targetOcsId) =
      some reading.target.fencingEpoch) :
    Current (Trial2.handedOver database missionId handoffId reading reading.mission
      reading.row receipt) := by
  intro other found instanceId binding hlookup hpointer hbinding hkey
  obtain ⟨old, hold, rfl⟩ := List.mem_map.mp hbinding
  show database.fencing.lookup (other, old.ocsId) = some old.fencingEpoch
  simp only [Trial2.handedOver, Dict.lookup_insert_eq] at hlookup
  split at hlookup
  · rename_i heq
    cases hlookup
    cases hpointer
    obtain ⟨hmem, htargetKey⟩ := hwired.binding?_eq_some.mp hacceptable.receiver
    have hclaimable := hacceptable.claimable hwired
    obtain ⟨claimed, hclaimed, hclaimedId, -, hocs⟩ := hclaimable.target
    have hsame : old = reading.target := by
      apply hwired.eq_of_key hold hmem
      rw [htargetKey, ← heq]
      exact hkey
    have hsameClaimed : claimed = reading.target := hwired.eq_of_id hclaimed hmem hclaimedId
    rw [heq, hsame, ← hsameClaimed, hocs, hsameClaimed]
    exact htarget
  · exact h other found instanceId old hlookup hpointer hold hkey

theorem Current.step (hwired : Wired database) (h : Current database) {call : Call N}
    (hkeeps : KeepsEpochs encoding database call) :
    Current (perform encoding database call) := by
  by_cases haccepted : Accepted encoding database call
  · have hchange := perform_change encoding database call
    have hkeeps := hkeeps haccepted
    cases hchange with
    | same hsame => exact h.congr hsame.missions hsame.bindings hsame.fencing
    | created _ _ hinstance _ _ hsame =>
      exact (h.created hinstance).congr hsame.missions hsame.bindings hsame.fencing
    | bound hbinds hnoted =>
      exact (h.bound hwired hbinds (hkeeps _ hbinds.found)).congr hnoted.missions
        hnoted.bindings hnoted.fencing
    | checkpointed _ hnoted =>
      apply Current.congr _ hnoted.missions hnoted.bindings hnoted.fencing
      apply Current.mapBindings (h.congr rfl rfl rfl)
      · intro binding
        split <;> rfl
      · intro binding
        split <;> rfl
      · intro binding
        split <;> rfl
    | issued hissues hnoted =>
      exact (h.issued hissues.found).congr hnoted.missions hnoted.bindings hnoted.fencing
    | accepted hacceptable _ hnoted =>
      have htarget := hkeeps _ _ hacceptable.row hacceptable.receiver
      exact (h.handedOver hwired hacceptable htarget).congr hnoted.missions hnoted.bindings
        hnoted.fencing
    | applied _ _ _ _ hnoted =>
      exact h.congr hnoted.missions hnoted.bindings hnoted.fencing
  · have hsame := perform_of_not_accepted haccepted
    exact h.congr hsame.missions hsame.bindings hsame.fencing

/-! ## Runs -/

theorem KeepsEpochs.of_bind (hwired : Wired database) (hcurrent : Current database)
    {authorityRef role : String} {activateIfEmpty : Bool}
    {now : ℕ → String}
    (hfenced : WritersFenced encoding (perform encoding database
      (.bind missionId ocsId instanceId authorityRef role activateIfEmpty now))) :
    KeepsEpochs encoding database
      (.bind missionId ocsId instanceId authorityRef role activateIfEmpty now) := by
  rintro ⟨⟨after, answer⟩, hbind⟩ found hfound hocs
  have hwiredAfter := hwired.perform encoding
    (.bind missionId ocsId instanceId authorityRef role activateIfEmpty now)
  rw [perform, Transaction.leaves, hbind] at hfenced hwiredAfter
  obtain ⟨mission, row, active, rfl, rfl, rfl, hbinds, hnoted⟩ := bind_spec hbind
  have hsame : mission = found := Option.some.inj (hbinds.found.symm.trans hfound)
  subst hsame
  cases hpointer : mission.activeInstanceId with
  | none =>
    rw [hwired.idle _ _ hbinds.found hpointer] at hocs
    cases hocs
  | some activeInstance =>
    obtain ⟨binding, hbinding, hkey, hbindingOcs⟩ :=
      hwired.seated _ _ hbinds.found _ hpointer
    have hsameOcs : binding.ocsId = row.ocsId := by
      rw [hocs] at hbindingOcs
      exact (Option.some.inj hbindingOcs).symm
    have hold := hcurrent _ _ _ binding hbinds.found hpointer hbinding hkey
    have hmission : after.missions.lookup row.missionId = some mission := by
      rw [hnoted.missions, Wired.lookup_bound hbinds, if_neg, hbinds.found]
      rintro ⟨hactive, -⟩
      rw [hbinds.idle hactive] at hpointer
      cases hpointer
    have hseated : after.binding? row.missionId activeInstance = some binding := by
      apply hwiredAfter.binding?_eq_some.mpr
      rw [hnoted.bindings, Wired.bindings_bound]
      exact ⟨List.mem_append_left _ hbinding, hkey⟩
    have hnew := hfenced.epoch hmission hocs hpointer hseated
    rw [hnoted.fencing, Wired.fencing_bound, AList.lookup_insert] at hnew
    have hepoch : row.fencingEpoch = binding.fencingEpoch := Option.some.inj hnew
    rw [hsameOcs] at hold
    rcases hbinds.epoch with ⟨hnone, -, -⟩ | ⟨prior, newest, hprior, -, hrow, -⟩
    · rw [hnone] at hold
      cases hold
    · rw [hprior] at hold
      have hprior : prior = binding.fencingEpoch := Option.some.inj hold
      omega

theorem KeepsEpochs.of_accept (hwired : Wired database) {store : StoreClass}
    {handoffId : String} {now : ℕ → String}
    (hfenced : WritersFenced encoding (perform encoding database
      (.acceptHandoff store missionId handoffId now))) :
    KeepsEpochs encoding database (.acceptHandoff store missionId handoffId now) := by
  rintro ⟨⟨after, receipt⟩, haccept⟩ row target hrow htarget
  have hwiredAfter := hwired.perform encoding
    (.acceptHandoff store missionId handoffId now)
  rw [perform, Transaction.leaves, haccept] at hfenced hwiredAfter
  obtain ⟨reading, hacceptable, -, hnoted⟩ := acceptHandoff_spec haccept
  rw [hacceptable.row] at hrow
  cases hrow
  obtain ⟨hmem, hkey⟩ := hwired.binding?_eq_some.mp htarget
  have hmission : after.missions.lookup missionId =
      some (advanced handoffId reading reading.mission) := by
    rw [hnoted.missions]
    exact AList.lookup_insert _
  have hseated : after.binding? missionId reading.row.targetInstanceId =
      some (restatus reading target) := by
    apply hwiredAfter.binding?_eq_some.mpr
    rw [hnoted.bindings]
    exact ⟨List.mem_map_of_mem hmem, hkey⟩
  have hnew := hfenced.epoch hmission rfl rfl hseated
  rw [hnoted.fencing] at hnew
  exact hnew

theorem Current.start : Current .empty :=
  fun _ _ _ _ hfound => nomatch hfound

/-- A run accepts only writers with the current epoch of their OCS just if its binds
leave the active OCS alone and its handoffs go to bindings of the current epoch. -/
theorem writers_fenced_iff (encoding : Encoding N) (calls : List (Call N)) :
    (∀ before, before <+: calls →
        WritersFenced encoding (run (perform encoding) .empty before)) ↔
      Admissible (perform encoding) (KeepsEpochs encoding) .empty calls := by
  apply always_iff_admissible fun database => Wired database ∧ Current database
  · rintro database call ⟨hwired, hcurrent⟩ hkeeps
    exact ⟨hwired.perform encoding call, hcurrent.step hwired hkeeps⟩
  · rintro database ⟨hwired, hcurrent⟩
    exact hcurrent.writersFenced hwired
  · rintro database call ⟨hwired, hcurrent⟩ hfenced
    cases call with
    | bind => exact .of_bind hwired hcurrent hfenced
    | acceptHandoff => exact .of_accept hwired hfenced
    | createMission => exact fun _ => trivial
    | checkpoint => exact fun _ => trivial
    | issueHandoff => exact fun _ => trivial
    | recoverSnapshot => exact fun _ => trivial
    | applySyntheticEffect => exact fun _ => trivial
    | writeState => exact fun _ => trivial
  · exact ⟨Wired.start, Current.start⟩

/-- The active OCS is bound anew. -/
def reboundCalls : List (Call ℤ) :=
  [.createMission "m-001" "state:m-001" "gate-1" 3 (clockAt "t1"),
    .bind "m-001" "SOFIA" "sofia-1" "authority-1" "role-1" true (clockAt "t2"),
    .bind "m-001" "SOFIA" "sofia-2" "authority-2" "role-1" false (clockAt "t3")]

/-- The overtaken binding can still write. -/
theorem rebound_writers_not_fenced :
    ¬ ∀ before, before <+: reboundCalls →
      WritersFenced plainEncoding (run (perform plainEncoding) .empty before) := by
  have hwritten : (writeState plainEncoding "m-001" "SOFIA" "sofia-1" 1
      "trial2:m-001:SOFIA:state:x" .none
      (run (perform plainEncoding) .empty reboundCalls)).map Prod.snd = .ok 1 := by
    decide +kernel
  have hepoch : (run (perform plainEncoding) .empty reboundCalls).fencing.lookup
      ("m-001", "SOFIA") = some 2 := by
    decide +kernel
  intro h
  have hfenced := h reboundCalls (List.prefix_refl _)
  generalize run (perform plainEncoding) .empty reboundCalls = database at *
  obtain ⟨after, haccepted⟩ := exists_state_of_answer hwritten
  obtain ⟨current, hcurrent, hone⟩ := hfenced.writes _ _ _ _ _ _ _ haccepted
  have htwo : current = 2 := Option.some.inj (hcurrent.symm.trans hepoch)
  omega

end ReisOs.Trial2
