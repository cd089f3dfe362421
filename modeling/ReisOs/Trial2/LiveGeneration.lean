import ReisOs.Trial2.Wiring

/-!
# Handoffs and recoveries of the live generation

A handoff should go to the newest generation of its target and a recovery find the
active instance at the current epoch.  Both hold along runs in which an OCS is bound
anew only when none of its bindings is active or can still be handed over to, and whose
dictionaries keep the order of their keys when they are read back.
-/

namespace ReisOs.Trial2

open ReisOs.Core ReisOs.Core.JsonText

variable {N : Type} {encoding : Encoding N} {database after : Database}
  {missionId ocsId : String}

/-- The mission's active binding is the newest of its OCS. -/
def NewestActive (database : Database) (missionId : String) : Prop :=
  ∃ mission, database.missions.lookup missionId = some mission ∧
    ∃ binding ∈ database.bindings, binding.missionId = missionId ∧
      mission.activeInstanceId = some binding.instanceId ∧
      mission.activeOcsId = some binding.ocsId ∧ binding.status = .active ∧
      ∀ other ∈ database.bindings, other.missionId = missionId →
        other.ocsId = binding.ocsId → other.generation ≤ binding.generation

/-- The mission has an active instance with a checkpoint, whose authority is valid. -/
def Recoverable (database : Database) (missionId : String)
    (authorityValidator : String → String → String → Bool) : Prop :=
  ∃ mission, database.missions.lookup missionId = some mission ∧
    ∃ instanceId ocsId, mission.activeInstanceId = some instanceId ∧
      mission.activeOcsId = some ocsId ∧
      ∃ binding, database.binding? missionId instanceId = some binding ∧
        binding.checkpointRef.isSome ∧
        authorityValidator binding.authorityRef ocsId binding.role = true

/-- An accepted handoff activates the newest generation, and what is recoverable is
recovered. -/
def TargetsLive (encoding : Encoding N) (database : Database) : Call N → Prop
  | .acceptHandoff store missionId handoffId now =>
    Accepted encoding database (.acceptHandoff store missionId handoffId now) →
      NewestActive (perform encoding database (.acceptHandoff store missionId handoffId now))
        missionId
  | .recoverSnapshot store missionId authorityValidator now =>
    Recoverable database missionId authorityValidator →
      Accepted encoding database (.recoverSnapshot store missionId authorityValidator now)
  | _ => True

/-- The OCS of an accepted bind has no binding that is active, nor one that a handoff
could still activate; what is written of a checkpoint or an envelope reads back in the
same order; and the recovery's event is not on record yet. -/
def Orderly (encoding : Encoding N) (database : Database) : Call N → Prop
  | .bind missionId ocsId instanceId authorityRef role activateIfEmpty now =>
    Accepted encoding database
        (.bind missionId ocsId instanceId authorityRef role activateIfEmpty now) →
      ∀ binding ∈ database.bindings, binding.missionId = missionId →
        binding.ocsId = ocsId → binding.status ≠ .active ∧
          (binding.status = .bound → ocsId ∉ routeTargets)
  | .checkpoint _ _ localState _ => localState.KeysInOrder
  | .issueHandoff _ _ _ _ envelope _ => envelope.KeysInOrder
  | .recoverSnapshot _ missionId _ now =>
    ∀ mission, database.missions.lookup missionId = some mission →
      database.observability.lookup (encoding.eventId missionId
        "restart_recovery_revalidated" (encoding.mission missionId mission)
        (encoding.mission missionId mission) (now 0)) = none
  | _ => True

/-! ## Documents -/

/-- A stored document that its hash is checked against. -/
def Readable (encoding : Encoding N) (text : List Char) (hash : String) : Prop :=
  ∃ value : PyValue N, value.KeysInOrder ∧ text = encoding.json value ∧
    hash = encoding.hash value

theorem Readable.loads {text : List Char} {hash : String}
    (h : Readable encoding text hash) :
    ∃ value, encoding.loads text = some value ∧ encoding.hash value = hash := by
  obtain ⟨value, hkeys, rfl, rfl⟩ := h
  refine ⟨value.readBack, ?_, ?_⟩
  · rw [Encoding.loads, Encoding.json, read_write]
    rfl
  · rw [Encoding.hash, PyValue.document_readBack hkeys, Encoding.hash]

/-! ## The newest generation -/

instance : Std.Total newerFirst :=
  ⟨fun left right => Nat.le_total right.generation left.generation⟩

instance : IsTrans BindingRow newerFirst :=
  ⟨fun _ _ _ hfirst hlast => Nat.le_trans hlast hfirst⟩

theorem newest_spec {newest : BindingRow}
    (h : database.newest missionId ocsId = some newest) :
    ∀ binding ∈ database.bindings, binding.missionId = missionId → binding.ocsId = ocsId →
      binding.generation ≤ newest.generation := by
  obtain ⟨-, hfirst⟩ := head?_insertionSort_spec h
  intro binding hbinding hmission hocs
  have hfiltered : binding ∈ database.bindings.filter fun binding =>
      binding.missionId = missionId ∧ binding.ocsId = ocsId :=
    List.mem_filter.mpr ⟨hbinding, decide_eq_true ⟨hmission, hocs⟩⟩
  rcases hfirst binding hfiltered with rfl | hnewer
  · exact le_rfl
  · exact hnewer

/-- The binding is active or a handoff could activate it. -/
def BindingRow.Live (binding : BindingRow) : Prop :=
  binding.status = .active ∨ binding.status = .bound ∧ binding.ocsId ∈ routeTargets

/-- A live binding has the current epoch and the newest generation of its OCS. -/
def LiveNewest (database : Database) : Prop :=
  ∀ binding ∈ database.bindings, binding.Live →
    database.fencing.lookup (binding.missionId, binding.ocsId) = some binding.fencingEpoch ∧
      ∀ other ∈ database.bindings, other.missionId = binding.missionId →
        other.ocsId = binding.ocsId → other.generation ≤ binding.generation

theorem LiveNewest.congr (h : LiveNewest database)
    (hbindings : after.bindings = database.bindings)
    (hfencing : after.fencing = database.fencing) : LiveNewest after := by
  unfold LiveNewest
  rw [hbindings, hfencing]
  exact h

theorem LiveNewest.map (h : LiveNewest database) (change : BindingRow → BindingRow)
    (hsame : ∀ binding, (change binding).missionId = binding.missionId ∧
      (change binding).ocsId = binding.ocsId ∧
      (change binding).fencingEpoch = binding.fencingEpoch ∧
      (change binding).generation = binding.generation)
    (hlive : ∀ binding ∈ database.bindings, (change binding).Live → binding.Live) :
    LiveNewest { database with bindings := database.bindings.map change } := by
  intro binding hbinding hbindingLive
  obtain ⟨old, hold, rfl⟩ := List.mem_map.mp hbinding
  obtain ⟨hmission, hocs, hepoch, hgeneration⟩ := hsame old
  obtain ⟨hfenced, hnewest⟩ := h old hold (hlive old hold hbindingLive)
  rw [hmission, hocs, hepoch]
  refine ⟨hfenced, ?_⟩
  intro other hother hotherMission hotherOcs
  obtain ⟨before, hbefore, rfl⟩ := List.mem_map.mp hother
  obtain ⟨hbeforeMission, hbeforeOcs, -, hbeforeGeneration⟩ := hsame before
  rw [hgeneration, hbeforeGeneration]
  exact hnewest before hbefore (hbeforeMission.symm.trans hotherMission)
    (hbeforeOcs.symm.trans hotherOcs)

theorem LiveNewest.bound (hwired : Wired database) (h : LiveNewest database)
    {mission : MissionRow} {row : BindingRow} {active : Bool}
    (hbinds : Binds database mission row active)
    (hdormant : ∀ binding ∈ database.bindings, binding.missionId = row.missionId →
      binding.ocsId = row.ocsId → binding.status ≠ .active ∧
        (binding.status = .bound → row.ocsId ∉ routeTargets)) :
    LiveNewest (Trial2.bound database mission row active) := by
  have hgeneration : ∀ binding ∈ database.bindings, binding.missionId = row.missionId →
      binding.ocsId = row.ocsId → binding.generation ≤ row.generation := by
    intro binding hbinding hmission hocs
    rcases hbinds.epoch with ⟨hnone, -, -⟩ | ⟨prior, newest, -, hnewest, -, hrow⟩
    · have hsome := hwired.fenced binding hbinding
      rw [hmission, hocs, hnone] at hsome
      cases hsome
    · have hle := newest_spec hnewest binding hbinding hmission hocs
      omega
  intro binding hbinding hlive
  rw [Wired.bindings_bound, List.mem_append, List.mem_singleton] at hbinding
  rw [Wired.fencing_bound, Dict.lookup_insert_eq, Wired.bindings_bound]
  rcases hbinding with hold | rfl
  · have hother : ¬ (binding.missionId = row.missionId ∧ binding.ocsId = row.ocsId) := by
      rintro ⟨hmission, hocs⟩
      obtain ⟨hinactive, hunbound⟩ := hdormant binding hold hmission hocs
      rcases hlive with hactive | ⟨hstatus, htarget⟩
      · exact hinactive hactive
      · exact hunbound hstatus (hocs ▸ htarget)
    obtain ⟨hepoch, hnewest⟩ := h binding hold hlive
    constructor
    · rw [if_neg fun heq => hother (Prod.mk.inj heq)]
      exact hepoch
    · intro other hmem hmission hocs
      rcases List.mem_append.mp hmem with hbefore | hrow
      · exact hnewest other hbefore hmission hocs
      · rw [List.mem_singleton.mp hrow] at hmission hocs
        exact absurd ⟨hmission.symm, hocs.symm⟩ hother
  · rw [if_pos rfl]
    refine ⟨rfl, fun other hmem hmission hocs => ?_⟩
    rcases List.mem_append.mp hmem with hbefore | hrow
    · exact hgeneration other hbefore hmission hocs
    · rw [List.mem_singleton.mp hrow]

variable {handoffId receipt : String} {reading : Reading}

theorem LiveNewest.handedOver (hwired : Wired database) (h : LiveNewest database)
    (hacceptable : Acceptable database missionId handoffId reading) :
    LiveNewest (Trial2.handedOver database missionId handoffId reading reading.mission
      reading.row receipt) := by
  have hmap : LiveNewest { database with
      bindings := database.bindings.map (restatus reading) } := by
    apply h.map (restatus reading) fun _ => ⟨rfl, rfl, rfl, rfl⟩
    intro binding hbinding hlive
    by_cases htarget : binding.bindingId = reading.target.bindingId
    · obtain ⟨hmem, -⟩ := hwired.binding?_eq_some.mp hacceptable.receiver
      have hclaimable := hacceptable.claimable hwired
      obtain ⟨claimed, hclaimed, hclaimedId, -, hocs⟩ := hclaimable.target
      have hsame : binding = reading.target := hwired.eq_of_id hbinding hmem htarget
      have hsameClaimed : claimed = reading.target :=
        hwired.eq_of_id hclaimed hmem hclaimedId
      refine .inr ⟨hsame ▸ hacceptable.waiting, ?_⟩
      rw [hsame, ← hsameClaimed, hocs]
      exact hclaimable.route
    · by_cases hsource : binding.bindingId = reading.source.bindingId
      · have hstatus : (restatus reading binding).status = .quiescent := by
          simp only [restatus, if_neg htarget, if_pos hsource]
        simp [BindingRow.Live, hstatus] at hlive
      · simpa [BindingRow.Live, restatus, htarget, hsource] using hlive
  exact hmap.congr rfl rfl

/-! ## Checkpoints -/

/-- Every binding's checkpoint is stored, and every stored one can be read. -/
structure Saved (encoding : Encoding N) (database : Database) : Prop where
  stored : Stored database
  readable : ∀ row ∈ database.checkpoints,
    Readable encoding row.localStateJson row.localStateHash

theorem Saved.congr (h : Saved encoding database)
    (hbindings : after.bindings = database.bindings)
    (hcheckpoints : after.checkpoints = database.checkpoints) : Saved encoding after where
  stored := h.stored.congr hbindings hcheckpoints
  readable := by
    rw [hcheckpoints]
    exact h.readable

theorem Saved.bound (h : Saved encoding database) {mission : MissionRow} {row : BindingRow}
    {active : Bool} (hbinds : Binds database mission row active) :
    Saved encoding (Trial2.bound database mission row active) where
  stored := h.stored.bound hbinds
  readable := by
    rw [Stored.checkpoints_bound]
    exact h.readable

variable {mission : MissionRow}

theorem Saved.checkpointed (h : Saved encoding database)
    {binding : BindingRow} {row : CheckpointRow} {localState : PyValue N}
    (hsaves : Saves encoding database mission binding row localState)
    (hkeys : localState.KeysInOrder) :
    Saved encoding (Trial2.checkpointed database row binding.bindingId) where
  stored := h.stored.checkpointed hsaves
  readable := by
    intro found hfound
    rcases List.mem_append.mp hfound with hold | hrow
    · exact h.readable found hold
    · rw [List.mem_singleton.mp hrow]
      exact ⟨localState, hkeys, hsaves.json, hsaves.hash⟩

/-! ## Handoffs -/

/-- Every mission's current handoff is stored, and every stored one can be read and has
its receipt once it is accepted. -/
structure Delivered (encoding : Encoding N) (database : Database) : Prop where
  current : ∀ missionId mission, database.missions.lookup missionId = some mission →
    ∀ handoffId, mission.currentHandoffRef = some handoffId →
      ∃ row, database.handoffs.lookup handoffId = some row ∧ row.missionId = missionId
  readable : ∀ handoffId row, database.handoffs.lookup handoffId = some row →
    Readable encoding row.envelopeJson row.envelopeHash
  receipts : ∀ handoffId row, database.handoffs.lookup handoffId = some row →
    row.accepted = true → ∃ receipt, receipt ≠ "" ∧
      row.acceptanceReceiptRef = some receipt ∧ (database.receipts.lookup receipt).isSome

theorem Delivered.congr (h : Delivered encoding database)
    (hmissions : after.missions = database.missions)
    (hhandoffs : after.handoffs = database.handoffs)
    (hreceipts : ∀ receipt, (database.receipts.lookup receipt).isSome →
      (after.receipts.lookup receipt).isSome) : Delivered encoding after where
  current := by
    rw [hmissions, hhandoffs]
    exact h.current
  readable := by
    rw [hhandoffs]
    exact h.readable
  receipts := by
    rw [hhandoffs]
    intro handoffId row hrow haccepted
    obtain ⟨receipt, hnamed, href, hstored⟩ := h.receipts handoffId row hrow haccepted
    exact ⟨receipt, hnamed, href, hreceipts receipt hstored⟩

theorem Database.Noted.keepsReceipts {middle : Database} {kind : String}
    (hnoted : middle.Noted missionId kind receipt after) (other : String)
    (h : (middle.receipts.lookup other).isSome) : (after.receipts.lookup other).isSome := by
  obtain ⟨row, -, -, hreceipts⟩ := hnoted.receipts
  rw [hreceipts, Dict.lookup_insert_eq]
  split
  · rfl
  · exact h

theorem Delivered.of_noted {middle : Database} {kind : String}
    (h : Delivered encoding middle) (hnoted : middle.Noted missionId kind receipt after) :
    Delivered encoding after :=
  h.congr hnoted.missions hnoted.handoffs hnoted.keepsReceipts

theorem Delivered.updateMission (h : Delivered encoding database) (missionId : String)
    (hcurrent : ∀ handoffId, mission.currentHandoffRef = some handoffId →
      ∃ row, database.handoffs.lookup handoffId = some row ∧ row.missionId = missionId) :
    Delivered encoding (database.updateMission missionId mission) where
  current := by
    intro other found hfound handoffId href
    simp only [Database.updateMission, Dict.lookup_insert_eq] at hfound
    split at hfound
    · rename_i heq
      cases hfound
      rw [heq]
      exact hcurrent handoffId href
    · exact h.current other found hfound handoffId href
  readable := h.readable
  receipts := h.receipts

/-- A handoff's row of the same mission in the place of an old one, if there is one. -/
theorem Delivered.insertHandoff (h : Delivered encoding database) (handoffId : String)
    {row : HandoffRow}
    (hmission : ∀ old, database.handoffs.lookup handoffId = some old →
      row.missionId = old.missionId)
    (hreadable : Readable encoding row.envelopeJson row.envelopeHash)
    (hreceipt : row.accepted = true → ∃ receipt, receipt ≠ "" ∧
      row.acceptanceReceiptRef = some receipt ∧ (database.receipts.lookup receipt).isSome) :
    Delivered encoding { database with
      handoffs := database.handoffs.insert handoffId row } where
  current := by
    intro other found hfound current href
    obtain ⟨stored, hstored, hstoredMission⟩ := h.current other found hfound current href
    simp only [Dict.lookup_insert_eq]
    by_cases heq : current = handoffId
    · subst heq
      exact ⟨row, if_pos rfl, (hmission stored hstored).trans hstoredMission⟩
    · exact ⟨stored, (if_neg heq).trans hstored, hstoredMission⟩
  readable := by
    intro other found hfound
    simp only [Dict.lookup_insert_eq] at hfound
    split at hfound
    · cases hfound
      exact hreadable
    · exact h.readable other found hfound
  receipts := by
    intro other found hfound haccepted
    simp only [Dict.lookup_insert_eq] at hfound
    split at hfound
    · cases hfound
      exact hreceipt haccepted
    · exact h.receipts other found hfound haccepted

theorem Delivered.issued (h : Delivered encoding database) {mission : MissionRow}
    {source target : BindingRow} {handoffId : String} {row : HandoffRow}
    {envelope : PyValue N}
    (hissues : Issues encoding database mission source target handoffId row envelope)
    (hkeys : envelope.KeysInOrder) :
    Delivered encoding (Trial2.issued database mission handoffId row) := by
  have hinserted : Delivered encoding { database with
      handoffs := database.handoffs.insert handoffId row } := by
    apply h.insertHandoff handoffId
    · intro old hold
      rw [hissues.fresh] at hold
      cases hold
    · exact ⟨envelope, hkeys, hissues.json, hissues.hash⟩
    · intro haccepted
      rw [hissues.pending] at haccepted
      cases haccepted
  apply hinserted.updateMission row.missionId
  intro current href
  cases href
  exact ⟨row, AList.lookup_insert _, rfl⟩

theorem Delivered.handedOver (h : Delivered encoding database) (hacceptable : Acceptable database missionId handoffId reading)
    (hnamed : receipt ≠ "")
    (hnoted : (Trial2.handedOver database missionId handoffId reading reading.mission
      reading.row receipt).Noted missionId "handoff_acceptance" receipt after) :
    Delivered encoding after := by
  obtain ⟨noted, -, -, hreceipts⟩ := hnoted.receipts
  -- the acceptance refers to the receipt that is noted with it
  have hreceipted : Delivered encoding { database with
      receipts := database.receipts.insert receipt noted } := by
    constructor
    case current => exact h.current
    case readable => exact h.readable
    case receipts =>
      intro other row hrow haccepted
      obtain ⟨stored, hstoredNamed, href, hstored⟩ := h.receipts other row hrow haccepted
      refine ⟨stored, hstoredNamed, href, ?_⟩
      simp only [Dict.lookup_insert_eq]
      split
      · rfl
      · exact hstored
  let closed : HandoffRow :=
    { reading.row with accepted := true, acceptanceReceiptRef := some receipt }
  have hinserted : Delivered encoding { database with
      receipts := database.receipts.insert receipt noted
      handoffs := database.handoffs.insert handoffId closed } := by
    apply hreceipted.insertHandoff handoffId
    · intro old hold
      rw [hacceptable.row] at hold
      cases hold
      rfl
    · exact h.readable handoffId reading.row hacceptable.row
    · intro _
      exact ⟨receipt, hnamed, rfl, by simp⟩
  have hadvanced := hinserted.updateMission missionId (by
    intro current (href : (advanced handoffId reading reading.mission).currentHandoffRef =
      some current)
    cases href
    exact ⟨closed, AList.lookup_insert _, hacceptable.ofMission⟩)
  apply hadvanced.congr
  · exact hnoted.missions
  · exact hnoted.handoffs
  · intro other hother
    rw [hreceipts]
    exact hother

/-! ## Runs -/

/-- What an orderly run keeps. -/
structure Tended (encoding : Encoding N) (database : Database) : Prop where
  wired : Wired database
  newest : LiveNewest database
  saved : Saved encoding database
  delivered : Delivered encoding database

theorem Tended.start : Tended encoding .empty where
  wired := Wired.start
  newest := fun _ hmem => absurd hmem List.not_mem_nil
  saved := ⟨fun _ hmem => absurd hmem List.not_mem_nil,
    fun _ hmem => absurd hmem List.not_mem_nil⟩
  delivered := by
    constructor
    case current => exact fun _ _ hfound => nomatch hfound
    case readable => exact fun _ _ hfound => nomatch hfound
    case receipts => exact fun _ _ hfound => nomatch hfound

theorem Tended.of_same (h : Tended encoding database) (hsame : database.SameRecords after) :
    Tended encoding after where
  wired := h.wired.of_same hsame
  newest := h.newest.congr hsame.bindings hsame.fencing
  saved := h.saved.congr hsame.bindings hsame.checkpoints
  delivered := by
    apply h.delivered.congr hsame.missions hsame.handoffs
    intro receipt hreceipt
    rw [hsame.receipts]
    exact hreceipt

theorem Tended.of_noted {middle : Database} {kind : String}
    (h : Tended encoding middle) (hnoted : middle.Noted missionId kind receipt after) :
    Tended encoding after where
  wired := h.wired.of_noted hnoted
  newest := h.newest.congr hnoted.bindings hnoted.fencing
  saved := h.saved.congr hnoted.bindings hnoted.checkpoints
  delivered := h.delivered.of_noted hnoted

theorem Tended.bound (h : Tended encoding database) {mission : MissionRow} {row : BindingRow}
    {active : Bool} (hbinds : Binds database mission row active)
    (hdormant : ∀ binding ∈ database.bindings, binding.missionId = row.missionId →
      binding.ocsId = row.ocsId → binding.status ≠ .active ∧
        (binding.status = .bound → row.ocsId ∉ routeTargets)) :
    Tended encoding (Trial2.bound database mission row active) where
  wired := h.wired.bound hbinds
  newest := h.newest.bound h.wired hbinds hdormant
  saved := h.saved.bound hbinds
  delivered := by
    cases active with
    | false => exact h.delivered.congr rfl rfl fun _ hreceipt => hreceipt
    | true =>
      have hinserted : Delivered encoding { database with
          fencing := database.fencing.insert (row.missionId, row.ocsId) row.fencingEpoch
          bindings := database.bindings ++ [row] } :=
        h.delivered.congr rfl rfl fun _ hreceipt => hreceipt
      apply hinserted.updateMission row.missionId
      exact h.delivered.current row.missionId mission hbinds.found

theorem Tended.checkpointed (h : Tended encoding database)
    {binding : BindingRow} {row : CheckpointRow} {localState : PyValue N}
    (hsaves : Saves encoding database mission binding row localState)
    (hkeys : localState.KeysInOrder) :
    Tended encoding (Trial2.checkpointed database row binding.bindingId) where
  wired := h.wired.checkpointed row binding.bindingId
  newest := by
    have hmap := h.newest.map fun found =>
      if decide (found.bindingId = binding.bindingId) then
        { found with checkpointRef := some row.checkpointId }
      else found
    apply LiveNewest.congr (hmap _ _) rfl rfl
    · intro found
      split <;> exact ⟨rfl, rfl, rfl, rfl⟩
    · intro found _ hlive
      split at hlive
      · exact hlive
      · exact hlive
  saved := h.saved.checkpointed hsaves hkeys
  delivered := h.delivered.congr rfl rfl fun _ hreceipt => hreceipt

theorem Tended.issued (h : Tended encoding database) {mission : MissionRow}
    {source target : BindingRow} {handoffId : String} {row : HandoffRow}
    {envelope : PyValue N}
    (hissues : Issues encoding database mission source target handoffId row envelope)
    (hkeys : envelope.KeysInOrder) :
    Tended encoding (Trial2.issued database mission handoffId row) where
  wired := h.wired.issued hissues
  newest := h.newest.congr rfl rfl
  saved := h.saved.congr rfl rfl
  delivered := h.delivered.issued hissues hkeys

theorem Tended.handedOver (h : Tended encoding database) (hacceptable : Acceptable database missionId handoffId reading)
    (hnamed : receipt ≠ "")
    (hnoted : (Trial2.handedOver database missionId handoffId reading reading.mission
      reading.row receipt).Noted missionId "handoff_acceptance" receipt after) :
    Tended encoding after where
  wired := (h.wired.handedOver (hacceptable.claimable h.wired)).of_noted hnoted
  newest := (h.newest.handedOver h.wired hacceptable).congr hnoted.bindings hnoted.fencing
  saved := Saved.congr ⟨h.saved.stored.handedOver _ _ _ _ _, h.saved.readable⟩
    hnoted.bindings hnoted.checkpoints
  delivered := h.delivered.handedOver hacceptable hnamed hnoted

/-- An orderly call keeps all of it. -/
theorem Tended.step (h : Tended encoding database) {call : Call N}
    (horderly : Orderly encoding database call) :
    Tended encoding (perform encoding database call) := by
  by_cases haccepted : Accepted encoding database call
  · have hchange := perform_change encoding database call
    cases hchange with
    | same hsame => exact h.of_same hsame
    | created hnew hocs hinstance hhandoff hbudget hsame =>
      apply Tended.of_same _ hsame
      constructor
      case wired => exact h.wired.created hnew hocs hinstance hbudget
      case newest => exact h.newest.congr rfl rfl
      case saved => exact h.saved.congr rfl rfl
      case delivered =>
        apply h.delivered.updateMission
        intro current href
        rw [hhandoff] at href
        cases href
    | bound hbinds hnoted => exact (h.bound hbinds (horderly haccepted)).of_noted hnoted
    | checkpointed hsaves hnoted => exact (h.checkpointed hsaves horderly).of_noted hnoted
    | issued hissues hnoted => exact (h.issued hissues horderly).of_noted hnoted
    | accepted hacceptable hnamed hnoted => exact h.handedOver hacceptable hnamed hnoted
    | applied _ _ _ _ hnoted =>
      constructor
      case wired =>
        exact h.wired.congr hnoted.missions hnoted.bindings hnoted.fencing hnoted.handoffs
      case newest => exact h.newest.congr hnoted.bindings hnoted.fencing
      case saved => exact h.saved.congr hnoted.bindings hnoted.checkpoints
      case delivered =>
        exact h.delivered.congr hnoted.missions hnoted.handoffs hnoted.keepsReceipts
  · exact h.of_same (perform_of_not_accepted haccepted)

/-! ## Accepted handoffs and recoveries -/

theorem Tended.newestActive (h : Tended encoding database)
    {instanceId : String} (hfound : database.missions.lookup missionId = some mission)
    (hpointer : mission.activeInstanceId = some instanceId) :
    NewestActive database missionId := by
  obtain ⟨binding, hbinding, hkey, hocs⟩ :=
    h.wired.seated missionId mission hfound instanceId hpointer
  obtain ⟨hmission, hinstance⟩ := Prod.mk.inj hkey
  have hactive : binding.status = .active := by
    apply (h.wired.active binding hbinding).mpr
    refine ⟨mission, ?_, ?_⟩
    · rw [hmission]
      exact hfound
    · rw [hinstance]
      exact hpointer
  refine ⟨mission, hfound, binding, hbinding, hmission, ?_, hocs, hactive, ?_⟩
  · rw [hinstance]
    exact hpointer
  · have hnewest := (h.newest binding hbinding (.inl hactive)).2
    rw [hmission] at hnewest
    exact hnewest

theorem checkCheckpoint_ok {checkpointRef : String} (h : Saved encoding database)
    (hstored : ∃ row ∈ database.checkpoints, row.checkpointId = checkpointRef) :
    checkCheckpoint encoding database checkpointRef = .ok () := by
  unfold checkCheckpoint
  cases hfound : database.checkpoints.find? (·.checkpointId = checkpointRef) with
  | none =>
    obtain ⟨row, hrow, hid⟩ := hstored
    have hmissing := List.find?_eq_none.mp hfound row hrow
    exact absurd (decide_eq_true hid) hmissing
  | some row =>
    obtain ⟨value, hloads, hhash⟩ :=
      (h.readable row (List.mem_of_find?_eq_some hfound)).loads
    simp only [hloads, hhash, ne_eq, not_true_eq_false, if_false]

theorem Delivered.checkCurrentHandoff_ok (h : Delivered encoding database) (hfound : database.missions.lookup missionId = some mission)
    {handoffOf : Database → String → Except Trial2Error HandoffRow}
    (hquery : ∀ handoffId row, database.handoffs.lookup handoffId = some row →
      row.missionId = missionId → Readable encoding row.envelopeJson row.envelopeHash →
      handoffOf database handoffId = .ok row) :
    checkCurrentHandoff handoffOf database mission = .ok () := by
  unfold checkCurrentHandoff
  cases hcurrent : given mission.currentHandoffRef with
  | none => rfl
  | some handoffId =>
    obtain ⟨row, hrow, hmission⟩ :=
      h.current missionId mission hfound handoffId (given_eq_some hcurrent).1
    simp only [hquery handoffId row hrow hmission (h.readable handoffId row hrow),
      Bind.bind, Except.bind]
    cases haccepted : row.accepted with
    | false => rfl
    | true =>
      obtain ⟨receipt, hnamed, href, hstored⟩ := h.receipts handoffId row hrow haccepted
      have hgiven : given row.acceptanceReceiptRef = some receipt := by
        rw [given, href, Option.filter_some, if_pos (decide_eq_true hnamed)]
      have hpresent : (database.receipts.lookup receipt).isNone = false := by
        rw [← Option.not_isSome, hstored]
        rfl
      simp only [hgiven, hpresent, Bool.not_true, Bool.false_eq_true, if_false]

theorem given_of_ne {text : String} (h : text ≠ "") : given (some text) = some text := by
  rw [given, Option.filter_some, if_pos (decide_eq_true h)]

theorem Tended.recovers (h : Tended encoding database)
    {handoffOf : Database → String → Except Trial2Error HandoffRow}
    (hquery : ∀ handoffId row, database.handoffs.lookup handoffId = some row →
      row.missionId = missionId → Readable encoding row.envelopeJson row.envelopeHash →
      handoffOf database handoffId = .ok row)
    {authorityValidator : String → String → String → Bool} {now : ℕ → String}
    (hrecoverable : Recoverable database missionId authorityValidator)
    (hfresh : ∀ mission, database.missions.lookup missionId = some mission →
      database.observability.lookup (encoding.eventId missionId
        "restart_recovery_revalidated" (encoding.mission missionId mission)
        (encoding.mission missionId mission) (now 0)) = none) :
    ∃ answer, recoverSnapshotWith encoding handoffOf missionId authorityValidator now
      database = .ok answer := by
  obtain ⟨mission, hfound, instanceId, ocsId, hpointer, hocs, binding, hbinding, hsaved,
    hauthority⟩ := hrecoverable
  obtain ⟨checkpointRef, href⟩ := Option.isSome_iff_exists.mp hsaved
  obtain ⟨hmem, hkey⟩ := h.wired.binding?_eq_some.mp hbinding
  obtain ⟨hmission, hinstance⟩ := Prod.mk.inj hkey
  obtain ⟨seated, hseated, hseatedKey, hseatedOcs⟩ :=
    h.wired.seated missionId mission hfound instanceId hpointer
  have hsame : seated = binding :=
    h.wired.eq_of_key hseated hmem (hseatedKey.trans hkey.symm)
  have hbindingOcs : ocsId = binding.ocsId := by
    rw [hocs, hsame] at hseatedOcs
    exact Option.some.inj hseatedOcs
  have hactive : binding.status = .active := by
    apply (h.wired.active binding hmem).mpr
    rw [hmission, hinstance]
    exact ⟨mission, hfound, hpointer⟩
  obtain ⟨hnamedOcs, hnamedInstance⟩ := h.wired.named binding hmem
  rw [hinstance] at hnamedInstance
  rw [← hbindingOcs] at hnamedOcs
  have hepoch := (h.newest binding hmem (.inl hactive)).1
  rw [hmission, ← hbindingOcs] at hepoch
  obtain ⟨hnamedRef, hstored⟩ := h.saved.stored binding hmem checkpointRef href
  have hmissionOk : database.mission missionId = .ok mission := by
    rw [Database.mission, hfound]
  have hbindingOk : database.binding missionId instanceId = .ok binding := by
    rw [Database.binding, hbinding]
  have hcheckpointOk := checkCheckpoint_ok h.saved hstored
  have hhandoffOk := h.delivered.checkCurrentHandoff_ok hfound hquery
  unfold recoverSnapshotWith
  rw [hmissionOk]
  simp only [Bind.bind, Except.bind, hocs, hpointer, given_of_ne hnamedOcs,
    given_of_ne hnamedInstance, hbindingOk, hactive, href, given_of_ne hnamedRef,
    hcheckpointOk, hepoch, hauthority, hhandoffOk, Database.observe,
    hfresh mission hfound, ne_eq, not_true_eq_false, if_false, Option.isSome_none,
    Bool.not_true, Bool.false_eq_true]
  exact ⟨_, rfl⟩

theorem Tended.targetsLive (h : Tended encoding database) {call : Call N}
    (horderly : Orderly encoding database call) : TargetsLive encoding database call := by
  cases call with
  | acceptHandoff store missionId handoffId now =>
    rintro ⟨⟨after, receipt⟩, haccept⟩
    have hafter : Tended encoding (perform encoding database
        (.acceptHandoff store missionId handoffId now)) := h.step horderly
    rw [perform, Transaction.leaves, haccept] at hafter ⊢
    obtain ⟨reading, hacceptable, -, hnoted⟩ := acceptHandoff_spec haccept
    apply hafter.newestActive
    · rw [hnoted.missions]
      exact AList.lookup_insert _
    · rfl
  | recoverSnapshot store missionId authorityValidator now =>
    intro hrecoverable
    cases store with
    | persistent =>
      apply h.recovers _ hrecoverable horderly
      intro handoffId row hrow _ _
      simp only [hrow]
    | integrityChecked =>
      apply h.recovers _ hrecoverable horderly
      intro handoffId row hrow hmission hreadable
      obtain ⟨value, hloads, hhash⟩ := hreadable.loads
      have hfound : database.handoffRow missionId handoffId = .ok row := by
        rw [Database.handoffRow, hrow]
        exact if_pos hmission
      simp only [Database.validatedHandoffRow, hfound, Bind.bind, Except.bind, hloads,
        hhash, ne_eq, not_true_eq_false, if_false]
      rfl
  | createMission => trivial
  | bind => trivial
  | checkpoint => trivial
  | issueHandoff => trivial
  | applySyntheticEffect => trivial
  | writeState => trivial

/-- Along an orderly run every accepted handoff activates the newest generation of its
target, and every recovery of an active instance with a checkpoint and a valid authority
succeeds. -/
theorem targets_live_of_orderly (encoding : Encoding N) (calls : List (Call N))
    (horderly : Admissible (perform encoding) (Orderly encoding) .empty calls)
    (before : List (Call N)) (call : Call N) (hcall : before ++ [call] <+: calls) :
    TargetsLive encoding (run (perform encoding) .empty before) call := by
  obtain ⟨hbefore, hlast⟩ := Admissible.append.mp (horderly.of_prefix hcall)
  have htended : Tended encoding (run (perform encoding) .empty before) :=
    run_invariant_of_admissible (Tended encoding) (fun _ _ h => h.step) Tended.start hbefore
  exact htended.targetsLive hlast.1

/-- SOFIA is active and has a checkpoint. -/
def checkpointedCalls : List (Call ℤ) :=
  [.createMission "m-001" "state:m-001" "gate-1" 3 (clockAt "t1"),
    .bind "m-001" "SOFIA" "sofia-1" "authority-1" "role-1" true (clockAt "t2"),
    .checkpoint "m-001" "sofia-1" (.dict [("step", .number 1)]) (clockAt "t3")]

/-- The recovery of the checkpointed instance. -/
def recovery : Call ℤ :=
  .recoverSnapshot .integrityChecked "m-001" (fun _ _ _ => true) (clockAt "t5")

theorem checkpointed_orderly :
    Admissible (perform plainEncoding) (Orderly plainEncoding) .empty
      (checkpointedCalls ++ [recovery]) := by
  refine ⟨trivial, ?_, ?_, ?_, trivial⟩
  · intro _ binding hbinding
    have hnone : (perform plainEncoding .empty (.createMission "m-001" "state:m-001" "gate-1" 3
        (clockAt "t1"))).bindings = [] := by
      decide +kernel
    rw [hnone] at hbinding
    cases hbinding
  · exact ⟨List.nodup_singleton _, trivial, trivial⟩
  · intro mission hmission
    have hfresh : ((run (perform plainEncoding) .empty checkpointedCalls).missions.lookup
        "m-001").all (fun mission =>
          ((run (perform plainEncoding) .empty checkpointedCalls).observability.lookup
            (plainEncoding.eventId "m-001" "restart_recovery_revalidated"
              (plainEncoding.mission "m-001" mission) (plainEncoding.mission "m-001" mission)
              "t5")).isNone) = true := by
      decide +kernel
    have hfound : (run (perform plainEncoding) .empty checkpointedCalls).missions.lookup
        "m-001" = some mission := hmission
    rw [hfound, Option.all_some] at hfresh
    exact Option.isNone_iff_eq_none.mp hfresh

theorem recoverable_of_eval {database : Database} {ocsId instanceId : String}
    (hmission : (database.missions.lookup missionId).map (fun mission =>
      (mission.activeOcsId, mission.activeInstanceId)) = some (some ocsId, some instanceId))
    (hbinding : (database.binding? missionId instanceId).map (fun binding =>
      binding.checkpointRef.isSome) = some true) :
    Recoverable database missionId fun _ _ _ => true := by
  obtain ⟨mission, hfound, hpointer⟩ := Option.map_eq_some_iff.mp hmission
  obtain ⟨binding, hseated, hsaved⟩ := Option.map_eq_some_iff.mp hbinding
  obtain ⟨hocs, hinstance⟩ := Prod.mk.inj hpointer
  exact ⟨mission, hfound, instanceId, ocsId, hinstance, hocs, binding, hseated, hsaved, rfl⟩

/-- The checkpointed instance is recovered. -/
theorem checkpointed_recovered :
    Accepted plainEncoding (run (perform plainEncoding) .empty checkpointedCalls) recovery :=
  targets_live_of_orderly plainEncoding (checkpointedCalls ++ [recovery])
    checkpointed_orderly checkpointedCalls recovery (List.prefix_refl _)
    (recoverable_of_eval (by decide +kernel :
      ((run (perform plainEncoding) .empty checkpointedCalls).missions.lookup "m-001").map
        (fun mission => (mission.activeOcsId, mission.activeInstanceId)) =
          some (some "SOFIA", some "sofia-1")) (by decide +kernel))

/-- SOFIA is bound anew and its active instance cannot be recovered any more. -/
theorem rebound_recovery_not_live :
    let rebound : Call ℤ :=
      .bind "m-001" "SOFIA" "sofia-2" "authority-2" "role-1" false (clockAt "t4")
    ¬ ∀ before call, before ++ [call] <+: checkpointedCalls ++ [rebound, recovery] →
      TargetsLive plainEncoding (run (perform plainEncoding) .empty before) call := by
  intro rebound h
  have hlive := h (checkpointedCalls ++ [rebound]) recovery (List.prefix_refl _)
  have hmission : ((run (perform plainEncoding) .empty
      (checkpointedCalls ++ [rebound])).missions.lookup "m-001").map (fun mission =>
        (mission.activeOcsId, mission.activeInstanceId)) =
      some (some "SOFIA", some "sofia-1") := by
    decide +kernel
  have hbinding : ((run (perform plainEncoding) .empty
      (checkpointedCalls ++ [rebound])).binding? "m-001" "sofia-1").map (fun binding =>
        binding.checkpointRef.isSome) = some true := by
    decide +kernel
  have hrefused : (IntegrityChecked.recoverSnapshot plainEncoding "m-001" (fun _ _ _ => true)
      (clockAt "t5") (run (perform plainEncoding) .empty
        (checkpointedCalls ++ [rebound]))).map Prod.snd =
      .error (.hold "fencing_revalidation_failure") := by
    decide +kernel
  generalize run (perform plainEncoding) .empty (checkpointedCalls ++ [rebound]) =
    database at *
  obtain ⟨answer, hrecovered⟩ := hlive (recoverable_of_eval hmission hbinding)
  have haccepted : IntegrityChecked.recoverSnapshot plainEncoding "m-001" (fun _ _ _ => true)
      (clockAt "t5") database = .ok answer := hrecovered
  rw [haccepted] at hrefused
  cases hrefused

end ReisOs.Trial2
