import ReisOs.Command.ViewLocality

/-!
# How long a recovery is reported

The proof of a recovery compares the row of the successor with that of its predecessor,
whose `checkpoint_version` is one less.  While the successor is attached, acknowledged
and checkpointed, the proof is reported until it commits a checkpoint of its own, and
never again.
-/

namespace ReisOs.Command

open ReisOs.Core ReisOs.Kernel ReisOs.Instances Registry

variable {updatedAt : String → ℕ → Time} {state : RegistryState} {bindingId : String}

/-- The recovery view of a binding reports a complete proof. -/
def ReportsRecovered (updatedAt : String → ℕ → Time) (state : RegistryState)
    (bindingId : String) : Prop :=
  ∃ row ∈ (ofState updatedAt state).bindings, row.bindingId = bindingId ∧
    .recovered ∈ (ofState updatedAt state).phases row

instance : Decidable (ReportsRecovered updatedAt state bindingId) :=
  inferInstanceAs (Decidable
    (∃ row ∈ (ofState updatedAt state).bindings, row.bindingId = bindingId ∧
      .recovered ∈ (ofState updatedAt state).phases row))

/-- The call attaches, acknowledges or checkpoints the binding. -/
def IsLifecycleOf {S : Type} (bindingId : String) : Call S → Prop
  | .attach call => call.bindingId = bindingId
  | .acknowledge ack _ => ack.bindingId = bindingId
  | .checkpoint call => call.bindingId = bindingId
  | .prepare _ | .replaceInstance _ | .recoverInstance .. => False

/-! ## The proof of a recovery -/

/-- What `_recovery_proof` finds when all of its checks hold. -/
structure Recovers (registry : Registry) (current previous : BindingRow) : Prop where
  generation : current.generation = previous.generation + 1
  checkpointVersion : current.checkpointVersion = previous.checkpointVersion + 1
  checkpointHash : (current.checkpointHash.any (· ≠ "")) = true
  hazelEventHash : (current.hazelEventHash.any (· ≠ "")) = true
  identity : current.profileHash = previous.profileHash ∧
    current.identityBindingHash = previous.identityBindingHash ∧
    current.authorityRef = previous.authorityRef ∧
    current.stateNamespace = previous.stateNamespace ∧
    current.memoryNamespace = previous.memoryNamespace
  readback : ∃ entry ∈ registry.journal, entry.bindingId = current.bindingId ∧
    entry.eventType = "OCS_REPLACEMENT_PERSISTED"
  saga : ((registry.replacementSaga previous.bindingId).any
    (·.state = .leaseFinalized)) = true

variable {registry : Registry}

theorem mem_events {eventType : String} :
    eventType ∈ (registry.journalRows bindingId).map JournalEntry.eventType ↔
      ∃ entry ∈ registry.journal, entry.bindingId = bindingId ∧
        entry.eventType = eventType := by
  simp [journalRows, and_assoc]

theorem recoveryComplete_iff {current : BindingRow}
    {predecessor : Option BindingRow} :
    registry.recoveryComplete current predecessor = true ↔
      ∃ previous, predecessor = some previous ∧ Recovers registry current previous := by
  unfold recoveryComplete recoveryChecks
  rw [List.all_eq_true]
  constructor
  · intro h
    simp only [List.forall_mem_cons, decide_eq_true_eq, mem_events] at h
    obtain ⟨hpresent, hgeneration, hversion, hhash, hevent, hidentity, hreadback, hsaga, -⟩ := h
    obtain ⟨previous, rfl⟩ := Option.isSome_iff_exists.mp hpresent
    exact ⟨previous, rfl, of_decide_eq_true hgeneration, of_decide_eq_true hversion, hhash,
      hevent, of_decide_eq_true hidentity, hreadback, hsaga⟩
  · rintro ⟨previous, rfl, h⟩
    simp only [List.forall_mem_cons, decide_eq_true_eq, mem_events]
    exact ⟨rfl, decide_eq_true h.generation, decide_eq_true h.checkpointVersion,
      h.checkpointHash, h.hazelEventHash, decide_eq_true h.identity, h.readback, h.saga,
      List.forall_mem_nil _⟩

theorem reportsRecovered_iff : ReportsRecovered updatedAt state bindingId ↔
    ∃ row ∈ (ofState updatedAt state).bindings, row.bindingId = bindingId ∧
      ∃ previous, (ofState updatedAt state).predecessor row = some previous ∧
        Recovers (ofState updatedAt state) row previous := by
  have hphases (row : BindingRow) : .recovered ∈ (ofState updatedAt state).phases row ↔
      (ofState updatedAt state).recoveryComplete row
        ((ofState updatedAt state).predecessor row) = true := by
    simp [phases]
  unfold ReportsRecovered
  simp only [hphases, recoveryComplete_iff]

/-! ## The successor -/

/-- A later state of a row, with the same checkpoint while its version is the same. -/
structure Follows (earlier later : InstanceBinding) : Prop where
  fixed : later.fixed = earlier.fixed
  version : earlier.checkpointVersion ≤ later.checkpointVersion
  same : later.checkpointVersion = earlier.checkpointVersion →
    later.checkpointHash = earlier.checkpointHash ∧
      later.hazelEventHash = earlier.hazelEventHash

/-- Everything but one binding. -/
def successorFrame (store : InstanceStore) (successor : InstanceBinding) : Frame where
  kept bindingId := bindingId ≠ successor.bindingId
  part := store.part fun bindingId => bindingId ≠ successor.bindingId
  Like := Follows successor

variable {successor : InstanceBinding}

theorem moves_successor {store : InstanceStore}
    {arguments : InstanceStore.Transition}
    (h : (arguments.checkpointVersion = none ∧ arguments.checkpointHash = none ∧
        arguments.hazelEventHash = none) ∨
      ∃ version, arguments.checkpointVersion = some version ∧
        successor.checkpointVersion < version) :
    (successorFrame store successor).Moves arguments := by
  intro current row hcurrent hrow
  rcases h with ⟨hversion, hhash, hevent⟩ | ⟨version, hversion, hlt⟩
  · constructor
    · exact hrow.fixed
    · simp only [InstanceStore.Transition.overRow, InstanceStore.Transition.columns, hversion]
      exact hcurrent.version
    · simp only [InstanceStore.Transition.overRow, InstanceStore.Transition.columns, hversion,
        hhash, hevent]
      exact hcurrent.same
  · constructor
    · exact hrow.fixed
    · simp only [InstanceStore.Transition.overRow, InstanceStore.Transition.columns, hversion]
      exact Nat.le_of_lt hlt
    · simp only [InstanceStore.Transition.overRow, InstanceStore.Transition.columns, hversion]
      intro hsame
      exact absurd hsame (Nat.ne_of_gt hlt)

variable {S : Type} [DecidableEq S]

theorem obeys_lifecycle (config : BinderConfig S) (folding : TextFolding)
    {store : InstanceStore} {made : Call S}
    (h : IsLifecycleOf successor.bindingId made) :
    Script.Obeys (successorFrame store successor).served (made.script config folding) := by
  have hforeign {bindingId : String} (hid : bindingId = successor.bindingId) :
      (successorFrame store successor).kept bindingId = false := by
    rw [hid]
    exact decide_eq_false fun hne => hne rfl
  cases made with
  | attach call =>
    have hobeys := Frame.obeys_attach (S := S) folding call (hforeign h)
      (moves_successor (Or.inl ⟨rfl, rfl, rfl⟩))
    exact hobeys.bind fun _ => Script.obeys_pure ()
  | acknowledge ack expectedVersion =>
    have hobeys := Frame.obeys_acknowledge config ack expectedVersion (hforeign h)
      (moves_successor (Or.inl ⟨rfl, rfl, rfl⟩))
    exact hobeys.bind fun _ => Script.obeys_pure ()
  | checkpoint call =>
    have hobeys := Frame.obeys_checkpoint config call (hforeign h) fun binding _ hbinding =>
      moves_successor (Or.inr ⟨_, rfl, Nat.lt_succ_of_le hbinding.version⟩)
    exact hobeys.bind fun _ => Script.obeys_pure ()
  | prepare request => exact absurd h id
  | replaceInstance call => exact absurd h id
  | recoverInstance organizationId missionId ocsId => exact absurd h id

theorem holds_successorFrame
    (hmem : successor ∈ state.store.bindings) :
    (successorFrame state.store successor).Holds state.store where
  wellFormed := state.wellFormed
  part := rfl
  like row hrow hother := by
    have hid : row.bindingId = successor.bindingId := by
      by_contra hne
      have hkept : (successorFrame state.store successor).kept row.bindingId = true :=
        decide_eq_true hne
      rw [hkept] at hother
      cases hother
    rw [List.inj_on_of_nodup_map state.wellFormed.bindings hrow hmem hid]
    exact ⟨rfl, Nat.le_refl _, fun _ => ⟨rfl, rfl⟩⟩

/-- A proof that holds, against a later state of the successor with all else the same:
it still holds if the checkpoint version is the same. -/
theorem recovers_iff {registry later : Registry} {current next previous : BindingRow}
    (h : Recovers registry current previous)
    (hfollows : Follows current.toInstanceBinding next.toInstanceBinding)
    (hjournal : ∀ entry ∈ registry.journal, entry ∈ later.journal)
    (hsaga : registry.replacementSaga previous.bindingId =
      later.replacementSaga previous.bindingId) :
    Recovers later next previous ↔ next.checkpointVersion = current.checkpointVersion := by
  have hfixed {A : Type} (column : InstanceBinding → A)
      (hcolumn : ∀ binding, column binding.fixed = column binding) :
      column next.toInstanceBinding = column current.toInstanceBinding :=
    InstanceBinding.column_of_fixed hfollows.fixed column hcolumn
  constructor
  · intro hlater
    rw [hlater.checkpointVersion, h.checkpointVersion]
  · intro hversion
    obtain ⟨hhash, hevent⟩ := hfollows.same hversion
    constructor
    · exact (hfixed (·.generation) fun _ => rfl).trans h.generation
    · exact hversion.trans h.checkpointVersion
    · rw [hhash]
      exact h.checkpointHash
    · rw [hevent]
      exact h.hazelEventHash
    · rw [hfixed (·.profileHash) fun _ => rfl, hfixed (·.identityBindingHash) fun _ => rfl,
        hfixed (·.authorityRef) fun _ => rfl, hfixed (·.stateNamespace) fun _ => rfl,
        hfixed (·.memoryNamespace) fun _ => rfl]
      exact h.identity
    · obtain ⟨entry, hentry, hid, htype⟩ := h.readback
      exact ⟨entry, hjournal entry hentry,
        hid.trans (hfixed (·.bindingId) fun _ => rfl).symm, htype⟩
    · rw [← hsaga]
      exact h.saga

theorem row_unique {row other : BindingRow}
    (hrow : row ∈ registry.bindings) (hother : other ∈ registry.bindings)
    (hid : other.bindingId = row.bindingId) : other = row :=
  List.inj_on_of_nodup_map registry.keys hother hrow hid

/-- The checkpoint of the first worker. -/
def sofiaFirstCheckpoint : CheckpointCall ℕ :=
  { bindingId := Instances.sofiaBinding
    authority := sofiaRequest "lease:cp" "key:cp" none
    platformInstanceId := "worker", generation := 1, expectedVersion := 4, state := 7
    idempotencyKey := "key:cp" }

/-- The request of the replacement, caused by the event of the checkpoint. -/
def sofiaNext : PrepareInstanceRequest :=
  sofiaRequest "lease:next" "key:next"
    (some (withNumber s!"run:REIS OS/org/mission/SOFIA/{Instances.sofiaBinding}/checkpoint:1:7" 2))

def sofiaSuccessor : String := sofiaConfig.bindingId sofiaNext

def sofiaReplacement : ReplaceCall :=
  { bindingId := Instances.sofiaBinding, request := sofiaNext, platformInstanceId := "worker"
    generation := 1, expectedVersion := 5, idempotencyKey := "key:replace" }

/-- The first worker is prepared, attached, acknowledged, checkpointed and replaced. -/
def sofiaReplaced : List (Happening ℕ) :=
  [.clock fun index => 10 + index,
    .issue 5 (sofiaLease "lease:bind" "ocs_instance_binding" 1 1000),
    .issue 5 (sofiaLease "lease:cp" "ocs_instance_checkpoint" 1 1000),
    .issue 5 (sofiaLease "lease:next" "ocs_instance_binding" 1 1000),
    .issue 5 (sofiaLease "lease:cp2" "ocs_instance_checkpoint" 1 1000),
    .call (.prepare sofiaFirst), .call (.attach sofiaAttach),
    .call (.acknowledge sofiaAck 3), .call (.checkpoint sofiaFirstCheckpoint),
    .call (.replaceInstance sofiaReplacement)]

/-- The second worker is attached, acknowledged and checkpointed. -/
def sofiaSecond : List (Call ℕ) :=
  [.attach ⟨sofiaSuccessor, ⟨"worker2", "SOFIA"⟩, 2, "key:attach2"⟩,
    .acknowledge
      { bindingId := sofiaSuccessor, platformInstanceId := "worker2", generation := 2
        bootstrapHash := withNumber s!"{sofiaSuccessor}/bound" 24
        identityBindingHash := withNumber "run:REIS OS/org/mission/SOFIA" 11
        challengeNonce := "key:next/lease:next", idempotencyKey := "key:ack2" } 3,
    .checkpoint
      { bindingId := sofiaSuccessor
        authority := sofiaRequest "lease:cp2" "key:cp2" none
        platformInstanceId := "worker2", generation := 2, expectedVersion := 4, state := 8
        idempotencyKey := "key:cp2" }]

def sofiaRegistry : RegistryState := .ofAlone sofiaConfig plainFolding sofiaReplaced

def sofiaOperations : List (Operation ℕ) :=
  sofiaSecond.map fun made =>
    .within (reachedAlone sofiaConfig plainFolding sofiaReplaced) made 100

/-- The row's time is its version. -/
def versionTime : String → ℕ → Time := fun _ version => version

end ReisOs.Command
