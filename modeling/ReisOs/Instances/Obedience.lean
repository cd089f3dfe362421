import ReisOs.Core.Interleaving
import ReisOs.Instances.Calls
import ReisOs.Instances.Lineages

/-!
# Services under a discipline

The services are built from a few kinds of atomic steps.  A discipline that allows
these steps is obeyed by every call of the bridge, of recovery and of the binder, but
for the preparation of a first generation, which needs more.
-/

namespace ReisOs.Instances

open ReisOs.Core ReisOs.Kernel World Script

variable {S : Type}

/-- The steps on the process's own state. -/
class AllowsOwn (rule : Discipline (World S)) : Prop where
  tick : Obeys rule (tick : Service S Time)
  finalize : ∀ leaseId, Obeys rule (finalize leaseId : Service S Unit)
  reserveUse : ∀ now later envelope,
    Obeys rule (reserveUse now later envelope : Service S Unit)

/-- The steps on the process's own state and on the registry. -/
class Allows (rule : Discipline (World S)) : Prop extends AllowsOwn rule where
  /-- A write that leaves the rows and the journal alone. -/
  commit : ∀ {writes : InstanceStore → Except InstanceError InstanceStore},
    (∀ store written, writes store = .ok written →
      written.bindings = store.bindings ∧ written.journal = store.journal) →
      Obeys rule (onStore (InstanceStore.commit writes) : Service S Unit)
  create : ∀ binding : InstanceBinding, binding.predecessorBindingId ≠ none →
    Obeys rule (onStore (InstanceStore.create binding) : Service S InstanceBinding)
  transition : ∀ arguments : InstanceStore.Transition,
    arguments.target ∈ InstanceStore.inTransition → arguments.target ≠ .persisted →
      Obeys rule (onStore (InstanceStore.transition arguments) : Service S InstanceBinding)
  commitReplacement : ∀ arguments : InstanceStore.Replacement,
    Obeys rule (onStore (InstanceStore.commitReplacement arguments) :
      Service S (InstanceBinding × InstanceBinding))

/-- The two calls of Hazel; the write is not a preparation. -/
class AllowsHazel (rule : Discipline (World S)) (config : BinderConfig S) : Prop where
  recoverState : ∀ arguments, Obeys rule (recoverState config arguments)
  persistState : ∀ arguments : PersistArguments (HazelPayload S),
    (∀ binding, arguments.state ≠ preparedState binding) →
      Obeys rule (persistState config arguments)

/-- A transition that the services make once a row is persisted. -/
def InService (arguments : InstanceStore.Transition) : Prop :=
  arguments.target = .bound ∧ arguments.maturity = none ∨
  arguments.target = .active ∧ arguments.maturity = some .operationallyBoundL1 ∧
    arguments.eventType = "OCS_BOOTSTRAP_ACKNOWLEDGED" ∨
  arguments.target = .checkpointed ∧ arguments.maturity = none

/-- What a successor has from the row that it was derived from. -/
structure Derived (binding previous : InstanceBinding) : Prop where
  link : binding.predecessorBindingId = some previous.bindingId
  maturity : binding.maturity = previous.maturity
  checkpointed : previous.status = .checkpointed

/-- The binding is a row of some world that the rule admits. -/
def Known (rule : Discipline (World S)) (binding : InstanceBinding) : Prop :=
  ∃ world, rule.Inv world ∧ binding ∈ world.store.bindings

/-- The writes of the services as they are made, after a preparation. -/
class AllowsServices (rule : Discipline (World S)) : Prop extends AllowsOwn rule where
  commit : ∀ {writes : InstanceStore → Except InstanceError InstanceStore},
    (∀ store written, writes store = .ok written →
      written.bindings = store.bindings ∧ written.journal = store.journal) →
      Obeys rule (onStore (InstanceStore.commit writes) : Service S Unit)
  create : ∀ binding previous : InstanceBinding, Derived binding previous →
    Known rule previous →
      Obeys rule (onStore (InstanceStore.create binding) : Service S InstanceBinding)
  transition : ∀ arguments : InstanceStore.Transition, InService arguments →
    Obeys rule (onStore (InstanceStore.transition arguments) : Service S InstanceBinding)
  commitReplacement : ∀ arguments : InstanceStore.Replacement,
    Obeys rule (onStore (InstanceStore.commitReplacement arguments) :
      Service S (InstanceBinding × InstanceBinding))

theorem InService.target {arguments : InstanceStore.Transition} (h : InService arguments) :
    arguments.target ∈ InstanceStore.inTransition ∧ arguments.target ≠ .persisted := by
  rcases h with ⟨htarget, -⟩ | ⟨htarget, -⟩ | ⟨htarget, -⟩
  all_goals
    rw [htarget]
    decide

instance {rule : Discipline (World S)} [Allows rule] : AllowsServices rule where
  commit := Allows.commit
  create binding previous hderived _ := Allows.create binding (by rw [hderived.link]; simp)
  transition arguments h := Allows.transition arguments h.target.1 h.target.2
  commitReplacement := Allows.commitReplacement

variable {A : Type} {rule : Discipline (World S)}

/-! ## Queries -/

theorem obeys_answer {E : Type} (lift : E → InstanceError) (found : Except E A) :
    Obeys rule (answer lift found : Service S A) := by
  cases found with
  | error error => exact obeys_raise _
  | ok value => exact obeys_pure value

theorem obeys_leaseFor (leaseId : String) :
    Obeys rule (leaseFor leaseId : Service S AuthorityLease) :=
  (obeys_read _).bind fun found => obeys_answer _ found

theorem onStore_bind {B : Type} (method : Script InstanceStore InstanceError A)
    (rest : A → Script InstanceStore InstanceError B) :
    (onStore (method >>= rest) : Service S B) =
      onStore method >>= fun value => onStore (rest value) := on_bind ..

theorem onStore_raiseIf (condition : Prop) [Decidable condition] (error : InstanceError) :
    (onStore (raiseIf condition error) : Service S Unit) = raiseIf condition error :=
  on_raiseIf ..

theorem obeys_query (query : InstanceStore → A) :
    Obeys rule (onStore (Script.read query) : Service S A) := by
  unfold onStore
  rw [on_read]
  exact obeys_read _

theorem obeys_get (bindingId : String) :
    Obeys rule (onStore (InstanceStore.get bindingId) : Service S InstanceBinding) := by
  unfold InstanceStore.get
  rw [onStore_bind]
  apply (obeys_query _).bind
  intro found
  cases found with
  | none => exact obeys_raise _
  | some binding => exact obeys_pure binding

theorem safe_known (bindingId : String) {world : World S} (hworld : rule.Inv world) :
    (onStore (InstanceStore.get bindingId) : Service S InstanceBinding).Safe rule
      (fun binding _ => Known rule binding) world := by
  have hread : (onStore (Script.read (·.row bindingId)) :
      Service S (Option InstanceBinding)).Safe rule
      (fun found _ => ∀ binding, found = some binding → Known rule binding) world := by
    unfold onStore
    rw [on_read]
    apply safe_read
    intro now hnow _ binding hfound
    exact ⟨now, hnow, List.mem_of_find?_eq_some hfound⟩
  unfold InstanceStore.get
  rw [onStore_bind]
  apply hread.bind hworld
  intro found now _ _ hfound
  cases found with
  | none => exact safe_raise
  | some binding => exact hfound binding rfl

/-! ## Steps of sagas -/

theorem obeys_actionSaga (idempotencyKey : String) :
    Obeys rule
      (onStore (InstanceStore.actionSaga idempotencyKey) : Service S ActionSaga) := by
  unfold InstanceStore.actionSaga
  rw [onStore_bind]
  apply (obeys_query _).bind
  intro found
  cases found with
  | none => exact obeys_raise _
  | some saga => exact obeys_pure saga

theorem obeys_checkpointReplay (bindingId idempotencyKey requestFingerprint : String) :
    Obeys rule (onStore (InstanceStore.checkpointReplay bindingId idempotencyKey
      requestFingerprint) : Service S (Option InstanceBinding)) := by
  unfold InstanceStore.checkpointReplay
  rw [onStore_bind]
  apply (obeys_query _).bind
  intro replay
  cases replay with
  | none => exact obeys_pure none
  | some replay =>
    change Obeys rule (onStore (raiseIf _ _ >>= _) : Service S _)
    rw [onStore_bind, onStore_raiseIf]
    apply (obeys_raiseIf _ _).bind
    intro _
    rw [onStore_bind]
    exact (obeys_get _).bind fun binding => obeys_pure _

theorem obeys_beginActionSaga [AllowsServices rule] (saga : ActionSaga) :
    Obeys rule
      (onStore (InstanceStore.beginActionSaga saga) : Service S ActionSaga) := by
  unfold InstanceStore.beginActionSaga
  rw [onStore_bind]
  apply (obeys_query _).bind
  intro found
  cases found with
  | some current =>
    change Obeys rule (onStore (raiseIf _ _ >>= _) : Service S _)
    rw [onStore_bind, onStore_raiseIf]
    exact (obeys_raiseIf _ _).bind fun _ => obeys_pure current
  | none =>
    change Obeys rule (onStore (InstanceStore.commit _ >>= _) : Service S _)
    rw [onStore_bind]
    have hinsert : Obeys rule
        (onStore (InstanceStore.commit (InstanceStore.insertSaga saga)) :
          Service S Unit) := by
      apply AllowsServices.commit
      intro store written hwritten
      unfold InstanceStore.insertSaga at hwritten
      split at hwritten
      · cases hwritten
      · cases hwritten
        exact ⟨rfl, rfl⟩
    exact hinsert.bind fun _ => obeys_actionSaga _

theorem obeys_advanceActionSaga [AllowsServices rule] (idempotencyKey : String)
    (expected target : SagaState)
    (now : Time) :
    Obeys rule (onStore (InstanceStore.advanceActionSaga idempotencyKey expected target
      now) : Service S ActionSaga) := by
  unfold InstanceStore.advanceActionSaga
  rw [onStore_bind]
  have hmove : Obeys rule
      (onStore (InstanceStore.commit
        (InstanceStore.moveSaga idempotencyKey expected target now)) : Service S Unit) := by
    apply AllowsServices.commit
    intro store written hwritten
    unfold InstanceStore.moveSaga at hwritten
    split at hwritten
    · cases hwritten
    · split at hwritten
      · cases hwritten
        exact ⟨rfl, rfl⟩
      · split at hwritten
        · cases hwritten
          exact ⟨rfl, rfl⟩
        · cases hwritten
  exact hmove.bind fun _ => obeys_actionSaga _

/-! ## Leases and envelopes -/

theorem obeys_validateRequest (request : PrepareInstanceRequest) :
    Obeys rule (validateRequest request : Service S Unit) := obeys_raiseIf _ _

theorem obeys_validatedLease [AllowsOwn rule] (request : PrepareInstanceRequest)
    (profile : OCSProfile)
    (actionBinding : String) :
    Obeys rule (validatedLease request profile actionBinding :
      Service S AuthorityLease) := by
  unfold validatedLease
  apply AllowsOwn.tick.bind
  intro now
  apply (obeys_read _).bind
  intro valid
  apply (obeys_raiseIf _ _).bind
  intro _
  apply (obeys_leaseFor _).bind
  intro lease
  split
  · exact obeys_raise _
  · exact obeys_pure lease

theorem obeys_reserveActionLease [AllowsOwn rule] (request : PrepareInstanceRequest)
    (profile : OCSProfile)
    (lease : AuthorityLease) (binding : InstanceBinding)
    (actionType actionId idempotencyKey : String) :
    Obeys rule (reserveActionLease request profile lease binding actionType actionId
      idempotencyKey : Service S Unit) := by
  unfold reserveActionLease
  apply AllowsOwn.tick.bind
  intro now
  apply AllowsOwn.tick.bind
  intro later
  exact AllowsOwn.reserveUse ..

theorem obeys_reconcileBindingLease [AllowsOwn rule] (request : PrepareInstanceRequest)
    (profile : OCSProfile) (lease : AuthorityLease) (binding : InstanceBinding) :
    Obeys rule (reconcileBindingLease request profile lease binding :
      Service S Unit) := by
  unfold reconcileBindingLease
  apply (obeys_leaseFor _).bind
  intro current
  split
  · exact obeys_pure ()
  · apply (obeys_reserveActionLease ..).bind
    intro _
    exact AllowsOwn.finalize _

theorem obeys_envelope (binding : InstanceBinding) (profile : OCSProfile)
    (lease : AuthorityLease) (nonce : String) :
    Obeys rule (envelope binding profile lease nonce :
      Service S InstanceBootstrapEnvelope) := by
  unfold envelope
  split
  · exact obeys_pure _
  · split
    · exact obeys_pure _
    · apply (obeys_get _).bind
      intro predecessor
      exact obeys_pure _

/-! ## Sagas -/

theorem obeys_advanceFrom [AllowsServices rule] (idempotencyKey : String) (saga : ActionSaga)
    (expected target : SagaState) :
    Obeys rule (advanceFrom idempotencyKey saga expected target :
      Service S ActionSaga) := by
  unfold advanceFrom
  split
  · apply AllowsOwn.tick.bind
    intro now
    exact obeys_advanceActionSaga ..
  · exact obeys_pure saga

theorem obeys_finalizeSaga [AllowsServices rule] (idempotencyKey : String) (saga : ActionSaga)
    (lease : AuthorityLease) :
    Obeys rule (finalizeSaga idempotencyKey saga lease : Service S Unit) := by
  have hend : Obeys rule (tick >>= fun now => do
      let _ ← onStore (InstanceStore.advanceActionSaga idempotencyKey .localCommitted
        .leaseFinalized now)
      pure () : Service S Unit) := by
    apply AllowsOwn.tick.bind
    intro now
    apply (obeys_advanceActionSaga ..).bind
    intro _
    exact obeys_pure ()
  unfold finalizeSaga
  split
  · split
    · apply (AllowsOwn.finalize _).bind
      intro _
      exact hend
    · exact hend
  · exact obeys_pure ()

/-! ## Attaching and acknowledging -/

theorem obeys_attach [AllowsServices rule] (folding : TextFolding) (call : AttachCall) :
    Obeys rule (attach folding call : Service S InstanceBinding) := by
  unfold attach
  apply (obeys_raiseIf _ _).bind
  intro _
  apply (obeys_get _).bind
  intro binding
  apply (obeys_raiseIf _ _).bind
  intro _
  apply AllowsServices.transition
  exact .inl ⟨rfl, rfl⟩

variable (config : BinderConfig S)

theorem obeys_acknowledge [AllowsServices rule] (ack : BootstrapAck) (expectedVersion : ℕ) :
    Obeys rule (acknowledge config ack expectedVersion) := by
  unfold acknowledge
  apply (obeys_get _).bind
  intro binding
  split
  · exact obeys_raise _
  · apply AllowsServices.transition
    exact .inr (.inl ⟨rfl, rfl, rfl⟩)

/-! ## Checkpoints -/

theorem obeys_requirePhysicalWorker (binding : InstanceBinding)
    (platformInstanceId : String) (generation : ℕ) :
    Obeys rule (requirePhysicalWorker binding platformInstanceId generation :
      Service S Unit) := by
  unfold requirePhysicalWorker
  apply (obeys_raiseIf _ _).bind
  intro _
  exact obeys_raiseIf _ _

theorem obeys_replayCheckpoint [AllowsServices rule] (call : CheckpointCall S)
    (replay : InstanceBinding) :
    Obeys rule (replayCheckpoint call replay) := by
  unfold replayCheckpoint
  apply (obeys_actionSaga _).bind
  intro saga
  apply (obeys_advanceFrom ..).bind
  intro saga
  apply (obeys_advanceFrom ..).bind
  intro saga
  split
  · apply (obeys_leaseFor _).bind
    intro lease
    apply (obeys_finalizeSaga ..).bind
    intro _
    exact obeys_pure replay
  · exact obeys_pure replay

theorem obeys_checkpointSaga [AllowsServices rule] (call : CheckpointCall S)
    (binding : InstanceBinding)
    (profile : OCSProfile) : Obeys rule (checkpointSaga config call binding profile) := by
  unfold checkpointSaga
  apply (obeys_read _).bind
  intro found
  cases found with
  | none =>
    simp only
    unfold beginCheckpoint
    apply (obeys_validatedLease ..).bind
    intro lease
    apply (obeys_reserveActionLease ..).bind
    intro _
    apply AllowsOwn.tick.bind
    intro now
    apply (obeys_beginActionSaga _).bind
    intro saga
    exact obeys_pure _
  | some saga =>
    apply (obeys_raiseIf _ _).bind
    intro _
    apply (obeys_leaseFor _).bind
    intro lease
    exact obeys_pure _

theorem obeys_checkpointEffect [AllowsHazel rule config] [DecidableEq S]
    (call : CheckpointCall S)
    (binding : InstanceBinding) :
    Obeys rule (checkpointEffect config call binding) := by
  unfold checkpointEffect
  apply (AllowsHazel.recoverState ..).bind
  intro recovered
  split
  · apply (obeys_raiseIf _ _).bind
    intro _
    exact obeys_pure _
  · split
    · apply (AllowsHazel.persistState _ _).bind
      · intro receipt
        exact obeys_pure _
      · simp [CheckpointCall.payload, preparedState]
    · exact obeys_raise _

theorem obeys_checkpoint [AllowsServices rule] [AllowsHazel rule config] [DecidableEq S]
    (call : CheckpointCall S) :
    Obeys rule (checkpoint config call) := by
  unfold checkpoint
  apply (obeys_get _).bind
  intro binding
  apply (obeys_raiseIf _ _).bind
  intro _
  apply (obeys_requirePhysicalWorker ..).bind
  intro _
  apply (obeys_checkpointReplay ..).bind
  intro replay
  cases replay with
  | some replay => exact obeys_replayCheckpoint call replay
  | none =>
    simp only
    split
    · exact obeys_raise _
    · unfold checkpointNew
      apply (obeys_raiseIf _ _).bind
      intro _
      apply (obeys_checkpointSaga ..).bind
      intro begun
      apply (obeys_checkpointEffect ..).bind
      intro eventHash
      apply (obeys_advanceFrom ..).bind
      intro applied
      apply (AllowsHazel.recoverState ..).bind
      intro recovered
      apply (obeys_raiseIf _ _).bind
      intro _
      apply (obeys_advanceFrom ..).bind
      intro verified
      have hcommit : Obeys rule (onStore (InstanceStore.transition
          (checkpointTransition config call binding recovered)) :
          Service S InstanceBinding) := by
        apply AllowsServices.transition
        exact .inr (.inr ⟨rfl, rfl⟩)
      apply hcommit.bind
      intro committed
      apply (obeys_advanceFrom ..).bind
      intro saga
      apply (obeys_finalizeSaga ..).bind
      intro _
      exact obeys_pure committed

/-! ## Replacements -/

theorem safe_sealed (provisional : InstanceBinding) (profile : OCSProfile)
    (lease : AuthorityLease) (nonce : String) (hworld : rule.Inv world) :
    (sealed config provisional profile lease nonce).Safe rule
      (fun answer _ => ∃ bootstrapHash,
        answer.1 = { provisional with bootstrapHash := bootstrapHash }) world := by
  unfold sealed
  apply ((obeys_envelope provisional profile lease nonce).safe world hworld).bind hworld
  intro unsigned now hnow _ _
  apply ((obeys_envelope _ profile lease nonce).safe now hnow).bind hnow
  intro signed later _ _ _
  exact ⟨_, rfl⟩

theorem obeys_replayReplace [AllowsServices rule] (call : ReplaceCall) (previous : InstanceBinding)
    (replayed : Option InstanceBinding) :
    Obeys rule (replayReplace config call previous replayed) := by
  unfold replayReplace
  cases replayed with
  | none => exact obeys_raise _
  | some replayed =>
    apply (obeys_raiseIf _ _).bind
    intro _
    split
    · exact obeys_raise _
    · apply (obeys_leaseFor _).bind
      intro lease
      apply (obeys_envelope ..).bind
      intro signed
      apply (obeys_raiseIf _ _).bind
      intro _
      apply (obeys_reconcileBindingLease ..).bind
      intro _
      apply (obeys_read _).bind
      intro found
      cases found with
      | none => exact obeys_pure _
      | some saga =>
        apply (obeys_advanceFrom ..).bind
        intro _
        exact obeys_pure _

theorem obeys_replacementSaga [AllowsOwn rule] (call : ReplaceCall) (previous : InstanceBinding)
    (profile : OCSProfile) :
    Obeys rule (replacementSaga config call previous profile) := by
  unfold replacementSaga
  apply (obeys_read _).bind
  intro found
  cases found with
  | none =>
    apply (obeys_validatedLease ..).bind
    intro lease
    exact obeys_pure _
  | some saga =>
    apply (obeys_raiseIf _ _).bind
    intro _
    apply (obeys_leaseFor _).bind
    intro lease
    exact obeys_pure _

theorem obeys_beginReplacement [AllowsServices rule] (call : ReplaceCall)
    (previous successor : InstanceBinding)
    (profile : OCSProfile) (lease : AuthorityLease) (begun : Option ActionSaga) :
    Obeys rule
      (beginReplacement config call previous successor profile lease begun) := by
  unfold beginReplacement
  cases begun with
  | some saga => exact obeys_pure saga
  | none =>
    apply (obeys_reserveActionLease ..).bind
    intro _
    apply AllowsOwn.tick.bind
    intro now
    exact obeys_beginActionSaga _

theorem obeys_takenOver (successor previous : InstanceBinding)
    (prior : HazelRecord (HazelPayload S)) :
    Obeys rule (takenOver successor previous prior) := by
  unfold takenOver
  split
  · exact obeys_raise _
  · split
    · split
      · exact obeys_raise _
      · exact obeys_pure _
    · exact obeys_pure _

theorem obeys_replacementEffect [AllowsHazel rule config] [DecidableEq S]
    (previous successor : InstanceBinding)
    (lease : AuthorityLease) (recoveredPayload : HazelPayload S) :
    Obeys rule
      (replacementEffect config previous successor lease recoveredPayload) := by
  unfold replacementEffect
  apply (AllowsHazel.recoverState ..).bind
  intro recovered
  split
  · apply (obeys_raiseIf _ _).bind
    intro _
    exact obeys_pure _
  · split
    · apply (AllowsHazel.persistState _ _).bind
      · intro receipt
        exact obeys_pure _
      · simp [replacementState, preparedState]
    · exact obeys_raise _

theorem obeys_checkReplaceable (call : ReplaceCall)
    (previous : InstanceBinding) :
    Obeys rule (checkReplaceable config call previous) := by
  unfold checkReplaceable
  apply (obeys_raiseIf _ _).bind
  intro _
  apply (obeys_requirePhysicalWorker ..).bind
  intro _
  apply (obeys_raiseIf _ _).bind
  intro _
  apply (obeys_raiseIf _ _).bind
  intro _
  split
  · exact obeys_raise _
  · apply (obeys_raiseIf _ _).bind
    intro _
    apply (obeys_leaseFor _).bind
    intro lease
    apply (obeys_raiseIf _ _).bind
    intro _
    exact obeys_pure _

theorem safe_checkReplaceable (call : ReplaceCall) (previous : InstanceBinding)
    {world : World S} (hworld : rule.Inv world) :
    (checkReplaceable config call previous).Safe rule
      (fun _ _ => previous.status = .checkpointed) world := by
  by_cases hcheckpointed : previous.status = .checkpointed
  · have hsafe := (obeys_checkReplaceable config call previous).safe world hworld
    exact hsafe.mono fun _ _ _ => hcheckpointed
  · unfold checkReplaceable
    apply safe_raiseIf_bind
    intro hpassed
    exact absurd (not_not.mp hpassed) hcheckpointed

/-- What `replace_instance` does after it has stored the successor. -/
theorem obeys_finishReplacement [AllowsServices rule] [AllowsHazel rule config] [DecidableEq S]
    (call : ReplaceCall)
    (previous successor : InstanceBinding) (signed : InstanceBootstrapEnvelope)
    (saga : ActionSaga) (lease : AuthorityLease)
    (prior : HazelRecord (HazelPayload S)) :
    Obeys rule (do
      let recoveredPayload ← takenOver successor previous prior
      let eventHash ← replacementEffect config previous successor lease recoveredPayload
      let saga ← advanceFrom call.idempotencyKey saga .leaseReserved .effectApplied
      let recovered ← recoverState config (recoverArguments successor)
      .raiseIf (recovered.eventHash ≠ eventHash) (.binding "replacement_readback_mismatch")
      let saga ← advanceFrom call.idempotencyKey saga .effectApplied .readbackVerified
      let (_, durable) ← onStore (InstanceStore.commitReplacement
        (replacementCommit previous.bindingId successor.bindingId call.idempotencyKey
          call.expectedVersion 1 (previous.checkpointVersion + 1) recovered))
      let saga ← advanceFrom call.idempotencyKey saga .readbackVerified .localCommitted
      finalizeSaga call.idempotencyKey saga lease
      return (durable, signed)) := by
  apply (obeys_takenOver ..).bind
  intro recoveredPayload
  apply (obeys_replacementEffect ..).bind
  intro eventHash
  apply (obeys_advanceFrom ..).bind
  intro applied
  apply (AllowsHazel.recoverState ..).bind
  intro recovered
  apply (obeys_raiseIf _ _).bind
  intro _
  apply (obeys_advanceFrom ..).bind
  intro verified
  apply (AllowsServices.commitReplacement _).bind
  intro committed
  apply (obeys_advanceFrom ..).bind
  intro localCommitted
  apply (obeys_finalizeSaga ..).bind
  intro _
  exact obeys_pure _

/-- The part of `replace_instance` from the checks of the predecessor on. -/
theorem safe_replaceNew [AllowsServices rule] [AllowsHazel rule config] [DecidableEq S]
    (call : ReplaceCall) (previous : InstanceBinding) (hprevious : Known rule previous)
    {world : World S} (hworld : rule.Inv world) :
    (replaceNew config call previous).Safe rule (fun _ _ => True) world := by
  unfold replaceNew
  apply (safe_checkReplaceable config call previous hworld).bind hworld
  intro profile checked hchecked _ hcheckpointed
  apply ((obeys_replacementSaga ..).safe checked hchecked).bind hchecked
  intro begun reserved hreserved _ _
  apply ((AllowsHazel.recoverState _).safe reserved hreserved).bind hreserved
  intro prior recovered hrecovered _ _
  apply (AllowsOwn.tick.safe recovered hrecovered).bind hrecovered
  intro now ticked hticked _ _
  apply (safe_sealed config _ _ _ _ hticked).bind hticked
  intro answer found hfound _ hsealed
  obtain ⟨provisional, signed⟩ := answer
  obtain ⟨bootstrapHash, hbinding⟩ := hsealed
  dsimp only at hbinding
  subst hbinding
  apply ((obeys_beginReplacement config call previous _ profile _ _).safe found
    hfound).bind hfound
  intro saga stored hstored _ _
  have hcreate : Obeys rule (onStore (InstanceStore.create
      { successorBinding config call.request previous begun.2 now with
        bootstrapHash := bootstrapHash }) : Service S InstanceBinding) := by
    apply AllowsServices.create _ previous _ hprevious
    exact ⟨rfl, rfl, hcheckpointed⟩
  apply (hcreate.safe stored hstored).bind hstored
  intro successor later hlater _ _
  exact (obeys_finishReplacement ..).safe later hlater

theorem obeys_replaceInstance [AllowsServices rule] [AllowsHazel rule config]
    [DecidableEq S] (call : ReplaceCall) : Obeys rule (replaceInstance config call) := by
  constructor
  intro world hworld
  unfold replaceInstance
  apply ((obeys_validateRequest _).safe world hworld).bind hworld
  intro _ validated hvalidated _ _
  apply (safe_known _ hvalidated).bind hvalidated
  intro previous found hfound _ hprevious
  apply ((obeys_read _).safe found hfound).bind hfound
  intro replayed now hnow _ _
  split
  · exact (obeys_replayReplace ..).safe now hnow
  · exact safe_replaceNew config call previous hprevious hnow

/-! ## Recovery -/

theorem obeys_validateLocalIdentity (binding : InstanceBinding) :
    Obeys rule (validateLocalIdentity config binding) := by
  unfold validateLocalIdentity
  split
  · exact obeys_raise _
  · split
    · exact obeys_raise _
    · apply (obeys_leaseFor _).bind
      intro lease
      exact obeys_raiseIf _ _

theorem obeys_stateVersionOf (recovered : HazelRecord (HazelPayload S)) :
    Obeys rule (stateVersionOf recovered) := by
  unfold stateVersionOf
  split
  · exact obeys_raise _
  · exact obeys_pure _

theorem obeys_validateReplacementHazel (predecessor successor : InstanceBinding)
    (recovered : HazelRecord (HazelPayload S)) (expectedVersion : ℕ) :
    Obeys rule
      (validateReplacementHazel predecessor successor recovered expectedVersion) := by
  unfold validateReplacementHazel
  apply (obeys_stateVersionOf _).bind
  intro stateVersion
  apply (obeys_raiseIf _ _).bind
  intro _
  split
  · exact obeys_raise _
  · exact obeys_pure ()

theorem obeys_validateHazelFidelity (binding : InstanceBinding)
    (recovered : HazelRecord (HazelPayload S)) :
    Obeys rule (validateHazelFidelity binding recovered) := by
  unfold validateHazelFidelity
  apply (obeys_stateVersionOf _).bind
  intro stateVersion
  apply (obeys_raiseIf _ _).bind
  intro _
  split
  · exact obeys_raise _
  · split
    · exact obeys_pure ()
    · apply (obeys_get _).bind
      intro predecessor
      exact obeys_validateReplacementHazel ..

theorem obeys_recoveryEffect [AllowsHazel rule config]
    (predecessor successor : InstanceBinding) :
    Obeys rule (recoveryEffect config predecessor successor) := by
  unfold recoveryEffect
  apply (AllowsHazel.recoverState ..).bind
  intro recovered
  apply (obeys_stateVersionOf _).bind
  intro stateVersion
  split
  · apply (obeys_raiseIf _ _).bind
    intro _
    split
    · exact obeys_raise _
    · apply (AllowsHazel.persistState _ _).bind
      · intro receipt
        exact obeys_pure _
      · simp [replacementState, preparedState]
  · split
    · exact obeys_pure _
    · exact obeys_raise _

theorem obeys_recoveryCommit [AllowsServices rule] (predecessorId successorId sagaId : String)
    (nextVersion : ℕ)
    (recovered : HazelRecord (HazelPayload S)) :
    Obeys rule
      (recoveryCommit predecessorId successorId sagaId nextVersion recovered) := by
  have hend : Obeys rule (onStore (InstanceStore.get predecessorId) >>=
      fun predecessor => onStore (InstanceStore.get successorId) >>= fun successor =>
        raiseIf (predecessor.status ≠ .replaced ∨
          successor.status ∉ [.persisted, .bound, .active, .checkpointed])
          (.binding "replacement_local_commit_incomplete") >>= fun _ =>
            pure successor : Service S InstanceBinding) := by
    apply (obeys_get _).bind
    intro predecessor
    apply (obeys_get _).bind
    intro successor
    apply (obeys_raiseIf _ _).bind
    intro _
    exact obeys_pure successor
  unfold recoveryCommit
  apply (obeys_get _).bind
  intro predecessor
  apply (obeys_get _).bind
  intro successor
  split
  · apply (AllowsServices.commitReplacement _).bind
    intro _
    exact hend
  · exact hend

theorem obeys_recoveryFinalize [AllowsServices rule] (successor : InstanceBinding) (sagaId : String) :
    Obeys rule (recoveryFinalize successor sagaId : Service S SagaState) := by
  have hend (saga : ActionSaga) : Obeys rule
      (advanceFrom sagaId saga .localCommitted .leaseFinalized >>= fun saga =>
        raiseIf (saga.state ≠ .leaseFinalized)
          (.binding "replacement_recovery_saga_incomplete") >>= fun _ =>
            pure saga.state : Service S SagaState) := by
    apply (obeys_advanceFrom ..).bind
    intro saga
    apply (obeys_raiseIf _ _).bind
    intro _
    exact obeys_pure _
  unfold recoveryFinalize
  apply (obeys_actionSaga _).bind
  intro saga
  apply (obeys_advanceFrom ..).bind
  intro saga
  split
  · apply (obeys_leaseFor _).bind
    intro lease
    split
    · apply (AllowsOwn.finalize _).bind
      intro _
      exact hend saga
    · exact hend saga
  · apply (obeys_raiseIf _ _).bind
    intro _
    exact obeys_pure _

theorem obeys_reconcileReplacement [AllowsServices rule] [AllowsHazel rule config]
    (successor : InstanceBinding) (predecessorId : String) :
    Obeys rule (reconcileReplacement config successor predecessorId) := by
  unfold reconcileReplacement
  apply (obeys_get _).bind
  intro predecessor
  apply (obeys_read _).bind
  intro found
  cases found with
  | none => exact obeys_raise _
  | some saga =>
    apply (obeys_raiseIf _ _).bind
    intro _
    apply (obeys_leaseFor _).bind
    intro lease
    apply (obeys_raiseIf _ _).bind
    intro _
    apply (obeys_recoveryEffect ..).bind
    intro eventHash
    apply (obeys_advanceFrom ..).bind
    intro applied
    apply (AllowsHazel.recoverState ..).bind
    intro recovered
    apply (obeys_validateReplacementHazel ..).bind
    intro _
    apply (obeys_raiseIf _ _).bind
    intro _
    apply (obeys_advanceFrom ..).bind
    intro _
    apply (obeys_recoveryCommit ..).bind
    intro committed
    apply (obeys_recoveryFinalize ..).bind
    intro sagaState
    exact obeys_pure _

theorem obeys_recoverInstance [AllowsServices rule] [AllowsHazel rule config]
    (organizationId missionId ocsId : String) :
    Obeys rule (recoverInstance config organizationId missionId ocsId) := by
  unfold recoverInstance
  apply (obeys_read _).bind
  intro found
  cases found with
  | none => exact obeys_raise _
  | some latest =>
    apply (obeys_validateLocalIdentity ..).bind
    intro _
    apply (obeys_read _).bind
    intro active
    apply (obeys_raiseIf _ _).bind
    intro _
    have hsettle : Obeys rule (settleLineage config latest) := by
      unfold settleLineage
      split
      · apply (obeys_read _).bind
        intro stranded
        apply (obeys_raiseIf _ _).bind
        intro _
        exact obeys_pure _
      · apply (obeys_reconcileReplacement ..).bind
        intro settled
        exact obeys_pure _
    apply hsettle.bind
    intro settled
    apply (AllowsHazel.recoverState ..).bind
    intro recovered
    apply (obeys_validateHazelFidelity ..).bind
    intro _
    apply (obeys_stateVersionOf _).bind
    intro stateVersion
    exact obeys_pure _

/-! ## Calls -/

theorem obeys_script [AllowsServices rule] [AllowsHazel rule config] [DecidableEq S]
    (folding : TextFolding)
    (hprepare : ∀ request, Obeys rule (prepare config request)) (call : Call S) :
    Obeys rule (call.script config folding) := by
  cases call with
  | prepare request => exact (hprepare request).bind fun _ => obeys_pure ()
  | attach call => exact (obeys_attach folding call).bind fun _ => obeys_pure ()
  | acknowledge ack expectedVersion =>
    exact (obeys_acknowledge config ack expectedVersion).bind fun _ => obeys_pure ()
  | checkpoint call => exact (obeys_checkpoint config call).bind fun _ => obeys_pure ()
  | replaceInstance call =>
    exact (obeys_replaceInstance config call).bind fun _ => obeys_pure ()
  | recoverInstance organizationId missionId ocsId =>
    exact (obeys_recoverInstance config organizationId missionId ocsId).bind
      fun _ => obeys_pure ()

end ReisOs.Instances
