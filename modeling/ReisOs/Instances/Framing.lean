import ReisOs.Instances.WellFormed

/-!
# Calls on other bindings

A call on bindings outside a frame leaves the frame alone, whatever other such calls do
between its steps.  What a call has to know is which ids are outside, that a committed
checkpoint has its saga, and that its own saga stays its own.
-/

namespace ReisOs.Instances

open ReisOs.Core ReisOs.Kernel World Script

/-! ## Methods of the registry -/

namespace Frame

open InstanceStore

variable {frame : Frame} {world : InstanceStore}

/-- Every kept id is the id of a kept row. -/
def Tight (frame : Frame) : Prop :=
  ∀ bindingId, frame.kept bindingId = true →
    ∃ row ∈ frame.part.bindings, row.bindingId = bindingId

/-- What rows are like does not depend on the columns that move. -/
def Fixed (frame : Frame) : Prop :=
  ∀ row next : InstanceBinding, next.fixed = row.fixed → frame.Like row → frame.Like next

/-- No kept row answers for a request with the given key and hash. -/
def Fresh (frame : Frame) (idempotencyKey requestHash : String) : Prop :=
  ∀ row ∈ frame.part.bindings, row.idempotencyKey = idempotencyKey →
    row.requestHash ≠ requestHash

/-- A transition leaves the other rows like what they are. -/
def Moves (frame : Frame) (arguments : Transition) : Prop :=
  ∀ current row, frame.Like current → frame.Like row →
    frame.Like (arguments.overRow current row)

theorem Fixed.moves (h : frame.Fixed) (arguments : Transition) : frame.Moves arguments :=
  fun _ row _ hrow => h row _ rfl hrow

theorem mem_part {row : InstanceBinding} (h : frame.Holds world) :
    row ∈ frame.part.bindings ↔ row ∈ world.bindings ∧ frame.kept row.bindingId = true := by
  rw [← h.part]
  exact List.mem_filter

variable {bindingId : String}

theorem Tight.foreign (htight : frame.Tight) (h : frame.Holds world)
    (hfree : ∀ row ∈ world.bindings, row.bindingId ≠ bindingId) :
    frame.kept bindingId = false := by
  by_contra hkept
  obtain ⟨row, hrow, hid⟩ := htight bindingId (by simpa using hkept)
  exact hfree row ((mem_part h).mp hrow).1 hid

variable {idempotencyKey : String}

theorem Fresh.foreign {requestHash : String}
    (hfresh : frame.Fresh idempotencyKey requestHash) (h : frame.Holds world)
    {row : InstanceBinding} (hrow : row ∈ world.bindings)
    (hkey : row.idempotencyKey = idempotencyKey) (hhash : row.requestHash = requestHash) :
    frame.kept row.bindingId = false := by
  by_contra hkept
  exact hfresh row ((mem_part h).mpr ⟨hrow, by simpa using hkept⟩) hkey hhash

theorem safe_query {A : Type} (query : InstanceStore → A) :
    (Script.read query : Script InstanceStore InstanceError A).Safe frame.rule
      (fun found now => query now = found) world :=
  safe_read fun _ _ _ => rfl

theorem safe_commit {writes : InstanceStore → Except InstanceError InstanceStore}
    {Q : InstanceStore → Prop}
    (h : ∀ now written, frame.Holds now → world.Extends now → writes now = .ok written →
      frame.Holds written ∧ now.Extends written ∧ Q written) :
    (commit writes).Safe frame.rule (fun _ now => Q now) world := by
  apply safe_act
  intro now hnow hextends
  cases hwritten : writes now with
  | error error => exact ⟨hnow, .refl now, fun _ hok => nomatch hok⟩
  | ok written =>
    obtain ⟨hholds, hgrows, hpost⟩ := h now written hnow hextends hwritten
    exact ⟨hholds, hgrows, fun _ _ => hpost⟩

theorem mem_of_row {store : InstanceStore} {binding : InstanceBinding}
    (h : store.row bindingId = some binding) :
    binding ∈ store.bindings ∧ binding.bindingId = bindingId :=
  ⟨List.mem_of_find?_eq_some h, by simpa using List.find?_some h⟩

theorem safe_get (bindingId : String) (hworld : frame.Holds world) :
    (InstanceStore.get bindingId).Safe frame.rule
      (fun binding now => binding ∈ now.bindings ∧ binding.bindingId = bindingId) world := by
  unfold InstanceStore.get
  apply (safe_query _).bind hworld
  intro found now _ _ hfound
  cases found with
  | none => exact safe_raise
  | some binding => exact mem_of_row hfound

theorem safe_checkPredecessor (binding : InstanceBinding) (hworld : frame.Holds world) :
    (checkPredecessor binding).Safe frame.rule (fun _ now => now.Preceded binding) world := by
  unfold checkPredecessor
  cases hlink : binding.predecessorBindingId with
  | none =>
    intro bindingId hsome
    rw [hlink] at hsome
    cases hsome
  | some predecessorId =>
    apply (safe_query _).bind hworld
    intro found now _ _ hfound
    cases found with
    | none => exact safe_raise
    | some predecessor =>
      apply safe_raiseIf
      intro hfits
      simp only [not_or, not_not, sameLineage, Bool.and_eq_true,
        decide_eq_true_eq] at hfits
      intro bindingId hsome
      rw [hlink] at hsome
      cases hsome
      obtain ⟨hmem, hid⟩ := mem_of_row hfound
      exact ⟨predecessor, hmem, hid, hfits.2.1.1.1.1.1.1.1.1.1.symm⟩

theorem safe_create (binding : InstanceBinding) (hworld : frame.Holds world)
    (htight : frame.Tight) (hlike : frame.Like binding)
    (hfresh : frame.Fresh binding.idempotencyKey binding.requestHash) :
    (create binding).Safe frame.rule
      (fun stored _ => frame.kept stored.bindingId = false) world := by
  unfold create
  apply safe_raiseIf_bind
  intro hinitial
  have hprepared : binding.status = .prepared := by
    simpa using (not_or.mp hinitial).1
  apply (safe_query _).bind hworld
  intro replay now hnow _ hreplay
  cases replay with
  | some recovered =>
    apply safe_raiseIf_bind
    intro hsame
    have hmem := List.mem_of_find?_eq_some hreplay
    have hkey : recovered.idempotencyKey = binding.idempotencyKey := by
      simpa using List.find?_some hreplay
    exact hfresh.foreign hnow hmem hkey (not_not.mp hsame)
  | none =>
    apply (safe_query _).bind hnow
    intro active probed hprobed _ _
    apply safe_raiseIf_bind
    intro _
    apply (safe_checkPredecessor binding hprobed).bind hprobed
    intro _ checked hchecked _ hpreceded
    have hinsert : (commit (insertCreated binding)).Safe frame.rule
        (fun _ _ => frame.kept binding.bindingId = false) checked := by
      apply @safe_commit frame checked _ fun _ => frame.kept binding.bindingId = false
      intro later written hlater hextends hwritten
      have hforeign : frame.kept binding.bindingId = false := by
        apply htight.foreign hlater
        intro row hrow
        have hclash := (insertCreated_ok hwritten).2 row hrow
        simp only [clashes, Bool.or_eq_false_iff, decide_eq_false_iff_not] at hclash
        exact hclash.1.1.1
      obtain ⟨hholds, hgrows⟩ := hlater.created hprepared hlike hforeign
        (hpreceded.grows hextends) hwritten
      exact ⟨hholds, hgrows, hforeign⟩
    apply hinsert.bind hchecked
    intro _ later _ _ hforeign
    exact hforeign

theorem safe_transition (arguments : Transition) (hworld : frame.Holds world)
    (hforeign : frame.kept arguments.bindingId = false) (hmoves : frame.Moves arguments)
    (hsaga : arguments.target = .checkpointed →
      world.HasSaga arguments.idempotencyKey arguments.bindingId) :
    (transition arguments).Safe frame.rule (fun _ _ => True) world := by
  unfold transition
  apply (safe_query _).bind hworld
  intro replay now hnow hextends _
  cases replay with
  | some replay =>
    apply safe_raiseIf_bind
    intro _
    exact (safe_get _ hnow).mono fun _ _ _ => True.intro
  | none =>
    apply (safe_get _ hnow).bind hnow
    intro current found hfound hfoundExtends hcurrent
    apply safe_raiseIf_bind
    intro _
    apply safe_raiseIf_bind
    intro _
    have hmove : (commit (applyTransition arguments current)).Safe frame.rule
        (fun _ _ => True) found := by
      apply @safe_commit frame found _ fun _ => True
      intro later written hlater hlaterExtends hwritten
      have hlike : frame.Like current := by
        apply hfound.like current hcurrent.1
        rw [hcurrent.2]
        exact hforeign
      have hheld (htarget : arguments.target = .checkpointed) :
          later.HasSaga arguments.idempotencyKey arguments.bindingId :=
        (hextends.trans (hfoundExtends.trans hlaterExtends)).sagas _ _ (hsaga htarget)
      obtain ⟨hholds, hgrows⟩ := hlater.transitioned hcurrent.2 hforeign
        (fun row => hmoves current row hlike) hheld hwritten
      exact ⟨hholds, hgrows, True.intro⟩
    apply hmove.bind hfound
    intro _ later _ _ _
    exact True.intro

theorem safe_commitReplacement (arguments : Replacement) (hworld : frame.Holds world)
    (hfixed : frame.Fixed) (hforeign : frame.kept arguments.predecessorId = false)
    (hforeignSuccessor : frame.kept arguments.successorId = false) :
    (commitReplacement arguments).Safe frame.rule (fun _ _ => True) world := by
  unfold commitReplacement
  apply (safe_query _).bind hworld
  intro replay now hnow _ _
  cases replay with
  | some replay =>
    apply safe_raiseIf_bind
    intro _
    apply (safe_get _ hnow).bind hnow
    intro predecessor found hfound _ _
    apply (safe_get _ hfound).bind hfound
    intro successor later _ _ _
    exact True.intro
  | none =>
    apply (safe_query _).bind hnow
    intro predecessorRow found hfound _ hpredecessor
    apply (safe_query _).bind hfound
    intro successorRow later hlater _ hsuccessor
    cases predecessorRow with
    | none => exact safe_raise
    | some predecessor =>
      cases successorRow with
      | none => exact safe_raise
      | some successor =>
        apply safe_raiseIf_bind
        intro _
        apply safe_raiseIf_bind
        intro _
        apply safe_raiseIf_bind
        intro _
        apply safe_raiseIf_bind
        intro _
        have hmove : (commit (applyReplacement arguments predecessor
            successor)).Safe frame.rule (fun _ _ => True) later := by
          apply @safe_commit frame later _ fun _ => True
          intro last written hlast _ hwritten
          obtain ⟨hholds, hgrows⟩ := hlast.replaced (mem_of_row hpredecessor).2
            (mem_of_row hsuccessor).2 hforeign hforeignSuccessor
            (fun row hrow => ⟨hfixed row _ rfl hrow, hfixed row _ rfl hrow⟩) hwritten
          exact ⟨hholds, hgrows, True.intro⟩
        apply hmove.bind hlater
        intro _ last _ _ _
        exact True.intro

/-! ## Sagas -/

theorem hasSaga_of_saga {store : InstanceStore}
    {saga : ActionSaga} (h : store.saga idempotencyKey = some saga) :
    store.HasSaga idempotencyKey saga.bindingId :=
  ⟨saga, List.mem_of_find?_eq_some h, by simpa using List.find?_some h, rfl⟩

theorem safe_beginActionSaga (saga : ActionSaga) (hworld : frame.Holds world)
    (hforeign : frame.kept saga.bindingId = false) :
    (beginActionSaga saga).Safe frame.rule
      (fun _ now => now.HasSaga saga.idempotencyKey saga.bindingId) world := by
  unfold beginActionSaga
  apply (safe_query _).bind hworld
  intro found now hnow _ hfound
  cases found with
  | some current =>
    apply safe_raiseIf_bind
    intro hsame
    simp only [not_or, not_not] at hsame
    have hsaga := hasSaga_of_saga hfound
    rw [hsame.1] at hsaga
    exact hsaga
  | none =>
    have hinsert : (commit (insertSaga saga)).Safe frame.rule
        (fun _ now => now.HasSaga saga.idempotencyKey saga.bindingId) now :=
      safe_commit fun _ _ hlater _ hwritten => hlater.begun hforeign hwritten
    apply hinsert.bind hnow
    intro _ begun hbegun _ hsaga
    have hread : (actionSaga saga.idempotencyKey).Safe frame.rule (fun _ _ => True)
        begun := by
      apply (safe_query _).bind hbegun
      intro read later _ _ _
      cases read with
      | none => exact safe_raise
      | some saga => exact True.intro
    apply (hread.since (.refl begun)).mono
    intro _ later hlater
    exact hlater.2.sagas _ _ hsaga

theorem safe_advanceActionSaga
    (expected target : SagaState) (now : Time) (hworld : frame.Holds world)
    (hsaga : world.HasSaga idempotencyKey bindingId)
    (hforeign : frame.kept bindingId = false) :
    (advanceActionSaga idempotencyKey expected target now).Safe frame.rule
      (fun _ _ => True) world := by
  unfold advanceActionSaga
  have hmove : (commit (moveSaga idempotencyKey expected target now)).Safe frame.rule
      (fun _ _ => True) world := by
    apply @safe_commit frame world _ fun _ => True
    intro later written hlater hextends hwritten
    obtain ⟨hholds, hgrows⟩ :=
      hlater.advanced (hextends.sagas _ _ hsaga) hforeign hwritten
    exact ⟨hholds, hgrows, True.intro⟩
  apply hmove.bind hworld
  intro _ moved hmoved _ _
  apply (safe_query _).bind hmoved
  intro found later _ _ _
  cases found with
  | none => exact safe_raise
  | some saga => exact True.intro

theorem safe_checkpointReplay (bindingId idempotencyKey requestFingerprint : String)
    (hworld : frame.Holds world) :
    (checkpointReplay bindingId idempotencyKey requestFingerprint).Safe frame.rule
      (fun replay now => replay.isSome → now.HasSaga idempotencyKey bindingId) world := by
  unfold checkpointReplay
  apply (safe_query _).bind hworld
  intro found now hnow _ hfound
  cases found with
  | none => exact fun hwrong => nomatch hwrong
  | some replay =>
    apply safe_raiseIf_bind
    intro hsame
    simp only [not_or, not_not] at hsame
    have hmem := List.mem_of_find?_eq_some hfound
    have hkey : replay.idempotencyKey = idempotencyKey := by
      simpa using List.find?_some hfound
    have hsaga := hnow.wellFormed.checkpoints replay hmem hsame.2.2.1
    rw [hkey, hsame.1] at hsaga
    apply ((safe_get bindingId hnow).since (.refl now)).bind hnow
    intro binding later _ _ hlater _
    exact hlater.2.sagas _ _ hsaga

end Frame

/-! ## Steps of services -/

namespace Frame

open InstanceStore

variable {S A : Type} {frame : Frame} {world : World S} (config : BinderConfig S)

/-- The rule of a frame for a service. -/
abbrev served (frame : Frame) : Discipline (World S) := ofStore frame.rule

theorem safe_onStore {method : Script InstanceStore InstanceError A}
    {Post : A → InstanceStore → Prop} (h : method.Safe frame.rule Post world.store) :
    (onStore method : Service S A).Safe frame.served
      (fun value now => Post value now.store) world :=
  @Safe.on _ _ _ frame.served world _ frame.rule storePart Post method h (fun _ => id)
    (fun _ _ => id) fun _ _ _ hinv hgrows => ⟨hinv, hgrows⟩

theorem served_get (bindingId : String) (hworld : frame.served.Inv world) :
    (onStore (InstanceStore.get bindingId) : Service S InstanceBinding).Safe frame.served
      (fun binding now => binding ∈ now.store.bindings ∧ binding.bindingId = bindingId)
      world :=
  safe_onStore (safe_get bindingId hworld)

theorem served_transition (arguments : Transition) (hworld : frame.served.Inv world)
    (hforeign : frame.kept arguments.bindingId = false) (hmoves : frame.Moves arguments)
    (hsaga : arguments.target = .checkpointed →
      world.store.HasSaga arguments.idempotencyKey arguments.bindingId) :
    (onStore (transition arguments) : Service S InstanceBinding).Safe frame.served
      (fun _ _ => True) world :=
  safe_onStore (safe_transition arguments hworld hforeign hmoves hsaga)

variable {idempotencyKey bindingId : String}

theorem served_beginActionSaga (saga : ActionSaga)
    (hkey : saga.idempotencyKey = idempotencyKey) (hid : saga.bindingId = bindingId)
    (hworld : frame.served.Inv world) (hforeign : frame.kept bindingId = false) :
    (onStore (beginActionSaga saga) : Service S ActionSaga).Safe frame.served
      (fun _ now => now.store.HasSaga idempotencyKey bindingId) world := by
  subst hkey hid
  exact safe_onStore (safe_beginActionSaga saga hworld hforeign)

theorem safe_advanceFrom (saga : ActionSaga)
    (expected target : SagaState) (hworld : frame.served.Inv world)
    (hsaga : world.store.HasSaga idempotencyKey bindingId)
    (hforeign : frame.kept bindingId = false) :
    (advanceFrom idempotencyKey saga expected target : Service S ActionSaga).Safe
      frame.served (fun _ now => now.store.HasSaga idempotencyKey bindingId) world := by
  have hmove : (advanceFrom idempotencyKey saga expected target :
      Service S ActionSaga).Safe frame.served (fun _ _ => True) world := by
    unfold advanceFrom
    split
    · apply (AllowsOwn.tick.safe world hworld).bind hworld
      intro clock now hnow hextends _
      exact safe_onStore (safe_advanceActionSaga expected target clock hnow
        (hextends.sagas _ _ hsaga) hforeign)
    · exact trivial
  apply (hmove.since (.refl world.store)).mono
  intro _ now hnow
  exact hnow.2.sagas _ _ hsaga

theorem safe_finalizeSaga (saga : ActionSaga)
    (lease : AuthorityLease) (hworld : frame.served.Inv world)
    (hsaga : world.store.HasSaga idempotencyKey bindingId)
    (hforeign : frame.kept bindingId = false) :
    (finalizeSaga idempotencyKey saga lease : Service S Unit).Safe frame.served
      (fun _ _ => True) world := by
  have hend (world : World S) (hworld : frame.served.Inv world)
      (hsaga : world.store.HasSaga idempotencyKey bindingId) :
      (tick >>= fun now => do
        let _ ← onStore (InstanceStore.advanceActionSaga idempotencyKey .localCommitted
          .leaseFinalized now)
        pure () : Service S Unit).Safe frame.served (fun _ _ => True) world := by
    apply (AllowsOwn.tick.safe world hworld).bind hworld
    intro clock now hnow hextends _
    apply (safe_onStore (safe_advanceActionSaga _ _ clock hnow
      (hextends.sagas _ _ hsaga) hforeign)).bind hnow
    intro _ later _ _ _
    exact trivial
  unfold finalizeSaga
  split
  · split
    · apply ((AllowsOwn.finalize _).safe world hworld).bind hworld
      intro _ now hnow hextends _
      exact hend now hnow (hextends.sagas _ _ hsaga)
    · exact hend world hworld hsaga
  · exact trivial

/-! ## Attaching and acknowledging -/

theorem obeys_attach (folding : TextFolding) (call : AttachCall)
    (hforeign : frame.kept call.bindingId = false)
    (hmoves : frame.Moves (attachTransition call)) :
    Obeys frame.served (attach folding call : Service S InstanceBinding) := by
  unfold attach
  apply (obeys_raiseIf _ _).bind
  intro _
  apply (obeys_get _).bind
  intro binding
  apply (obeys_raiseIf _ _).bind
  intro _
  constructor
  intro now hnow
  exact served_transition _ hnow hforeign hmoves fun hwrong => nomatch hwrong

theorem obeys_acknowledge (ack : BootstrapAck) (expectedVersion : ℕ)
    (hforeign : frame.kept ack.bindingId = false)
    (hmoves : frame.Moves (acknowledgeTransition ack expectedVersion)) :
    Obeys frame.served (acknowledge config ack expectedVersion) := by
  unfold acknowledge
  apply (obeys_get _).bind
  intro binding
  split
  · exact obeys_raise _
  · constructor
    intro now hnow
    exact served_transition _ hnow hforeign hmoves fun hwrong => nomatch hwrong

/-! ## Checkpoints -/

theorem safe_replayCheckpoint (call : CheckpointCall S) (replay : InstanceBinding) (hworld : frame.served.Inv world)
    (hsaga : world.store.HasSaga call.idempotencyKey bindingId)
    (hforeign : frame.kept bindingId = false) :
    (replayCheckpoint call replay).Safe frame.served (fun _ _ => True) world := by
  unfold replayCheckpoint
  apply ((obeys_actionSaga _).safe world hworld).bind hworld
  intro saga found hfound hextends _
  apply (safe_advanceFrom saga _ _ hfound (hextends.sagas _ _ hsaga) hforeign).bind hfound
  intro saga applied happlied _ hheld
  apply (safe_advanceFrom saga _ _ happlied hheld hforeign).bind happlied
  intro saga verified hverified _ hheld
  split
  · apply ((obeys_leaseFor _).safe verified hverified).bind hverified
    intro lease leased hleased hextends _
    apply (safe_finalizeSaga saga lease hleased (hextends.sagas _ _ hheld) hforeign).bind
      hleased
    intro _ later _ _ _
    exact trivial
  · exact trivial

theorem safe_checkpointSaga (call : CheckpointCall S) (binding : InstanceBinding)
    (profile : OCSProfile) (hforeign : frame.kept binding.bindingId = false) :
    (checkpointSaga config call binding profile).Safe frame.served
      (fun _ now => now.store.HasSaga call.idempotencyKey binding.bindingId) world := by
  unfold checkpointSaga
  apply safe_read_bind
  intro found hfound _
  cases hread : found.store.saga call.idempotencyKey with
  | none =>
    simp only
    unfold beginCheckpoint
    apply ((obeys_validatedLease ..).safe found hfound).bind hfound
    intro lease leased hleased _ _
    apply ((obeys_reserveActionLease ..).safe leased hleased).bind hleased
    intro _ reserved hreserved _ _
    apply (AllowsOwn.tick.safe reserved hreserved).bind hreserved
    intro clock now hnow _ _
    apply (served_beginActionSaga _ rfl rfl hnow hforeign).bind hnow
    intro saga later _ _ hsaga
    exact hsaga
  | some saga =>
    apply safe_raiseIf_bind
    intro hsame
    simp only [not_or, not_not] at hsame
    have hsaga := hasSaga_of_saga hread
    rw [hsame.1] at hsaga
    apply (((obeys_leaseFor _).safe found hfound).since (.refl found.store)).bind hfound
    intro lease leased _ _ hextends
    exact hextends.2.sagas _ _ hsaga

theorem obeys_checkpoint [DecidableEq S] (call : CheckpointCall S)
    (hforeign : frame.kept call.bindingId = false)
    (hmoves : ∀ binding recovered, frame.Like binding →
      frame.Moves (checkpointTransition config call binding recovered)) :
    Obeys frame.served (checkpoint config call) := by
  constructor
  intro world hworld
  unfold checkpoint
  apply (served_get _ hworld).bind hworld
  intro binding found hfound _ hbinding
  have hother : frame.kept binding.bindingId = false := by
    rw [hbinding.2]
    exact hforeign
  have hlike : frame.Like binding := hfound.like binding hbinding.1 hother
  apply safe_raiseIf_bind
  intro _
  apply ((obeys_requirePhysicalWorker ..).safe found hfound).bind hfound
  intro _ checked hchecked _ _
  apply (safe_onStore (safe_checkpointReplay _ _ _ hchecked)).bind hchecked
  intro replay now hnow _ hreplay
  cases replay with
  | some replay => exact safe_replayCheckpoint call replay hnow (hreplay rfl) hother
  | none =>
    simp only
    split
    · exact safe_raise
    · unfold checkpointNew
      apply safe_raiseIf_bind
      intro _
      apply (safe_checkpointSaga config call binding _ hother).bind hnow
      intro begun held hheld _ hsaga
      apply ((obeys_checkpointEffect ..).safe held hheld).bind hheld
      intro eventHash effected heffected hextends _
      apply (safe_advanceFrom _ _ _ heffected (hextends.sagas _ _ hsaga) hother).bind
        heffected
      intro applied advanced hadvanced _ hsaga
      apply ((AllowsHazel.recoverState _).safe advanced hadvanced).bind hadvanced
      intro recovered read hread hextends _
      apply safe_raiseIf_bind
      intro _
      apply (safe_advanceFrom _ _ _ hread (hextends.sagas _ _ hsaga) hother).bind hread
      intro verified ready hready _ hsaga
      apply (served_transition _ hready hother (hmoves binding recovered hlike)
        fun _ => hsaga).bind hready
      intro committed done hdone hextends _
      apply (safe_advanceFrom _ _ _ hdone (hextends.sagas _ _ hsaga) hother).bind hdone
      intro saga last hlast _ hsaga
      apply (safe_finalizeSaga _ _ hlast hsaga hother).bind hlast
      intro _ _ _ _ _
      exact trivial

end Frame

end ReisOs.Instances
