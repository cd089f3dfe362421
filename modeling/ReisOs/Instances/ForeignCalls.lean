import ReisOs.Instances.Framing
import ReisOs.Instances.Uniqueness

/-!
# Calls outside a frame

Preparations, replacements and recoveries on other bindings, and with them every call,
leave a frame alone.  Of the registry itself nothing is framed, so that it stays well
formed in every run.
-/

namespace ReisOs.Instances

open ReisOs.Core ReisOs.Kernel World Script

namespace Frame

open InstanceStore

variable {S : Type} {frame : Frame} {world : World S} (config : BinderConfig S)

/-- What rows are like depends on their organization only. -/
def ByOrganization (frame : Frame) : Prop :=
  ∀ row next : InstanceBinding, next.organizationId = row.organizationId →
    frame.Like row → frame.Like next

theorem ByOrganization.fixed (h : frame.ByOrganization) : frame.Fixed := by
  intro row next hfixed
  exact h row next (InstanceBinding.column_of_fixed hfixed (·.organizationId) fun _ => rfl)

/-! ## Preparations -/

theorem safe_ensureHazel [DecidableEq S] (hfixed : frame.Fixed) (binding : InstanceBinding)
    (request : PrepareInstanceRequest) (hworld : frame.served.Inv world)
    (hforeign : frame.kept binding.bindingId = false) :
    (ensureHazel config binding request).Safe frame.served (fun _ _ => True) world := by
  unfold ensureHazel
  apply ((obeys_recoverOrPersist ofStore_persistState binding).safe world hworld).bind hworld
  intro recovered now hnow _ _
  apply safe_raiseIf_bind
  intro _
  apply served_transition _ hnow hforeign (hfixed.moves _)
  intro hwrong
  cases hwrong

theorem obeys_prepare [DecidableEq S] (hfixed : frame.Fixed) (htight : frame.Tight)
    (request : PrepareInstanceRequest)
    (hlike : ∀ binding : InstanceBinding,
      binding.organizationId = request.organizationId → frame.Like binding)
    (hfresh : frame.Fresh request.idempotencyKey (config.requestHash request)) :
    Obeys frame.served (prepare config request) := by
  unfold prepare
  apply (obeys_validateRequest _).bind
  intro _
  cases config.profiles.lookup request.ocsId with
  | none => exact obeys_raise _
  | some profile =>
    constructor
    intro world hworld
    apply safe_read_bind
    intro found hfound _
    cases hread : found.store.byIdempotency request.idempotencyKey with
    | some recovered =>
      simp only
      unfold replayPrepare
      apply ((obeys_leaseFor _).safe found hfound).bind hfound
      intro lease leased hleased _ _
      apply safe_raiseIf_bind
      intro hsame
      have hkey : recovered.idempotencyKey = request.idempotencyKey := by
        simpa using List.find?_some hread
      have hforeign := hfresh.foreign hfound (List.mem_of_find?_eq_some hread) hkey
        (not_not.mp hsame)
      apply ((obeys_envelope ..).safe leased hleased).bind hleased
      intro replayed sealing hsealing _ _
      apply safe_raiseIf_bind
      intro _
      apply ((obeys_reconcileBindingLease ..).safe sealing hsealing).bind hsealing
      intro _ reconciled hreconciled _ _
      split
      · apply (safe_ensureHazel config hfixed _ _ hreconciled hforeign).bind hreconciled
        intro _ _ _ _ _
        exact trivial
      · exact trivial
    | none =>
      simp only
      unfold prepareNew
      apply ((obeys_validatedLease ..).safe found hfound).bind hfound
      intro lease leased hleased _ _
      apply ((ofStore_activeIdentity ..).safe leased hleased).bind hleased
      intro active bound hbound _ _
      apply safe_read_bind
      intro counted hcounted _
      apply (AllowsOwn.tick.safe counted hcounted).bind hcounted
      intro now read hread _ _
      apply (safe_sealed config _ _ _ _ hread).bind hread
      intro answer signed hsigned _ hsealed
      obtain ⟨binding, envelope⟩ := answer
      obtain ⟨bootstrapHash, hbinding⟩ := hsealed
      dsimp only at hbinding
      subst hbinding
      apply ((obeys_reserveActionLease ..).safe signed hsigned).bind hsigned
      intro _ reserved hreserved _ _
      apply (safe_onStore (safe_create _ hreserved htight (hlike _ rfl) hfresh)).bind
        hreserved
      intro stored created hcreated _ hforeign
      apply ((AllowsOwn.finalize _).safe created hcreated).bind hcreated
      intro _ final hfinal _ _
      apply (safe_ensureHazel config hfixed _ _ hfinal hforeign).bind hfinal
      intro _ _ _ _ _
      exact trivial

/-! ## Replacements -/

theorem safe_replacementSaga (call : ReplaceCall) (previous : InstanceBinding)
    (profile : OCSProfile) :
    (replacementSaga config call previous profile).Safe frame.served
      (fun answer now => answer.1.isSome →
        now.store.HasSaga call.idempotencyKey previous.bindingId) world := by
  unfold replacementSaga
  apply safe_read_bind
  intro found hfound _
  cases hread : found.store.saga call.idempotencyKey with
  | none =>
    simp only
    apply ((obeys_validatedLease ..).safe found hfound).bind hfound
    intro lease leased _ _ _
    exact fun hwrong => nomatch hwrong
  | some saga =>
    apply safe_raiseIf_bind
    intro hsame
    simp only [not_or, not_not] at hsame
    have hsaga := hasSaga_of_saga hread
    rw [hsame.1] at hsaga
    apply (((obeys_leaseFor _).safe found hfound).since (.refl found.store)).bind hfound
    intro lease leased _ _ hextends _
    exact hextends.2.sagas _ _ hsaga

theorem safe_beginReplacement (call : ReplaceCall) (previous successor : InstanceBinding)
    (profile : OCSProfile) (lease : AuthorityLease) (begun : Option ActionSaga)
    (hworld : frame.served.Inv world)
    (hforeign : frame.kept previous.bindingId = false)
    (hbegun : begun.isSome → world.store.HasSaga call.idempotencyKey previous.bindingId) :
    (beginReplacement config call previous successor profile lease begun).Safe frame.served
      (fun _ now => now.store.HasSaga call.idempotencyKey previous.bindingId) world := by
  unfold beginReplacement
  cases begun with
  | some saga => exact hbegun rfl
  | none =>
    apply ((obeys_reserveActionLease ..).safe world hworld).bind hworld
    intro _ reserved hreserved _ _
    apply (AllowsOwn.tick.safe reserved hreserved).bind hreserved
    intro now read hread _ _
    exact served_beginActionSaga _ rfl rfl hread hforeign

/-- A replayed replacement finalizes the saga of its key. -/
theorem safe_replayReplace (call : ReplaceCall) (previous : InstanceBinding)
    (replayed : Option InstanceBinding) (hworld : frame.served.Inv world)
    (hsagas : ∀ saga ∈ frame.part.sagas, saga.idempotencyKey = call.idempotencyKey →
      saga.state ≠ .localCommitted) :
    (replayReplace config call previous replayed).Safe frame.served (fun _ _ => True)
      world := by
  unfold replayReplace
  cases replayed with
  | none => exact safe_raise
  | some replayed =>
    apply safe_raiseIf_bind
    intro _
    split
    · exact safe_raise
    · apply ((obeys_leaseFor _).safe world hworld).bind hworld
      intro lease leased hleased _ _
      apply ((obeys_envelope ..).safe leased hleased).bind hleased
      intro signed sealing hsealing _ _
      apply safe_raiseIf_bind
      intro _
      apply ((obeys_reconcileBindingLease ..).safe sealing hsealing).bind hsealing
      intro _ reconciled hreconciled _ _
      apply safe_read_bind
      intro now hnow _
      cases hread : now.store.saga call.idempotencyKey with
      | none => exact trivial
      | some saga =>
        simp only
        by_cases hcommitted : saga.state = .localCommitted
        · have hforeign : frame.kept saga.bindingId = false := by
            by_contra hkept
            have hmem : saga ∈ frame.part.sagas := by
              rw [← hnow.part]
              exact List.mem_filter.mpr
                ⟨List.mem_of_find?_eq_some hread, by simpa using hkept⟩
            have hkey : saga.idempotencyKey = call.idempotencyKey := by
              simpa using List.find?_some hread
            exact hsagas saga hmem hkey hcommitted
          apply (safe_advanceFrom saga _ _ hnow (hasSaga_of_saga hread) hforeign).bind
            hnow
          intro _ _ _ _ _
          exact trivial
        · unfold advanceFrom
          rw [if_neg hcommitted]
          exact trivial

theorem safe_replaceNew [DecidableEq S] (horganization : frame.ByOrganization)
    (htight : frame.Tight) (call : ReplaceCall) (previous : InstanceBinding)
    (hworld : frame.served.Inv world) (hforeign : frame.kept previous.bindingId = false)
    (hlike : frame.Like previous)
    (hfresh : frame.Fresh call.request.idempotencyKey (config.requestHash call.request)) :
    (replaceNew config call previous).Safe frame.served (fun _ _ => True) world := by
  unfold replaceNew
  apply ((obeys_checkReplaceable config call previous).safe world hworld).bind hworld
  intro profile checked hchecked _ _
  apply (safe_replacementSaga config call previous profile).bind hchecked
  intro begun held hheld _ hbegun
  apply ((AllowsHazel.recoverState _).safe held hheld).bind hheld
  intro prior recovered hrecovered hextends _
  apply (AllowsOwn.tick.safe recovered hrecovered).bind hrecovered
  intro now read hread hextendsRead _
  apply (safe_sealed config _ _ _ _ hread).bind hread
  intro answer signed hsigned hextendsSigned hsealed
  obtain ⟨provisional, envelope⟩ := answer
  obtain ⟨bootstrapHash, hbinding⟩ := hsealed
  dsimp only at hbinding
  subst hbinding
  have hstill : begun.1.isSome →
      signed.store.HasSaga call.idempotencyKey previous.bindingId := fun hsome =>
    (hextends.trans (hextendsRead.trans hextendsSigned)).sagas _ _ (hbegun hsome)
  apply (safe_beginReplacement config call previous _ profile _ begun.1 hsigned hforeign
    hstill).bind hsigned
  intro saga stored hstored _ hsaga
  have hcreate := safe_create { successorBinding config call.request previous begun.2 now with
    bootstrapHash := bootstrapHash } hstored htight (horganization previous _ rfl hlike) hfresh
  apply ((safe_onStore hcreate).since (.refl stored.store)).bind hstored
  intro successor created hcreated _ hcreation
  have hsaga := hcreation.2.sagas _ _ hsaga
  apply ((obeys_takenOver ..).safe created hcreated).bind hcreated
  intro payload taken htaken hextends _
  apply ((obeys_replacementEffect ..).safe taken htaken).bind htaken
  intro eventHash effected heffected hextendsEffected _
  apply (safe_advanceFrom saga _ _ heffected
    ((hextends.trans hextendsEffected).sagas _ _ hsaga) hforeign).bind heffected
  intro saga applied happlied _ hsaga
  apply ((AllowsHazel.recoverState _).safe applied happlied).bind happlied
  intro readback found hfound hextends _
  apply safe_raiseIf_bind
  intro _
  apply (safe_advanceFrom saga _ _ hfound (hextends.sagas _ _ hsaga) hforeign).bind hfound
  intro saga verified hverified _ hsaga
  apply ((safe_onStore (safe_commitReplacement _ hverified horganization.fixed hforeign
    hcreation.1)).since (.refl verified.store)).bind hverified
  intro committed done hdone _ hextends
  apply (safe_advanceFrom saga _ _ hdone (hextends.2.sagas _ _ hsaga) hforeign).bind hdone
  intro saga ended hended _ hsaga
  apply (safe_finalizeSaga saga _ hended hsaga hforeign).bind hended
  intro _ _ _ _ _
  exact trivial

theorem obeys_replaceInstance [DecidableEq S] (horganization : frame.ByOrganization)
    (htight : frame.Tight) (call : ReplaceCall) (hforeign : frame.kept call.bindingId = false)
    (hfresh : frame.Fresh call.request.idempotencyKey (config.requestHash call.request))
    (hsagas : ∀ saga ∈ frame.part.sagas, saga.idempotencyKey = call.idempotencyKey →
      saga.state ≠ .localCommitted) :
    Obeys frame.served (replaceInstance config call) := by
  unfold replaceInstance
  apply (obeys_validateRequest _).bind
  intro _
  constructor
  intro world hworld
  apply (served_get _ hworld).bind hworld
  intro previous found hfound _ hprevious
  apply safe_read_bind
  intro now hnow _
  have hother : frame.kept previous.bindingId = false := by
    rw [hprevious.2]
    exact hforeign
  split
  · exact safe_replayReplace config call previous _ hnow hsagas
  · exact safe_replaceNew config horganization htight call previous hnow hother
      (hfound.like previous hprevious.1 hother) hfresh

/-! ## Recovery -/

theorem laterSaga_mem {sagas : List ActionSaga} {start : Option ActionSaga}
    {saga : ActionSaga} (h : sagas.foldl laterSaga start = some saga) :
    start = some saga ∨ saga ∈ sagas := by
  induction sagas generalizing start with
  | nil => exact Or.inl h
  | cons head rest ih =>
    rcases ih h with hlater | hrest
    · cases start with
      | none =>
        cases hlater
        exact Or.inr List.mem_cons_self
      | some kept =>
        rw [laterSaga] at hlater
        split at hlater
        · cases hlater
          exact Or.inr List.mem_cons_self
        · exact Or.inl hlater
    · exact Or.inr (List.mem_cons_of_mem _ hrest)

theorem hasSaga_of_latest {store : InstanceStore} {predecessorId : String}
    {saga : ActionSaga} (h : store.latestReplacementSaga predecessorId = some saga) :
    store.HasSaga saga.idempotencyKey predecessorId := by
  rcases laterSaga_mem h with hnone | hmem
  · cases hnone
  · have hfilter := List.mem_filter.mp hmem
    have hid : saga.bindingId = predecessorId := by
      have hboth := of_decide_eq_true hfilter.2
      exact hboth.1
    exact ⟨saga, hfilter.1, rfl, hid⟩

theorem safe_recoveryCommit (hfixed : frame.Fixed) (predecessorId successorId sagaId : String)
    (nextVersion : ℕ) (recovered : HazelRecord (HazelPayload S))
    (hworld : frame.served.Inv world) (hforeign : frame.kept predecessorId = false)
    (hforeignSuccessor : frame.kept successorId = false) :
    (recoveryCommit predecessorId successorId sagaId nextVersion recovered).Safe
      frame.served (fun _ _ => True) world := by
  have hend : Obeys frame.served (onStore (InstanceStore.get predecessorId) >>=
      fun predecessor => onStore (InstanceStore.get successorId) >>= fun successor =>
        raiseIf (predecessor.status ≠ .replaced ∨
          successor.status ∉ [.persisted, .bound, .active, .checkpointed])
          (.binding "replacement_local_commit_incomplete") >>= fun _ =>
            pure successor : Service S InstanceBinding) := by
    apply (obeys_get _).bind
    intro predecessor
    apply (obeys_get _).bind
    intro successor
    exact (obeys_raiseIf _ _).bind fun _ => obeys_pure successor
  unfold recoveryCommit
  apply (served_get _ hworld).bind hworld
  intro predecessor found hfound _ hpredecessor
  apply (served_get _ hfound).bind hfound
  intro successor now hnow _ hsuccessor
  split
  · have hcommit := safe_commitReplacement (replacementCommit predecessor.bindingId
      successor.bindingId sagaId predecessor.version successor.version nextVersion recovered)
      hnow hfixed (hpredecessor.2 ▸ hforeign) (hsuccessor.2 ▸ hforeignSuccessor)
    apply (safe_onStore hcommit).bind hnow
    intro _ later hlater _ _
    exact hend.safe later hlater
  · exact hend.safe now hnow

theorem safe_recoveryFinalize (successor : InstanceBinding) {sagaId bindingId : String}
    (hworld : frame.served.Inv world) (hsaga : world.store.HasSaga sagaId bindingId)
    (hforeign : frame.kept bindingId = false) :
    (recoveryFinalize successor sagaId : Service S SagaState).Safe frame.served
      (fun _ _ => True) world := by
  have hend (saga : ActionSaga) (world : World S) (hworld : frame.served.Inv world)
      (hsaga : world.store.HasSaga sagaId bindingId) :
      (advanceFrom sagaId saga .localCommitted .leaseFinalized >>= fun saga =>
        raiseIf (saga.state ≠ .leaseFinalized)
          (.binding "replacement_recovery_saga_incomplete") >>= fun _ =>
            pure saga.state : Service S SagaState).Safe frame.served (fun _ _ => True)
        world := by
    apply (safe_advanceFrom saga _ _ hworld hsaga hforeign).bind hworld
    intro saga now hnow _ _
    apply safe_raiseIf_bind
    intro _
    exact trivial
  unfold recoveryFinalize
  apply ((obeys_actionSaga _).safe world hworld).bind hworld
  intro saga found hfound hextends _
  apply (safe_advanceFrom saga _ _ hfound (hextends.sagas _ _ hsaga) hforeign).bind hfound
  intro saga advanced hadvanced _ hsaga
  split
  · apply ((obeys_leaseFor _).safe advanced hadvanced).bind hadvanced
    intro lease leased hleased hextends _
    have hheld := hextends.sagas _ _ hsaga
    split
    · apply ((AllowsOwn.finalize _).safe leased hleased).bind hleased
      intro _ final hfinal hextendsFinal _
      exact hend saga final hfinal (hextendsFinal.sagas _ _ hheld)
    · exact hend saga leased hleased hheld
  · apply safe_raiseIf_bind
    intro _
    exact trivial

theorem safe_reconcileReplacement (hfixed : frame.Fixed) (successor : InstanceBinding)
    (predecessorId : String) (hworld : frame.served.Inv world)
    (hforeign : frame.kept predecessorId = false)
    (hforeignSuccessor : frame.kept successor.bindingId = false) :
    (reconcileReplacement config successor predecessorId).Safe frame.served
      (fun _ _ => True) world := by
  unfold reconcileReplacement
  apply (served_get _ hworld).bind hworld
  intro predecessor found hfound _ hpredecessor
  have hother : frame.kept predecessor.bindingId = false := by
    rw [hpredecessor.2]
    exact hforeign
  apply safe_read_bind
  intro now hnow _
  cases hread : now.store.latestReplacementSaga predecessor.bindingId with
  | none => exact safe_raise
  | some saga =>
    have hsaga := hasSaga_of_latest hread
    apply safe_raiseIf_bind
    intro _
    apply ((obeys_leaseFor _).safe now hnow).bind hnow
    intro lease leased hleased hextends _
    apply safe_raiseIf_bind
    intro _
    apply ((obeys_recoveryEffect ..).safe leased hleased).bind hleased
    intro eventHash effected heffected hextendsEffected _
    apply (safe_advanceFrom saga _ _ heffected
      ((hextends.trans hextendsEffected).sagas _ _ hsaga) hother).bind heffected
    intro applied advanced hadvanced _ hsaga
    apply ((AllowsHazel.recoverState _).safe advanced hadvanced).bind hadvanced
    intro recovered read hread hextends _
    apply ((obeys_validateReplacementHazel ..).safe read hread).bind hread
    intro _ valid hvalid hextendsValid _
    apply safe_raiseIf_bind
    intro _
    apply (safe_advanceFrom applied _ _ hvalid
      ((hextends.trans hextendsValid).sagas _ _ hsaga) hother).bind hvalid
    intro verified ready hready _ hsaga
    apply ((safe_recoveryCommit hfixed _ _ _ _ recovered hready hother
      hforeignSuccessor).since (.refl ready.store)).bind hready
    intro committed done hdone _ hextends
    apply (safe_recoveryFinalize committed hdone (hextends.2.sagas _ _ hsaga) hother).bind
      hdone
    intro _ _ _ _ _
    exact trivial

theorem obeys_recoverInstance (hfixed : frame.Fixed) (organizationId missionId ocsId : String)
    (hrows : ∀ row ∈ frame.part.bindings, row.organizationId ≠ organizationId) :
    Obeys frame.served (recoverInstance config organizationId missionId ocsId) := by
  constructor
  intro world hworld
  unfold recoverInstance
  apply safe_read_bind
  intro found hfound _
  have hforeign (row : InstanceBinding) (hrow : row ∈ found.store.bindings)
      (hsame : row.organizationId = organizationId) :
      frame.kept row.bindingId = false := by
    by_contra hkept
    exact hrows row ((mem_part hfound).mpr ⟨hrow, by simpa using hkept⟩) hsame
  cases hread : found.store.latestBinding organizationId missionId ocsId with
  | none => exact safe_raise
  | some latest =>
    have hlineage := List.mem_filter.mp (List.mem_of_find?_eq_some hread)
    have horganization : latest.organizationId = organizationId := by
      have hall := of_decide_eq_true hlineage.2
      exact hall.1
    have hother := hforeign latest hlineage.1 horganization
    apply ((obeys_validateLocalIdentity config latest).safe found hfound).bind hfound
    intro _ valid hvalid _ _
    apply safe_read_bind
    intro counted hcounted _
    apply safe_raiseIf_bind
    intro _
    have hsettle : (settleLineage config latest).Safe frame.served (fun _ _ => True)
        counted := by
      unfold settleLineage
      split
      · apply safe_read_bind
        intro now hnow _
        apply safe_raiseIf_bind
        intro _
        exact trivial
      · rename_i predecessorId hlink
        obtain ⟨previous, hprevious, hid, hsame⟩ :=
          hfound.wellFormed.predecessors latest hlineage.1 predecessorId hlink
        have hpredecessor := hforeign previous hprevious (hsame.trans horganization)
        rw [hid] at hpredecessor
        apply (safe_reconcileReplacement config hfixed latest predecessorId hcounted
          hpredecessor hother).bind hcounted
        intro _ _ _ _ _
        exact trivial
    apply hsettle.bind hcounted
    intro settled now hnow _ _
    apply ((AllowsHazel.recoverState _).safe now hnow).bind hnow
    intro recovered read hread _ _
    apply ((obeys_validateHazelFidelity ..).safe read hread).bind hread
    intro _ faithful hfaithful _ _
    apply ((obeys_stateVersionOf _).safe faithful hfaithful).bind hfaithful
    intro _ _ _ _ _
    exact trivial

/-! ## Every call -/

/-- A call on bindings outside the frame.  A preparation or replacement must not be
answered by a kept row, and the key of a replacement must not be that of a kept saga
that waits for its lease to be finalized. -/
def Foreign (frame : Frame) (config : BinderConfig S) : Call S → Prop
  | .prepare request =>
    (∀ binding : InstanceBinding, binding.organizationId = request.organizationId →
      frame.Like binding) ∧
      frame.Fresh request.idempotencyKey (config.requestHash request)
  | .attach call => frame.kept call.bindingId = false
  | .acknowledge ack _ => frame.kept ack.bindingId = false
  | .checkpoint call => frame.kept call.bindingId = false
  | .replaceInstance call =>
    frame.kept call.bindingId = false ∧
      frame.Fresh call.request.idempotencyKey (config.requestHash call.request) ∧
      ∀ saga ∈ frame.part.sagas, saga.idempotencyKey = call.idempotencyKey →
        saga.state ≠ .localCommitted
  | .recoverInstance organizationId _ _ =>
    ∀ row ∈ frame.part.bindings, row.organizationId ≠ organizationId

theorem obeys_foreign [DecidableEq S] (folding : TextFolding)
    (horganization : frame.ByOrganization) (htight : frame.Tight) {made : Call S}
    (h : frame.Foreign config made) : Obeys frame.served (made.script config folding) := by
  have hfixed := horganization.fixed
  cases made with
  | prepare request =>
    exact (obeys_prepare config hfixed htight request h.1 h.2).bind fun _ => obeys_pure ()
  | attach call =>
    exact (obeys_attach folding call h (hfixed.moves _)).bind fun _ => obeys_pure ()
  | acknowledge ack expectedVersion =>
    exact (obeys_acknowledge config ack expectedVersion h (hfixed.moves _)).bind
      fun _ => obeys_pure ()
  | checkpoint call =>
    exact (obeys_checkpoint config call h fun _ _ _ => hfixed.moves _).bind
      fun _ => obeys_pure ()
  | replaceInstance call =>
    exact (obeys_replaceInstance config horganization htight call h.1 h.2.1 h.2.2).bind
      fun _ => obeys_pure ()
  | recoverInstance organizationId missionId ocsId =>
    exact (obeys_recoverInstance config hfixed organizationId missionId ocsId h).bind
      fun _ => obeys_pure ()

theorem byOrganization_nothing : nothing.ByOrganization := fun _ _ _ => id

theorem tight_nothing : nothing.Tight := fun _ hkept => nomatch hkept

theorem foreign_nothing (made : Call S) : nothing.Foreign config made := by
  have hfresh (idempotencyKey requestHash : String) :
      nothing.Fresh idempotencyKey requestHash := fun _ hrow => nomatch hrow
  cases made with
  | prepare request => exact ⟨fun _ _ => trivial, hfresh _ _⟩
  | attach call => rfl
  | acknowledge ack expectedVersion => rfl
  | checkpoint call => rfl
  | replaceInstance call => exact ⟨rfl, hfresh _ _, fun _ hsaga => nomatch hsaga⟩
  | recoverInstance organizationId missionId ocsId => exact fun _ hrow => nomatch hrow

/-! ## Every run -/

/-- The rule of a frame for a pool. -/
def pooled (frame : Frame) : PoolRule (InstanceStore × Hazel S) Own where
  Common common := frame.Holds common.1
  Own _ := True
  Grows common later := common.1.Extends later.1
  refl common := .refl common.1
  trans := .trans

theorem allowed_start (process : ℕ) {script : Service S Unit}
    (h : Obeys frame.served script) :
    Pool.Allowed parts frame.pooled (.start process script) := by
  intro world hworld
  apply (h.safe world hworld.1).weaken
  · exact fun _ => ⟨And.left, fun hnow => ⟨hnow, trivial⟩⟩
  · exact fun _ _ => id
  · exact fun _ _ => id

end Frame

open Frame in
theorem turns_extend [DecidableEq S] (config : BinderConfig S) (folding : TextFolding)
    (event : Event S) :
    ∀ next ∈ event.turns config folding, Pool.Allowed parts nothing.pooled next := by
  intro next hnext
  cases event with
  | call process made =>
    rw [List.mem_singleton.mp hnext]
    exact allowed_start process (obeys_foreign config folding byOrganization_nothing
      tight_nothing (foreign_nothing config made))
  | step process =>
    rw [List.mem_singleton.mp hnext]
    trivial
  | crash process =>
    rcases List.mem_pair.mp hnext with rfl | rfl
    · trivial
    · exact fun _ => id
  | leases process manager =>
    rw [List.mem_singleton.mp hnext]
    exact fun _ => id
  | clock process readings =>
    rw [List.mem_singleton.mp hnext]
    exact fun _ => id

end ReisOs.Instances
