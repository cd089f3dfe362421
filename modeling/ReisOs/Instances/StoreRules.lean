import ReisOs.Instances.Obedience

/-!
# Rules of the registry

A rule that says how the registry may change is obeyed by every call if its transactions
obey it: the calls write the registry by its own methods only, and nothing else they do
touches it.
-/

namespace ReisOs.Instances

open ReisOs.Core ReisOs.Kernel World Script

/-! ## Methods and their transactions -/

namespace InstanceStore

variable {rule : Discipline InstanceStore}

theorem obeys_storeGet (bindingId : String) : Obeys rule (get bindingId) := by
  apply (obeys_read _).bind
  intro found
  cases found with
  | none => exact obeys_raise _
  | some binding => exact obeys_pure binding

theorem obeys_checkPredecessor (binding : InstanceBinding) :
    Obeys rule (checkPredecessor binding) := by
  unfold checkPredecessor
  split
  · exact obeys_pure ()
  · apply (obeys_read _).bind
    intro found
    cases found with
    | none => exact obeys_raise _
    | some predecessor => exact obeys_raiseIf _ _

theorem obeys_create (binding : InstanceBinding)
    (h : Obeys rule (commit (insertCreated binding))) : Obeys rule (create binding) := by
  apply (obeys_raiseIf _ _).bind
  intro _
  apply (obeys_read _).bind
  intro replay
  cases replay with
  | some recovered => exact (obeys_raiseIf _ _).bind fun _ => obeys_pure recovered
  | none =>
    apply (obeys_read _).bind
    intro active
    apply (obeys_raiseIf _ _).bind
    intro _
    apply (obeys_checkPredecessor binding).bind
    intro _
    exact h.bind fun _ => obeys_pure binding

theorem obeys_transition (arguments : Transition)
    (h : ∀ current, Obeys rule (commit (applyTransition arguments current))) :
    Obeys rule (transition arguments) := by
  apply (obeys_read _).bind
  intro replay
  cases replay with
  | some replay => exact (obeys_raiseIf _ _).bind fun _ => obeys_storeGet _
  | none =>
    apply (obeys_storeGet _).bind
    intro current
    apply (obeys_raiseIf _ _).bind
    intro _
    apply (obeys_raiseIf _ _).bind
    intro _
    exact (h current).bind fun _ => obeys_pure _

theorem obeys_commitReplacement (arguments : Replacement)
    (h : ∀ predecessor successor,
      Obeys rule (commit (applyReplacement arguments predecessor successor))) :
    Obeys rule (commitReplacement arguments) := by
  apply (obeys_read _).bind
  intro replay
  cases replay with
  | some replay =>
    apply (obeys_raiseIf _ _).bind
    intro _
    apply (obeys_storeGet _).bind
    intro predecessor
    exact (obeys_storeGet _).bind fun successor => obeys_pure _
  | none =>
    apply (obeys_read _).bind
    intro predecessorRow
    apply (obeys_read _).bind
    intro successorRow
    cases predecessorRow with
    | none => exact obeys_raise _
    | some predecessor =>
      cases successorRow with
      | none => exact obeys_raise _
      | some successor =>
        apply (obeys_raiseIf _ _).bind
        intro _
        apply (obeys_raiseIf _ _).bind
        intro _
        apply (obeys_raiseIf _ _).bind
        intro _
        apply (obeys_raiseIf _ _).bind
        intro _
        exact (h predecessor successor).bind fun _ => obeys_pure _

end InstanceStore

variable {S A : Type} {config : BinderConfig S} {world after : World S}

/-! ## Steps outside the registry -/

/-- Only Hazel, the guard and the clock change. -/
def outside : Discipline (World S) :=
  .alone (fun _ => True)
    (fun world now => now.store = world.store ∧ now.leases = world.leases)
    (fun _ => ⟨rfl, rfl⟩) (fun h hnext => ⟨hnext.1.trans h.1, hnext.2.trans h.2⟩)

theorem outside_act {A : Type} {f : World S → World S × Except InstanceError A}
    (hstore : ∀ now, (f now).1.store = now.store)
    (hleases : ∀ now, (f now).1.leases = now.leases) : Obeys outside (act f) := by
  apply obeys_act
  intro now _
  exact ⟨trivial, hstore now, hleases now⟩

theorem outside_tick : Obeys outside (tick : Service S Time) :=
  outside_act (fun _ => rfl) fun _ => rfl

theorem outside_onGuard {A E : Type} (lift : E → InstanceError)
    (call : IdentityKernelGuard → IdentityKernelGuard × Except E A) :
    Obeys outside (onGuard lift call : Service S A) := by
  apply outside_act
  · intro now
    rcases call now.guard with ⟨guard, answer⟩
    cases answer <;> rfl
  · intro now
    rcases call now.guard with ⟨guard, answer⟩
    cases answer <;> rfl

theorem outside_recoverState (arguments : RecoverArguments) :
    Obeys outside (recoverState config arguments) := by
  apply (outside_onGuard _ _).bind
  intro active
  apply (obeys_read _).bind
  intro recovered
  exact outside_onGuard _ _

theorem outside_persistState (arguments : PersistArguments (HazelPayload S)) :
    Obeys outside (persistState config arguments) := by
  apply (outside_onGuard _ _).bind
  intro active
  have htransport : Obeys outside (transportPersist config
      (HazelBoundContinuity.envelope config.hazel active arguments)) :=
    outside_act (fun _ => rfl) fun _ => rfl
  apply htransport.bind
  intro receipt
  exact outside_onGuard _ _

theorem outside_recoverOrPersist [DecidableEq S] (binding : InstanceBinding) :
    Obeys outside (recoverOrPersist config binding) := by
  apply Obeys.handle
  · apply (outside_recoverState _).bind
    intro recovered
    exact (obeys_raiseIf _ _).bind fun _ => obeys_pure recovered
  · intro error other hother
    split at hother
    · cases hother
      apply (outside_persistState _).bind
      intro receipt
      apply (outside_recoverState _).bind
      intro recovered
      exact (obeys_raiseIf _ _).bind fun _ => obeys_pure recovered
    · cases hother

theorem outside_activeIdentity (request : PrepareInstanceRequest) (runId : String) :
    Obeys outside (activeIdentity config request runId) := by
  apply (obeys_read _).bind
  intro found
  cases found with
  | some active => exact outside_onGuard _ _
  | none =>
    apply outside_tick.bind
    intro now
    exact (outside_onGuard _ _).bind fun _ => outside_onGuard _ _

theorem outside_exec {A : Type} {script : Service S A} {answer : Except InstanceError A}
    (hscript : Obeys outside script) (h : script.exec world = (after, answer)) :
    after.store = world.store ∧ after.leases = world.leases := (hscript.ends trivial h).2

/-! ## Preparations -/

/-- What a preparation does beyond the steps that every discipline allows. -/
class AllowsPreparation (rule : Discipline (World S)) (config : BinderConfig S) : Prop where
  create : ∀ binding : InstanceBinding,
    Obeys rule (onStore (InstanceStore.create binding) : Service S InstanceBinding)
  transition : ∀ arguments : InstanceStore.Transition,
    Obeys rule (onStore (InstanceStore.transition arguments) : Service S InstanceBinding)
  persistState : ∀ arguments, Obeys rule (persistState config arguments)
  activeIdentity : ∀ request runId, Obeys rule (activeIdentity config request runId)

/-- The writes of a preparation as they are made: the row of a first generation, and the
transition that persists it. -/
class AllowsFirst (rule : Discipline (World S)) (config : BinderConfig S) : Prop where
  create : ∀ binding : InstanceBinding, binding.predecessorBindingId = none →
    binding.maturity = .preparedUnverified →
      Obeys rule (onStore (InstanceStore.create binding) : Service S InstanceBinding)
  transition : ∀ arguments : InstanceStore.Transition, arguments.target = .persisted →
    arguments.maturity = none →
      Obeys rule (onStore (InstanceStore.transition arguments) : Service S InstanceBinding)
  persistState : ∀ arguments, Obeys rule (persistState config arguments)
  activeIdentity : ∀ request runId, Obeys rule (activeIdentity config request runId)

instance {rule : Discipline (World S)} [AllowsPreparation rule config] :
    AllowsFirst rule config where
  create binding _ _ := AllowsPreparation.create config binding
  transition arguments _ _ := AllowsPreparation.transition config arguments
  persistState := AllowsPreparation.persistState
  activeIdentity := AllowsPreparation.activeIdentity

section Preparation

variable {rule : Discipline (World S)}

theorem obeys_recoverOrPersist [AllowsHazel rule config] [DecidableEq S]
    (hpersist : ∀ arguments, Obeys rule (persistState config arguments))
    (binding : InstanceBinding) : Obeys rule (recoverOrPersist config binding) := by
  have hwrite : Obeys rule (persistPrepared config binding) := by
    apply (hpersist _).bind
    intro receipt
    apply (AllowsHazel.recoverState _).bind
    intro recovered
    exact (obeys_raiseIf _ _).bind fun _ => obeys_pure recovered
  unfold recoverOrPersist
  apply Obeys.handle
  · apply (AllowsHazel.recoverState _).bind
    intro recovered
    exact (obeys_raiseIf _ _).bind fun _ => obeys_pure recovered
  · intro error other hother
    split at hother
    · cases hother
      exact hwrite
    · cases hother

theorem obeys_ensureHazel [AllowsHazel rule config] [AllowsFirst rule config]
    [DecidableEq S] (binding : InstanceBinding) (request : PrepareInstanceRequest) :
    Obeys rule (ensureHazel config binding request) := by
  apply (obeys_recoverOrPersist AllowsFirst.persistState binding).bind
  intro recovered
  apply (obeys_raiseIf _ _).bind
  intro _
  exact AllowsFirst.transition config _ rfl rfl

theorem obeys_sealedPreparation [AllowsOwn rule] [AllowsHazel rule config]
    [AllowsFirst rule config] [DecidableEq S] (request : PrepareInstanceRequest)
    (profile : OCSProfile) (lease : AuthorityLease) (provisional : InstanceBinding)
    (hfirst : provisional.predecessorBindingId = none)
    (hunverified : provisional.maturity = .preparedUnverified) :
    Obeys rule (do
      let (binding, signed) ← sealed config provisional profile lease
        (config.nonce (config.requestHash request))
      reserveBindingLease request profile lease binding
      let stored ← onStore (InstanceStore.create binding)
      finalize lease.leaseId
      let durable ← ensureHazel config stored request
      return (durable, signed)) := by
  constructor
  intro world hworld
  apply (safe_sealed config _ _ _ _ hworld).bind hworld
  intro answer found hfound _ hsealed
  obtain ⟨binding, signed⟩ := answer
  obtain ⟨bootstrapHash, hbinding⟩ := hsealed
  dsimp only at hbinding
  subst hbinding
  apply ((obeys_reserveActionLease ..).safe found hfound).bind hfound
  intro _ reserved hreserved _ _
  have hcreate : Obeys rule (onStore (InstanceStore.create
      { provisional with bootstrapHash := bootstrapHash }) : Service S InstanceBinding) :=
    AllowsFirst.create config _ hfirst hunverified
  apply (hcreate.safe reserved hreserved).bind hreserved
  intro stored created hcreated _ _
  apply ((AllowsOwn.finalize _).safe created hcreated).bind hcreated
  intro _ finalized hfinalized _ _
  have hensured : Obeys rule (ensureHazel config stored request) := obeys_ensureHazel ..
  exact (hensured.bind fun _ => obeys_pure _).safe finalized hfinalized

theorem obeys_preparation [AllowsOwn rule] [AllowsHazel rule config]
    [AllowsFirst rule config] [DecidableEq S] (request : PrepareInstanceRequest) :
    Obeys rule (prepare config request) := by
  unfold prepare
  apply (obeys_validateRequest _).bind
  intro _
  cases config.profiles.lookup request.ocsId with
  | none => exact obeys_raise _
  | some profile =>
    apply (obeys_read _).bind
    intro found
    cases found with
    | some recovered =>
      apply (obeys_leaseFor _).bind
      intro lease
      apply (obeys_raiseIf _ _).bind
      intro _
      apply (obeys_envelope ..).bind
      intro replayed
      apply (obeys_raiseIf _ _).bind
      intro _
      apply (obeys_reconcileBindingLease ..).bind
      intro _
      split
      · exact (obeys_ensureHazel ..).bind fun _ => obeys_pure _
      · exact obeys_pure _
    | none =>
      apply (obeys_validatedLease ..).bind
      intro lease
      apply (AllowsFirst.activeIdentity ..).bind
      intro active
      apply (obeys_read _).bind
      intro latest
      apply AllowsOwn.tick.bind
      intro now
      exact obeys_sealedPreparation request profile lease _ rfl rfl

end Preparation

/-! ## Lifted rules -/

/-- A rule of the registry, as a rule of the world. -/
def ofStore (rule : Discipline InstanceStore) : Discipline (World S) where
  Inv world := rule.Inv world.store
  Grows world now := rule.Grows world.store now.store
  Others world now := rule.Others world.store now.store
  refl world := rule.refl world.store
  trans := rule.trans
  idle world := rule.idle world.store
  others := rule.others

/-- The transactions of the registry keep the rule. -/
class AllowsStore (rule : Discipline InstanceStore) : Prop where
  /-- A write that leaves the rows and the journal alone. -/
  commit : ∀ {writes : InstanceStore → Except InstanceError InstanceStore},
    (∀ store written, writes store = .ok written →
      written.bindings = store.bindings ∧ written.journal = store.journal) →
      Obeys rule (InstanceStore.commit writes)
  insertCreated : ∀ binding,
    Obeys rule (InstanceStore.commit (InstanceStore.insertCreated binding))
  applyTransition : ∀ arguments current,
    Obeys rule (InstanceStore.commit (InstanceStore.applyTransition arguments current))
  applyReplacement : ∀ arguments predecessor successor, Obeys rule
    (InstanceStore.commit (InstanceStore.applyReplacement arguments predecessor successor))

section Lifted

variable {rule : Discipline InstanceStore}

theorem ofStore_onStore {method : Script InstanceStore InstanceError A}
    (h : Obeys rule method) : Obeys (ofStore rule) (onStore method : Service S A) := by
  apply Obeys.on _ _ _ h
  · exact fun _ => id
  · exact fun _ _ => id
  · exact fun _ _ _ hinv hgrows => ⟨hinv, hgrows⟩

theorem ofStore_act {f : World S → World S × Except InstanceError A}
    (h : ∀ now, (f now).1.store = now.store) : Obeys (ofStore rule) (act f) := by
  apply obeys_act
  intro now hnow
  refine ⟨?_, ?_⟩
  · change rule.Inv (f now).1.store
    rw [h now]
    exact hnow
  · change rule.Grows now.store (f now).1.store
    rw [h now]
    exact rule.refl now.store

theorem ofStore_onGuard {E : Type} (lift : E → InstanceError)
    (call : IdentityKernelGuard → IdentityKernelGuard × Except E A) :
    Obeys (ofStore rule) (onGuard lift call : Service S A) := by
  apply ofStore_act
  intro now
  rcases call now.guard with ⟨guard, answer⟩
  cases answer <;> rfl

theorem ofStore_recoverState (arguments : RecoverArguments) :
    Obeys (ofStore rule) (recoverState config arguments) := by
  apply (ofStore_onGuard _ _).bind
  intro active
  apply (obeys_read _).bind
  intro recovered
  exact ofStore_onGuard _ _

theorem ofStore_persistState (arguments : PersistArguments (HazelPayload S)) :
    Obeys (ofStore rule) (persistState config arguments) := by
  apply (ofStore_onGuard _ _).bind
  intro active
  have htransport : Obeys (ofStore rule) (transportPersist config
      (HazelBoundContinuity.envelope config.hazel active arguments)) :=
    ofStore_act fun _ => rfl
  apply htransport.bind
  intro receipt
  exact ofStore_onGuard _ _

theorem ofStore_tick : Obeys (ofStore rule) (tick : Service S Time) := ofStore_act fun _ => rfl

theorem ofStore_activeIdentity (request : PrepareInstanceRequest) (runId : String) :
    Obeys (ofStore rule) (activeIdentity config request runId) := by
  apply (obeys_read _).bind
  intro found
  cases found with
  | some active => exact ofStore_onGuard _ _
  | none =>
    apply ofStore_tick.bind
    intro now
    exact (ofStore_onGuard _ _).bind fun _ => ofStore_onGuard _ _

instance : AllowsOwn (ofStore (S := S) rule) where
  tick := ofStore_tick
  finalize leaseId := by
    apply ofStore_act
    intro now
    cases now.leases.finalize leaseId <;> rfl
  reserveUse now later envelope := by
    apply ofStore_act
    intro world
    rcases world.leases.reserveUse now later envelope with ⟨leases, answer⟩
    cases answer <;> rfl

instance [AllowsStore rule] : Allows (ofStore (S := S) rule) where
  commit h := ofStore_onStore (AllowsStore.commit h)
  create binding _ :=
    ofStore_onStore (InstanceStore.obeys_create binding (AllowsStore.insertCreated binding))
  transition arguments _ _ := ofStore_onStore
    (InstanceStore.obeys_transition arguments (AllowsStore.applyTransition arguments))
  commitReplacement arguments := ofStore_onStore
    (InstanceStore.obeys_commitReplacement arguments (AllowsStore.applyReplacement arguments))

instance : AllowsHazel (ofStore rule) config where
  recoverState := ofStore_recoverState
  persistState arguments _ := ofStore_persistState arguments

instance [AllowsStore rule] : AllowsPreparation (ofStore rule) config where
  create binding :=
    ofStore_onStore (InstanceStore.obeys_create binding (AllowsStore.insertCreated binding))
  transition arguments := ofStore_onStore
    (InstanceStore.obeys_transition arguments (AllowsStore.applyTransition arguments))
  persistState := ofStore_persistState
  activeIdentity := ofStore_activeIdentity

theorem obeys_ofStore [AllowsStore rule] [DecidableEq S] (config : BinderConfig S)
    (folding : TextFolding) (made : Call S) :
    Obeys (ofStore rule) (made.script config folding) :=
  obeys_script config folding obeys_preparation made

end Lifted

end ReisOs.Instances
