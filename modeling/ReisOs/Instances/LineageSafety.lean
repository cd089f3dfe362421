import ReisOs.Instances.Obedience

/-!
# No interleaving breaks a lineage

Every atomic step of every service obeys one discipline: the rows keep the shape of
`Lineages`, no row is lost, and Hazel forgets no run.
-/

namespace ReisOs.Instances

open ReisOs.Core ReisOs.Kernel World Script

/-! ## Guards -/

/-- In memory and in the log every binding is filed under its own run. -/
structure Filed (guard : IdentityKernelGuard) : Prop where
  memory : ∀ runId binding, guard.bindings.lookup runId = some binding →
    binding.runId = runId
  log : ∀ event ∈ guard.auditLog, event.runId = event.binding.runId

namespace Filed

variable {config : IdentityConfig} {guard guard' : IdentityKernelGuard} {runId : String}
  {binding : ActiveIdentityBinding}

theorem append (h : Filed guard) (eventType : String) (binding : ActiveIdentityBinding)
    (details : Details) :
    Filed (guard.log config eventType binding details) := by
  constructor
  · exact h.memory
  · intro event hevent
    rcases IdentityAuditLog.mem_append hevent with hold | hnew
    · exact h.log event hold
    · exact hnew

theorem record (h : Filed guard) (hrun : binding.runId = runId) (eventType : String)
    (details : Details) :
    Filed (guard.record config runId eventType binding details) := by
  apply append
  constructor
  · intro other found hlookup
    rw [Dict.lookup_insert_eq] at hlookup
    split at hlookup
    · rename_i heq
      cases hlookup
      rw [heq, hrun]
    · exact h.memory other found hlookup
  · exact h.log

theorem terminal (h : Filed guard)
    (hterminal : guard.auditLog.terminalBinding runId = some binding) :
    binding.runId = runId := by
  obtain ⟨event, hfind, rfl⟩ := Option.map_eq_some_iff.mp hterminal
  have hmem : event ∈ guard.auditLog := List.mem_reverse.mp (List.mem_of_find?_eq_some hfind)
  rw [← h.log event hmem]
  simpa using List.find?_some hfind

theorem recoverState (h : Filed guard)
    (hrecover : guard.recoverState config runId = .ok (guard', binding)) : Filed guard' := by
  obtain ⟨hterminal, -, -, rfl⟩ := IdentityKernelGuard.recoverState_ok hrecover
  exact h.record (h.terminal hterminal) _ _

theorem requireValid (h : Filed guard) (runId expectedOcs : String)
    (trigger : IdentityRecheckTrigger) (host : Option String) :
    Filed (guard.requireValid config runId expectedOcs trigger host).1 := by
  rw [IdentityKernelGuard.requireValid_fst]
  rcases guard.revalidate_cases config runId expectedOcs trigger host with
    ⟨-, hsame, -⟩ | ⟨reason, after, held, hhold, hguard, -⟩ |
      ⟨binding, -, -, -, -, -, heq⟩
  · rw [hsame]
    exact h
  · obtain ⟨binding, hlookup, rfl, rfl⟩ := IdentityKernelGuard.hold_ok hhold
    have hrun : binding.runId = runId := h.memory runId binding hlookup
    rw [hguard]
    apply h.record
    exact hrun
  · rw [heq]
    exact h.append ..

theorem requireValid_runId (h : Filed guard) {expectedOcs : String}
    {trigger : IdentityRecheckTrigger} {host : Option String}
    (hvalid : guard.requireValid config runId expectedOcs trigger host =
      (guard', .ok binding)) : binding.runId = runId :=
  h.memory runId binding (IdentityKernelGuard.requireValid_ok hvalid).1

theorem bindActiveIdentity (h : Filed guard) {now : Time} {ocsId host sessionContext : String}
    (hbind : guard.bindActiveIdentity config now runId ocsId host sessionContext =
      .ok (guard', binding)) : Filed guard' := by
  unfold IdentityKernelGuard.bindActiveIdentity at hbind
  split at hbind
  · cases hbind
  · split at hbind
    · cases hbind
    · rename_i profile hprofile
      cases hbind
      have hrun : (IdentityKernelGuard.newBinding profile runId host sessionContext
        now).runId = runId := rfl
      exact h.record hrun _ _

variable {P : Type} {hazelConfig : HazelConfig P}

theorem requireAuthority (h : Filed guard) (runId expectedOcs : String)
    (trigger : IdentityRecheckTrigger) (host authorityRef : String) :
    Filed (HazelBoundContinuity.requireAuthority hazelConfig guard runId expectedOcs trigger
      host authorityRef).1 := by
  rw [HazelBoundContinuity.requireAuthority_fst]
  exact h.requireValid ..

theorem requireAuthority_runId (h : Filed guard) {expectedOcs host authorityRef : String}
    {trigger : IdentityRecheckTrigger}
    (hvalid : HazelBoundContinuity.requireAuthority hazelConfig guard runId expectedOcs
      trigger host authorityRef = (guard', .ok binding)) : binding.runId = runId :=
  h.requireValid_runId (HazelBoundContinuity.requireAuthority_ok hvalid).1

theorem recoverCall (h : Filed guard) (arguments : RecoverArguments) :
    Filed (HazelBoundContinuity.recoverCall hazelConfig guard arguments).1 := by
  simp only [HazelBoundContinuity.recoverCall]
  split
  · exact h.requireAuthority ..
  · split
    · exact h
    · rename_i hrecover
      exact (h.recoverState hrecover).requireAuthority ..

theorem recoverCall_runId (h : Filed guard) {arguments : RecoverArguments}
    (hvalid : HazelBoundContinuity.recoverCall hazelConfig guard arguments =
      (guard', .ok binding)) : binding.runId = arguments.runId := by
  simp only [HazelBoundContinuity.recoverCall] at hvalid
  split at hvalid
  · exact h.requireAuthority_runId hvalid
  · split at hvalid
    · cases hvalid
    · rename_i hrecover
      exact (h.recoverState hrecover).requireAuthority_runId hvalid

theorem recoverReturn (h : Filed guard) (binding : ActiveIdentityBinding)
    (answer : Except HazelError (HazelRecord P)) :
    Filed (HazelBoundContinuity.recoverReturn hazelConfig guard binding answer).1 := by
  unfold HazelBoundContinuity.recoverReturn
  split
  · exact h
  · split
    · exact h
    · exact h.append ..

theorem persistReturn (h : Filed guard) (binding : ActiveIdentityBinding)
    (arguments : PersistArguments P) (answer : Except HazelError HazelReceipt) :
    Filed (HazelBoundContinuity.persistReturn hazelConfig guard binding arguments
      answer).1 := by
  unfold HazelBoundContinuity.persistReturn
  split
  · exact h
  · split
    · exact h
    · exact h.append ..

theorem restart (h : Filed guard) : Filed (.restart guard.auditLog) where
  memory runId binding hlookup := by simp [IdentityKernelGuard.restart] at hlookup
  log := h.log

end Filed

/-! ## The discipline -/

variable {S : Type}

/-- Hazel forgets no run. -/
def Hazel.Grows (hazel later : Hazel S) : Prop :=
  ∀ runId, (hazel.lookup runId).isSome → (later.lookup runId).isSome

/-- What a process keeps to itself. -/
structure Own where
  leases : AuthorityLeaseManager
  guard : IdentityKernelGuard
  clock : ℕ → Time

namespace World

/-- The registry and Hazel are common to all processes. -/
def parts : Parts (World S) (InstanceStore × Hazel S) Own where
  join common own := ⟨common.1, common.2, own.leases, own.guard, own.clock⟩
  shared world := (world.store, world.hazel)
  own world := ⟨world.leases, world.guard, world.clock⟩
  shared_join _ _ := rfl
  own_join _ _ := rfl

def registryRule : PoolRule (InstanceStore × Hazel S) Own where
  Common common := common.1.Lineages common.2
  Own own := Filed own.guard
  Grows common later := common.1.Grows later.1 ∧ common.2.Grows later.2
  refl common := ⟨.refl common.1, fun _ => id⟩
  trans h hnext := ⟨h.1.trans hnext.1, fun runId hknown => hnext.2 runId (h.2 runId hknown)⟩

/-- The discipline that every service obeys. -/
abbrev registry : Discipline (World S) := registryRule.discipline parts

variable {A : Type} {world now : World S}

/-- A step that touches neither the rows nor Hazel nor the guard. -/
theorem obeys_aside {f : World S → World S × Except InstanceError A}
    (hbindings : ∀ now, (f now).1.store.bindings = now.store.bindings)
    (hhazel : ∀ now, (f now).1.hazel = now.hazel)
    (hguard : ∀ now, (f now).1.guard = now.guard) : Obeys registry (act f) := by
  apply obeys_act
  intro now hnow
  refine ⟨⟨?_, ?_⟩, ⟨?_, ?_⟩⟩
  · have hlineages : now.store.Lineages now.hazel := hnow.1
    have hmoved : (f now).1.store.Lineages now.hazel := by
      apply InstanceStore.Lineages.moved hlineages (fun binding _ => .refl binding)
        hlineages.statuses
      · intro binding hbinding predecessor hpredecessor hlink hbegun
        obtain ⟨other, hother, hid, -, -, hreplaced⟩ :=
          hlineages.successor binding hbinding _ hlink
        rw [← List.inj_on_of_nodup_map hlineages.ids hother hpredecessor hid]
        exact hreplaced hbegun
      · exact hlineages.replaced
      · exact hlineages.known
      · rw [hbindings]
        exact (List.map_id _).symm
    change (f now).1.store.Lineages (f now).1.hazel
    rw [hhazel]
    exact hmoved
  · change Filed (f now).1.guard
    rw [hguard]
    exact hnow.2
  · exact .of_bindings (hbindings now)
  · intro runId hknown
    change ((f now).1.hazel.lookup runId).isSome
    rw [hhazel]
    exact hknown

/-! ## Steps of a process of its own -/

theorem registry_tick : Obeys registry (tick : Service S Time) :=
  obeys_aside (fun _ => rfl) (fun _ => rfl) (fun _ => rfl)

theorem registry_finalize (leaseId : String) :
    Obeys registry (finalize leaseId : Service S Unit) := by
  apply obeys_aside
  · intro now
    split <;> rfl
  · intro now
    split <;> rfl
  · intro now
    split <;> rfl

theorem registry_reserveUse (now later : Time) (envelope : AuthorizedActionEnvelope String) :
    Obeys registry (reserveUse now later envelope : Service S Unit) := by
  apply obeys_aside
  · intro world
    split <;> rfl
  · intro world
    split <;> rfl
  · intro world
    split <;> rfl

theorem safe_onGuard {E : Type} {lift : E → InstanceError}
    {call : IdentityKernelGuard → IdentityKernelGuard × Except E A} {Q : A → Prop}
    (hfiled : ∀ guard, Filed guard → Filed (call guard).1)
    (hanswer : ∀ guard value, Filed guard → (call guard).2 = .ok value → Q value) :
    (onGuard lift call : Service S A).Safe registry (fun value _ => Q value) world := by
  apply safe_act
  intro now hnow _
  have hnext : Filed (call now.guard).1 := hfiled now.guard hnow.2
  have hvalue := hanswer now.guard
  revert hnext hvalue
  rcases call now.guard with ⟨guard, outcome⟩
  intro hnext hvalue
  cases outcome with
  | error error =>
    exact ⟨⟨hnow.1, hnext⟩, registryRule.refl _, fun value hok => by cases hok⟩
  | ok value =>
    refine ⟨⟨hnow.1, hnext⟩, registryRule.refl _, ?_⟩
    intro other hok
    cases hok
    exact hvalue value hnow.2 rfl

/-! ## Hazel -/

/-- What a process knows of a run whose record it has read: Hazel has the run, and a
record of a preparation is that of a first generation. -/
def Learned (runId : String) (record : HazelRecord (HazelPayload S)) (world : World S) :
    Prop :=
  (world.hazel.lookup runId).isSome ∧
    ∀ binding, record.payload = some (preparedState binding) →
      world.store.Genesis binding.bindingId

theorem Learned.grows {runId : String} {record : HazelRecord (HazelPayload S)}
    (h : Learned runId record world) (hgrows : registry.Grows world now) :
    Learned runId record now :=
  ⟨hgrows.2 runId h.1, fun binding hpayload => (h.2 binding hpayload).grows hgrows.1⟩

variable (config : BinderConfig S)

theorem safe_recoverState (arguments : RecoverArguments) (hworld : registry.Inv world) :
    (recoverState config arguments).Safe registry
      (fun record now => Learned arguments.runId record now) world := by
  have hcall : (onGuard .hazel (HazelBoundContinuity.recoverCall config.hazel · arguments) :
      Service S ActiveIdentityBinding).Safe registry
      (fun binding _ => binding.runId = arguments.runId) world :=
    safe_onGuard (fun guard h => h.recoverCall arguments)
      (fun guard binding h hok => h.recoverCall_runId (Prod.ext rfl hok))
  apply hcall.bind hworld
  intro binding found hfound _ hrun
  have hread : (Script.read (fun world : World S => world.hazel.recover
      (HazelBoundContinuity.recoverRequest config.hazel binding arguments)) :
      Service S (Except HazelError (HazelRecord (HazelPayload S)))).Safe registry
      (fun answer now => ∀ record, answer = .ok record →
        Learned arguments.runId record now) found := by
    apply safe_read
    intro now hnow _ record hrecord
    unfold Hazel.recover at hrecord
    split at hrecord
    · cases hrecord
    · rename_i latest hlatest
      cases hrecord
      change now.hazel.lookup binding.runId = some record at hlatest
      rw [hrun] at hlatest
      refine ⟨by rw [hlatest]; rfl, ?_⟩
      intro binding hpayload
      exact hnow.1.genesis _ record binding hlatest hpayload
  apply hread.bind hfound
  intro answer later hlater _ hlearned
  have hreturn : (onGuard .hazel
      (HazelBoundContinuity.recoverReturn config.hazel · binding answer) :
      Service S (HazelRecord (HazelPayload S))).Safe registry
      (fun record _ => answer = .ok record) later := by
    apply safe_onGuard
    · intro guard h
      exact h.recoverReturn binding answer
    · intro guard record _ hok
      unfold HazelBoundContinuity.recoverReturn at hok
      split at hok
      · cases hok
      · split at hok
        · cases hok
        · cases hok
          rfl
  apply (hreturn.since (registryRule.refl _)).mono
  intro record now hend
  exact (hlearned record hend.1).grows hend.2

theorem registry_recoverState (arguments : RecoverArguments) :
    Obeys registry (recoverState config arguments) :=
  ⟨fun _ hworld => (safe_recoverState config arguments hworld).mono fun _ _ _ => trivial⟩

theorem persist_cases (hazel : Hazel S) (envelope : HazelEnvelope (HazelPayload S)) :
    (hazel.persist config envelope).1 = hazel ∨
      hazel.accepts envelope = true ∧ (hazel.persist config envelope).1 =
        hazel.insert envelope.runId (Hazel.recordOf config envelope) := by
  unfold Hazel.persist
  split
  · rename_i haccepts
    exact .inr ⟨haccepts, rfl⟩
  · exact .inl rfl

/-- What a write to Hazel that is a preparation has to be. -/
def Preparation (arguments : PersistArguments (HazelPayload S)) (store : InstanceStore) :
    Prop :=
  ∀ prepared, arguments.state = preparedState prepared →
    arguments.stateVersion = 1 ∧ arguments.predecessorHash = none ∧
      ∃ binding, store.Seen binding ∧ binding.bindingId = prepared.bindingId ∧
        arguments.runId = binding.runId

theorem Preparation.grows {arguments : PersistArguments (HazelPayload S)}
    {store later : InstanceStore} (h : Preparation arguments store)
    (hgrows : store.Grows later) : Preparation arguments later := by
  intro prepared hstate
  obtain ⟨hversion, hpredecessor, binding, hseen, hid, hrun⟩ := h prepared hstate
  exact ⟨hversion, hpredecessor, binding, hseen.grows hgrows, hid, hrun⟩

theorem Preparation.genesis {arguments : PersistArguments (HazelPayload S)}
    (h : Preparation arguments now.store) (hlineages : now.store.Lineages now.hazel)
    {active : ActiveIdentityBinding} (hrun : active.runId = arguments.runId)
    (haccepts : now.hazel.accepts
      (HazelBoundContinuity.envelope config.hazel active arguments) = true)
    {prepared : InstanceBinding} (hstate : arguments.state = preparedState prepared) :
    now.store.Genesis prepared.bindingId := by
  obtain ⟨hversion, hpredecessor, binding, ⟨row, hrow, hadvances⟩, hid, hsame⟩ :=
    h prepared hstate
  have hnew : now.hazel.lookup active.runId = none := by
    cases hlatest : now.hazel.lookup active.runId with
    | none => rfl
    | some latest =>
      have hnamed := hlineages.named active.runId latest hlatest
      simp only [Hazel.accepts, HazelBoundContinuity.envelope, hlatest, hpredecessor,
        Bool.and_eq_true, decide_eq_true_eq] at haccepts
      rw [← haccepts.2] at hnamed
      cases hnamed
  refine ⟨row, hrow, hadvances.bindingId.trans hid, ?_⟩
  cases hlink : row.predecessorBindingId with
  | none => rfl
  | some predecessorId =>
    have hknown := hlineages.known_of_predecessor hrow hlink
    rw [hadvances.runId, ← hsame, ← hrun, hnew] at hknown
    cases hknown

theorem safe_persistState (arguments : PersistArguments (HazelPayload S))
    (hworld : registry.Inv world) (hstate : Preparation arguments world.store) :
    (persistState config arguments).Safe registry (fun _ _ => True) world := by
  have hrequest : (onGuard .hazel
      (HazelBoundContinuity.persistRequest config.hazel · arguments) :
      Service S ActiveIdentityBinding).Safe registry
      (fun binding _ => binding.runId = arguments.runId) world :=
    safe_onGuard (fun guard h => h.requireAuthority ..)
      (fun guard binding h hok => h.requireAuthority_runId (Prod.ext rfl hok))
  apply hrequest.bind hworld
  intro active found hfound hgrows hrun
  have htransport : (transportPersist config
      (HazelBoundContinuity.envelope config.hazel active arguments)).Safe registry
      (fun _ _ => True) found := by
    apply safe_act
    intro now hnow hlater
    have hready : Preparation arguments now.store :=
      hstate.grows (hgrows.1.trans hlater.1)
    rcases persist_cases config now.hazel
      (HazelBoundContinuity.envelope config.hazel active arguments) with
      hrejected | ⟨haccepts, haccepted⟩
    · refine ⟨⟨?_, hnow.2⟩, ⟨.refl now.store, ?_⟩, fun _ _ => trivial⟩
      · change now.store.Lineages (now.hazel.persist config _).1
        rw [hrejected]
        exact hnow.1
      · intro runId hknown
        change ((now.hazel.persist config _).1.lookup runId).isSome
        rw [hrejected]
        exact hknown
    · refine ⟨⟨?_, hnow.2⟩, ⟨.refl now.store, ?_⟩, fun _ _ => trivial⟩
      · change now.store.Lineages (now.hazel.persist config _).1
        rw [haccepted]
        apply InstanceStore.Lineages.persisted hnow.1
        · rfl
        · intro binding hbinding
          have hpayload : arguments.state = preparedState binding := by
            simpa [Hazel.recordOf, HazelBoundContinuity.envelope] using hbinding
          exact hready.genesis config hnow.1 hrun haccepts hpayload
      · intro runId hknown
        change ((now.hazel.persist config _).1.lookup runId).isSome
        rw [haccepted, Dict.lookup_insert_eq]
        split
        · rfl
        · exact hknown
  apply htransport.bind hfound
  intro answer later hlater _ _
  have hreturn : (onGuard .hazel
      (HazelBoundContinuity.persistReturn config.hazel · active arguments answer) :
      Service S HazelReceipt).Safe registry (fun _ _ => True) later :=
    safe_onGuard (fun guard h => h.persistReturn active arguments answer)
      (fun _ _ _ _ => trivial)
  exact hreturn

theorem registry_persistState (arguments : PersistArguments (HazelPayload S))
    (hstate : ∀ binding, arguments.state ≠ preparedState binding) :
    Obeys registry (persistState config arguments) :=
  ⟨fun _ hworld => safe_persistState config arguments hworld fun binding hbinding =>
    (hstate binding hbinding).elim⟩

/-! ## The registry -/

theorem safe_commit {writes : InstanceStore → Except InstanceError InstanceStore}
    {Q : InstanceStore → Prop}
    (h : ∀ now written, registry.Inv now → registry.Grows world now →
      writes now.store = .ok written →
      written.Lineages now.hazel ∧ now.store.Grows written ∧ Q written) :
    (onStore (InstanceStore.commit writes) : Service S Unit).Safe registry
      (fun _ now => Q now.store) world := by
  unfold onStore InstanceStore.commit
  rw [on_act]
  apply safe_act
  intro now hnow hgrows
  cases hwritten : writes now.store with
  | error error =>
    simp only [storePart, hwritten]
    exact ⟨hnow, registryRule.refl _, fun _ hok => by cases hok⟩
  | ok written =>
    obtain ⟨hlineages, hstore, hpost⟩ := h now written hnow hgrows hwritten
    simp only [storePart, hwritten]
    exact ⟨⟨hlineages, hnow.2⟩, ⟨hstore, fun _ => id⟩, fun _ _ => hpost⟩

theorem safe_query (query : InstanceStore → A) :
    (onStore (Script.read query) : Service S A).Safe registry
      (fun found now => query now.store = found) world := by
  unfold onStore
  rw [on_read]
  exact safe_read fun _ _ _ => rfl

theorem registry_commit {writes : InstanceStore → Except InstanceError InstanceStore}
    (h : ∀ store written, writes store = .ok written →
      written.bindings = store.bindings) :
    Obeys registry (onStore (InstanceStore.commit writes) : Service S Unit) := by
  unfold onStore InstanceStore.commit
  rw [on_act]
  apply obeys_aside
  · intro now
    simp only [storePart]
    cases hwritten : writes now.store with
    | error error => rfl
    | ok written => exact h now.store written hwritten
  · intro now
    rfl
  · intro now
    rfl

theorem row_mem {store : InstanceStore} {bindingId : String} {binding : InstanceBinding}
    (h : store.row bindingId = some binding) :
    binding ∈ store.bindings ∧ binding.bindingId = bindingId :=
  ⟨List.mem_of_find?_eq_some h, by simpa using List.find?_some h⟩

theorem safe_get (bindingId : String) (hworld : registry.Inv world) :
    (onStore (InstanceStore.get bindingId) : Service S InstanceBinding).Safe registry
      (fun binding now => binding ∈ now.store.bindings ∧ binding.bindingId = bindingId)
      world := by
  unfold InstanceStore.get
  rw [onStore_bind]
  apply (safe_query _).bind hworld
  intro found now _ _ hfound
  cases found with
  | none => exact safe_raise
  | some binding => exact row_mem hfound

theorem safe_create (binding : InstanceBinding) (hworld : registry.Inv world)
    (hfirst : binding.predecessorBindingId = none →
      binding.generation = 1 ∨ world.store.Occupied binding.mission) :
    (onStore (InstanceStore.create binding) : Service S InstanceBinding).Safe registry
      (fun stored now => now.store.Seen stored) world := by
  unfold InstanceStore.create
  rw [onStore_bind, onStore_raiseIf]
  have hinitial : (raiseIf (binding.status ≠ .prepared ∨ binding.version ≠ 1)
      (.binding "instance_initial_state_invalid") : Service S Unit).Safe registry
      (fun _ _ => binding.status = .prepared) world :=
    safe_raiseIf fun h => by simpa using (not_or.mp h).1
  apply hinitial.bind hworld
  intro _ begun hbegun hgrows hprepared
  rw [onStore_bind]
  apply (safe_query _).bind hbegun
  intro replay now hnow hgrown hreplay
  cases replay with
  | some recovered =>
    change (onStore (raiseIf _ _ >>= _) : Service S InstanceBinding).Safe registry _ now
    rw [onStore_bind, onStore_raiseIf]
    have hsame : (raiseIf (recovered.requestHash ≠ binding.requestHash)
        (.binding "instance_idempotency_conflict") : Service S Unit).Safe registry
        (fun _ now => now.store.Seen recovered) now :=
      safe_raiseIf fun _ => .of_mem (List.mem_of_find?_eq_some hreplay)
    apply hsame.bind hnow
    intro _ later _ _ hseen
    exact hseen
  | none =>
    change (onStore (Script.read _ >>= _) : Service S InstanceBinding).Safe registry _ now
    rw [onStore_bind]
    apply (safe_query _).bind hnow
    intro active probed hprobed hprobedGrows hactive
    rw [onStore_bind, onStore_raiseIf]
    have hfree : (raiseIf (active.isSome ∧ binding.predecessorBindingId = none)
        (.binding "active_mission_ocs_binding_exists") : Service S Unit).Safe registry
        (fun _ _ => binding.predecessorBindingId = none → binding.generation = 1)
        probed := by
      apply safe_raiseIf
      intro hpassed hgenesis
      have hnone : active = none := by
        cases active with
        | none => rfl
        | some row => exact (hpassed ⟨rfl, hgenesis⟩).elim
      rw [hnone] at hactive
      have hempty := InstanceStore.Lineages.not_occupied hprobed.1 hactive
      rcases hfirst hgenesis with hone | hoccupied
      · exact hone
      · exact (hempty (hoccupied.grows
          (hgrows.1.trans (hgrown.1.trans hprobedGrows.1)))).elim
    apply hfree.bind hprobed
    intro _ checking hchecking _ hone
    rw [onStore_bind]
    have hpredecessor : (onStore (InstanceStore.checkPredecessor binding) :
        Service S Unit).Safe registry
        (fun _ now => InstanceStore.Fits binding now.store) checking := by
      unfold InstanceStore.checkPredecessor
      cases hlink : binding.predecessorBindingId with
      | none =>
        refine ⟨hone, ?_⟩
        intro predecessorId hsome
        rw [hlink] at hsome
        cases hsome
      | some predecessorId =>
        change (onStore (Script.read _ >>= _) : Service S Unit).Safe registry _ checking
        rw [onStore_bind]
        apply (safe_query _).bind hchecking
        intro found later _ _ hfound
        cases found with
        | none => exact safe_raise
        | some predecessor =>
          change (onStore (raiseIf _ _) : Service S Unit).Safe registry _ later
          rw [onStore_raiseIf]
          apply safe_raiseIf
          intro hfits
          simp only [not_or, not_not] at hfits
          refine ⟨hone, ?_⟩
          intro other hother
          rw [hlink] at hother
          cases hother
          obtain ⟨hmem, hid⟩ := row_mem hfound
          refine ⟨predecessor, hmem, hid, hfits.2, ?_⟩
          rw [hfits.1]
          decide
    apply hpredecessor.bind hchecking
    intro _ fitted hfitted _ hfits
    rw [onStore_bind]
    have hinsert : (onStore (InstanceStore.commit (InstanceStore.insertCreated binding)) :
        Service S Unit).Safe registry (fun _ now => now.store.Seen binding) fitted := by
      apply safe_commit (Q := InstanceStore.Seen binding)
      intro now written hnow hlater hwritten
      obtain ⟨hlineages, hstore⟩ := InstanceStore.Lineages.created hnow.1 hprepared
        (hfits.grows hlater.1) hwritten
      refine ⟨hlineages, hstore, .of_mem ?_⟩
      rw [(InstanceStore.insertCreated_ok hwritten).1]
      simp
    apply hinsert.bind hfitted
    intro _ later _ _ hseen
    exact hseen

/-- What a transition of the registry needs to know: a row that it persists is that of a
first generation whose run Hazel has. -/
theorem safe_transition (arguments : InstanceStore.Transition)
    (hworld : registry.Inv world) (htarget : arguments.target ∈ InstanceStore.inTransition)
    (hpersisted : arguments.target = .persisted →
      InstanceStore.Persistable arguments.bindingId world.store world.hazel) :
    (onStore (InstanceStore.transition arguments) : Service S InstanceBinding).Safe registry
      (fun _ _ => True) world := by
  unfold InstanceStore.transition
  rw [onStore_bind]
  apply (safe_query _).bind hworld
  intro replay now hnow hgrows _
  cases replay with
  | some replay =>
    change (onStore (raiseIf _ _ >>= _) : Service S InstanceBinding).Safe registry _ now
    rw [onStore_bind, onStore_raiseIf]
    apply ((obeys_raiseIf _ _).safe now hnow).bind hnow
    intro _ later hlater _ _
    exact (obeys_get _).safe later hlater
  | none =>
    change (onStore (InstanceStore.get _ >>= _) : Service S InstanceBinding).Safe registry
      _ now
    rw [onStore_bind]
    apply (safe_get _ hnow).bind hnow
    intro current found hfound hfoundGrows hcurrent
    rw [onStore_bind, onStore_raiseIf]
    have hversion : (raiseIf (current.version ≠ arguments.expectedVersion)
        (.binding "instance_version_conflict") : Service S Unit).Safe registry
        (fun _ _ => current.version = arguments.expectedVersion) found :=
      safe_raiseIf not_not.mp
    apply (hversion.since (registryRule.refl _)).bind hfound
    intro _ checked hchecked _ hmatches
    rw [onStore_bind, onStore_raiseIf]
    have hallowed : (raiseIf (arguments.target ∉ allowedTransitions current.status)
        (transitionForbidden current.status arguments.target) :
        Service S Unit).Safe registry
        (fun _ _ => arguments.target ∈ allowedTransitions current.status) checked :=
      safe_raiseIf not_not.mp
    apply (hallowed.since (registryRule.refl _)).bind hchecked
    intro _ ready hready hreadyGrows hpermitted
    rw [onStore_bind]
    have hmove : (onStore (InstanceStore.commit
        (InstanceStore.applyTransition arguments current)) :
        Service S Unit).Safe registry (fun _ _ => True) ready := by
      apply safe_commit (Q := fun _ => True)
      intro later written hlater hlaterGrows hwritten
      have hall : registry.Grows found later :=
        registryRule.trans hmatches.2 (registryRule.trans hpermitted.2 hlaterGrows)
      have hsince : registry.Grows world later :=
        registryRule.trans hgrows (registryRule.trans hfoundGrows hall)
      have hseen : later.store.Seen current :=
        (InstanceStore.Seen.of_mem hcurrent.1).grows hall.1
      obtain ⟨hlineages, hstore⟩ := InstanceStore.Lineages.transitioned hlater.1 hseen
        hcurrent.2 hmatches.1 hpermitted.1 htarget
        (fun htarget => (hpersisted htarget).grows hsince.1 hsince.2) hwritten
      exact ⟨hlineages, hstore, trivial⟩
    apply hmove.bind hready
    intro _ later _ _ _
    exact trivial

theorem registry_transition (arguments : InstanceStore.Transition)
    (htarget : arguments.target ∈ InstanceStore.inTransition)
    (hpersisted : arguments.target ≠ .persisted) :
    Obeys registry
      (onStore (InstanceStore.transition arguments) : Service S InstanceBinding) :=
  ⟨fun _ hworld => safe_transition arguments hworld htarget fun hwrong =>
    (hpersisted hwrong).elim⟩

theorem registry_commitReplacement (arguments : InstanceStore.Replacement) :
    Obeys registry (onStore (InstanceStore.commitReplacement arguments) :
      Service S (InstanceBinding × InstanceBinding)) := by
  unfold InstanceStore.commitReplacement
  rw [onStore_bind]
  apply (obeys_query _).bind
  intro replay
  cases replay with
  | some replay =>
    change Obeys registry (onStore (raiseIf _ _ >>= _) : Service S _)
    rw [onStore_bind, onStore_raiseIf]
    apply (obeys_raiseIf _ _).bind
    intro _
    rw [onStore_bind]
    apply (obeys_get _).bind
    intro predecessor
    rw [onStore_bind]
    exact (obeys_get _).bind fun successor => obeys_pure _
  | none =>
    constructor
    intro world hworld
    change (onStore (Script.read _ >>= _) : Service S _).Safe registry _ world
    rw [onStore_bind]
    apply (safe_query _).bind hworld
    intro predecessorRow found hfound _ hpredecessorRow
    rw [onStore_bind]
    apply ((safe_query _).since (registryRule.refl _)).bind hfound
    intro successorRow now hnow _ hsuccessorRow
    match predecessorRow, successorRow, hpredecessorRow, hsuccessorRow with
    | none, _, _, _ => exact safe_raise
    | some _, none, _, _ => exact safe_raise
    | some predecessor, some successor, hpredecessorRow, ⟨hsuccessorRow, hgrown⟩ =>
      obtain ⟨hpredecessorMem, hpredecessorId⟩ := row_mem hpredecessorRow
      obtain ⟨hsuccessorMem, hsuccessorId⟩ := row_mem hsuccessorRow
      have hpredecessor : now.store.Seen predecessor :=
        (InstanceStore.Seen.of_mem hpredecessorMem).grows hgrown.1
      change (onStore (raiseIf _ _ >>= _) : Service S _).Safe registry _ now
      simp only [onStore_bind, onStore_raiseIf]
      apply safe_raiseIf_bind
      intro hlinked
      simp only [not_or, not_not] at hlinked
      obtain ⟨hlink, hlineage⟩ := hlinked
      apply safe_raiseIf_bind
      intro hversioned
      simp only [not_or, not_not] at hversioned
      obtain ⟨hversion, hsuccessorVersion⟩ := hversioned
      apply safe_raiseIf_bind
      intro hcheckpointed
      apply safe_raiseIf_bind
      intro hprepared
      have hmove : (onStore (InstanceStore.commit
          (InstanceStore.applyReplacement arguments predecessor successor)) :
          Service S Unit).Safe registry (fun _ _ => True) now := by
        apply safe_commit (Q := fun _ => True)
        intro later written hlater hlaterGrows hwritten
        obtain ⟨hlineages, hstore⟩ := InstanceStore.Lineages.committed hlater.1
          (hpredecessor.grows hlaterGrows.1)
          ((InstanceStore.Seen.of_mem hsuccessorMem).grows hlaterGrows.1)
          hpredecessorId hsuccessorId hlink hlineage hversion hsuccessorVersion
          (not_not.mp hcheckpointed) (not_not.mp hprepared) hwritten
        exact ⟨hlineages, hstore, trivial⟩
      apply hmove.bind hnow
      intro _ later _ _ _
      exact trivial

/-! ## All steps -/

instance : Allows (registry : Discipline (World S)) where
  tick := registry_tick
  finalize := registry_finalize
  reserveUse := registry_reserveUse
  commit h := registry_commit fun store written hwritten => (h store written hwritten).1
  create binding hlink :=
    ⟨fun _ hworld =>
      (safe_create binding hworld fun hnone => (hlink hnone).elim).mono fun _ _ _ => trivial⟩
  transition := registry_transition
  commitReplacement := registry_commitReplacement

instance : AllowsHazel (registry : Discipline (World S)) config where
  recoverState := registry_recoverState config
  persistState := registry_persistState config

end World

end ReisOs.Instances
