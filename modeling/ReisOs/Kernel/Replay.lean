import ReisOs.Kernel.Calls

/-!
# Soundness of replayed results

When `execute` reports `effect_proven`, was the reported effect ever applied?  A
fresh mutation is applied as proposed.  A replay answers from one of two caches,
whose keys say less than the proposal does, so a report is sound exactly when the
effect behind the cached key was applied as this proposal asks.
-/

namespace ReisOs.Kernel

open ReisOs.Core

variable {P : Type}

/-- The adapter for the proposal's capability completed exactly this effect, for
this action under this lease. -/
def AppliedAs (p : ActionProposal P) (call : MutateCall P) : Prop :=
  call.completed = true ∧ call.envelope.capability = p.capability ∧
    call.envelope.operation = p.operation ∧ call.envelope.payload = p.payload ∧
    p.idempotencyKey = some call.envelope.idempotencyKey ∧
    call.envelope.actionId = p.actionId ∧ p.leaseId = some call.envelope.leaseId

instance [DecidableEq P] (p : ActionProposal P) : DecidablePred (AppliedAs p) :=
  fun call => inferInstanceAs (Decidable
    (call.completed = true ∧ call.envelope.capability = p.capability ∧
      call.envelope.operation = p.operation ∧ call.envelope.payload = p.payload ∧
      p.idempotencyKey = some call.envelope.idempotencyKey ∧
      call.envelope.actionId = p.actionId ∧ p.leaseId = some call.envelope.leaseId))

namespace UniversalKernelRuntime

def Applied (k : UniversalKernelRuntime P) (p : ActionProposal P) : Prop :=
  ∃ call ∈ k.history.mutateCalls, AppliedAs p call

instance [DecidableEq P] (k : UniversalKernelRuntime P) (p : ActionProposal P) :
    Decidable (Applied k p) :=
  inferInstanceAs (Decidable (∃ call ∈ k.history.mutateCalls, AppliedAs p call))

/-- The effector holds a readback for the proposal's key. -/
def Cached (k : UniversalKernelRuntime P) (p : ActionProposal P) : Prop :=
  ∃ key, p.idempotencyKey = some key ∧ (k.effectorCompleted.lookup key).isSome

/-- Every result the runtime caches has its readback in the effector's cache. -/
def ResultsCached (k : UniversalKernelRuntime P) : Prop :=
  ∀ key entry, k.completed.lookup key = some entry →
    (k.effectorCompleted.lookup key).isSome

/-- Where a report comes from: the caches of the call's start, or a mutation of
its own. -/
def Origin (start : UniversalKernelRuntime P) (p : ActionProposal P)
    (k : UniversalKernelRuntime P) : Prop :=
  (Cached start p ∧ k.history.mutateCalls = start.history.mutateCalls) ∨
    (¬ Cached start p ∧ Applied k p)

theorem Origin.applied_iff {start k : UniversalKernelRuntime P} {p : ActionProposal P}
    (h : Origin start p k) : Applied k p ↔ (Cached start p → Applied start p) := by
  rcases h with ⟨hcached, hcalls⟩ | ⟨huncached, happlied⟩
  · simp only [Applied, hcalls, hcached, true_imp_iff]
  · exact ⟨fun _ hcached => absurd hcached huncached, fun _ => happlied⟩

/-- What is known of a call that began in `start`. -/
def CallOrigin (start : UniversalKernelRuntime P) (p : ActionProposal P)
    (k : UniversalKernelRuntime P) : Progress P → Prop
  | .started | .fresh | .checked _ | .authorized _ | .reserved _ =>
    k.effectorCompleted = start.effectorCompleted ∧ k.completed = start.completed ∧
      k.history.mutateCalls = start.history.mutateCalls
  | .applied _ _ | .committed _ _ | .finalized _ _ => Origin start p k
  | .unread _ => True
  | .returned outcome => Reports outcome → Origin start p k

theorem Origin.congr {start k k' : UniversalKernelRuntime P} {p : ActionProposal P}
    (h : Origin start p k)
    (hcalls : k'.history.mutateCalls = k.history.mutateCalls) : Origin start p k' := by
  simpa only [Origin, Applied, hcalls] using h

variable [DecidableEq P] {config : RuntimeConfig P} {p : ActionProposal P}
  {env : StepEnv P} {start k k' : UniversalKernelRuntime P}
  {progress progress' : Progress P}

theorem CallOrigin.move (hresults : ResultsCached start)
    (h : CallOrigin start p k progress)
    (henvelope : ∀ envelope ∈ progress.envelope?, EnvelopeOf p envelope)
    (hmove : Move config p env k progress k' progress') :
    CallOrigin start p k' progress' := by
  cases hmove with
  | quiet hquiet =>
    cases progress with
    | started | fresh | checked | authorized | reserved =>
      simpa only [CallOrigin, hquiet.effectorCompleted, hquiet.completed,
        hquiet.history] using h
    | unread => trivial
    | applied | committed | finalized => exact Origin.congr h (by rw [hquiet.history])
    | returned => exact fun hreport => Origin.congr (h hreport) (by rw [hquiet.history])
  | refuse hquiet hreport | mutateFailed _ _ hreport | recover _ _ hreport
  | commitFailed _ _ _ hreport | finalizeFailed _ hreport =>
    exact fun h => absurd h hreport
  | replay hkey hresult =>
    intro _
    obtain ⟨-, hcompleted, hcalls⟩ := h
    rw [hcompleted] at hresult
    exact .inl ⟨⟨_, hkey, hresults _ _ hresult⟩, hcalls⟩
  | miss | check | assemble | reserve => exact h
  | replayEffect hguard hcached =>
    obtain ⟨heffector, -, hcalls⟩ := h
    refine .inl ⟨⟨_, (henvelope _ rfl).idempotencyKey, ?_⟩, hcalls⟩
    rw [← heffector, hcached]
    rfl
  | mutateUnread hguard huncached hnext =>
    rcases hnext with rfl | ⟨outcome, rfl, hreport⟩
    · trivial
    · exact fun h => absurd h hreport
  | mutate hguard huncached =>
    obtain ⟨heffector, -, hcalls⟩ := h
    have hof := henvelope _ rfl
    refine .inr ⟨?_, ⟨_, List.mem_append_right _ (List.mem_singleton_self _), rfl,
      hof.capability, hof.operation, hof.payload, hof.idempotencyKey, hof.actionId,
      hof.leaseId⟩⟩
    rintro ⟨key, hkey, hcached⟩
    rw [hof.idempotencyKey] at hkey
    cases hkey
    rw [← heffector, huncached] at hcached
    cases hcached
  | commit | finalize => exact Origin.congr h rfl
  | complete => exact fun _ => Origin.congr h rfl

theorem execute_origin (hresults : ResultsCached k) (answers : Point → StepEnv P)
    {outcome : Except PyError (ExecutionResult P)}
    (houtcome : (k.execute config p answers).2 = .returned outcome)
    (hreport : Reports outcome) : Origin k p (k.execute config p answers).1 := by
  have hcall := execute_invariant config p (CallOrigin k p) answers
    (fun _ _ _ _ hmove henvelope h => h.move hresults henvelope hmove) ⟨rfl, rfl, rfl⟩
  rw [houtcome] at hcall
  exact hcall hreport

/-! ## Runs -/

/-- Between the effect and the end of a call its readback is cached. -/
def ReadbackCached (k : UniversalKernelRuntime P) : Progress P → Prop
  | .applied envelope _ | .committed envelope _ | .finalized envelope _ =>
    (k.effectorCompleted.lookup envelope.idempotencyKey).isSome
  | _ => True

theorem ReadbackCached.move (hmove : Move config p env k progress k' progress')
    (hresults : ResultsCached k) (h : ReadbackCached k progress) :
    ResultsCached k' ∧ ReadbackCached k' progress' := by
  cases hmove with
  | quiet hquiet =>
    refine ⟨?_, ?_⟩
    · simpa only [ResultsCached, hquiet.completed, hquiet.effectorCompleted] using hresults
    · cases progress with
      | applied | committed | finalized =>
        simpa only [ReadbackCached, hquiet.effectorCompleted] using h
      | _ => trivial
  | refuse hquiet =>
    refine ⟨?_, trivial⟩
    simpa only [ResultsCached, hquiet.completed, hquiet.effectorCompleted] using hresults
  | replayEffect _ hcached => exact ⟨hresults, by rw [ReadbackCached, hcached]; rfl⟩
  | mutateUnread _ _ hnext =>
    rcases hnext with rfl | ⟨outcome, rfl, -⟩ <;> exact ⟨hresults, trivial⟩
  | mutate =>
    refine ⟨fun key entry hentry => ?_, ?_⟩
    · rw [Dict.lookup_insert_eq]
      split
      · rfl
      · exact hresults key entry hentry
    · simp [ReadbackCached]
  | commit | finalize => exact ⟨hresults, h⟩
  | complete =>
    refine ⟨fun key entry hentry => ?_, trivial⟩
    rw [Dict.lookup_insert_eq] at hentry
    split at hentry
    · rename_i hkey
      rw [hkey]
      exact h
    · exact hresults key entry hentry
  | replay | miss | check | assemble | reserve | mutateFailed | recover | commitFailed
  | finalizeFailed => exact ⟨hresults, trivial⟩

/-- The run stays with one runtime object. -/
def OneRuntime : KernelOp P → Prop
  | .construct _ | .reload _ => False
  | _ => True

theorem ResultsCached.operate (h : ResultsCached k) {op : KernelOp P}
    (hop : OneRuntime op) : ResultsCached (k.operate config op) := by
  cases op with
  | execute p answers =>
    have hcall := execute_invariant config p
      (fun k progress => ResultsCached k ∧ ReadbackCached k progress) answers
      (fun _ _ _ _ hmove _ h => ReadbackCached.move hmove h.1 h.2) ⟨h, trivial⟩
    exact hcall.1
  | construct parts | reload parts => exact hop.elim
  | issue | revoke | release | finalizeLease =>
    simp only [UniversalKernelRuntime.operate, leasesAfter]
    split <;> exact h
  | registerCheckpoint recoveryRef checkpoint =>
    simp only [UniversalKernelRuntime.operate]
    split
    · exact h
    · split <;> exact h
  | replaceContext items =>
    simp only [UniversalKernelRuntime.operate]
    split <;> exact h
  | writeState | restoreState | identity => exact h

omit [DecidableEq P] in
theorem fresh_resultsCached (state : StateCore P) (trace : TraceCore)
    (guard : IdentityKernelGuard) (recovery : Option (Checkpoints P))
    (contextItems : List ContextItem) :
    ResultsCached (fresh state trace guard recovery contextItems) := by
  simp [ResultsCached, fresh, constructed]

/-- In every run of one runtime, a reported effect was applied exactly as proposed
if and only if a cached key, where the report rests on one, belongs to a mutation
that was applied exactly so. -/
theorem reported_applied_iff (config : RuntimeConfig P) (state : StateCore P)
    (trace : TraceCore) (guard : IdentityKernelGuard) (recovery : Option (Checkpoints P))
    (contextItems : List ContextItem) (ops : List (KernelOp P))
    (hops : ∀ op ∈ ops, OneRuntime op) (p : ActionProposal P)
    (answers : Point → StepEnv P) (result : ExecutionResult P) :
    let k := run (operate config) (fresh state trace guard recovery contextItems) ops
    (k.execute config p answers).2 = .returned (.ok result) → result.ReportsEffect →
      (Applied (k.execute config p answers).1 p ↔ (Cached k p → Applied k p)) := by
  intro k hresult hreport
  have hresults : ResultsCached k :=
    run_invariant_of_admissible ResultsCached
      (fun _ _ h hop => ResultsCached.operate h hop)
      (fresh_resultsCached state trace guard recovery contextItems)
      (Admissible.of_forall hops)
  exact (execute_origin hresults answers hresult hreport).applied_iff

/-- Another action, under another lease, that asks for another effect under the
idempotency key of the fixture's proposal. -/
def reusedKey : ActionProposal ℕ :=
  { Fixture.proposal with
    actionId := "action-2"
    leaseId := some "lease-2"
    operation := "erase"
    payload := 8 }

/-- The fixture's environment with a fault in the last trace append. -/
def unclosed (point : Point) : StepEnv ℕ :=
  { Fixture.good point with faults := ⟨false, false, point = .stageClose⟩ }

/-- Two leases and a call that fails after its effect. -/
def reuseRun : List (KernelOp ℕ) :=
  [.issue 100 Fixture.lease, .issue 100 { Fixture.lease with leaseId := "lease-2" },
    .execute Fixture.proposal unclosed]

/-- A call whose own mutation is reported. -/
theorem reported_applied_first :
    let k := run (operate Fixture.config) Fixture.runtime [.issue 100 Fixture.lease]
    Applied (k.execute Fixture.config Fixture.proposal Fixture.good).1 Fixture.proposal ↔
      (Cached k Fixture.proposal → Applied k Fixture.proposal) :=
  reported_applied_iff Fixture.config .empty .empty (.restart []) none []
    [.issue 100 Fixture.lease] (by simp [OneRuntime]) Fixture.proposal Fixture.good
    _ rfl ⟨rfl, rfl, rfl⟩

/-- The reused key is answered from the effector's cache: an effect nobody applied
is reported as proven. -/
theorem reused_key_reported_unapplied :
    let k := run (operate Fixture.config) Fixture.runtime reuseRun
    ∃ result, (k.execute Fixture.config reusedKey Fixture.good).2 =
        .returned (.ok result) ∧ result.ReportsEffect ∧
      (∀ call ∈ (k.execute Fixture.config reusedKey Fixture.good).1.history.mutateCalls,
        call.envelope.operation ≠ reusedKey.operation ∧
          call.envelope.payload ≠ reusedKey.payload) ∧
      ¬ Applied (k.execute Fixture.config reusedKey Fixture.good).1 reusedKey := by
  exact ⟨_, rfl, ⟨rfl, rfl, rfl⟩, by decide, by decide⟩

end UniversalKernelRuntime

end ReisOs.Kernel
