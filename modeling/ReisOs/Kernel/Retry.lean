import ReisOs.Kernel.IdentityLog
import ReisOs.Kernel.Settlement
import ReisOs.Kernel.StateEffects

/-!
# Retrying an applied proposal

In a settled runtime an applied proposal whose lease is still valid can be retried
to its proven result: from the runtime's cache if its call completed, and through
the whole pipeline otherwise.
-/

namespace ReisOs.Kernel

open ReisOs.Core

variable {P : Type}

namespace UniversalKernelRuntime

/-! ## Gates -/

/-- The identity checks of a call for `ocs` pass. -/
def IdentityReady (config : RuntimeConfig P) (k : UniversalKernelRuntime P)
    (ocs : String) : Prop :=
  ∀ run, config.identityRun = some run →
    (∃ binding, k.guard.bindings.lookup run.runId = some binding ∧
      validateProfileBinding config.identity binding = none ∧ binding.status = .valid ∧
      ocs = binding.ocsId ∧ run.host = binding.host) ∧
    (assessContext ocs k.contextItems).identityConflict = false

variable {config : RuntimeConfig P} {p : ActionProposal P} {env : StepEnv P}
  {start k k' : UniversalKernelRuntime P}

theorem requireIdentity_ready {ocs : String} (h : IdentityReady config k ocs)
    (trigger : IdentityRecheckTrigger) :
    (k.requireIdentity config ocs trigger).2 = .ok () ∧
      (k.requireIdentity config ocs trigger).1.guard.bindings = k.guard.bindings := by
  unfold requireIdentity
  cases hrun : config.identityRun with
  | none => exact ⟨rfl, rfl⟩
  | some run =>
    obtain ⟨⟨binding, hbinding, hprofile, hvalid, hocs, hhost⟩, -⟩ := h run hrun
    simp only [IdentityKernelGuard.requireValid_ready hbinding hprofile hvalid hocs hhost
      trigger]
    exact ⟨trivial, rfl⟩

theorem sanitizeContext_ready {ocs : String} (h : IdentityReady config k ocs) :
    (k.sanitizeContext config ocs).2 = .ok () ∧
      (k.sanitizeContext config ocs).1.guard.bindings = k.guard.bindings := by
  unfold sanitizeContext
  cases hrun : config.identityRun with
  | none => exact ⟨rfl, rfl⟩
  | some run =>
    obtain ⟨⟨binding, hbinding, hprofile, hvalid, hocs, hhost⟩, hcontext⟩ := h run hrun
    simp only [IdentityKernelGuard.requireValid_ready hbinding hprofile hvalid hocs hhost
      .causalAttribution, hcontext, Bool.false_eq_true, if_false]
    exact ⟨trivial, rfl⟩

theorem proceed_ok {answer : UniversalKernelRuntime P × Except PyError Unit}
    (h : answer.2 = .ok ()) (failed : PyError → Phase P) (next : Phase P) :
    proceed answer failed next = (answer.1, next) := by
  obtain ⟨k, outcome⟩ := answer
  cases h
  rfl

theorem governanceStage_ok (hfaultless : env.Faultless) (k : UniversalKernelRuntime P)
    (result : GovernanceResult P) (name : GovernanceStage) :
    (k.governanceStage env p result name).2 = .ok () := by
  cases name <;> exact stage_ok hfaultless ..

theorem preflightGate_ok (hfaultless : env.Faultless) (k : UniversalKernelRuntime P) :
    (k.preflightGate env).2 = .ok () := by
  simp [preflightGate, TraceCore.preflightGate, TraceCore.arm, hfaultless.1]

theorem preflight_ok (hfaultless : env.Faultless) (k : UniversalKernelRuntime P)
    (actionId : String) (envelope : AuthorizedActionEnvelope P) :
    (k.preflight env actionId envelope).2 = .ok () := by
  simp only [preflight, TraceCore.preflight, TraceCore.preflightGate, TraceCore.arm,
    hfaultless.1]
  exact appendStage_ok rfl rfl ..

/-! ## The pipeline -/

/-- The record that a call for `p` begun in `k` commits. -/
def commitRecord (k : UniversalKernelRuntime P) (p : ActionProposal P)
    (current : Option (StateRecord P)) (readback : MaterialReadback P) : StateRecord P :=
  nextRecord { k with seq := k.seq + 6 } p.ocs current readback

/-- Everything the pipeline asks of the runtime for a call of `p` at `now` whose
readback is `readback`. -/
structure Ready [DecidableEq P] (config : RuntimeConfig P) (k : UniversalKernelRuntime P)
    (p : ActionProposal P) (now : Time) (readback : MaterialReadback P)
    (lease : AuthorityLease) : Prop where
  clears : config.governance.Clears p
  contract : (validateEnvelopeContract now p).1 = true
  validated : (k.leases.validateProposal now now p).1 = true
  leased : ∃ leaseId, p.leaseId = some leaseId ∧
    k.leases.leases.lookup leaseId = some lease ∧
    ∃ answer, k.leases.finalize leaseId = .ok answer
  covers : ∀ envelope, EnvelopeOf p envelope → envelope.maxUses = lease.maxUses →
    lease.Covers now now envelope
  held : ∀ envelope, EnvelopeOf p envelope → ∃ useIndex,
    k.leases.reservation envelope.leaseId envelope.idempotencyKey =
      some (envelope.actionId, useIndex)
  resolves : ∀ envelope, EnvelopeOf p envelope → envelope.leaseUseIndex.isSome →
    ∃ adapter, config.broker.resolveFor envelope = .ok adapter
  cached : ∀ envelope, EnvelopeOf p envelope → ∀ found,
    k.effectorCompleted.lookup envelope.idempotencyKey = some found → found = readback
  identity : IdentityReady config k p.ocs
  commits : ∃ current, k.state.current p.ocs = .ok current ∧
    ∀ envelope, EnvelopeOf p envelope → ∃ persisted,
      (k.commitAnswer config p envelope (commitRecord k p current readback)).2 =
        .ok persisted

/-- What a call that has not committed yet has left as it was. -/
structure Track (start k : UniversalKernelRuntime P) : Prop where
  leases : k.leases = start.leases
  state : k.state = start.state
  contextItems : k.contextItems = start.contextItems
  completed : k.completed = start.completed
  bindings : k.guard.bindings = start.guard.bindings

theorem Track.refl (k : UniversalKernelRuntime P) : Track k k := by
  constructor <;> rfl

theorem Track.quiet (h : Track start k) (hquiet : Quiet k k')
    (hbindings : k'.guard.bindings = k.guard.bindings) : Track start k' where
  leases := hquiet.leases.trans h.leases
  state := hquiet.state.trans h.state
  contextItems := hquiet.contextItems.trans h.contextItems
  completed := hquiet.completed.trans h.completed
  bindings := hbindings.trans h.bindings

theorem Track.trace (h : Track start k) (trace : TraceCore) {seq : ℕ} :
    Track start { k with trace := trace, seq := seq } :=
  ⟨h.leases, h.state, h.contextItems, h.completed, h.bindings⟩

theorem Track.identityReady {ocs : String} (h : Track start k)
    (hready : IdentityReady config start ocs) : IdentityReady config k ocs := by
  unfold IdentityReady
  rw [h.bindings, h.contextItems]
  exact hready

/-- The places of a call on its way to the proven result. -/
def OnTrack (start : UniversalKernelRuntime P) (now : Time)
    (readback : MaterialReadback P) (lease : AuthorityLease)
    (k : UniversalKernelRuntime P) : Phase P → Prop
  | .identityPreAction | .sanitizeContext | .replayLookup | .authorize | .assemble _ =>
    Track start k ∧ k.effectorCompleted = start.effectorCompleted
  | .preflightGate _ envelope | .reserve _ envelope =>
    Track start k ∧ k.effectorCompleted = start.effectorCompleted ∧
      envelope.maxUses = lease.maxUses
  | .traceGrant _ envelope _ | .stageAuthorized envelope | .stagePreflight envelope
  | .identityPreEffect envelope | .materialEffect envelope =>
    Track start k ∧ k.effectorCompleted = start.effectorCompleted ∧
      envelope.leaseUseIndex.isSome ∧
      start.leases.materialEffectGuard now now envelope = .ok ()
  | .stageReadback _ found | .identityPrePersist _ found | .stateWrite _ found =>
    Track start k ∧ found = readback
  | .stageState _ _ _ | .finalize _ _ => k.leases = start.leases
  | .stageFinalize _ _ _ | .stageClose _ _ | .complete _ _ => True
  | .returned outcome => Reports outcome
  | .traceDenial _ _ | .recover _ _ => False

/-- The environment of a retry: the clock stands, nothing fails, and the adapter
gives the readback. -/
def retryEnv (now : Time) (readback : MaterialReadback P) : Point → StepEnv P :=
  fun _ =>
    { clock := fun _ => now
      faults := ⟨false, false, false⟩
      finalizeFault := none
      answers :=
        { mutate := .ok readback.mutationId
          readback := .ok readback
          compensate := .ok readback.mutationId
          verifierReadback := .ok readback
          verify := .ok true } }

theorem retryEnv_faultless (now : Time) (readback : MaterialReadback P) (point : Point) :
    (retryEnv now readback point).Faultless := ⟨rfl, rfl⟩

variable [DecidableEq P] {now : Time} {readback : MaterialReadback P}
  {lease : AuthorityLease}

theorem OnTrack.materialEffect (hready : Ready config start p now readback lease)
    {envelope : AuthorizedActionEnvelope P} (hof : EnvelopeOf p envelope)
    (h : OnTrack start now readback lease k (.materialEffect envelope)) (point : Point) :
    OnTrack start now readback lease
      (k.materialEffect config (retryEnv now readback point) p envelope).1
      (k.materialEffect config (retryEnv now readback point) p envelope).2 := by
  obtain ⟨htrack, heffector, hindex, hguard⟩ := h
  rw [← htrack.leases] at hguard
  obtain ⟨adapter, hadapter⟩ := hready.resolves envelope hof hindex
  have hguard' : k.leases.materialEffectGuard ((retryEnv now readback point).clock 0)
      ((retryEnv now readback point).clock 1) envelope = .ok () := hguard
  unfold UniversalKernelRuntime.materialEffect
  rw [hguard']
  cases hcached : k.effectorCompleted.lookup envelope.idempotencyKey with
  | some found =>
    have hsame := hready.cached envelope hof found (heffector ▸ hcached)
    simp only [effectorExecute, hcached]
    exact ⟨htrack, hsame⟩
  | none =>
    simp only [effectorExecute, hcached, hadapter, retryEnv]
    exact ⟨⟨htrack.leases, htrack.state, htrack.contextItems, htrack.completed,
      htrack.bindings⟩, rfl⟩

theorem OnTrack.commitState (hready : Ready config start p now readback lease)
    {envelope : AuthorizedActionEnvelope P} {found : MaterialReadback P}
    (hof : EnvelopeOf p envelope) (hseq : k.seq = start.seq + 6)
    (h : OnTrack start now readback lease k (.stateWrite envelope found)) :
    OnTrack start now readback lease (k.commitState config p envelope found).1
      (k.commitState config p envelope found).2 := by
  obtain ⟨htrack, rfl⟩ := h
  obtain ⟨current, hcurrent, hcommits⟩ := hready.commits
  obtain ⟨persisted, hwrite⟩ := hcommits envelope hof
  have hrecord : k.nextRecord p.ocs current found = commitRecord start p current found := by
    simp only [nextRecord, commitRecord, hseq]
  have hanswer : (k.commitAnswer config p envelope
      (k.nextRecord p.ocs current found)).2 = .ok persisted := by
    rw [hrecord, commitAnswer, htrack.state]
    exact hwrite
  unfold UniversalKernelRuntime.commitState
  rw [htrack.state, hcurrent]
  dsimp only
  rw [hanswer]
  exact htrack.leases

/-- Before the commit, a call on its track that has drawn its numbers moves on. -/
theorem OnTrack.advance (hready : Ready config start p now readback lease)
    (hfresh : Uncompleted start p) {phase : Phase P}
    (henvelope : ∀ envelope ∈ phase.progress.envelope?, EnvelopeOf p envelope)
    (hseq : phase.progress.Settled ∨ k.seq = start.seq + phase.drawn)
    (h : OnTrack start now readback lease k phase) :
    OnTrack start now readback lease
      (k.advance config p (retryEnv now readback phase.point) phase).1
      (k.advance config p (retryEnv now readback phase.point) phase).2 := by
  have hfaultless := retryEnv_faultless now readback phase.point
  cases phase with
  | traceDenial | recover => exact h.elim
  | identityPreAction =>
    obtain ⟨htrack, heffector⟩ := h
    obtain ⟨hanswer, hbindings⟩ :=
      requireIdentity_ready (htrack.identityReady hready.identity) .preAction
    have hquiet : Quiet k (k.requireIdentity config p.ocs .preAction).1 :=
      requireIdentity_quiet k p.ocs .preAction
    rw [UniversalKernelRuntime.advance, proceed_ok hanswer]
    exact ⟨htrack.quiet hquiet hbindings, hquiet.effectorCompleted.trans heffector⟩
  | sanitizeContext =>
    obtain ⟨htrack, heffector⟩ := h
    obtain ⟨hanswer, hbindings⟩ :=
      sanitizeContext_ready (htrack.identityReady hready.identity)
    have hquiet : Quiet k (k.sanitizeContext config p.ocs).1 :=
      sanitizeContext_quiet k p.ocs
    rw [UniversalKernelRuntime.advance, proceed_ok hanswer]
    exact ⟨htrack.quiet hquiet hbindings, hquiet.effectorCompleted.trans heffector⟩
  | replayLookup =>
    have hlookup : p.idempotencyKey.bind k.completed.lookup = none := by
      rw [h.1.completed]
      exact hfresh
    simp only [UniversalKernelRuntime.advance, hlookup]
    exact h
  | authorize =>
    have hchecks : config.governance.authorizeChecks start.leases (fun _ => now) p = _ :=
      authorizeChecks_of_clears hready.clears hready.contract hready.validated
    rw [← h.1.leases] at hchecks
    simp only [UniversalKernelRuntime.advance, retryEnv, hchecks]
    exact h
  | assemble checked =>
    obtain ⟨leaseId, hleaseId, hlookup, -⟩ := hready.leased
    obtain ⟨envelope, hbuild, hmaxUses⟩ :=
      buildEnvelope_of_contract hready.contract hleaseId lease.maxUses
    rw [← h.1.leases] at hlookup
    simp only [UniversalKernelRuntime.advance, GovernanceEngine.assembleEnvelope, hleaseId,
      Option.bind_some, hlookup, hbuild]
    exact ⟨h.1, h.2, hmaxUses⟩
  | preflightGate result envelope =>
    obtain ⟨htrack, heffector, hmaxUses⟩ := h
    have hanswer := preflightGate_ok hfaultless k
    simp only [UniversalKernelRuntime.advance]
    split <;> rename_i hgate <;> rw [hgate] at hanswer
    · cases hgate
      exact ⟨htrack.trace _, heffector, hmaxUses⟩
    · cases hanswer
    · cases hanswer
  | reserve result envelope =>
    obtain ⟨htrack, heffector, hmaxUses⟩ := h
    have hof := henvelope envelope rfl
    obtain ⟨leaseId, hleaseId, hlookup, -⟩ := hready.leased
    obtain rfl : leaseId = envelope.leaseId := by
      simpa [hleaseId] using hof.leaseId
    obtain ⟨useIndex, hheld⟩ := hready.held envelope hof
    have hreserve := AuthorityLeaseManager.reserveUse_held hlookup
      (hready.covers envelope hof hmaxUses) hheld
    have hcovers := hready.covers _ (hof.withIndex (some useIndex)) hmaxUses
    have hguard : start.leases.materialEffectGuard now now
        { envelope with leaseUseIndex := some useIndex } = .ok () :=
      AuthorityLeaseManager.materialEffectGuard_eq_ok_iff.mpr
        ⟨lease, useIndex, hlookup, hcovers, rfl, hheld⟩
    simp only [UniversalKernelRuntime.advance, GovernanceEngine.reserveAuthority, retryEnv,
      htrack.leases, hreserve]
    exact ⟨⟨rfl, htrack.state, htrack.contextItems, htrack.completed, htrack.bindings⟩,
      heffector, rfl, hguard⟩
  | traceGrant result envelope name =>
    obtain ⟨htrack, heffector, hheld⟩ := h
    cases name with
    | proposal | evidence | governance =>
      rw [UniversalKernelRuntime.advance, proceed_ok (governanceStage_ok hfaultless ..)]
      exact ⟨htrack.trace _, heffector, hheld⟩
  | stageAuthorized envelope =>
    obtain ⟨htrack, heffector, hheld⟩ := h
    rw [UniversalKernelRuntime.advance, proceed_ok (stage_ok hfaultless ..)]
    exact ⟨htrack.trace _, heffector, hheld⟩
  | stagePreflight envelope =>
    obtain ⟨htrack, heffector, hheld⟩ := h
    rw [UniversalKernelRuntime.advance, proceed_ok (preflight_ok hfaultless ..)]
    exact ⟨htrack.trace _, heffector, hheld⟩
  | identityPreEffect envelope =>
    obtain ⟨htrack, heffector, hheld⟩ := h
    obtain ⟨hanswer, hbindings⟩ :=
      requireIdentity_ready (htrack.identityReady hready.identity) .preAction
    have hquiet : Quiet k (k.requireIdentity config p.ocs .preAction).1 :=
      requireIdentity_quiet k ..
    rw [UniversalKernelRuntime.advance, proceed_ok hanswer]
    exact ⟨htrack.quiet hquiet hbindings, hquiet.effectorCompleted.trans heffector, hheld⟩
  | materialEffect envelope => exact h.materialEffect hready (henvelope _ rfl) _
  | stageReadback envelope found =>
    rw [UniversalKernelRuntime.advance, proceed_ok (stage_ok hfaultless ..)]
    exact ⟨h.1.trace _, h.2⟩
  | identityPrePersist envelope found =>
    obtain ⟨hanswer, hbindings⟩ :=
      requireIdentity_ready (h.1.identityReady hready.identity) .prePersist
    rw [UniversalKernelRuntime.advance, proceed_ok hanswer]
    have hquiet : Quiet k (k.requireIdentity config p.ocs .prePersist).1 :=
      requireIdentity_quiet k ..
    exact ⟨h.1.quiet hquiet hbindings, h.2⟩
  | stateWrite envelope found =>
    exact h.commitState hready (henvelope _ rfl) (hseq.resolve_left id)
  | stageState envelope found record =>
    rw [UniversalKernelRuntime.advance, proceed_ok (stage_ok hfaultless ..)]
    exact h
  | finalize envelope found =>
    obtain ⟨leaseId, hleaseId, -, ⟨leases, leaseState⟩, hfinalize⟩ := hready.leased
    obtain rfl : leaseId = envelope.leaseId := by
      simpa [hleaseId] using (henvelope envelope rfl).leaseId
    have hleases : k.leases = start.leases := h
    rw [← hleases] at hfinalize
    simp only [UniversalKernelRuntime.advance, retryEnv, hfinalize]
    trivial
  | stageFinalize envelope found leaseState =>
    rw [UniversalKernelRuntime.advance, proceed_ok (stage_ok hfaultless ..)]
    trivial
  | stageClose envelope found =>
    rw [UniversalKernelRuntime.advance, proceed_ok (stage_ok hfaultless ..)]
    trivial
  | complete envelope found => exact ⟨rfl, rfl, rfl⟩
  | returned outcome => exact h

/-! ## Retries -/

/-- The state core accepts the record the retry commits, for the cached readback if
there is one. -/
def CommitAccepted (config : RuntimeConfig P) (k : UniversalKernelRuntime P)
    (p : ActionProposal P) : Prop :=
  ∃ readback current,
    (∀ key found, p.idempotencyKey = some key →
      k.effectorCompleted.lookup key = some found → found = readback) ∧
    k.state.current p.ocs = .ok current ∧
    ∀ envelope, EnvelopeOf p envelope → ∃ persisted,
      (k.commitAnswer config p envelope (commitRecord k p current readback)).2 =
        .ok persisted

/-- A retry at `now` is in time for the proposal and its unrevoked lease, its key is
not another action's, the identity checks pass and the state core takes its record. -/
structure Retriable (config : RuntimeConfig P) (k : UniversalKernelRuntime P)
    (p : ActionProposal P) (now : Time) : Prop where
  lease : ∀ leaseId lease, p.leaseId = some leaseId →
    k.leases.leases.lookup leaseId = some lease →
    lease.revoked = false ∧ now < lease.expiresAt
  issued : ∀ issuedAt, p.issuedAt = some issuedAt → issuedAt ≤ now
  unexpired : ∀ expiresAt, p.expiresAt = some expiresAt → now < expiresAt
  ownKey : ∀ key entry, p.idempotencyKey = some key →
    k.completed.lookup key = some entry → entry.1 = p.actionId
  identity : IdentityReady config k p.ocs
  commit : CommitAccepted config k p

omit [DecidableEq P] in
/-- While its effect is not cached, the lease of an applied proposal is not released. -/
theorem Settled.not_released (h : Settled config none k) (hfresh : Uncompleted k p)
    (huse : HoldsUse k.leases p) {leaseId : String} (hleaseId : p.leaseId = some leaseId)
    (hlookup : k.leases.leases.lookup leaseId = some lease) : lease.state ≠ .released := by
  intro hstate
  obtain ⟨_, key, useIndex, hsame, hkey, hreservation⟩ := huse
  rw [hleaseId, Option.some.injEq] at hsame
  subst hsame
  rcases h.released leaseId lease key _ _ hlookup hstate hreservation with
    ⟨_, hpending, -⟩ | ⟨result, hresult⟩
  · cases hpending
  · rw [Uncompleted, hkey, Option.bind_some, hresult] at hfresh
    cases hfresh

theorem Settled.ready (h : Settled config none k) (heffective : Effective config k.leases p)
    (hfresh : Uncompleted k p) (hretry : Retriable config k p now) :
    ∃ readback lease, Ready config k p now readback lease := by
  obtain ⟨readback, current, hcached, hcurrent, hcommits⟩ := hretry.commit
  obtain ⟨earlier, hcontract⟩ := heffective.standing.contract
  obtain ⟨hscope, issuedAt, expiresAt, hissued, hexpires, -, -⟩ :=
    validateEnvelopeContract_ok hcontract
  obtain ⟨leaseId, lease, hleaseId, hlookup, hbinds⟩ := heffective.standing.lease
  obtain ⟨hvalid, hunexpired⟩ := hretry.lease leaseId lease hleaseId hlookup
  have hunreleased := h.not_released hfresh heffective.use hleaseId hlookup
  have hstarted : lease.notBefore ≤ now := by
    obtain ⟨_, hsame, hnotBefore⟩ := hbinds.issued
    exact hnotBefore.trans (hretry.issued _ hsame)
  refine ⟨readback, lease,
    { clears := heffective.standing.clears
      contract := validateEnvelopeContract_at hcontract hretry.issued
      validated := ?_
      leased := ⟨leaseId, hleaseId, hlookup, ?_⟩
      covers := fun envelope hof hmaxUses => ?_
      held := fun envelope hof => ?_
      resolves := fun envelope hof hindex => ?_
      cached := fun envelope hof found => hcached _ found hof.idempotencyKey
      identity := hretry.identity
      commits := ⟨current, hcurrent, hcommits⟩ }⟩
  · exact AuthorityLeaseManager.validateProposal_fst_iff.mpr
      ⟨leaseId, lease, hleaseId, hlookup, hvalid, hunreleased, hstarted, hunexpired, hbinds,
        hscope, expiresAt, hexpires, hretry.unexpired _ hexpires⟩
  · cases hfinalize : k.leases.finalize leaseId with
    | ok answer => exact ⟨answer, rfl⟩
    | error error =>
      exact absurd hfinalize (finalize_ne_error h hleaseId heffective.use)
  · exact hbinds.covers hof hvalid hunreleased (hretry.issued _ hof.issuedAt)
      (hretry.unexpired _ hof.expiresAt) hmaxUses
  · obtain ⟨_, key, useIndex, hsame, hkey, hreservation⟩ := heffective.use
    rw [hof.leaseId, Option.some.injEq] at hsame
    rw [hof.idempotencyKey, Option.some.injEq] at hkey
    exact ⟨useIndex, by rw [hsame, hkey, hof.actionId, hreservation]⟩
  · obtain ⟨resolved, adapter, hresolved, hadapter⟩ := heffective.resolvable
    refine ⟨adapter, ToolBroker.resolveFor_congr ?_ ?_ ?_ ?_ hindex hadapter⟩
    · rw [hof.capability, hresolved.capability]
    · rw [hof.scope, hresolved.scope]
    · rw [hof.validScope, hresolved.validScope]
    · simpa [hof.authorityRef] using hresolved.authorityRef

/-- The places of a call that the runtime's cache answers. -/
def Replays (start k : UniversalKernelRuntime P) : Phase P → Prop
  | .identityPreAction | .sanitizeContext | .replayLookup => Track start k
  | .returned outcome => Reports outcome
  | _ => False

theorem Replays.advance {key : String} {entry : String × ExecutionResult P}
    (hidentity : IdentityReady config start p.ocs) (hkey : p.idempotencyKey = some key)
    (hentry : start.completed.lookup key = some entry) (haction : entry.1 = p.actionId)
    (hreport : entry.2.ReportsEffect) {phase : Phase P} (h : Replays start k phase) :
    Replays start (k.advance config p env phase).1 (k.advance config p env phase).2 := by
  cases phase with
  | identityPreAction =>
    obtain ⟨hanswer, hbindings⟩ :=
      requireIdentity_ready (Track.identityReady h hidentity) .preAction
    rw [UniversalKernelRuntime.advance, proceed_ok hanswer]
    exact Track.quiet h (requireIdentity_quiet k p.ocs .preAction) hbindings
  | sanitizeContext =>
    obtain ⟨hanswer, hbindings⟩ :=
      sanitizeContext_ready (Track.identityReady h hidentity)
    rw [UniversalKernelRuntime.advance, proceed_ok hanswer]
    exact Track.quiet h (sanitizeContext_quiet k p.ocs) hbindings
  | replayLookup =>
    have hlookup : p.idempotencyKey.bind k.completed.lookup = some entry := by
      rw [hkey, Option.bind_some, Track.completed h, hentry]
    simp only [UniversalKernelRuntime.advance, hlookup, haction, ne_eq, not_true, if_false]
    exact hreport
  | returned outcome => exact h
  | _ => exact h.elim

/-- A retriable proposal whose effect was applied reaches its proven result. -/
theorem Settled.retry (h : Settled config none k) (heffective : Effective config k.leases p)
    (hretry : Retriable config k p now) :
    ∃ answers outcome, (k.execute config p answers).2 = .returned outcome ∧
      Reports outcome := by
  cases hlookup : p.idempotencyKey.bind k.completed.lookup with
  | none =>
    obtain ⟨readback, lease, hready⟩ := h.ready heffective hlookup hretry
    have hend := execute_induction config p
      (fun k' phase => OnTrack k now readback lease k' phase ∧
        (phase.progress.Settled ∨ k'.seq = k.seq + phase.drawn))
      (retryEnv now readback)
      (fun k' phase henvelope ⟨htrack, hseq⟩ => by
        refine ⟨htrack.advance hready hlookup henvelope hseq, ?_⟩
        rcases hseq with hsettled | hseq
        · exact .inl ((advance_move k' phase).settled hsettled).1
        · exact (advance_drawn hseq).imp_left settled_of_returned)
      ⟨⟨.refl k, rfl⟩, .inr rfl⟩
    have hreturned : ∃ outcome,
        (k.execute config p (retryEnv now readback)).2 = .returned outcome :=
      execute_returned (retryEnv now readback) k
    obtain ⟨outcome, houtcome⟩ := hreturned
    rw [houtcome] at hend
    exact ⟨_, outcome, houtcome, hend.1⟩
  | some entry =>
    obtain ⟨key, hkey, hentry⟩ := Option.bind_eq_some_iff.mp hlookup
    obtain ⟨readback, -⟩ := hretry.commit
    have hend := execute_induction config p (Replays k) (retryEnv now readback)
      (fun k' phase _ hplace => hplace.advance hretry.identity hkey hentry
        (hretry.ownKey key entry hkey hentry) (h.reports key entry hentry))
      (Track.refl k)
    have hreturned : ∃ outcome,
        (k.execute config p (retryEnv now readback)).2 = .returned outcome :=
      execute_returned (retryEnv now readback) k
    obtain ⟨outcome, houtcome⟩ := hreturned
    rw [houtcome] at hend
    exact ⟨_, outcome, houtcome, hend⟩

/-! ## Exactly once -/

omit [DecidableEq P] in
theorem length_commitsFor_le (h : Settled config none k) (actionId key : String) :
    (k.history.commitsFor actionId key).length ≤ 1 := by
  have hsublist : (k.history.commitsFor actionId key).Sublist
      (k.history.stateWrites.filter (·.committed)) :=
    List.monotone_filter_right _ fun call hselected =>
      (Bool.and_eq_true_iff.mp hselected).1
  have hdistinct : ((k.history.commitsFor actionId key).map
      (·.proposal.idempotencyKey)).Nodup := h.distinct.sublist (hsublist.map _)
  have hlabel : ∀ call ∈ k.history.commitsFor actionId key,
      call.proposal.idempotencyKey = some key := by
    intro call hcall
    have hselected := (List.mem_filter.mp hcall).2
    simp only [Bool.and_eq_true, decide_eq_true_eq] at hselected
    exact hselected.2.2
  exact length_le_one_of_label hdistinct hlabel

/-- At most one accepted commit for an action and its key, and every applied proposal
that may be retried can still reach its proven result. -/
structure ExactlyOnce (config : RuntimeConfig P) (k : UniversalKernelRuntime P) : Prop where
  once : ∀ actionId key, (k.history.commitsFor actionId key).length ≤ 1
  retriable : ∀ call ∈ k.history.mutateCalls, call.completed = true → ∀ now,
    Retriable config k call.proposal now → ∃ answers outcome,
      (k.execute config call.proposal answers).2 = .returned outcome ∧ Reports outcome

theorem Settled.exactlyOnce (h : Settled config none k) : ExactlyOnce config k where
  once := length_commitsFor_le h
  retriable call hcall hcompleted _ hretry :=
    h.retry (h.effective call hcall hcompleted) hretry

/-- If no append and no finalisation fails between a commit and the end of its call,
every state of the run commits once and can retry what it applied. -/
theorem exactlyOnce_of_settlesCleanly (config : RuntimeConfig P) (state : StateCore P)
    (trace : TraceCore) (guard : IdentityKernelGuard) (recovery : Option (Checkpoints P))
    (contextItems : List ContextItem) (ops : List (KernelOp P))
    (hops : Admissible (operate config) (fun _ => SettlesCleanly)
      (fresh state trace guard recovery contextItems) ops) :
    ExactlyOnce config
      (run (operate config) (fresh state trace guard recovery contextItems) ops) :=
  (run_settled config state trace guard recovery contextItems hops).exactlyOnce

/-- The fixture's environment with a fault in one trace append. -/
def failingAt (failing point : Point) : StepEnv ℕ :=
  { Fixture.good point with faults := ⟨point = failing, false, point = failing⟩ }

/-- A runtime whose only call failed after its effect and before its commit. -/
def uncommitted : UniversalKernelRuntime ℕ :=
  run (operate Fixture.config) Fixture.runtime
    [.issue 100 Fixture.lease, .execute Fixture.proposal (failingAt .stageReadback)]

theorem uncommitted_retriable : Retriable Fixture.config uncommitted Fixture.proposal 100 where
  lease leaseId lease hleaseId hlookup := by
    have hlease : uncommitted.leases.leases.lookup "lease-1" =
        some { Fixture.lease with usesConsumed := 1, state := .consumed } := by decide
    cases hleaseId
    rw [hlease] at hlookup
    cases hlookup
    decide
  issued issuedAt hissued := by
    cases hissued
    decide
  unexpired expiresAt hexpires := by
    cases hexpires
    decide
  ownKey key entry hkey hentry := by
    have hcompleted : uncommitted.completed.lookup "key-1" = none := by decide
    cases hkey
    rw [hcompleted] at hentry
    cases hentry
  identity := nofun
  commit := by
    refine ⟨⟨"m-1", 7⟩, none, ?_, by decide, fun envelope hof =>
      ⟨⟨"state:SOFIA:13", "SOFIA", 1, none, 7, true⟩, ?_⟩⟩
    · intro key found hkey hfound
      have hcached : uncommitted.effectorCompleted.lookup "key-1" = some ⟨"m-1", 7⟩ := by
        decide
      cases hkey
      rw [hcached] at hfound
      exact (Option.some.inj hfound).symm
    · have hauthority : envelope.authorityRef = "authority-1" :=
        (Option.some.inj hof.authorityRef).symm
      rw [commitAnswer, writeContext, hauthority]
      decide

/-- The retry of that call can reach the proven result. -/
theorem exactlyOnce_uncommitted :
    ExactlyOnce Fixture.config uncommitted ∧ ∃ answers outcome,
      (uncommitted.execute Fixture.config Fixture.proposal answers).2 = .returned outcome ∧
        Reports outcome := by
  have honce : ExactlyOnce Fixture.config uncommitted :=
    exactlyOnce_of_settlesCleanly Fixture.config .empty .empty (.restart []) none [] _
      (by decide)
  have happlied : ∃ call ∈ uncommitted.history.mutateCalls,
      call.completed = true ∧ call.proposal = Fixture.proposal := by decide
  obtain ⟨call, hcall, hcompleted, hproposal⟩ := happlied
  have hretry := honce.retriable call hcall hcompleted 100
  rw [hproposal] at hretry
  exact ⟨honce, hretry uncommitted_retriable⟩

/-- A fault in the append after the commit: the retry commits a second record.  With
a single-use lease a fault in the last append leaves the lease released, and every
retry is denied. -/
theorem late_fault_commits_twice :
    let k := run (operate Fixture.config) Fixture.runtime
      [.issue 100 Fixture.lease, .execute Fixture.proposal (failingAt .stageState),
        .execute Fixture.proposal Fixture.good]
    let released := run (operate Fixture.config) Fixture.runtime
      [.issue 100 { Fixture.lease with singleUse := true },
        .execute Fixture.proposal (failingAt .stageClose)]
    (k.history.stateWrites.map fun call =>
        (call.committed, call.record.stateId, call.proposal.idempotencyKey)) =
        [(true, "state:SOFIA:7", some "key-1"), (true, "state:SOFIA:15", some "key-1")] ∧
      ¬ ExactlyOnce Fixture.config k ∧
      (released.history.mutateCalls.map (·.completed)) = [true] ∧
      ∃ result, (released.execute Fixture.config Fixture.proposal Fixture.good).2 =
          .returned (.ok result) ∧ result.reason = "lease_released" := by
  refine ⟨by decide, fun h => ?_, by decide, _, rfl, rfl⟩
  exact absurd (h.once "action-1" "key-1") (by decide)

end UniversalKernelRuntime

end ReisOs.Kernel
