import ReisOs.Core.Counting
import ReisOs.Kernel.Grants

/-!
# Settled effects

A call that has committed its state still has to trace, finalize its lease and
cache its result.  If nothing fails in between, then at every call boundary each
commit has its result in the runtime's cache, under a key that no later call
commits for again, and a lease is released only once its effect is cached.
-/

namespace ReisOs.Kernel

open ReisOs.Core

variable {P : Type}

/-- The keys of the accepted commits. -/
def History.committedKeys (history : History P) : List (Option String) :=
  (history.stateWrites.filter (·.committed)).map (·.proposal.idempotencyKey)

/-- The accepted commits for an action and its key. -/
def History.commitsFor (history : History P) (actionId key : String) :
    List (StateWrite P) :=
  history.stateWrites.filter fun call =>
    call.committed &&
      (call.proposal.actionId = actionId && call.proposal.idempotencyKey = some key)

/-- The governance engine has cleared the proposal, and its lease has the terms for
it. -/
structure Standing (config : RuntimeConfig P) (leases : AuthorityLeaseManager)
    (p : ActionProposal P) : Prop where
  clears : config.governance.Clears p
  contract : ∃ now, (validateEnvelopeContract now p).1 = true
  lease : ∃ leaseId lease, p.leaseId = some leaseId ∧
    leases.leases.lookup leaseId = some lease ∧ lease.Binds p

/-- The proposal's key holds a use of its lease. -/
def HoldsUse (leases : AuthorityLeaseManager) (p : ActionProposal P) : Prop :=
  ∃ leaseId key useIndex, p.leaseId = some leaseId ∧ p.idempotencyKey = some key ∧
    leases.reservation leaseId key = some (p.actionId, useIndex)

/-- The broker has an adapter for the proposal's envelopes. -/
def Resolvable (config : RuntimeConfig P) (p : ActionProposal P) : Prop :=
  ∃ envelope adapter, EnvelopeOf p envelope ∧
    config.broker.resolveFor envelope = .ok adapter

structure Effective (config : RuntimeConfig P) (leases : AuthorityLeaseManager)
    (p : ActionProposal P) : Prop where
  standing : Standing config leases p
  use : HoldsUse leases p
  resolvable : Resolvable config p

section Leases

variable {config : RuntimeConfig P} {leases leases' : AuthorityLeaseManager}
  {p : ActionProposal P}

theorem Standing.leaseMove (h : Standing config leases p)
    (hmove : AuthorityLeaseManager.LeaseMove (P := P) leases leases') :
    Standing config leases' p where
  clears := h.clears
  contract := h.contract
  lease := by
    obtain ⟨leaseId, lease, hleaseId, hlookup, hbinds⟩ := h.lease
    obtain ⟨lease', hlookup', hterms⟩ := hmove.sameTerms hlookup
    exact ⟨leaseId, lease', hleaseId, hlookup', hbinds.sameTerms hterms⟩

theorem HoldsUse.leaseMove (h : HoldsUse leases p)
    (hmove : AuthorityLeaseManager.LeaseMove (P := P) leases leases')
    (hmetered : leases.Metered) : HoldsUse leases' p := by
  obtain ⟨leaseId, key, useIndex, hleaseId, hkey, hreservation⟩ := h
  exact ⟨leaseId, key, useIndex, hleaseId, hkey,
    hmove.reservation_mono hmetered hreservation⟩

theorem Effective.leaseMove (h : Effective config leases p)
    (hmove : AuthorityLeaseManager.LeaseMove (P := P) leases leases')
    (hmetered : leases.Metered) : Effective config leases' p :=
  ⟨h.standing.leaseMove hmove, h.use.leaseMove hmove hmetered, h.resolvable⟩

end Leases

namespace UniversalKernelRuntime

/-- No result is cached under the proposal's key. -/
def Uncompleted (k : UniversalKernelRuntime P) (p : ActionProposal P) : Prop :=
  p.idempotencyKey.bind k.completed.lookup = none

/-- The bookkeeping of a runtime whose call for `pending`, if there is one, has
committed and is about to be cached. -/
structure Settled (config : RuntimeConfig P) (pending : Option (ActionProposal P))
    (k : UniversalKernelRuntime P) : Prop where
  metered : k.leases.Metered
  sound : k.leases.Sound
  effective : ∀ call ∈ k.history.mutateCalls, call.completed = true →
    Effective config k.leases call.proposal
  reports : ∀ key entry, k.completed.lookup key = some entry → entry.2.ReportsEffect
  distinct : k.history.committedKeys.Nodup
  recorded : ∀ call ∈ k.history.stateWrites, call.committed = true →
    pending = some call.proposal ∨
      ∃ key result, call.proposal.idempotencyKey = some key ∧
        k.completed.lookup key = some (call.proposal.actionId, result)
  released : ∀ leaseId lease key actionId useIndex,
    k.leases.leases.lookup leaseId = some lease → lease.state = .released →
    k.leases.reservation leaseId key = some (actionId, useIndex) →
    (∃ p, pending = some p ∧ p.idempotencyKey = some key ∧ p.actionId = actionId) ∨
      ∃ result, k.completed.lookup key = some (actionId, result)

variable {config : RuntimeConfig P} {pending : Option (ActionProposal P)}
  {k k' : UniversalKernelRuntime P}

theorem Settled.congr (h : Settled config pending k) (hleases : k'.leases = k.leases)
    (hcompleted : k'.completed = k.completed)
    (hmutateCalls : k'.history.mutateCalls = k.history.mutateCalls)
    (hstateWrites : k'.history.stateWrites = k.history.stateWrites) :
    Settled config pending k' := by
  cases h
  constructor <;>
    simpa only [hleases, hcompleted, hmutateCalls, hstateWrites, History.committedKeys]

theorem Settled.leaseMove (h : Settled config pending k) {leases : AuthorityLeaseManager}
    (hmove : AuthorityLeaseManager.LeaseMove (P := P) k.leases leases)
    (hreleased : ∀ leaseId lease key reserved,
      leases.leases.lookup leaseId = some lease → lease.state = .released →
      leases.reservation leaseId key = some reserved →
      ∃ before, k.leases.leases.lookup leaseId = some before ∧ before.state = .released ∧
        k.leases.reservation leaseId key = some reserved) :
    Settled config pending { k with leases := leases } where
  metered := hmove.metered h.metered
  sound := hmove.sound h.sound
  effective call hcall hcompleted :=
    (h.effective call hcall hcompleted).leaseMove hmove h.metered
  reports := h.reports
  distinct := h.distinct
  recorded := h.recorded
  released leaseId lease key actionId useIndex hlookup hstate hreservation := by
    obtain ⟨before, hbefore, hstate, hreservation⟩ :=
      hreleased leaseId lease key _ hlookup hstate hreservation
    exact h.released leaseId before key actionId useIndex hbefore hstate hreservation

theorem Settled.called (h : Settled config pending k) (env : StepEnv P)
    (envelope : AuthorizedActionEnvelope P) (outcome : Except PyError String)
    {p : ActionProposal P}
    (heffective : outcome.isOk = true → Effective config k.leases p) :
    Settled config pending (k.called env p envelope outcome) where
  metered := h.metered
  sound := h.sound
  effective call hcall hcompleted := by
    rcases List.mem_append.mp hcall with hold | hnew
    · exact h.effective call hold hcompleted
    · rw [List.mem_singleton.mp hnew] at hcompleted ⊢
      exact heffective hcompleted
  reports := h.reports
  distinct := h.distinct
  recorded := h.recorded
  released := h.released

/-! ## The end of a call -/

variable {p : ActionProposal P}

theorem Settled.commitFailed (h : Settled config pending k) {record : StateRecord P}
    {answer : StateCore P × Except PyError (StateRecord P)} {error : PyError}
    (hwrite : answer.2 = .error error) :
    Settled config pending (k.wrote p record answer) where
  metered := h.metered
  sound := h.sound
  effective := h.effective
  reports := h.reports
  distinct := by
    have hkeys : (k.wrote p record answer).history.committedKeys =
        k.history.committedKeys := by
      simp [History.committedKeys, wrote, StateWrite.committed, hwrite, Except.isOk,
        Except.toBool]
    rw [hkeys]
    exact h.distinct
  recorded call hcall hcommitted := by
    rcases List.mem_append.mp hcall with hold | hnew
    · exact h.recorded call hold hcommitted
    · rw [List.mem_singleton.mp hnew] at hcommitted
      simp [StateWrite.committed, hwrite, Except.isOk, Except.toBool] at hcommitted
  released := h.released

/-- An accepted commit is pending until its result is cached. -/
theorem Settled.commit (h : Settled config none k) (hfresh : Uncompleted k p)
    {record persisted : StateRecord P}
    {answer : StateCore P × Except PyError (StateRecord P)}
    (hwrite : answer.2 = .ok persisted) : Settled config (some p) (k.wrote p record answer)
    where
  metered := h.metered
  sound := h.sound
  effective := h.effective
  reports := h.reports
  distinct := by
    have hkeys : (k.wrote p record answer).history.committedKeys =
        k.history.committedKeys ++ [p.idempotencyKey] := by
      simp [History.committedKeys, wrote, StateWrite.committed, hwrite, Except.isOk,
        Except.toBool]
    rw [hkeys, List.nodup_append]
    refine ⟨h.distinct, List.nodup_singleton _, ?_⟩
    rintro key hkey _ hsame rfl
    -- an earlier commit for the key would have its result cached
    obtain ⟨call, hcall, hkey⟩ := List.mem_map.mp hkey
    obtain ⟨hcall, hcommitted⟩ := List.mem_filter.mp hcall
    rcases h.recorded call hcall hcommitted with hpending | ⟨key, result, hsome, hresult⟩
    · cases hpending
    · rw [List.mem_singleton.mp hsame, hsome] at hkey
      rw [Uncompleted, ← hkey, Option.bind_some, hresult] at hfresh
      cases hfresh
  recorded call hcall hcommitted := by
    rcases List.mem_append.mp hcall with hold | hnew
    · rcases h.recorded call hold hcommitted with hpending | hrecorded
      · cases hpending
      · exact .inr hrecorded
    · rw [List.mem_singleton.mp hnew]
      exact .inl rfl
  released leaseId lease key actionId useIndex hlookup hstate hreservation := by
    rcases h.released leaseId lease key actionId useIndex hlookup hstate hreservation with
      ⟨other, hpending, -⟩ | hresult
    · cases hpending
    · exact .inr hresult

theorem finalize_ne_error (h : Settled config pending k) {leaseId : String}
    {error : PyError} (hleaseId : p.leaseId = some leaseId) (huse : HoldsUse k.leases p) :
    k.leases.finalize leaseId ≠ .error error := by
  obtain ⟨_, key, useIndex, hsame, -, hreservation⟩ := huse
  rw [hleaseId, Option.some.injEq] at hsame
  subst hsame
  obtain ⟨lease, hlookup, -⟩ := h.metered.indexed hreservation
  have hstate := h.sound.not_active h.metered hreservation hlookup
  intro hfinalize
  unfold AuthorityLeaseManager.finalize at hfinalize
  rw [hlookup] at hfinalize
  dsimp only at hfinalize
  split at hfinalize
  · cases hfinalize
  · rename_i hactive
    exact hstate hactive
  · split at hfinalize <;> cases hfinalize

/-- Finalizing the pending call's lease releases a lease of that call only. -/
theorem Settled.finalize (h : Settled config (some p) k) {leaseId : String}
    {leases : AuthorityLeaseManager} {leaseState : LeaseState}
    (hleaseId : p.leaseId = some leaseId) (huse : HoldsUse k.leases p)
    (hfinalize : k.leases.finalize leaseId = .ok (leases, leaseState)) :
    Settled config (some p) { k with leases := leases } := by
  have hmove : AuthorityLeaseManager.LeaseMove (P := P) k.leases leases :=
    .of_finalize hfinalize
  refine
    { metered := hmove.metered h.metered
      sound := hmove.sound h.sound
      effective := fun call hcall hcompleted =>
        (h.effective call hcall hcompleted).leaseMove hmove h.metered
      reports := h.reports
      distinct := h.distinct
      recorded := h.recorded
      released := ?_ }
  intro other lease key actionId useIndex hlookup hstate hreservation
  unfold AuthorityLeaseManager.finalize at hfinalize
  split at hfinalize
  · cases hfinalize
  rename_i held hheld
  split at hfinalize
  · cases hfinalize
    exact h.released other lease key actionId useIndex hlookup hstate hreservation
  · cases hfinalize
  · split at hfinalize
    · rename_i hsingle
      cases hfinalize
      by_cases hother : other = leaseId
      · subst hother
        obtain ⟨_, key', useIndex', hsame, hkey', hreservation'⟩ := huse
        rw [hleaseId, Option.some.injEq] at hsame
        subst hsame
        obtain rfl := h.sound.single_key h.metered hheld hsingle hreservation hreservation'
        rw [AuthorityLeaseManager.setLease_reservation, hreservation'] at hreservation
        cases hreservation
        exact .inl ⟨p, rfl, hkey', rfl⟩
      · simp only [AuthorityLeaseManager.setLease, Dict.lookup_insert_eq, if_neg hother]
          at hlookup
        exact h.released other lease key actionId useIndex hlookup hstate hreservation
    · cases hfinalize
      exact h.released other lease key actionId useIndex hlookup hstate hreservation

/-- Caching the result settles the pending call. -/
theorem Settled.complete (h : Settled config (some p) k) (hfresh : Uncompleted k p)
    {key : String} (hkey : p.idempotencyKey = some key) {result : ExecutionResult P}
    (hreport : result.ReportsEffect) :
    Settled config none
      { k with completed := k.completed.insert key (p.actionId, result) } := by
  have hkept {other : String} {entry : String × ExecutionResult P}
      (hentry : k.completed.lookup other = some entry) :
      (k.completed.insert key (p.actionId, result)).lookup other = some entry := by
    rw [Dict.lookup_insert_eq, if_neg]
    · exact hentry
    · rintro rfl
      rw [Uncompleted, hkey, Option.bind_some, hentry] at hfresh
      cases hfresh
  refine
    { metered := h.metered
      sound := h.sound
      effective := h.effective
      reports := ?_
      distinct := h.distinct
      recorded := ?_
      released := ?_ }
  · intro other entry hentry
    rw [Dict.lookup_insert_eq] at hentry
    split at hentry
    · cases hentry
      exact hreport
    · exact h.reports other entry hentry
  · intro call hcall hcommitted
    rcases h.recorded call hcall hcommitted with hpending | ⟨other, found, hother, hfound⟩
    · cases hpending
      exact .inr ⟨key, result, hkey, AList.lookup_insert _⟩
    · exact .inr ⟨other, found, hother, hkept hfound⟩
  · intro leaseId lease other actionId useIndex hlookup hstate hreservation
    rcases h.released leaseId lease other actionId useIndex hlookup hstate hreservation with
      ⟨_, hpending, hother, haction⟩ | ⟨found, hfound⟩
    · cases hpending
      rw [hkey] at hother
      cases hother
      exact .inr ⟨result, haction ▸ AList.lookup_insert _⟩
    · exact .inr ⟨found, hkept hfound⟩

/-! ## Moves -/

/-- What is known of a call for `p` at each stage of its progress. -/
def CallSettled (config : RuntimeConfig P) (p : ActionProposal P)
    (k : UniversalKernelRuntime P) : Progress P → Prop
  | .started | .returned _ => Settled config none k
  | .fresh => Settled config none k ∧ Uncompleted k p
  | .checked _ | .authorized _ =>
    Settled config none k ∧ Uncompleted k p ∧ Standing config k.leases p
  | .reserved _ | .unread _ | .applied _ _ =>
    Settled config none k ∧ Uncompleted k p ∧ Standing config k.leases p ∧
      HoldsUse k.leases p
  | .committed _ _ | .finalized _ _ =>
    Settled config (some p) k ∧ Uncompleted k p ∧ HoldsUse k.leases p

theorem Settled.quiet (h : Settled config pending k) (hquiet : Quiet k k') :
    Settled config pending k' :=
  h.congr hquiet.leases hquiet.completed (by rw [hquiet.history]) (by rw [hquiet.history])

theorem Uncompleted.quiet (h : Uncompleted k p) (hquiet : Quiet k k') :
    Uncompleted k' p := by
  rw [Uncompleted, hquiet.completed]
  exact h

theorem CallSettled.quiet {progress : Progress P} (h : CallSettled config p k progress)
    (hquiet : Quiet k k') : CallSettled config p k' progress := by
  have hleases := hquiet.leases
  cases progress with
  | started | returned => exact Settled.quiet h hquiet
  | fresh => exact ⟨h.1.quiet hquiet, h.2.quiet hquiet⟩
  | checked | authorized =>
    exact ⟨h.1.quiet hquiet, h.2.1.quiet hquiet, hleases ▸ h.2.2⟩
  | reserved | unread | applied =>
    exact ⟨h.1.quiet hquiet, h.2.1.quiet hquiet, hleases ▸ h.2.2.1, hleases ▸ h.2.2.2⟩
  | committed | finalized =>
    exact ⟨h.1.quiet hquiet, h.2.1.quiet hquiet, hleases ▸ h.2.2⟩

theorem CallSettled.settled {progress : Progress P} (h : CallSettled config p k progress)
    (hprogress : ¬ progress.Settling) : Settled config none k := by
  cases progress with
  | started | returned => exact h
  | fresh | checked | authorized | reserved | unread | applied => exact h.1
  | committed | finalized => exact absurd trivial hprogress

theorem standing_of_check {env : StepEnv P} {result : GovernanceResult P}
    (hchecks : config.governance.authorizeChecks k.leases env.clock p = .ok result)
    (hallow : result.decision = .allow) : Standing config k.leases p := by
  obtain ⟨hclears, hcontract, hlease⟩ := authorizeChecks_allow hchecks hallow
  obtain ⟨leaseId, lease, hleaseId, hlookup, -, -, -, -, hbinds, -⟩ :=
    AuthorityLeaseManager.validateProposal_fst_iff.mp hlease
  exact ⟨hclears, ⟨_, hcontract⟩, leaseId, lease, hleaseId, hlookup, hbinds⟩

theorem reserveUse_settled {env : StepEnv P} {envelope : AuthorizedActionEnvelope P}
    {leases : AuthorityLeaseManager} {reason : String} {useIndex : ℕ}
    (h : Settled config none k) (hof : EnvelopeOf p envelope)
    (hreserve : k.leases.reserveUse (env.clock 0) (env.clock 1) envelope =
      (leases, .ok (reason, useIndex))) :
    Settled config none { k with leases := leases } ∧ HoldsUse leases p := by
  rcases AuthorityLeaseManager.reserveUse_cases hreserve with
    ⟨-, _, hanswer⟩ | ⟨lease, hlookup, hcovers, ⟨rfl, index, -, hreservation⟩ |
      ⟨rfl, -, hnew, huses⟩⟩
  · cases hanswer
  · rw [hof.actionId] at hreservation
    exact ⟨h, _, _, index, hof.leaseId, hof.idempotencyKey, hreservation⟩
  · refine ⟨h.leaseMove (.of_reserveUse hreserve) ?_, envelope.leaseId,
      envelope.idempotencyKey, lease.usesConsumed + 1, hof.leaseId, hof.idempotencyKey, ?_⟩
    · intro leaseId found key reserved hfound hstate hreservation
      rw [AuthorityLeaseManager.recordUse, Dict.lookup_insert_eq] at hfound
      split at hfound
      · cases hfound
        cases hstate
      · rename_i hother
        rw [AuthorityLeaseManager.recordUse_reservation, if_neg (fun h => hother h.1)]
          at hreservation
        exact ⟨found, hfound, hstate, hreservation⟩
    · rw [AuthorityLeaseManager.recordUse_reservation, if_pos ⟨rfl, rfl⟩, hof.actionId]

variable [DecidableEq P] {env : StepEnv P} {progress progress' : Progress P}

theorem CallSettled.move (h : CallSettled config p k progress)
    (henvelope : ∀ envelope ∈ progress.envelope?, EnvelopeOf p envelope)
    (hfaultless : progress.Settling → env.Faultless)
    (hmove : Move config p env k progress k' progress') : CallSettled config p k' progress' := by
  cases hmove with
  | quiet hquiet => exact h.quiet hquiet
  | refuse hquiet hreport hfault =>
    have hprogress : ¬ progress.Settling :=
      fun hsettling => hfault hsettling (hfaultless hsettling)
    exact (h.settled hprogress).quiet hquiet
  | replay => exact h
  | miss hfresh => exact ⟨h, hfresh⟩
  | check hchecks hallow => exact ⟨h.1, h.2, standing_of_check hchecks hallow⟩
  | assemble => exact h
  | reserve hreserve =>
    obtain ⟨hsettled, hfresh, hstanding⟩ := h
    have hreserved := reserveUse_settled hsettled (henvelope _ rfl) hreserve
    exact ⟨hreserved.1, hfresh, hstanding.leaseMove (.of_reserveUse hreserve), hreserved.2⟩
  | replayEffect => exact h
  | mutateFailed => exact h.1.called env _ _ nofun
  | mutateUnread hguard huncached hnext hresolved =>
    rename_i envelope mutationId
    obtain ⟨hsettled, hfresh, hstanding, huse⟩ := h
    obtain ⟨adapter, hadapter⟩ := hresolved
    have hcalled := hsettled.called env envelope (.ok mutationId)
      fun _ => ⟨hstanding, huse, _, adapter, henvelope _ rfl, hadapter⟩
    rcases hnext with rfl | ⟨outcome, rfl, -⟩
    · exact ⟨hcalled, hfresh, hstanding, huse⟩
    · exact hcalled
  | mutate hguard huncached hresolved =>
    rename_i envelope mutationId readback
    obtain ⟨hsettled, hfresh, hstanding, huse⟩ := h
    obtain ⟨adapter, hadapter⟩ := hresolved
    have hcalled := hsettled.called env envelope (.ok mutationId)
      fun _ => ⟨hstanding, huse, _, adapter, henvelope _ rfl, hadapter⟩
    exact ⟨hcalled.congr rfl rfl rfl rfl, hfresh, hstanding, huse⟩
  | recover => exact h.1.congr rfl rfl rfl rfl
  | commitFailed _ _ hwrite => exact h.1.commitFailed hwrite
  | commit _ _ hwrite =>
    obtain ⟨hsettled, hfresh, hstanding, huse⟩ := h
    exact ⟨hsettled.commit hfresh hwrite, hfresh, huse⟩
  | finalizeFailed hfinalize =>
    obtain ⟨hsettled, -, huse⟩ := h
    exact absurd hfinalize (finalize_ne_error hsettled (henvelope _ rfl).leaseId huse)
  | finalize hfinalize =>
    obtain ⟨hsettled, hfresh, huse⟩ := h
    exact ⟨hsettled.finalize (henvelope _ rfl).leaseId huse hfinalize, hfresh,
      huse.leaseMove (.of_finalize hfinalize) hsettled.metered⟩
  | complete =>
    obtain ⟨hsettled, hfresh, huse⟩ := h
    have hof := henvelope _ rfl
    rw [hof.actionId]
    exact hsettled.complete hfresh hof.idempotencyKey ⟨rfl, rfl, rfl⟩

/-! ## Runs -/

/-- No trace append and no lease finalisation fails between the commit of a call and
its end. -/
def Unfaulted (answers : Point → StepEnv P) : Prop :=
  ∀ point ∈ [Point.stageState, .finalize, .stageFinalize, .stageClose],
    (answers point).Faultless

instance (answers : Point → StepEnv P) : Decidable (Unfaulted answers) :=
  inferInstanceAs (Decidable (∀ point ∈ [Point.stageState, .finalize, .stageFinalize,
    .stageClose], (answers point).faults = ⟨false, false, false⟩ ∧
      (answers point).finalizeFault = none))

/-- Calls end once they have committed; the run stays with one runtime, and leases
are released by its calls only. -/
def SettlesCleanly : KernelOp P → Prop
  | .execute _ answers => Unfaulted answers
  | .release _ | .finalizeLease _ | .construct _ | .reload _ => False
  | _ => True

instance : DecidablePred (SettlesCleanly (P := P))
  | .execute _ answers => inferInstanceAs (Decidable (Unfaulted answers))
  | .release _ | .finalizeLease _ | .construct _ | .reload _ => isFalse id
  | .issue .. | .revoke _ | .registerCheckpoint .. | .writeState .. | .restoreState _
  | .replaceContext _ | .identity _ => isTrue trivial

theorem Settled.execute (h : Settled config none k) (answers : Point → StepEnv P)
    (hclean : Unfaulted answers) : Settled config none (k.execute config p answers).1 := by
  have hend := execute_induction config p
    (fun k phase => CallSettled config p k phase.progress) answers
    (fun k phase henvelope h => by
      cases phase with
      | stageState | finalize | stageFinalize | stageClose =>
        exact h.move henvelope (fun _ => hclean _ (by simp [Phase.point]))
          (advance_move k _)
      | complete envelope readback =>
        -- the last step reads nothing from its environment
        have hmove : Move config p (answers .stageClose) k
            (Phase.complete envelope readback).progress _ _ :=
          advance_move k (.complete envelope readback)
        exact h.move henvelope (fun _ => hclean _ (by decide)) hmove
      | _ => exact h.move henvelope False.elim (advance_move k _))
    h
  have hreturned : ∃ outcome, (k.execute config p answers).2 = .returned outcome :=
    execute_returned answers k
  obtain ⟨outcome, houtcome⟩ := hreturned
  rw [houtcome] at hend
  exact hend

omit [DecidableEq P] in
theorem Settled.issue (h : Settled config pending k) {now : Time} {lease : AuthorityLease}
    {leases : AuthorityLeaseManager} (hissue : k.leases.issue now lease = .ok leases) :
    Settled config pending { k with leases := leases } := by
  refine h.leaseMove (.of_issue hissue) ?_
  obtain ⟨rfl, -, -, hactive, -⟩ := AuthorityLeaseManager.issue_ok hissue
  intro leaseId found key reserved hfound hstate hreservation
  rw [Dict.lookup_insert_eq] at hfound
  split at hfound
  · cases hfound
    rw [hactive] at hstate
    cases hstate
  · rename_i hother
    rw [AuthorityLeaseManager.issue_reservation, if_neg hother] at hreservation
    exact ⟨found, hfound, hstate, hreservation⟩

omit [DecidableEq P] in
theorem Settled.revoke (h : Settled config pending k) {leaseId : String}
    {leases : AuthorityLeaseManager} (hrevoke : k.leases.revoke leaseId = .ok leases) :
    Settled config pending { k with leases := leases } := by
  refine h.leaseMove (.of_revoke hrevoke) ?_
  obtain ⟨lease, hlookup, rfl⟩ := AuthorityLeaseManager.revoke_ok hrevoke
  intro other found key reserved hfound hstate hreservation
  simp only [AuthorityLeaseManager.setLease, Dict.lookup_insert_eq] at hfound
  split at hfound
  · rename_i hsame
    cases hfound
    exact ⟨lease, hsame ▸ hlookup, hstate, hreservation⟩
  · exact ⟨found, hfound, hstate, hreservation⟩

theorem Settled.operate (h : Settled config none k) {op : KernelOp P}
    (hop : SettlesCleanly op) : Settled config none (k.operate config op) := by
  cases op with
  | execute p answers => exact h.execute answers hop
  | release | finalizeLease | construct | reload => exact hop.elim
  | issue now lease =>
    simp only [UniversalKernelRuntime.operate]
    cases hissue : k.leases.issue now lease with
    | error error => exact h
    | ok leases => exact h.issue hissue
  | revoke leaseId =>
    simp only [UniversalKernelRuntime.operate]
    cases hrevoke : k.leases.revoke leaseId with
    | error error => exact h
    | ok leases => exact h.revoke hrevoke
  | registerCheckpoint recoveryRef checkpoint =>
    simp only [UniversalKernelRuntime.operate]
    split
    · exact h
    · split
      · exact h
      · exact h.congr rfl rfl rfl rfl
  | replaceContext items =>
    simp only [UniversalKernelRuntime.operate]
    split
    · exact h.congr rfl rfl rfl rfl
    · exact h
  | writeState | restoreState | identity => exact h.congr rfl rfl rfl rfl

omit [DecidableEq P] in
theorem fresh_settled (state : StateCore P) (trace : TraceCore) (guard : IdentityKernelGuard)
    (recovery : Option (Checkpoints P)) (contextItems : List ContextItem) :
    Settled config none (fresh state trace guard recovery contextItems) where
  metered := AuthorityLeaseManager.empty_metered
  sound := AuthorityLeaseManager.empty_sound
  effective := by simp [fresh, constructed]
  reports := by simp [fresh, constructed]
  distinct := by simp [fresh, constructed, History.committedKeys]
  recorded := by simp [fresh, constructed]
  released := by simp [fresh, constructed, AuthorityLeaseManager.empty]

theorem run_settled (config : RuntimeConfig P) (state : StateCore P) (trace : TraceCore)
    (guard : IdentityKernelGuard) (recovery : Option (Checkpoints P))
    (contextItems : List ContextItem) {ops : List (KernelOp P)}
    (hops : Admissible (operate config) (fun _ => SettlesCleanly)
      (fresh state trace guard recovery contextItems) ops) :
    Settled config none
      (run (operate config) (fresh state trace guard recovery contextItems) ops) :=
  run_invariant_of_admissible (Settled config none)
    (fun _ _ h hop => Settled.operate h hop) (fresh_settled ..) hops

end UniversalKernelRuntime

end ReisOs.Kernel
