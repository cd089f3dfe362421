import ReisOs.Core.Counting
import ReisOs.Kernel.Calls

/-!
# Lease metering of material effects

The number of completed `adapter.mutate` calls under a lease against the lease's
consumed uses.  A call whose mutation completed but whose readback failed leaves
no entry in the effector's cache, while its reservation stands; retrying it
mutates again under the same reservation.  Every other run is metered.
-/

namespace ReisOs.Kernel

open ReisOs.Core

variable {P : Type}

namespace History

/-- The completed mutations under a lease. -/
def completedUnder (history : History P) (leaseId : String) : List (MutateCall P) :=
  history.mutateCalls.filter fun call =>
    call.completed && call.envelope.leaseId = leaseId

/-- The completed mutations a reservation backs. -/
def completedFor (history : History P) (leaseId key : String) : List (MutateCall P) :=
  history.mutateCalls.filter fun call =>
    call.completed &&
      (call.envelope.leaseId, call.envelope.idempotencyKey) = (leaseId, key)

/-- The reservation keys of the completed mutations. -/
def reservationKeys (history : History P) : List (String × String) :=
  (history.mutateCalls.filter (·.completed)).map fun call =>
    (call.envelope.leaseId, call.envelope.idempotencyKey)

end History

namespace UniversalKernelRuntime

/-- Completed mutations are covered by consumed uses, one for each reservation. -/
structure EffectsMetered (k : UniversalKernelRuntime P) : Prop where
  withinUses : ∀ leaseId lease, k.leases.leases.lookup leaseId = some lease →
    (k.history.completedUnder leaseId).length ≤ lease.usesConsumed ∧
      lease.usesConsumed ≤ lease.maxUses
  onlyUnderLeases : ∀ leaseId, k.leases.leases.lookup leaseId = none →
    k.history.completedUnder leaseId = []
  oncePerReservation : ∀ leaseId key, (k.history.completedFor leaseId key).length ≤ 1

/-- Every completed mutation holds a reservation of its own. -/
structure EffectLedger (k : UniversalKernelRuntime P) : Prop where
  metered : k.leases.Metered
  backed : ∀ call ∈ k.history.mutateCalls, call.completed = true → ∃ useIndex,
    k.leases.reservation call.envelope.leaseId call.envelope.idempotencyKey =
      some (call.envelope.actionId, useIndex)
  distinct : k.history.reservationKeys.Nodup

/-- No completed mutation under the proposal's lease and key is missing from the
effector's cache. -/
def ReadbackHeld (k : UniversalKernelRuntime P) (p : ActionProposal P) : Prop :=
  ∀ call ∈ k.history.mutateCalls, call.completed = true →
    p.leaseId = some call.envelope.leaseId →
    p.idempotencyKey = some call.envelope.idempotencyKey →
    (k.effectorCompleted.lookup call.envelope.idempotencyKey).isSome

namespace EffectLedger

variable {k k' : UniversalKernelRuntime P}

theorem congr (h : EffectLedger k) (hleases : k'.leases = k.leases)
    (hcalls : k'.history.mutateCalls = k.history.mutateCalls) : EffectLedger k' where
  metered := hleases ▸ h.metered
  backed := by
    rw [hleases, hcalls]
    exact h.backed
  distinct := by
    simpa only [History.reservationKeys, hcalls] using h.distinct

theorem leaseMove (h : EffectLedger k)
    (hmove : AuthorityLeaseManager.LeaseMove (P := P) k.leases k'.leases)
    (hcalls : k'.history.mutateCalls = k.history.mutateCalls) : EffectLedger k' where
  metered := hmove.metered h.metered
  backed := by
    intro call hcall hcompleted
    rw [hcalls] at hcall
    obtain ⟨useIndex, hreservation⟩ := h.backed call hcall hcompleted
    exact ⟨useIndex, hmove.reservation_mono h.metered hreservation⟩
  distinct := by
    simpa only [History.reservationKeys, hcalls] using h.distinct

theorem mem_completedUnder {history : History P} {leaseId : String}
    {call : MutateCall P} :
    call ∈ history.completedUnder leaseId ↔
      call ∈ history.mutateCalls ∧ call.completed = true ∧
        call.envelope.leaseId = leaseId := by
  simp [History.completedUnder]

theorem mem_completedFor {history : History P} {leaseId key : String}
    {call : MutateCall P} :
    call ∈ history.completedFor leaseId key ↔
      call ∈ history.mutateCalls ∧ call.completed = true ∧
        (call.envelope.leaseId, call.envelope.idempotencyKey) = (leaseId, key) := by
  simp [History.completedFor]

theorem nodup_keys_of_filter (h : EffectLedger k) (select : MutateCall P → Bool) :
    ((k.history.mutateCalls.filter fun call => call.completed && select call).map
      fun call => (call.envelope.leaseId, call.envelope.idempotencyKey)).Nodup := by
  have hsublist : (k.history.mutateCalls.filter fun call =>
      call.completed && select call).Sublist (k.history.mutateCalls.filter (·.completed)) :=
    List.monotone_filter_right _ fun call hselected =>
      (Bool.and_eq_true_iff.mp hselected).1
  exact h.distinct.sublist (hsublist.map _)

theorem length_completedUnder_le (h : EffectLedger k) {leaseId : String}
    {lease : AuthorityLease} (hlookup : k.leases.leases.lookup leaseId = some lease) :
    (k.history.completedUnder leaseId).length ≤ lease.usesConsumed := by
  let ticket (call : MutateCall P) : ℕ :=
    ((k.leases.reservation leaseId call.envelope.idempotencyKey).map (·.2)).getD 0
  have hticket {call : MutateCall P} (hcall : call ∈ k.history.completedUnder leaseId) :
      ∃ actionId, k.leases.reservation leaseId call.envelope.idempotencyKey =
        some (actionId, ticket call) := by
    obtain ⟨hmem, hcompleted, hlease⟩ := mem_completedUnder.mp hcall
    obtain ⟨useIndex, hreservation⟩ := h.backed call hmem hcompleted
    rw [hlease] at hreservation
    exact ⟨call.envelope.actionId, by simp [ticket, hreservation]⟩
  refine length_le_of_tickets ticket ?_ fun call hcall => ?_
  · refine nodup_map_of_determines (h.nodup_keys_of_filter _) ?_
    intro left hleft right hright hsame
    obtain ⟨_, hl⟩ := hticket hleft
    obtain ⟨_, hr⟩ := hticket hright
    rw [hsame] at hl
    rw [(mem_completedUnder.mp hleft).2.2, (mem_completedUnder.mp hright).2.2,
      h.metered.distinct hl hr]
  · obtain ⟨_, hreservation⟩ := hticket hcall
    obtain ⟨found, hfound, hindex⟩ := h.metered.indexed hreservation
    obtain rfl : found = lease := by simpa [hfound] using hlookup
    exact hindex

theorem effectsMetered (h : EffectLedger k) : EffectsMetered k where
  withinUses _ _ hlookup :=
    ⟨h.length_completedUnder_le hlookup, h.metered.bounded hlookup⟩
  onlyUnderLeases := by
    intro leaseId hlookup
    refine List.eq_nil_iff_forall_not_mem.mpr fun call hcall => ?_
    obtain ⟨hmem, hcompleted, hlease⟩ := mem_completedUnder.mp hcall
    obtain ⟨useIndex, hreservation⟩ := h.backed call hmem hcompleted
    obtain ⟨lease, hfound, -⟩ := h.metered.indexed hreservation
    rw [hlease, hlookup] at hfound
    cases hfound
  oncePerReservation leaseId key :=
    length_le_one_of_label (h.nodup_keys_of_filter _) fun _ hcall =>
      (mem_completedFor.mp hcall).2.2

end EffectLedger

/-! ## Moves -/

variable [DecidableEq P] {config : RuntimeConfig P} {p : ActionProposal P}
  {env : StepEnv P} {k k' : UniversalKernelRuntime P} {progress progress' : Progress P}

theorem EffectLedger.move (h : EffectLedger k)
    (hmove : Move config p env k progress k' progress')
    (henvelope : ∀ envelope ∈ progress.envelope?, EnvelopeOf p envelope)
    (hheld : progress.BeforeEffect → ReadbackHeld k p) : EffectLedger k' := by
  rcases hmove.mutateCalls_cases with
    hcalls | ⟨envelope, outcome, rfl, hguard, huncached, hcalls⟩
  · exact h.leaseMove hmove.leaseMove hcalls
  · obtain ⟨lease, useIndex, -, -, -, hreservation⟩ :=
      AuthorityLeaseManager.materialEffectGuard_eq_ok_iff.mp hguard
    have hof := henvelope envelope rfl
    refine ⟨hmove.leaseMove.metered h.metered, ?_, ?_⟩
    · intro call hcall hcompleted
      have hbefore : ∃ useIndex, k.leases.reservation call.envelope.leaseId
          call.envelope.idempotencyKey = some (call.envelope.actionId, useIndex) := by
        rw [hcalls, List.mem_append, List.mem_singleton] at hcall
        rcases hcall with hcall | rfl
        · exact h.backed call hcall hcompleted
        · exact ⟨useIndex, hreservation⟩
      obtain ⟨index, hindex⟩ := hbefore
      exact ⟨index, hmove.leaseMove.reservation_mono h.metered hindex⟩
    · cases outcome with
      | error error =>
        simpa [History.reservationKeys, hcalls, MutateCall.completed, Except.isOk,
          Except.toBool] using h.distinct
      | ok mutationId =>
        have hkeys : k'.history.reservationKeys = k.history.reservationKeys ++
            [(envelope.leaseId, envelope.idempotencyKey)] := by
          simp [History.reservationKeys, hcalls, MutateCall.completed, Except.isOk,
            Except.toBool]
        rw [hkeys, List.nodup_append]
        refine ⟨h.distinct, List.nodup_singleton _, ?_⟩
        rintro key hkey _ hsame rfl
        -- an earlier completed mutation under the key would be in the cache
        obtain ⟨call, hcall, hkey⟩ := List.mem_map.mp hkey
        obtain ⟨hcall, hcompleted⟩ := List.mem_filter.mp hcall
        rw [List.mem_singleton.mp hsame, Prod.mk.injEq] at hkey
        have hcached := hheld trivial call hcall hcompleted
          (by rw [hof.leaseId, hkey.1]) (by rw [hof.idempotencyKey, hkey.2])
        rw [hkey.2, huncached] at hcached
        cases hcached

/-! ## Runs -/

/-- The call is not the retry of an unread mutation; the run stays with one
runtime. -/
def Rereadable (k : UniversalKernelRuntime P) : KernelOp P → Prop
  | .execute p _ => ReadbackHeld k p
  | .construct _ | .reload _ => False
  | _ => True

instance (k : UniversalKernelRuntime P) (p : ActionProposal P) :
    Decidable (ReadbackHeld k p) :=
  inferInstanceAs (Decidable (∀ call ∈ k.history.mutateCalls, _))

instance (k : UniversalKernelRuntime P) : DecidablePred (Rereadable k)
  | .execute p _ => inferInstanceAs (Decidable (ReadbackHeld k p))
  | .construct _ | .reload _ => isFalse id
  | .issue .. | .revoke _ | .release _ | .finalizeLease _ | .registerCheckpoint ..
  | .writeState .. | .restoreState _ | .replaceContext _ | .identity _ => isTrue trivial

theorem EffectLedger.execute (h : EffectLedger k) (answers : Point → StepEnv P)
    (hheld : ReadbackHeld k p) : EffectLedger (k.execute config p answers).1 := by
  have hcall := execute_invariant config p
    (fun k progress => EffectLedger k ∧ (progress.BeforeEffect → ReadbackHeld k p)) answers
    (fun k phase k' progress' hmove henvelope ⟨hledger, hheld⟩ =>
      ⟨hledger.move hmove henvelope hheld, fun hbefore => by
        obtain ⟨hbefore, hcalls, hcached⟩ := hmove.beforeEffect hbefore
        rw [ReadbackHeld, hcalls, hcached]
        exact hheld hbefore⟩)
    ⟨h, fun _ => hheld⟩
  exact hcall.1

theorem EffectLedger.operate (h : EffectLedger k) {op : KernelOp P}
    (hop : Rereadable k op) : EffectLedger (k.operate config op) := by
  have hleases {answer : Except PyError AuthorityLeaseManager}
      (hmove : ∀ leases, answer = .ok leases →
        AuthorityLeaseManager.LeaseMove (P := P) k.leases leases) :
      EffectLedger (k.leasesAfter answer) := by
    cases answer with
    | error _ => exact h
    | ok leases => exact h.leaseMove (hmove leases rfl) rfl
  cases op with
  | execute p answers => exact h.execute answers hop
  | issue now lease => exact hleases fun _ => .of_issue
  | revoke leaseId => exact hleases fun _ => .of_revoke
  | release leaseId => exact hleases fun _ => .of_release
  | finalizeLease leaseId =>
    refine hleases fun leases hfinalize => ?_
    cases hanswer : k.leases.finalize leaseId with
    | error error => simp [hanswer, Except.map] at hfinalize
    | ok answer =>
      obtain ⟨leases', leaseState⟩ := answer
      simp only [hanswer, Except.map, Except.ok.injEq] at hfinalize
      subst hfinalize
      exact .of_finalize hanswer
  | construct parts | reload parts => exact hop.elim
  | registerCheckpoint recoveryRef checkpoint =>
    simp only [UniversalKernelRuntime.operate]
    split
    · exact h
    · split
      · exact h
      · exact h.congr rfl rfl
  | replaceContext items =>
    simp only [UniversalKernelRuntime.operate]
    split
    · exact h.congr rfl rfl
    · exact h
  | writeState | restoreState | identity => exact h.congr rfl rfl

omit [DecidableEq P] in
theorem fresh_effectLedger (state : StateCore P) (trace : TraceCore)
    (guard : IdentityKernelGuard) (recovery : Option (Checkpoints P))
    (contextItems : List ContextItem) :
    EffectLedger (fresh state trace guard recovery contextItems) where
  metered := AuthorityLeaseManager.empty_metered
  backed := by simp [fresh, constructed]
  distinct := by simp [fresh, constructed, History.reservationKeys]

/-- In a run that never retries a mutation whose readback was lost, completed
mutations stay within consumed uses and no reservation backs two of them. -/
theorem effectsMetered_of_rereadable (config : RuntimeConfig P) (state : StateCore P)
    (trace : TraceCore) (guard : IdentityKernelGuard) (recovery : Option (Checkpoints P))
    (contextItems : List ContextItem) (ops : List (KernelOp P))
    (hops : Admissible (operate config) Rereadable
      (fresh state trace guard recovery contextItems) ops) :
    EffectsMetered
      (run (operate config) (fresh state trace guard recovery contextItems) ops) := by
  have hledger := run_invariant_of_admissible EffectLedger
    (fun _ _ h hop => EffectLedger.operate h hop) (fresh_effectLedger ..) hops
  exact hledger.effectsMetered

theorem effectsMetered_issue_execute_replay :
    EffectsMetered
      (run (operate Fixture.config) Fixture.runtime
        [.issue 100 Fixture.lease, .execute Fixture.proposal Fixture.good,
          .execute Fixture.proposal Fixture.good]) :=
  effectsMetered_of_rereadable Fixture.config .empty .empty (.restart []) none [] _
    (by decide)

/-- The retry after a lost readback: two completed mutations under a lease of one
use, both backed by its only reservation. -/
theorem unread_retry_mutates_twice :
    let k := run (operate Fixture.config) Fixture.runtime
      [.issue 100 Fixture.lease, .execute Fixture.proposal Fixture.unread,
        .execute Fixture.proposal Fixture.good]
    (k.history.completedUnder "lease-1").length = 2 ∧
      (k.leases.leases.lookup "lease-1").map (fun lease =>
        (lease.usesConsumed, lease.maxUses)) = some (1, 1) ∧
      (k.history.completedFor "lease-1" "key-1").length = 2 ∧ ¬ EffectsMetered k := by
  refine ⟨by decide, by decide, by decide, fun h => ?_⟩
  exact absurd (h.oncePerReservation "lease-1" "key-1") (by decide)

end UniversalKernelRuntime

end ReisOs.Kernel
