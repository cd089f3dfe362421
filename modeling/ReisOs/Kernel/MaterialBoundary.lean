import Mathlib.Data.List.Induction
import ReisOs.Kernel.Calls

/-!
# Authority at the material boundary

Any number of calls of `execute` in progress, interleaved step by step with each
other and with the methods of the lease manager.  Authorization, reservation and
effect are separate steps, so the lease may have changed in between; the step that
calls `adapter.mutate` checks it again under the manager's lock.
-/

namespace ReisOs.Kernel

open ReisOs.Core

variable {P : Type}

/-- A runtime with its calls in progress. -/
structure Interleaving (P : Type) where
  runtime : UniversalKernelRuntime P
  calls : ℕ → Option (ActionProposal P × Phase P)

inductive InterleavedAction (P : Type) where
  /-- A thread calls `execute`; its earlier call is over or abandoned. -/
  | begin (thread : ℕ) (p : ActionProposal P)
  | step (thread : ℕ) (env : StepEnv P)
  | issue (now : Time) (lease : AuthorityLease)
  | revoke (leaseId : String)
  | release (leaseId : String)
  | finalizeLease (leaseId : String)

/-- The authority a call of `adapter.mutate` has at its instant. -/
def MutateCall.Authorized (call : MutateCall P) : Prop :=
  ∃ lease useIndex,
    call.leases.leases.lookup call.envelope.leaseId = some lease ∧
      lease.Covers call.now call.later call.envelope ∧
      call.envelope.leaseUseIndex = some useIndex ∧
      call.leases.reservation call.envelope.leaseId call.envelope.idempotencyKey =
        some (call.envelope.actionId, useIndex)

namespace Interleaving

/-- Every thread idle. -/
def idle (runtime : UniversalKernelRuntime P) : Interleaving P := ⟨runtime, fun _ => none⟩

theorem leasesAfter_history (k : UniversalKernelRuntime P)
    (answer : Except PyError AuthorityLeaseManager) :
    (k.leasesAfter answer).history = k.history := by
  cases answer <;> rfl

variable [DecidableEq P] {config : RuntimeConfig P}

def act (config : RuntimeConfig P) (system : Interleaving P) :
    InterleavedAction P → Interleaving P
  | .begin thread p =>
    { system with
      calls := Function.update system.calls thread (some (p, .identityPreAction)) }
  | .step thread env =>
    match system.calls thread with
    | none => system
    | some (p, phase) =>
      match system.runtime.advance config p env phase with
      | (runtime, phase) =>
        { runtime := runtime
          calls := Function.update system.calls thread (some (p, phase)) }
  | .issue now lease =>
    { system with
      runtime := system.runtime.leasesAfter (system.runtime.leases.issue now lease) }
  | .revoke leaseId =>
    { system with
      runtime := system.runtime.leasesAfter (system.runtime.leases.revoke leaseId) }
  | .release leaseId =>
    { system with
      runtime := system.runtime.leasesAfter (system.runtime.leases.release leaseId) }
  | .finalizeLease leaseId =>
    { system with
      runtime := system.runtime.leasesAfter
        ((system.runtime.leases.finalize leaseId).map (·.1)) }

/-- An action adds at most one call of the adapter: the one its thread makes, under
the lease manager and the clock of that very step. -/
theorem act_mutateCalls (system : Interleaving P) (action : InterleavedAction P)
    {call : MutateCall P}
    (hnew : call ∈ (act config system action).runtime.history.mutateCalls)
    (hold : call ∉ system.runtime.history.mutateCalls) :
    call.Authorized ∧ call.leases = system.runtime.leases ∧
      ∃ thread env, action = .step thread env ∧ call.now = env.clock 0 ∧
        call.later = env.clock 1 := by
  cases action with
  | begin => exact absurd hnew hold
  | issue | revoke | release | finalizeLease =>
    simp only [act, leasesAfter_history] at hnew
    exact absurd hnew hold
  | step thread env =>
    simp only [act] at hnew
    split at hnew
    · exact absurd hnew hold
    · rename_i p phase hcall
      have hmove : UniversalKernelRuntime.Move config p env system.runtime phase.progress
          _ _ := UniversalKernelRuntime.advance_move system.runtime phase
      rcases hmove.mutateCalls_cases with
        hsame | ⟨envelope, outcome, -, hguard, -, hcalls⟩
      · rw [hsame] at hnew
        exact absurd hnew hold
      · rw [hcalls, List.mem_append, List.mem_singleton] at hnew
        obtain rfl := hnew.resolve_left hold
        exact ⟨AuthorityLeaseManager.materialEffectGuard_eq_ok_iff.mp hguard, rfl,
          thread, env, rfl, rfl, rfl⟩

/-- Two threads, one lease of two uses: the second thread's lease is revoked after
its reservation, and only the first thread mutates. -/
def revokedRun : List (InterleavedAction ℕ) :=
  [.issue 100 { Fixture.lease with maxUses := 2 }, .begin 0 Fixture.proposal,
      .begin 1 { Fixture.proposal with
        actionId := "action-2", idempotencyKey := some "key-2" }] ++
    List.replicate 15 (.step 0 (Fixture.good .materialEffect)) ++
    List.replicate 9 (.step 1 (Fixture.good .materialEffect)) ++
    .revoke "lease-1" :: List.replicate 9 (.step 1 (Fixture.good .materialEffect))

end Interleaving

end ReisOs.Kernel
