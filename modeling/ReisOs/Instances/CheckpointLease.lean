import ReisOs.Instances.PrepareReplay
import ReisOs.Kernel.Agreement
import ReisOs.Kernel.LeaseLedger

/-!
# The lease of a checkpoint

`checkpoint` validates its lease against the request and then reserves a use of it through
an envelope that was, by its own account, issued when the binding was created.  The two
checks agree on everything but the time.
-/

namespace ReisOs.Instances

open ReisOs.Core ReisOs.Kernel World Script

variable {S : Type} {world validated after : World S} {request : PrepareInstanceRequest}
  {profile : OCSProfile} {binding : InstanceBinding} {lease : AuthorityLease}
  {actionType actionId idempotencyKey : String} {now later : Time}

theorem validatedLease_checked
    (h : (validatedLease request profile actionType : Service S AuthorityLease).exec world =
      (validated, .ok lease)) :
    (world.leases.validateBasic (world.clock 0) (some request.leaseId) request.ocsId
        request.capability).1 = true ∧
      leaseFailure request profile actionType lease = none := by
  unfold validatedLease at h
  rw [exec_tick_bind, exec_read_bind] at h
  obtain ⟨hvalid, h⟩ := raiseIf_bind_ok h
  obtain ⟨middle, found, hfound, h⟩ := exec_bind_eq_ok h
  split at h
  · cases h
  · rename_i hchecked
    cases h
    exact ⟨by simpa using hvalid, hchecked⟩

/-- An accepted lease covers the envelope of its reservation once it had begun both when
the binding was created and when it is reserved. -/
theorem covers_leaseEnvelope_iff
    (h : (validatedLease request profile actionType : Service S AuthorityLease).exec world =
      (validated, .ok lease))
    (hnow : now < lease.expiresAt) (hlater : later < lease.expiresAt) :
    lease.Covers now later
        (leaseEnvelope request profile lease binding actionType actionId idempotencyKey) ↔
      lease.notBefore ≤ binding.createdAt ∧ lease.notBefore ≤ now := by
  constructor
  · intro hcovers
    exact ⟨hcovers.issuedInWindow, hcovers.started⟩
  · rintro ⟨hcreated, hstarted⟩
    obtain ⟨hbasic, hchecked⟩ := validatedLease_checked h
    obtain ⟨-, hlookup⟩ := validatedLease_ok h
    obtain ⟨found, hfound, hrevoked, hreleased, -, -, hocs, hcapability⟩ :=
      (AuthorityLeaseManager.validateBasic_fst_iff _ _ _ _ _).mp hbasic
    rw [hlookup, Option.some.injEq] at hfound
    rw [← hfound] at hrevoked hreleased hocs hcapability
    have hchecks := firstFailure_eq_none_iff.mp hchecked
    simp only [List.forall_mem_cons, bne_eq_false_iff_eq, Bool.not_eq_false',
      decide_eq_true_eq] at hchecks
    obtain ⟨hactor, hcontext, hpolicy, htrace, htenant, hobject, haction, hscope, -, -, -⟩ :=
      hchecks
    exact ⟨hrevoked, hreleased, hstarted, hnow, hocs, hcapability, hactor.symm, haction.symm,
      hobject.symm, htrace.symm, hcreated, htenant.symm, hcontext.symm, rfl, hpolicy.symm,
      rfl, hscope, le_refl _, hlater, rfl⟩

/-- An unexhausted lease that covers the envelope refuses only a key of another action. -/
theorem reserveUse_ok_iff {manager : AuthorityLeaseManager}
    {envelope : AuthorizedActionEnvelope String}
    (hlookup : manager.leases.lookup envelope.leaseId = some lease)
    (hfree : lease.usesConsumed < lease.maxUses) :
    (∃ use, (manager.reserveUse now later envelope).2 = .ok use) ↔
      lease.Covers now later envelope ∧
        ∀ other useIndex, manager.reservation envelope.leaseId envelope.idempotencyKey =
          some (other, useIndex) → other = envelope.actionId := by
  constructor
  · rintro ⟨use, huse⟩
    have hreserve : manager.reserveUse now later envelope =
        ((manager.reserveUse now later envelope).1, .ok use) := Prod.ext rfl huse
    rcases AuthorityLeaseManager.reserveUse_cases hreserve with
      ⟨-, reason, hrefused⟩ | ⟨found, hfound, hcovers, hheld | hrecorded⟩
    · cases hrefused
    · rw [hlookup, Option.some.injEq] at hfound
      obtain ⟨-, useIndex, -, hreservation⟩ := hheld
      refine ⟨hfound ▸ hcovers, fun other index hother => ?_⟩
      rw [hreservation] at hother
      cases hother
      rfl
    · rw [hlookup, Option.some.injEq] at hfound
      obtain ⟨-, -, hnew, -⟩ := hrecorded
      refine ⟨hfound ▸ hcovers, fun other index hother => ?_⟩
      rw [hnew] at hother
      cases hother
  · rintro ⟨hcovers, hkey⟩
    rcases AuthorityLeaseManager.reserveUse_covered hlookup hcovers with
      huse | ⟨-, hexhausted⟩ | ⟨-, other, useIndex, hheld, hother⟩
    · exact huse
    · exact absurd hfree (Nat.not_lt.mpr hexhausted)
    · exact absurd (hkey other useIndex hheld) hother

theorem reserveActionLease_ok_iff :
    (∃ after, (reserveActionLease request profile lease binding actionType actionId
        idempotencyKey : Service S Unit).exec world = (after, .ok ())) ↔
      ∃ use, (world.leases.reserveUse (world.clock 0) (world.clock 1)
        (leaseEnvelope request profile lease binding actionType actionId
          idempotencyKey)).2 = .ok use := by
  constructor
  · rintro ⟨after, hok⟩
    obtain ⟨leases, use, hreserve, -⟩ := reserveActionLease_ok hok
    exact ⟨use, by rw [hreserve]⟩
  · rintro ⟨use, huse⟩
    exact ⟨_, exec_reserveActionLease (Prod.ext rfl huse)⟩

/-- The action id of a binding's next checkpoint. -/
def checkpointAction (binding : InstanceBinding) : String :=
  s!"checkpoint:{binding.bindingId}:{binding.checkpointVersion + 1}"

/-- A lease that `checkpoint` has accepted, with a use left and still in its window, is
reserved exactly if it had begun when the binding was created and when it is reserved, and
no other action holds its key. -/
theorem checkpoint_reserves_iff {hmac : SnapshotMac} {steps : List (LedgerStep String)}
    {call : CheckpointCall S}
    (hreachable : world.leases = (run (LeaseLedger.step hmac) .empty steps).manager)
    (hvalid : (validatedLease call.authority profile "ocs_instance_checkpoint").exec world =
      (validated, .ok lease))
    (hnow : validated.clock 0 < lease.expiresAt)
    (hlater : validated.clock 1 < lease.expiresAt)
    (hfree : lease.usesConsumed < lease.maxUses) :
    (∃ after, (reserveActionLease call.authority profile lease binding
        "ocs_instance_checkpoint" (checkpointAction binding) call.idempotencyKey).exec
          validated = (after, .ok ())) ↔
      lease.notBefore ≤ binding.createdAt ∧ lease.notBefore ≤ validated.clock 0 ∧
        ∀ other useIndex, validated.leases.reservation lease.leaseId call.idempotencyKey =
          some (other, useIndex) → other = checkpointAction binding := by
  have hnamed : world.leases.Named := by
    rw [hreachable]
    exact (LeaseLedger.run_accounted hmac steps).manager.named
  obtain ⟨hafter, hlookup⟩ := validatedLease_ok hvalid
  have hfound : validated.leases.leases.lookup lease.leaseId = some lease := by
    rw [hafter, hnamed hlookup]
    exact hlookup
  rw [reserveActionLease_ok_iff, reserveUse_ok_iff hfound hfree,
    covers_leaseEnvelope_iff hvalid hnow hlater, and_assoc]
  rfl

/-! ## A lease issued after the binding -/

/-- A lease for the checkpoints of the small deployment, beginning at time 30. -/
def sofiaCheckpointLease : AuthorityLease :=
  { sofiaLease "lease:checkpoint" "ocs_instance_checkpoint" 1 100 with
    issuedAt := 30, notBefore := 30 }

/-- The first instance is bound and active before the lease is issued. -/
def sofiaLateLease : List (Happening ℕ) :=
  sofiaStart ++
    [.call (.prepare sofiaFirst), .call (.attach sofiaAttach),
      .call (.acknowledge sofiaAck 3), .issue 40 sofiaCheckpointLease,
      .clock fun index => 40 + index]

def sofiaCheckpoint : CheckpointCall ℕ :=
  { bindingId := sofiaBinding
    authority := sofiaRequest "lease:checkpoint" "key:checkpoint" none
    platformInstanceId := "worker", generation := 1, expectedVersion := 4, state := 7
    idempotencyKey := "key:checkpoint" }

/-- The issue of the checkpoint lease to an empty manager. -/
def sofiaIssue : List (LedgerStep String) := [.command (.issue 40 sofiaCheckpointLease)]

/-- The prepared deployment under a manager that holds the checkpoint lease only. -/
def sofiaIssued : World ℕ :=
  { sofiaPrepared with
    leases := (run (LeaseLedger.step Fixture.hmac) .empty sofiaIssue).manager
    clock := fun index => 40 + index }

theorem checkpoint_reserves_sofia :
    ∃ binding validated, sofiaPrepared.store.row sofiaBinding = some binding ∧
      (validatedLease sofiaCheckpoint.authority sofia "ocs_instance_checkpoint").exec
        sofiaIssued = (validated, .ok sofiaCheckpointLease) ∧
      ((∃ after, (reserveActionLease sofiaCheckpoint.authority sofia sofiaCheckpointLease
          binding "ocs_instance_checkpoint" (checkpointAction binding)
          sofiaCheckpoint.idempotencyKey).exec validated = (after, .ok ())) ↔
        sofiaCheckpointLease.notBefore ≤ binding.createdAt ∧
          sofiaCheckpointLease.notBefore ≤ validated.clock 0 ∧
          ∀ other useIndex, validated.leases.reservation sofiaCheckpointLease.leaseId
            sofiaCheckpoint.idempotencyKey = some (other, useIndex) →
              other = checkpointAction binding) := by
  obtain ⟨binding, hrow⟩ : ∃ binding, sofiaPrepared.store.row sofiaBinding = some binding :=
    Option.isSome_iff_exists.mp (by decide +kernel)
  obtain ⟨validated, hvalid⟩ : ∃ validated, (validatedLease sofiaCheckpoint.authority sofia
      "ocs_instance_checkpoint").exec sofiaIssued =
        (validated, .ok sofiaCheckpointLease) := ⟨_, Prod.ext rfl (by decide +kernel)⟩
  obtain ⟨hclock, -⟩ := validatedLease_ok hvalid
  have hnow : validated.clock 0 < sofiaCheckpointLease.expiresAt := by rw [hclock]; decide
  have hlater : validated.clock 1 < sofiaCheckpointLease.expiresAt := by rw [hclock]; decide
  exact ⟨binding, validated, hrow, hvalid,
    checkpoint_reserves_iff rfl hvalid hnow hlater (by decide)⟩

/-- A lease issued after the binding was created passes the validation of `checkpoint` and
is refused by its reservation. -/
theorem late_lease_not_reserved :
    (∃ validated, (validatedLease sofiaCheckpoint.authority sofia
        "ocs_instance_checkpoint").exec
          (reachedAlone sofiaConfig plainFolding sofiaLateLease) =
        (validated, .ok sofiaCheckpointLease)) ∧
      ((checkpoint sofiaConfig sofiaCheckpoint).exec
        (reachedAlone sofiaConfig plainFolding sofiaLateLease)).2 =
          .error (.binding "lease_not_before") := by
  refine ⟨⟨_, Prod.ext rfl ?_⟩, ?_⟩ <;> decide +kernel

end ReisOs.Instances
