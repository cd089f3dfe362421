import ReisOs.Kernel.Grants

/-!
# Three validators of one envelope

Authorization builds an envelope from a proposal and a lease, the lease manager checks it
again before it reserves a use, and the broker checks it once more before the effect.
The three are separate code: how far they agree is proved here.
-/

namespace ReisOs.Kernel

open ReisOs.Core GovernanceEngine

variable {P : Type}

namespace AuthorityLeaseManager

variable {manager leases : AuthorityLeaseManager} {now later : Time}
  {envelope : AuthorizedActionEnvelope P} {lease : AuthorityLease}

/-- A covered envelope is refused a use for two reasons at most. -/
theorem reserveUse_covered (hlookup : manager.leases.lookup envelope.leaseId = some lease)
    (hcovers : lease.Covers now later envelope) :
    (∃ use, (manager.reserveUse now later envelope).2 = .ok use) ∨
      ((manager.reserveUse now later envelope).2 = .error "lease_max_uses_exhausted" ∧
        lease.maxUses ≤ lease.usesConsumed) ∨
      ((manager.reserveUse now later envelope).2 = .error "idempotency_conflict" ∧
        ∃ actionId useIndex, manager.reservation envelope.leaseId envelope.idempotencyKey =
          some (actionId, useIndex) ∧ actionId ≠ envelope.actionId) := by
  have huse := validateUse_eq_ok_iff.mpr ⟨hlookup, hcovers⟩
  unfold reserveUse
  rw [huse]
  dsimp only
  cases hreservation : manager.reservation envelope.leaseId envelope.idempotencyKey with
  | some reserved =>
    dsimp only
    by_cases haction : reserved.1 = envelope.actionId
    · rw [if_neg (not_not.mpr haction)]
      exact .inl ⟨_, rfl⟩
    · rw [if_pos haction]
      exact .inr (.inr ⟨rfl, reserved.1, reserved.2, rfl, haction⟩)
  | none =>
    dsimp only
    by_cases hexhausted : lease.maxUses ≤ lease.usesConsumed
    · rw [if_pos hexhausted]
      exact .inr (.inl ⟨rfl, hexhausted⟩)
    · rw [if_neg hexhausted]
      exact .inl ⟨_, rfl⟩

end AuthorityLeaseManager

/-! ## Authorization and reservation -/

section Agreement

variable {engine : GovernanceEngine} {manager leases : AuthorityLeaseManager}
  {clock : ℕ → Time} {p : ActionProposal P} {result : GovernanceResult P}
  {envelope : AuthorizedActionEnvelope P} {now later : Time}

/-- What stands behind an envelope that `authorize` has built. -/
structure Authorized (manager : AuthorityLeaseManager) (clock : ℕ → Time)
    (p : ActionProposal P) (envelope : AuthorizedActionEnvelope P)
    (lease : AuthorityLease) : Prop where
  found : manager.leases.lookup envelope.leaseId = some lease
  built : EnvelopeOf p envelope
  maxUses : envelope.maxUses = lease.maxUses
  binds : lease.Binds p
  notRevoked : lease.revoked = false
  notReleased : lease.state ≠ .released
  contract : (validateEnvelopeContract (clock 0) p).1 = true
  issued : envelope.issuedAt ≤ clock 0
  unexpired : clock 2 < envelope.expiresAt

theorem authorize_allow (h : engine.authorize manager clock p = .ok result)
    (hallow : result.decision = .allow) :
    ∃ envelope lease, result.envelope = some envelope ∧
      Authorized manager clock p envelope lease := by
  unfold authorize at h
  cases hchecks : engine.authorizeChecks manager clock p with
  | error error =>
    rw [hchecks] at h
    cases h
  | ok checked =>
    rw [hchecks] at h
    dsimp only at h
    cases hdecision : checked.decision with
    | deny | hold =>
      rw [hdecision] at h
      cases h
      rw [hdecision] at hallow
      cases hallow
    | allow =>
      rw [hdecision] at h
      obtain ⟨-, hcontract, hlease⟩ := authorizeChecks_allow hchecks hdecision
      obtain ⟨leaseId, lease, hleaseId, hlookup, hrevoked, hreleased, -, -, hbinds, -,
        expiresAt, hexpires, hlater⟩ :=
        AuthorityLeaseManager.validateProposal_fst_iff.mp hlease
      obtain ⟨-, issuedAt, -, hissuedAt, -, hissued, -⟩ :=
        validateEnvelopeContract_ok hcontract
      obtain ⟨envelope, hbuild, hmaxUses⟩ :=
        buildEnvelope_of_contract hcontract hleaseId lease.maxUses
      have hbuilt : EnvelopeOf p envelope := .of_build hbuild
      have hid : leaseId = envelope.leaseId :=
        Option.some.inj (hleaseId.symm.trans hbuilt.leaseId)
      have hstart : issuedAt = envelope.issuedAt :=
        Option.some.inj (hissuedAt.symm.trans hbuilt.issuedAt)
      have hend : expiresAt = envelope.expiresAt :=
        Option.some.inj (hexpires.symm.trans hbuilt.expiresAt)
      simp only [assembleEnvelope, hleaseId, Option.bind_some, hlookup,
        hbuild, Except.ok.injEq] at h
      refine ⟨envelope, lease, by rw [← h], ?_⟩
      exact ⟨hid ▸ hlookup, hbuilt, hmaxUses, hbinds, hrevoked, hreleased, hcontract,
        hstart ▸ hissued, hend ▸ hlater⟩

theorem Authorized.covers {lease : AuthorityLease}
    (h : Authorized manager (fun _ => now) p envelope lease) :
    lease.Covers now now envelope :=
  h.binds.covers h.built h.notRevoked h.notReleased h.issued h.unexpired h.maxUses

/-- At the instant of its authorization an envelope can be refused a use because the lease
is exhausted or because its key is another action's, and for no other reason. -/
theorem reserveUse_of_authorize
    (h : engine.authorize manager (fun _ => now) p = .ok result)
    (hallow : result.decision = .allow) :
    ∃ envelope lease, result.envelope = some envelope ∧
      manager.leases.lookup envelope.leaseId = some lease ∧
      ((∃ use, (manager.reserveUse now now envelope).2 = .ok use) ∨
        ((manager.reserveUse now now envelope).2 = .error "lease_max_uses_exhausted" ∧
          lease.maxUses ≤ lease.usesConsumed) ∨
        ((manager.reserveUse now now envelope).2 = .error "idempotency_conflict" ∧
          ∃ actionId useIndex,
            manager.reservation envelope.leaseId envelope.idempotencyKey =
              some (actionId, useIndex) ∧ actionId ≠ envelope.actionId)) := by
  obtain ⟨envelope, lease, henvelope, hauthorized⟩ := authorize_allow h hallow
  exact ⟨envelope, lease, henvelope, hauthorized.found,
    AuthorityLeaseManager.reserveUse_covered hauthorized.found hauthorized.covers⟩

/-! ## The effect boundary -/

theorem validateEnvelopeContract_authority
    (h : (validateEnvelopeContract now p).1 = true) (hbuilt : EnvelopeOf p envelope) :
    envelope.authorityRef ≠ "" := by
  unfold validateEnvelopeContract at h
  dsimp only at h
  split at h
  · cases h
  · rename_i hcomplete
    simp only [Bool.not_eq_true', List.isEmpty_eq_false_iff, ne_eq, not_not,
      List.filter_eq_nil_iff, List.forall_mem_cons, Bool.not_eq_true, hbuilt.authorityRef]
      at hcomplete
    simpa using hcomplete.2.1

theorem validateEnvelope_eq_none_iff (envelope : AuthorizedActionEnvelope P) :
    ToolBroker.validateEnvelope envelope = none ↔
      envelope.capability ∈ envelope.scope ∧ envelope.validScope = true ∧
        envelope.authorityRef ≠ "" ∧ envelope.leaseUseIndex.isSome = true := by
  simp [ToolBroker.validateEnvelope, firstFailure_eq_none_iff, and_assoc]

theorem resolveFor_eq_ok_iff {broker : ToolBroker} {adapter : AdapterEntry}
    (hadapter : broker.adapters.lookup envelope.capability = some adapter) :
    broker.resolveFor envelope = .ok adapter ↔
      ToolBroker.validateEnvelope envelope = none := by
  unfold ToolBroker.resolveFor
  cases ToolBroker.validateEnvelope envelope with
  | some reason => simp
  | none => simp [hadapter]

theorem reserveAuthority_bound {granted : GovernanceResult P}
    {bound : AuthorizedActionEnvelope P}
    (h : reserveAuthority manager now later envelope = (leases, granted))
    (hbound : granted.envelope = some bound) :
    ∃ useIndex, bound = { envelope with leaseUseIndex := some useIndex } := by
  unfold reserveAuthority at h
  split at h
  · cases h
    cases hbound
  · cases h
    cases hbound
    exact ⟨_, rfl⟩

/-- The broker takes an envelope that was authorized and reserved exactly if the scope of
the proposal names its capability. -/
theorem resolveFor_of_authorize_iff {held : AuthorityLeaseManager}
    {granted : GovernanceResult P} {bound : AuthorizedActionEnvelope P}
    {broker : ToolBroker} {adapter : AdapterEntry}
    (h : engine.authorize manager clock p = .ok result) (hallow : result.decision = .allow)
    (henvelope : result.envelope = some envelope)
    (hreserve : reserveAuthority held now later envelope =
      (leases, granted)) (hbound : granted.envelope = some bound)
    (hadapter : broker.adapters.lookup p.capability = some adapter) :
    broker.resolveFor bound = .ok adapter ↔ p.capability ∈ p.scope := by
  obtain ⟨built, lease, hsame, hauthorized⟩ := authorize_allow h hallow
  rw [henvelope, Option.some.injEq] at hsame
  rw [← hsame] at hauthorized
  obtain ⟨useIndex, hindexed⟩ := reserveAuthority_bound hreserve hbound
  have hbuilt : EnvelopeOf p bound := by
    rw [hindexed]
    exact hauthorized.built.withIndex (some useIndex)
  have hindex : bound.leaseUseIndex.isSome = true := by rw [hindexed]; rfl
  have hauthority := validateEnvelopeContract_authority hauthorized.contract hbuilt
  rw [resolveFor_eq_ok_iff (hbuilt.capability ▸ hadapter), validateEnvelope_eq_none_iff,
    hbuilt.capability, hbuilt.scope]
  exact ⟨And.left, fun hscope => ⟨hscope, hbuilt.validScope, hauthority, hindex⟩⟩

end Agreement

/-! ## In the repository's configuration -/

namespace Fixture

/-- The lease manager after the lease of the repository's tests is issued. -/
def granted : AuthorityLeaseManager :=
  (AuthorityLeaseManager.empty.issue 100 lease).toOption.getD .empty

/-- A proposal whose scope lies in the lease's but does not name its capability. -/
def unscoped : ActionProposal ℕ := { proposal with scope := ["repo.read"] }

/-- What `authorize` answers for a proposal at time 100. -/
def authorized (p : ActionProposal ℕ) : GovernanceResult ℕ :=
  (config.governance.authorize granted (fun _ => 100) p).toOption.getD
    ⟨.deny, "unanswered", none, none⟩

/-- What `reserve_authority` answers for the envelope, at the same time. -/
def reserved (envelope : AuthorizedActionEnvelope ℕ) :
    AuthorityLeaseManager × GovernanceResult ℕ :=
  reserveAuthority granted 100 100 envelope

end Fixture

open Fixture

theorem reserveUse_of_authorize_fixture :
    ∃ envelope lease, (authorized proposal).envelope = some envelope ∧
      granted.leases.lookup envelope.leaseId = some lease ∧
      ((∃ use, (granted.reserveUse 100 100 envelope).2 = .ok use) ∨
        ((granted.reserveUse 100 100 envelope).2 = .error "lease_max_uses_exhausted" ∧
          lease.maxUses ≤ lease.usesConsumed) ∨
        ((granted.reserveUse 100 100 envelope).2 = .error "idempotency_conflict" ∧
          ∃ actionId useIndex,
            granted.reservation envelope.leaseId envelope.idempotencyKey =
              some (actionId, useIndex) ∧ actionId ≠ envelope.actionId)) := by
  have hauthorize : config.governance.authorize granted (fun _ => 100) proposal =
      .ok (authorized proposal) := rfl
  exact reserveUse_of_authorize hauthorize rfl

theorem resolveFor_of_authorize_fixture :
    ∃ envelope bound, (authorized proposal).envelope = some envelope ∧
      (reserved envelope).2.envelope = some bound ∧
      (config.broker.resolveFor bound = .ok ⟨1, true⟩ ↔
        proposal.capability ∈ proposal.scope) := by
  have hauthorize : config.governance.authorize granted (fun _ => 100) proposal =
      .ok (authorized proposal) := rfl
  obtain ⟨envelope, henvelope⟩ :
    ∃ envelope, (authorized proposal).envelope = some envelope := ⟨_, rfl⟩
  obtain ⟨bound, hbound⟩ : ∃ bound, (reserved envelope).2.envelope = some bound := by
    injection henvelope with hsame
    rw [← hsame]
    exact ⟨_, rfl⟩
  have hreserve : reserveAuthority granted 100 100 envelope =
      ((reserved envelope).1, (reserved envelope).2) := rfl
  exact ⟨envelope, bound, henvelope, hbound,
    resolveFor_of_authorize_iff hauthorize rfl henvelope hreserve hbound rfl⟩

/-- A proposal whose scope does not name its capability is authorized and takes a use of
the lease, and then the broker refuses its envelope. -/
theorem unscoped_use_burned :
    ∃ envelope bound, (authorized unscoped).decision = .allow ∧
      (authorized unscoped).envelope = some envelope ∧
      (granted.reserveUse 100 100 envelope).2 = .ok ("lease_use_reserved", 1) ∧
      (reserved envelope).2.envelope = some bound ∧
      config.broker.resolveFor bound =
        .error (.valueError "material_boundary_scope_invalid") :=
  ⟨_, _, rfl, rfl, rfl, rfl, rfl⟩

end ReisOs.Kernel
