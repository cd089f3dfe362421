import ReisOs.Kernel.Grants

/-!
# What an authorization means

`authorize` decides over four components with early returns.  Each component accepts
exactly what its plain statement says, so the decision is `ALLOW` exactly if all of them
hold, and the envelope is the proposal's.
-/

namespace ReisOs.Kernel

open ReisOs.Core

variable {P : Type}

/-! ## The conditions -/

/-- An authentic and passing receipt of somebody else for the object and the policy of
the proposal, under one of its evidence references. -/
def AssuranceReceiptRegistry.Assures (registry : AssuranceReceiptRegistry)
    (p : ActionProposal P) : Prop :=
  ∃ item ∈ p.evidence, ∃ receipt, registry.receipts.lookup item.ref = some receipt ∧
    registry.mac receipt.toAssurancePayload = receipt.mac ∧ receipt.verdictPassed = true ∧
    p.objectRef = some receipt.objectRef ∧ p.policySnapshot = some receipt.policySnapshot ∧
    receipt.assurer ≠ p.ocs ∧ receipt.assurer ≠ p.actor

/-- A lease in force at the two readings of the clock binds the proposal. -/
def AuthorityLeaseManager.Leases (manager : AuthorityLeaseManager) (now later : Time)
    (p : ActionProposal P) : Prop :=
  ∃ leaseId lease, p.leaseId = some leaseId ∧
    manager.leases.lookup leaseId = some lease ∧ lease.revoked = false ∧
    lease.state ≠ .released ∧ lease.notBefore ≤ now ∧ now < lease.expiresAt ∧
    lease.Binds p ∧ p.scope ≠ [] ∧
    ∃ expiresAt, p.expiresAt = some expiresAt ∧ later < expiresAt

/-- The checks on the actor, the capability, the evidence, the assurance and the lease. -/
structure GovernanceEngine.Authorizes (engine : GovernanceEngine)
    (manager : AuthorityLeaseManager) (now later : Time) (p : ActionProposal P) : Prop where
  actor : p.actor = p.ocs
  constitution : ∃ identity, engine.identities.lookup p.ocs = some identity ∧
    p.capability ∈ identity.allowedCapabilities
  registered : p.capability ∈ (engine.capabilities.lookup p.ocs).getD []
  assurers : ∀ item ∈ p.evidence, item.independentAssurer ≠ some p.ocs ∧
    item.independentAssurer ≠ some p.actor
  evidence : p.evidence ≠ [] ∧ ∀ item ∈ p.evidence, item.passed = true
  assured : p.risk = .high → ∃ registry, engine.assurance = some registry ∧
    registry.Assures p
  leased : manager.Leases now later p

/-- A text that is given. -/
def Given (value : Option String) : Prop := ∃ text, value = some text ∧ text ≠ ""

/-- Every field of the envelope is given, and it is not issued in the future or after
its expiry. -/
structure ActionProposal.Complete (p : ActionProposal P) (now : Time) : Prop where
  actionType : Given p.actionType
  authorityRef : Given p.authorityRef
  contextRef : Given p.contextRef
  cspRef : Given p.cspRef
  assessmentRef : Given p.evidenceAssessmentRef
  expectedEffect : Given p.expectedEffect
  idempotencyKey : Given p.idempotencyKey
  objectRef : Given p.objectRef
  policySnapshot : Given p.policySnapshot
  recoveryRef : Given p.recoveryRef
  reversibilityClass : p.reversibilityClass.isSome
  sideEffectClass : p.sideEffectClass.isSome
  tenant : Given p.tenant
  traceId : Given p.traceId
  scope : p.scope ≠ []
  lifetime : ∃ issuedAt expiresAt, p.issuedAt = some issuedAt ∧
    p.expiresAt = some expiresAt ∧ issuedAt ≤ now ∧ issuedAt ≤ expiresAt

/-- The envelope is the proposal, in every field that `authorize` copies, under the meter
of the lease. -/
structure Copies (p : ActionProposal P) (lease : AuthorityLease)
    (envelope : AuthorizedActionEnvelope P) : Prop extends EnvelopeOf p envelope where
  evidenceRefs : envelope.evidenceRefs = p.evidence.map (·.ref)
  cspRef : p.cspRef = some envelope.cspRef
  expectedEffect : p.expectedEffect = some envelope.expectedEffect
  sideEffectClass : p.sideEffectClass = some envelope.sideEffectClass
  reversibilityClass : p.reversibilityClass = some envelope.reversibilityClass
  assessmentRef : p.evidenceAssessmentRef = some envelope.evidenceAssessmentRef
  maxUses : envelope.maxUses = lease.maxUses
  leaseUseIndex : envelope.leaseUseIndex = none

/-! ## Evidence -/

section Evidence

variable {p : ActionProposal P}

theorem validateFor_fst_iff {registry : AssuranceReceiptRegistry} {evidenceRef : String} :
    (registry.validateFor evidenceRef p).1 = true ↔
      ∃ receipt, registry.receipts.lookup evidenceRef = some receipt ∧
        registry.mac receipt.toAssurancePayload = receipt.mac ∧
        receipt.verdictPassed = true ∧ p.objectRef = some receipt.objectRef ∧
        p.policySnapshot = some receipt.policySnapshot ∧ receipt.assurer ≠ p.ocs ∧
        receipt.assurer ≠ p.actor := by
  unfold AssuranceReceiptRegistry.validateFor
  cases hreceipt : registry.receipts.lookup evidenceRef with
  | none => simp
  | some receipt => simp [verdict_fst_iff]

theorem any_validateFor_iff {registry : AssuranceReceiptRegistry} :
    (p.evidence.any fun item => (registry.validateFor item.ref p).1) = true ↔
      registry.Assures p := by
  rw [List.any_eq_true]
  apply exists_congr
  intro item
  rw [validateFor_fst_iff]

theorem assess_contradictions_iff (registry : Option AssuranceReceiptRegistry) :
    (assess registry p).contradictions.isEmpty = true ↔
      ∀ item ∈ p.evidence, item.passed = true := by
  simp [assess]

theorem assess_sufficiency_iff (registry : Option AssuranceReceiptRegistry)
    (hpassed : ∀ item ∈ p.evidence, item.passed = true) :
    (assess registry p).sufficiency = true ↔
      p.evidence ≠ [] ∧
        (p.risk = .high → ∃ found, registry = some found ∧ found.Assures p) := by
  have hfailed : (p.evidence.filter (!·.passed)).map (·.ref) = [] := by
    simpa using hpassed
  by_cases hevidence : p.evidence = []
  · simp [assess, hevidence]
  · by_cases hrisk : p.risk = .high
    · cases registry with
      | none => simp [assess, hevidence, hrisk, hfailed]
      | some found =>
        have hassures := @any_validateFor_iff P p found
        simp [assess, hevidence, hrisk, hfailed, ← hassures]
    · simp [assess, hevidence, hrisk, hfailed]

end Evidence

/-! ## Contract and lease -/

section Contract

variable {p : ActionProposal P} {now later : Time}

theorem not_absent_iff {value : Option String} :
    (decide (value = none) || decide (value = some "")) = false ↔ Given value := by
  cases value with
  | none => simp [Given]
  | some text => simp [Given]

theorem validateEnvelopeContract_fst_iff :
    (validateEnvelopeContract now p).1 = true ↔ p.Complete now := by
  unfold validateEnvelopeContract
  dsimp only
  constructor
  · intro h
    split at h
    · cases h
    rename_i hmissing
    split at h
    · cases h
    rename_i hscope
    simp only [Bool.not_eq_true', List.isEmpty_eq_false_iff, ne_eq, not_not,
      List.filter_eq_nil_iff, List.forall_mem_cons, Bool.not_eq_true, not_absent_iff,
      Option.isNone_eq_false_iff] at hmissing
    obtain ⟨haction, hauthority, hcontext, hcsp, hassessment, heffect, hexpires, hkey,
      hissued, hobject, hpolicy, hrecovery, hreversibility, hside, htenant, htrace, -⟩ :=
      hmissing
    obtain ⟨expiresAt, hexpires⟩ := Option.isSome_iff_exists.mp hexpires
    obtain ⟨issuedAt, hissued⟩ := Option.isSome_iff_exists.mp hissued
    rw [hissued, hexpires] at h
    simp only [verdict_fst_iff, List.forall_mem_cons, decide_eq_false_iff_not, not_lt] at h
    exact ⟨haction, hauthority, hcontext, hcsp, hassessment, heffect, hkey, hobject, hpolicy,
      hrecovery, hreversibility, hside, htenant, htrace, by simpa using hscope,
      issuedAt, expiresAt, hissued, hexpires, h.1, h.2.1⟩
  · intro h
    obtain ⟨issuedAt, expiresAt, hissued, hexpires, hpast, hlifetime⟩ := h.lifetime
    split
    · rename_i hmissing
      apply absurd hmissing
      simp only [Bool.not_eq_true', List.isEmpty_eq_false_iff, ne_eq, not_not,
        List.filter_eq_nil_iff, List.forall_mem_cons, Bool.not_eq_true, not_absent_iff,
        Option.isNone_eq_false_iff]
      exact ⟨h.actionType, h.authorityRef, h.contextRef, h.cspRef, h.assessmentRef,
        h.expectedEffect, by rw [hexpires]; rfl, h.idempotencyKey, by rw [hissued]; rfl,
        h.objectRef, h.policySnapshot, h.recoveryRef, h.reversibilityClass,
        h.sideEffectClass, h.tenant, h.traceId, by simp⟩
    · rw [if_neg (by simpa using h.scope), hissued, hexpires]
      simp only [verdict_fst_iff, List.forall_mem_cons, decide_eq_false_iff_not, not_lt]
      exact ⟨hpast, hlifetime, by simp⟩

theorem Copies.of_build {lease : AuthorityLease} {envelope : AuthorizedActionEnvelope P}
    (h : buildEnvelope p lease.maxUses = some envelope) : Copies p lease envelope := by
  have hof := EnvelopeOf.of_build h
  unfold buildEnvelope at h
  obtain ⟨actionType, -, h⟩ := Option.bind_eq_some_iff.mp h
  obtain ⟨issuedAt, -, h⟩ := Option.bind_eq_some_iff.mp h
  obtain ⟨leaseId, -, h⟩ := Option.bind_eq_some_iff.mp h
  obtain ⟨cspRef, hcsp, h⟩ := Option.bind_eq_some_iff.mp h
  obtain ⟨objectRef, -, h⟩ := Option.bind_eq_some_iff.mp h
  obtain ⟨tenant, -, h⟩ := Option.bind_eq_some_iff.mp h
  obtain ⟨contextRef, -, h⟩ := Option.bind_eq_some_iff.mp h
  obtain ⟨authorityRef, -, h⟩ := Option.bind_eq_some_iff.mp h
  obtain ⟨policySnapshot, -, h⟩ := Option.bind_eq_some_iff.mp h
  obtain ⟨idempotencyKey, -, h⟩ := Option.bind_eq_some_iff.mp h
  obtain ⟨expectedEffect, heffect, h⟩ := Option.bind_eq_some_iff.mp h
  obtain ⟨sideEffect, hside, h⟩ := Option.bind_eq_some_iff.mp h
  obtain ⟨reversibility, hreversibility, h⟩ := Option.bind_eq_some_iff.mp h
  obtain ⟨recoveryRef, -, h⟩ := Option.bind_eq_some_iff.mp h
  obtain ⟨expiresAt, -, h⟩ := Option.bind_eq_some_iff.mp h
  obtain ⟨assessmentRef, hassessment, h⟩ := Option.bind_eq_some_iff.mp h
  obtain ⟨traceId, -, h⟩ := Option.bind_eq_some_iff.mp h
  cases h
  exact ⟨hof, rfl, hcsp, heffect, hside, hreversibility, hassessment, rfl, rfl⟩

end Contract

/-! ## The decision -/

namespace GovernanceEngine

variable {engine : GovernanceEngine} {manager : AuthorityLeaseManager} {clock : ℕ → Time}
  {p : ActionProposal P}

/-- The checks that look at the engine and the proposal only. -/
theorem clears_iff :
    engine.Clears p ↔
      p.actor = p.ocs ∧
        (∃ identity, engine.identities.lookup p.ocs = some identity ∧
          p.capability ∈ identity.allowedCapabilities) ∧
        p.capability ∈ (engine.capabilities.lookup p.ocs).getD [] ∧
        (∀ item ∈ p.evidence, item.independentAssurer ≠ some p.ocs ∧
          item.independentAssurer ≠ some p.actor) ∧
        (p.evidence ≠ [] ∧ ∀ item ∈ p.evidence, item.passed = true) ∧
        (p.risk = .high → ∃ registry, engine.assurance = some registry ∧
          registry.Assures p) := by
  have hassurers : ((p.evidence.any fun item =>
      item.independentAssurer == some p.ocs || item.independentAssurer == some p.actor) =
        false) ↔ ∀ item ∈ p.evidence, item.independentAssurer ≠ some p.ocs ∧
          item.independentAssurer ≠ some p.actor := by
    simp
  constructor
  · intro h
    have hpassed := (assess_contradictions_iff engine.assurance).mp h.contradictions
    have hsufficient := (assess_sufficiency_iff engine.assurance hpassed).mp h.sufficiency
    exact ⟨h.actor, h.identity, h.registered, hassurers.mp h.assurers,
      ⟨hsufficient.1, hpassed⟩, hsufficient.2⟩
  · rintro ⟨hactor, hidentity, hregistered, hothers, ⟨hevidence, hpassed⟩, hassured⟩
    exact
      { identity := hidentity
        actor := hactor
        registered := hregistered
        assurers := hassurers.mpr hothers
        contradictions := (assess_contradictions_iff engine.assurance).mpr hpassed
        sufficiency :=
          (assess_sufficiency_iff engine.assurance hpassed).mpr ⟨hevidence, hassured⟩ }

theorem authorizes_iff {now later : Time} :
    engine.Authorizes manager now later p ↔
      engine.Clears p ∧ (manager.validateProposal now later p).1 = true := by
  rw [clears_iff, AuthorityLeaseManager.validateProposal_fst_iff]
  constructor
  · intro h
    exact ⟨⟨h.actor, h.constitution, h.registered, h.assurers, h.evidence, h.assured⟩,
      h.leased⟩
  · rintro ⟨⟨hactor, hconstitution, hregistered, hassurers, hevidence, hassured⟩, hleased⟩
    exact ⟨hactor, hconstitution, hregistered, hassurers, hevidence, hassured, hleased⟩

/-- An `ALLOW` has passed the checks, and comes with the envelope of the lease found. -/
theorem authorize_allowed {result : GovernanceResult P}
    (h : engine.authorize manager clock p = .ok result) (hallow : result.decision = .allow) :
    engine.Clears p ∧ (validateEnvelopeContract (clock 0) p).1 = true ∧
      (manager.validateProposal (clock 1) (clock 2) p).1 = true ∧
      ∃ leaseId lease, p.leaseId = some leaseId ∧
        manager.leases.lookup leaseId = some lease ∧
        result.envelope = buildEnvelope p lease.maxUses := by
  unfold authorize at h
  cases hchecks : engine.authorizeChecks manager clock p with
  | error error =>
    rw [hchecks] at h
    cases h
  | ok checked =>
    rw [hchecks] at h
    dsimp only at h
    split at h
    · rename_i hdecision
      obtain ⟨hclears, hcontract, hlease⟩ := authorizeChecks_allow hchecks hdecision
      refine ⟨hclears, hcontract, hlease, ?_⟩
      obtain ⟨leaseId, lease, hid, hlookup, -⟩ :=
        AuthorityLeaseManager.validateProposal_fst_iff.mp hlease
      unfold assembleEnvelope at h
      rw [hid, Option.bind_some, hlookup] at h
      cases h
      exact ⟨leaseId, lease, hid, hlookup, rfl⟩
    · rename_i hdecision
      cases h
      rw [hdecision] at hallow
      cases hallow
    · rename_i hdecision
      cases h
      rw [hdecision] at hallow
      cases hallow

theorem authorize_of_clears (hclears : engine.Clears p)
    (hcontract : (validateEnvelopeContract (clock 0) p).1 = true)
    (hlease : (manager.validateProposal (clock 1) (clock 2) p).1 = true) :
    ∃ result, engine.authorize manager clock p = .ok result ∧ result.decision = .allow := by
  obtain ⟨leaseId, lease, hid, hlookup, -⟩ :=
    AuthorityLeaseManager.validateProposal_fst_iff.mp hlease
  unfold authorize
  rw [authorizeChecks_of_clears hclears hcontract hlease]
  dsimp only
  unfold assembleEnvelope
  rw [hid, Option.bind_some, hlookup]
  exact ⟨_, rfl, rfl⟩

/-- `authorize` answers `ALLOW` exactly if the proposal is authorized and its envelope
complete, and the envelope it then returns is the proposal's. -/
theorem authorize_allow_iff (engine : GovernanceEngine) (manager : AuthorityLeaseManager)
    (clock : ℕ → Time) (p : ActionProposal P) :
    ((∃ result, engine.authorize manager clock p = .ok result ∧ result.decision = .allow) ↔
        engine.Authorizes manager (clock 1) (clock 2) p ∧ p.Complete (clock 0)) ∧
      ∀ result, engine.authorize manager clock p = .ok result → result.decision = .allow →
        ∃ leaseId lease envelope, p.leaseId = some leaseId ∧
          manager.leases.lookup leaseId = some lease ∧ result.envelope = some envelope ∧
          Copies p lease envelope := by
  constructor
  · rw [authorizes_iff, ← validateEnvelopeContract_fst_iff]
    constructor
    · rintro ⟨result, hresult, hallow⟩
      obtain ⟨hclears, hcontract, hlease, -⟩ := authorize_allowed hresult hallow
      exact ⟨⟨hclears, hlease⟩, hcontract⟩
    · rintro ⟨⟨hclears, hlease⟩, hcontract⟩
      exact authorize_of_clears hclears hcontract hlease
  · intro result hresult hallow
    obtain ⟨-, hcontract, -, leaseId, lease, hid, hlookup, henvelope⟩ :=
      authorize_allowed hresult hallow
    obtain ⟨envelope, hbuild, -⟩ := buildEnvelope_of_contract hcontract hid lease.maxUses
    exact ⟨leaseId, lease, envelope, hid, hlookup, henvelope.trans hbuild, .of_build hbuild⟩

/-- The fixture's lease, issued. -/
def fixtureLeases : AuthorityLeaseManager :=
  ⟨(∅ : Dict String AuthorityLease).insert "lease-1" Fixture.lease,
    (∅ : Dict String Reservations).insert "lease-1" ∅⟩

/-- The fixture's proposal without its `csp_ref`. -/
def unreferenced : ActionProposal ℕ := { Fixture.proposal with cspRef := none }

/-- No check named in `Authorizes` asks for the `csp_ref`, which the contract of the
envelope does. -/
theorem unreferenced_denied :
    ¬ ∀ (engine : GovernanceEngine) (manager : AuthorityLeaseManager) (clock : ℕ → Time)
        (p : ActionProposal ℕ),
      (∃ result, engine.authorize manager clock p = .ok result ∧
          result.decision = .allow) ↔
        engine.Authorizes manager (clock 1) (clock 2) p := by
  intro h
  have hallowed := (h Fixture.config.governance fixtureLeases (fun _ => 100)
    unreferenced).mpr (authorizes_iff.mpr
      ⟨⟨⟨_, rfl, by decide⟩, rfl, by decide, by decide, by decide, by decide⟩, by decide⟩)
  obtain ⟨result, hresult, hallow⟩ := hallowed
  have hdenied : Fixture.config.governance.authorize fixtureLeases (fun _ => 100)
      unreferenced = .ok ⟨.deny, "action_envelope_incomplete:csp_ref", none,
        some (assess none unreferenced)⟩ := by rfl
  rw [hdenied] at hresult
  cases hresult
  cases hallow

end GovernanceEngine

end ReisOs.Kernel
