import ReisOs.Kernel.Calls

/-!
# Standing grants

What an authorization establishes once and for all: the governance engine's static
checks, a complete contract, and a lease whose terms fit the proposal.  The terms
of a lease never change, so only time, revocation and release can take a grant
away from a later retry.
-/

namespace ReisOs.Kernel

open ReisOs.Core

variable {P : Type}

/-! ## Terms -/

/-- The lease differs in its meter, its state and its revocation at most. -/
def AuthorityLease.SameTerms (lease lease' : AuthorityLease) : Prop :=
  lease' = { lease with
    usesConsumed := lease'.usesConsumed
    state := lease'.state
    revoked := lease'.revoked }

/-- The terms of the lease fit the proposal. -/
structure AuthorityLease.Binds (lease : AuthorityLease) (p : ActionProposal P) : Prop where
  ocs : lease.ocs = p.ocs
  capability : lease.capability = p.capability
  actor : p.actor = lease.actor
  action : p.actionType = some lease.actionBinding
  object : p.objectRef = some lease.objectRefOrSelector
  trace : p.traceId = some lease.traceRef
  issued : ∃ issuedAt, p.issuedAt = some issuedAt ∧ lease.notBefore ≤ issuedAt
  tenant : p.tenant = some lease.tenant
  context : p.contextRef = some lease.contextRef
  authority : p.authorityRef = some lease.authorityRef
  policy : p.policySnapshot = some lease.policySnapshot
  scope : p.scope ⊆ lease.scope
  expiry : ∃ expiresAt, p.expiresAt = some expiresAt ∧ expiresAt ≤ lease.expiresAt

theorem AuthorityLease.Binds.sameTerms {lease lease' : AuthorityLease}
    {p : ActionProposal P} (h : lease.Binds p) (hterms : lease.SameTerms lease') :
    lease'.Binds p := by
  rw [hterms]
  cases h
  constructor <;> assumption

namespace AuthorityLeaseManager

variable {manager leases : AuthorityLeaseManager} {now later : Time}
  {p : ActionProposal P} {lease : AuthorityLease}

theorem all_eq_false_iff {A : Type} (value : Option A) (test : A → Bool) :
    value.all test = false ↔ ∃ a, value = some a ∧ test a = false := by
  cases value <;> simp

theorem validateProposal_fst_iff :
    (manager.validateProposal now later p).1 = true ↔
      ∃ leaseId lease, p.leaseId = some leaseId ∧
        manager.leases.lookup leaseId = some lease ∧ lease.revoked = false ∧
        lease.state ≠ .released ∧ lease.notBefore ≤ now ∧ now < lease.expiresAt ∧
        lease.Binds p ∧ p.scope ≠ [] ∧
        ∃ expiresAt, p.expiresAt = some expiresAt ∧ later < expiresAt := by
  cases hleaseId : p.leaseId with
  | none => simp [validateProposal, validateBasic, hleaseId]
  | some leaseId =>
    have hbasic := validateBasic_fst_iff manager now leaseId p.ocs p.capability
    cases hlookup : manager.leases.lookup leaseId with
    | none => simp [validateProposal, validateBasic, hleaseId, hlookup]
    | some lease =>
      simp only [validateProposal, hleaseId, Option.bind_some, hlookup]
      split
      · rename_i hfst hsome
        cases hsome
        obtain ⟨found, hfound, hvalid, hunreleased, hstarted, hunexpired, hocs,
          hcapability⟩ := hbasic.mp hfst
        obtain rfl : found = lease := by simpa [hfound] using hlookup
        simp only [verdict_fst_iff, List.forall_mem_cons, List.not_mem_nil, bne_eq_false_iff_eq,
          all_eq_false_iff, Bool.or_eq_false_iff, Bool.not_eq_false', decide_eq_true_eq,
          decide_eq_false_iff_not, List.isEmpty_eq_false_iff, not_lt, not_le]
        constructor
        · rintro ⟨hactor, haction, hobject, htrace, hissued, htenant, hcontext,
            hauthority, hpolicy, ⟨hscope, hsubset⟩, hexpiry, hlater, -⟩
          exact ⟨leaseId, found, rfl, hfound, hvalid, hunreleased, hstarted, hunexpired,
            ⟨hocs, hcapability, hactor, haction, hobject, htrace, hissued, htenant,
              hcontext, hauthority, hpolicy, hsubset, hexpiry⟩, hscope, hlater⟩
        · rintro ⟨_, other, hsame, hother, -, -, -, -, hbinds, hscope, hlater⟩
          cases hsame
          obtain rfl : other = found := by simpa [hfound] using hother.symm
          exact ⟨hbinds.actor, hbinds.action, hbinds.object, hbinds.trace,
            hbinds.issued, hbinds.tenant, hbinds.context, hbinds.authority,
            hbinds.policy, ⟨hscope, hbinds.scope⟩, hbinds.expiry, hlater, by simp⟩
      · rename_i hrefused
        simp only [Bool.false_eq_true, false_iff]
        rintro ⟨_, found, hsame, hfound, hvalid, hunreleased, hstarted, hunexpired,
          hbinds, -⟩
        cases hsame
        have hfst := hbasic.mpr ⟨found, hfound, hvalid, hunreleased, hstarted,
          hunexpired, hbinds.ocs, hbinds.capability⟩
        exact hrefused lease hfst rfl

variable {leaseId : String}

/-- The terms of an issued lease never change. -/
theorem LeaseMove.sameTerms (hmove : LeaseMove (P := P) manager leases)
    (hlookup : manager.leases.lookup leaseId = some lease) :
    ∃ lease', leases.leases.lookup leaseId = some lease' ∧ lease.SameTerms lease' := by
  have hset {changed : AuthorityLease} {other : String} {found : AuthorityLease}
      (hfound : manager.leases.lookup other = some found)
      (hterms : found.SameTerms changed) :
      ∃ lease', (manager.leases.insert other changed).lookup leaseId = some lease' ∧
        lease.SameTerms lease' := by
    rw [Dict.lookup_insert_eq]
    split
    · rename_i hsame
      obtain rfl : found = lease := by
        rw [← hsame, hlookup] at hfound
        exact (Option.some.inj hfound).symm
      exact ⟨changed, rfl, hterms⟩
    · exact ⟨lease, hlookup, rfl⟩
  cases hmove with
  | same => exact ⟨lease, hlookup, rfl⟩
  | issue hnew =>
    rename_i issued _ _ _
    refine ⟨lease, ?_, rfl⟩
    rw [Dict.lookup_insert_eq, if_neg]
    · exact hlookup
    · rintro rfl
      rw [hnew] at hlookup
      cases hlookup
  | revoke hfound | release hfound => exact hset hfound rfl
  | reserve hfound => exact hset hfound rfl

/-! ## Sound managers -/

/-- Single-use leases have one use, and an active lease has none consumed. -/
structure Sound (manager : AuthorityLeaseManager) : Prop where
  single : ∀ {leaseId lease}, manager.leases.lookup leaseId = some lease →
    lease.singleUse = true → lease.maxUses = 1
  active : ∀ {leaseId lease}, manager.leases.lookup leaseId = some lease →
    lease.state = .active → lease.usesConsumed = 0

theorem empty_sound : Sound empty := by
  constructor <;> simp [empty]

theorem Sound.insert (h : manager.Sound) {changed : AuthorityLease}
    (usage : Dict String Reservations)
    (hsingle : changed.singleUse = true → changed.maxUses = 1)
    (hactive : changed.state = .active → changed.usesConsumed = 0) :
    Sound ⟨manager.leases.insert leaseId changed, usage⟩ := by
  constructor
  · intro other found hfound
    rw [Dict.lookup_insert_eq] at hfound
    split at hfound
    · cases hfound
      exact hsingle
    · exact h.single hfound
  · intro other found hfound
    rw [Dict.lookup_insert_eq] at hfound
    split at hfound
    · cases hfound
      exact hactive
    · exact h.active hfound

theorem LeaseMove.sound (hmove : LeaseMove (P := P) manager leases) (h : manager.Sound) :
    leases.Sound := by
  cases hmove with
  | same => exact h
  | issue hnew hunconsumed hactive hsingle => exact h.insert _ hsingle fun _ => hunconsumed
  | revoke hlookup =>
    have hsingle := h.single hlookup
    have hactive := h.active hlookup
    exact h.insert _ hsingle hactive
  | release hlookup | reserve hlookup =>
    have hsingle := h.single hlookup
    exact h.insert _ hsingle nofun

theorem Sound.not_active (h : manager.Sound) (hmetered : manager.Metered)
    {key : String} {reserved : String × ℕ}
    (hreservation : manager.reservation leaseId key = some reserved)
    (hlookup : manager.leases.lookup leaseId = some lease) : lease.state ≠ .active := by
  intro hactive
  obtain ⟨found, hfound, hpositive, hle⟩ := hmetered.indexed hreservation
  obtain rfl : found = lease := by simpa [hfound] using hlookup
  have hzero := h.active hlookup hactive
  omega

theorem Sound.single_key (h : manager.Sound) (hmetered : manager.Metered)
    {key key' : String} {reserved reserved' : String × ℕ}
    (hlookup : manager.leases.lookup leaseId = some lease) (hsingle : lease.singleUse = true)
    (hleft : manager.reservation leaseId key = some reserved)
    (hright : manager.reservation leaseId key' = some reserved') : key = key' := by
  have hfirst {key : String} {reserved : String × ℕ}
      (hreservation : manager.reservation leaseId key = some reserved) :
      reserved.2 = 1 := by
    obtain ⟨found, hfound, hpositive, hle⟩ := hmetered.indexed hreservation
    obtain rfl : found = lease := by simpa [hfound] using hlookup
    have hbound := hmetered.bounded hlookup
    have hmax := h.single hlookup hsingle
    omega
  obtain ⟨actionId, useIndex⟩ := reserved
  obtain ⟨actionId', useIndex'⟩ := reserved'
  obtain rfl : useIndex = 1 := hfirst hleft
  obtain rfl : useIndex' = 1 := hfirst hright
  exact hmetered.distinct hleft hright

end AuthorityLeaseManager

/-! ## Authorization -/

/-- The checks of `authorize` that depend on the proposal and the engine only. -/
structure GovernanceEngine.Clears (engine : GovernanceEngine) (p : ActionProposal P) :
    Prop where
  identity : ∃ identity, engine.identities.lookup p.ocs = some identity ∧
    p.capability ∈ identity.allowedCapabilities
  actor : p.actor = p.ocs
  registered : p.capability ∈ (engine.capabilities.lookup p.ocs).getD []
  assurers : (p.evidence.any fun item =>
    item.independentAssurer == some p.ocs || item.independentAssurer == some p.actor) = false
  contradictions : (assess engine.assurance p).contradictions.isEmpty = true
  sufficiency : (assess engine.assurance p).sufficiency = true

section Authorization

variable {engine : GovernanceEngine} {manager : AuthorityLeaseManager} {clock : ℕ → Time}
  {p : ActionProposal P} {now later : Time}

theorem authorizeChecks_allow {result : GovernanceResult P}
    (h : engine.authorizeChecks manager clock p = .ok result)
    (hallow : result.decision = .allow) :
    engine.Clears p ∧ (validateEnvelopeContract (clock 0) p).1 = true ∧
      (manager.validateProposal (clock 1) (clock 2) p).1 = true := by
  unfold GovernanceEngine.authorizeChecks at h
  split at h
  · cases h
  · rename_i identity hidentity
    split at h
    · cases h
      cases hallow
    rename_i hactor
    split at h
    · cases h
      cases hallow
    rename_i hallowed
    split at h
    · cases h
      cases hallow
    rename_i hregistered
    split at h
    · cases h
      cases hallow
    rename_i hassurers
    dsimp only at h
    split at h
    · cases h
      cases hallow
    rename_i hcontradictions
    split at h
    · cases h
      cases hallow
    rename_i hsufficiency
    split at h
    · cases h
      cases hallow
    rename_i hcontract
    split at h
    · cases h
      cases hallow
    rename_i hlease
    refine ⟨⟨⟨identity, hidentity, not_not.mp hallowed⟩, not_not.mp hactor,
      not_not.mp hregistered, ?_, ?_, ?_⟩, ?_, ?_⟩
    · simpa using hassurers
    · simpa using hcontradictions
    · simpa using hsufficiency
    · simpa using hcontract
    · simpa using hlease

theorem authorizeChecks_of_clears (hclears : engine.Clears p)
    (hcontract : (validateEnvelopeContract (clock 0) p).1 = true)
    (hlease : (manager.validateProposal (clock 1) (clock 2) p).1 = true) :
    engine.authorizeChecks manager clock p =
      .ok ⟨.allow, "authorized", none, some (assess engine.assurance p)⟩ := by
  obtain ⟨identity, hidentity, hallowed⟩ := hclears.identity
  have hassurers : ∀ item ∈ p.evidence, ¬ item.independentAssurer = some p.ocs := by
    simpa [hclears.actor] using hclears.assurers
  simpa [GovernanceEngine.authorizeChecks, hidentity, hallowed, hclears.actor,
    hclears.registered, hclears.contradictions, hclears.sufficiency, hcontract, hlease]
    using hassurers

theorem validateEnvelopeContract_ok (h : (validateEnvelopeContract now p).1 = true) :
    p.scope ≠ [] ∧ ∃ issuedAt expiresAt, p.issuedAt = some issuedAt ∧
      p.expiresAt = some expiresAt ∧ issuedAt ≤ now ∧ issuedAt ≤ expiresAt := by
  unfold validateEnvelopeContract at h
  dsimp only at h
  split at h
  · cases h
  · split at h
    · cases h
    · rename_i hscope
      split at h
      · rename_i issuedAt expiresAt hissued hexpires
        simp only [verdict_fst_iff, List.forall_mem_cons, decide_eq_false_iff_not,
          not_lt] at h
        exact ⟨by simpa using hscope, issuedAt, expiresAt, hissued, hexpires, h.1, h.2.1⟩
      · cases h

theorem validateEnvelopeContract_at (h : (validateEnvelopeContract now p).1 = true)
    (hissued : ∀ issuedAt, p.issuedAt = some issuedAt → issuedAt ≤ later) :
    (validateEnvelopeContract later p).1 = true := by
  obtain ⟨-, issuedAt, expiresAt, hissuedAt, hexpiresAt, -, hlifetime⟩ :=
    validateEnvelopeContract_ok h
  unfold validateEnvelopeContract at h ⊢
  dsimp only at h ⊢
  split at h
  · cases h
  · rename_i hcomplete
    rw [if_neg hcomplete]
    split at h
    · cases h
    · rename_i hscope
      rw [if_neg hscope, hissuedAt, hexpiresAt]
      simp only [verdict_fst_iff, List.forall_mem_cons, decide_eq_false_iff_not, not_lt]
      exact ⟨hissued issuedAt hissuedAt, hlifetime, by simp⟩

/-- The envelope of a complete contract can be assembled. -/
theorem buildEnvelope_of_contract (h : (validateEnvelopeContract now p).1 = true)
    {leaseId : String} (hlease : p.leaseId = some leaseId) (maxUses : ℕ) :
    ∃ envelope, buildEnvelope p maxUses = some envelope ∧ envelope.maxUses = maxUses := by
  have hpresent : ∀ value : Option String,
      (decide (value = none) || decide (value = some "")) = false →
      ∃ text, value = some text := by
    intro value hvalue
    cases value with
    | none => cases hvalue
    | some text => exact ⟨text, rfl⟩
  unfold validateEnvelopeContract at h
  dsimp only at h
  split at h
  · cases h
  · rename_i hcomplete
    simp only [Bool.not_eq_true', List.isEmpty_eq_false_iff, ne_eq, not_not,
      List.filter_eq_nil_iff, List.forall_mem_cons, Bool.not_eq_true] at hcomplete
    obtain ⟨haction, hauthority, hcontext, hcsp, hassessment, heffect, hexpires, hkey,
      hissued, hobject, hpolicy, hrecovery, hreversibility, hside, htenant, htrace, -⟩ :=
      hcomplete
    obtain ⟨actionType, haction⟩ := hpresent _ haction
    obtain ⟨authorityRef, hauthority⟩ := hpresent _ hauthority
    obtain ⟨contextRef, hcontext⟩ := hpresent _ hcontext
    obtain ⟨cspRef, hcsp⟩ := hpresent _ hcsp
    obtain ⟨assessmentRef, hassessment⟩ := hpresent _ hassessment
    obtain ⟨expectedEffect, heffect⟩ := hpresent _ heffect
    obtain ⟨key, hkey⟩ := hpresent _ hkey
    obtain ⟨objectRef, hobject⟩ := hpresent _ hobject
    obtain ⟨policySnapshot, hpolicy⟩ := hpresent _ hpolicy
    obtain ⟨recoveryRef, hrecovery⟩ := hpresent _ hrecovery
    obtain ⟨tenant, htenant⟩ := hpresent _ htenant
    obtain ⟨traceId, htrace⟩ := hpresent _ htrace
    obtain ⟨expiresAt, hexpires⟩ := Option.isSome_iff_exists.mp (by simpa using hexpires)
    obtain ⟨issuedAt, hissued⟩ := Option.isSome_iff_exists.mp (by simpa using hissued)
    obtain ⟨reversibility, hreversibility⟩ :=
      Option.isSome_iff_exists.mp (by simpa using hreversibility)
    obtain ⟨sideEffect, hside⟩ := Option.isSome_iff_exists.mp (by simpa using hside)
    simp [buildEnvelope, haction, hauthority, hcontext, hcsp, hassessment, heffect, hexpires,
      hkey, hissued, hobject, hpolicy, hrecovery, hreversibility, hside, htenant, htrace,
      hlease]

/-- A lease whose terms fit the proposal covers its envelopes at the right time. -/
theorem AuthorityLease.Binds.covers {lease : AuthorityLease}
    {envelope : AuthorizedActionEnvelope P} (h : lease.Binds p) (hof : EnvelopeOf p envelope)
    (hvalid : lease.revoked = false) (hunreleased : lease.state ≠ .released)
    (hissued : envelope.issuedAt ≤ now) (hunexpired : now < envelope.expiresAt)
    (hmaxUses : envelope.maxUses = lease.maxUses) : lease.Covers now now envelope := by
  have hagree {A : Type} {value : Option A} {left right : A} (hleft : value = some left)
      (hright : value = some right) : left = right := by
    rw [hleft] at hright
    exact Option.some.inj hright
  obtain ⟨issuedAt, hissuedAt, hnotBefore⟩ := h.issued
  obtain ⟨expiresAt, hexpiresAt, hwithin⟩ := h.expiry
  obtain rfl := hagree hof.issuedAt hissuedAt
  obtain rfl := hagree hof.expiresAt hexpiresAt
  exact
    { notRevoked := hvalid
      notReleased := hunreleased
      started := hnotBefore.trans hissued
      unexpired := hunexpired.trans_le hwithin
      ocs := h.ocs.trans hof.ocs.symm
      capability := h.capability.trans hof.capability.symm
      actor := hof.actor.trans h.actor
      action := hagree hof.actionType h.action
      object := hagree hof.objectRef h.object
      trace := hagree hof.traceId h.trace
      issuedInWindow := hnotBefore
      tenant := hagree hof.tenant h.tenant
      context := hagree hof.contextRef h.context
      authority := hagree hof.authorityRef h.authority
      policy := hagree hof.policySnapshot h.policy
      validScope := hof.validScope
      scope := hof.scope ▸ h.scope
      expiryWithinLease := hwithin
      envelopeUnexpired := hunexpired
      maxUses := hmaxUses }

end Authorization

end ReisOs.Kernel
