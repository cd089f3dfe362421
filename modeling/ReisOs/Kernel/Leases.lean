import ReisOs.Kernel.Governance

/-!
# Laws of the lease manager

What a successful validation proves about the lease, what a reservation changes,
and the metering invariant that every manager operation keeps: reserved use
indices of a lease are distinct numbers between one and its consumed uses.
-/

namespace ReisOs.Kernel

open ReisOs.Core

variable {P : Type}

/-! ## Validation -/

/-- The lease authorizes the envelope at an instant: `now` is the reading for the
lease's own window, `later` the one for the envelope's expiry. -/
structure AuthorityLease.Covers (lease : AuthorityLease) (now later : Time)
    (envelope : AuthorizedActionEnvelope P) : Prop where
  notRevoked : lease.revoked = false
  notReleased : lease.state ≠ .released
  started : lease.notBefore ≤ now
  unexpired : now < lease.expiresAt
  ocs : lease.ocs = envelope.ocs
  capability : lease.capability = envelope.capability
  actor : envelope.actor = lease.actor
  action : envelope.actionType = lease.actionBinding
  object : envelope.objectRef = lease.objectRefOrSelector
  trace : envelope.traceId = lease.traceRef
  issuedInWindow : lease.notBefore ≤ envelope.issuedAt
  tenant : envelope.tenant = lease.tenant
  context : envelope.contextRef = lease.contextRef
  authority : envelope.authorityRef = lease.authorityRef
  policy : envelope.policySnapshot = lease.policySnapshot
  validScope : envelope.validScope = true
  scope : envelope.scope ⊆ lease.scope
  expiryWithinLease : envelope.expiresAt ≤ lease.expiresAt
  envelopeUnexpired : later < envelope.expiresAt
  maxUses : envelope.maxUses = lease.maxUses

namespace AuthorityLeaseManager

variable {manager leases : AuthorityLeaseManager} {now later : Time}
  {envelope : AuthorizedActionEnvelope P} {lease : AuthorityLease}

theorem validateBasic_fst_iff (manager : AuthorityLeaseManager) (now : Time)
    (leaseId ocs capability : String) :
    (manager.validateBasic now (some leaseId) ocs capability).1 = true ↔
      ∃ lease, manager.leases.lookup leaseId = some lease ∧ lease.revoked = false ∧
        lease.state ≠ .released ∧ lease.notBefore ≤ now ∧ now < lease.expiresAt ∧
        lease.ocs = ocs ∧ lease.capability = capability := by
  cases hlookup : manager.leases.lookup leaseId with
  | none => simp [validateBasic, hlookup]
  | some lease => simp [validateBasic, hlookup, verdict_fst_iff]

theorem validateEnvelopeBindings_fst_iff :
    (validateEnvelopeBindings later envelope lease).1 = true ↔
      envelope.actor = lease.actor ∧ envelope.actionType = lease.actionBinding ∧
      envelope.objectRef = lease.objectRefOrSelector ∧
      envelope.traceId = lease.traceRef ∧ lease.notBefore ≤ envelope.issuedAt ∧
      envelope.tenant = lease.tenant ∧ envelope.contextRef = lease.contextRef ∧
      envelope.authorityRef = lease.authorityRef ∧
      envelope.policySnapshot = lease.policySnapshot ∧
      (envelope.validScope = true ∧ envelope.scope ⊆ lease.scope) ∧
      (envelope.expiresAt ≤ lease.expiresAt ∧ later < envelope.expiresAt) ∧
      envelope.maxUses = lease.maxUses := by
  simp [validateEnvelopeBindings, verdict_fst_iff]

theorem validateUse_eq_ok_iff :
    manager.validateUse now later envelope = .ok lease ↔
      manager.leases.lookup envelope.leaseId = some lease ∧
        lease.Covers now later envelope := by
  have hbasic := validateBasic_fst_iff manager now envelope.leaseId envelope.ocs
    envelope.capability
  constructor
  · intro h
    unfold validateUse at h
    dsimp only at h
    split at h
    · rename_i hfst hlookup
      split at h
      · rename_i hbinding
        cases h
        obtain ⟨found, hfound, h1, h2, h3, h4, h5, h6⟩ := hbasic.mp hfst
        obtain rfl : found = lease := by simpa [hfound] using hlookup
        obtain ⟨b1, b2, b3, b4, b5, b6, b7, b8, b9, b10, b11, b12⟩ :=
          validateEnvelopeBindings_fst_iff.mp hbinding
        exact ⟨hlookup, h1, h2, h3, h4, h5, h6, b1, b2, b3, b4, b5, b6, b7, b8, b9,
          b10.1, b10.2, b11.1, b11.2, b12⟩
      · cases h
    · cases h
  · rintro ⟨hlookup, hcovers⟩
    have hfst := hbasic.mpr ⟨lease, hlookup, hcovers.notRevoked, hcovers.notReleased,
      hcovers.started, hcovers.unexpired, hcovers.ocs, hcovers.capability⟩
    have hbinding : (validateEnvelopeBindings later envelope lease).1 = true :=
      validateEnvelopeBindings_fst_iff.mpr
        ⟨hcovers.actor, hcovers.action, hcovers.object, hcovers.trace,
          hcovers.issuedInWindow, hcovers.tenant, hcovers.context, hcovers.authority,
          hcovers.policy, ⟨hcovers.validScope, hcovers.scope⟩,
          ⟨hcovers.expiryWithinLease, hcovers.envelopeUnexpired⟩, hcovers.maxUses⟩
    simp [validateUse, hfst, hlookup, hbinding]

theorem materialEffectGuard_eq_ok_iff :
    manager.materialEffectGuard now later envelope = .ok () ↔
      ∃ lease useIndex, manager.leases.lookup envelope.leaseId = some lease ∧
        lease.Covers now later envelope ∧ envelope.leaseUseIndex = some useIndex ∧
        manager.reservation envelope.leaseId envelope.idempotencyKey =
          some (envelope.actionId, useIndex) := by
  unfold materialEffectGuard validateReservedUse
  cases huse : manager.validateUse now later envelope with
  | error reason =>
    simp only [Bool.false_eq_true, if_false, reduceCtorEq, false_iff]
    rintro ⟨lease, useIndex, hlookup, hcovers, -⟩
    have := validateUse_eq_ok_iff.mpr ⟨hlookup, hcovers⟩
    simp [huse] at this
  | ok lease =>
    obtain ⟨hlookup, hcovers⟩ := validateUse_eq_ok_iff.mp huse
    cases hindex : envelope.leaseUseIndex with
    | none => simp
    | some leaseUseIndex =>
      cases hreservation :
          manager.reservation envelope.leaseId envelope.idempotencyKey with
      | none => simp
      | some reserved =>
        obtain ⟨actionId, useIndex⟩ := reserved
        by_cases haction : actionId = envelope.actionId <;>
          by_cases huseIndex : useIndex = leaseUseIndex <;>
          simp_all

/-! ## Reservations -/

/-- What `reserve_use` can do. -/
theorem reserveUse_cases {answer : Except String (String × ℕ)}
    (h : manager.reserveUse now later envelope = (leases, answer)) :
    (leases = manager ∧ ∃ reason, answer = .error reason) ∨
      ∃ lease, manager.leases.lookup envelope.leaseId = some lease ∧
        lease.Covers now later envelope ∧
        ((leases = manager ∧ ∃ useIndex,
            answer = .ok ("lease_use_already_reserved", useIndex) ∧
            manager.reservation envelope.leaseId envelope.idempotencyKey =
              some (envelope.actionId, useIndex)) ∨
          (leases = manager.recordUse lease envelope ∧
            answer = .ok ("lease_use_reserved", lease.usesConsumed + 1) ∧
            manager.reservation envelope.leaseId envelope.idempotencyKey = none ∧
            lease.usesConsumed < lease.maxUses)) := by
  unfold reserveUse at h
  cases huse : manager.validateUse now later envelope with
  | error reason =>
    simp only [huse, Prod.mk.injEq] at h
    exact .inl ⟨h.1.symm, reason, h.2.symm⟩
  | ok lease =>
    obtain ⟨hlookup, hcovers⟩ := validateUse_eq_ok_iff.mp huse
    simp only [huse] at h
    cases hreservation :
        manager.reservation envelope.leaseId envelope.idempotencyKey with
    | some reserved =>
      obtain ⟨existingAction, useIndex⟩ := reserved
      simp only [hreservation] at h
      split at h
      · cases h
        exact .inl ⟨rfl, _, rfl⟩
      · rename_i haction
        cases h
        exact .inr ⟨lease, hlookup, hcovers,
          .inl ⟨rfl, useIndex, rfl, by simp [not_not.mp haction]⟩⟩
    | none =>
      simp only [hreservation] at h
      split at h
      · cases h
        exact .inl ⟨rfl, _, rfl⟩
      · rename_i huses
        cases h
        exact .inr ⟨lease, hlookup, hcovers,
          .inr ⟨rfl, rfl, rfl, Nat.lt_of_not_le huses⟩⟩

theorem reserveUse_refused {reason : String}
    (h : manager.reserveUse now later envelope = (leases, .error reason)) :
    leases = manager := by
  rcases reserveUse_cases h with ⟨hleases, -⟩ | ⟨_, _, _, ⟨hleases, -⟩ | ⟨_, hanswer, -⟩⟩
  · exact hleases
  · exact hleases
  · cases hanswer

theorem reserveUse_held {useIndex : ℕ}
    (hlookup : manager.leases.lookup envelope.leaseId = some lease)
    (hcovers : lease.Covers now later envelope)
    (hreservation : manager.reservation envelope.leaseId envelope.idempotencyKey =
      some (envelope.actionId, useIndex)) :
    manager.reserveUse now later envelope =
      (manager, .ok ("lease_use_already_reserved", useIndex)) := by
  have huse := validateUse_eq_ok_iff.mpr ⟨hlookup, hcovers⟩
  simp [reserveUse, huse, hreservation]

theorem recordUse_reservation (leaseId key : String) :
    (manager.recordUse lease envelope).reservation leaseId key =
      if leaseId = envelope.leaseId ∧ key = envelope.idempotencyKey then
        some (envelope.actionId, lease.usesConsumed + 1)
      else manager.reservation leaseId key := by
  by_cases hlease : leaseId = envelope.leaseId
  · subst hlease
    simp only [recordUse, reservation, AList.lookup_insert, Option.bind_some,
      Dict.lookup_insert_eq, true_and]
    cases manager.usage.lookup envelope.leaseId <;> simp
  · simp [recordUse, reservation, hlease]

@[simp]
theorem setLease_reservation (leaseId other key : String) :
    (manager.setLease leaseId lease).reservation other key =
      manager.reservation other key := rfl

/-! ## Moves -/

/-- Everything a manager operation can do to the manager. -/
inductive LeaseMove (manager : AuthorityLeaseManager) : AuthorityLeaseManager → Prop where
  | same : LeaseMove manager manager
  | issue {lease : AuthorityLease} (hnew : manager.leases.lookup lease.leaseId = none)
      (hunconsumed : lease.usesConsumed = 0) (hactive : lease.state = .active)
      (hsingle : lease.singleUse = true → lease.maxUses = 1) :
      LeaseMove manager
        { leases := manager.leases.insert lease.leaseId lease
          usage := manager.usage.insert lease.leaseId ∅ }
  | revoke {leaseId : String} {lease : AuthorityLease}
      (hlookup : manager.leases.lookup leaseId = some lease) :
      LeaseMove manager (manager.setLease leaseId { lease with revoked := true })
  | release {leaseId : String} {lease : AuthorityLease}
      (hlookup : manager.leases.lookup leaseId = some lease)
      (hconsumed : lease.state = .consumed) :
      LeaseMove manager (manager.setLease leaseId { lease with state := .released })
  | reserve {lease : AuthorityLease} {envelope : AuthorizedActionEnvelope P}
      (hlookup : manager.leases.lookup envelope.leaseId = some lease)
      (hnew : manager.reservation envelope.leaseId envelope.idempotencyKey = none)
      (huses : lease.usesConsumed < lease.maxUses) :
      LeaseMove manager (manager.recordUse lease envelope)

theorem issue_ok (h : manager.issue now lease = .ok leases) :
    leases = { leases := manager.leases.insert lease.leaseId lease
               usage := manager.usage.insert lease.leaseId ∅ } ∧
      manager.leases.lookup lease.leaseId = none ∧ lease.usesConsumed = 0 ∧
      lease.state = .active ∧ (lease.singleUse = true → lease.maxUses = 1) := by
  unfold AuthorityLeaseManager.issue at h
  dsimp only at h
  split at h
  · cases h
  · rename_i hchecks
    cases h
    have hall := firstFailure_eq_none_iff.mp hchecks
    simp only [List.forall_mem_cons] at hall
    obtain ⟨-, hunconsumed, hsingle, -, hactive, -, -, -, -, hnew, -⟩ := hall
    exact ⟨rfl, by simpa using hnew, by simpa using hunconsumed, by simpa using hactive,
      by simpa using hsingle⟩

variable {leaseId : String}

theorem revoke_ok (h : manager.revoke leaseId = .ok leases) :
    ∃ lease, manager.leases.lookup leaseId = some lease ∧
      leases = manager.setLease leaseId { lease with revoked := true } := by
  unfold AuthorityLeaseManager.revoke at h
  split at h
  · cases h
  · rename_i lease hlookup
    split at h
    · cases h
    · cases h
      exact ⟨lease, hlookup, rfl⟩

theorem LeaseMove.of_issue (h : manager.issue now lease = .ok leases) :
    LeaseMove (P := P) manager leases := by
  obtain ⟨rfl, hnew, hunconsumed, hactive, hsingle⟩ := issue_ok h
  exact .issue hnew hunconsumed hactive hsingle

theorem LeaseMove.of_revoke (h : manager.revoke leaseId = .ok leases) :
    LeaseMove (P := P) manager leases := by
  obtain ⟨lease, hlookup, rfl⟩ := revoke_ok h
  exact .revoke hlookup

theorem LeaseMove.of_release (h : manager.release leaseId = .ok leases) :
    LeaseMove (P := P) manager leases := by
  unfold AuthorityLeaseManager.release at h
  split at h
  · cases h
  · rename_i hlookup
    split at h <;> cases h
    · exact .same
    · rename_i hconsumed
      exact .release hlookup hconsumed

theorem LeaseMove.of_finalize {leaseState : LeaseState}
    (h : manager.finalize leaseId = .ok (leases, leaseState)) :
    LeaseMove (P := P) manager leases := by
  unfold finalize at h
  split at h
  · cases h
  · rename_i hlookup
    split at h
    · cases h
      exact .same
    · cases h
    · rename_i hconsumed
      split at h <;> cases h
      · exact .release hlookup hconsumed
      · exact .same

theorem LeaseMove.of_reserveUse {answer : Except String (String × ℕ)}
    (h : manager.reserveUse now later envelope = (leases, answer)) :
    LeaseMove (P := P) manager leases := by
  rcases reserveUse_cases h with
    ⟨rfl, -⟩ | ⟨lease, hlookup, -, ⟨rfl, -⟩ | ⟨rfl, -, hnew, huses⟩⟩
  · exact .same
  · exact .same
  · exact .reserve hlookup hnew huses

/-! ## Metering -/

/-- Consumed uses respect the limit, and the reservations of a lease hold distinct
use indices among the consumed ones. -/
structure Metered (manager : AuthorityLeaseManager) : Prop where
  bounded : ∀ {leaseId lease}, manager.leases.lookup leaseId = some lease →
    lease.usesConsumed ≤ lease.maxUses
  indexed : ∀ {leaseId key actionId useIndex},
    manager.reservation leaseId key = some (actionId, useIndex) →
    ∃ lease, manager.leases.lookup leaseId = some lease ∧
      1 ≤ useIndex ∧ useIndex ≤ lease.usesConsumed
  distinct : ∀ {leaseId key key' actionId actionId' useIndex},
    manager.reservation leaseId key = some (actionId, useIndex) →
    manager.reservation leaseId key' = some (actionId', useIndex) → key = key'

theorem empty_metered : Metered empty := by
  constructor <;> simp [empty, reservation]

theorem issue_reservation (leaseId key : String) :
    AuthorityLeaseManager.reservation
        ⟨manager.leases.insert lease.leaseId lease,
          manager.usage.insert lease.leaseId ∅⟩ leaseId key =
      if leaseId = lease.leaseId then none else manager.reservation leaseId key := by
  by_cases h : leaseId = lease.leaseId <;>
    simp [reservation, Dict.lookup_insert_eq, h]

theorem Metered.setLease (hmetered : manager.Metered)
    {changed : AuthorityLease} (hlookup : manager.leases.lookup leaseId = some lease)
    (hconsumed : changed.usesConsumed = lease.usesConsumed)
    (hmax : changed.maxUses = lease.maxUses) :
    (manager.setLease leaseId changed).Metered where
  bounded := by
    intro other found hfound
    rw [AuthorityLeaseManager.setLease, Dict.lookup_insert_eq] at hfound
    split at hfound
    · cases hfound
      rw [hconsumed, hmax]
      exact hmetered.bounded hlookup
    · exact hmetered.bounded hfound
  indexed := by
    intro other key actionId useIndex hreservation
    obtain ⟨found, hfound, hindex⟩ := hmetered.indexed hreservation
    by_cases hother : other = leaseId
    · subst hother
      obtain rfl : found = lease := by simpa [hfound] using hlookup
      exact ⟨changed, by simp [AuthorityLeaseManager.setLease], hconsumed ▸ hindex⟩
    · exact ⟨found, by simp [AuthorityLeaseManager.setLease, hother, hfound], hindex⟩
  distinct := hmetered.distinct

theorem Metered.recordUse (hmetered : manager.Metered)
    (hlookup : manager.leases.lookup envelope.leaseId = some lease)
    (huses : lease.usesConsumed < lease.maxUses) :
    (manager.recordUse lease envelope).Metered where
  bounded := by
    intro other found hfound
    rw [AuthorityLeaseManager.recordUse, Dict.lookup_insert_eq] at hfound
    split at hfound
    · cases hfound
      exact huses
    · exact hmetered.bounded hfound
  indexed := by
    intro other key actionId useIndex hreservation
    rw [recordUse_reservation] at hreservation
    split at hreservation
    · rename_i hsame
      obtain ⟨rfl, rfl⟩ := hsame
      cases hreservation
      exact ⟨_, AList.lookup_insert _, Nat.succ_pos _, le_rfl⟩
    · obtain ⟨found, hfound, hindex⟩ := hmetered.indexed hreservation
      by_cases hother : other = envelope.leaseId
      · subst hother
        obtain rfl : found = lease := by simpa [hfound] using hlookup
        exact ⟨_, AList.lookup_insert _, hindex.1, Nat.le_succ_of_le hindex.2⟩
      · exact ⟨found, by simp [AuthorityLeaseManager.recordUse, hother, hfound], hindex⟩
  distinct := by
    intro other key key' actionId actionId' useIndex hleft hright
    -- the new index is above every index reserved before
    have habove {key actionId useIndex}
        (h : manager.reservation envelope.leaseId key = some (actionId, useIndex)) :
        useIndex ≠ lease.usesConsumed + 1 := by
      obtain ⟨found, hfound, -, hle⟩ := hmetered.indexed h
      obtain rfl : found = lease := by simpa [hfound] using hlookup
      omega
    rw [recordUse_reservation] at hleft hright
    split at hleft <;> split at hright
    · rename_i hl hr
      rw [hl.2, hr.2]
    · rename_i hl hr
      cases hleft
      rw [hl.1] at hright
      exact absurd rfl (habove hright)
    · rename_i hl hr
      cases hright
      rw [hr.1] at hleft
      exact absurd rfl (habove hleft)
    · exact hmetered.distinct hleft hright

theorem LeaseMove.metered (hmove : LeaseMove (P := P) manager leases)
    (hmetered : manager.Metered) : leases.Metered := by
  cases hmove with
  | same => exact hmetered
  | issue hnew hunconsumed hactive =>
    constructor
    · intro other found hfound
      rw [Dict.lookup_insert_eq] at hfound
      split at hfound
      · cases hfound
        omega
      · exact hmetered.bounded hfound
    · intro other key actionId useIndex hreservation
      rw [issue_reservation] at hreservation
      split at hreservation
      · cases hreservation
      · rename_i hother
        obtain ⟨found, hfound, hindex⟩ := hmetered.indexed hreservation
        exact ⟨found, by simp [hother, hfound], hindex⟩
    · intro other key key' actionId actionId' useIndex hleft hright
      rw [issue_reservation] at hleft hright
      split at hleft
      · cases hleft
      · rename_i hother
        rw [if_neg hother] at hright
        exact hmetered.distinct hleft hright
  | revoke hlookup => exact hmetered.setLease hlookup rfl rfl
  | release hlookup => exact hmetered.setLease hlookup rfl rfl
  | reserve hlookup hnew huses => exact hmetered.recordUse hlookup huses

theorem LeaseMove.reservation_mono (hmove : LeaseMove (P := P) manager leases)
    (hmetered : manager.Metered) {key : String} {reserved : String × ℕ}
    (h : manager.reservation leaseId key = some reserved) :
    leases.reservation leaseId key = some reserved := by
  cases hmove with
  | same | revoke | release => exact h
  | issue hnew =>
    rw [issue_reservation]
    split
    · rename_i hsame
      obtain ⟨found, hfound, -⟩ := hmetered.indexed h
      rw [hsame, hnew] at hfound
      cases hfound
    · exact h
  | reserve hlookup hnew huses =>
    rw [recordUse_reservation]
    split
    · rename_i hsame
      rw [hsame.1, hsame.2, hnew] at h
      cases h
    · exact h

end AuthorityLeaseManager

end ReisOs.Kernel
