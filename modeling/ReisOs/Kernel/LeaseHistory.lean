import ReisOs.Kernel.Grants

/-!
# What leases never lose

A manager only moves forward: an issued lease keeps its terms, its state moves from
active over consumed to released, and a reservation stays.
-/

namespace ReisOs.Kernel

open ReisOs.Core

/-- The order in which a lease goes through its states. -/
def LeaseState.rank : LeaseState → ℕ
  | .active => 0
  | .consumed => 1
  | .released => 2

variable {state : LeaseState}

theorem LeaseState.spent_of_rank {later : LeaseState} (hspent : state ≠ .active)
    (h : state.rank ≤ later.rank) : later ≠ .active := by
  cases state <;> cases later <;> simp_all [rank]

theorem LeaseState.released_of_rank {later : LeaseState} (hreleased : state = .released)
    (h : state.rank ≤ later.rank) : later = .released := by
  cases state <;> cases later <;> simp_all [rank]

theorem AuthorityLease.SameTerms.trans {lease middle last : AuthorityLease}
    (h : lease.SameTerms middle) (hnext : middle.SameTerms last) : lease.SameTerms last := by
  rw [SameTerms] at hnext ⊢
  rw [hnext, h]

theorem AuthorityLease.SameTerms.of_eq {lease : AuthorityLease} {usesConsumed : ℕ} {revoked : Bool} :
    lease.SameTerms { lease with
      usesConsumed := usesConsumed, state := state, revoked := revoked } := rfl

/-- Neither revoked nor outside its window at two readings of the clock. -/
structure AuthorityLease.InForce (lease : AuthorityLease) (now later : Time) : Prop where
  notRevoked : lease.revoked = false
  started : lease.notBefore ≤ now
  unexpired : now < lease.expiresAt
  stillUnexpired : later < lease.expiresAt

theorem AuthorityLease.Covers.again {P : Type} {lease lease' : AuthorityLease}
    {envelope : AuthorizedActionEnvelope P} {now later now' later' : Time}
    (h : lease.Covers now later envelope) (hterms : lease.SameTerms lease')
    (hexpires : envelope.expiresAt = lease.expiresAt) (hopen : lease'.state ≠ .released)
    (hforce : lease'.InForce now' later') : lease'.Covers now' later' envelope := by
  have hexpiry : lease'.expiresAt = lease.expiresAt := by rw [hterms]
  have hlater : later' < envelope.expiresAt := by
    rw [hexpires, ← hexpiry]
    exact hforce.stillUnexpired
  have hstarted := hforce.started
  have hunexpired := hforce.unexpired
  have hnotRevoked := hforce.notRevoked
  rw [hterms] at hstarted hunexpired hnotRevoked hopen ⊢
  exact ⟨hnotRevoked, hopen, hstarted, hunexpired, h.ocs, h.capability, h.actor, h.action,
    h.object, h.trace, h.issuedInWindow, h.tenant, h.context, h.authority, h.policy,
    h.validScope, h.scope, h.expiryWithinLease, hlater, h.maxUses⟩

namespace AuthorityLeaseManager

/-- `later` is a later state of the manager. -/
structure Grows (manager later : AuthorityLeaseManager) : Prop where
  lease : ∀ {leaseId lease}, manager.leases.lookup leaseId = some lease →
    ∃ lease', later.leases.lookup leaseId = some lease' ∧ lease.SameTerms lease' ∧
      lease.state.rank ≤ lease'.state.rank
  reservation : ∀ {leaseId key reserved}, manager.reservation leaseId key = some reserved →
    later.reservation leaseId key = some reserved

/-- The invariants of a manager, with every lease under its own id. -/
structure Kept (manager : AuthorityLeaseManager) : Prop where
  metered : manager.Metered
  sound : manager.Sound
  named : ∀ {leaseId lease}, manager.leases.lookup leaseId = some lease →
    lease.leaseId = leaseId

variable {P : Type} {manager middle leases : AuthorityLeaseManager} {now later : Time}
  {lease changed : AuthorityLease} {leaseId : String}
  {envelope : AuthorizedActionEnvelope P}

theorem empty_kept : Kept empty := by
  refine ⟨empty_metered, empty_sound, ?_⟩
  simp [empty]

theorem Grows.refl (manager : AuthorityLeaseManager) : Grows manager manager where
  lease hlookup := ⟨_, hlookup, rfl, Nat.le_refl _⟩
  reservation := id

theorem Grows.trans (h : Grows manager middle) (hnext : Grows middle leases) :
    Grows manager leases where
  lease hlookup := by
    obtain ⟨lease', hmiddle, hterms, hrank⟩ := h.lease hlookup
    obtain ⟨last, hlast, hlastTerms, hlastRank⟩ := hnext.lease hmiddle
    exact ⟨last, hlast, hterms.trans hlastTerms, hrank.trans hlastRank⟩
  reservation hreservation := hnext.reservation (h.reservation hreservation)

theorem grows_insert (hlookup : manager.leases.lookup leaseId = some lease)
    (hterms : lease.SameTerms changed) (hrank : lease.state.rank ≤ changed.state.rank)
    {usage : Dict String Reservations}
    (hreservation : ∀ {leaseId key reserved},
      manager.reservation leaseId key = some reserved →
        AuthorityLeaseManager.reservation ⟨manager.leases.insert leaseId changed, usage⟩
          leaseId key = some reserved) :
    Grows manager ⟨manager.leases.insert leaseId changed, usage⟩ where
  lease {other found} hfound := by
    rw [Dict.lookup_insert_eq]
    split
    · rename_i hsame
      rw [hsame, hlookup] at hfound
      cases hfound
      exact ⟨changed, rfl, hterms, hrank⟩
    · exact ⟨found, hfound, rfl, Nat.le_refl _⟩
  reservation := hreservation

theorem LeaseMove.kept (hmove : LeaseMove (P := P) manager leases) (h : manager.Kept) :
    leases.Kept where
  metered := hmove.metered h.metered
  sound := hmove.sound h.sound
  named {other found} hfound := by
    have hinsert {leaseId : String} {changed : AuthorityLease}
        (hfound : (manager.leases.insert leaseId changed).lookup other = some found)
        (hid : changed.leaseId = leaseId) : found.leaseId = other := by
      rw [Dict.lookup_insert_eq] at hfound
      split at hfound
      · rename_i hsame
        cases hfound
        rw [hid, hsame]
      · exact h.named hfound
    cases hmove with
    | same => exact h.named hfound
    | issue => exact hinsert hfound rfl
    | revoke hlookup | release hlookup | reserve hlookup =>
      have hid := h.named hlookup
      exact hinsert hfound hid

/-! ## Operations -/

theorem grows_reserveUse {answer : Except String (String × ℕ)}
    (h : manager.reserveUse now later envelope = (leases, answer)) :
    Grows manager leases := by
  rcases reserveUse_cases h with
    ⟨rfl, -⟩ | ⟨lease, hlookup, hcovers, ⟨rfl, -⟩ | ⟨rfl, -, hnew, -⟩⟩
  · exact .refl leases
  · exact .refl leases
  · apply grows_insert hlookup .of_eq
    · have hopen := hcovers.notReleased
      revert hopen
      cases lease.state <;> simp [LeaseState.rank]
    · intro leaseId key reserved hreservation
      change (manager.recordUse lease envelope).reservation leaseId key = some reserved
      rw [recordUse_reservation]
      split
      · rename_i hsame
        rw [hsame.1, hsame.2, hnew] at hreservation
        cases hreservation
      · exact hreservation

theorem rank_le_released (state : LeaseState) :
    state.rank ≤ LeaseState.released.rank := by
  cases state <;> decide

theorem grows_finalize {state : LeaseState}
    (h : manager.finalize leaseId = .ok (leases, state)) : Grows manager leases := by
  unfold finalize at h
  split at h
  · cases h
  · rename_i lease hlookup
    split at h
    · cases h
      exact .refl manager
    · cases h
    · split at h <;> cases h
      · exact grows_insert hlookup .of_eq (rank_le_released _) id
      · exact .refl manager

theorem grows_issue (hmetered : manager.Metered) (h : manager.issue now lease = .ok leases) :
    Grows manager leases where
  lease {leaseId found} hlookup := by
    obtain ⟨rfl, hnew, -⟩ := issue_ok h
    refine ⟨found, ?_, rfl, Nat.le_refl _⟩
    rw [Dict.lookup_insert_eq, if_neg]
    · exact hlookup
    · rintro rfl
      rw [hnew] at hlookup
      cases hlookup
  reservation := (LeaseMove.of_issue (P := String) h).reservation_mono hmetered

theorem grows_revoke (h : manager.revoke leaseId = .ok leases) : Grows manager leases := by
  obtain ⟨lease, hlookup, rfl⟩ := revoke_ok h
  have hterms : lease.SameTerms { lease with revoked := true } := rfl
  exact grows_insert hlookup hterms (Nat.le_refl _) id

theorem grows_release (h : manager.release leaseId = .ok leases) : Grows manager leases := by
  unfold AuthorityLeaseManager.release at h
  split at h
  · cases h
  · rename_i lease hlookup
    split at h <;> cases h
    · exact .refl manager
    · exact grows_insert hlookup .of_eq (rank_le_released _) id

/-! ## What an accepted operation leaves -/

theorem reserveUse_accepted {use : String × ℕ}
    (h : manager.reserveUse now later envelope = (leases, .ok use)) :
    ∃ lease lease', manager.leases.lookup envelope.leaseId = some lease ∧
      lease.Covers now later envelope ∧
      leases.leases.lookup envelope.leaseId = some lease' ∧ lease.SameTerms lease' ∧
      ∃ useIndex, leases.reservation envelope.leaseId envelope.idempotencyKey =
        some (envelope.actionId, useIndex) := by
  rcases reserveUse_cases h with
    ⟨-, reason, hrefused⟩ | ⟨lease, hlookup, hcovers, hheld | hrecorded⟩
  · cases hrefused
  · obtain ⟨rfl, useIndex, -, hreservation⟩ := hheld
    exact ⟨lease, lease, hlookup, hcovers, hlookup, rfl, useIndex, hreservation⟩
  · obtain ⟨rfl, -⟩ := hrecorded
    refine ⟨lease, { lease with usesConsumed := lease.usesConsumed + 1, state := .consumed },
      hlookup, hcovers, ?_, rfl, lease.usesConsumed + 1, ?_⟩
    · rw [recordUse, AList.lookup_insert]
    · rw [recordUse_reservation, if_pos ⟨rfl, rfl⟩]

theorem finalize_accepted {state : LeaseState}
    (h : manager.finalize leaseId = .ok (leases, state)) :
    ∃ lease lease', manager.leases.lookup leaseId = some lease ∧
      leases.leases.lookup leaseId = some lease' ∧ lease.SameTerms lease' ∧
      lease'.state ≠ .active ∧ (lease'.singleUse = true → lease'.state = .released) ∧
      leases.usage = manager.usage := by
  unfold finalize at h
  split at h
  · cases h
  · rename_i lease hlookup
    split at h
    · rename_i hstate
      cases h
      exact ⟨lease, lease, hlookup, hlookup, rfl, by simp [hstate], fun _ => hstate, rfl⟩
    · cases h
    · rename_i hstate
      split at h <;> cases h
      · refine ⟨lease, { lease with state := .released }, hlookup, ?_, rfl, by simp,
          fun _ => rfl, rfl⟩
        rw [setLease, AList.lookup_insert]
      · rename_i hsingle
        exact ⟨lease, lease, hlookup, hlookup, rfl, by simp [hstate],
          fun h => absurd h hsingle, rfl⟩

theorem finalize_shared (hlookup : manager.leases.lookup leaseId = some lease)
    (hconsumed : lease.state = .consumed) (hshared : lease.singleUse = false) :
    manager.finalize leaseId = .ok (manager, .consumed) := by
  simp [finalize, hlookup, hconsumed, hshared]

end AuthorityLeaseManager

end ReisOs.Kernel
