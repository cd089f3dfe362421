import ReisOs.Core.Counting
import ReisOs.Core.Runs
import ReisOs.Kernel.LeaseSnapshot

/-!
# The lease ledger over runs

A lease's uses, its state and its reservations say the same thing three times.  What ties
them together is kept by every command of the manager, accepted or not, and by rebuilding
the manager from any of its earlier snapshots.
-/

namespace ReisOs.Kernel

open ReisOs.Core AuthorityLeaseManager

variable {P : Type}

inductive LeaseCommand (P : Type) where
  | issue (now : Time) (lease : AuthorityLease)
  | reserveUse (now later : Time) (envelope : AuthorizedActionEnvelope P)
  | finalize (leaseId : String)
  | release (leaseId : String)
  | revoke (leaseId : String)

/-- A reservation names its key and its action. -/
def LeaseCommand.Labels : LeaseCommand P → Prop
  | .reserveUse _ _ envelope => envelope.idempotencyKey ≠ "" ∧ envelope.actionId ≠ ""
  | _ => True

namespace AuthorityLeaseManager

/-- The manager after a command; one that raises changes nothing. -/
def apply (manager : AuthorityLeaseManager) : LeaseCommand P → AuthorityLeaseManager
  | .issue now lease => (manager.issue now lease).toOption.getD manager
  | .reserveUse now later envelope => (manager.reserveUse now later envelope).1
  | .finalize leaseId =>
    ((manager.finalize leaseId).toOption.map Prod.fst).getD manager
  | .release leaseId => (manager.release leaseId).toOption.getD manager
  | .revoke leaseId => (manager.revoke leaseId).toOption.getD manager

variable {manager leases restored : AuthorityLeaseManager} {lease : AuthorityLease}
  {leaseId key : String}

theorem LeaseMove.of_apply (manager : AuthorityLeaseManager) (command : LeaseCommand P) :
    LeaseMove (P := P) manager (manager.apply command) := by
  cases command with
  | reserveUse now later envelope => exact .of_reserveUse Prod.mk.eta.symm
  | issue now lease =>
    cases h : manager.issue now lease with
    | error error => simpa only [apply, h] using .same
    | ok leases => simpa only [apply, h] using .of_issue h
  | finalize leaseId =>
    cases h : manager.finalize leaseId with
    | error error => simpa only [apply, h] using .same
    | ok answer => simpa only [apply, h] using .of_finalize h
  | release leaseId =>
    cases h : manager.release leaseId with
    | error error => simpa only [apply, h] using .same
    | ok leases => simpa only [apply, h] using .of_release h
  | revoke leaseId =>
    cases h : manager.revoke leaseId with
    | error error => simpa only [apply, h] using .same
    | ok leases => simpa only [apply, h] using .of_revoke h

/-! ## The invariant -/

/-- Uses, state and reservations of every lease agree. -/
structure Accounted (manager : AuthorityLeaseManager) : Prop where
  metered : manager.Metered
  sound : manager.Sound
  named : manager.Named
  opened : manager.Opened
  complete : ∀ {leaseId lease useIndex}, manager.leases.lookup leaseId = some lease →
    1 ≤ useIndex → useIndex ≤ lease.usesConsumed →
    ∃ key actionId, manager.reservation leaseId key = some (actionId, useIndex)
  spent : ∀ {leaseId lease}, manager.leases.lookup leaseId = some lease →
    lease.state ≠ .active → 0 < lease.usesConsumed

theorem empty_accounted : Accounted empty where
  metered := empty_metered
  sound := empty_sound
  named := empty_kept.named
  opened _ := rfl
  complete hlookup := by cases hlookup
  spent hlookup := by cases hlookup

theorem Accounted.kept (h : manager.Accounted) : manager.Kept :=
  ⟨h.metered, h.sound, h.named⟩

theorem LeaseMove.opened (hmove : LeaseMove (P := P) manager leases)
    (h : manager.Opened) : leases.Opened := by
  intro other
  have hset {leaseId : String} {found changed : AuthorityLease}
      (hlookup : manager.leases.lookup leaseId = some found) :
      (manager.usage.lookup other).isSome =
        ((manager.leases.insert leaseId changed).lookup other).isSome := by
    rw [Dict.lookup_insert_eq]
    split
    · rename_i hsame
      rw [h, hsame, hlookup]
      rfl
    · exact h other
  cases hmove with
  | same => exact h other
  | issue | reserve =>
    simp only [recordUse, Dict.lookup_insert_eq]
    split
    · rfl
    · exact h other
  | revoke hlookup | release hlookup => exact hset hlookup

theorem Accounted.setLease_complete (h : manager.Accounted) {changed : AuthorityLease}
    (hlookup : manager.leases.lookup leaseId = some lease)
    (hconsumed : changed.usesConsumed = lease.usesConsumed) {other : String}
    {found : AuthorityLease} {useIndex : ℕ}
    (hfound : (manager.setLease leaseId changed).leases.lookup other = some found)
    (hpositive : 1 ≤ useIndex) (hle : useIndex ≤ found.usesConsumed) :
    ∃ key actionId, manager.reservation other key = some (actionId, useIndex) := by
  rw [setLease, Dict.lookup_insert_eq] at hfound
  split at hfound
  · rename_i hsame
    cases hfound
    rw [hsame]
    exact h.complete hlookup hpositive (hconsumed ▸ hle)
  · exact h.complete hfound hpositive hle

theorem LeaseMove.complete (hmove : LeaseMove (P := P) manager leases)
    (h : manager.Accounted) {useIndex : ℕ}
    (hlookup : leases.leases.lookup leaseId = some lease) (hpositive : 1 ≤ useIndex)
    (hle : useIndex ≤ lease.usesConsumed) :
    ∃ key actionId, leases.reservation leaseId key = some (actionId, useIndex) := by
  cases hmove with
  | same => exact h.complete hlookup hpositive hle
  | @revoke _ found hfound =>
    have huses : { found with revoked := true }.usesConsumed = found.usesConsumed := rfl
    exact h.setLease_complete hfound huses hlookup hpositive hle
  | @release _ found hfound =>
    have huses : { found with state := .released }.usesConsumed = found.usesConsumed := rfl
    exact h.setLease_complete hfound huses hlookup hpositive hle
  | issue hnew hunconsumed =>
    simp only [issue_reservation]
    rw [Dict.lookup_insert_eq] at hlookup
    split at hlookup
    · cases hlookup
      omega
    · rename_i hother
      simp only [if_neg hother]
      exact h.complete hlookup hpositive hle
  | @reserve found envelope hfound hnew huses =>
    simp only [recordUse_reservation]
    rw [recordUse, Dict.lookup_insert_eq] at hlookup
    split at hlookup
    · rename_i hsame
      cases hlookup
      by_cases hlast : useIndex = found.usesConsumed + 1
      · exact ⟨envelope.idempotencyKey, envelope.actionId, by rw [if_pos ⟨hsame, rfl⟩, hlast]⟩
      · have hearlier : useIndex ≤ found.usesConsumed := by
          have hle : useIndex ≤ found.usesConsumed + 1 := hle
          omega
        obtain ⟨key, actionId, hheld⟩ := h.complete hfound hpositive hearlier
        refine ⟨key, actionId, ?_⟩
        rw [if_neg, hsame]
        · exact hheld
        · rintro ⟨-, rfl⟩
          rw [hnew] at hheld
          cases hheld
    · rename_i hother
      obtain ⟨key, actionId, hheld⟩ := h.complete hlookup hpositive hle
      exact ⟨key, actionId, by rw [if_neg (fun hsame => hother hsame.1)]; exact hheld⟩

theorem LeaseMove.spent (hmove : LeaseMove (P := P) manager leases)
    (h : manager.Accounted) (hlookup : leases.leases.lookup leaseId = some lease)
    (hstate : lease.state ≠ .active) : 0 < lease.usesConsumed := by
  have hset {other : String} {changed : AuthorityLease}
      (hlookup : (manager.leases.insert other changed).lookup leaseId = some lease)
      (hchanged : changed.state ≠ .active → 0 < changed.usesConsumed) :
      0 < lease.usesConsumed := by
    rw [Dict.lookup_insert_eq] at hlookup
    split at hlookup
    · cases hlookup
      exact hchanged hstate
    · exact h.spent hlookup hstate
  cases hmove with
  | same => exact h.spent hlookup hstate
  | issue hnew hunconsumed hactive =>
    exact hset hlookup fun hother => absurd hactive hother
  | revoke hfound =>
    have hspent := h.spent hfound
    exact hset hlookup hspent
  | release hfound hconsumed =>
    have hspent := h.spent hfound
    exact hset hlookup fun _ => hspent (by rw [hconsumed]; decide)
  | reserve => exact hset hlookup fun _ => Nat.succ_pos _

theorem Accounted.apply (h : manager.Accounted) (command : LeaseCommand P) :
    (manager.apply command).Accounted := by
  have hmove := LeaseMove.of_apply manager command
  exact
    { metered := hmove.metered h.metered
      sound := hmove.sound h.sound
      named := (hmove.kept h.kept).named
      opened := hmove.opened h.opened
      complete := hmove.complete h
      spent := hmove.spent h }

theorem Accounted.of_agrees (h : manager.Accounted) (hopened : restored.Opened)
    (hagrees : restored.Agrees manager) : restored.Accounted where
  metered :=
    { bounded := fun hlookup => h.metered.bounded (hagrees.lease _ ▸ hlookup)
      indexed := fun hreservation => by
        rw [hagrees.lease]
        exact h.metered.indexed (hagrees.reservation _ _ ▸ hreservation)
      distinct := fun hleft hright =>
        h.metered.distinct (hagrees.reservation _ _ ▸ hleft)
          (hagrees.reservation _ _ ▸ hright) }
  sound :=
    { single := fun hlookup => h.sound.single (hagrees.lease _ ▸ hlookup)
      active := fun hlookup => h.sound.active (hagrees.lease _ ▸ hlookup) }
  named := fun hlookup => h.named (hagrees.lease _ ▸ hlookup)
  opened := hopened
  complete := fun hlookup hpositive hle => by
    simp only [hagrees.reservation]
    exact h.complete (hagrees.lease _ ▸ hlookup) hpositive hle
  spent := fun hlookup => h.spent (hagrees.lease _ ▸ hlookup)

/-- The use indices of a lease's reservations are `1..uses`, each once. -/
theorem Accounted.indices (h : manager.Accounted)
    (hlookup : manager.leases.lookup leaseId = some lease) :
    ((reservationRows (manager.reservationsOf leaseId)).map (·.2.2)).Perm
      (List.range' 1 lease.usesConsumed) := by
  have hheld {row : ReservationRow}
      (hrow : row ∈ reservationRows (manager.reservationsOf leaseId)) :
      manager.reservation leaseId row.1 = some row.2 := by
    rw [← lookup_reservationsOf]
    exact mem_reservationRows.mp hrow
  have hdistinct :
      ((reservationRows (manager.reservationsOf leaseId)).map (·.2.2)).Nodup := by
    apply nodup_map_of_determines (reservationRows_keys_nodup (manager.reservationsOf leaseId))
    intro left hleft right hright hsame
    have hleftHeld := hheld hleft
    rw [show left.2 = (left.2.1, right.2.2) from Prod.ext rfl hsame] at hleftHeld
    exact h.metered.distinct hleftHeld (hheld hright)
  rw [List.perm_ext_iff_of_nodup hdistinct List.nodup_range']
  intro useIndex
  rw [List.mem_range'_1, List.mem_map]
  constructor
  · rintro ⟨row, hrow, rfl⟩
    obtain ⟨found, hfound, hpositive, hle⟩ := h.metered.indexed (hheld hrow)
    rw [hlookup] at hfound
    cases hfound
    exact ⟨hpositive, Nat.lt_one_add_iff.mpr hle⟩
  · rintro ⟨hpositive, hlt⟩
    obtain ⟨key, actionId, hreservation⟩ :=
      h.complete hlookup hpositive (show useIndex ≤ lease.usesConsumed by omega)
    refine ⟨(key, actionId, useIndex), mem_reservationRows.mpr ?_, rfl⟩
    rw [lookup_reservationsOf]
    exact hreservation

end AuthorityLeaseManager

/-! ## Closed leases -/

/-- Released or revoked. -/
def AuthorityLease.Closed (lease : AuthorityLease) : Prop :=
  lease.state = .released ∨ lease.revoked = true

namespace AuthorityLeaseManager

variable {manager leases : AuthorityLeaseManager} {lease : AuthorityLease} {leaseId : String}

theorem reserveUse_closed {now later : Time} {envelope : AuthorizedActionEnvelope P}
    (hlookup : manager.leases.lookup envelope.leaseId = some lease) (hclosed : lease.Closed) :
    ∃ reason, manager.reserveUse now later envelope = (manager, .error reason) := by
  cases huse : manager.validateUse now later envelope with
  | error reason => exact ⟨reason, by simp only [reserveUse, huse]⟩
  | ok found =>
    obtain ⟨hfound, hcovers⟩ := validateUse_eq_ok_iff.mp huse
    rw [hlookup] at hfound
    cases hfound
    rcases hclosed with hreleased | hrevoked
    · exact absurd hreleased hcovers.notReleased
    · rw [hcovers.notRevoked] at hrevoked
      cases hrevoked

theorem release_ok (h : manager.release leaseId = .ok leases) :
    ∃ found, manager.leases.lookup leaseId = some found ∧
      (leases = manager ∨ leases = manager.setLease leaseId { found with state := .released }) := by
  unfold release at h
  split at h
  · cases h
  · rename_i found hlookup
    split at h <;> cases h
    · exact ⟨found, hlookup, .inl rfl⟩
    · exact ⟨found, hlookup, .inr rfl⟩

theorem finalize_ok {state : LeaseState} (h : manager.finalize leaseId = .ok (leases, state)) :
    ∃ found, manager.leases.lookup leaseId = some found ∧
      (leases = manager ∨ leases = manager.setLease leaseId { found with state := .released }) := by
  unfold finalize at h
  split at h
  · cases h
  · rename_i found hlookup
    split at h
    · cases h
      exact ⟨found, hlookup, .inl rfl⟩
    · cases h
    · split at h <;> cases h
      · exact ⟨found, hlookup, .inr rfl⟩
      · exact ⟨found, hlookup, .inl rfl⟩

/-- What a command can do to the manager. -/
inductive Change (manager : AuthorityLeaseManager) :
    LeaseCommand P → AuthorityLeaseManager → Prop where
  | same (command : LeaseCommand P) : Change manager command manager
  | issue {now : Time} {lease : AuthorityLease}
      (hnew : manager.leases.lookup lease.leaseId = none) :
      Change manager (.issue now lease)
        { leases := manager.leases.insert lease.leaseId lease
          usage := manager.usage.insert lease.leaseId ∅ }
  | setLease {command : LeaseCommand P} {leaseId : String} {found changed : AuthorityLease}
      (hlookup : manager.leases.lookup leaseId = some found) (hclosed : changed.Closed) :
      Change manager command (manager.setLease leaseId changed)
  | reserve {now later : Time} {envelope : AuthorizedActionEnvelope P}
      {lease : AuthorityLease}
      (hlookup : manager.leases.lookup envelope.leaseId = some lease)
      (hcovers : lease.Covers now later envelope) :
      Change manager (.reserveUse now later envelope) (manager.recordUse lease envelope)

theorem apply_change (manager : AuthorityLeaseManager) (command : LeaseCommand P) :
    Change manager command (manager.apply command) := by
  cases command with
  | issue now lease =>
    cases hissue : manager.issue now lease with
    | error error =>
      simp only [apply, hissue]
      exact .same _
    | ok leases =>
      obtain ⟨rfl, hnew, -⟩ := issue_ok hissue
      simp only [apply, hissue]
      exact .issue hnew
  | reserveUse now later envelope =>
    have hreserve : manager.reserveUse now later envelope =
      ((manager.reserveUse now later envelope).1,
        (manager.reserveUse now later envelope).2) := rfl
    rcases reserveUse_cases hreserve with
      ⟨hkept, -⟩ | ⟨lease, hlookup, hcovers, ⟨hkept, -⟩ | ⟨hrecorded, -⟩⟩
    · rw [apply, hkept]
      exact .same _
    · rw [apply, hkept]
      exact .same _
    · rw [apply, hrecorded]
      exact .reserve hlookup hcovers
  | finalize leaseId =>
    cases hfinalize : manager.finalize leaseId with
    | error error =>
      simp only [apply, hfinalize]
      exact .same _
    | ok answer =>
      obtain ⟨leases, state⟩ := answer
      simp only [apply, hfinalize]
      obtain ⟨found, hfound, rfl | rfl⟩ := finalize_ok hfinalize
      · exact .same _
      · exact .setLease hfound (.inl rfl)
  | release leaseId =>
    cases hrelease : manager.release leaseId with
    | error error =>
      simp only [apply, hrelease]
      exact .same _
    | ok leases =>
      simp only [apply, hrelease]
      obtain ⟨found, hfound, rfl | rfl⟩ := release_ok hrelease
      · exact .same _
      · exact .setLease hfound (.inl rfl)
  | revoke leaseId =>
    cases hrevoke : manager.revoke leaseId with
    | error error =>
      simp only [apply, hrevoke]
      exact .same _
    | ok leases =>
      simp only [apply, hrevoke]
      obtain ⟨found, hfound, rfl⟩ := revoke_ok hrevoke
      exact .setLease hfound (.inr rfl)

/-- The lease is closed, with the given reservations. -/
def Shut (manager : AuthorityLeaseManager) (leaseId : String)
    (reserved : String → Option (String × ℕ)) : Prop :=
  (∃ lease, manager.leases.lookup leaseId = some lease ∧ lease.Closed) ∧
    ∀ key, manager.reservation leaseId key = reserved key

variable {reserved : String → Option (String × ℕ)}

theorem Shut.lookup_insert (h : manager.Shut leaseId reserved) {other : String}
    {changed : AuthorityLease} (hother : leaseId ≠ other ∨ changed.Closed) :
    ∃ lease, (manager.leases.insert other changed).lookup leaseId = some lease ∧
      lease.Closed := by
  rw [Dict.lookup_insert_eq]
  split
  · rename_i hsame
    exact ⟨changed, rfl, hother.resolve_left (not_not.mpr hsame)⟩
  · exact h.1

/-- No command reserves a use of a closed lease. -/
theorem Shut.apply (h : manager.Shut leaseId reserved) (command : LeaseCommand P) :
    (manager.apply command).Shut leaseId reserved := by
  obtain ⟨lease, hlookup, hclosed⟩ := h.1
  have hchange := apply_change manager command
  generalize manager.apply command = later at hchange ⊢
  cases hchange with
  | same => exact h
  | @issue now issued hnew =>
    have hother : leaseId ≠ issued.leaseId := by
      rintro rfl
      rw [hnew] at hlookup
      cases hlookup
    refine ⟨h.lookup_insert (.inl hother), fun key => ?_⟩
    rw [issue_reservation, if_neg hother]
    exact h.2 key
  | setLease hfound hchanged => exact ⟨h.lookup_insert (.inr hchanged), h.2⟩
  | @reserve now later envelope found hfound hcovers =>
    have hother : leaseId ≠ envelope.leaseId := by
      rintro rfl
      rw [hlookup] at hfound
      cases hfound
      rcases hclosed with hreleased | hrevoked
      · exact hcovers.notReleased hreleased
      · rw [hcovers.notRevoked] at hrevoked
        cases hrevoked
    refine ⟨h.lookup_insert (.inl hother), fun key => ?_⟩
    rw [recordUse_reservation, if_neg fun hsame => hother hsame.1]
    exact h.2 key

/-- A manager's commands, one after the other. -/
def applyAll (manager : AuthorityLeaseManager) (commands : List (LeaseCommand P)) :
    AuthorityLeaseManager :=
  run apply manager commands

theorem Shut.applyAll (h : manager.Shut leaseId reserved) (commands : List (LeaseCommand P)) :
    (manager.applyAll commands).Shut leaseId reserved :=
  run_invariant (fun manager => Shut manager leaseId reserved)
    (fun _ command hshut => hshut.apply command) h commands

/-! ## Balance -/

/-- The uses, the state and the reservations of a lease agree, and once it is released or
revoked no command reserves under it. -/
structure Balanced (P : Type) (manager : AuthorityLeaseManager) (leaseId : String)
    (lease : AuthorityLease) : Prop where
  bounded : lease.usesConsumed ≤ lease.maxUses
  keys : ((reservationRows (manager.reservationsOf leaseId)).map (·.1)).Nodup
  indices : ((reservationRows (manager.reservationsOf leaseId)).map (·.2.2)).Perm
    (List.range' 1 lease.usesConsumed)
  active : lease.state = .active ↔ lease.usesConsumed = 0 ∧ lease.state ≠ .released
  closed : lease.Closed → ∀ commands : List (LeaseCommand P),
    (∀ key, (manager.applyAll commands).reservation leaseId key =
      manager.reservation leaseId key) ∧
    ∀ (now later : Time) (envelope : AuthorizedActionEnvelope P),
      envelope.leaseId = leaseId → ∃ reason,
        (manager.applyAll commands).reserveUse now later envelope =
          (manager.applyAll commands, .error reason)
  single : lease.singleUse = true →
    (reservationRows (manager.reservationsOf leaseId)).length ≤ 1

theorem Accounted.balanced (h : manager.Accounted)
    (hlookup : manager.leases.lookup leaseId = some lease) :
    manager.Balanced P leaseId lease where
  bounded := h.metered.bounded hlookup
  keys := reservationRows_keys_nodup _
  indices := h.indices hlookup
  active := by
    constructor
    · intro hactive
      exact ⟨h.sound.active hlookup hactive, by rw [hactive]; decide⟩
    · rintro ⟨hunused, -⟩
      by_contra hstate
      exact absurd hunused (h.spent hlookup hstate).ne'
  closed := by
    intro hclosed commands
    have hshut : manager.Shut leaseId (manager.reservation leaseId) :=
      ⟨⟨lease, hlookup, hclosed⟩, fun _ => rfl⟩
    obtain ⟨⟨later, hlater, hstill⟩, hreserved⟩ := hshut.applyAll commands
    refine ⟨hreserved, fun now after envelope hid => ?_⟩
    rw [← hid] at hlater
    exact reserveUse_closed hlater hstill
  single := by
    intro hsingle
    have hlength := (h.indices hlookup).length_eq
    rw [List.length_map, List.length_range'] at hlength
    rw [hlength, ← h.sound.single hlookup hsingle]
    exact h.metered.bounded hlookup

/-! ## Restorable managers -/

/-- Every reservation has a key and an action id. -/
def Labelled (manager : AuthorityLeaseManager) : Prop :=
  ∀ leaseId key actionId useIndex,
    manager.reservation leaseId key = some (actionId, useIndex) → key ≠ "" ∧ actionId ≠ ""

theorem readRow_isSome_iff {row : ReservationRow} :
    (readRow row).isSome = true ↔ row.1 ≠ "" ∧ row.2.1 ≠ "" := by
  unfold readRow
  split_ifs with h
  · simp only [Option.isSome_none, Bool.false_eq_true, false_iff, not_and_or, not_not]
    exact h
  · simpa only [Option.isSome_some, true_iff, not_or] using h

theorem Accounted.readLease_isSome_iff (h : manager.Accounted)
    (hlookup : manager.leases.lookup leaseId = some lease) :
    (readLease ⟨lease, reservationRows (manager.reservationsOf leaseId)⟩).toOption.isSome =
        true ↔
      ∀ row ∈ reservationRows (manager.reservationsOf leaseId), (readRow row).isSome = true := by
  constructor
  · intro hsome
    obtain ⟨held, hheld⟩ := Option.isSome_iff_exists.mp hsome
    obtain ⟨-, -, hrows, -⟩ := readLease_ok_iff.mp (toOption_eq_some hheld)
    exact (readReservation_loads.loaded hrows).1
  · intro hrows
    have hfresh : ∀ row ∈ reservationRows (manager.reservationsOf leaseId),
        (∅ : Reservations).lookup row.1 = none ∧ (readRow row).isSome = true :=
      fun row hrow => ⟨AList.lookup_empty _, hrows row hrow⟩
    obtain ⟨reservations, hread⟩ := readReservation_loads.exists_loaded
      (reservationRows_keys_nodup (manager.reservationsOf leaseId)) hfresh
    have hlease : readLease ⟨lease, reservationRows (manager.reservationsOf leaseId)⟩ =
        .ok (lease, reservations) :=
      readLease_ok_iff.mpr ⟨rfl, h.metered.bounded hlookup, hread, h.indices hlookup⟩
    rw [hlease]
    rfl

/-- The snapshot of a reachable manager is rebuilt exactly if its reservations are
labelled. -/
theorem Accounted.restorable_iff (h : manager.Accounted) :
    (∃ restored, manager.snapshot.foldlM readItem empty = .ok restored) ↔
      manager.Labelled := by
  constructor
  · rintro ⟨restored, hread⟩ leaseId key actionId useIndex hreservation
    obtain ⟨lease, hlookup, -⟩ := h.metered.indexed hreservation
    have hitem : (⟨lease, reservationRows (manager.reservationsOf leaseId)⟩ :
        LeaseSnapshot) ∈ manager.snapshot := by
      rw [mem_snapshot h.named, h.named hlookup]
      exact ⟨hlookup, rfl⟩
    have hrows := (h.readLease_isSome_iff hlookup).mp
      ((readItem_loads.loaded hread).1 _ hitem)
    have hrow : ((key, actionId, useIndex) : ReservationRow) ∈
        reservationRows (manager.reservationsOf leaseId) := by
      rw [mem_reservationRows, lookup_reservationsOf]
      exact hreservation
    exact readRow_isSome_iff.mp (hrows _ hrow)
  · intro hlabelled
    apply readItem_loads.exists_loaded (snapshot_keys_nodup h.named)
    intro item hitem
    obtain ⟨hlookup, hrows⟩ := (mem_snapshot h.named).mp hitem
    refine ⟨rfl, ?_⟩
    have hitemRows : item = ⟨item.lease,
        reservationRows (manager.reservationsOf item.lease.leaseId)⟩ := by rw [← hrows]
    rw [hitemRows]
    refine (h.readLease_isSome_iff hlookup).mpr fun row hrow => ?_
    rw [mem_reservationRows, lookup_reservationsOf] at hrow
    exact readRow_isSome_iff.mpr (hlabelled _ _ _ _ hrow)

theorem Labelled.apply (h : manager.Labelled) {command : LeaseCommand P}
    (hlabels : command.Labels) : (manager.apply command).Labelled := by
  have hchange := apply_change manager command
  generalize manager.apply command = later at hchange ⊢
  intro leaseId key actionId useIndex hreservation
  cases hchange with
  | same | setLease => exact h leaseId key actionId useIndex hreservation
  | issue =>
    rw [issue_reservation] at hreservation
    split at hreservation
    · cases hreservation
    · exact h leaseId key actionId useIndex hreservation
  | reserve =>
    rw [recordUse_reservation] at hreservation
    split at hreservation
    · rename_i hsame
      cases hreservation
      rw [hsame.2]
      exact hlabels
    · exact h leaseId key actionId useIndex hreservation

theorem applyAll_labelled {commands : List (LeaseCommand P)}
    (hlabels : ∀ command ∈ commands, command.Labels) : (empty.applyAll commands).Labelled := by
  have hempty : Labelled empty := fun _ _ _ _ hreservation => by cases hreservation
  exact run_invariant_of_admissible Labelled (fun _ _ h hlabels => h.apply hlabels) hempty
    (Admissible.of_forall hlabels)

theorem applyAll_accounted (commands : List (LeaseCommand P)) :
    (empty.applyAll commands).Accounted :=
  run_invariant Accounted (fun _ command h => h.apply command) empty_accounted commands

theorem grows_apply (hmetered : manager.Metered) (command : LeaseCommand P) :
    Grows manager (manager.apply command) := by
  cases command with
  | reserveUse now later envelope => exact grows_reserveUse Prod.mk.eta.symm
  | issue now lease =>
    rw [apply]
    cases h : manager.issue now lease with
    | error error => exact .refl manager
    | ok leases => exact grows_issue hmetered h
  | finalize leaseId =>
    rw [apply]
    cases h : manager.finalize leaseId with
    | error error => exact .refl manager
    | ok answer => exact grows_finalize h
  | release leaseId =>
    rw [apply]
    cases h : manager.release leaseId with
    | error error => exact .refl manager
    | ok leases => exact grows_release h
  | revoke leaseId =>
    rw [apply]
    cases h : manager.revoke leaseId with
    | error error => exact .refl manager
    | ok leases => exact grows_revoke h

/-- Whatever is done to a manager later, an issued lease keeps its terms and does not go back
to an earlier state, and no reservation is lost or changed. -/
theorem applyAll_grows (before more : List (LeaseCommand P)) :
    Grows (empty.applyAll before) (empty.applyAll (before ++ more)) := by
  rw [applyAll, applyAll, run_append]
  apply And.right
  apply run_invariant (fun later => later.Accounted ∧ Grows (run apply empty before) later)
  · intro later command h
    exact ⟨h.1.apply command, h.2.trans (grows_apply h.1.metered command)⟩
  · exact ⟨applyAll_accounted before, .refl _⟩

end AuthorityLeaseManager

/-! ## Runs -/

/-- The manager in use and the authenticated snapshots taken so far. -/
structure LeaseLedger where
  manager : AuthorityLeaseManager
  snapshots : List AuthenticatedLeaseSnapshot

inductive LedgerStep (P : Type) where
  | command (command : LeaseCommand P)
  | snapshot (authenticationKey : AuthenticationKey)
  /-- `from_snapshot` of an earlier snapshot, by its number. -/
  | restore (number : ℕ) (authenticationKey : Option AuthenticationKey)

namespace LeaseLedger

def empty : LeaseLedger := ⟨.empty, []⟩

def step (hmac : SnapshotMac) (ledger : LeaseLedger) : LedgerStep P → LeaseLedger
  | .command command => { ledger with manager := ledger.manager.apply command }
  | .snapshot authenticationKey =>
    match ledger.manager.authenticatedSnapshot hmac authenticationKey with
    | .error _ => ledger
    | .ok signed => { ledger with snapshots := ledger.snapshots ++ [signed] }
  | .restore number authenticationKey =>
    match ledger.snapshots[number]? with
    | none => ledger
    | some signed =>
      match fromSnapshot hmac (.inl signed) authenticationKey with
      | .error _ => ledger
      | .ok manager => { ledger with manager := manager }

structure Accounted (ledger : LeaseLedger) : Prop where
  manager : ledger.manager.Accounted
  snapshots : ∀ signed ∈ ledger.snapshots, ∃ manager : AuthorityLeaseManager,
    manager.Accounted ∧ signed.snapshots = manager.snapshot

theorem step_accounted {hmac : SnapshotMac} {ledger : LeaseLedger} (h : ledger.Accounted)
    (step : LedgerStep P) : (ledger.step hmac step).Accounted := by
  cases step with
  | command command => exact ⟨h.manager.apply command, h.snapshots⟩
  | snapshot authenticationKey =>
    unfold LeaseLedger.step
    dsimp only
    split
    · exact h
    · rename_i signed hsigned
      have hrows : signed.snapshots = ledger.manager.snapshot := by
        unfold authenticatedSnapshot AuthenticatedLeaseSnapshot.sign
          at hsigned
        split_ifs at hsigned
        cases hsigned
        rfl
      refine ⟨h.manager, fun other hother => ?_⟩
      rcases List.mem_append.mp hother with hold | hnew
      · exact h.snapshots other hold
      · rw [List.mem_singleton.mp hnew]
        exact ⟨ledger.manager, h.manager, hrows⟩
  | restore number authenticationKey =>
    unfold LeaseLedger.step
    dsimp only
    split
    · exact h
    · rename_i signed hsigned
      split
      · exact h
      · rename_i restored hrestored
        obtain ⟨earlier, hearlier, hrows⟩ :=
          h.snapshots signed (List.mem_of_getElem? hsigned)
        have hread := fromSnapshot_ok hrestored
        rw [hrows] at hread
        obtain ⟨hagrees, hopened⟩ :=
          restored_agrees hearlier.named hearlier.opened hread
        exact ⟨hearlier.of_agrees hopened hagrees, h.snapshots⟩

theorem run_accounted (hmac : SnapshotMac) (steps : List (LedgerStep P)) :
    (run (step hmac) empty steps).Accounted := by
  have hempty : Accounted empty :=
    ⟨empty_accounted, fun _ hsigned => by cases hsigned⟩
  exact run_invariant Accounted (fun _ step h => step_accounted h step) hempty steps

/-- Every lease of every reachable manager is balanced. -/
theorem run_balanced (hmac : SnapshotMac) (steps : List (LedgerStep P)) {leaseId : String}
    {lease : AuthorityLease}
    (hlookup : (run (step hmac) empty steps).manager.leases.lookup leaseId = some lease) :
    (run (step hmac) empty steps).manager.Balanced P leaseId lease :=
  (run_accounted hmac steps).manager.balanced hlookup

end LeaseLedger

/-! ## In the repository's configuration -/

namespace Fixture

/-- An HMAC of the fixture. -/
def hmac : SnapshotMac := fun _ _ => "mac"

/-- The reservation of a use for a proposal under a lease of one use. -/
def reserving (p : ActionProposal ℕ) : List (LedgerStep ℕ) :=
  (buildEnvelope p 1).toList.map fun envelope => .command (.reserveUse 100 100 envelope)

/-- Issue, reserve, snapshot, release, and a restart from the snapshot. -/
def restartedSteps : List (LedgerStep ℕ) :=
  .command (.issue 100 lease) :: reserving proposal ++
    [.snapshot [7], .command (.release "lease-1"), .restore 0 (some [7])]

end Fixture

theorem run_balanced_fixture :
    (run (LeaseLedger.step Fixture.hmac) .empty Fixture.restartedSteps).manager.Balanced ℕ
      "lease-1" { Fixture.lease with usesConsumed := 1, state := .consumed } := by
  apply LeaseLedger.run_balanced
  rfl

end ReisOs.Kernel
