import ReisOs.Core.Loading
import ReisOs.Kernel.LeaseHistory

/-!
# Authenticated lease snapshots

`snapshot`, `authenticated_snapshot` and `from_snapshot`.  The decoder checks every
reservation by rules of its own: a snapshot is rebuilt exactly if each of its rows passes
them, and the rebuilt manager then holds what the snapshot's manager held.
-/

namespace ReisOs.Kernel

open ReisOs.Core

/-- A reservation as a snapshot lists it: key, action and use index. -/
abbrev ReservationRow := String × String × ℕ

structure LeaseSnapshot where
  lease : AuthorityLease
  reservations : List ReservationRow
  deriving DecidableEq

structure AuthenticatedLeaseSnapshot where
  snapshots : List LeaseSnapshot
  mac : String
  algorithm : String
  deriving DecidableEq

/-- Bytes of an authentication key. -/
abbrev AuthenticationKey := List UInt8

/-- The keyed HMAC over the canonical bytes of the snapshots, in hexadecimal. -/
abbrev SnapshotMac := AuthenticationKey → List LeaseSnapshot → String

namespace AuthenticatedLeaseSnapshot

def sign (hmac : SnapshotMac) (snapshots : List LeaseSnapshot)
    (authenticationKey : AuthenticationKey) : Except PyError AuthenticatedLeaseSnapshot :=
  if authenticationKey.isEmpty then
    .error (.valueError "lease_snapshot_authentication_key_required")
  else .ok ⟨snapshots, hmac authenticationKey snapshots, "HMAC-SHA256"⟩

def authenticated (hmac : SnapshotMac) (signed : AuthenticatedLeaseSnapshot)
    (authenticationKey : AuthenticationKey) : Bool :=
  if signed.algorithm != "HMAC-SHA256" || authenticationKey.isEmpty then false
  else hmac authenticationKey signed.snapshots == signed.mac

end AuthenticatedLeaseSnapshot

namespace AuthorityLeaseManager

/-- The reservations of a lease; `issue` opens a table for every lease. -/
def reservationsOf (manager : AuthorityLeaseManager) (leaseId : String) : Reservations :=
  (manager.usage.lookup leaseId).getD ∅

/-- The rows of a reservation table, sorted by their keys, which are distinct. -/
def reservationRows (reservations : Reservations) : List ReservationRow :=
  (reservations.entries.map fun entry => (entry.1, entry.2)).insertionSort
    fun left right => left.1 ≤ right.1

def snapshot (manager : AuthorityLeaseManager) : List LeaseSnapshot :=
  manager.leases.entries.map fun entry =>
    ⟨entry.2, reservationRows (manager.reservationsOf entry.1)⟩

def authenticatedSnapshot (hmac : SnapshotMac) (manager : AuthorityLeaseManager)
    (authenticationKey : AuthenticationKey) : Except PyError AuthenticatedLeaseSnapshot :=
  AuthenticatedLeaseSnapshot.sign hmac manager.snapshot authenticationKey

/-- One round of the inner loop of `from_snapshot`. -/
def readReservation (reservations : Reservations) (row : ReservationRow) :
    Except PyError Reservations :=
  if row.1 = "" ∨ row.2.1 = "" then
    .error (.valueError "lease_snapshot_reservation_binding_invalid")
  else if (reservations.lookup row.1).isSome then
    .error (.valueError "lease_snapshot_duplicate_idempotency_key")
  else .ok (reservations.insert row.1 row.2)

/-- The checks of `from_snapshot` on one row, its lease id apart. -/
def readLease (item : LeaseSnapshot) : Except PyError (AuthorityLease × Reservations) :=
  if item.lease.maxUses < item.lease.usesConsumed then
    .error (.valueError "lease_snapshot_usage_invalid")
  else
    match item.reservations.foldlM readReservation ∅ with
    | .error error => .error error
    | .ok reservations =>
      let indices := item.reservations.map (·.2.2)
      if indices.insertionSort (· ≤ ·) ≠ List.range' 1 item.lease.usesConsumed ∨
          ¬indices.Nodup then
        .error (.valueError "lease_snapshot_index_set_invalid")
      else .ok (item.lease, reservations)

/-- One round of the outer loop of `from_snapshot`. -/
def readItem (manager : AuthorityLeaseManager) (item : LeaseSnapshot) :
    Except PyError AuthorityLeaseManager :=
  if (manager.leases.lookup item.lease.leaseId).isSome then
    .error (.valueError "duplicate_lease_id")
  else
    match readLease item with
    | .error error => .error error
    | .ok (lease, reservations) =>
      .ok
        { leases := manager.leases.insert lease.leaseId lease
          usage := manager.usage.insert lease.leaseId reservations }

/-- `from_snapshot`; a plain tuple of rows is refused. -/
def fromSnapshot (hmac : SnapshotMac)
    (snapshot : AuthenticatedLeaseSnapshot ⊕ List LeaseSnapshot)
    (authenticationKey : Option AuthenticationKey) : Except PyError AuthorityLeaseManager :=
  match snapshot with
  | .inr _ => .error (.valueError "lease_snapshot_authentication_required")
  | .inl signed =>
    if authenticationKey.any (signed.authenticated hmac) then
      signed.snapshots.foldlM readItem empty
    else .error (.valueError "lease_snapshot_authentication_failed")

/-! ## Equal managers -/

/-- The two managers hold the same leases and the same reservations. -/
structure Agrees (left right : AuthorityLeaseManager) : Prop where
  lease : ∀ leaseId, left.leases.lookup leaseId = right.leases.lookup leaseId
  reservation : ∀ leaseId key, left.reservation leaseId key = right.reservation leaseId key

/-- Every lease has its reservation table, and no table is without its lease. -/
def Opened (manager : AuthorityLeaseManager) : Prop :=
  ∀ leaseId, (manager.usage.lookup leaseId).isSome = (manager.leases.lookup leaseId).isSome

/-- Every lease stands under its own id. -/
def Named (manager : AuthorityLeaseManager) : Prop :=
  ∀ {leaseId lease}, manager.leases.lookup leaseId = some lease → lease.leaseId = leaseId

variable {manager restored : AuthorityLeaseManager} {lease : AuthorityLease}
  {leaseId key : String}

theorem lookup_reservationsOf :
    (manager.reservationsOf leaseId).lookup key = manager.reservation leaseId key := by
  unfold reservationsOf reservation
  cases manager.usage.lookup leaseId <;> rfl

theorem mem_reservationRows {reservations : Reservations} {row : ReservationRow} :
    row ∈ reservationRows reservations ↔ reservations.lookup row.1 = some row.2 := by
  rw [reservationRows, List.mem_insertionSort, List.mem_map, ← Option.mem_def,
    AList.mem_lookup_iff]
  constructor
  · rintro ⟨entry, hentry, rfl⟩
    exact hentry
  · intro hentry
    exact ⟨⟨row.1, row.2⟩, hentry, rfl⟩

theorem reservationRows_keys_nodup (reservations : Reservations) :
    ((reservationRows reservations).map (·.1)).Nodup := by
  have hperm := (List.perm_insertionSort (fun left right : ReservationRow => left.1 ≤ right.1)
    (reservations.entries.map fun entry => (entry.1, entry.2))).map (·.1)
  rw [reservationRows, hperm.nodup_iff, List.map_map]
  exact reservations.nodupKeys

/-! ## Reading a snapshot back -/

/-- The value a row gives, if both its names are there. -/
def readRow (row : ReservationRow) : Option (String × ℕ) :=
  if row.1 = "" ∨ row.2.1 = "" then none else some row.2

theorem readReservation_loads :
    Loads (fun (reservations : Reservations) key => reservations.lookup key) (·.1)
      readRow readReservation where
  accepted {reservations row next} h := by
    unfold readReservation at h
    split_ifs at h with hbinding hduplicate
    cases h
    refine ⟨by simpa using hduplicate, row.2, if_neg hbinding, fun other => ?_⟩
    exact Dict.lookup_insert_eq reservations row.1 other row.2
  accepts {reservations row value} hnew hread := by
    unfold readRow at hread
    split_ifs at hread with hbinding
    have hduplicate : ¬(reservations.lookup row.1).isSome = true := by simp [hnew]
    exact ⟨_, by rw [readReservation, if_neg hbinding, if_neg hduplicate]⟩

/-- What a manager holds under a lease id. -/
def entry (manager : AuthorityLeaseManager) (leaseId : String) :
    Option (AuthorityLease × Reservations) :=
  (manager.leases.lookup leaseId).map fun lease => (lease, manager.reservationsOf leaseId)

theorem indices_valid_iff {indices : List ℕ} {uses : ℕ} :
    ¬(indices.insertionSort (· ≤ ·) ≠ List.range' 1 uses ∨ ¬indices.Nodup) ↔
      indices.Perm (List.range' 1 uses) := by
  rw [not_or, not_not, not_not]
  constructor
  · rintro ⟨hsorted, -⟩
    rw [← hsorted]
    exact (List.perm_insertionSort _ indices).symm
  · intro hperm
    refine ⟨?_, hperm.nodup_iff.mpr List.nodup_range'⟩
    have hsorted := List.pairwise_insertionSort (· ≤ ·) indices
    exact ((List.perm_insertionSort _ indices).trans hperm).eq_of_pairwise' hsorted
      (List.pairwise_le_range' 1)

variable {item : LeaseSnapshot}

theorem readLease_ok_iff {held : AuthorityLease × Reservations} :
    readLease item = .ok held ↔
      held.1 = item.lease ∧ item.lease.usesConsumed ≤ item.lease.maxUses ∧
        item.reservations.foldlM readReservation ∅ = .ok held.2 ∧
        (item.reservations.map (·.2.2)).Perm (List.range' 1 item.lease.usesConsumed) := by
  rw [← indices_valid_iff]
  unfold readLease
  by_cases huses : item.lease.maxUses < item.lease.usesConsumed
  · rw [if_pos huses]
    simp [Nat.not_le.mpr huses]
  · rw [if_neg huses]
    cases item.reservations.foldlM readReservation ∅ with
    | error error => simp
    | ok reservations =>
      dsimp only
      split
      · rename_i hinvalid
        simp [hinvalid]
      · rename_i hvalid
        rw [Except.ok.injEq, Except.ok.injEq]
        constructor
        · rintro rfl
          exact ⟨rfl, Nat.le_of_not_lt huses, rfl, hvalid⟩
        · rintro ⟨hlease, -, hreservations, -⟩
          exact Prod.ext hlease.symm hreservations

theorem readItem_loads :
    Loads entry (·.lease.leaseId) (fun item => (readLease item).toOption) readItem where
  accepted {manager item next} h := by
    unfold readItem at h
    split_ifs at h with hduplicate
    split at h
    · cases h
    · rename_i lease reservations hread
      obtain rfl : lease = item.lease := (readLease_ok_iff.mp hread).1
      cases h
      refine ⟨by simpa [entry] using hduplicate, (item.lease, reservations),
        by rw [hread]; rfl, fun other => ?_⟩
      simp only [entry, reservationsOf, Dict.lookup_insert_eq]
      split <;> rfl
  accepts {manager item held} hnew hread := by
    have hduplicate : ¬(manager.leases.lookup item.lease.leaseId).isSome = true := by
      simpa [entry] using hnew
    cases hitem : readLease item with
    | error error =>
      rw [hitem] at hread
      cases hread
    | ok held => exact ⟨_, by rw [readItem, if_neg hduplicate, hitem]⟩

/-! ## What a snapshot restores -/

theorem mem_snapshot (hnamed : manager.Named) :
    item ∈ manager.snapshot ↔
      manager.leases.lookup item.lease.leaseId = some item.lease ∧
        item.reservations = reservationRows (manager.reservationsOf item.lease.leaseId) := by
  rw [snapshot, List.mem_map]
  constructor
  · rintro ⟨entry, hentry, rfl⟩
    have hlookup : manager.leases.lookup entry.1 = some entry.2 :=
      AList.mem_lookup_iff.mpr hentry
    rw [hnamed hlookup]
    exact ⟨hlookup, rfl⟩
  · rintro ⟨hlookup, hreservations⟩
    refine ⟨⟨item.lease.leaseId, item.lease⟩, AList.mem_lookup_iff.mp hlookup, ?_⟩
    rw [← hreservations]

theorem snapshot_keys_nodup (hnamed : manager.Named) :
    (manager.snapshot.map (·.lease.leaseId)).Nodup := by
  have hkeys : manager.snapshot.map (·.lease.leaseId) = manager.leases.keys := by
    rw [snapshot, List.map_map]
    apply List.map_congr_left
    intro entry hentry
    exact hnamed (AList.mem_lookup_iff.mpr hentry)
  rw [hkeys]
  exact manager.leases.keys_nodup

theorem lookup_of_rows {reservations read : Reservations}
    (h : (reservationRows reservations).foldlM readReservation ∅ = .ok read) :
    read.lookup key = reservations.lookup key := by
  obtain ⟨hreadable, hlast⟩ := readReservation_loads.loaded h
  apply Option.ext
  intro held
  rw [hlast]
  constructor
  · rintro (hempty | ⟨row, hrow, rfl, hread⟩)
    · cases hempty
    · have hheld := mem_reservationRows.mp hrow
      unfold readRow at hread
      split_ifs at hread
      rwa [← hread]
  · intro hheld
    have hrow : ((key, held) : ReservationRow) ∈ reservationRows reservations :=
      mem_reservationRows.mpr hheld
    obtain ⟨value, hread⟩ := Option.isSome_iff_exists.mp (hreadable _ hrow)
    refine .inr ⟨(key, held), hrow, rfl, ?_⟩
    rw [hread]
    unfold readRow at hread
    split_ifs at hread
    exact hread.symm

theorem readItem_opened (h : manager.Opened)
    (hread : readItem manager item = .ok restored) : restored.Opened := by
  unfold readItem at hread
  split_ifs at hread
  split at hread
  · cases hread
  · cases hread
    intro leaseId
    rw [Dict.lookup_insert_eq, Dict.lookup_insert_eq]
    split
    · rfl
    · exact h leaseId

theorem fromSnapshot_ok {hmac : SnapshotMac} {signed : AuthenticatedLeaseSnapshot}
    {authenticationKey : Option AuthenticationKey}
    (h : fromSnapshot hmac (.inl signed) authenticationKey = .ok restored) :
    signed.snapshots.foldlM readItem empty = .ok restored := by
  unfold fromSnapshot at h
  dsimp only at h
  split_ifs at h
  exact h

theorem Opened.lookup_usage (h : manager.Opened)
    (hlookup : manager.leases.lookup leaseId = none) :
    manager.usage.lookup leaseId = none := by
  have hopened := h leaseId
  rw [hlookup] at hopened
  exact Option.isNone_iff_eq_none.mp (Option.isSome_eq_false_iff.mp hopened)

theorem toOption_eq_some {A : Type} {answer : Except PyError A} {value : A}
    (h : answer.toOption = some value) : answer = .ok value := by
  cases answer with
  | error error => cases h
  | ok held =>
    cases h
    rfl

theorem restored_held (hnamed : manager.Named)
    (h : manager.snapshot.foldlM readItem empty = .ok restored)
    (hlookup : manager.leases.lookup leaseId = some lease) :
    restored.leases.lookup leaseId = some lease ∧
      ∀ key, restored.reservation leaseId key = manager.reservation leaseId key := by
  have hid : lease.leaseId = leaseId := hnamed hlookup
  obtain ⟨hreadable, hlast⟩ := readItem_loads.loaded h
  have hitem : (⟨lease, reservationRows (manager.reservationsOf leaseId)⟩ :
      LeaseSnapshot) ∈ manager.snapshot := by
    rw [mem_snapshot hnamed, hid]
    exact ⟨hlookup, rfl⟩
  obtain ⟨⟨held, reservations⟩, hheld⟩ := Option.isSome_iff_exists.mp (hreadable _ hitem)
  obtain ⟨hheldLease, -, hrows, -⟩ := readLease_ok_iff.mp (toOption_eq_some hheld)
  have hentry : restored.entry leaseId = some (lease, reservations) := by
    have hsame : held = lease := hheldLease
    rw [hlast, ← hsame]
    exact .inr ⟨_, hitem, hid, hheld⟩
  unfold entry at hentry
  cases hfound : restored.leases.lookup leaseId with
  | none =>
    rw [hfound] at hentry
    cases hentry
  | some found =>
    rw [hfound, Option.map_some, Option.some.injEq, Prod.mk.injEq] at hentry
    refine ⟨congrArg some hentry.1, fun key => ?_⟩
    rw [← lookup_reservationsOf, ← lookup_reservationsOf, hentry.2]
    exact lookup_of_rows hrows

theorem restored_none (hnamed : manager.Named)
    (h : manager.snapshot.foldlM readItem empty = .ok restored)
    (hlookup : manager.leases.lookup leaseId = none) :
    restored.leases.lookup leaseId = none := by
  by_contra hsome
  obtain ⟨lease, hfound⟩ := Option.ne_none_iff_exists'.mp hsome
  have hentry : restored.entry leaseId = some (lease, restored.reservationsOf leaseId) := by
    rw [entry, hfound, Option.map_some]
  obtain hempty | ⟨item, hitem, rfl, -⟩ :=
    ((readItem_loads.loaded h).2 _ _).mp hentry
  · cases hempty
  · rw [((mem_snapshot hnamed).mp hitem).1] at hlookup
    cases hlookup

theorem restored_agrees (hnamed : manager.Named) (hopened : manager.Opened)
    (h : manager.snapshot.foldlM readItem empty = .ok restored) :
    restored.Agrees manager ∧ restored.Opened := by
  have hrestored : restored.Opened :=
    foldlM_invariant Opened (fun _ _ _ _ hread hinv => readItem_opened hinv hread)
      (fun leaseId => rfl) h
  have hpair (leaseId : String) :
      restored.leases.lookup leaseId = manager.leases.lookup leaseId ∧
        ∀ key, restored.reservation leaseId key = manager.reservation leaseId key := by
    cases hlookup : manager.leases.lookup leaseId with
    | none =>
      have hnone := restored_none hnamed h hlookup
      refine ⟨hnone, fun key => ?_⟩
      rw [reservation, reservation, hrestored.lookup_usage hnone,
        hopened.lookup_usage hlookup]
    | some lease => exact restored_held hnamed h hlookup
  exact ⟨⟨fun leaseId => (hpair leaseId).1, fun leaseId => (hpair leaseId).2⟩, hrestored⟩

end AuthorityLeaseManager

end ReisOs.Kernel
