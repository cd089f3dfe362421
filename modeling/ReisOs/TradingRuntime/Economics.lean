import ReisOs.Core.Decimals
import ReisOs.Core.Runs

/-!
# The economic governor

`EconomicGovernor`: expected costs are reserved against the limits, and actual costs are
booked when a reservation is reconciled.  Sums are rounded to 28 significant digits.
-/

namespace ReisOs.TradingRuntime

open ReisOs.Core

/-- A sum in the context of `Decimal`. -/
def decimalAdd (x y : ℚ) : ℚ := roundSignificant 28 (x + y)

def decimalSub (x y : ℚ) : ℚ := roundSignificant 28 (x - y)

structure BudgetPolicy where
  daily : ℚ
  monthly : ℚ
  run : ℚ
  signal : ℚ
  cycleCallLimit : ℤ
  strongModelLimit : ℤ
  deriving DecidableEq, Repr

structure Reservation where
  reservationId : String
  expectedCost : ℚ
  strong : Bool
  deriving DecidableEq, Repr

structure EconomicGovernor where
  policy : BudgetPolicy
  spentDaily : ℚ
  spentMonthly : ℚ
  spentRun : ℚ
  callsThisCycle : ℤ
  strongCallsToday : ℤ
  reserved : ℚ
  /-- The values of `_reservations`, in the order of the dictionary. -/
  reservations : List Reservation
  deriving DecidableEq, Repr

/-- `EconomicGovernor(policy)`. -/
def initialGovernor (policy : BudgetPolicy) : EconomicGovernor :=
  ⟨policy, 0, 0, 0, 0, 0, 0, []⟩

/-- The outstanding reservations for the strong model. -/
def strongCount : List Reservation → ℤ
  | [] => 0
  | reservation :: rest => (if reservation.strong then 1 else 0) + strongCount rest

/-- The sum of the expected costs. -/
def expectedTotal : List Reservation → ℚ
  | [] => 0
  | reservation :: rest => reservation.expectedCost + expectedTotal rest

/-- `_reservations[reservation.reservation_id] = reservation`. -/
def assignReservation (reservation : Reservation) : List Reservation → List Reservation
  | [] => [reservation]
  | other :: rest =>
    if other.reservationId = reservation.reservationId then reservation :: rest
    else other :: assignReservation reservation rest

def findReservation (reservationId : String) (reservations : List Reservation) :
    Option Reservation :=
  reservations.find? (·.reservationId = reservationId)

/-- `_reservations.pop(reservation_id)`. -/
def popReservation (reservationId : String) : List Reservation → List Reservation
  | [] => []
  | other :: rest =>
    if other.reservationId = reservationId then rest
    else other :: popReservation reservationId rest

namespace EconomicGovernor

variable (governor : EconomicGovernor)

/-- The conditions on which `reserve` returns `None`. -/
def refuses (expectedCost : ℚ) (strong : Bool) : Bool :=
  expectedCost < 0 || governor.policy.signal < expectedCost ||
    governor.policy.cycleCallLimit ≤ governor.callsThisCycle ||
    (strong && governor.policy.strongModelLimit ≤
      governor.strongCallsToday + strongCount governor.reservations) ||
    governor.policy.daily <
      decimalAdd governor.spentDaily (decimalAdd governor.reserved expectedCost) ||
    governor.policy.monthly <
      decimalAdd governor.spentMonthly (decimalAdd governor.reserved expectedCost) ||
    governor.policy.run <
      decimalAdd governor.spentRun (decimalAdd governor.reserved expectedCost)

/-- `reserve`, with the id that `uuid4` returns. -/
def reserve (newId : String) (expectedCost : ℚ) (strong : Bool) :
    EconomicGovernor × Option Reservation :=
  if governor.refuses expectedCost strong then (governor, none)
  else
    let reservation : Reservation := ⟨newId, expectedCost, strong⟩
    ({ governor with
      reservations := assignReservation reservation governor.reservations
      reserved := decimalAdd governor.reserved expectedCost
      callsThisCycle := governor.callsThisCycle + 1 }, some reservation)

def reconcile (reservationId : String) (actualCost : ℚ) (strong : Bool) :
    EconomicGovernor × Bool :=
  match findReservation reservationId governor.reservations with
  | none => (governor, false)
  | some reservation =>
    if actualCost < 0 || strong != reservation.strong then (governor, false)
    else
      ({ governor with
        reservations := popReservation reservationId governor.reservations
        reserved := decimalSub governor.reserved reservation.expectedCost
        spentDaily := decimalAdd governor.spentDaily actualCost
        spentMonthly := decimalAdd governor.spentMonthly actualCost
        spentRun := decimalAdd governor.spentRun actualCost
        strongCallsToday := governor.strongCallsToday +
          if reservation.strong then 1 else 0 }, true)

def rollback (reservationId : String) : EconomicGovernor × Bool :=
  match findReservation reservationId governor.reservations with
  | none => (governor, false)
  | some reservation =>
    ({ governor with
      reservations := popReservation reservationId governor.reservations
      reserved := decimalSub governor.reserved reservation.expectedCost }, true)

end EconomicGovernor

inductive GovernorCall where
  | reserve (newId : String) (expectedCost : ℚ) (strong : Bool)
  | reconcile (reservationId : String) (actualCost : ℚ) (strong : Bool)
  | rollback (reservationId : String)
  deriving DecidableEq, Repr

/-- The governor after a call, and whether the answer is neither `None` nor `False`. -/
def GovernorCall.exec (governor : EconomicGovernor) : GovernorCall → EconomicGovernor × Bool
  | reserve newId expectedCost strong =>
    let answer := governor.reserve newId expectedCost strong
    (answer.1, answer.2.isSome)
  | reconcile reservationId actualCost strong =>
    governor.reconcile reservationId actualCost strong
  | rollback reservationId => governor.rollback reservationId

def governorStep (governor : EconomicGovernor) (call : GovernorCall) : EconomicGovernor :=
  (call.exec governor).1

/-! ## Reservations -/

section Reservations

variable {reservations : List Reservation} {reservation : Reservation}

theorem findReservation_cons (reservationId : String) (other : Reservation)
    (rest : List Reservation) :
    findReservation reservationId (other :: rest) =
      if other.reservationId = reservationId then some other
      else findReservation reservationId rest := by
  rw [findReservation, List.find?_cons]
  by_cases hsame : other.reservationId = reservationId
  · simp [hsame]
  · simp [hsame, findReservation]

theorem assignReservation_of_new
    (hnew : findReservation reservation.reservationId reservations = none) :
    assignReservation reservation reservations = reservations ++ [reservation] := by
  induction reservations with
  | nil => rfl
  | cons other rest ih =>
    rw [findReservation_cons] at hnew
    split at hnew
    · cases hnew
    · next hother =>
        rw [assignReservation, if_neg hother, ih hnew]
        rfl

theorem expectedTotal_append (reservations : List Reservation) (reservation : Reservation) :
    expectedTotal (reservations ++ [reservation]) =
      expectedTotal reservations + reservation.expectedCost := by
  induction reservations with
  | nil => simp [expectedTotal]
  | cons other rest ih => rw [List.cons_append, expectedTotal, expectedTotal, ih, add_assoc]

theorem strongCount_append (reservations : List Reservation) (reservation : Reservation) :
    strongCount (reservations ++ [reservation]) =
      strongCount reservations + if reservation.strong then 1 else 0 := by
  induction reservations with
  | nil => simp [strongCount]
  | cons other rest ih => rw [List.cons_append, strongCount, strongCount, ih, add_assoc]

variable {reservationId : String}

theorem expectedTotal_pop (hfound : findReservation reservationId reservations =
      some reservation) :
    expectedTotal (popReservation reservationId reservations) =
      expectedTotal reservations - reservation.expectedCost := by
  induction reservations with
  | nil => cases hfound
  | cons other rest ih =>
    rw [findReservation_cons] at hfound
    rw [popReservation]
    split at hfound
    · next hsame =>
        cases hfound
        rw [if_pos hsame, expectedTotal, add_sub_cancel_left]
    · next hother =>
        rw [if_neg hother, expectedTotal, expectedTotal, ih hfound, add_sub_assoc]

theorem strongCount_pop (hfound : findReservation reservationId reservations =
      some reservation) :
    strongCount (popReservation reservationId reservations) =
      strongCount reservations - if reservation.strong then 1 else 0 := by
  induction reservations with
  | nil => cases hfound
  | cons other rest ih =>
    rw [findReservation_cons] at hfound
    rw [popReservation]
    split at hfound
    · next hsame =>
        cases hfound
        rw [if_pos hsame, strongCount, add_sub_cancel_left]
    · next hother =>
        rw [if_neg hother, strongCount, strongCount, ih hfound, add_sub_assoc]

/-- The ids of the outstanding reservations. -/
def outstandingIds (reservations : List Reservation) : List String :=
  reservations.map (·.reservationId)

theorem findReservation_eq_none_iff :
    findReservation reservationId reservations = none ↔
      reservationId ∉ outstandingIds reservations := by
  simp [findReservation, outstandingIds, List.find?_eq_none]

theorem mem_outstandingIds_pop {other : String}
    (h : other ∈ outstandingIds (popReservation reservationId reservations)) :
    other ∈ outstandingIds reservations := by
  induction reservations with
  | nil => exact h
  | cons head rest ih =>
    rw [popReservation] at h
    rw [outstandingIds, List.map_cons, List.mem_cons]
    split at h
    · exact Or.inr h
    · rw [outstandingIds, List.map_cons, List.mem_cons] at h
      exact h.imp id ih

/-- The reservations under an id. -/
def outstandingCount (reservationId : String) (reservations : List Reservation) : ℕ :=
  (outstandingIds reservations).count reservationId

theorem outstandingCount_cons (head : Reservation) (rest : List Reservation) :
    outstandingCount reservationId (head :: rest) =
      outstandingCount reservationId rest +
        if head.reservationId = reservationId then 1 else 0 := by
  simp [outstandingCount, outstandingIds, List.count_cons]

theorem outstandingCount_assign_le (reservationId : String) (reservation : Reservation)
    (reservations : List Reservation) :
    outstandingCount reservationId (assignReservation reservation reservations) ≤
      outstandingCount reservationId reservations +
        if reservation.reservationId = reservationId then 1 else 0 := by
  induction reservations with
  | nil => rw [assignReservation, outstandingCount_cons]
  | cons head rest ih =>
    rw [assignReservation]
    split
    · rw [outstandingCount_cons, outstandingCount_cons]
      omega
    · rw [outstandingCount_cons, outstandingCount_cons]
      omega

theorem outstandingCount_pop (reservationId : String) {foundId : String}
    (hfound : findReservation foundId reservations = some reservation) :
    outstandingCount reservationId (popReservation foundId reservations) +
        (if foundId = reservationId then 1 else 0) =
      outstandingCount reservationId reservations := by
  induction reservations with
  | nil => cases hfound
  | cons head rest ih =>
    rw [findReservation_cons] at hfound
    rw [popReservation]
    split at hfound
    · next hsame => rw [if_pos hsame, outstandingCount_cons, hsame]
    · next hother =>
        rw [if_neg hother, outstandingCount_cons, outstandingCount_cons]
        have hrest := ih hfound
        omega

theorem mem_of_findReservation (hfound : findReservation reservationId reservations =
      some reservation) : reservation ∈ reservations :=
  List.mem_of_find?_eq_some hfound

theorem mem_of_popReservation {other : Reservation}
    (h : other ∈ popReservation reservationId reservations) : other ∈ reservations := by
  induction reservations with
  | nil => exact h
  | cons head rest ih =>
    rw [popReservation] at h
    split at h
    · exact List.mem_cons_of_mem head h
    · rw [List.mem_cons] at h ⊢
      exact h.imp id ih

end Reservations

/-! ## Outcomes of the calls -/

section Outcomes

variable {governor : EconomicGovernor}

theorem reserve_of_refuses {newId : String} {expectedCost : ℚ} {strong : Bool}
    (h : governor.refuses expectedCost strong = true) :
    governor.reserve newId expectedCost strong = (governor, none) := by
  rw [EconomicGovernor.reserve, if_pos h]

theorem reserve_of_accepts {newId : String} {expectedCost : ℚ} {strong : Bool}
    (h : governor.refuses expectedCost strong = false) :
    governor.reserve newId expectedCost strong =
      ({ governor with
        reservations :=
          assignReservation ⟨newId, expectedCost, strong⟩ governor.reservations
        reserved := decimalAdd governor.reserved expectedCost
        callsThisCycle := governor.callsThisCycle + 1 },
        some ⟨newId, expectedCost, strong⟩) := by
  rw [EconomicGovernor.reserve, if_neg (by rw [h]; exact Bool.false_ne_true)]

theorem reconcile_cases (governor : EconomicGovernor) (reservationId : String)
    (actualCost : ℚ) (strong : Bool) :
    governor.reconcile reservationId actualCost strong = (governor, false) ∨
      ∃ reservation, findReservation reservationId governor.reservations = some reservation ∧
        governor.reconcile reservationId actualCost strong =
          ({ governor with
            reservations := popReservation reservationId governor.reservations
            reserved := decimalSub governor.reserved reservation.expectedCost
            spentDaily := decimalAdd governor.spentDaily actualCost
            spentMonthly := decimalAdd governor.spentMonthly actualCost
            spentRun := decimalAdd governor.spentRun actualCost
            strongCallsToday := governor.strongCallsToday +
              if reservation.strong then 1 else 0 }, true) := by
  rw [EconomicGovernor.reconcile]
  cases hfound : findReservation reservationId governor.reservations with
  | none => exact Or.inl rfl
  | some reservation =>
    dsimp only
    split
    · exact Or.inl rfl
    · exact Or.inr ⟨reservation, rfl, rfl⟩

theorem rollback_cases (governor : EconomicGovernor) (reservationId : String) :
    governor.rollback reservationId = (governor, false) ∨
      ∃ reservation, findReservation reservationId governor.reservations = some reservation ∧
        governor.rollback reservationId =
          ({ governor with
            reservations := popReservation reservationId governor.reservations
            reserved := decimalSub governor.reserved reservation.expectedCost }, true) := by
  rw [EconomicGovernor.rollback]
  cases hfound : findReservation reservationId governor.reservations with
  | none => exact Or.inl rfl
  | some reservation => exact Or.inr ⟨reservation, rfl, rfl⟩

theorem governorStep_of_refused {call : GovernorCall} (h : (call.exec governor).2 = false) :
    governorStep governor call = governor := by
  rw [governorStep]
  cases call with
  | reserve newId expectedCost strong =>
    rw [GovernorCall.exec] at h ⊢
    cases hrefuses : governor.refuses expectedCost strong with
    | true => rw [reserve_of_refuses hrefuses]
    | false =>
      rw [reserve_of_accepts hrefuses] at h
      cases h
  | reconcile reservationId actualCost strong =>
    rw [GovernorCall.exec] at h ⊢
    rcases reconcile_cases governor reservationId actualCost strong with
      heq | ⟨_, _, heq⟩
    · rw [heq]
    · rw [heq] at h
      cases h
  | rollback reservationId =>
    rw [GovernorCall.exec] at h ⊢
    rcases rollback_cases governor reservationId with heq | ⟨_, _, heq⟩
    · rw [heq]
    · rw [heq] at h
      cases h

end Outcomes

end ReisOs.TradingRuntime
