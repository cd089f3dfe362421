import ReisOs.TradingRuntime.Economics

/-!
# Budget safety

Reservations are admitted by their expected costs.  What is spent and reserved exceeds a
limit by no more than the actual costs have exceeded the expected ones.
-/

namespace ReisOs.TradingRuntime

open ReisOs.Core

structure BudgetPolicy.NonNegative (policy : BudgetPolicy) : Prop where
  daily : 0 ≤ policy.daily
  monthly : 0 ≤ policy.monthly
  run : 0 ≤ policy.run
  strong : 0 ≤ policy.strongModelLimit

/-! ## Sums without rounding -/

theorem decimalAdd_of_representable {x y : ℚ} (h : Representable 28 (x + y)) :
    decimalAdd x y = x + y :=
  roundSignificant_of_representable h

theorem decimalSub_of_representable {x y : ℚ} (h : Representable 28 (x - y)) :
    decimalSub x y = x - y :=
  roundSignificant_of_representable h

/-- A cost joins each of the three amounts spent without rounding. -/
structure ExactSpending (governor : EconomicGovernor) (cost : ℚ) : Prop where
  daily : Representable 28 (governor.spentDaily + cost)
  monthly : Representable 28 (governor.spentMonthly + cost)
  run : Representable 28 (governor.spentRun + cost)

/-- The sums of an accepted call have at most 28 significant digits. -/
def Exact (governor : EconomicGovernor) : GovernorCall → Prop
  | .reserve _ expectedCost strong =>
    governor.refuses expectedCost strong = false →
      Representable 28 (governor.reserved + expectedCost) ∧
        ExactSpending governor (governor.reserved + expectedCost)
  | .reconcile reservationId actualCost _ =>
    ∀ reservation, findReservation reservationId governor.reservations = some reservation →
      Representable 28 (governor.reserved - reservation.expectedCost) ∧
        ExactSpending governor actualCost
  | .rollback reservationId =>
    ∀ reservation, findReservation reservationId governor.reservations = some reservation →
      Representable 28 (governor.reserved - reservation.expectedCost)

/-! ## Overruns -/

/-- What a call books beyond the expected cost of its reservation. -/
def overrun (governor : EconomicGovernor) : GovernorCall → ℚ
  | .reconcile reservationId actualCost strong =>
    match findReservation reservationId governor.reservations with
    | none => 0
    | some reservation =>
      if (governor.reconcile reservationId actualCost strong).2 ∧
          reservation.expectedCost < actualCost then
        actualCost - reservation.expectedCost
      else 0
  | _ => 0

def overruns : EconomicGovernor → List GovernorCall → ℚ
  | _, [] => 0
  | governor, call :: calls => overrun governor call + overruns (governorStep governor call) calls

/-- The limits hold up to an excess, and the reserved amount is the sum of the expected
costs. -/
structure WithinBudget (governor : EconomicGovernor) (excess : ℚ) : Prop where
  daily : governor.spentDaily + governor.reserved ≤ governor.policy.daily + excess
  monthly : governor.spentMonthly + governor.reserved ≤ governor.policy.monthly + excess
  run : governor.spentRun + governor.reserved ≤ governor.policy.run + excess
  reserved : governor.reserved = expectedTotal governor.reservations
  strong : governor.strongCallsToday + strongCount governor.reservations ≤
    governor.policy.strongModelLimit

/-! ## Settlements -/

/-- The call settles the reservation with the given id. -/
def settles (reservationId : String) (governor : EconomicGovernor) : GovernorCall → Bool
  | .reserve _ _ _ => false
  | .reconcile settledId actualCost strong =>
    settledId = reservationId && (governor.reconcile settledId actualCost strong).2
  | .rollback settledId => settledId = reservationId && (governor.rollback settledId).2

/-- How often a run settles the reservation. -/
def settlements (reservationId : String) : EconomicGovernor → List GovernorCall → ℕ
  | _, [] => 0
  | governor, call :: calls =>
    (if settles reservationId governor call then 1 else 0) +
      settlements reservationId (governorStep governor call) calls

/-- The ids that `uuid4` has returned to the calls of `reserve`. -/
def issuedIds : List GovernorCall → List String
  | [] => []
  | .reserve newId _ _ :: calls => newId :: issuedIds calls
  | _ :: calls => issuedIds calls

/-! ## One call -/

section Step

variable {governor : EconomicGovernor} {excess : ℚ}

/-- The limits hold, and no outstanding reservation has a negative cost. -/
structure Sound (governor : EconomicGovernor) (excess : ℚ) : Prop where
  within : WithinBudget governor excess
  expected : ∀ reservation ∈ governor.reservations, 0 ≤ reservation.expectedCost

theorem initialGovernor_sound {policy : BudgetPolicy} (h : policy.NonNegative) :
    Sound (initialGovernor policy) 0 where
  within :=
    { daily := by simpa [initialGovernor] using h.daily
      monthly := by simpa [initialGovernor] using h.monthly
      run := by simpa [initialGovernor] using h.run
      reserved := rfl
      strong := by simpa [initialGovernor, strongCount] using h.strong }
  expected := fun _ hmem => absurd hmem (List.not_mem_nil)

theorem checked_of_accepts {expectedCost : ℚ} {strong : Bool}
    (h : governor.refuses expectedCost strong = false) :
    0 ≤ expectedCost ∧
      (strong = true → governor.strongCallsToday + strongCount governor.reservations <
        governor.policy.strongModelLimit) ∧
      decimalAdd governor.spentDaily (decimalAdd governor.reserved expectedCost) ≤
        governor.policy.daily ∧
      decimalAdd governor.spentMonthly (decimalAdd governor.reserved expectedCost) ≤
        governor.policy.monthly ∧
      decimalAdd governor.spentRun (decimalAdd governor.reserved expectedCost) ≤
        governor.policy.run := by
  simp only [EconomicGovernor.refuses, Bool.or_eq_false_iff, Bool.and_eq_false_iff,
    decide_eq_false_iff_not, not_lt, not_le] at h
  have hstrong (hvalue : strong = true) := h.1.1.1.2.resolve_left (by simp [hvalue])
  exact ⟨h.1.1.1.1.1.1, hstrong, h.1.1.2, h.1.2, h.2⟩

theorem Sound.reserve (h : Sound governor excess) (hexcess : 0 ≤ excess) {newId : String}
    {expectedCost : ℚ} {strong : Bool} (hnew : newId ∉ outstandingIds governor.reservations)
    (hexact : Exact governor (.reserve newId expectedCost strong)) :
    Sound (governor.reserve newId expectedCost strong).1 excess := by
  cases haccepts : governor.refuses expectedCost strong with
  | true =>
    rw [reserve_of_refuses haccepts]
    exact h
  | false =>
    have hchecked := checked_of_accepts haccepts
    have hsums := hexact haccepts
    have hreserved := decimalAdd_of_representable hsums.1
    rw [hreserved, decimalAdd_of_representable hsums.2.daily,
      decimalAdd_of_representable hsums.2.monthly,
      decimalAdd_of_representable hsums.2.run] at hchecked
    have hassign : assignReservation ⟨newId, expectedCost, strong⟩ governor.reservations =
        governor.reservations ++ [⟨newId, expectedCost, strong⟩] :=
      assignReservation_of_new (findReservation_eq_none_iff.mpr hnew)
    rw [reserve_of_accepts haccepts, hassign, hreserved]
    exact
      { within :=
          { daily := le_add_of_le_of_nonneg hchecked.2.2.1 hexcess
            monthly := le_add_of_le_of_nonneg hchecked.2.2.2.1 hexcess
            run := le_add_of_le_of_nonneg hchecked.2.2.2.2 hexcess
            reserved := by rw [expectedTotal_append, h.within.reserved]
            strong := by
              rw [strongCount_append]
              have hbefore := h.within.strong
              cases strong with
              | true =>
                have hroom := hchecked.2.1 rfl
                simp only [if_true]
                omega
              | false => simpa using hbefore }
        expected := by
          intro reservation hmem
          rw [List.mem_append, List.mem_singleton] at hmem
          rcases hmem with hmem | rfl
          · exact h.expected reservation hmem
          · exact hchecked.1 }

theorem booked_le {spent reserved limit expected actual extra : ℚ}
    (h : spent + reserved ≤ limit + excess) (hextra : actual - expected ≤ extra) :
    spent + actual + (reserved - expected) ≤ limit + (excess + extra) := by
  linarith

theorem Sound.reconcile (h : Sound governor excess) {reservationId : String}
    {actualCost : ℚ} {strong : Bool}
    (hexact : Exact governor (.reconcile reservationId actualCost strong)) :
    Sound (governor.reconcile reservationId actualCost strong).1
      (excess + overrun governor (.reconcile reservationId actualCost strong)) := by
  have hoverrun : overrun governor (.reconcile reservationId actualCost strong) =
      match findReservation reservationId governor.reservations with
      | none => 0
      | some reservation =>
        if (governor.reconcile reservationId actualCost strong).2 ∧
            reservation.expectedCost < actualCost then
          actualCost - reservation.expectedCost
        else 0 := rfl
  rcases reconcile_cases governor reservationId actualCost strong with
    heq | ⟨reservation, hfound, heq⟩
  · have hnone : overrun governor (.reconcile reservationId actualCost strong) = 0 := by
      rw [hoverrun, heq]
      split <;> simp
    rw [heq, hnone, add_zero]
    exact h
  · have hsums := hexact reservation hfound
    have hexcess : actualCost - reservation.expectedCost ≤
        overrun governor (.reconcile reservationId actualCost strong) := by
      rw [hoverrun, hfound, heq]
      dsimp only
      split
      · exact le_refl _
      · next hwithin =>
          rw [sub_nonpos]
          exact not_lt.mp fun hlt => hwithin ⟨rfl, hlt⟩
    rw [heq, decimalSub_of_representable hsums.1, decimalAdd_of_representable hsums.2.daily,
      decimalAdd_of_representable hsums.2.monthly, decimalAdd_of_representable hsums.2.run]
    exact
      { within :=
          { daily := booked_le h.within.daily hexcess
            monthly := booked_le h.within.monthly hexcess
            run := booked_le h.within.run hexcess
            reserved := by rw [expectedTotal_pop hfound, h.within.reserved]
            strong := by
              rw [strongCount_pop hfound]
              have hbefore := h.within.strong
              dsimp only
              omega }
        expected := fun other hmem => h.expected other (mem_of_popReservation hmem) }

theorem Sound.rollback (h : Sound governor excess) {reservationId : String}
    (hexact : Exact governor (.rollback reservationId)) :
    Sound (governor.rollback reservationId).1 excess := by
  rcases rollback_cases governor reservationId with heq | ⟨reservation, hfound, heq⟩
  · rw [heq]
    exact h
  · have hcost := h.expected reservation (mem_of_findReservation hfound)
    have hsum := hexact reservation hfound
    rw [heq, decimalSub_of_representable hsum]
    have hless : governor.reserved - reservation.expectedCost ≤ governor.reserved :=
      sub_le_self governor.reserved hcost
    exact
      { within :=
          { daily := (add_le_add_right hless _).trans h.within.daily
            monthly := (add_le_add_right hless _).trans h.within.monthly
            run := (add_le_add_right hless _).trans h.within.run
            reserved := by rw [expectedTotal_pop hfound, h.within.reserved]
            strong := by
              rw [strongCount_pop hfound]
              have hbefore := h.within.strong
              dsimp only
              split <;> omega }
        expected := fun other hmem => h.expected other (mem_of_popReservation hmem) }

end Step

/-! ## Runs -/

section Runs

variable {governor : EconomicGovernor}

theorem overrun_nonneg (governor : EconomicGovernor) (call : GovernorCall) :
    0 ≤ overrun governor call := by
  cases call with
  | reserve newId expectedCost strong => exact le_refl 0
  | rollback reservationId => exact le_refl 0
  | reconcile reservationId actualCost strong =>
    rw [overrun]
    split
    · exact le_refl 0
    · split
      · next hexcess => exact sub_nonneg.mpr hexcess.2.le
      · exact le_refl 0

theorem issuedIds_cons (call : GovernorCall) (calls : List GovernorCall) :
    issuedIds (call :: calls) = issuedIds [call] ++ issuedIds calls := by
  cases call <;> rfl

theorem issuedIds_append (before after : List GovernorCall) :
    issuedIds (before ++ after) = issuedIds before ++ issuedIds after := by
  induction before with
  | nil => rfl
  | cons call before ih =>
    rw [List.cons_append, issuedIds_cons, ih, ← List.append_assoc, ← issuedIds_cons]

theorem mem_outstandingIds_assign {reservation : Reservation} {reservations : List Reservation}
    {reservationId : String}
    (h : reservationId ∈ outstandingIds (assignReservation reservation reservations)) :
    reservationId = reservation.reservationId ∨ reservationId ∈ outstandingIds reservations := by
  have hcount := outstandingCount_assign_le reservationId reservation reservations
  have hpos : 0 < outstandingCount reservationId (assignReservation reservation reservations) :=
    List.count_pos_iff.mpr h
  by_cases hsame : reservation.reservationId = reservationId
  · exact Or.inl hsame.symm
  · rw [if_neg hsame, add_zero] at hcount
    exact Or.inr (List.count_pos_iff.mp (hpos.trans_le hcount))

/-- The outstanding ids were outstanding before the call, or the call has issued them. -/
theorem outstandingIds_step {call : GovernorCall} {reservationId : String}
    (h : reservationId ∈ outstandingIds (governorStep governor call).reservations) :
    reservationId ∈ outstandingIds governor.reservations ∨ reservationId ∈ issuedIds [call] := by
  rw [governorStep] at h
  cases call with
  | reserve newId expectedCost strong =>
    rw [GovernorCall.exec] at h
    cases haccepts : governor.refuses expectedCost strong with
    | true =>
      rw [reserve_of_refuses haccepts] at h
      exact Or.inl h
    | false =>
      rw [reserve_of_accepts haccepts] at h
      exact (mem_outstandingIds_assign h).symm.imp id (fun hsame =>
        List.mem_singleton.mpr hsame)
  | reconcile settledId actualCost strong =>
    rw [GovernorCall.exec] at h
    rcases reconcile_cases governor settledId actualCost strong with heq | ⟨_, _, heq⟩
    · rw [heq] at h
      exact Or.inl h
    · rw [heq] at h
      exact Or.inl (mem_outstandingIds_pop h)
  | rollback settledId =>
    rw [GovernorCall.exec] at h
    rcases rollback_cases governor settledId with heq | ⟨_, _, heq⟩
    · rw [heq] at h
      exact Or.inl h
    · rw [heq] at h
      exact Or.inl (mem_outstandingIds_pop h)

theorem Sound.step {excess : ℚ} (h : Sound governor excess) (hexcess : 0 ≤ excess)
    {call : GovernorCall}
    (hnew : ∀ reservationId ∈ issuedIds [call],
      reservationId ∉ outstandingIds governor.reservations)
    (hexact : Exact governor call) :
    Sound (governorStep governor call) (excess + overrun governor call) := by
  cases call with
  | reserve newId expectedCost strong =>
    rw [overrun, add_zero]
    · exact h.reserve hexcess (hnew newId (List.mem_singleton.mpr rfl)) hexact
    · intro _ _ _ hcall
      cases hcall
  | reconcile reservationId actualCost strong => exact h.reconcile hexact
  | rollback reservationId =>
    rw [overrun, add_zero]
    · exact h.rollback hexact
    · intro _ _ _ hcall
      cases hcall

theorem Sound.along {calls : List GovernorCall} {excess : ℚ} (h : Sound governor excess)
    (hexcess : 0 ≤ excess) (hids : (issuedIds calls).Nodup)
    (hnew : ∀ reservationId ∈ issuedIds calls,
      reservationId ∉ outstandingIds governor.reservations)
    (hexact : Admissible governorStep Exact governor calls) :
    Sound (run governorStep governor calls) (excess + overruns governor calls) := by
  induction calls generalizing governor excess with
  | nil =>
    rw [overruns, add_zero]
    exact h
  | cons call calls ih =>
    rw [issuedIds_cons] at hids hnew
    have hdisjoint := (List.nodup_append.mp hids).2.2
    have hnow := h.step hexcess
      (fun reservationId hissued => hnew reservationId (List.mem_append_left _ hissued))
      hexact.1
    rw [run_cons, overruns, ← add_assoc]
    apply ih hnow (add_nonneg hexcess (overrun_nonneg governor call))
      (List.nodup_append.mp hids).2.1 _ hexact.2
    intro reservationId hissued houtstanding
    rcases outstandingIds_step houtstanding with hbefore | hcall
    · exact hnew reservationId (List.mem_append_right _ hissued) hbefore
    · exact hdisjoint reservationId hcall reservationId hissued rfl

/-- A settlement uses up an entry, and only `reserve` adds one. -/
theorem settles_add_outstandingCount_le (reservationId : String)
    (governor : EconomicGovernor) (call : GovernorCall) :
    (if settles reservationId governor call then 1 else 0) +
        outstandingCount reservationId (governorStep governor call).reservations ≤
      outstandingCount reservationId governor.reservations +
        (issuedIds [call]).count reservationId := by
  rw [governorStep]
  cases call with
  | reserve newId expectedCost strong =>
    rw [GovernorCall.exec]
    cases haccepts : governor.refuses expectedCost strong with
    | true =>
      rw [reserve_of_refuses haccepts]
      simp [settles]
    | false =>
      rw [reserve_of_accepts haccepts]
      have hassign := outstandingCount_assign_le reservationId
        ⟨newId, expectedCost, strong⟩ governor.reservations
      simpa [settles, issuedIds, List.count_cons] using hassign
  | reconcile settledId actualCost strong =>
    rw [GovernorCall.exec, settles]
    rcases reconcile_cases governor settledId actualCost strong with
      heq | ⟨reservation, hfound, heq⟩
    · rw [heq]
      simp
    · have hpop := outstandingCount_pop reservationId hfound
      rw [heq]
      simp only [Bool.and_true, decide_eq_true_eq]
      omega
  | rollback settledId =>
    rw [GovernorCall.exec, settles]
    rcases rollback_cases governor settledId with heq | ⟨reservation, hfound, heq⟩
    · rw [heq]
      simp
    · have hpop := outstandingCount_pop reservationId hfound
      rw [heq]
      simp only [Bool.and_true, decide_eq_true_eq]
      omega

theorem settlements_add_outstandingCount_le (reservationId : String)
    (governor : EconomicGovernor) (calls : List GovernorCall) :
    settlements reservationId governor calls +
        outstandingCount reservationId (run governorStep governor calls).reservations ≤
      outstandingCount reservationId governor.reservations +
        (issuedIds calls).count reservationId := by
  induction calls generalizing governor with
  | nil => simp [settlements, issuedIds]
  | cons call calls ih =>
    have hstep := settles_add_outstandingCount_le reservationId governor call
    have hrest := ih (governorStep governor call)
    rw [settlements, run_cons, issuedIds_cons, List.count_append]
    omega

theorem settlements_le_one (policy : BudgetPolicy) {calls : List GovernorCall}
    (hids : (issuedIds calls).Nodup) (reservationId : String) :
    settlements reservationId (initialGovernor policy) calls ≤ 1 := by
  have hle := settlements_add_outstandingCount_le reservationId (initialGovernor policy) calls
  have hcount : (issuedIds calls).count reservationId ≤ 1 :=
    List.nodup_iff_count.mp hids reservationId
  have hempty : outstandingCount reservationId (initialGovernor policy).reservations = 0 := rfl
  omega

end Runs

/-! ## The limits -/

def samplePolicy : BudgetPolicy := ⟨10, 100, 5, 2, 3, 1⟩

/-- A strong call that is expected to cost one and costs two. -/
def dearCalls : List GovernorCall := [.reserve "r1" 1 true, .reconcile "r1" 2 true]

theorem samplePolicy_nonNegative : samplePolicy.NonNegative := by
  constructor <;> decide

theorem dearCalls_exact :
    Admissible governorStep Exact (initialGovernor samplePolicy) dearCalls := by
  have hsmall (n : ℕ) (hn : n < 10 ^ 28) : Representable 28 (n : ℚ) := representable_natCast hn
  have hreserved : governorStep (initialGovernor samplePolicy) (.reserve "r1" 1 true) =
      { initialGovernor samplePolicy with
        reservations := [⟨"r1", 1, true⟩]
        reserved := 1
        callsThisCycle := 1 } := by decide +kernel
  refine ⟨fun _ => ⟨?_, ⟨?_, ?_, ?_⟩⟩, ?_, trivial⟩
  · simpa [initialGovernor] using hsmall 1 (by decide)
  · simpa [initialGovernor] using hsmall 1 (by decide)
  · simpa [initialGovernor] using hsmall 1 (by decide)
  · simpa [initialGovernor] using hsmall 1 (by decide)
  · rw [hreserved]
    intro reservation hfound
    cases hfound
    refine ⟨?_, ⟨?_, ?_, ?_⟩⟩
    · simpa [initialGovernor] using hsmall 0 (by decide)
    · simpa [initialGovernor] using hsmall 2 (by decide)
    · simpa [initialGovernor] using hsmall 2 (by decide)
    · simpa [initialGovernor] using hsmall 2 (by decide)

/-- A run limit of two, which an actual cost of three exceeds. -/
def tightPolicy : BudgetPolicy := ⟨10, 100, 2, 2, 3, 1⟩

def overspentCalls : List GovernorCall := [.reserve "r1" 1 true, .reconcile "r1" 3 true]

/-- Limits of thirty digits. -/
def widePolicy : BudgetPolicy := ⟨10 ^ 30, 10 ^ 30, 10 ^ 30, 10 ^ 30, 3, 1⟩

/-- Two reservations whose sum has twenty-nine digits. -/
def roundedCalls : List GovernorCall :=
  [.reserve "r1" (10 ^ 28) false, .reserve "r2" 1 false]

end ReisOs.TradingRuntime
