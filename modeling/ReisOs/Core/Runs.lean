import Mathlib.Dynamics.FixedPoints.Basic

/-!
# Runs of a deterministic machine

A machine is a step function from a state and an input to the next state; the
environment's choices (answers, faults, clock readings) are part of the input.
The rules below turn facts about one step into facts about every run, with or
without a side condition that each input has to meet in the state it finds.
-/

namespace ReisOs.Core

variable {S I : Type*}

/-- The state a run ends in. -/
def run (step : S → I → S) (start : S) (inputs : List I) : S :=
  inputs.foldl step start

/-- Every input of the run meets `allowed` in the state it is given to. -/
def Admissible (step : S → I → S) (allowed : S → I → Prop) : S → List I → Prop
  | _, [] => True
  | state, input :: inputs =>
    allowed state input ∧ Admissible step allowed (step state input) inputs

variable {step : S → I → S} {allowed : S → I → Prop}

instance Admissible.instDecidable [∀ state input, Decidable (allowed state input)] :
    ∀ (start : S) (inputs : List I), Decidable (Admissible step allowed start inputs)
  | _, [] => isTrue trivial
  | start, input :: inputs =>
    have := Admissible.instDecidable (step start input) inputs
    inferInstanceAs
      (Decidable (allowed start input ∧ Admissible step allowed (step start input) inputs))

@[simp]
theorem run_nil (start : S) : run step start [] = start := rfl

@[simp]
theorem run_cons (start : S) (input : I) (inputs : List I) :
    run step start (input :: inputs) = run step (step start input) inputs := rfl

theorem run_append (start : S) (left right : List I) :
    run step start (left ++ right) = run step (run step start left) right := by
  simp [run]

theorem Admissible.append {start : S} {left right : List I} :
    Admissible step allowed start (left ++ right) ↔
      Admissible step allowed start left ∧
        Admissible step allowed (run step start left) right := by
  induction left generalizing start with
  | nil => simp [Admissible]
  | cons input left ih => simp [Admissible, ih, and_assoc]

variable {inputs : List I}

theorem Admissible.mono {weaker : S → I → Prop}
    (hweaker : ∀ state input, allowed state input → weaker state input)
    {start : S} (h : Admissible step allowed start inputs) :
    Admissible step weaker start inputs := by
  induction inputs generalizing start with
  | nil => trivial
  | cons input inputs ih => exact ⟨hweaker _ _ h.1, ih h.2⟩

theorem Admissible.and {other : S → I → Prop} {start : S}
    (h : Admissible step allowed start inputs) (hother : Admissible step other start inputs) :
    Admissible step (fun state input => allowed state input ∧ other state input) start
      inputs := by
  induction inputs generalizing start with
  | nil => trivial
  | cons input inputs ih => exact ⟨⟨h.1, hother.1⟩, ih h.2 hother.2⟩

theorem Admissible.of_prefix {start : S} {initial : List I}
    (h : Admissible step allowed start inputs) (hinitial : initial <+: inputs) :
    Admissible step allowed start initial := by
  obtain ⟨rest, rfl⟩ := hinitial
  exact (Admissible.append.mp h).1

theorem Admissible.of_forall {good : I → Prop} {start : S}
    (h : ∀ input ∈ inputs, good input) :
    Admissible step (fun _ => good) start inputs := by
  induction inputs generalizing start with
  | nil => trivial
  | cons input inputs ih =>
    rw [List.forall_mem_cons] at h
    exact ⟨h.1, ih h.2⟩

theorem run_invariant_of_admissible (Inv : S → Prop)
    (hstep : ∀ state input, Inv state → allowed state input →
      Inv (step state input))
    {start : S} (hstart : Inv start)
    (hinputs : Admissible step allowed start inputs) :
    Inv (run step start inputs) := by
  induction inputs generalizing start with
  | nil => exact hstart
  | cons input inputs ih => exact ih (hstep _ _ hstart hinputs.1) hinputs.2

theorem run_invariant (Inv : S → Prop)
    (hstep : ∀ state input, Inv state → Inv (step state input))
    {start : S} (hstart : Inv start) (inputs : List I) :
    Inv (run step start inputs) := by
  induction inputs generalizing start with
  | nil => exact hstart
  | cons input inputs ih => exact ih (hstep _ _ hstart)

/-- When exactly the allowed inputs lead from a good state to a good one, a run passes
through good states only just if its inputs are allowed. -/
theorem always_iff_admissible {allowed : S → I → Prop} (Inv Good : S → Prop)
    (hinv : ∀ state input, Inv state → allowed state input → Inv (step state input))
    (hgood : ∀ state, Inv state → Good state)
    (hallowed : ∀ state input, Inv state → Good (step state input) → allowed state input)
    {start : S} (hstart : Inv start) (inputs : List I) :
    (∀ before, before <+: inputs → Good (run step start before)) ↔
      Admissible step allowed start inputs := by
  constructor
  · intro h
    induction inputs generalizing start with
    | nil => trivial
    | cons input inputs ih =>
      have hinput : allowed start input := by
        apply hallowed start input hstart
        exact h [input] (List.prefix_append [input] inputs)
      refine ⟨hinput, ih (hinv _ _ hstart hinput) fun before hbefore => ?_⟩
      exact h (input :: before) ((List.prefix_cons_inj input).mpr hbefore)
  · intro h before hbefore
    exact hgood _ (run_invariant_of_admissible Inv hinv hstart (h.of_prefix hbefore))

theorem admissible_iff_forall {start : S} :
    Admissible step allowed start inputs ↔
      ∀ before input, before ++ [input] <+: inputs → allowed (run step start before) input := by
  constructor
  · intro h before input hinitial
    exact (Admissible.append.mp (h.of_prefix hinitial)).2.1
  · intro h
    induction inputs generalizing start with
    | nil => trivial
    | cons input inputs ih =>
      refine ⟨h [] input (List.prefix_append [input] inputs), ih ?_⟩
      intro before next hinitial
      exact h (input :: before) next ((List.prefix_cons_inj input).mpr hinitial)

theorem admissible_congr {good : S → I → Prop} (Inv : S → Prop)
    (hinv : ∀ state input, Inv state → allowed state input → Inv (step state input))
    (hgood : ∀ state input, Inv state → (good state input ↔ allowed state input))
    {start : S} (hstart : Inv start) :
    Admissible step good start inputs ↔ Admissible step allowed start inputs := by
  induction inputs generalizing start with
  | nil => exact Iff.rfl
  | cons input inputs ih =>
    constructor
    · intro h
      have hinput := (hgood start input hstart).mp h.1
      exact ⟨hinput, (ih (hinv _ _ hstart hinput)).mp h.2⟩
    · intro h
      have hinput := (hgood start input hstart).mpr h.1
      exact ⟨hinput, (ih (hinv _ _ hstart h.1)).mpr h.2⟩

/-! ## Latches -/

section Latch

variable {K : Type*} (step) (latched closed : K → S → Prop) (releases : K → I → Prop)

/-- Along the run, `closed key` holds from any state with `latched key` on, until an
input of `releases key`. -/
def StaysClosed (start : S) (inputs : List I) : Prop :=
  ∀ key before middle, before ++ middle <+: inputs →
    latched key (run step start before) → (∀ input ∈ middle, ¬ releases key input) →
    closed key (run step start (before ++ middle))

variable {step latched closed releases}

theorem StaysClosed.tail {start : S} {input : I} {inputs : List I}
    (h : StaysClosed step latched closed releases start (input :: inputs)) :
    StaysClosed step latched closed releases (step start input) inputs := by
  intro key before middle hinitial hlatched hreleases
  exact h key (input :: before) middle ((List.prefix_cons_inj input).mpr hinitial) hlatched
    hreleases

/-- The rule for latches: when the allowed inputs are those that leave every latch of a
reachable state closed, exactly the runs of allowed inputs keep all latches closed. -/
theorem staysClosed_iff_admissible (Inv : S → Prop)
    (hinv : ∀ state input, Inv state → allowed state input → Inv (step state input))
    (hkeep : ∀ state input key, Inv state → allowed state input → latched key state →
      ¬ releases key input → latched key (step state input))
    (hclosed : ∀ state key, Inv state → latched key state → closed key state)
    (hallowed : ∀ state input, Inv state →
      (∀ key, latched key state → ¬ releases key input → closed key (step state input)) →
      allowed state input)
    {start : S} (hstart : Inv start) (inputs : List I) :
    StaysClosed step latched closed releases start inputs ↔
      Admissible step allowed start inputs := by
  constructor
  · intro h
    induction inputs generalizing start with
    | nil => trivial
    | cons input inputs ih =>
      have hinput : allowed start input := by
        apply hallowed start input hstart
        intro key hlatched hreleases
        exact h key [] [input] (List.prefix_append [input] inputs) hlatched
          (by simpa using hreleases)
      exact ⟨hinput, ih (hinv _ _ hstart hinput) h.tail⟩
  · intro h key before middle hinitial hlatched hreleases
    have hparts := Admissible.append.mp (h.of_prefix hinitial)
    have hmiddle := hparts.2.and (Admissible.of_forall hreleases)
    have hbefore : Inv (run step start before) :=
      run_invariant_of_admissible Inv hinv hstart hparts.1
    have hend := run_invariant_of_admissible
      (fun state => Inv state ∧ latched key state)
      (fun state input hstate hinput =>
        ⟨hinv _ _ hstate.1 hinput.1, hkeep _ _ key hstate.1 hinput.1 hstate.2 hinput.2⟩)
      ⟨hbefore, hlatched⟩ hmiddle
    rw [run_append]
    exact hclosed _ key hend.1 hend.2

end Latch

/-! ## Machines that come to rest -/

section Rest

variable {next : S → S} {start rest : S}

theorem iterate_invariant (Inv : S → Prop)
    (hnext : ∀ state, Inv state → Inv (next state))
    (hstart : Inv start) (count : ℕ) : Inv (next^[count] start) := by
  induction count generalizing start with
  | zero => exact hstart
  | succ count ih => exact ih (hnext _ hstart)

variable (rank : S → ℕ)

/-- A measure that every step of an active state decreases bounds the number of
steps to a state at rest. -/
theorem rank_iterate_eq_zero
    (hrest : ∀ state, rank state = 0 → next state = state)
    (hnext : ∀ state, rank state ≠ 0 → rank (next state) < rank state)
    {count : ℕ} (hcount : rank start ≤ count) : rank (next^[count] start) = 0 := by
  induction count generalizing start with
  | zero => exact Nat.le_zero.mp hcount
  | succ count ih =>
    rw [Function.iterate_succ_apply]
    apply ih
    by_cases hzero : rank start = 0
    · rw [hrest start hzero]
      omega
    · have := hnext start hzero
      omega

end Rest

end ReisOs.Core
