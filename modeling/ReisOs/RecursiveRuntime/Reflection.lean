import ReisOs.Core.Precedence
import ReisOs.RecursiveRuntime.Contracts

/-!
# Reflection

`ReflectionEngine` merges predicates by their names and decides by a cascade of rules.  Of
several predicates of one name and the same precedence the first one counts; when the
decision does not depend on that is stated exactly.
-/

namespace ReisOs.RecursiveRuntime

open ReisOs.Core Function

inductive PredicateSource where
  | policyDerived | stateDerived | evidenceDerived | modelDerived
  deriving DecidableEq, Repr

/-- `PRECEDENCE`. -/
def PredicateSource.precedence : PredicateSource → ℕ
  | policyDerived => 4
  | stateDerived => 3
  | evidenceDerived => 2
  | modelDerived => 1

inductive Tri where
  | true | false | unknown
  deriving DecidableEq, Repr

structure Predicate where
  name : String
  value : Tri
  source : PredicateSource
  evidenceRefs : List String
  deriving DecidableEq, Repr

structure ReflectionDecision where
  outcome : Outcome
  rule : String
  actionRef : Option String
  deriving DecidableEq, Repr

namespace ReflectionEngine

/-! ## The engine -/

/-- The dictionary `by_name`. -/
def byName (predicates : List Predicate) : String → Option Predicate :=
  mergeAll Predicate.name (·.source.precedence) (fun _ => none) predicates

def criticalNames : List String := ["authority_valid", "fencing_valid", "safety_clear"]

def noncriticalNames : List String :=
  ["evidence_sufficient", "capability_sufficient", "budget_available"]

/-- The loop over the critical predicates. -/
def failCritical (value : String → Option Tri) : List String → Option ReflectionDecision
  | [] => none
  | name :: names =>
    if value name = some .unknown then some ⟨.failClosed, "R0_UNKNOWN_CRITICAL", none⟩
    else if value name = some .false then some ⟨.failClosed, "R0_CRITICAL_FALSE", none⟩
    else failCritical value names

/-- What follows an insufficient capability. -/
def delegated (authorizedChild escalationAllowed : Bool) : ReflectionDecision :=
  if authorizedChild then ⟨.delegate, "R3", some "child-task"⟩
  else if escalationAllowed then ⟨.escalate, "R4", some "bounded-escalation"⟩
  else ⟨.hold, "R5", none⟩

/-- The decision on the values of evidence, capability and budget. -/
def decideCalm (authorizedChild escalationAllowed : Bool)
    (evidence capability budget : Option Tri) : ReflectionDecision :=
  if capability = some .false then delegated authorizedChild escalationAllowed
  else if evidence = some .false then ⟨.hold, "R9", none⟩
  else if budget = some .false then ⟨.hold, "R2", none⟩
  else ⟨.continue_, "R11", some "AUTHORIZED:local"⟩

/-- The cascade over the values of the merged predicates. -/
def decideValues (value : String → Option Tri) (authorizedChild escalationAllowed : Bool) :
    ReflectionDecision :=
  match failCritical value criticalNames with
  | some decision => decision
  | none =>
    if noncriticalNames.any fun name => value name = some .unknown then
      ⟨.hold, "UNKNOWN_NONCRITICAL", none⟩
    else decideCalm authorizedChild escalationAllowed (value "evidence_sufficient")
      (value "capability_sufficient") (value "budget_available")

def valueOf (predicates : List Predicate) (name : String) : Option Tri :=
  (byName predicates name).map (·.value)

def evaluate (predicates : List Predicate) (authorizedChild escalationAllowed : Bool) :
    ReflectionDecision :=
  decideValues (valueOf predicates) authorizedChild escalationAllowed

/-! ## Statement -/

/-- Some predicate of the name and the highest precedence has the value; `none` is the value
of a name without predicates. -/
def Possible (predicates : List Predicate) (name : String) : Option Tri → Prop
  | some value => ∃ predicate,
      IsTop Predicate.name (·.source.precedence) predicates name predicate ∧
        predicate.value = value
  | none => ∀ predicate ∈ predicates, predicate.name ≠ name

/-- No order of the predicates changes the decision, and one of highest precedence that is
critical and not true makes it fail closed. -/
structure Reliable (predicates : List Predicate)
    (authorizedChild escalationAllowed : Bool) : Prop where
  orderIndependent : ∀ others : List Predicate, others.Perm predicates →
    evaluate others authorizedChild escalationAllowed =
      evaluate predicates authorizedChild escalationAllowed
  failClosed : ∀ name ∈ criticalNames, ∀ predicate,
    IsTop Predicate.name (·.source.precedence) predicates name predicate →
      predicate.value ≠ .true →
        (evaluate predicates authorizedChild escalationAllowed).outcome = .failClosed

/-- All values that are possible are the given one. -/
def Only (possible : Option Tri → Prop) (value : Tri) : Prop :=
  ∀ other, possible other → other = some value

/-- One name has the value only, and those before it have no other value than it but true. -/
def Trips (predicates : List Predicate) (value : Tri) : List String → Prop
  | [] => False
  | name :: names => Only (Possible predicates name) value ∨
      ((∀ other, Possible predicates name (some other) → other = .true ∨ other = value) ∧
        Trips predicates value names)

/-- One of the three is unknown; or none is, and each is false only or not at all, as far as
it counts. -/
def Calm (evidence capability budget : Option Tri → Prop) : Prop :=
  (Only evidence .unknown ∨ Only capability .unknown ∨ Only budget .unknown) ∨
    (¬ evidence (some .unknown) ∧ ¬ capability (some .unknown) ∧ ¬ budget (some .unknown) ∧
      (Only capability .false ∨ (¬ capability (some .false) ∧
        (Only evidence .false ∨ (¬ evidence (some .false) ∧
          (Only budget .false ∨ ¬ budget (some .false)))))))

/-- The predicates of highest precedence agree as far as they decide. -/
def Agreed (predicates : List Predicate) : Prop :=
  (∃ value, value ≠ .true ∧ Trips predicates value criticalNames) ∨
    ((∀ name ∈ criticalNames, ∀ value, Possible predicates name (some value) →
      value = .true) ∧
      Calm (Possible predicates "evidence_sufficient")
        (Possible predicates "capability_sufficient") (Possible predicates "budget_available"))

/-! ## Orders -/

/-- The values that some order of the predicates gives to the names. -/
def Choice (predicates : List Predicate) (value : String → Option Tri) : Prop :=
  ∀ name, Possible predicates name (value name)

variable {predicates : List Predicate}

theorem choice_valueOf {others : List Predicate} (hperm : others.Perm predicates) :
    Choice predicates (valueOf others) := by
  intro name
  obtain ⟨htop, hnone⟩ := mergeAll_spec Predicate.name (·.source.precedence) others name
  rw [valueOf, byName]
  cases hmerged : mergeAll Predicate.name (·.source.precedence) (fun _ => none) others name with
  | none =>
    intro predicate hmem
    exact hnone hmerged predicate (hperm.symm.subset hmem)
  | some predicate => exact ⟨predicate, (htop predicate hmerged).perm hperm, rfl⟩

variable {value : String → Option Tri}

/-- Any choice of values is what some order of the predicates gives. -/
theorem exists_perm_valueOf (h : Choice predicates value) :
    ∃ others : List Predicate, others.Perm predicates ∧ valueOf others = value := by
  have hpick : ∀ name, ∃ picked : Option Predicate, picked.map (·.value) = value name ∧
      ∀ predicate, picked = some predicate →
        IsTop Predicate.name (·.source.precedence) predicates name predicate := by
    intro name
    have hname := h name
    cases hvalue : value name with
    | none => exact ⟨none, rfl, fun predicate hpicked => by cases hpicked⟩
    | some chosen =>
      rw [hvalue] at hname
      obtain ⟨predicate, htop, hchosen⟩ := hname
      refine ⟨some predicate, congrArg some hchosen, ?_⟩
      rintro _ ⟨⟩
      exact htop
  choose picked hpicked using hpick
  obtain ⟨others, hperm, hmerged⟩ := exists_perm_mergeAll fun name predicate hsome =>
    (hpicked name).2 predicate hsome
  refine ⟨others, hperm, ?_⟩
  funext name
  cases hname : picked name with
  | some predicate =>
    rw [valueOf, byName, hmerged name predicate hname, ← (hpicked name).1, hname]
  | none =>
    have hvalue : value name = none := by
      rw [← (hpicked name).1, hname]
      rfl
    have hno := h name
    rw [hvalue] at hno ⊢
    have hothers := choice_valueOf hperm name
    cases hfound : valueOf others name with
    | none => rfl
    | some found =>
      rw [hfound] at hothers
      obtain ⟨predicate, htop, -⟩ := hothers
      exact absurd htop.keyed (hno predicate htop.mem)

theorem orderIndependent_iff {authorizedChild escalationAllowed : Bool} :
    (∀ others : List Predicate, others.Perm predicates →
      evaluate others authorizedChild escalationAllowed =
        evaluate predicates authorizedChild escalationAllowed) ↔
      ∀ value, Choice predicates value →
        decideValues value authorizedChild escalationAllowed =
          evaluate predicates authorizedChild escalationAllowed := by
  constructor
  · intro h value hvalue
    obtain ⟨others, hperm, rfl⟩ := exists_perm_valueOf hvalue
    exact h others hperm
  · intro h others hperm
    exact h (valueOf others) (choice_valueOf hperm)

theorem Choice.update (h : Choice predicates value)
    {name : String} {other : Option Tri} (hother : Possible predicates name other) :
    Choice predicates (update value name other) := by
  intro found
  by_cases hsame : found = name
  · rw [hsame, update_self]
    exact hother
  · rw [update_of_ne hsame]
    exact h found

/-! ## Critical predicates -/

/-- The decision on a critical predicate with the value. -/
def tripped (value : Tri) : ReflectionDecision :=
  if value = .unknown then ⟨.failClosed, "R0_UNKNOWN_CRITICAL", none⟩
  else ⟨.failClosed, "R0_CRITICAL_FALSE", none⟩

variable {names : List String}

theorem failCritical_cons {name : String} :
    failCritical value (name :: names) =
      if value name = none ∨ value name = some .true then failCritical value names
      else (value name).map tripped := by
  rw [failCritical]
  cases hvalue : value name with
  | none => simp
  | some found => cases found <;> simp [tripped]

theorem failCritical_congr {other : String → Option Tri}
    (h : ∀ name ∈ names, value name = other name) :
    failCritical value names = failCritical other names := by
  induction names with
  | nil => rfl
  | cons name names ih =>
    obtain ⟨hfirst, hothers⟩ := List.forall_mem_cons.mp h
    rw [failCritical_cons, failCritical_cons, hfirst, ih hothers]

theorem tripped_inj {value other : Tri} (hvalue : value ≠ .true) (hother : other ≠ .true)
    (h : tripped value = tripped other) : value = other := by
  cases value <;> cases other <;> simp_all [tripped]

theorem failCritical_of_trips {tri : Tri}
    (hvalue : Choice predicates value) (htri : tri ≠ .true) (h : Trips predicates tri names) :
    failCritical value names = some (tripped tri) := by
  induction names with
  | nil => cases h
  | cons name names ih =>
    rw [failCritical_cons]
    have hpossible := hvalue name
    cases h with
    | inl honly =>
      have hsome := honly (value name) hpossible
      simp [hsome, htri]
    | inr hpass =>
      split
      · exact ih hpass.2
      · next hfails =>
          rw [not_or] at hfails
          cases hsome : value name with
          | none => exact absurd hsome hfails.1
          | some found =>
            rw [hsome] at hpossible hfails
            have hfound : found ≠ .true := fun htrue => hfails.2 (congrArg some htrue)
            rw [Option.map_some, (hpass.1 found hpossible).resolve_left hfound]

/-- A decision that all choices share comes from names that agree. -/
theorem trips_of_failCritical {tri : Tri} (hnodup : names.Nodup)
    (htri : tri ≠ .true) (hchoice : ∃ value, Choice predicates value)
    (h : ∀ value, Choice predicates value → failCritical value names = some (tripped tri)) :
    Trips predicates tri names := by
  induction names with
  | nil =>
    obtain ⟨value, hvalue⟩ := hchoice
    have hnone := h value hvalue
    cases hnone
  | cons name names ih =>
    rw [List.nodup_cons] at hnodup
    by_cases honly : Only (Possible predicates name) tri
    · exact Or.inl honly
    obtain ⟨value, hvalue⟩ := hchoice
    have hpass : ∀ other, Possible predicates name (some other) →
        other = .true ∨ other = tri := by
      intro other hother
      by_cases htrue : other = .true
      · exact Or.inl htrue
      · right
        have hupdated := h _ (hvalue.update hother)
        rw [failCritical_cons, update_self] at hupdated
        simp only [htrue, reduceCtorEq, Option.some.injEq, or_self, if_false,
          Option.map_some] at hupdated
        exact tripped_inj htrue htri hupdated
    have hsilent : ∃ other, Possible predicates name other ∧
        (other = none ∨ other = some .true) := by
      rw [Only] at honly
      push Not at honly
      obtain ⟨other, hother, hne⟩ := honly
      cases other with
      | none => exact ⟨none, hother, Or.inl rfl⟩
      | some found =>
        have hfound : found ≠ tri := fun hsame => hne (congrArg some hsame)
        exact ⟨some found, hother,
          Or.inr (congrArg some ((hpass found hother).resolve_right hfound))⟩
    obtain ⟨silent, hpossible, hsilent⟩ := hsilent
    refine Or.inr ⟨hpass, ih hnodup.2 fun found hfound => ?_⟩
    have hupdated := h _ (hfound.update hpossible)
    rw [failCritical_cons, update_self, if_pos hsilent] at hupdated
    rw [← hupdated]
    apply failCritical_congr
    intro other hother
    rw [update_of_ne]
    rintro rfl
    exact hnodup.1 hother

theorem failCritical_of_true
    (hvalue : Choice predicates value)
    (h : ∀ name ∈ names, ∀ other, Possible predicates name (some other) → other = .true) :
    failCritical value names = none := by
  induction names with
  | nil => rfl
  | cons name names ih =>
    obtain ⟨hfirst, hothers⟩ := List.forall_mem_cons.mp h
    have hpossible := hvalue name
    have hsilent : value name = none ∨ value name = some .true := by
      cases hname : value name with
      | none => exact Or.inl rfl
      | some other =>
        rw [hname] at hpossible
        exact Or.inr (congrArg some (hfirst other hpossible))
    rw [failCritical_cons, if_pos hsilent, ih hothers]

/-! ## Calm -/

section Calm

variable (authorizedChild escalationAllowed : Bool)

/-- The decision after the critical predicates. -/
def decideRest (evidence capability budget : Option Tri) : ReflectionDecision :=
  if evidence = some .unknown ∨ capability = some .unknown ∨ budget = some .unknown then
    ⟨.hold, "UNKNOWN_NONCRITICAL", none⟩
  else decideCalm authorizedChild escalationAllowed evidence capability budget

theorem decideValues_of_none {value : String → Option Tri}
    (h : failCritical value criticalNames = none) :
    decideValues value authorizedChild escalationAllowed =
      decideRest authorizedChild escalationAllowed (value "evidence_sufficient")
        (value "capability_sufficient") (value "budget_available") := by
  rw [decideValues, h, decideRest]
  simp [noncriticalNames]

variable {authorizedChild escalationAllowed} {evidence capability budget : Option Tri}

theorem rule_decideCalm :
    (decideCalm authorizedChild escalationAllowed evidence capability budget).rule ≠
      "UNKNOWN_NONCRITICAL" := by
  rw [decideCalm, delegated]
  split_ifs <;> decide

theorem decideRest_eq_unknown_iff :
    decideRest authorizedChild escalationAllowed evidence capability budget =
        ⟨.hold, "UNKNOWN_NONCRITICAL", none⟩ ↔
      evidence = some .unknown ∨ capability = some .unknown ∨ budget = some .unknown := by
  rw [decideRest]
  split
  · next h => exact iff_of_true rfl h
  · next h =>
      refine iff_of_false (fun hrule => ?_) h
      exact rule_decideCalm (congrArg ReflectionDecision.rule hrule)

theorem decideCalm_eq_delegated_iff :
    decideCalm authorizedChild escalationAllowed evidence capability budget =
        delegated authorizedChild escalationAllowed ↔ capability = some .false := by
  rw [decideCalm]
  split
  · next h => exact iff_of_true rfl h
  · next h =>
      refine iff_of_false ?_ h
      rw [delegated]
      split_ifs <;> decide

theorem decideCalm_eq_evidence_iff (h : capability ≠ some .false) :
    decideCalm authorizedChild escalationAllowed evidence capability budget =
        ⟨.hold, "R9", none⟩ ↔ evidence = some .false := by
  rw [decideCalm, if_neg h]
  split_ifs with hevidence
  · exact iff_of_true rfl hevidence
  · exact iff_of_false (by decide) hevidence
  · exact iff_of_false (by decide) hevidence

theorem decideCalm_eq_budget_iff (h : capability ≠ some .false)
    (hevidence : evidence ≠ some .false) :
    decideCalm authorizedChild escalationAllowed evidence capability budget =
        ⟨.hold, "R2", none⟩ ↔ budget = some .false := by
  rw [decideCalm, if_neg h, if_neg hevidence]
  split_ifs with hbudget
  · exact iff_of_true rfl hbudget
  · exact iff_of_false (by decide) hbudget

theorem decideRest_of_known (hevidence : evidence ≠ some .unknown)
    (hcapability : capability ≠ some .unknown) (hbudget : budget ≠ some .unknown) :
    decideRest authorizedChild escalationAllowed evidence capability budget =
      decideCalm authorizedChild escalationAllowed evidence capability budget := by
  rw [decideRest, if_neg]
  rintro (h | h | h)
  · exact hevidence h
  · exact hcapability h
  · exact hbudget h

theorem ne_of_not {possible : Option Tri → Prop} {value : Tri} (h : ¬ possible (some value))
    {other : Option Tri} (hother : possible other) : other ≠ some value := by
  rintro rfl
  exact h hother

/-- The three values decide the same way whatever is chosen. -/
def Constant (authorizedChild escalationAllowed : Bool)
    (evidence capability budget : Option Tri → Prop) (decision : ReflectionDecision) : Prop :=
  ∀ first second third, evidence first → capability second → budget third →
    decideRest authorizedChild escalationAllowed first second third = decision

variable {evidence capability budget : Option Tri → Prop}

theorem constant_of_calm (h : Calm evidence capability budget) :
    ∃ decision, Constant authorizedChild escalationAllowed evidence capability budget
      decision := by
  cases h with
  | inl hunknown =>
    refine ⟨⟨.hold, "UNKNOWN_NONCRITICAL", none⟩, fun first second third h1 h2 h3 => ?_⟩
    apply decideRest_eq_unknown_iff.mpr
    rcases hunknown with honly | honly | honly
    · exact Or.inl (honly first h1)
    · exact Or.inr (Or.inl (honly second h2))
    · exact Or.inr (Or.inr (honly third h3))
  | inr hknown =>
    obtain ⟨hevidence, hcapability, hbudget, hcalm⟩ := hknown
    have hrest {first second third : Option Tri} (h1 : evidence first)
        (h2 : capability second) (h3 : budget third) :=
      @decideRest_of_known authorizedChild escalationAllowed first second third
        (ne_of_not hevidence h1) (ne_of_not hcapability h2) (ne_of_not hbudget h3)
    rcases hcalm with honly | ⟨hcapable, honly | ⟨hevident, honly | hfunded⟩⟩
    · refine ⟨delegated authorizedChild escalationAllowed, fun first second third h1 h2 h3 => ?_⟩
      rw [hrest h1 h2 h3]
      exact decideCalm_eq_delegated_iff.mpr (honly second h2)
    · refine ⟨⟨.hold, "R9", none⟩, fun first second third h1 h2 h3 => ?_⟩
      rw [hrest h1 h2 h3]
      exact (decideCalm_eq_evidence_iff (ne_of_not hcapable h2)).mpr (honly first h1)
    · refine ⟨⟨.hold, "R2", none⟩, fun first second third h1 h2 h3 => ?_⟩
      rw [hrest h1 h2 h3]
      exact (decideCalm_eq_budget_iff (ne_of_not hcapable h2)
        (ne_of_not hevident h1)).mpr (honly third h3)
    · refine ⟨⟨.continue_, "R11", some "AUTHORIZED:local"⟩,
        fun first second third h1 h2 h3 => ?_⟩
      rw [hrest h1 h2 h3, decideCalm, if_neg (ne_of_not hcapable h2),
        if_neg (ne_of_not hevident h1), if_neg (ne_of_not hfunded h3)]

theorem exists_of_not_only {possible : Option Tri → Prop} {value : Tri}
    (h : ¬ Only possible value) : ∃ other, possible other ∧ other ≠ some value := by
  rw [Only] at h
  push Not at h
  exact h

theorem calm_of_constant {decision : ReflectionDecision}
    (h : Constant authorizedChild escalationAllowed evidence capability budget decision) :
    Calm evidence capability budget := by
  by_cases hunknown : Only evidence .unknown ∨ Only capability .unknown ∨ Only budget .unknown
  · exact Or.inl hunknown
  rw [not_or, not_or] at hunknown
  obtain ⟨first, h1, hfirst⟩ := exists_of_not_only hunknown.1
  obtain ⟨second, h2, hsecond⟩ := exists_of_not_only hunknown.2.1
  obtain ⟨third, h3, hthird⟩ := exists_of_not_only hunknown.2.2
  have hdecision : decision ≠ ⟨.hold, "UNKNOWN_NONCRITICAL", none⟩ := by
    rw [← h first second third h1 h2 h3, Ne, decideRest_eq_unknown_iff]
    rintro (heq | heq | heq)
    · exact hfirst heq
    · exact hsecond heq
    · exact hthird heq
  have hevidence : ¬ evidence (some .unknown) := by
    intro h1'
    apply hdecision
    rw [← h _ second third h1' h2 h3]
    exact decideRest_eq_unknown_iff.mpr (Or.inl rfl)
  have hcapability : ¬ capability (some .unknown) := by
    intro h2'
    apply hdecision
    rw [← h first _ third h1 h2' h3]
    exact decideRest_eq_unknown_iff.mpr (Or.inr (Or.inl rfl))
  have hbudget : ¬ budget (some .unknown) := by
    intro h3'
    apply hdecision
    rw [← h first second _ h1 h2 h3']
    exact decideRest_eq_unknown_iff.mpr (Or.inr (Or.inr rfl))
  have hcalm {first second third : Option Tri} (h1 : evidence first)
      (h2 : capability second) (h3 : budget third) :
      decideCalm authorizedChild escalationAllowed first second third = decision := by
    rw [← h first second third h1 h2 h3]
    exact (decideRest_of_known (ne_of_not hevidence h1) (ne_of_not hcapability h2)
      (ne_of_not hbudget h3)).symm
  refine Or.inr ⟨hevidence, hcapability, hbudget, ?_⟩
  by_cases hcapable : capability (some .false)
  · -- then every choice is delegated, so that no capability is anything else
    left
    intro other hother
    have hdelegated := hcalm h1 hcapable h3
    rw [decideCalm_eq_delegated_iff.mpr rfl] at hdelegated
    exact decideCalm_eq_delegated_iff.mp ((hcalm h1 hother h3).trans hdelegated.symm)
  refine Or.inr ⟨hcapable, ?_⟩
  have hsufficient := ne_of_not hcapable h2
  by_cases hevident : evidence (some .false)
  · left
    intro other hother
    have hheld := hcalm hevident h2 h3
    rw [(decideCalm_eq_evidence_iff hsufficient).mpr rfl] at hheld
    exact (decideCalm_eq_evidence_iff hsufficient).mp ((hcalm hother h2 h3).trans hheld.symm)
  refine Or.inr ⟨hevident, ?_⟩
  by_cases hfunded : budget (some .false)
  · left
    intro other hother
    have hheld := hcalm h1 h2 hfunded
    rw [(decideCalm_eq_budget_iff hsufficient (ne_of_not hevident h1)).mpr rfl] at hheld
    exact (decideCalm_eq_budget_iff hsufficient (ne_of_not hevident h1)).mp
      ((hcalm h1 h2 hother).trans hheld.symm)
  · exact Or.inr hfunded

end Calm

/-! ## When reflection is reliable -/

section Reliable

variable {authorizedChild escalationAllowed : Bool}

variable {value : String → Option Tri}

theorem decideValues_of_some {decision : ReflectionDecision}
    (h : failCritical value criticalNames = some decision) :
    decideValues value authorizedChild escalationAllowed = decision := by
  rw [decideValues, h]

theorem outcome_tripped (value : Tri) : (tripped value).outcome = .failClosed := by
  rw [tripped]
  split <;> rfl

theorem evaluate_choice (predicates : List Predicate) :
    Choice predicates (valueOf predicates) := choice_valueOf (List.Perm.refl predicates)

theorem exists_tripped_of_failCritical {names : List String}
    {decision : ReflectionDecision} (h : failCritical value names = some decision) :
    ∃ tri, tri ≠ .true ∧ decision = tripped tri := by
  induction names with
  | nil => cases h
  | cons name names ih =>
    rw [failCritical_cons] at h
    split at h
    · exact ih h
    · next hloud =>
        obtain ⟨found, hfound, rfl⟩ := Option.map_eq_some_iff.mp h
        refine ⟨found, ?_, rfl⟩
        rintro rfl
        exact hloud (Or.inr hfound)

theorem outcome_decideRest (first second third : Option Tri) :
    (decideRest authorizedChild escalationAllowed first second third).outcome ≠
      .failClosed := by
  rw [decideRest, decideCalm, delegated]
  split_ifs <;> decide

theorem exists_tripped
    (h : (decideValues value authorizedChild escalationAllowed).outcome = .failClosed) :
    ∃ tri, tri ≠ .true ∧ failCritical value criticalNames = some (tripped tri) ∧
      decideValues value authorizedChild escalationAllowed = tripped tri := by
  cases hcritical : failCritical value criticalNames with
  | none =>
    rw [decideValues_of_none _ _ hcritical] at h
    exact absurd h (outcome_decideRest _ _ _)
  | some decision =>
    obtain ⟨tri, htri, rfl⟩ := exists_tripped_of_failCritical hcritical
    exact ⟨tri, htri, rfl, decideValues_of_some hcritical⟩

theorem exists_choice {first second third : Option Tri}
    (h1 : Possible predicates "evidence_sufficient" first)
    (h2 : Possible predicates "capability_sufficient" second)
    (h3 : Possible predicates "budget_available" third) :
    ∃ value, Choice predicates value ∧ value "evidence_sufficient" = first ∧
      value "capability_sufficient" = second ∧ value "budget_available" = third := by
  refine ⟨_, (((evaluate_choice predicates).update h1).update h2).update h3, ?_, ?_, ?_⟩
  · rw [update_of_ne (by decide), update_of_ne (by decide),
      update_self]
  · rw [update_of_ne (by decide), update_self]
  · rw [update_self]

theorem reliable_of_agreed (h : Agreed predicates) :
    Reliable predicates authorizedChild escalationAllowed := by
  cases h with
  | inl htrips =>
    obtain ⟨tri, htri, htrips⟩ := htrips
    have hdecides (value : String → Option Tri) (hvalue : Choice predicates value) :
        decideValues value authorizedChild escalationAllowed = tripped tri :=
      decideValues_of_some (failCritical_of_trips hvalue htri htrips)
    have hself := hdecides (valueOf predicates) (evaluate_choice predicates)
    constructor
    · apply orderIndependent_iff.mpr
      intro value hvalue
      rw [hdecides value hvalue]
      exact hself.symm
    · intro name _ predicate _ _
      rw [evaluate, hself]
      exact outcome_tripped tri
  | inr hclear =>
    obtain ⟨htrue, hcalm⟩ := hclear
    obtain ⟨decision, hconstant⟩ :=
      @constant_of_calm authorizedChild escalationAllowed _ _ _ hcalm
    have hdecides (value : String → Option Tri) (hvalue : Choice predicates value) :
        decideValues value authorizedChild escalationAllowed = decision := by
      rw [decideValues_of_none _ _ (failCritical_of_true hvalue htrue)]
      exact hconstant _ _ _ (hvalue _) (hvalue _) (hvalue _)
    constructor
    · apply orderIndependent_iff.mpr
      intro value hvalue
      rw [hdecides value hvalue]
      exact (hdecides _ (evaluate_choice predicates)).symm
    · intro name hname predicate htop hvalue
      exact absurd (htrue name hname predicate.value ⟨predicate, htop, rfl⟩) hvalue

theorem agreed_of_reliable (h : Reliable predicates authorizedChild escalationAllowed) :
    Agreed predicates := by
  have hall := orderIndependent_iff.mp h.orderIndependent
  by_cases htrue : ∀ name ∈ criticalNames, ∀ value, Possible predicates name (some value) →
      value = .true
  · refine Or.inr ⟨htrue, ?_⟩
    apply @calm_of_constant authorizedChild escalationAllowed _ _ _
      (evaluate predicates authorizedChild escalationAllowed)
    intro first second third h1 h2 h3
    obtain ⟨value, hvalue, rfl, rfl, rfl⟩ := exists_choice h1 h2 h3
    rw [← hall value hvalue, decideValues_of_none _ _ (failCritical_of_true hvalue htrue)]
  · left
    have hfails : (evaluate predicates authorizedChild escalationAllowed).outcome =
        .failClosed := by
      push Not at htrue
      obtain ⟨name, hname, value, ⟨predicate, htop, hvalue⟩, hne⟩ := htrue
      rw [← hvalue] at hne
      exact h.failClosed name hname predicate htop hne
    obtain ⟨tri, htri, -, hdecision⟩ := exists_tripped hfails
    refine ⟨tri, htri, trips_of_failCritical (by decide) htri
      ⟨valueOf predicates, evaluate_choice predicates⟩ fun value hvalue => ?_⟩
    have hsame := hall value hvalue
    have hother := hfails
    rw [← hsame] at hother
    obtain ⟨other, hne, hcritical, hdecides⟩ := exists_tripped hother
    rw [hcritical, ← hdecides, hsame]
    exact congrArg some hdecision

/-- Reflection is independent of the order and fails closed exactly if the predicates of
highest precedence agree as far as they decide. -/
theorem reliable_iff (predicates : List Predicate) (authorizedChild escalationAllowed : Bool) :
    Reliable predicates authorizedChild escalationAllowed ↔ Agreed predicates :=
  ⟨agreed_of_reliable, reliable_of_agreed⟩

/-- Two policies that contradict each other on the authority. -/
def contradicting : List Predicate :=
  [⟨"authority_valid", .true, .policyDerived, []⟩,
    ⟨"authority_valid", .false, .policyDerived, []⟩]

theorem contradicting_not_reliable : ¬ Reliable contradicting true true := by
  intro h
  have hswapped := h.orderIndependent contradicting.reverse (List.reverse_perm contradicting)
  exact absurd hswapped (by decide)

end Reliable

end ReflectionEngine

end ReisOs.RecursiveRuntime
