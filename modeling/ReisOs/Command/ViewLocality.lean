import ReisOs.Command.InstanceFeed
import ReisOs.Instances.RegistryStates

/-!
# Views of single instances

`CommandInstanceViews.get`, `lineage` and `comparison`, and the recovery centre, over a
state of the registry.  Their `now` is given; `wall` is the text of the current time.
-/

namespace ReisOs.Command

open ReisOs.Core ReisOs.Kernel ReisOs.Instances

/-- What the views read of a state.  Every update of a row counts up its version, so
that `binding_id` and `version` name its `updated_at`. -/
def Registry.ofState (updatedAt : String → ℕ → Time) (state : RegistryState) : Registry where
  bindings := state.store.bindings.map fun row =>
    ⟨row, updatedAt row.bindingId row.version⟩
  journal := state.store.journal
  sagas := state.store.sagas
  keys := by
    rw [List.map_map]
    exact state.wellFormed.bindings

/-- `_recovery_proof`. -/
structure RecoveryProof where
  complete : Bool
  checks : List (String × Bool)
  basis : String
  deriving DecidableEq, Repr

structure InstanceDetail where
  item : Item
  journal : List FeedEvent
  deriving DecidableEq, Repr

structure LineageView where
  runId : String
  ocsId : String
  currentGeneration : Option ℕ
  generations : List Item
  source : Source
  deriving DecidableEq, Repr

/-- A value that `comparison` shows. -/
inductive ComparedValue where
  | null
  | text (value : String)
  | number (value : ℕ)
  deriving DecidableEq, Repr

def ComparedValue.ofOption : Option String → ComparedValue
  | none => .null
  | some value => .text value

structure ComparedField where
  field : String
  predecessor : ComparedValue
  current : ComparedValue
  equal : Option Bool
  deriving DecidableEq, Repr

structure Comparison where
  bindingId : String
  predecessorBindingId : Option String
  comparisons : List ComparedField
  recoveryProof : RecoveryProof
  claimState : String
  verified : Bool
  evidenceRefs : List String
  boundary : String
  source : Source
  deriving DecidableEq, Repr

/-- The `fields` of `comparison`, with what `getattr` finds there. -/
def comparedFields : List (String × (BindingRow → ComparedValue)) :=
  [("profile_hash", fun row => .text row.profileHash),
    ("identity_binding_hash", fun row => .text row.identityBindingHash),
    ("authority_ref", fun row => .text row.authorityRef),
    ("state_namespace", fun row => .text row.stateNamespace),
    ("memory_namespace", fun row => .text row.memoryNamespace),
    ("checkpoint_version", fun row => .number row.checkpointVersion),
    ("checkpoint_hash", fun row => .ofOption row.checkpointHash),
    ("hazel_event_hash", fun row => .ofOption row.hazelEventHash)]

namespace Registry

variable (registry : Registry)

def recoveryProof (current : BindingRow) (predecessor : Option BindingRow) :
    RecoveryProof where
  complete := registry.recoveryComplete current predecessor
  checks := registry.recoveryChecks current predecessor
  basis := "IB5 durable replacement saga plus registry readback commit"

/-- `_get_scoped`. -/
def bindingOf (bindingId organizationId : String) : Except InstanceError BindingRow :=
  match registry.getScoped bindingId organizationId with
  | none => .error (.binding "instance_binding_not_found")
  | some row => .ok row

/-- `ORDER BY generation ASC`. -/
def byGeneration (left right : BindingRow) : Prop := left.generation ≤ right.generation

instance : DecidableRel byGeneration := fun left right =>
  inferInstanceAs (Decidable (left.generation ≤ right.generation))

def lineage (health : Health) (bindingId organizationId : String) (now : Time)
    (wall : String) : Except InstanceError LineageView := do
  let target ← registry.bindingOf bindingId organizationId
  let rows := (registry.lineageRows target).insertionSort byGeneration
  let items := rows.map fun row => registry.project row now health wall
  return {
    runId := target.runId
    ocsId := target.ocsId
    currentGeneration := maximum (items.map fun item => item.binding.generation)
    generations := items
    source := source health }

/-- `_journal`. -/
def journalOf (stamps : String → JournalStamp) (bindingId organizationId : String) :
    Except InstanceError (List FeedEvent) := do
  let _ ← registry.bindingOf bindingId organizationId
  return (registry.journalRows bindingId).map (journalRow stamps)

/-- `get`: the item, its journal and its lineage. -/
def get (stamps : String → JournalStamp) (health : Health)
    (bindingId organizationId : String) (now : Time) (wall : String) :
    Except InstanceError (InstanceDetail × LineageView) := do
  let binding ← registry.bindingOf bindingId organizationId
  let item := registry.project binding now health wall
  let journal ← registry.journalOf stamps bindingId organizationId
  let lineage ← registry.lineage health bindingId organizationId now wall
  return (⟨item, journal⟩, lineage)

def comparison (health : Health) (bindingId organizationId : String) :
    Except InstanceError Comparison := do
  let current ← registry.bindingOf bindingId organizationId
  let predecessor := registry.predecessor current
  let proof := registry.recoveryProof current predecessor
  return {
    bindingId := bindingId
    predecessorBindingId := current.predecessorBindingId
    comparisons := comparedFields.map fun (field, value) =>
      { field := field
        predecessor := (predecessor.map value).getD .null
        current := value current
        equal := predecessor.map fun previous => value previous = value current }
    recoveryProof := proof
    claimState := if proof.complete then "verified" else "observed"
    verified := proof.complete
    evidenceRefs := evidenceRefs current
    boundary := "verified_is_not_assured"
    source := source health }

end Registry

structure RecoveryPage where
  page : Page
  epistemicBoundary : List (String × Bool)
  deriving DecidableEq, Repr

/-- `recovery_center`. -/
def recoveryCenter (codec : Codec) (registry : Registry) (health : Health)
    (organizationId : String) (filters : InstanceFilter) (cursor : Option String)
    (limit : ℕ) (now : Time) (wall : String) : Except ViewError RecoveryPage := do
  let page ← listInstances codec registry health organizationId
    { filters with recoveryOnly := true } cursor limit now wall
  return {
    page
    epistemicBoundary := [("requested_is_executed", false), ("executed_is_verified", false),
      ("verified_is_assured", false), ("unknown_is_zero", false),
      ("no_data_is_healthy", false)] }

/-!
## What a view depends on

Registries that agree on the bindings whose ids are kept, with their entries and sagas,
show the same of these bindings.  The rows of an organization are `Covered` if they are
all kept; then so are the predecessors and the lineages of each of them.
-/

theorem filter_of_imp {A : Type} {inner outer : A → Bool} {values : List A}
    (h : ∀ value ∈ values, inner value = true → outer value = true) :
    (values.filter outer).filter inner = values.filter inner := by
  rw [List.filter_filter]
  apply List.filter_congr
  intro value hvalue
  cases hinner : inner value with
  | false => rfl
  | true => exact h value hvalue hinner

theorem filter_eq_of_imp {A : Type} {inner outer : A → Bool} {left right : List A}
    (h : left.filter outer = right.filter outer)
    (hleft : ∀ value ∈ left, inner value = true → outer value = true)
    (hright : ∀ value ∈ right, inner value = true → outer value = true) :
    left.filter inner = right.filter inner := by
  rw [← filter_of_imp hleft, h, filter_of_imp hright]

theorem find?_eq_of_filter {A : Type} {test : A → Bool} {left right : List A}
    (h : left.filter test = right.filter test) : left.find? test = right.find? test := by
  rw [← List.head?_filter, h, List.head?_filter]

theorem any_eq_of_filter {A : Type} {test : A → Bool} {left right : List A}
    (h : left.filter test = right.filter test) : left.any test = right.any test := by
  have hfind : (left.find? test).isSome = (right.find? test).isSome := by
    rw [find?_eq_of_filter h]
  rw [List.isSome_find?, List.isSome_find?] at hfind
  exact hfind

namespace Registry

/-- Two registries have the same kept bindings, with the same entries and sagas. -/
structure Agree (kept : String → Bool) (left right : Registry) : Prop where
  bindings : left.bindings.filter (fun row => kept row.bindingId) =
    right.bindings.filter fun row => kept row.bindingId
  journal : left.journal.filter (kept ·.bindingId) = right.journal.filter (kept ·.bindingId)
  sagas : left.sagas.filter (kept ·.bindingId) = right.sagas.filter (kept ·.bindingId)

/-- All rows of the organization are kept. -/
def Covered (kept : String → Bool) (organizationId : String) (registry : Registry) : Prop :=
  ∀ row ∈ registry.bindings, row.organizationId = organizationId →
    kept row.bindingId = true

variable {kept : String → Bool} {left right : Registry} {organizationId bindingId : String}

theorem agree_of_part (updatedAt : String → ℕ → Time) {state later : RegistryState}
    (h : state.store.part kept = later.store.part kept) :
    Agree kept (ofState updatedAt state) (ofState updatedAt later) := by
  have hrows (state : RegistryState) :
      (ofState updatedAt state).bindings.filter (fun row => kept row.bindingId) =
        (state.store.part kept).bindings.map fun row =>
          ⟨row, updatedAt row.bindingId row.version⟩ := by
    exact List.filter_map
  constructor
  · rw [hrows, hrows, h]
  · exact congrArg InstanceStore.journal h
  · exact congrArg InstanceStore.sagas h

theorem Agree.journalRows (h : Agree kept left right) (hkept : kept bindingId = true) :
    left.journalRows bindingId = right.journalRows bindingId := by
  apply filter_eq_of_imp h.journal
  all_goals
    intro entry _ hid
    rw [of_decide_eq_true hid]
    exact hkept

theorem Agree.replacementSaga (h : Agree kept left right) (hkept : kept bindingId = true) :
    left.replacementSaga bindingId = right.replacementSaga bindingId := by
  have hsagas : left.sagas.filter (·.bindingId = bindingId) =
      right.sagas.filter (·.bindingId = bindingId) := by
    apply filter_eq_of_imp h.sagas
    all_goals
      intro saga _ hid
      rw [of_decide_eq_true hid]
      exact hkept
  unfold Registry.replacementSaga
  rw [hsagas]

theorem Agree.getScoped (h : Agree kept left right) (hkept : kept bindingId = true) :
    left.getScoped bindingId organizationId = right.getScoped bindingId organizationId := by
  apply find?_eq_of_filter
  apply filter_eq_of_imp h.bindings
  all_goals
    intro row _ hrow
    rw [(of_decide_eq_true hrow).1]
    exact hkept

theorem mem_of_getScoped {registry : Registry} {row : BindingRow}
    (h : registry.getScoped bindingId organizationId = some row) :
    row ∈ registry.bindings ∧ row.bindingId = bindingId ∧
      row.organizationId = organizationId :=
  ⟨List.mem_of_find?_eq_some h, by simpa using List.find?_some h⟩

theorem Agree.recoveryChecks (h : Agree kept left right) {row : BindingRow}
    (hkept : kept row.bindingId = true) {predecessor : Option BindingRow}
    (hpredecessor : ∀ previous ∈ predecessor, kept previous.bindingId = true) :
    left.recoveryChecks row predecessor = right.recoveryChecks row predecessor := by
  have hevents := h.journalRows hkept
  have hsaga : (predecessor.bind fun row => left.replacementSaga row.bindingId) =
      predecessor.bind fun row => right.replacementSaga row.bindingId := by
    cases predecessor with
    | none => rfl
    | some previous => exact h.replacementSaga (hpredecessor previous rfl)
  unfold Registry.recoveryChecks
  rw [hevents, hsaga]

/-! ## An organization -/

theorem Agree.getScoped_covered (h : Agree kept left right)
    (hleft : left.Covered kept organizationId) (hright : right.Covered kept organizationId)
    (bindingId : String) :
    left.getScoped bindingId organizationId = right.getScoped bindingId organizationId := by
  apply find?_eq_of_filter
  apply filter_eq_of_imp h.bindings
  · intro row hmem hrow
    exact hleft row hmem (of_decide_eq_true hrow).2
  · intro row hmem hrow
    exact hright row hmem (of_decide_eq_true hrow).2

section Organization

variable (h : Agree kept left right) (hleft : left.Covered kept organizationId)
  (hright : right.Covered kept organizationId) {row : BindingRow}
  (horganization : row.organizationId = organizationId)

include h hleft hright horganization

theorem Agree.predecessor : left.predecessor row = right.predecessor row := by
  unfold Registry.predecessor
  rw [horganization]
  congr 1
  funext bindingId
  exact h.getScoped_covered hleft hright bindingId

theorem Agree.lineageRows : left.lineageRows row = right.lineageRows row := by
  apply filter_eq_of_imp h.bindings
  · intro other hmem hother
    exact hleft other hmem ((of_decide_eq_true hother).1.trans horganization)
  · intro other hmem hother
    exact hright other hmem ((of_decide_eq_true hother).1.trans horganization)

theorem Agree.generationHasPlatform (generation : ℕ) :
    left.generationHasPlatform row generation = right.generationHasPlatform row generation := by
  unfold Registry.generationHasPlatform
  rw [h.lineageRows hleft hright horganization]

theorem Agree.lineageHasPendingReplacement :
    left.lineageHasPendingReplacement row = right.lineageHasPendingReplacement row := by
  have hsagas (other : BindingRow) (hother : other ∈ right.lineageRows row) :
      (left.sagas.any fun saga => saga.bindingId = other.bindingId ∧
        saga.operation = .replacement ∧ saga.state ≠ .leaseFinalized) =
      right.sagas.any fun saga => saga.bindingId = other.bindingId ∧
        saga.operation = .replacement ∧ saga.state ≠ .leaseFinalized := by
    have hfilter := List.mem_filter.mp hother
    have hkept : kept other.bindingId = true :=
      hright other hfilter.1 ((of_decide_eq_true hfilter.2).1.trans horganization)
    apply any_eq_of_filter
    apply filter_eq_of_imp h.sagas
    all_goals
      intro saga _ hsaga
      rw [(of_decide_eq_true hsaga).1]
      exact hkept
  unfold Registry.lineageHasPendingReplacement
  rw [h.lineageRows hleft hright horganization]
  rw [Bool.eq_iff_iff, List.any_eq_true, List.any_eq_true]
  apply exists_congr
  intro other
  apply and_congr_right
  intro hother
  rw [hsagas other hother]

theorem Agree.fencing : left.fencing row = right.fencing row := by
  have hplatform : left.generationHasPlatform row = right.generationHasPlatform row := by
    funext generation
    exact h.generationHasPlatform hleft hright horganization generation
  unfold Registry.fencing
  rw [h.lineageRows hleft hright horganization, hplatform,
    h.lineageHasPendingReplacement hleft hright horganization]

theorem Agree.recoveryProof (hkept : kept row.bindingId = true) :
    left.recoveryProof row (left.predecessor row) =
      right.recoveryProof row (right.predecessor row) := by
  have hpredecessor : ∀ previous ∈ right.predecessor row,
      kept previous.bindingId = true := by
    intro previous hprevious
    obtain ⟨id, -, hfound⟩ := Option.bind_eq_some_iff.mp hprevious
    obtain ⟨hmem, -, hsame⟩ := mem_of_getScoped hfound
    exact hright previous hmem (hsame.trans horganization)
  unfold Registry.recoveryProof Registry.recoveryComplete
  rw [h.predecessor hleft hright horganization, h.recoveryChecks hkept hpredecessor]

theorem Agree.phases (hkept : kept row.bindingId = true) :
    left.phases row = right.phases row := by
  have hproof := congrArg RecoveryProof.complete
    (h.recoveryProof hleft hright horganization hkept)
  change left.recoveryComplete row _ = right.recoveryComplete row _ at hproof
  unfold Registry.phases
  rw [h.journalRows hkept, h.replacementSaga hkept, hproof]

theorem Agree.project (hkept : kept row.bindingId = true) (clock : Time) (health : Health)
    (wall : String) :
    left.project row clock health wall = right.project row clock health wall := by
  unfold Registry.project
  rw [h.phases hleft hright horganization hkept, h.fencing hleft hright horganization]

end Organization

end Registry

end ReisOs.Command
