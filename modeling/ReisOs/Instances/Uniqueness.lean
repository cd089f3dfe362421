import ReisOs.Instances.ServiceSafety

/-!
# One lineage for each mission-scoped OCS

Any number of binder processes share the registry and Hazel; each runs the services
step by step, crashes anywhere and restarts.  In every state that they reach together
the generations of a mission-scoped OCS are one chain with at most one live member.
-/

namespace ReisOs.Instances

open ReisOs.Core ReisOs.Kernel World Script

variable {S : Type}

/-! ## Processes -/

/-- What can happen next to the processes that share the registry. -/
inductive Event (S : Type) where
  /-- An idle process begins a call. -/
  | call (process : ℕ) (made : Call S)
  /-- A process takes the next atomic step of its call. -/
  | step (process : ℕ)
  /-- A process loses its call and its memory and starts again on its identity log. -/
  | crash (process : ℕ)
  /-- Someone else changes the leases that a process works with. -/
  | leases (process : ℕ) (manager : AuthorityLeaseManager)
  | clock (process : ℕ) (readings : ℕ → Time)

abbrev Processes (S : Type) :=
  Pool (World S) InstanceError (InstanceStore × Hazel S) Own

def Event.turns [DecidableEq S] (config : BinderConfig S) (folding : TextFolding) :
    Event S → List (Turn (World S) InstanceError Own)
  | .call process made => [.start process (made.script config folding)]
  | .step process => [.advance process]
  | .crash process =>
    [.crash process,
      .alter process fun own => { own with guard := .restart own.guard.auditLog }]
  | .leases process manager => [.alter process fun own => { own with leases := manager }]
  | .clock process readings => [.alter process fun own => { own with clock := readings }]

/-- An empty registry, an empty Hazel and idle processes with empty logs. -/
def idleProcesses : Processes S where
  common := (.empty, ∅)
  own _ := ⟨.empty, .restart [], fun _ => 0⟩
  running _ := none

/-- The processes after a sequence of events. -/
def reached [DecidableEq S] (config : BinderConfig S) (folding : TextFolding)
    (events : List (Event S)) : Processes S :=
  run (Pool.turn parts) idleProcesses (events.flatMap (·.turns config folding))

/-! ## Lineages -/

/-- The statuses of a generation that works or can be put to work. -/
def attached : List InstanceStatus := [.bound, .active, .checkpointed]

/-- `next` takes over from `binding`. -/
structure TakesOver (binding next : InstanceBinding) : Prop where
  link : next.predecessorBindingId = some binding.bindingId
  generation : next.generation = binding.generation + 1
  runId : next.runId = binding.runId
  profile : next.profileVersion = binding.profileVersion ∧
    next.profileHash = binding.profileHash
  authority : next.authorityRef = binding.authorityRef
  namespaces : next.stateNamespace = binding.stateNamespace ∧
    next.memoryNamespace = binding.memoryNamespace

/-- The rows of each mission-scoped OCS are one lineage. -/
structure UniqueLineages (store : InstanceStore) : Prop where
  rows : (store.bindings.map (·.bindingId)).Nodup
  live : ∀ left ∈ store.bindings, ∀ right ∈ store.bindings, left.mission = right.mission →
    left.status ∈ attached → right.status ∈ attached → left = right
  distinct : ∀ left ∈ store.bindings, ∀ right ∈ store.bindings,
    left.mission = right.mission → left.generation = right.generation → left = right
  contiguous : ∀ binding ∈ store.bindings, 1 ≤ binding.generation ∧
    ∀ generation, 1 ≤ generation → generation ≤ binding.generation →
      ∃ row ∈ store.bindings, row.mission = binding.mission ∧ row.generation = generation
  successor : ∀ binding ∈ store.bindings, binding.status = .replaced →
    ∃ next ∈ store.bindings, TakesOver binding next ∧
      ∀ other ∈ store.bindings, other.predecessorBindingId = some binding.bindingId →
        other = next

theorem takesOver_of_sameLineage {binding next : InstanceBinding}
    (hlink : next.predecessorBindingId = some binding.bindingId)
    (h : InstanceStore.sameLineage next binding = true) : TakesOver binding next := by
  simp only [InstanceStore.sameLineage, Bool.and_eq_true, decide_eq_true_eq] at h
  obtain ⟨⟨⟨⟨⟨⟨⟨-, hrun⟩, hversion⟩, hprofile⟩, hauthority⟩, hstate⟩, hmemory⟩,
    hgeneration⟩ := h
  exact ⟨hlink, hgeneration, hrun, ⟨hversion, hprofile⟩, hauthority, ⟨hstate, hmemory⟩⟩

namespace InstanceStore

variable {store : InstanceStore} {hazel : Hazel S}

theorem Lineages.follows (h : Lineages store hazel) {binding next : InstanceBinding}
    (hbinding : binding ∈ store.bindings) (hnext : next ∈ store.bindings)
    (hlink : next.predecessorBindingId = some binding.bindingId) :
    sameLineage next binding = true := by
  obtain ⟨predecessor, hpredecessor, hid, hlineage, -⟩ :=
    h.successor next hnext binding.bindingId hlink
  rw [List.inj_on_of_nodup_map h.ids hpredecessor hbinding hid] at hlineage
  exact hlineage

theorem Lineages.unique (h : Lineages store hazel) : UniqueLineages store := by
  have hbelow (left : InstanceBinding) (hleft : left ∈ store.bindings)
      (right : InstanceBinding) (hright : right ∈ store.bindings)
      (hmission : left.mission = right.mission) (hlive : left.status ∈ attached)
      (hrightLive : right.status ∈ attached) : ¬ left.generation < right.generation := by
    intro hlt
    have hbegun : right.status ≠ .prepared := by
      intro hprepared
      rw [hprepared] at hrightLive
      revert hrightLive
      decide
    have hreplaced := h.below_replaced hright hbegun hleft hmission hlt
    rw [hreplaced] at hlive
    revert hlive
    decide
  constructor
  · exact h.ids
  · intro left hleft right hright hmission hlive hrightLive
    have hnot := hbelow left hleft right hright hmission hlive hrightLive
    have hnotRight := hbelow right hright left hleft hmission.symm hrightLive hlive
    exact h.generations left hleft right hright hmission (by omega)
  · exact h.generations
  · intro binding hbinding
    refine ⟨h.positive hbinding, ?_⟩
    intro generation hpositive hle
    exact h.contiguous hbinding hpositive hle
  · intro binding hbinding hreplaced
    obtain ⟨next, hnext, hlink, -⟩ := h.replaced binding hbinding hreplaced
    have hlineage := h.follows hbinding hnext hlink
    refine ⟨next, hnext, takesOver_of_sameLineage hlink hlineage, ?_⟩
    intro other hother hotherLink
    have hotherLineage := h.follows hbinding hother hotherLink
    apply h.generations other hother next hnext
    · rw [sameLineage_mission hotherLineage, sameLineage_mission hlineage]
    · rw [sameLineage_generation hotherLineage, sameLineage_generation hlineage]

end InstanceStore

/-! ## Every run -/

theorem turns_allowed [DecidableEq S] (config : BinderConfig S) (folding : TextFolding)
    (event : Event S) :
    ∀ next ∈ event.turns config folding, Pool.Allowed parts registryRule next := by
  cases event with
  | call process made =>
    intro next hnext
    rw [List.mem_singleton.mp hnext]
    exact (obeys_script config folding (obeys_prepare config) made).safe
  | step process =>
    intro next hnext
    rw [List.mem_singleton.mp hnext]
    trivial
  | crash process =>
    intro next hnext
    rcases List.mem_pair.mp hnext with rfl | rfl
    · trivial
    · intro own hown
      exact Filed.restart hown
  | leases process manager =>
    intro next hnext
    rw [List.mem_singleton.mp hnext]
    exact fun _ => id
  | clock process readings =>
    intro next hnext
    rw [List.mem_singleton.mp hnext]
    exact fun _ => id

theorem idleProcesses_orderly :
    Pool.Orderly parts registryRule (idleProcesses : Processes S) where
  common := InstanceStore.lineages_empty
  own _ := ⟨by simp [idleProcesses, IdentityKernelGuard.restart],
    by simp [idleProcesses, IdentityKernelGuard.restart]⟩
  running := by simp [idleProcesses]

theorem flatMap_allowed [DecidableEq S] (config : BinderConfig S) (folding : TextFolding)
    (events : List (Event S)) :
    ∀ next ∈ events.flatMap (·.turns config folding), Pool.Allowed parts registryRule next := by
  intro next hnext
  obtain ⟨event, -, hturn⟩ := List.mem_flatMap.mp hnext
  exact turns_allowed config folding event next hturn

end ReisOs.Instances
