import ReisOs.Instances.ForeignCalls

/-!
# States of the registry

A registry is well formed after every run of its processes.  From any such state an
operation makes the next one, wherever it is made and however early it crashes.
-/

namespace ReisOs.Instances

open ReisOs.Core ReisOs.Kernel World Script

variable {S : Type}

structure RegistryState where
  store : InstanceStore
  wellFormed : store.WellFormed

/-- A call of a service, what it finds beside the registry, and after how many steps it
crashes if it has not ended before. -/
structure Operation (S : Type) where
  made : Call S
  hazel : Hazel S
  leases : AuthorityLeaseManager
  guard : IdentityKernelGuard
  clock : ℕ → Time
  steps : ℕ

namespace Operation

/-- A call in a world, cut short after some steps. -/
def within (world : World S) (made : Call S) (steps : ℕ) : Operation S :=
  ⟨made, world.hazel, world.leases, world.guard, world.clock, steps⟩

def world (operation : Operation S) (store : InstanceStore) : World S :=
  ⟨store, operation.hazel, operation.leases, operation.guard, operation.clock⟩

/-- The registry that an operation leaves. -/
def after [DecidableEq S] (operation : Operation S) (config : BinderConfig S)
    (folding : TextFolding) (store : InstanceStore) : InstanceStore :=
  ((operation.made.script config folding).crashed operation.steps
    (operation.world store)).store

theorem holds_after [DecidableEq S] {frame : Frame} (config : BinderConfig S)
    (folding : TextFolding) {store : InstanceStore} {operation : Operation S}
    (hobeys : Obeys frame.served (operation.made.script config folding))
    (h : frame.Holds store) :
    frame.Holds (operation.after config folding store) ∧
      store.Extends (operation.after config folding store) := by
  have hworld : frame.served.Inv (operation.world store) := h
  exact hobeys.crashed hworld operation.steps

end Operation

/-- Some operation on a state of the registry. -/
def operate [DecidableEq S] (config : BinderConfig S) (folding : TextFolding)
    (state : RegistryState) (operation : Operation S) : RegistryState where
  store := operation.after config folding state.store
  wellFormed := by
    have hobeys : Obeys Frame.nothing.served (operation.made.script config folding) :=
      Frame.obeys_foreign config folding Frame.byOrganization_nothing Frame.tight_nothing
        (Frame.foreign_nothing config operation.made)
    have hbefore := Frame.holds_nothing.mpr state.wellFormed
    have hafter := (Operation.holds_after config folding hobeys hbefore).1
    exact hafter.wellFormed

theorem Frame.Holds.run [DecidableEq S] {frame : Frame} {config : BinderConfig S}
    {folding : TextFolding} {state : RegistryState} {operations : List (Operation S)}
    (h : frame.Holds state.store)
    (hobeys : ∀ operation ∈ operations,
      Obeys frame.served (operation.made.script config folding)) :
    frame.Holds (run (operate config folding) state operations).store ∧
      state.store.Extends (run (operate config folding) state operations).store := by
  induction operations generalizing state with
  | nil => exact ⟨h, .refl _⟩
  | cons operation operations ih =>
    rw [List.forall_mem_cons] at hobeys
    have hstep := Operation.holds_after config folding hobeys.1 h
    have hrest := @ih (operate config folding state operation) hstep.1 hobeys.2
    exact ⟨hrest.1, hstep.2.trans hrest.2⟩

/-! ## Reached states -/

theorem orderly_idleProcesses :
    (idleProcesses : Processes S).Orderly parts Frame.nothing.pooled where
  common := Frame.holds_nothing.mpr InstanceStore.wellFormed_empty
  own _ := trivial
  running _ _ hscript := nomatch hscript

theorem wellFormed_reachedAlone [DecidableEq S] (config : BinderConfig S)
    (folding : TextFolding) (happenings : List (Happening S)) :
    (reachedAlone config folding happenings).store.WellFormed := by
  have hobeys (made : Call S) : Obeys Frame.nothing.served (made.script config folding) :=
    Frame.obeys_foreign config folding Frame.byOrganization_nothing Frame.tight_nothing
      (Frame.foreign_nothing config made)
  have hnext (world : World S) (next : Happening S)
      (h : Frame.nothing.served.Inv world) :
      Frame.nothing.served.Inv (happen config folding world next) := by
    cases next with
    | call made => exact ((hobeys made).exec h).1
    | crash made steps => exact ((hobeys made).crashed h steps).1
    | restart => exact h
    | issue now lease => exact h
    | revoke leaseId => exact h
    | release leaseId => exact h
    | clock readings => exact h
  have hidle : Frame.nothing.served.Inv (idleWorld : World S) :=
    Frame.holds_nothing.mpr InstanceStore.wellFormed_empty
  have hreached := run_invariant (Frame.nothing.served.Inv) hnext hidle happenings
  exact Frame.holds_nothing.mp hreached

/-- The state of the registry that a process leaves alone. -/
def RegistryState.ofAlone [DecidableEq S] (config : BinderConfig S) (folding : TextFolding)
    (happenings : List (Happening S)) : RegistryState :=
  ⟨_, wellFormed_reachedAlone config folding happenings⟩

end ReisOs.Instances
