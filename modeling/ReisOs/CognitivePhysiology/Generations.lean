import ReisOs.CognitivePhysiology.Runtime

/-!
# Coherent generations

After every call the three generations are equal.  What one call can do is said once;
that generations grow, and that a transition changes the values at most once, follows.
-/

namespace ReisOs.CognitivePhysiology

open ReisOs.Core InstitutionalState

variable {C V : Type} {runtime : Runtime C V} {call : Commit V}

/-- The runtime, the workspace and the world have one generation. -/
structure Coherent (runtime : Runtime C V) : Prop where
  workspace : runtime.workspace.generation = runtime.generation
  world : runtime.world.generation = runtime.generation

/-- What a commit does. -/
inductive Commits (runtime : Runtime C V) (call : Commit V) : Prop where
  | accepted (changes : List (String × V)) (hchanges : call.changes = some changes)
      (hnew : call.transitionId ∉ runtime.world.committedTransitionIds)
      (hexpected : call.expectedGeneration = runtime.generation)
      (hcommit : runtime.institutionalCommit call =
        ({ generation := runtime.generation + 1
           workspace := { runtime.workspace with generation := runtime.generation + 1 }
           world :=
            { generation := runtime.generation + 1
              values := update runtime.world.values changes
              committedTransitionIds :=
                call.transitionId :: runtime.world.committedTransitionIds }
           cycles := runtime.cycles },
          .ok (runtime.generation + 1)))
  | replayed (hold : call.transitionId ∈ runtime.world.committedTransitionIds)
      (hcommit : runtime.institutionalCommit call = (runtime, .ok runtime.generation))
  | refused (error : RuntimeError)
      (hcommit : runtime.institutionalCommit call = (runtime, .error error))

theorem commits (h : Coherent runtime) (call : Commit V) : Commits runtime call := by
  have hrefused : ∀ error, runtime.world.commit call = (runtime.world, .error error) →
      runtime.institutionalCommit call = (runtime, .error error) := by
    intro error herror
    rw [Runtime.institutionalCommit, herror]
  by_cases hauthority : call.authorityValidated = true
  · by_cases hr6 : call.r6Validated = true
    · by_cases hold : call.transitionId ∈ runtime.world.committedTransitionIds
      · apply Commits.replayed hold
        have hworld : runtime.world.commit call =
            (runtime.world, .ok runtime.world.generation) := by
          simp [commit, hauthority, hr6, hold]
        rw [Runtime.institutionalCommit, hworld]
        simp [h.world]
      · by_cases hexpected : call.expectedGeneration = runtime.world.generation
        · cases hchanges : call.changes with
          | none =>
            apply Commits.refused .type
            apply hrefused
            simp [commit, hauthority, hr6, hold, hexpected, hchanges]
          | some changes =>
            refine .accepted changes hchanges hold (hexpected.trans h.world) ?_
            have hless : runtime.generation < runtime.generation + 1 := by omega
            have hgreater : ¬runtime.generation + 1 ≤ runtime.generation := by omega
            simp [Runtime.institutionalCommit, commit, hauthority, hr6,
              hold, hexpected, hchanges, Runtime.advanceGeneration, h.world, hless, hgreater]
        · apply Commits.refused (.permission "institutional_generation_mismatch")
          apply hrefused
          simp [commit, hauthority, hr6, hold, hexpected]
    · apply Commits.refused (.permission "institutional_commit_r6_validation_required")
      apply hrefused
      simp [commit, hauthority, hr6]
  · apply Commits.refused (.permission "institutional_commit_authority_required")
    apply hrefused
    simp [commit, hauthority]

theorem coherent_init (generation : ℤ) : Coherent (Runtime.init generation : Runtime C V) :=
  ⟨rfl, rfl⟩

theorem Coherent.recover (h : Coherent runtime) (restoredGeneration : ℤ) :
    Coherent (runtime.recoverToGeneration restoredGeneration).1 := by
  by_cases hrestored : restoredGeneration < 0
  · rw [Runtime.recoverToGeneration, if_pos hrestored]
    exact h
  · rw [Runtime.recoverToGeneration, if_neg hrestored]
    exact ⟨rfl, rfl⟩

theorem Coherent.step (h : Coherent runtime) (call : Call V) :
    Coherent (runtime.step call) := by
  cases call with
  | institutionalCommit call =>
    rw [Runtime.step]
    cases commits h call with
    | accepted changes hchanges hnew hexpected hcommit =>
      rw [hcommit]
      exact ⟨rfl, rfl⟩
    | replayed hold hcommit =>
      rw [hcommit]
      exact h
    | refused error hcommit =>
      rw [hcommit]
      exact h
  | recoverToGeneration restoredGeneration => exact h.recover restoredGeneration

theorem coherent_run (generation : ℤ) (calls : List (Call V)) :
    Coherent (run Runtime.step (Runtime.init generation : Runtime C V) calls) :=
  run_invariant Coherent (fun _ call h => h.step call) (coherent_init generation) calls

/-! ## Generations grow -/

theorem recover_spec {restoredGeneration : ℤ}
    (h : (runtime.recoverToGeneration restoredGeneration).2 = .ok ()) :
    runtime.generation < (runtime.recoverToGeneration restoredGeneration).1.generation ∧
      restoredGeneration <
        (runtime.recoverToGeneration restoredGeneration).1.generation := by
  by_cases hrestored : restoredGeneration < 0
  · rw [Runtime.recoverToGeneration, if_pos hrestored] at h
    cases h
  · rw [Runtime.recoverToGeneration, if_neg hrestored]
    simp only
    omega

theorem generation_le_step (h : Coherent runtime) (call : Call V) :
    runtime.generation ≤ (runtime.step call).generation := by
  cases call with
  | institutionalCommit call =>
    rw [Runtime.step]
    cases commits h call with
    | accepted changes hchanges hnew hexpected hcommit =>
      rw [hcommit]
      change runtime.generation ≤ runtime.generation + 1
      omega
    | replayed hold hcommit => rw [hcommit]
    | refused error hcommit => rw [hcommit]
  | recoverToGeneration restoredGeneration =>
    rw [Runtime.step, Runtime.recoverToGeneration]
    split
    · exact le_rfl
    · simp only
      omega

/-! ## Values change once -/

theorem mem_committed_step (h : Coherent runtime) (call : Call V) {transitionId : String}
    (hmem : transitionId ∈ runtime.world.committedTransitionIds) :
    transitionId ∈ (runtime.step call).world.committedTransitionIds := by
  cases call with
  | institutionalCommit call =>
    rw [Runtime.step]
    cases commits h call with
    | accepted changes hchanges hnew hexpected hcommit =>
      rw [hcommit]
      exact List.mem_cons_of_mem _ hmem
    | replayed hold hcommit =>
      rw [hcommit]
      exact hmem
    | refused error hcommit =>
      rw [hcommit]
      exact hmem
  | recoverToGeneration restoredGeneration =>
    rw [Runtime.step, Runtime.recoverToGeneration]
    split
    · exact hmem
    · exact hmem

theorem mem_committed_run (h : Coherent runtime) {transitionId : String}
    (hmem : transitionId ∈ runtime.world.committedTransitionIds) (calls : List (Call V)) :
    transitionId ∈ (run Runtime.step runtime calls).world.committedTransitionIds := by
  have hboth := run_invariant
    (fun state : Runtime C V =>
      Coherent state ∧ transitionId ∈ state.world.committedTransitionIds)
    (fun state call hstate =>
      ⟨hstate.1.step call, mem_committed_step hstate.1 call hstate.2⟩)
    ⟨h, hmem⟩ calls
  exact hboth.2

theorem committed_of_values_ne (h : Coherent runtime)
    (hvalues : (runtime.step (.institutionalCommit call)).world.values ≠
      runtime.world.values) :
    call.transitionId ∉ runtime.world.committedTransitionIds ∧
      call.transitionId ∈
        (runtime.step (.institutionalCommit call)).world.committedTransitionIds := by
  rw [Runtime.step] at hvalues ⊢
  cases commits h call with
  | accepted changes hchanges hnew hexpected hcommit =>
    rw [hcommit]
    exact ⟨hnew, List.mem_cons_self⟩
  | replayed hold hcommit =>
    rw [hcommit] at hvalues
    exact absurd rfl hvalues
  | refused error hcommit =>
    rw [hcommit] at hvalues
    exact absurd rfl hvalues

/-! ## Coherence -/

/-- What a call may do to a runtime of the given generation. -/
structure KeepsCoherence (runtime : Runtime C V) : Prop where
  coherent : ∀ call, Coherent (runtime.step call)
  monotone : ∀ call, runtime.generation ≤ (runtime.step call).generation
  accepted : ∀ (call : Commit V) (generation : ℤ),
    call.transitionId ∉ runtime.world.committedTransitionIds →
    (runtime.institutionalCommit call).2 = .ok generation →
    generation = runtime.generation + 1 ∧
      (runtime.step (.institutionalCommit call)).generation = runtime.generation + 1
  replayed : ∀ call : Commit V,
    call.transitionId ∈ runtime.world.committedTransitionIds →
    runtime.step (.institutionalCommit call) = runtime
  recovered : ∀ restoredGeneration : ℤ,
    (runtime.recoverToGeneration restoredGeneration).2 = .ok () →
    runtime.generation < (runtime.step (.recoverToGeneration restoredGeneration)).generation ∧
      restoredGeneration <
        (runtime.step (.recoverToGeneration restoredGeneration)).generation
  stale : ∀ call : Commit V, call.transitionId ∉ runtime.world.committedTransitionIds →
    call.expectedGeneration ≠ runtime.generation →
    (∃ error, (runtime.institutionalCommit call).2 = .error error) ∧
      (runtime.step (.institutionalCommit call)).world = runtime.world ∧
      (runtime.step (.institutionalCommit call)).workspace = runtime.workspace

theorem Coherent.keeps (h : Coherent runtime) : KeepsCoherence runtime where
  coherent := h.step
  monotone := generation_le_step h
  accepted := by
    intro call generation hnew hok
    rw [Runtime.step]
    cases commits h call with
    | accepted changes hchanges hfresh hexpected hcommit =>
      rw [hcommit] at hok ⊢
      cases hok
      exact ⟨rfl, rfl⟩
    | replayed hold hcommit => exact absurd hold hnew
    | refused error hcommit =>
      rw [hcommit] at hok
      cases hok
  replayed := by
    intro call hold
    rw [Runtime.step]
    cases commits h call with
    | accepted changes hchanges hnew hexpected hcommit => exact absurd hold hnew
    | replayed hsame hcommit => rw [hcommit]
    | refused error hcommit => rw [hcommit]
  recovered := fun _ hok => recover_spec hok
  stale := by
    intro call hnew hstale
    rw [Runtime.step]
    cases commits h call with
    | accepted changes hchanges hfresh hexpected hcommit => exact absurd hexpected hstale
    | replayed hold hcommit => exact absurd hold hnew
    | refused error hcommit =>
      rw [hcommit]
      exact ⟨⟨error, rfl⟩, rfl, rfl⟩

/-- After every sequence of commits and recoveries the generations are coherent and every
further call keeps them so; and what a transition has changed, no later commit of it
changes again. -/
theorem generations_coherent (generation : ℤ) (calls : List (Call V)) :
    Coherent (run Runtime.step (Runtime.init generation : Runtime C V) calls) ∧
      KeepsCoherence (run Runtime.step (Runtime.init generation : Runtime C V) calls) ∧
      ∀ before between first second,
        calls = before ++ .institutionalCommit first :: between →
        first.transitionId = second.transitionId →
        (run Runtime.step (Runtime.init generation : Runtime C V)
            (before ++ [.institutionalCommit first])).world.values ≠
          (run Runtime.step (Runtime.init generation : Runtime C V) before).world.values →
        ((run Runtime.step (Runtime.init generation : Runtime C V) calls).step
            (.institutionalCommit second)).world.values =
          (run Runtime.step (Runtime.init generation : Runtime C V) calls).world.values := by
  have hcoherent : Coherent (run Runtime.step (Runtime.init generation : Runtime C V) calls) :=
    coherent_run generation calls
  refine ⟨hcoherent, hcoherent.keeps, ?_⟩
  rintro before between first second rfl hsame hchanged
  have hbefore := coherent_run (C := C) generation before
  rw [run_append] at hchanged
  have hcommitted := (committed_of_values_ne hbefore hchanged).2
  have hlater := mem_committed_run (hbefore.step (.institutionalCommit first)) hcommitted
    between
  by_contra hagain
  have hnew := (committed_of_values_ne hcoherent hagain).1
  apply hnew
  rw [← hsame, run_append, run_cons]
  exact hlater

end ReisOs.CognitivePhysiology
