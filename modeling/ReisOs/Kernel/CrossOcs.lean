import ReisOs.Kernel.StateEffects

/-!
# Calls and the states of other OCSs

The commit writes under the proposal's OCS.  The recovery after a lost readback
writes under the OCS of the checkpoint that the proposal's `recovery_ref` selects,
whichever OCS that is.  A call that can neither select a foreign checkpoint nor hit
the current id of another OCS changes the current record of its own OCS only.
-/

namespace ReisOs.Kernel

open ReisOs.Core

variable {P : Type}

/-- No current pointer but that of `ocs` holds the id. -/
def StateCore.PointsOnlyFrom (core : StateCore P) (ocs stateId : String) : Prop :=
  ∀ other ∈ core.currentIds.keys, core.currentIds.lookup other = some stateId →
    other = ocs

instance (core : StateCore P) (ocs stateId : String) :
    Decidable (core.PointsOnlyFrom ocs stateId) :=
  inferInstanceAs (Decidable (∀ other ∈ core.currentIds.keys, _))

theorem StateCore.PointsOnlyFrom.lookup_ne {core : StateCore P} {ocs stateId : String}
    (h : core.PointsOnlyFrom ocs stateId) {other : String} (hother : other ≠ ocs) :
    core.currentIds.lookup other ≠ some stateId := by
  intro hpointer
  have hkey : other ∈ core.currentIds.keys := by
    rw [← AList.mem_keys, ← AList.lookup_isSome, hpointer]
    rfl
  exact hother (h other hkey hpointer)

namespace UniversalKernelRuntime

instance (answers : Point → StepEnv P) : Decidable (LosesReadback answers) :=
  match h : (answers .materialEffect).answers.readback with
  | .error (.runtimeError reason) => isTrue ⟨reason, h⟩
  | .ok _ | .error (.valueError _) | .error (.keyError _) | .error .integrityError =>
    isFalse fun ⟨_, hraised⟩ => by simp [h] at hraised

variable [DecidableEq P]

/-- The record that a recovery in this call would write. -/
def recoveryRecord (config : RuntimeConfig P) (k : UniversalKernelRuntime P)
    (p : ActionProposal P) : Option (StateRecord P) :=
  k.recovery.bind fun checkpoints =>
    p.recoveryRef.bind (recoveryTarget config.codec checkpoints k.state)

/-- The ids the call would write are not current for another OCS, and if the
readback is lost, the selected checkpoint restores the proposal's OCS. -/
def Confined (config : RuntimeConfig P) (k : UniversalKernelRuntime P) :
    KernelOp P → Prop
  | .execute p answers =>
    k.state.PointsOnlyFrom p.ocs (stateId p.ocs (k.seq + 7)) ∧
      (LosesReadback answers → ∀ restored ∈ recoveryRecord config k p,
        restored.ocs = p.ocs ∧ k.state.PointsOnlyFrom p.ocs restored.stateId)
  | _ => True

instance (config : RuntimeConfig P) (k : UniversalKernelRuntime P) :
    DecidablePred (Confined config k)
  | .execute p answers =>
    inferInstanceAs (Decidable
      (k.state.PointsOnlyFrom p.ocs (stateId p.ocs (k.seq + 7)) ∧
        (LosesReadback answers → ∀ restored ∈ recoveryRecord config k p,
          restored.ocs = p.ocs ∧ k.state.PointsOnlyFrom p.ocs restored.stateId)))
  | .issue .. | .revoke _ | .release _ | .finalizeLease _ | .registerCheckpoint ..
  | .writeState .. | .restoreState _ | .replaceContext _ | .identity _ | .construct _
  | .reload _ => isTrue trivial

/-- A call changes the current record of its own OCS at most. -/
def Framed (config : RuntimeConfig P) (k : UniversalKernelRuntime P) :
    KernelOp P → Prop
  | .execute p answers => ∀ other, other ≠ p.ocs →
      (k.execute config p answers).1.state.current other = k.state.current other
  | _ => True

variable {config : RuntimeConfig P} {p : ActionProposal P} {k : UniversalKernelRuntime P}

theorem execute_current (answers : Point → StepEnv P)
    (hconfined : Confined config k (.execute p answers)) {other : String}
    (hother : other ≠ p.ocs) :
    (k.execute config p answers).1.state.current other = k.state.current other := by
  obtain ⟨hcommit, hrecover⟩ := hconfined
  cases execute_state config p answers k with
  | kept hkept => rw [hkept.state]
  | committed envelope record hid hocs hstate =>
    have hmove := (StateCore.write_move config.codec k.state record
      (fun stored => .ok (stored = record)) (writeContext p envelope record)).1
    rw [hstate]
    apply hmove.current_eq
    · rw [hocs]
      exact hother
    · rw [hid]
      exact hcommit.lookup_ne hother
  | recovered checkpoints recoveryRef restored hlost hrecovery href htarget hstate =>
    have hrecord : restored ∈ recoveryRecord config k p := by
      simpa [recoveryRecord, hrecovery, href] using htarget
    obtain ⟨hocs, hid⟩ := hrecover hlost restored hrecord
    have hmove := (StateCore.write_move config.codec k.state restored
      (fun stored => .ok (stored = restored)) (StateCore.restoreContext restored)).1
    rw [hstate]
    apply hmove.current_eq
    · rw [hocs]
      exact hother
    · exact hid.lookup_ne hother

/-- In a run whose calls are all confined, from any kernel state, no call changes
the current record of another OCS. -/
theorem calls_framed_of_confined (config : RuntimeConfig P)
    (start : UniversalKernelRuntime P) (ops : List (KernelOp P))
    (hops : Admissible (operate config) (Confined config) start ops) :
    Admissible (operate config) (Framed config) start ops := by
  refine hops.mono fun k op hconfined => ?_
  cases op with
  | execute p answers => exact fun other hother => execute_current answers hconfined hother
  | _ => trivial

/-- A write by the owner of the record's namespace. -/
def ownerCommit (record : StateRecord ℕ) : KernelOp ℕ :=
  .writeState record (fun _ => .ok true)
    { actorOcsId := some record.ocs
      targetNamespace := some (stateNamespace record.ocs "runtime")
      stateRef := some record.stateId
      authorityContext := some "authority-1" }

def firstSofia : StateRecord ℕ := ⟨"sofia:1", "SOFIA", 1, none, 5, true⟩

def firstDedala : StateRecord ℕ := ⟨"dedala:1", "DEDALA", 1, none, 6, true⟩

/-- Two versions of each OCS, with a checkpoint registered under the reference of
the fixture's proposal. -/
def checkpointed (source : StateRecord ℕ) : List (KernelOp ℕ) :=
  [ownerCommit firstSofia, ownerCommit ⟨"sofia:2", "SOFIA", 2, some "sofia:1", 7, true⟩,
    ownerCommit firstDedala,
    ownerCommit ⟨"dedala:2", "DEDALA", 2, some "dedala:1", 8, true⟩,
    .registerCheckpoint "recovery-1" ⟨"checkpoint-1", source⟩,
    .issue 100 Fixture.lease]

/-- The fixture's runtime with a recovery manager. -/
def recoverable : UniversalKernelRuntime ℕ :=
  .fresh .empty .empty (.restart []) (some ∅) []

theorem calls_framed_own_recovery :
    Admissible (operate Fixture.config) (Framed Fixture.config) recoverable
      (checkpointed firstSofia ++ [.execute Fixture.proposal Fixture.unread]) :=
  calls_framed_of_confined Fixture.config recoverable _ (by decide)

/-- The recovery of a call by SOFIA rolls DEDALA back to DEDALA's first version. -/
theorem foreign_checkpoint_restored :
    let k := run (operate Fixture.config) recoverable (checkpointed firstDedala)
    Fixture.proposal.ocs = "SOFIA" ∧
      k.state.current "DEDALA" =
        .ok (some ⟨"dedala:2", "DEDALA", 2, some "dedala:1", 8, true⟩) ∧
      (k.execute Fixture.config Fixture.proposal Fixture.unread).1.state.current "DEDALA" =
        .ok (some ⟨"recovery:checkpoint-1:3", "DEDALA", 3, some "dedala:2", 6, true⟩) ∧
      ¬ Framed Fixture.config k (.execute Fixture.proposal Fixture.unread) := by
  refine ⟨rfl, rfl, rfl, fun h => ?_⟩
  have hsame := h "DEDALA" (by decide)
  exact absurd hsame (by decide)

end UniversalKernelRuntime

end ReisOs.Kernel
