import ReisOs.Core.Runs
import ReisOs.Kernel.StateLaws

/-!
# The chain of states of an OCS

Runs of `write` and `restore_verified` on a state core without a database.  All
records share one table keyed by `state_id`, and nothing in memory refuses an id
that is taken.  As long as no validated write takes the id of a record that an
earlier call returned, every OCS keeps its own unbroken chain.
-/

namespace ReisOs.Kernel

open ReisOs.Core

variable {P : Type}

/-- Following predecessor links from `record` visits records of one OCS only, with
versions counting down to a genesis record. -/
inductive Lineage (core : StateCore P) (ocs : String) : ℕ → StateRecord P → Prop where
  | genesis {record : StateRecord P} (hocs : record.ocs = ocs)
      (hversion : record.version = 1) (hpredecessor : record.predecessor = none) :
      Lineage core ocs 1 record
  | successor {version : ℕ} {record previous : StateRecord P} (hocs : record.ocs = ocs)
      (hversion : record.version = version + 1)
      (hpredecessor : record.predecessor = some previous.stateId)
      (hstored : core.get previous.stateId = .ok previous)
      (hprevious : Lineage core ocs version previous) :
      Lineage core ocs (version + 1) record

/-- A state core with the records its calls have returned, oldest first. -/
structure StateRun (P : Type) where
  core : StateCore P
  returned : List (StateRecord P)

inductive StateOp (P : Type) where
  | write (record : StateRecord P) (check : ReadbackCheck P) (context : WriteContext)
  | restore (checkpoint : VerifiedCheckpoint P)

namespace StateRun

def start : StateRun P := ⟨.empty, []⟩

/-- The state after a call with the given answer. -/
def answered (run : StateRun P)
    (answer : StateCore P × Except PyError (StateRecord P)) : StateRun P :=
  match answer with
  | (core, .error _) => { run with core := core }
  | (core, .ok record) => ⟨core, run.returned ++ [record]⟩

def step [DecidableEq P] (codec : StateCodec P) (run : StateRun P) :
    StateOp P → StateRun P
  | .write record check context =>
    run.answered (run.core.write codec record check context)
  | .restore checkpoint => run.answered (run.core.restoreVerified codec checkpoint)

/-- If the write is valid, its id is not that of a record returned before. -/
def FreshWrite (codec : StateCodec P) (run : StateRun P) (record : StateRecord P)
    (context : WriteContext) : Prop :=
  run.core.checkWrite codec record context = .ok () →
    ∀ earlier ∈ run.returned, earlier.stateId ≠ record.stateId

instance [DecidableEq P] (codec : StateCodec P) (run : StateRun P)
    (record : StateRecord P) (context : WriteContext) :
    Decidable (run.FreshWrite codec record context) :=
  inferInstanceAs (Decidable (_ → ∀ earlier ∈ run.returned, _))

/-- No valid write of the operation reuses the id of a returned record. -/
def FreshId (codec : StateCodec P) (run : StateRun P) : StateOp P → Prop
  | .write record _ context => run.FreshWrite codec record context
  | .restore checkpoint =>
    ∀ restored, run.core.restoreTarget codec checkpoint = .ok restored →
      run.FreshWrite codec restored (StateCore.restoreContext restored)

/-- The chain invariant. -/
structure Chained (run : StateRun P) : Prop where
  current : ∀ ocs stateId, run.core.currentIds.lookup ocs = some stateId →
    ∃ record, run.core.current ocs = .ok (some record) ∧ record.ocs = ocs ∧
      Lineage run.core ocs record.version record
  kept : ∀ record ∈ run.returned, run.core.get record.stateId = .ok record

/-! ## The inductive invariant -/

/-- A lineage all of whose records have been returned. -/
inductive Descends (returned : List (StateRecord P)) (ocs : String) :
    ℕ → StateRecord P → Prop where
  | genesis {record : StateRecord P} (hmem : record ∈ returned) (hocs : record.ocs = ocs)
      (hversion : record.version = 1) (hpredecessor : record.predecessor = none) :
      Descends returned ocs 1 record
  | successor {version : ℕ} {record previous : StateRecord P} (hmem : record ∈ returned)
      (hocs : record.ocs = ocs) (hversion : record.version = version + 1)
      (hpredecessor : record.predecessor = some previous.stateId)
      (hprevious : Descends returned ocs version previous) :
      Descends returned ocs (version + 1) record

theorem Descends.mem {returned : List (StateRecord P)} {ocs : String} {version : ℕ}
    {record : StateRecord P} (h : Descends returned ocs version record) :
    record ∈ returned := by
  cases h with
  | genesis hmem => exact hmem
  | successor hmem => exact hmem

theorem Descends.facts {returned : List (StateRecord P)} {ocs : String} {version : ℕ}
    {record : StateRecord P} (h : Descends returned ocs version record) :
    record.ocs = ocs ∧ record.version = version := by
  cases h with
  | genesis _ hocs hversion => exact ⟨hocs, hversion⟩
  | successor _ hocs hversion => exact ⟨hocs, hversion⟩

theorem Descends.mono {returned more : List (StateRecord P)} {ocs : String} {version : ℕ}
    {record : StateRecord P} (hmore : ∀ earlier ∈ returned, earlier ∈ more)
    (h : Descends returned ocs version record) : Descends more ocs version record := by
  induction h with
  | genesis hmem hocs hversion hpredecessor =>
    exact .genesis (hmore _ hmem) hocs hversion hpredecessor
  | successor hmem hocs hversion hpredecessor _ ih =>
    exact .successor (hmore _ hmem) hocs hversion hpredecessor ih

/-- Every returned record is stored under its id, and every current pointer leads to
a returned record that descends from a genesis. -/
structure Anchored (run : StateRun P) : Prop where
  kept : ∀ record ∈ run.returned, run.core.records.lookup record.stateId = some record
  current : ∀ ocs stateId, run.core.currentIds.lookup ocs = some stateId →
    ∃ record, record.stateId = stateId ∧
      Descends run.returned ocs record.version record

theorem Anchored.lineage {run : StateRun P} (h : Anchored run) {ocs : String}
    {version : ℕ} {record : StateRecord P}
    (hdescends : Descends run.returned ocs version record) :
    Lineage run.core ocs version record := by
  induction hdescends with
  | genesis _ hocs hversion hpredecessor => exact .genesis hocs hversion hpredecessor
  | successor _ hocs hversion hpredecessor hprevious ih =>
    have hstored := h.kept _ hprevious.mem
    exact .successor hocs hversion hpredecessor (by rw [StateCore.get, hstored]) ih

theorem Anchored.chained {run : StateRun P} (h : Anchored run) : Chained run where
  current := by
    intro ocs stateId hpointer
    obtain ⟨record, hid, hdescends⟩ := h.current ocs stateId hpointer
    have hstored := h.kept record hdescends.mem
    have hcurrent : run.core.current ocs = .ok (some record) :=
      StateCore.current_eq_ok_some_iff.mpr ⟨stateId, hpointer, hid ▸ hstored⟩
    exact ⟨record, hcurrent, hdescends.facts.1, h.lineage hdescends⟩
  kept := by
    intro record hrecord
    rw [StateCore.get, h.kept record hrecord]

/-- A validated record continues the chain of its OCS. -/
theorem Anchored.descends {run : StateRun P} (h : Anchored run) {codec : StateCodec P}
    {record persisted : StateRecord P} {context : WriteContext}
    (hcheck : run.core.checkWrite codec record context = .ok ())
    (hocs : persisted.ocs = record.ocs) (hversion : persisted.version = record.version)
    (hpredecessor : persisted.predecessor = record.predecessor) :
    Descends (run.returned ++ [persisted]) record.ocs persisted.version persisted := by
  have hmem : persisted ∈ run.returned ++ [persisted] := by simp
  obtain ⟨current, hcurrent, hsuccession⟩ := StateCore.checkWrite_succession hcheck
  cases current with
  | none =>
    have hgenesis := StateCore.checkSuccession_none hsuccession
    rw [hversion, hgenesis.2]
    exact .genesis hmem hocs (hversion.trans hgenesis.2)
      (hpredecessor.trans hgenesis.1)
  | some current =>
    have hsuccessor := StateCore.checkSuccession_some hsuccession
    obtain ⟨stateId, hpointer, hstored⟩ :=
      StateCore.current_eq_ok_some_iff.mp hcurrent
    obtain ⟨found, rfl, hdescends⟩ := h.current _ _ hpointer
    have hfound : found = current := by
      have hkept := h.kept found hdescends.mem
      rw [hstored] at hkept
      exact (Option.some.inj hkept).symm
    subst hfound
    rw [hversion, hsuccessor.2]
    exact .successor hmem hocs (hversion.trans hsuccessor.2)
      (hpredecessor.trans hsuccessor.1) (hdescends.mono (by simp +contextual))

theorem Anchored.write {run : StateRun P} (h : Anchored run) {codec : StateCodec P}
    {record : StateRecord P} {check : ReadbackCheck P} {context : WriteContext}
    (hfresh : run.FreshWrite codec record context) :
    Anchored (run.answered (run.core.write codec record check context)) := by
  obtain ⟨hmove, hvalid⟩ := StateCore.write_move codec run.core record check context
  generalize run.core.write codec record check context = answer at hmove hvalid
  obtain ⟨core, outcome⟩ := answer
  dsimp only at hmove hvalid
  cases hmove with
  | refused error => exact h
  | failed error hrecords hcurrent =>
    rcases hvalid with hcheck | ⟨rfl, -⟩
    · constructor
      · intro earlier hearlier
        change core.records.lookup earlier.stateId = some earlier
        rw [hrecords _ (hfresh hcheck earlier hearlier)]
        exact h.kept earlier hearlier
      · intro ocs stateId hpointer
        change core.currentIds.lookup ocs = some stateId at hpointer
        rw [hcurrent] at hpointer
        exact h.current ocs stateId hpointer
    · exact h
  | @installed _ persisted hrecords hcurrent _ hid hocs hversion hpredecessor =>
    have hcheck := hvalid.resolve_right (by simp)
    constructor
    · intro earlier hearlier
      change core.records.lookup earlier.stateId = some earlier
      rcases List.mem_append.mp hearlier with hold | hnew
      · rw [hrecords, if_neg (hfresh hcheck earlier hold)]
        exact h.kept earlier hold
      · rw [List.mem_singleton.mp hnew, hrecords, if_pos hid]
    · intro ocs stateId hpointer
      change core.currentIds.lookup ocs = some stateId at hpointer
      rw [hcurrent] at hpointer
      split at hpointer
      · rename_i hsame
        subst hsame
        cases hpointer
        exact ⟨persisted, hid, h.descends hcheck hocs hversion hpredecessor⟩
      · obtain ⟨found, hfound, hdescends⟩ := h.current ocs stateId hpointer
        exact ⟨found, hfound, hdescends.mono (by simp +contextual [answered])⟩

variable [DecidableEq P]

theorem Anchored.step {run : StateRun P} (h : Anchored run) {codec : StateCodec P}
    {op : StateOp P} (hfresh : run.FreshId codec op) : Anchored (run.step codec op) := by
  cases op with
  | write record check context => exact h.write hfresh
  | restore checkpoint =>
    simp only [StateRun.step, StateCore.restoreVerified]
    cases htarget : run.core.restoreTarget codec checkpoint with
    | error error => exact h
    | ok restored => exact h.write (hfresh restored htarget)

omit [DecidableEq P] in
theorem start_anchored : Anchored (start (P := P)) := by
  constructor <;> simp [start, StateCore.empty]

/-- In a run in which no valid write reuses the id of a returned record, every OCS
with a current record has its own chain down to version one, and every returned
record is still stored unchanged. -/
theorem chained_of_freshIds (codec : StateCodec P) (ops : List (StateOp P))
    (hops : Admissible (step codec) (FreshId codec) start ops) :
    Chained (run (step codec) start ops) := by
  have hanchored := run_invariant_of_admissible Anchored
    (fun _ _ h hfresh => Anchored.step h hfresh) start_anchored hops
  exact hanchored.chained

/-- A write by the owner of the record's namespace. -/
def ownerWrite (record : StateRecord ℕ) : StateOp ℕ :=
  .write record (fun _ => .ok true)
    { actorOcsId := some record.ocs
      targetNamespace := some (stateNamespace record.ocs "runtime")
      stateRef := some record.stateId
      authorityContext := some "authority-1" }

def genesisOf (ocs stateId : String) (payload : ℕ) : StateRecord ℕ :=
  ⟨stateId, ocs, 1, none, payload, true⟩

theorem chained_two_ocs_and_restore :
    Chained (run (step .numbers) start
      [ownerWrite (genesisOf "SOFIA" "state:1" 7), ownerWrite (genesisOf "DEDALA" "state:2" 8),
        .restore ⟨"checkpoint-1", genesisOf "SOFIA" "state:1" 7⟩]) := by
  refine chained_of_freshIds .numbers _ ⟨?_, ?_, ?_, trivial⟩
  · change FreshWrite ..
    decide
  · change FreshWrite ..
    decide
  · intro restored hrestored
    cases hrestored
    decide

/-- Two OCSs whose first records carry the same id: the second write succeeds, the
first record is gone, and the current record of its OCS belongs to the other. -/
theorem shared_id_breaks_chain :
    let shared := run (step .numbers) start
      [ownerWrite (genesisOf "SOFIA" "state:1" 7), ownerWrite (genesisOf "DEDALA" "state:1" 8)]
    shared.returned = [genesisOf "SOFIA" "state:1" 7, genesisOf "DEDALA" "state:1" 8] ∧
      shared.core.current "SOFIA" = .ok (some (genesisOf "DEDALA" "state:1" 8)) ∧
      ¬ Chained shared := by
  refine ⟨rfl, rfl, fun h => ?_⟩
  have hkept := h.kept (genesisOf "SOFIA" "state:1" 7) List.mem_cons_self
  exact absurd hkept (by decide)

end StateRun

end ReisOs.Kernel
