import ReisOs.Ocs.AndroidPlay

/-!
# Restored objects

A call changes the live objects only, and a snapshot keeps its own.  Restored once, the
objects of a snapshot are the live ones: what is done then is in the snapshot when it is
restored again.
-/

namespace ReisOs.Ocs

open ReisOs.Core

variable {Value : Type} [DecidableEq Value] {library : Library Value} {missionId : String}

/-! ## Statement -/

/-- The cognitive state without its counters. -/
def CognitiveState.plain (state : CognitiveState Value) : CognitiveState Value :=
  { state with generation := 0, sequence := 0 }

/-- A restore brings back what the snapshot was taken of, restores have increasing
generations, and no two events have the same generation and sequence number. -/
structure Faithful (library : Library Value) (missionId : String) (calls : List (Call Value)) :
    Prop where
  restored : ∀ before middle after,
    calls = before ++ .snapshot ::
      (middle ++ .restore (runtime library missionId before).snapshots.length :: after) →
    ∀ later, later = runtime library missionId (before ++ .snapshot ::
      (middle ++ [.restore (runtime library missionId before).snapshots.length])) →
      later.live = (runtime library missionId before).live ∧
        later.state.plain = (runtime library missionId before).state.plain
  increasing : ∀ before first middle second after,
    calls = before ++ .restore first :: (middle ++ .restore second :: after) →
    first < (runtime library missionId before).snapshots.length →
    second < (runtime library missionId (before ++ .restore first :: middle)).snapshots.length →
      (runtime library missionId (before ++ [.restore first])).state.generation <
        (runtime library missionId
          (before ++ .restore first :: (middle ++ [.restore second]))).state.generation
  numbered : ((runtime library missionId calls).telemetry.map fun event =>
    (event.generation, event.sequence)).Nodup

/-- The call writes nothing new to the live objects. -/
def Kept (library : Library Value) (ocs : AndroidPlayOCS Value) : Call Value → Prop
  | .registerEvidence registration =>
    registration.accepted = true →
      ocs.live.evidence registration.evidenceId = some (registration.record library)
  | .recurrentCycle _ _ _ authorized => authorized = false
  | .consolidate =>
    ∀ entry ∈ (AndroidPlayOCS.winners ocs.live.memory.episodic).zipIdx,
      ocs.live.memory.semantic (AndroidPlayOCS.patternKey entry.2) = some entry.1
  | .snapshot => True
  | .restore _ => True

/-- While the objects of a snapshot are live that is restored later on, no call writes
anything new to them. -/
def Calm (library : Library Value) (missionId : String) (calls : List (Call Value)) : Prop :=
  ∀ before call middle index after snapshot,
    calls = before ++ call :: (middle ++ .restore index :: after) →
      (runtime library missionId before).snapshots[index]? = some snapshot →
        (runtime library missionId before).objects = snapshot.objects →
          Kept library (runtime library missionId before) call

/-! ## What a call works on -/

namespace AndroidPlayOCS

/-- The numbers of the events are distinct, and none is ahead of the state. -/
structure Numbered (ocs : AndroidPlayOCS Value) : Prop where
  distinct : (ocs.telemetry.map fun event => (event.generation, event.sequence)).Nodup
  behind : ∀ event ∈ ocs.telemetry, event.generation < ocs.state.generation ∨
    event.generation = ocs.state.generation ∧ event.sequence ≤ ocs.state.sequence

/-- What the work between two snapshots or restores leaves as it is. -/
structure Worked (before after : AndroidPlayOCS Value) : Prop where
  objects : after.objects = before.objects
  snapshots : after.snapshots = before.snapshots
  allocated : after.allocated = before.allocated
  missionId : after.state.missionId = before.state.missionId
  generation : after.state.generation = before.state.generation
  heap : ∀ reference, reference ≠ before.objects →
    after.heap reference = before.heap reference
  numbered : before.Numbered → after.Numbered

namespace Worked

variable {before after : AndroidPlayOCS Value}

omit [DecidableEq Value]

theorem refl (ocs : AndroidPlayOCS Value) : Worked ocs ocs where
  objects := rfl
  snapshots := rfl
  allocated := rfl
  missionId := rfl
  generation := rfl
  heap := fun _ _ => rfl
  numbered := id

theorem emit (worked : Worked before after) (eventType : EventType) :
    Worked before (after.emit eventType) where
  objects := worked.objects
  snapshots := worked.snapshots
  allocated := worked.allocated
  missionId := worked.missionId
  generation := worked.generation
  heap := worked.heap
  numbered := fun start => by
    have ⟨distinct, behind⟩ := worked.numbered start
    constructor
    · simp only [AndroidPlayOCS.emit, List.map_append, List.map_cons, List.map_nil]
      apply List.nodup_append.mpr
      refine ⟨distinct, List.nodup_singleton _, ?_⟩
      rintro earlier member last single rfl
      have ⟨event, listed, same⟩ := List.mem_map.mp member
      have ⟨generation, sequence⟩ := Prod.mk.inj (same.trans (List.mem_singleton.mp single))
      cases behind event listed with
      | inl older => omega
      | inr current => omega
    · intro event member
      simp only [AndroidPlayOCS.emit, List.mem_append, List.mem_singleton] at member
      cases member with
      | inl earlier =>
        cases behind event earlier with
        | inl older => exact .inl older
        | inr current => exact .inr ⟨current.1, Nat.le_succ_of_le current.2⟩
      | inr last =>
        rw [last]
        exact .inr ⟨rfl, le_refl _⟩

theorem mutate (worked : Worked before after) (change : Objects Value → Objects Value) :
    Worked before (after.mutate change) where
  objects := worked.objects
  snapshots := worked.snapshots
  allocated := worked.allocated
  missionId := worked.missionId
  generation := worked.generation
  heap := fun reference apart => by
    have other : reference ≠ after.objects := by rwa [worked.objects]
    have same : (after.mutate change).heap reference = after.heap reference :=
      Function.update_of_ne other _ _
    rw [same, worked.heap reference apart]
  numbered := fun start => ⟨(worked.numbered start).distinct, (worked.numbered start).behind⟩

theorem setState (worked : Worked before after)
    {change : CognitiveState Value → CognitiveState Value}
    (missionId : (change after.state).missionId = after.state.missionId)
    (generation : (change after.state).generation = after.state.generation)
    (sequence : (change after.state).sequence = after.state.sequence) :
    Worked before (after.setState change) where
  objects := worked.objects
  snapshots := worked.snapshots
  allocated := worked.allocated
  missionId := missionId.trans worked.missionId
  generation := generation.trans worked.generation
  heap := worked.heap
  numbered := fun start => by
    have ⟨distinct, behind⟩ := worked.numbered start
    refine ⟨distinct, fun event member => ?_⟩
    simp only [AndroidPlayOCS.setState, generation, sequence]
    exact behind event member

theorem registerEvidence (registration : Registration) (ocs : AndroidPlayOCS Value) :
    Worked ocs (ocs.registerEvidence library registration) := by
  rw [AndroidPlayOCS.registerEvidence]
  split_ifs
  · exact ((refl ocs).mutate _).emit _
  · exact refl ocs

theorem consolidate (ocs : AndroidPlayOCS Value) : Worked ocs ocs.consolidate := by
  rw [AndroidPlayOCS.consolidate]
  apply emit
  apply mutate
  exact (refl ocs).setState rfl rfl rfl

theorem scheduleMode (worked : Worked before after) : Worked before after.scheduleMode := by
  rw [AndroidPlayOCS.scheduleMode]
  apply emit
  exact worked.setState rfl rfl rfl

end Worked

omit [DecidableEq Value] in
theorem setGauges_same (library : Library Value) (input : Fields Value)
    (state : CognitiveState Value) :
    (setGauges library input state).1.missionId = state.missionId ∧
      (setGauges library input state).1.generation = state.generation ∧
        (setGauges library input state).1.sequence = state.sequence := by
  simp only [setGauges]
  cases gauge library input "novelty" <;> cases gauge library input "uncertainty" <;>
    cases gauge library input "risk" <;> cases gauge library input "cognitive_load" <;> simp

namespace Worked

variable {before after : AndroidPlayOCS Value}

theorem learn (worked : Worked before after) (input prediction : Fields Value)
    (winner : Option (Fields Value)) (observed : Fields Value) :
    Worked before (after.learn input prediction winner observed) := by
  simp only [AndroidPlayOCS.learn, AndroidPlayOCS.comparePrediction]
  apply emit
  apply emit
  apply mutate
  apply emit
  apply emit
  exact worked.setState rfl rfl rfl

theorem compete (worked : Worked before after) (input prediction : Fields Value)
    (candidates : List (Fields Value)) :
    Worked before (after.compete library input prediction candidates) := by
  rw [AndroidPlayOCS.compete]
  split
  · exact worked
  · split
    · exact (((worked.emit _).mutate _).emit _).emit _
    · apply learn
      exact (((worked.emit _).mutate _).emit _).emit _

omit [DecidableEq Value] in
theorem anticipate (input prediction : Fields Value) (ocs : AndroidPlayOCS Value) :
    Worked ocs (ocs.anticipate input prediction) := by
  simp only [AndroidPlayOCS.anticipate]
  apply emit
  have sensed := (((refl ocs).emit .sense).mutate fun objects =>
    objects.setWorking "sensory_input" (some input)).emit .model
  exact sensed.setState rfl rfl rfl

theorem recurrentCycle (input prediction : Fields Value) (candidates : List (Fields Value))
    (authorized : Bool) (ocs : AndroidPlayOCS Value) :
    Worked ocs (ocs.recurrentCycle library input prediction candidates authorized) := by
  rw [AndroidPlayOCS.recurrentCycle]
  split
  · exact refl ocs
  · have anticipated := anticipate input prediction ocs
    have ⟨missionId, generation, sequence⟩ :=
      setGauges_same library input (ocs.anticipate input prediction).state
    have gauged : Worked ocs ((ocs.anticipate input prediction).setState fun _ =>
        (setGauges library input (ocs.anticipate input prediction).state).1) :=
      anticipated.setState missionId generation sequence
    simp only
    split
    · exact gauged
    · apply compete
      apply scheduleMode
      exact gauged.emit _

end Worked

/-! ## One call -/

/-- What holds of every runtime. -/
structure Sound (missionId : String) (ocs : AndroidPlayOCS Value) : Prop where
  mission : ocs.state.missionId = missionId
  live : ocs.objects < ocs.allocated
  snapshots : ∀ snapshot ∈ ocs.snapshots,
    snapshot.objects < ocs.allocated ∧ snapshot.state.missionId = missionId
  numbered : ocs.Numbered

variable {ocs after : AndroidPlayOCS Value}

omit [DecidableEq Value] in
theorem Worked.sound (worked : Worked ocs after) (sound : Sound missionId ocs) :
    Sound missionId after where
  mission := worked.missionId.trans sound.mission
  live := by
    rw [worked.objects, worked.allocated]
    exact sound.live
  snapshots := by
    rw [worked.snapshots, worked.allocated]
    exact sound.snapshots
  numbered := worked.numbered sound.numbered

omit [DecidableEq Value] in
theorem Sound.initial :
    Sound missionId (AndroidPlayOCS.initial missionId : AndroidPlayOCS Value) where
  mission := rfl
  live := Nat.zero_lt_one
  snapshots := fun _ member => absurd member List.not_mem_nil
  numbered := ⟨List.nodup_nil, fun _ member => absurd member List.not_mem_nil⟩

omit [DecidableEq Value] in
theorem Sound.snapshot (sound : Sound missionId ocs) : Sound missionId ocs.snapshot where
  mission := sound.mission
  live := Nat.lt_succ_of_lt sound.live
  snapshots := by
    intro snapshot member
    simp only [AndroidPlayOCS.snapshot, List.mem_append, List.mem_singleton] at member
    cases member with
    | inl old =>
      have ⟨inside, mission⟩ := sound.snapshots snapshot old
      exact ⟨Nat.lt_succ_of_lt inside, mission⟩
    | inr new =>
      rw [new]
      exact ⟨Nat.lt_succ_self _, sound.mission⟩
  numbered := ⟨sound.numbered.distinct, sound.numbered.behind⟩

/-- The runtime that a restore continues from. -/
def adopt (ocs : AndroidPlayOCS Value) (snapshot : RuntimeSnapshot Value) :
    AndroidPlayOCS Value :=
  { ocs with
    state :=
      { snapshot.state with
        generation := max ocs.state.generation snapshot.state.generation + 1 }
    objects := snapshot.objects }

omit [DecidableEq Value] in
theorem Sound.restore_eq (sound : Sound missionId ocs) {snapshot : RuntimeSnapshot Value}
    (member : snapshot ∈ ocs.snapshots) :
    ocs.restore snapshot = (ocs.adopt snapshot).emit .recover := by
  rw [AndroidPlayOCS.restore, if_neg]
  · rfl
  · rw [(sound.snapshots snapshot member).2, sound.mission]
    exact fun apart => apart rfl

omit [DecidableEq Value] in
theorem Sound.restore (sound : Sound missionId ocs) {snapshot : RuntimeSnapshot Value}
    (member : snapshot ∈ ocs.snapshots) : Sound missionId (ocs.restore snapshot) := by
  rw [sound.restore_eq member]
  have ⟨inside, mission⟩ := sound.snapshots snapshot member
  have adopted : Sound missionId (ocs.adopt snapshot) := by
    refine ⟨mission, inside, sound.snapshots, sound.numbered.distinct, ?_⟩
    -- all events so far are of earlier generations
    intro event listed
    have current : event.generation ≤ ocs.state.generation := by
      cases sound.numbered.behind event listed with
      | inl older => exact le_of_lt older
      | inr same => exact le_of_eq same.1
    exact .inl (Nat.lt_succ_of_le (le_trans current (le_max_left _ _)))
  exact ((Worked.refl _).emit _).sound adopted

theorem exec_cases (library : Library Value) (ocs : AndroidPlayOCS Value) (call : Call Value) :
    Worked ocs (ocs.exec library call) ∨ ocs.exec library call = ocs.snapshot ∨
      ∃ snapshot ∈ ocs.snapshots, ocs.exec library call = ocs.restore snapshot := by
  cases call with
  | registerEvidence registration => exact .inl (Worked.registerEvidence registration ocs)
  | recurrentCycle input prediction candidates authorized =>
    exact .inl (Worked.recurrentCycle input prediction candidates authorized ocs)
  | consolidate => exact .inl (Worked.consolidate ocs)
  | snapshot => exact .inr (.inl rfl)
  | restore index =>
    simp only [AndroidPlayOCS.exec]
    cases found : ocs.snapshots[index]? with
    | none => exact .inl (Worked.refl ocs)
    | some snapshot => exact .inr (.inr ⟨snapshot, List.mem_of_getElem? found, rfl⟩)

theorem Sound.exec (sound : Sound missionId ocs) (call : Call Value) :
    Sound missionId (ocs.exec library call) := by
  rcases exec_cases library ocs call with worked | taken | ⟨snapshot, member, restored⟩
  · exact worked.sound sound
  · rw [taken]
    exact sound.snapshot
  · rw [restored]
    exact sound.restore member

theorem Sound.run (sound : Sound missionId ocs) (calls : List (Call Value)) :
    Sound missionId (run (AndroidPlayOCS.exec library) ocs calls) :=
  run_invariant (Sound missionId) (fun _ call before => before.exec call) sound calls

/-- What a run adds to: the snapshots, the allocated objects and the generation. -/
structure Extends (before after : AndroidPlayOCS Value) : Prop where
  snapshots : ∃ new, after.snapshots = before.snapshots ++ new
  allocated : before.allocated ≤ after.allocated
  generation : before.state.generation ≤ after.state.generation

omit [DecidableEq Value] in
theorem Extends.refl (ocs : AndroidPlayOCS Value) : Extends ocs ocs where
  snapshots := ⟨[], (List.append_nil _).symm⟩
  allocated := le_refl _
  generation := le_refl _

omit [DecidableEq Value] in
theorem Extends.trans {middle : AndroidPlayOCS Value} (first : Extends ocs middle)
    (second : Extends middle after) : Extends ocs after where
  snapshots := by
    have ⟨new, added⟩ := first.snapshots
    have ⟨more, then_⟩ := second.snapshots
    exact ⟨new ++ more, by rw [then_, added, List.append_assoc]⟩
  allocated := le_trans first.allocated second.allocated
  generation := le_trans first.generation second.generation

theorem Sound.extends (library : Library Value) (sound : Sound missionId ocs)
    (call : Call Value) :
    Extends ocs (ocs.exec library call) := by
  rcases exec_cases library ocs call with worked | taken | ⟨snapshot, member, restored⟩
  · exact ⟨⟨[], by simpa using worked.snapshots⟩, le_of_eq worked.allocated.symm,
      le_of_eq worked.generation.symm⟩
  · rw [taken]
    exact ⟨⟨_, rfl⟩, Nat.le_succ _, le_refl _⟩
  · rw [restored, sound.restore_eq member]
    exact ⟨⟨[], (List.append_nil _).symm⟩, le_refl _,
      Nat.le_succ_of_le (le_max_left _ _)⟩

theorem Sound.run_extends (library : Library Value) (sound : Sound missionId ocs)
    (calls : List (Call Value)) :
    Extends ocs (Core.run (AndroidPlayOCS.exec library) ocs calls) := by
  induction calls generalizing ocs with
  | nil => exact Extends.refl ocs
  | cons call rest inductionHypothesis =>
    exact (sound.extends library call).trans (inductionHypothesis (sound.exec call))

/-! ## Objects that are kept -/

omit [DecidableEq Value] in
theorem promote_kept {semantic : String → Option (Fields Value)} {winners : List (Fields Value)}
    (kept : ∀ entry ∈ winners.zipIdx, semantic (patternKey entry.2) = some entry.1) :
    promote semantic winners = semantic := by
  have folds : ∀ entries : List (Fields Value × ℕ),
      (∀ entry ∈ entries, semantic (patternKey entry.2) = some entry.1) →
        entries.foldl (fun semantic entry =>
          Function.update semantic (patternKey entry.2) (some entry.1)) semantic = semantic := by
    intro entries
    induction entries with
    | nil => exact fun _ => rfl
    | cons entry rest inductionHypothesis =>
      intro held
      have first : Function.update semantic (patternKey entry.2) (some entry.1) = semantic := by
        rw [← held entry (by simp)]
        exact Function.update_eq_self _ _
      rw [List.foldl_cons, first]
      exact inductionHypothesis fun other member => held other (by simp [member])
  exact folds winners.zipIdx kept

omit [DecidableEq Value] in
theorem mutate_kept (ocs : AndroidPlayOCS Value) (change : Objects Value → Objects Value)
    (kept : change ocs.live = ocs.live) : (ocs.mutate change).heap = ocs.heap := by
  simp only [mutate, kept]
  exact Function.update_eq_self _ _

/-- A call that is kept leaves all objects. -/
theorem exec_heap_of_kept {reference : ℕ} (inside : reference < ocs.allocated)
    (sound : Sound missionId ocs) {call : Call Value} (kept : Kept library ocs call) :
    (ocs.exec library call).heap reference = ocs.heap reference := by
  cases call with
  | registerEvidence registration =>
    simp only [AndroidPlayOCS.exec, AndroidPlayOCS.registerEvidence]
    split_ifs with accepted
    · have same : ocs.live.setEvidence registration.evidenceId
          (registration.record library) = ocs.live := by
        rw [Objects.setEvidence, ← kept accepted, Function.update_eq_self]
      exact congrFun (mutate_kept ocs (fun objects => objects.setEvidence
        registration.evidenceId (registration.record library)) same) reference
    · rfl
  | recurrentCycle input prediction candidates authorized =>
    have refused : authorized = false := kept
    simp [AndroidPlayOCS.exec, AndroidPlayOCS.recurrentCycle, refused]
  | consolidate =>
    have same : promote ocs.live.memory.semantic (winners ocs.live.memory.episodic) =
        ocs.live.memory.semantic := promote_kept kept
    have heap := mutate_kept
      (ocs.setState fun state => { state with mode := .consolidation }) (fun objects =>
        { objects with
          memory :=
            { objects.memory with
              semantic := promote objects.memory.semantic (winners objects.memory.episodic) } })
      (by
        change { ocs.live with
          memory :=
            { ocs.live.memory with
              semantic :=
                promote ocs.live.memory.semantic (winners ocs.live.memory.episodic) } } =
          ocs.live
        rw [same])
    exact congrFun heap reference
  | snapshot => exact Function.update_of_ne (ne_of_lt inside) _ _
  | restore index =>
    simp only [AndroidPlayOCS.exec]
    cases found : ocs.snapshots[index]? with
    | none => rfl
    | some snapshot =>
      simp only
      rw [sound.restore_eq (List.mem_of_getElem? found)]
      rfl

theorem exec_heap {reference : ℕ} (inside : reference < ocs.allocated)
    (sound : Sound missionId ocs) {call : Call Value}
    (kept : ocs.objects = reference → Kept library ocs call) :
    (ocs.exec library call).heap reference = ocs.heap reference := by
  by_cases here : ocs.objects = reference
  · exact exec_heap_of_kept inside sound (kept here)
  · rcases exec_cases library ocs call with worked | taken | ⟨snapshot, member, restored⟩
    · exact worked.heap reference (Ne.symm here)
    · rw [taken]
      exact Function.update_of_ne (ne_of_lt inside) _ _
    · rw [restored, sound.restore_eq member]
      rfl

/-- The calls that are made while the objects are live write nothing new to them. -/
def KeptWhile (library : Library Value) (reference : ℕ) :
    AndroidPlayOCS Value → List (Call Value) → Prop :=
  Admissible (AndroidPlayOCS.exec library) fun ocs call =>
    ocs.objects = reference → Kept library ocs call

theorem run_heap {reference : ℕ} (inside : reference < ocs.allocated)
    (sound : Sound missionId ocs) {calls : List (Call Value)}
    (kept : KeptWhile library reference ocs calls) :
    (Core.run (AndroidPlayOCS.exec library) ocs calls).heap reference = ocs.heap reference := by
  induction calls generalizing ocs with
  | nil => rfl
  | cons call rest inductionHypothesis =>
    have ⟨now, later⟩ := kept
    have bound := lt_of_lt_of_le inside (sound.extends library call).allocated
    rw [run_cons, inductionHypothesis bound (sound.exec call) later]
    exact exec_heap inside sound now

end AndroidPlayOCS

/-! ## Runs -/

open AndroidPlayOCS

theorem runtime_append (before after : List (Call Value)) :
    runtime library missionId (before ++ after) =
      run (AndroidPlayOCS.exec library) (runtime library missionId before) after :=
  run_append _ _ _

theorem runtime_sound (calls : List (Call Value)) :
    Sound missionId (runtime library missionId calls) :=
  Sound.initial.run calls

theorem taken_snapshot (library : Library Value) (missionId : String)
    (before middle : List (Call Value)) :
    (runtime library missionId (before ++ .snapshot :: middle)).snapshots[
        (runtime library missionId before).snapshots.length]? =
      some ⟨(runtime library missionId before).state,
        (runtime library missionId before).allocated⟩ := by
  have start : Sound missionId ((runtime library missionId before).exec library .snapshot) :=
    (runtime_sound before).exec .snapshot
  have ⟨new, added⟩ := (start.run_extends library middle).snapshots
  rw [runtime_append, run_cons, added]
  simp [AndroidPlayOCS.exec, AndroidPlayOCS.snapshot]

theorem runtime_restore {calls : List (Call Value)} {index : ℕ}
    {snapshot : RuntimeSnapshot Value}
    (found : (runtime library missionId calls).snapshots[index]? = some snapshot) :
    runtime library missionId (calls ++ [.restore index]) =
      ((runtime library missionId calls).adopt snapshot).emit .recover := by
  rw [runtime_append, run_cons, run_nil]
  simp only [AndroidPlayOCS.exec, found]
  exact (runtime_sound calls).restore_eq (List.mem_of_getElem? found)

theorem runtime_extends (library : Library Value) (missionId : String)
    (before after : List (Call Value)) :
    Extends (runtime library missionId before) (runtime library missionId (before ++ after)) := by
  rw [runtime_append]
  exact (runtime_sound before).run_extends library after

theorem restores_increase {before middle : List (Call Value)} {first second : ℕ}
    (listed : second <
      (runtime library missionId (before ++ .restore first :: middle)).snapshots.length) :
    (runtime library missionId (before ++ [.restore first])).state.generation <
      (runtime library missionId
        (before ++ .restore first :: (middle ++ [.restore second]))).state.generation := by
  have found := List.getElem?_eq_getElem listed
  have between : before ++ .restore first :: middle = before ++ [.restore first] ++ middle := by
    simp
  have later : before ++ .restore first :: (middle ++ [.restore second]) =
      before ++ .restore first :: middle ++ [.restore second] := by simp
  have grown :=
    (runtime_extends library missionId (before ++ [.restore first]) middle).generation
  rw [← between] at grown
  rw [later, runtime_restore found]
  apply lt_of_le_of_lt grown
  exact Nat.lt_succ_of_le (le_max_left _ _)

theorem snapshot_kept {calls before middle after : List (Call Value)}
    (calm : Calm library missionId calls)
    (split : calls = before ++ .snapshot ::
      (middle ++ .restore (runtime library missionId before).snapshots.length :: after)) :
    (runtime library missionId (before ++ .snapshot :: middle)).heap
        (runtime library missionId before).allocated =
      (runtime library missionId before).live := by
  have sound : Sound missionId (runtime library missionId before) := runtime_sound before
  have fresh : ((runtime library missionId before).exec library .snapshot).heap
      (runtime library missionId before).allocated = (runtime library missionId before).live :=
    Function.update_self _ _ _
  have kept : KeptWhile library (runtime library missionId before).allocated
      ((runtime library missionId before).exec library .snapshot) middle := by
    apply admissible_iff_forall.mpr
    rintro early call ⟨late, rest⟩ live
    have state : run (AndroidPlayOCS.exec library)
        ((runtime library missionId before).exec library .snapshot) early =
          runtime library missionId (before ++ .snapshot :: early) := by
      rw [runtime_append, run_cons]
    rw [state] at live ⊢
    apply calm (before ++ .snapshot :: early) call late _ after _ _
      (taken_snapshot library missionId before early) live
    simp [split, ← rest]
  rw [runtime_append, run_cons, run_heap (Nat.lt_succ_self _) (sound.exec .snapshot) kept, fresh]

private def plainLibrary : Library ℕ where
  float := fun value => some value
  dict := fun _ => none
  sha256 := id

private def twice : List (Call ℕ) :=
  [.snapshot, .restore 0, .recurrentCycle [] [] [] true, .restore 0]

private def once : List (Call ℕ) :=
  [.recurrentCycle [] [] [] true, .snapshot, .recurrentCycle [("risk", 1)] [] [] true,
    .restore 0]

private theorem once_calm : Calm plainLibrary "mission" once := by
  intro before call middle index after snapshot split found live
  rcases before with _ | ⟨first, _ | ⟨second, _ | ⟨third, rest⟩⟩⟩
  · -- no snapshot has been taken
    exact absurd found (by simp [runtime, AndroidPlayOCS.initial])
  · have taken : call = .snapshot := by simp_all [once]
    rw [taken]
    trivial
  · -- the live objects are not those of the snapshot
    have start : [first, second] = once.take 2 := by simp_all [once]
    rw [start] at found live
    have listed : snapshot.objects = 1 := by
      cases index with
      | zero => exact congrArg RuntimeSnapshot.objects (Option.some.inj found).symm
      | succ index =>
        have single : (runtime plainLibrary "mission" (once.take 2)).snapshots.length = 1 := rfl
        have ⟨inside, _⟩ := List.getElem?_eq_some_iff.mp found
        omega
    have current : (runtime plainLibrary "mission" (once.take 2)).objects = 0 := rfl
    omega
  · have length := congrArg List.length split
    simp only [once, List.length_cons, List.length_nil, List.length_append] at length
    omega

end ReisOs.Ocs
