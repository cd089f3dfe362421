import Mathlib.Data.List.Induction
import Mathlib.Data.List.TakeWhile
import ReisOs.Core.Fallible
import ReisOs.CognitivePhysiology.Engine

/-!
# Traces of failed cycles

The cycle is reserved before the workspace changes, but its candidates are ingested one
after the other, and the winner is broadcast before the commit of the action is checked.
What a cycle that raises before its action leaves behind is stated exactly.
-/

namespace ReisOs.CognitivePhysiology

open ReisOs.Core Engine

variable {F P V : Type} {floats : Floats F} {engine : Engine F P V}
  {request : CycleRequest F P}

/-! ## The condition -/

/-- The candidates, the broadcast identifiers and the memory are the same. -/
structure SameTrace (before after : Engine F P V) : Prop where
  candidates : ∀ candidateId,
    after.runtime.workspace.candidates.lookup candidateId =
      before.runtime.workspace.candidates.lookup candidateId
  broadcastIds : after.runtime.workspace.broadcastIds = before.runtime.workspace.broadcastIds
  memory : after.memory = before.memory

/-- What is checked before the first candidate is ingested. -/
structure Admitted (floats : Floats F) (engine : Engine F P V) (request : CycleRequest F P) :
    Prop where
  nonempty : request.candidates ≠ []
  valid : ∀ candidate ∈ request.candidates, candidate.validate floats = .ok ()
  generation : request.generation = engine.runtime.generation
  candidates : request.candidates.length ≤ engine.maxCandidatesPerCycle
  cycles : engine.runtime.cycles < engine.maxCycles

def Engine.owns (engine : Engine F P V) (candidate : Candidate F) : Bool :=
  candidate.sourceOcs = engine.ocsId

/-- The last candidate of each identifier is in the workspace already. -/
def Settled (engine : Engine F P V) (candidates : List (Candidate F)) : Prop :=
  ∀ candidateId candidate, lastOf candidates candidateId = some candidate →
    engine.runtime.workspace.candidates.lookup candidateId = some candidate

def Wins (floats : Floats F) (candidates : List (Candidate F)) (winner : Candidate F) : Prop :=
  ∃ competition, compete floats candidates = .ok competition ∧
    lastOf candidates competition.winnerId = some winner

/-- The commit of the action is allowed, and its effect is new. -/
def Committable (engine : Engine F P V) (request : CycleRequest F P) : Prop :=
  ∃ effectId context, request.actionEffectId = some effectId ∧
    request.commitContext = some context ∧ context.allowed = true ∧
      effectId ∉ engine.executedEffectIds

def Observes [DecidableEq P] (floats : Floats F) (request : CycleRequest F P)
    (winner : Candidate F) : Prop :=
  ∃ observed residual nmState, request.observe = .ok observed ∧
    compare floats request.expected observed = .ok residual ∧
      modulate floats winner residual = .ok nmState

/-- The episode has an identity and a provenance, and the memory is the engine's own. -/
def Recordable (engine : Engine F P V) (request : CycleRequest F P) : Prop :=
  engine.ocsId ≠ "" ∧ request.provenanceRef ≠ "" ∧ request.missionId ≠ "" ∧
    0 ≤ request.generation ∧ engine.memory.ocsId = engine.ocsId

/-- The cycle raises after the broadcast, without a call of the action. -/
def FailsLate [DecidableEq P] (floats : Floats F) (engine : Engine F P V)
    (request : CycleRequest F P) (winner : Candidate F) : Prop :=
  (request.action.isSome = true ∧ ¬ Committable engine request) ∨
    (request.action = none ∧ ¬ (Observes floats request winner ∧ Recordable engine request))

/-- A cycle that is admitted adds nothing to the workspace before it raises. -/
structure Unmarked [DecidableEq P] (floats : Floats F) (engine : Engine F P V)
    (request : CycleRequest F P) : Prop where
  foreign : Admitted floats engine request →
    (∃ candidate ∈ request.candidates, engine.owns candidate = false) →
    Settled engine (request.candidates.takeWhile engine.owns)
  late : Admitted floats engine request →
    (∀ candidate ∈ request.candidates, engine.owns candidate = true) →
    ∀ winner, Wins floats request.candidates winner →
      FailsLate floats engine request winner →
      Settled engine request.candidates ∧
        winner.candidateId ∈ engine.runtime.workspace.broadcastIds

/-! ## Competition -/

theorem scoresOf_ok (candidates : List (Candidate F)) (scores : Dict String F)
    (hvalid : ∀ candidate ∈ candidates, candidate.validate floats = .ok ()) :
    ∃ final, scoresOf floats scores candidates = .ok final := by
  induction candidates generalizing scores with
  | nil => exact ⟨scores, rfl⟩
  | cons candidate rest ih =>
    have hscore : score floats candidate = .ok (candidate.weigh floats) := by
      rw [score, hvalid candidate (by simp)]
      rfl
    have hrest := ih (scores.insert candidate.candidateId (candidate.weigh floats))
      fun other hother => hvalid other (List.mem_cons_of_mem candidate hother)
    rw [scoresOf, hscore]
    exact hrest

variable {candidates : List (Candidate F)}

theorem of_scoresOf_ok {scores final : Dict String F}
    (h : scoresOf floats scores candidates = .ok final) :
    (∀ candidate ∈ candidates, candidate.validate floats = .ok ()) ∧
      ∀ candidateId, candidateId ∈ final ↔ candidateId ∈ scores ∨
        ∃ candidate ∈ candidates, candidate.candidateId = candidateId := by
  induction candidates generalizing scores with
  | nil =>
    cases h
    simp
  | cons candidate rest ih =>
    obtain ⟨value, hscore, hrest⟩ := bind_eq_ok h
    obtain ⟨⟨⟩, hvalid, -⟩ := bind_eq_ok hscore
    obtain ⟨hothers, hkeys⟩ := ih hrest
    refine ⟨List.forall_mem_cons.mpr ⟨hvalid, hothers⟩, ?_⟩
    intro candidateId
    rw [hkeys, AList.mem_insert, List.exists_mem_cons_iff, eq_comm, or_comm (a := _ = _),
      or_assoc]

theorem rank_perm (floats : Floats F) (scores : Dict String F) :
    (rank floats scores).Perm scores.keys := by
  have hsort := List.perm_insertionSort (ranksBefore floats)
    (scores.entries.map fun entry => (entry.1, entry.2))
  have hkeys : (scores.entries.map fun entry => (entry.1, entry.2)).map Prod.fst =
      scores.keys := by
    rw [List.map_map]
    rfl
  rw [← hkeys]
  exact hsort.map Prod.fst

variable {candidate : Candidate F}

theorem lastOf_eq_some {candidateId : String} (h : lastOf candidates candidateId = some candidate) :
    candidate ∈ candidates ∧ candidate.candidateId = candidateId := by
  have hmem := List.mem_of_find?_eq_some h
  have hid := List.find?_some h
  exact ⟨List.mem_reverse.mp hmem, of_decide_eq_true hid⟩

theorem exists_lastOf
    (h : candidate ∈ candidates) :
    ∃ last, lastOf candidates candidate.candidateId = some last := by
  apply Option.isSome_iff_exists.mp
  rw [lastOf, List.find?_isSome]
  exact ⟨candidate, List.mem_reverse.mpr h, decide_eq_true rfl⟩

/-- Candidates that are valid have a winner. -/
theorem exists_wins (hnonempty : candidates ≠ [])
    (hvalid : ∀ candidate ∈ candidates, candidate.validate floats = .ok ()) :
    ∃ winner, Wins floats candidates winner := by
  obtain ⟨scores, hscores⟩ := scoresOf_ok candidates (∅ : Dict String F) hvalid
  have hcompete : compete floats candidates = resultOf scores (rank floats scores) := by
    rw [compete, if_neg hnonempty]
    change (scoresOf floats ∅ candidates >>= _) = _
    rw [hscores]
    rfl
  have hkeys := (of_scoresOf_ok hscores).2
  have hperm := rank_perm floats scores
  cases hrank : rank floats scores with
  | nil =>
    obtain ⟨candidate, hmem⟩ := List.exists_mem_of_ne_nil candidates hnonempty
    have hkey := (hkeys candidate.candidateId).mpr (.inr ⟨candidate, hmem, rfl⟩)
    rw [hrank, List.nil_perm] at hperm
    rw [AList.mem_keys, hperm] at hkey
    exact absurd hkey List.not_mem_nil
  | cons winnerId others =>
    have hwinner : winnerId ∈ scores := by
      apply AList.mem_keys.mpr
      apply hperm.subset
      rw [hrank]
      exact List.mem_cons_self
    cases (hkeys winnerId).mp hwinner with
    | inl hempty => exact absurd hempty (AList.notMem_empty winnerId)
    | inr hcandidate =>
      obtain ⟨candidate, hmem, hid⟩ := hcandidate
      obtain ⟨winner, hlast⟩ := exists_lastOf hmem
      rw [hrank] at hcompete
      rw [hid] at hlast
      exact ⟨winner, ⟨winnerId, winnerId :: others, scores⟩, hcompete, hlast⟩

theorem valid_of_compete {competition : CompetitionResult F}
    (h : compete floats candidates = .ok competition) :
    candidates ≠ [] ∧ ∀ candidate ∈ candidates, candidate.validate floats = .ok () := by
  by_cases hempty : candidates = []
  · rw [compete, if_pos hempty] at h
    cases h
  · rw [compete, if_neg hempty] at h
    obtain ⟨scores, hscores, -⟩ := bind_eq_ok h
    exact ⟨hempty, (of_scoresOf_ok hscores).1⟩

/-! ## Reservation -/

def Engine.reserved (engine : Engine F P V) : Engine F P V :=
  { engine with runtime := { engine.runtime with cycles := engine.runtime.cycles + 1 } }

variable {generation : ℤ}

theorem assertGeneration_eq_ok :
    engine.assertGeneration generation = .ok () ↔ generation = engine.runtime.generation := by
  rw [assertGeneration]
  split
  · next hne => simp [hne]
  · next heq => simpa using heq

theorem of_reserveCycle_ok {count : ℕ} {after : Engine F P V}
    (h : engine.reserveCycle generation count = .ok after) :
    generation = engine.runtime.generation ∧ count ≤ engine.maxCandidatesPerCycle ∧
      engine.runtime.cycles < engine.maxCycles := by
  obtain ⟨⟨⟩, hgeneration, hrest⟩ := bind_eq_ok h
  by_cases hcount : count ≤ 0
  · rw [if_pos hcount] at hrest
    cases hrest
  rw [if_neg hcount] at hrest
  by_cases hbudget : count > engine.maxCandidatesPerCycle
  · rw [if_pos hbudget] at hrest
    cases hrest
  rw [if_neg hbudget] at hrest
  by_cases hcycles : engine.runtime.cycles ≥ engine.maxCycles
  · rw [if_pos hcycles] at hrest
    cases hrest
  exact ⟨assertGeneration_eq_ok.mp hgeneration, Nat.le_of_not_lt hbudget,
    Nat.lt_of_not_le hcycles⟩

theorem reserveCycle_of_admitted (h : Admitted floats engine request) :
    engine.reserveCycle request.generation request.candidates.length =
      .ok engine.reserved := by
  have hgeneration := assertGeneration_eq_ok.mpr h.generation
  have hcount : ¬ request.candidates.length ≤ 0 := by
    rw [Nat.le_zero, List.length_eq_zero_iff]
    exact h.nonempty
  rw [reserveCycle, hgeneration]
  change (if _ then _ else if _ then _ else if _ then _ else _) = _
  rw [if_neg hcount, if_neg (Nat.not_lt.mpr h.candidates), if_neg (Nat.not_le.mpr h.cycles)]
  rfl

theorem runCycle_of_not_admitted [DecidableEq P] (h : ¬ Admitted floats engine request) :
    ∃ error, engine.runCycle floats request = (engine, ⟨.error error, false⟩) := by
  cases hcompete : compete floats request.candidates with
  | error error =>
    refine ⟨error, ?_⟩
    rw [runCycle, hcompete]
  | ok competition =>
    obtain ⟨hnonempty, hvalid⟩ := valid_of_compete hcompete
    cases hreserve : engine.reserveCycle request.generation request.candidates.length with
    | error error =>
      refine ⟨error, ?_⟩
      simp only [runCycle, hcompete, hreserve]
    | ok after =>
      obtain ⟨hgeneration, hcount, hcycles⟩ := of_reserveCycle_ok hreserve
      exact absurd ⟨hnonempty, hvalid, hgeneration, hcount, hcycles⟩ h

/-! ## Ingestion -/

def Engine.ingested (engine : Engine F P V) (candidates : List (Candidate F)) : Engine F P V :=
  candidates.foldl addCandidate engine

/-- All but the candidates of the workspace stays as it is. -/
structure SameFrame (before after : Engine F P V) : Prop where
  generation : after.runtime.generation = before.runtime.generation
  broadcastIds : after.runtime.workspace.broadcastIds = before.runtime.workspace.broadcastIds
  ocsId : after.ocsId = before.ocsId
  executedEffectIds : after.executedEffectIds = before.executedEffectIds
  memory : after.memory = before.memory

theorem sameFrame_ingested (engine : Engine F P V) (candidates : List (Candidate F)) :
    SameFrame engine (engine.ingested candidates) := by
  induction candidates generalizing engine with
  | nil => exact ⟨rfl, rfl, rfl, rfl, rfl⟩
  | cons candidate rest ih =>
    have hrest := ih (engine.addCandidate candidate)
    exact ⟨hrest.generation, hrest.broadcastIds, hrest.ocsId, hrest.executedEffectIds,
      hrest.memory⟩

theorem lookup_ingested (engine : Engine F P V) (candidates : List (Candidate F))
    (candidateId : String) :
    (engine.ingested candidates).runtime.workspace.candidates.lookup candidateId =
      (lastOf candidates candidateId).or
        (engine.runtime.workspace.candidates.lookup candidateId) := by
  induction candidates using List.reverseRecOn with
  | nil => rfl
  | append_singleton front candidate ih =>
    have hadd : engine.ingested (front ++ [candidate]) =
        (engine.ingested front).addCandidate candidate := by
      rw [ingested, List.foldl_append]
      rfl
    have hlast : lastOf (front ++ [candidate]) candidateId =
        if candidate.candidateId = candidateId then some candidate
        else lastOf front candidateId := by
      rw [lastOf, List.reverse_append, List.reverse_singleton, List.singleton_append,
        List.find?_cons]
      by_cases hid : candidate.candidateId = candidateId
      · simp [hid]
      · simp [hid, lastOf]
    rw [hadd, hlast]
    change AList.lookup candidateId (AList.insert _ _ _) = _
    rw [Dict.lookup_insert_eq, ih]
    by_cases hid : candidate.candidateId = candidateId
    · rw [if_pos hid.symm, if_pos hid]
      rfl
    · rw [if_neg (Ne.symm hid), if_neg hid]

theorem settled_iff :
    Settled engine candidates ↔ ∀ candidateId,
      (engine.ingested candidates).runtime.workspace.candidates.lookup candidateId =
        engine.runtime.workspace.candidates.lookup candidateId := by
  apply forall_congr'
  intro candidateId
  rw [lookup_ingested]
  cases hlast : lastOf candidates candidateId with
  | none => simp
  | some candidate =>
    simp only [Option.some.injEq, forall_eq', Option.some_or]
    exact eq_comm

theorem sameTrace_ingested_iff :
    SameTrace engine (engine.reserved.ingested candidates) ↔ Settled engine candidates := by
  have hframe := sameFrame_ingested engine.reserved candidates
  have hsettled : Settled engine candidates ↔ Settled engine.reserved candidates := Iff.rfl
  rw [hsettled, settled_iff]
  exact ⟨fun h => h.candidates, fun h => ⟨h, hframe.broadcastIds, hframe.memory⟩⟩

theorem ingestCandidate_of_owns
    (hgeneration : generation = engine.runtime.generation)
    (hvalid : candidate.validate floats = .ok ()) (howns : engine.owns candidate = true) :
    engine.ingestCandidate floats candidate generation = .ok (engine.addCandidate candidate) := by
  have hsource : ¬ candidate.sourceOcs ≠ engine.ocsId := by
    rw [not_not]
    exact of_decide_eq_true howns
  rw [ingestCandidate, assertGeneration_eq_ok.mpr hgeneration, hvalid]
  change (if _ then _ else _) = _
  rw [if_neg hsource]
  rfl

theorem ingestCandidate_of_not_owns
    (hgeneration : generation = engine.runtime.generation)
    (howns : engine.owns candidate = false) :
    engine.ingestCandidate floats candidate generation =
      .error (.permission "foreign_candidate_requires_explicit_handoff") := by
  have hsource : candidate.sourceOcs ≠ engine.ocsId := of_decide_eq_false howns
  rw [ingestCandidate, assertGeneration_eq_ok.mpr hgeneration]
  change (if _ then _ else _) = _
  rw [if_pos hsource]
  rfl

theorem ingestAll_eq {candidates : List (Candidate F)} {generation : ℤ}
    (hgeneration : generation = engine.runtime.generation)
    (hvalid : ∀ candidate ∈ candidates, candidate.validate floats = .ok ()) :
    engine.ingestAll floats generation candidates =
      (engine.ingested (candidates.takeWhile engine.owns),
        if candidates.all engine.owns then .ok ()
        else .error (.permission "foreign_candidate_requires_explicit_handoff")) := by
  induction candidates generalizing engine with
  | nil => rfl
  | cons candidate rest ih =>
    obtain ⟨hfirst, hothers⟩ := List.forall_mem_cons.mp hvalid
    cases howns : engine.owns candidate with
    | true =>
      have hrest := @ih (engine.addCandidate candidate) hgeneration hothers
      rw [ingestAll, ingestCandidate_of_owns hgeneration hfirst howns]
      rw [List.takeWhile_cons_of_pos howns, List.all_cons, howns, Bool.true_and]
      exact hrest
    | false =>
      rw [ingestAll, ingestCandidate_of_not_owns hgeneration howns]
      rw [List.takeWhile_cons_of_neg (by simp [howns]), List.all_cons, howns]
      rfl

/-! ## After the broadcast -/

theorem cognitiveIgnition_of_present {candidateId : String} (hgeneration : generation = engine.runtime.generation)
    (hfound : engine.runtime.workspace.candidates.lookup candidateId = some candidate) :
    engine.cognitiveIgnition candidateId generation = .ok (engine.broadcast candidateId) := by
  rw [cognitiveIgnition, assertGeneration_eq_ok.mpr hgeneration, hfound]
  rfl

section

variable [DecidableEq P] {winner : Candidate F} {competition : CompetitionResult F}

omit [DecidableEq P] in
theorem validate_eq_ok_iff {record : MemoryRecord F P} :
    record.validate = .ok () ↔ (record.recordId ≠ "" ∧ record.ocsId ≠ "" ∧
      record.provenanceRef ≠ "" ∧ record.missionId ≠ "") ∧ 0 ≤ record.generation := by
  rw [MemoryRecord.validate]
  split
  · next hempty => simp; tauto
  · next hnamed =>
      rw [not_or, not_or, not_or] at hnamed
      split
      · next hnegative => simp [hnegative]
      · next hgeneration => exact iff_of_true rfl ⟨hnamed, Int.not_lt.mp hgeneration⟩

omit [DecidableEq P] in
theorem put_eq_ok_iff {memory : LocalMemoryStore F P} {record : MemoryRecord F P} :
    (∃ after, memory.put record = .ok after) ↔
      record.validate = .ok () ∧ record.ocsId = memory.ocsId := by
  constructor
  · intro h
    obtain ⟨after, hput⟩ := h
    obtain ⟨⟨⟩, hrecord, hrest⟩ := bind_eq_ok hput
    by_cases hocs : record.ocsId ≠ memory.ocsId
    · rw [if_pos hocs] at hrest
      cases hrest
    · exact ⟨hrecord, not_not.mp hocs⟩
  · intro h
    rw [LocalMemoryStore.put, h.1, if_neg (not_not.mpr h.2)]
    exact ⟨_, rfl⟩

omit [DecidableEq P] in
theorem put_episode_eq_ok_iff (winner : Candidate F) (competition : CompetitionResult F)
    (residual : PredictionResidual F) :
    (∃ memory, engine.memory.put (engine.episode request winner competition residual) =
      .ok memory) ↔ Recordable engine request := by
  have hid : (engine.episode request winner competition residual).recordId ≠ "" := by
    intro hempty
    have hlength := congrArg String.length hempty
    have hword : "episode:".length = 8 := rfl
    have hnone : "".length = 0 := rfl
    simp only [episode, String.length_append] at hlength
    omega
  rw [put_eq_ok_iff, validate_eq_ok_iff]
  constructor
  · intro h
    obtain ⟨⟨⟨-, hocs, hprovenance, hmission⟩, hgeneration⟩, hmemory⟩ := h
    exact ⟨hocs, hprovenance, hmission, hgeneration, hmemory.symm⟩
  · intro h
    obtain ⟨hocs, hprovenance, hmission, hgeneration, hmemory⟩ := h
    exact ⟨⟨⟨hid, hocs, hprovenance, hmission⟩, hgeneration⟩, hmemory.symm⟩

theorem conclude_eq_ok_iff {effectResult : Option P} :
    (∃ answer, engine.conclude floats request winner competition effectResult =
      .ok answer) ↔ Observes floats request winner ∧ Recordable engine request := by
  constructor
  · intro h
    obtain ⟨answer, hanswer⟩ := h
    obtain ⟨observed, hobserve, hanswer⟩ := bind_eq_ok hanswer
    obtain ⟨residual, hcompare, hanswer⟩ := bind_eq_ok hanswer
    obtain ⟨nmState, hmodulate, hanswer⟩ := bind_eq_ok hanswer
    obtain ⟨memory, hput, -⟩ := bind_eq_ok hanswer
    exact ⟨⟨observed, residual, nmState, hobserve, hcompare, hmodulate⟩,
      (put_episode_eq_ok_iff winner competition residual).mp ⟨memory, hput⟩⟩
  · intro h
    obtain ⟨⟨observed, residual, nmState, hobserve, hcompare, hmodulate⟩, hrecord⟩ := h
    obtain ⟨memory, hput⟩ := (put_episode_eq_ok_iff winner competition residual).mpr hrecord
    rw [conclude, hobserve]
    change ∃ answer, (compare floats request.expected observed >>= _) = .ok answer
    rw [hcompare]
    change ∃ answer, (modulate floats winner residual >>= _) = .ok answer
    rw [hmodulate]
    change ∃ answer, (engine.memory.put _ >>= _) = .ok answer
    rw [hput]
    exact ⟨_, rfl⟩

omit [DecidableEq P] in
theorem operationalCommit_cases (effectId : String) (context : OperationalCommitContext)
    (effect : Except CycleError (Option P)) {generation : ℤ}
    (hgeneration : generation = engine.runtime.generation) :
    ((context.allowed = true ∧ effectId ∉ engine.executedEffectIds) ∧
      (engine.operationalCommit effectId context generation effect).2.2 = true) ∨
    (¬ (context.allowed = true ∧ effectId ∉ engine.executedEffectIds) ∧
      ∃ error, engine.operationalCommit effectId context generation effect =
        (engine, .error error, false)) := by
  have hassert := assertGeneration_eq_ok.mpr hgeneration
  by_cases hallowed : context.allowed = true
  · by_cases hexecuted : effectId ∈ engine.executedEffectIds
    · right
      refine ⟨fun h => h.2 hexecuted, .permission "duplicate_effect_denied", ?_⟩
      simp [operationalCommit, hassert, hallowed, hexecuted]
    · left
      refine ⟨⟨hallowed, hexecuted⟩, ?_⟩
      cases effect <;> simp [operationalCommit, hassert, hallowed, hexecuted]
  · right
    refine ⟨fun h => hallowed h.1, .permission "operational_commit_denied", ?_⟩
    simp [operationalCommit, hassert, hallowed]

/-- A cycle that fails after the broadcast leaves the engine as it is. -/
theorem act_of_failsLate (competition : CompetitionResult F)
    (hgeneration : request.generation = engine.runtime.generation)
    (h : FailsLate floats engine request winner) :
    ∃ error, engine.act floats request winner competition =
      (engine, ⟨.error error, false⟩) := by
  cases haction : request.action with
  | none =>
    have hfails : ¬ ∃ answer, engine.conclude floats request winner competition none =
        .ok answer := by
      rw [conclude_eq_ok_iff]
      simpa [FailsLate, haction] using h
    cases hconclude : engine.conclude floats request winner competition none with
    | error error =>
      refine ⟨error, ?_⟩
      simp only [act, haction, hconclude]
    | ok answer => exact absurd ⟨answer, hconclude⟩ hfails
  | some action =>
    have hdenied : ¬ Committable engine request := by
      simpa [FailsLate, haction] using h
    cases hid : request.actionEffectId with
    | none => exact ⟨_, by simp only [act, haction, hid]; rfl⟩
    | some effectId =>
      cases hcontext : request.commitContext with
      | none => exact ⟨_, by simp only [act, haction, hid, hcontext]; rfl⟩
      | some context =>
        have hcases := operationalCommit_cases effectId context action hgeneration
        cases hcases with
        | inl hcommit =>
          exact absurd ⟨effectId, context, hid, hcontext, hcommit.1⟩ hdenied
        | inr hrefused =>
          obtain ⟨-, error, hrefused⟩ := hrefused
          refine ⟨error, ?_⟩
          simp only [act, haction, hid, hcontext, hrefused]

/-- A cycle that does not fail so has called the action, or returns. -/
theorem act_of_not_failsLate (hgeneration : request.generation = engine.runtime.generation)
    (h : ¬ FailsLate floats engine request winner) {after : Engine F P V} {error : CycleError} :
    engine.act floats request winner competition ≠ (after, ⟨.error error, false⟩) := by
  intro hact
  cases haction : request.action with
  | none =>
    have hconcludes : ∃ answer, engine.conclude floats request winner competition none =
        .ok answer := by
      rw [conclude_eq_ok_iff]
      simpa [FailsLate, haction] using h
    obtain ⟨answer, hconclude⟩ := hconcludes
    simp [act, haction, hconclude] at hact
  | some action =>
    have hcommittable : Committable engine request := by
      simpa [FailsLate, haction] using h
    obtain ⟨effectId, context, hid, hcontext, hallowed, hnew⟩ := hcommittable
    have hcases := operationalCommit_cases effectId context action hgeneration
    cases hcases with
    | inl hcommit =>
      obtain ⟨-, hinvoked⟩ := hcommit
      rcases hcalled : engine.operationalCommit effectId context request.generation action
        with ⟨middle, answer, invoked⟩
      rw [hcalled] at hinvoked
      obtain rfl : invoked = true := hinvoked
      cases answer with
      | error error => simp [act, haction, hid, hcontext, hcalled] at hact
      | ok effectResult =>
        cases hconclude : middle.conclude floats request winner competition
            effectResult with
        | error error =>
          simp [act, haction, hid, hcontext, hcalled, hconclude] at hact
        | ok answer =>
          simp [act, haction, hid, hcontext, hcalled, hconclude] at hact
    | inr hrefused => exact hrefused.1 ⟨hallowed, hnew⟩

end

/-! ## A whole cycle -/

section

variable [DecidableEq P]

theorem runCycle_of_foreign (h : Admitted floats engine request)
    (hforeign : ∃ candidate ∈ request.candidates, engine.owns candidate = false) :
    ∃ error, engine.runCycle floats request =
      (engine.reserved.ingested (request.candidates.takeWhile engine.owns),
        ⟨.error error, false⟩) := by
  obtain ⟨winner, competition, hcompete, hlast⟩ := exists_wins h.nonempty h.valid
  have hall : request.candidates.all engine.owns = false := by
    rw [List.all_eq_false]
    obtain ⟨candidate, hmem, howns⟩ := hforeign
    exact ⟨candidate, hmem, by simp [howns]⟩
  have hingest := @ingestAll_eq _ _ _ floats engine.reserved _ _ h.generation h.valid
  have howns : engine.reserved.owns = engine.owns := rfl
  rw [howns, hall] at hingest
  refine ⟨.permission "foreign_candidate_requires_explicit_handoff", ?_⟩
  simp only [runCycle, hcompete, reserveCycle_of_admitted h, hlast, hingest]
  rfl

theorem runCycle_of_own (h : Admitted floats engine request)
    (howned : ∀ candidate ∈ request.candidates, engine.owns candidate = true)
    {winner : Candidate F} (hwins : Wins floats request.candidates winner) :
    ∃ competition, engine.runCycle floats request =
      ((engine.reserved.ingested request.candidates).broadcast winner.candidateId).act floats
        request winner competition := by
  obtain ⟨competition, hcompete, hlast⟩ := hwins
  have hall : request.candidates.all engine.owns = true := List.all_eq_true.mpr howned
  have htake : request.candidates.takeWhile engine.owns = request.candidates :=
    List.takeWhile_eq_self_iff.mpr howned
  have hingest := @ingestAll_eq _ _ _ floats engine.reserved _ _ h.generation h.valid
  have howns : engine.reserved.owns = engine.owns := rfl
  rw [howns, hall, htake] at hingest
  have hid := (lastOf_eq_some hlast).2
  have hfound := lookup_ingested engine.reserved request.candidates winner.candidateId
  rw [hid, hlast, Option.some_or] at hfound
  have hgeneration := h.generation.trans
    (sameFrame_ingested engine.reserved request.candidates).generation.symm
  have hignite := cognitiveIgnition_of_present hgeneration hfound
  refine ⟨competition, ?_⟩
  simp only [runCycle, hcompete, reserveCycle_of_admitted h, hlast, hingest, if_true,
    hid, hignite]

/-! ## What a failed cycle leaves -/

omit [DecidableEq P] in
theorem sameFrame_broadcast (engine : Engine F P V) (candidateId : String) :
    (engine.broadcast candidateId).runtime.generation = engine.runtime.generation ∧
      (engine.broadcast candidateId).ocsId = engine.ocsId ∧
      (engine.broadcast candidateId).executedEffectIds = engine.executedEffectIds ∧
      (engine.broadcast candidateId).memory = engine.memory ∧
      (engine.broadcast candidateId).runtime.workspace.candidates =
        engine.runtime.workspace.candidates := by
  rw [broadcast]
  split <;> exact ⟨rfl, rfl, rfl, rfl, rfl⟩

variable {candidateId : String}

omit [DecidableEq P] in
theorem broadcastIds_broadcast_iff :
    (engine.broadcast candidateId).runtime.workspace.broadcastIds =
        engine.runtime.workspace.broadcastIds ↔
      candidateId ∈ engine.runtime.workspace.broadcastIds := by
  rw [broadcast]
  split
  · next hmem => exact iff_of_true rfl hmem
  · next hnew => simp [hnew]

omit [DecidableEq P] in
theorem sameTrace_broadcast_iff {candidates : List (Candidate F)} :
    SameTrace engine ((engine.reserved.ingested candidates).broadcast candidateId) ↔
      Settled engine candidates ∧ candidateId ∈ engine.runtime.workspace.broadcastIds := by
  obtain ⟨-, -, -, hmemory, hcandidates⟩ :=
    sameFrame_broadcast (engine.reserved.ingested candidates) candidateId
  have hframe := sameFrame_ingested engine.reserved candidates
  have hids : (engine.reserved.ingested candidates).runtime.workspace.broadcastIds =
    engine.runtime.workspace.broadcastIds := hframe.broadcastIds
  rw [← hids, ← broadcastIds_broadcast_iff, ← sameTrace_ingested_iff]
  constructor
  · intro h
    refine ⟨⟨?_, hids, hframe.memory⟩, h.broadcastIds.trans hids.symm⟩
    rw [← hcandidates]
    exact h.candidates
  · intro h
    obtain ⟨hsame, hbroadcast⟩ := h
    refine ⟨?_, hbroadcast.trans hids, hmemory.trans hframe.memory⟩
    rw [hcandidates]
    exact hsame.candidates

theorem failsLate_broadcast_iff {candidates : List (Candidate F)}
    {winner : Candidate F} :
    FailsLate floats ((engine.reserved.ingested candidates).broadcast candidateId) request
      winner ↔ FailsLate floats engine request winner := by
  obtain ⟨-, hocs, hexecuted, hmemory, -⟩ :=
    sameFrame_broadcast (engine.reserved.ingested candidates) candidateId
  have hframe := sameFrame_ingested engine.reserved candidates
  rw [FailsLate, FailsLate, Committable, Committable, Recordable, Recordable, hocs, hexecuted,
    hmemory, hframe.ocsId, hframe.executedEffectIds, hframe.memory]
  rfl

/-- A cycle that raises without a call of the action leaves no candidate, no broadcast and
no memory. -/
def Traceless (floats : Floats F) (engine : Engine F P V) (request : CycleRequest F P) : Prop :=
  ∀ after error, engine.runCycle floats request = (after, ⟨.error error, false⟩) →
    SameTrace engine after

/-- A failed cycle leaves no trace exactly if the candidates that it has ingested were in
the workspace before, and its winner was broadcast before it if it fails after that. -/
theorem runCycle_traceless_iff :
    Traceless floats engine request ↔ Unmarked floats engine request := by
  constructor
  · intro h
    constructor
    · intro hadmitted hforeign
      obtain ⟨error, hrun⟩ := runCycle_of_foreign hadmitted hforeign
      exact sameTrace_ingested_iff.mp (h _ error hrun)
    · intro hadmitted howned winner hwins hlate
      obtain ⟨competition, hrun⟩ := runCycle_of_own hadmitted howned hwins
      have hgeneration := hadmitted.generation.trans
        (sameFrame_ingested engine.reserved request.candidates).generation.symm
      rw [← (sameFrame_broadcast _ winner.candidateId).1] at hgeneration
      obtain ⟨error, hact⟩ := act_of_failsLate competition hgeneration
        (failsLate_broadcast_iff.mpr hlate)
      exact sameTrace_broadcast_iff.mp (h _ error (hrun.trans hact))
  · intro h after error hrun
    by_cases hadmitted : Admitted floats engine request
    · by_cases howned : ∀ candidate ∈ request.candidates, engine.owns candidate = true
      · obtain ⟨winner, hwins⟩ := exists_wins hadmitted.nonempty hadmitted.valid
        obtain ⟨competition, hcycle⟩ := runCycle_of_own hadmitted howned hwins
        have hgeneration := hadmitted.generation.trans
          (sameFrame_ingested engine.reserved request.candidates).generation.symm
        rw [← (sameFrame_broadcast _ winner.candidateId).1] at hgeneration
        rw [hcycle] at hrun
        by_cases hlate : FailsLate floats engine request winner
        · obtain ⟨other, hact⟩ := act_of_failsLate competition hgeneration
            (failsLate_broadcast_iff.mpr hlate)
          rw [hact] at hrun
          cases hrun
          exact sameTrace_broadcast_iff.mpr (h.late hadmitted howned winner hwins hlate)
        · exact absurd hrun
            (act_of_not_failsLate hgeneration (mt failsLate_broadcast_iff.mp hlate))
      · have hforeign : ∃ candidate ∈ request.candidates, engine.owns candidate = false := by
          simpa using howned
        obtain ⟨other, hcycle⟩ := runCycle_of_foreign hadmitted hforeign
        rw [hcycle] at hrun
        cases hrun
        exact sameTrace_ingested_iff.mpr (h.foreign hadmitted hforeign)
    · obtain ⟨other, hcycle⟩ := runCycle_of_not_admitted hadmitted
      rw [hcycle] at hrun
      cases hrun
      exact ⟨fun candidateId => rfl, rfl, rfl⟩

end

/-! ## A foreign candidate -/

/-- Floats that are exact. -/
def exactFloats : Floats ℚ where
  literal := id
  ofInt := (↑)
  ratio left right := .ok (left / right)
  add := (· + ·)
  sub := (· - ·)
  mul := (· * ·)
  div := (· / ·)
  min := Min.min
  max := Max.max
  le left right := left ≤ right
  lt left right := left < right

def candidateOf (candidateId sourceOcs : String) : Candidate ℚ where
  candidateId
  sourceOcs
  content := "open"
  epistemicGrade := .hypothesis
  confidence := 1
  uncertainty := 0
  salience := 1
  novelty := 0
  risk := 0
  evidenceRefs := []
  ttlCycles := 1

def freshEngine : Engine ℚ String String where
  runtime := .init 0
  ocsId := "ocs-a"
  maxCycles := 8
  maxCandidatesPerCycle := 4
  executedEffectIds := []
  memory := ⟨"ocs-a", fun _ => ∅⟩

/-- A candidate of the engine and then one of another. -/
def mixedRequest : CycleRequest ℚ String where
  missionId := "mission-1"
  candidates := [candidateOf "c1" "ocs-a", candidateOf "c2" "ocs-b"]
  expected := ⟨∅, ∅, ∅, none, []⟩
  observe := .ok ⟨∅, ∅, ∅, none, none⟩
  generation := 0
  actionEffectId := none
  action := none
  commitContext := none
  provenanceRef := "test"

/-- The first candidate stays in the workspace of the cycle that is refused. -/
theorem mixedRequest_leaves_candidate : ¬ Traceless exactFloats freshEngine mixedRequest := by
  intro h
  have hvalid : ∀ candidate ∈ mixedRequest.candidates,
      candidate.validate exactFloats = .ok () :=
    List.forall_mem_cons.mpr ⟨rfl, List.forall_mem_cons.mpr ⟨rfl, List.forall_mem_nil _⟩⟩
  have hadmitted : Admitted exactFloats freshEngine mixedRequest :=
    ⟨List.cons_ne_nil _ _, hvalid, rfl, by decide, by decide⟩
  obtain ⟨error, hrun⟩ := runCycle_of_foreign hadmitted
    ⟨candidateOf "c2" "ocs-b", by simp [mixedRequest], rfl⟩
  have hsame := (h _ error hrun).candidates "c1"
  rw [lookup_ingested] at hsame
  have hlast : lastOf (mixedRequest.candidates.takeWhile freshEngine.owns) "c1" =
      some (candidateOf "c1" "ocs-a") := rfl
  rw [hlast] at hsame
  cases hsame

end ReisOs.CognitivePhysiology
