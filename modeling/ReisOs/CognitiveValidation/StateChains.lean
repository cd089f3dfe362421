import ReisOs.CognitiveValidation.InstitutionalState

/-!
# Chains of snapshots

A commit puts its snapshot in place whatever the current one is by then.  The snapshots of
a mission form a chain as long as no commit follows a snapshot that is no longer the
current one.
-/

namespace ReisOs.CognitiveValidation

open ReisOs.Core

variable {K V : Type} {digest : DigestPayload V → Except String String}
  {pool : UpdatePool K V}

/-! ## The chain of a mission -/

/-- The commits of a mission, in their order. -/
def history (missionId : String) (committed : List (CommittedUpdate V)) :
    List (CommittedUpdate V) :=
  committed.filter fun update => update.snapshot.missionId = missionId

structure StateChain (committed : List (CommittedUpdate V)) : Prop where
  versions : ∀ missionId index update, (history missionId committed)[index]? = some update →
    update.snapshot.stateVersion = index + 1
  genesis : ∀ missionId update, (history missionId committed)[0]? = some update →
    update.snapshot.previousStateHash = "GENESIS"
  linked : ∀ missionId index update next,
    (history missionId committed)[index]? = some update →
    (history missionId committed)[index + 1]? = some next →
    next.snapshot.previousStateHash = update.snapshot.stateHash
  carried : ∀ missionId (first last : ℕ) (update later : CommittedUpdate V) key value,
    first ≤ last →
    (history missionId committed)[first]? = some update →
    (history missionId committed)[last]? = some later →
    update.delta.lookup key = some value →
    (∀ (index : ℕ) (between : CommittedUpdate V), first < index → index ≤ last →
      (history missionId committed)[index]? = some between →
        between.delta.lookup key = none) →
    later.snapshot.state.lookup key = some value
  receipts : (committed.map (·.governedExecutionReceipt)).Nodup

/-- The commit, if it goes through, follows the current snapshot of its mission. -/
def FollowsCurrent (digest : DigestPayload V → Except String String) (pool : UpdatePool K V) :
    UpdateStep K V → Prop
  | .commit call => ∀ request evidenceReceipt previous,
      pool.calls call = some (.prepared request evidenceReceipt previous) →
      pool.store.hasConsumed request.observation.governedExecutionReceipt = false →
      (request.snapshot digest evidenceReceipt previous).isOk →
      pool.store.current request.observation.missionId = previous
  | _ => True

/-! ## Snapshots -/

/-- The snapshot is made from the one before it and the delta. -/
structure MadeFrom (update : CommittedUpdate V) : Prop where
  hash : update.snapshot.previousStateHash = previousHash update.previous
  version : update.snapshot.stateVersion = nextVersion update.previous
  state : update.snapshot.state = mergeState update.previous update.delta

theorem find_entries_eq_dlookup (entries : List (Sigma fun _ : String => V)) (key : String) :
    ((entries.map fun entry => (entry.1, entry.2)).find? fun field => field.1 = key).map
      Prod.snd = entries.dlookup key := by
  induction entries with
  | nil => rfl
  | cons entry entries ih =>
    rcases entry with ⟨name, value⟩
    rw [List.map_cons, List.find?_cons]
    by_cases hkey : name = key
    · subst hkey
      rw [List.dlookup_cons_eq]
      simp
    · rw [List.dlookup_cons_ne entries ⟨name, value⟩ (Ne.symm hkey), ← ih]
      simp [hkey]

theorem mergeState_lookup (previous : Option (InstitutionalStateSnapshot V))
    (delta : Dict String V) (key : String) :
    (mergeState previous delta).lookup key =
      (delta.lookup key).or
        (((previous.map InstitutionalStateSnapshot.state).getD ∅).lookup key) := by
  rw [mergeState, Dict.lookup_insertAll, find_entries_eq_dlookup]
  rfl

theorem snapshot_eq_ok {request : UpdateRequest V} {evidenceReceipt : String}
    {previous : Option (InstitutionalStateSnapshot V)}
    {snapshot : InstitutionalStateSnapshot V}
    (h : request.snapshot digest evidenceReceipt previous = .ok snapshot)
    (receipt : String) :
    snapshot.missionId = request.observation.missionId ∧
      MadeFrom ⟨previous, snapshot, request.stateDelta, receipt⟩ := by
  rw [UpdateRequest.snapshot] at h
  cases hdigest : digest (.state request.observation.missionId (previousHash previous)
      evidenceReceipt (nextVersion previous) (mergeState previous request.stateDelta)) with
  | error error =>
    rw [hdigest] at h
    cases h
  | ok stateHash =>
    rw [hdigest] at h
    cases h
    exact ⟨rfl, ⟨rfl, rfl, rfl⟩⟩

/-! ## Pools in order -/

/-- The snapshot that some commits of a mission lead to. -/
def currentOf (updates : List (CommittedUpdate V)) : Option (InstitutionalStateSnapshot V) :=
  reached none (fun update => some update.snapshot) updates

def Chained (updates : List (CommittedUpdate V)) : Prop :=
  Linked none CommittedUpdate.previous (fun update => some update.snapshot) updates

structure InOrder (pool : UpdatePool K V) : Prop where
  stored : ∀ missionId,
    pool.store.current missionId = currentOf (history missionId pool.committed)
  chained : ∀ missionId, Chained (history missionId pool.committed)
  follows : ∀ update ∈ pool.committed, MadeFrom update
  consumed : pool.store.consumedExecutionReceipts =
    pool.committed.map (·.governedExecutionReceipt)
  receipts : (pool.committed.map (·.governedExecutionReceipt)).Nodup
  read : ∀ call request evidenceReceipt previous,
    pool.calls call = some (.prepared request evidenceReceipt previous) →
    ∃ index ≤ (history request.observation.missionId pool.committed).length,
      previous = currentOf ((history request.observation.missionId pool.committed).take index)

theorem empty_inOrder : InOrder (UpdatePool.empty : UpdatePool K V) where
  stored := fun _ => rfl
  chained := fun _ => linked_nil
  follows := fun _ h => by cases h
  consumed := rfl
  receipts := List.nodup_nil
  read := fun _ _ _ _ h => by cases h

theorem mem_of_history {missionId : String} {committed : List (CommittedUpdate V)}
    {index : ℕ} {update : CommittedUpdate V}
    (h : (history missionId committed)[index]? = some update) : update ∈ committed :=
  (List.mem_filter.mp (List.mem_of_getElem? h)).1

theorem history_append_same (committed : List (CommittedUpdate V))
    (update : CommittedUpdate V) :
    history update.snapshot.missionId (committed ++ [update]) =
      history update.snapshot.missionId committed ++ [update] := by
  simp [history]

theorem history_append_other {committed : List (CommittedUpdate V)}
    {update : CommittedUpdate V} {missionId : String}
    (h : update.snapshot.missionId ≠ missionId) :
    history missionId (committed ++ [update]) = history missionId committed := by
  simp [history, h]

section Chain

variable {updates : List (CommittedUpdate V)}

theorem version_of_chained (hchained : Chained updates)
    (hfollows : ∀ update ∈ updates, MadeFrom update) {index : ℕ} {update : CommittedUpdate V}
    (hupdate : updates[index]? = some update) : update.snapshot.stateVersion = index + 1 := by
  induction index generalizing update with
  | zero =>
    rw [(hfollows update (List.mem_of_getElem? hupdate)).version, hchained.first hupdate]
    rfl
  | succ index ih =>
    have hindex : index < updates.length :=
      Nat.lt_of_succ_lt (List.getElem?_eq_some_iff.mp hupdate).1
    have hbefore : updates[index]? = some updates[index] := List.getElem?_eq_getElem hindex
    rw [(hfollows update (List.mem_of_getElem? hupdate)).version,
      hchained.next hbefore hupdate]
    exact congrArg (· + 1) (ih hbefore)

theorem nextVersion_of_chained (hchained : Chained updates)
    (hfollows : ∀ update ∈ updates, MadeFrom update) {index : ℕ}
    (hindex : index ≤ updates.length) : nextVersion (currentOf (updates.take index)) = index + 1 := by
  cases index with
  | zero =>
    rw [List.take_zero]
    rfl
  | succ index =>
    have hupdate : updates[index]? = some updates[index] := List.getElem?_eq_getElem hindex
    rw [currentOf, reached_take_succ hupdate]
    exact congrArg (· + 1) (version_of_chained hchained hfollows hupdate)

theorem carried_of_chained (hchained : Chained updates)
    (hfollows : ∀ update ∈ updates, MadeFrom update) {first last : ℕ}
    {update later : CommittedUpdate V} {key : String} {value : V} (hle : first ≤ last)
    (hupdate : updates[first]? = some update) (hlater : updates[last]? = some later)
    (hvalue : update.delta.lookup key = some value)
    (hbetween : ∀ index between, first < index → index ≤ last →
      updates[index]? = some between → between.delta.lookup key = none) :
    later.snapshot.state.lookup key = some value := by
  induction last, hle using Nat.le_induction generalizing later with
  | base =>
    rw [hupdate] at hlater
    cases hlater
    rw [(hfollows update (List.mem_of_getElem? hupdate)).state, mergeState_lookup, hvalue]
    rfl
  | succ last hle ih =>
    have hindex : last < updates.length :=
      Nat.lt_of_succ_lt (List.getElem?_eq_some_iff.mp hlater).1
    have hbefore : updates[last]? = some updates[last] := List.getElem?_eq_getElem hindex
    have hnone := hbetween (last + 1) later (Nat.lt_succ_of_le hle) le_rfl hlater
    rw [(hfollows later (List.mem_of_getElem? hlater)).state, mergeState_lookup, hnone,
      hchained.next hbefore hlater]
    exact ih hbefore fun index between hfirst hlast =>
      hbetween index between hfirst (Nat.le_succ_of_le hlast)

end Chain

theorem InOrder.stateChain (h : InOrder pool) : StateChain pool.committed := by
  have hfollows (missionId : String) :
      ∀ update ∈ history missionId pool.committed, MadeFrom update :=
    fun update hmem => h.follows update (List.mem_filter.mp hmem).1
  exact
    { versions := fun missionId _ _ => version_of_chained (h.chained missionId)
        (hfollows missionId)
      genesis := by
        intro missionId update hupdate
        rw [(h.follows update (mem_of_history hupdate)).hash,
          (h.chained missionId).first hupdate]
        rfl
      linked := by
        intro missionId index update next hupdate hnext
        rw [(h.follows next (mem_of_history hnext)).hash,
          (h.chained missionId).next hupdate hnext]
        rfl
      carried := fun missionId _ _ _ _ _ _ => carried_of_chained (h.chained missionId)
        (hfollows missionId)
      receipts := h.receipts }

/-! ## Steps -/

section Steps

variable [DecidableEq K]

/-- The pool after a commit that goes through. -/
def UpdatePool.committing (pool : UpdatePool K V) (call : K) (update : CommittedUpdate V) :
    UpdatePool K V where
  store :=
    { state := pool.store.state.insert update.snapshot.missionId update.snapshot
      consumedExecutionReceipts :=
        pool.store.consumedExecutionReceipts ++ [update.governedExecutionReceipt] }
  calls := Function.update pool.calls call none
  committed := pool.committed ++ [update]

theorem commit_eq_committing {call : K} {request : UpdateRequest V}
    {evidenceReceipt : String} {previous : Option (InstitutionalStateSnapshot V)}
    {snapshot : InstitutionalStateSnapshot V}
    (hcall : pool.calls call = some (.prepared request evidenceReceipt previous))
    (hsnapshot : request.snapshot digest evidenceReceipt previous = .ok snapshot)
    (hconsumed :
      pool.store.hasConsumed request.observation.governedExecutionReceipt = false) :
    pool.exec digest (.commit call) =
      (pool.committing call ⟨previous, snapshot, request.stateDelta,
        request.observation.governedExecutionReceipt⟩, none) := by
  rw [UpdatePool.exec, hcall]
  dsimp only
  rw [hsnapshot]
  dsimp only
  rw [InstitutionalStateStore.commit, if_neg (by rw [hconsumed]; exact Bool.false_ne_true)]
  rfl

/-- The commit step does nothing, or ends the call with an error, or commits. -/
theorem commit_cases (digest : DigestPayload V → Except String String)
    (pool : UpdatePool K V) (call : K) :
    pool.exec digest (.commit call) = (pool, none) ∨
      (∃ error, pool.exec digest (.commit call) = (pool.ended call, some error)) ∨
      ∃ request evidenceReceipt previous snapshot,
        pool.calls call = some (.prepared request evidenceReceipt previous) ∧
          request.snapshot digest evidenceReceipt previous = .ok snapshot ∧
          pool.store.hasConsumed request.observation.governedExecutionReceipt = false ∧
          pool.exec digest (.commit call) =
            (pool.committing call ⟨previous, snapshot, request.stateDelta,
              request.observation.governedExecutionReceipt⟩, none) := by
  cases hcall : pool.calls call with
  | none => exact Or.inl (by rw [UpdatePool.exec, hcall])
  | some phase =>
    cases phase with
    | qualified request evidenceReceipt => exact Or.inl (by rw [UpdatePool.exec, hcall])
    | prepared request evidenceReceipt previous =>
      right
      cases hsnapshot : request.snapshot digest evidenceReceipt previous with
      | error error =>
        left
        refine ⟨error, ?_⟩
        rw [UpdatePool.exec, hcall]
        dsimp only
        rw [hsnapshot]
      | ok snapshot =>
        cases hconsumed :
            pool.store.hasConsumed request.observation.governedExecutionReceipt with
        | true =>
          left
          refine ⟨"evidence_execution_receipt_replay", ?_⟩
          rw [UpdatePool.exec, hcall]
          dsimp only
          rw [hsnapshot]
          dsimp only
          rw [InstitutionalStateStore.commit, if_pos hconsumed]
        | false =>
          right
          exact ⟨request, evidenceReceipt, previous, snapshot, rfl, hsnapshot,
            hconsumed, commit_eq_committing hcall hsnapshot hconsumed⟩

variable {input : UpdateStep K V}

theorem commit_of_store_ne
    (h : (pool.step digest input).store ≠ pool.store) :
    ∃ call, input = .commit call ∧ (pool.exec digest input).2 = none := by
  rw [UpdatePool.step] at h
  cases input with
  | qualify call request =>
    apply absurd _ h
    rw [UpdatePool.exec]
    split
    · rfl
    · split <;> rfl
  | current call =>
    apply absurd _ h
    rw [UpdatePool.exec]
    split <;> rfl
  | commit call =>
    refine ⟨call, rfl, ?_⟩
    rcases commit_cases digest pool call with heq | ⟨_, heq⟩ | ⟨_, _, _, _, _, _, _, heq⟩
    · rw [heq]
    · rw [heq] at h
      exact absurd rfl h
    · rw [heq]

theorem InOrder.moved (h : InOrder pool) (call : K) {phase : Option (UpdatePhase V)}
    (hphase : ∀ request evidenceReceipt previous,
      phase = some (.prepared request evidenceReceipt previous) →
      previous = pool.store.current request.observation.missionId) :
    InOrder { pool with calls := Function.update pool.calls call phase } where
  stored := h.stored
  chained := h.chained
  follows := h.follows
  consumed := h.consumed
  receipts := h.receipts
  read := by
    intro other request evidenceReceipt previous hother
    dsimp only at hother
    by_cases hsame : other = call
    · rw [hsame, Function.update_self] at hother
      refine ⟨_, le_rfl, ?_⟩
      rw [List.take_length, hphase request evidenceReceipt previous hother, h.stored]
    · rw [Function.update_of_ne hsame] at hother
      exact h.read other request evidenceReceipt previous hother

theorem InOrder.ended (h : InOrder pool) (call : K) : InOrder (pool.ended call) :=
  h.moved call fun _ _ _ hphase => by cases hphase

/-- A commit of a new receipt that follows the current snapshot. -/
theorem InOrder.committing (h : InOrder pool) (call : K) {update : CommittedUpdate V}
    (hfollows : MadeFrom update)
    (hnew : update.governedExecutionReceipt ∉
      pool.committed.map (·.governedExecutionReceipt))
    (hcurrent : pool.store.current update.snapshot.missionId = update.previous) :
    InOrder (pool.committing call update) where
  stored := by
    intro missionId
    change (pool.store.state.insert update.snapshot.missionId update.snapshot).lookup
      missionId = currentOf (history missionId (pool.committed ++ [update]))
    rw [Dict.lookup_insert_eq]
    by_cases hmission : missionId = update.snapshot.missionId
    · rw [if_pos hmission, hmission, history_append_same, currentOf,
        reached_append_singleton]
    · rw [if_neg hmission, history_append_other (Ne.symm hmission)]
      exact h.stored missionId
  chained := by
    intro missionId
    change Chained (history missionId (pool.committed ++ [update]))
    by_cases hmission : missionId = update.snapshot.missionId
    · rw [hmission, history_append_same]
      rw [h.stored] at hcurrent
      exact linked_append_singleton_iff.mpr ⟨h.chained _, hcurrent.symm⟩
    · rw [history_append_other (Ne.symm hmission)]
      exact h.chained missionId
  follows := by
    intro other hmem
    rcases List.mem_append.mp hmem with hmem | hmem
    · exact h.follows other hmem
    · rw [List.mem_singleton.mp hmem]
      exact hfollows
  consumed := by
    change pool.store.consumedExecutionReceipts ++ [update.governedExecutionReceipt] =
      (pool.committed ++ [update]).map (·.governedExecutionReceipt)
    rw [List.map_append, h.consumed]
    rfl
  receipts := by
    change ((pool.committed ++ [update]).map (·.governedExecutionReceipt)).Nodup
    rw [List.map_append, List.map_singleton, List.nodup_append]
    refine ⟨h.receipts, List.nodup_singleton _, ?_⟩
    intro receipt hreceipt other hother hsame
    rw [List.mem_singleton] at hother
    rw [hsame, hother] at hreceipt
    exact hnew hreceipt
  read := by
    intro other request evidenceReceipt previous hother
    change Function.update pool.calls call none other = _ at hother
    change ∃ index ≤ (history _ (pool.committed ++ [update])).length,
      previous = currentOf ((history _ (pool.committed ++ [update])).take index)
    by_cases hsame : other = call
    · rw [hsame, Function.update_self] at hother
      cases hother
    · rw [Function.update_of_ne hsame] at hother
      rcases h.read other request evidenceReceipt previous hother with ⟨index, hindex, hseen⟩
      by_cases hmission : update.snapshot.missionId = request.observation.missionId
      · rw [← hmission] at hindex hseen ⊢
        rw [history_append_same]
        refine ⟨index, hindex.trans (by simp), ?_⟩
        rw [List.take_append_of_le_length hindex]
        exact hseen
      · rw [history_append_other hmission]
        exact ⟨index, hindex, hseen⟩

theorem InOrder.step (h : InOrder pool)
    (hinput : FollowsCurrent digest pool input) : InOrder (pool.step digest input) := by
  rw [UpdatePool.step]
  cases input with
  | qualify call request =>
    rw [UpdatePool.exec]
    split
    · exact h
    · split
      · exact h
      · exact h.moved call fun _ _ _ hphase => by cases hphase
  | current call =>
    rw [UpdatePool.exec]
    split
    · apply h.moved call
      intro request evidenceReceipt previous hphase
      cases hphase
      rfl
    · exact h
  | commit call =>
    rcases commit_cases digest pool call with heq | ⟨error, heq⟩ |
      ⟨request, evidenceReceipt, previous, snapshot, hcall, hsnapshot, hconsumed, heq⟩
    · rw [heq]
      exact h
    · rw [heq]
      exact h.ended call
    · have hbuilt := snapshot_eq_ok hsnapshot request.observation.governedExecutionReceipt
      have hcurrent := hinput request evidenceReceipt previous hcall hconsumed
        (by rw [hsnapshot]; rfl)
      rw [heq]
      apply h.committing call hbuilt.2
      · rw [← h.consumed]
        exact of_decide_eq_false hconsumed
      · dsimp only
        rw [hbuilt.1, hcurrent]

/-- A commit that leaves chains of snapshots has followed the current one. -/
theorem InOrder.followsCurrent (h : InOrder pool)
    (hafter : StateChain (pool.step digest input).committed) :
    FollowsCurrent digest pool input := by
  cases input with
  | qualify call request => trivial
  | current call => trivial
  | commit call =>
    intro request evidenceReceipt previous hcall hconsumed hok
    cases hsnapshot : request.snapshot digest evidenceReceipt previous with
    | error error =>
      rw [hsnapshot] at hok
      cases hok
    | ok snapshot =>
      rw [UpdatePool.step, commit_eq_committing hcall hsnapshot hconsumed] at hafter
      have hbuilt := snapshot_eq_ok hsnapshot request.observation.governedExecutionReceipt
      rcases h.read call request evidenceReceipt previous hcall with
        ⟨index, hindex, hseen⟩
      rw [← hbuilt.1] at hindex hseen ⊢
      have hversion := hafter.versions snapshot.missionId
        (history snapshot.missionId pool.committed).length
        ⟨previous, snapshot, request.stateDelta,
          request.observation.governedExecutionReceipt⟩ (by
            change (history snapshot.missionId (pool.committed ++ [_]))[_]? = _
            rw [history_append_same pool.committed ⟨previous, snapshot, _, _⟩]
            exact List.getElem?_concat_length)
      have hmade : ∀ update ∈ history snapshot.missionId pool.committed,
          MadeFrom update :=
        fun update hmem => h.follows update (List.mem_filter.mp hmem).1
      have hnext := nextVersion_of_chained (h.chained snapshot.missionId) hmade hindex
      have hlast : index = (history snapshot.missionId pool.committed).length := by
        rw [hbuilt.2.version] at hversion
        dsimp only at hversion
        rw [hseen, hnext] at hversion
        exact Nat.succ.inj hversion
      rw [hseen, hlast, List.take_length, h.stored]

end Steps

/-! ## Runs -/

section Runs

variable [DecidableEq K]

/-- The snapshots of every mission form a chain at all times, and only commits change the
store, just if every commit that goes through follows the snapshot that is current. -/
theorem snapshots_chained_iff (digest : DigestPayload V → Except String String)
    (steps : List (UpdateStep K V)) :
    ((∀ before, before <+: steps →
        StateChain (run (UpdatePool.step digest) UpdatePool.empty before).committed) ∧
      ∀ (pool : UpdatePool K V) (input : UpdateStep K V),
        (pool.step digest input).store ≠ pool.store →
          ∃ call, input = .commit call ∧ (pool.exec digest input).2 = none) ↔
      Admissible (UpdatePool.step digest) (FollowsCurrent digest) UpdatePool.empty steps := by
  have hruns : (∀ before, before <+: steps →
      StateChain (run (UpdatePool.step digest) UpdatePool.empty before).committed) ↔
        Admissible (UpdatePool.step digest) (FollowsCurrent digest) UpdatePool.empty steps :=
    always_iff_admissible InOrder (fun pool => StateChain pool.committed)
    (fun _ _ hpool hinput => hpool.step hinput) (fun _ hpool => hpool.stateChain)
    (fun _ _ hpool hafter => hpool.followsCurrent hafter)
    (empty_inOrder : InOrder (UpdatePool.empty : UpdatePool K V)) steps
  constructor
  · intro h
    exact hruns.mp h.1
  · intro h
    exact ⟨hruns.mpr h, fun _ _ => commit_of_store_ne⟩

end Runs

/-! ## Two updates of one mission -/

def sampleDigest : DigestPayload ℕ → Except String String
  | .observation _ => .ok "observation"
  | .evidence _ adapterReceipt _ => .ok ("evidence of " ++ adapterReceipt)
  | .state _ _ evidenceReceipt _ _ => .ok ("state after " ++ evidenceReceipt)

def sampleRequest (receipt key : String) : UpdateRequest ℕ where
  execution := ⟨"m1", "c1", "o1", "SUCCESS", "adapter " ++ receipt, receipt⟩
  observation := ⟨"m1", "c1", "o1", receipt, "SUCCESS", AList.singleton "effect" 1⟩
  stateDelta := AList.singleton key 1

/-- Both calls read before either commits. -/
def overlappingSteps : List (UpdateStep Bool ℕ) :=
  [.qualify false (sampleRequest "r1" "a"), .qualify true (sampleRequest "r2" "b"),
    .current false, .current true, .commit false, .commit true]

theorem overlapping_updates_unchained :
    ¬ ((∀ before, before <+: overlappingSteps →
        StateChain (run (UpdatePool.step sampleDigest) UpdatePool.empty before).committed) ∧
      ∀ (pool : UpdatePool Bool ℕ) (input : UpdateStep Bool ℕ),
        (pool.step sampleDigest input).store ≠ pool.store →
          ∃ call, input = .commit call ∧ (pool.exec sampleDigest input).2 = none) := by
  intro h
  have hchain := h.1 overlappingSteps List.prefix_rfl
  have hversions : ((history "m1" (run (UpdatePool.step sampleDigest) UpdatePool.empty
      overlappingSteps).committed)[1]?).map (·.snapshot.stateVersion) = some 1 := by
    decide +kernel
  rw [Option.map_eq_some_iff] at hversions
  rcases hversions with ⟨update, hupdate, hversion⟩
  have hsecond := hchain.versions "m1" 1 update hupdate
  rw [hversion] at hsecond
  cases hsecond

end ReisOs.CognitiveValidation
