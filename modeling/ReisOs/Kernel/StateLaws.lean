import ReisOs.Core.Fallible
import ReisOs.Kernel.StateTrace

/-!
# Laws of the state core

What `write` can do to the records, the current pointers and the database, once
for both storing halves; every invariant of a state core is derived from it.
-/

namespace ReisOs.Kernel

open ReisOs.Core

variable {P : Type}

namespace StateCore

variable {codec : StateCodec P} {core core' : StateCore P} {record persisted : StateRecord P}
  {check : ReadbackCheck P} {context : WriteContext}

/-- The database mentions the id, in a row's key or in its record. -/
def RowsMention (database : StateDatabase P) (stateId : String) : Prop :=
  ∃ row ∈ database, row.stateId = stateId ∨ row.recordJson.stateId = stateId

/-- The id is taken, in memory or in the database. -/
def Mentions (core : StateCore P) (stateId : String) : Prop :=
  (core.records.lookup stateId).isSome ∨
    ∃ database, core.persistence = some database ∧ RowsMention database stateId

instance (database : StateDatabase P) (stateId : String) :
    Decidable (RowsMention database stateId) :=
  inferInstanceAs (Decidable (∃ row ∈ database, _))

instance (core : StateCore P) (stateId : String) : Decidable (core.Mentions stateId) :=
  inferInstanceAs (Decidable
    ((core.records.lookup stateId).isSome ∨
      ∃ database, database ∈ core.persistence ∧ RowsMention database stateId))

variable {ocs : String}

theorem current_eq_ok_some_iff :
    core.current ocs = .ok (some record) ↔
      ∃ stateId, core.currentIds.lookup ocs = some stateId ∧
        core.records.lookup stateId = some record := by
  unfold current
  cases hid : core.currentIds.lookup ocs with
  | none => simp
  | some stateId =>
    cases hrecord : core.records.lookup stateId with
    | none => simp [hrecord]
    | some found => simp [hrecord]

theorem current_eq_ok_none_iff :
    core.current ocs = .ok none ↔ core.currentIds.lookup ocs = none := by
  unfold current
  cases hid : core.currentIds.lookup ocs with
  | none => simp
  | some stateId => cases hrecord : core.records.lookup stateId <;> simp [hrecord]

theorem current_congr
    (hid : core'.currentIds.lookup ocs = core.currentIds.lookup ocs)
    (hrecord : ∀ stateId, core.currentIds.lookup ocs = some stateId →
      core'.records.lookup stateId = core.records.lookup stateId) :
    core'.current ocs = core.current ocs := by
  unfold current
  rw [hid]
  cases hpointer : core.currentIds.lookup ocs with
  | none => rfl
  | some stateId =>
    dsimp only
    rw [hrecord stateId hpointer]

theorem checkWrite_succession (h : core.checkWrite codec record context = .ok ()) :
    ∃ current, core.current record.ocs = .ok current ∧
      checkSuccession current record = none := by
  unfold checkWrite at h
  split at h
  · cases h
  · split at h
    · cases h
    · rename_i current hcurrent
      split at h
      · cases h
      · rename_i hsuccession
        exact ⟨current, hcurrent, hsuccession⟩

theorem checkSuccession_none (h : checkSuccession none record = none) :
    record.predecessor = none ∧ record.version = 1 := by
  unfold checkSuccession at h
  dsimp only at h
  split at h
  · cases h
  · split at h
    · cases h
    · rename_i hpredecessor hversion
      exact ⟨not_not.mp hpredecessor, not_not.mp hversion⟩

theorem checkSuccession_some {current : StateRecord P}
    (h : checkSuccession (some current) record = none) :
    record.predecessor = some current.stateId ∧
      record.version = current.version + 1 := by
  unfold checkSuccession at h
  dsimp only at h
  split at h
  · cases h
  · split at h
    · cases h
    · rename_i hpredecessor hversion
      exact ⟨not_not.mp hpredecessor, not_not.mp hversion⟩

/-- Everything a `write` of `record` with a readback check can do. -/
inductive WriteMove (core : StateCore P) (record : StateRecord P)
    (check : ReadbackCheck P) :
    StateCore P → Except PyError (StateRecord P) → Prop where
  /-- Nothing was stored. -/
  | refused (error : PyError) : WriteMove core record check core (.error error)
  /-- The record was stored and the call failed: it was taken back, under its id, or
  left there because the check itself raised. -/
  | failed {core' : StateCore P} (error : PyError)
      (hrecords : ∀ other ≠ record.stateId,
        core'.records.lookup other = core.records.lookup other)
      (hcurrent : core'.currentIds = core.currentIds)
      (hmentions : ∀ stateId, core'.Mentions stateId →
        core.Mentions stateId ∨
          (stateId = record.stateId ∧ ∃ raised, check record = .error raised)) :
      WriteMove core record check core' (.error error)
  | installed {core' : StateCore P} {persisted : StateRecord P}
      (hrecords : ∀ other, core'.records.lookup other =
        if other = record.stateId then some persisted else core.records.lookup other)
      (hcurrent : ∀ ocs, core'.currentIds.lookup ocs =
        if ocs = record.ocs then some record.stateId else core.currentIds.lookup ocs)
      (hmentions : ∀ stateId, core'.Mentions stateId →
        core.Mentions stateId ∨ stateId = record.stateId)
      (hid : persisted.stateId = record.stateId) (hocs : persisted.ocs = record.ocs)
      (hversion : persisted.version = record.version)
      (hpredecessor : persisted.predecessor = record.predecessor) :
      WriteMove core record check core' (.ok persisted)

variable {stateId : String}

theorem Mentions.of_records (core : StateCore P)
    (h : core'.Mentions stateId) (hport : core'.persistence = core.persistence)
    (hrecord : (core'.records.lookup stateId).isSome →
      (core.records.lookup stateId).isSome) : core.Mentions stateId := by
  rcases h with hmemory | hrow
  · exact .inl (hrecord hmemory)
  · rw [hport] at hrow
    exact .inr hrow

theorem mentions_of_insert (core : StateCore P) {record : StateRecord P}
    (h : core'.Mentions stateId) (hport : core'.persistence = core.persistence)
    (hrecords : ∀ other, core'.records.lookup other =
      if other = record.stateId then some persisted else core.records.lookup other) :
    core.Mentions stateId ∨ stateId = record.stateId := by
  by_cases hid : stateId = record.stateId
  · exact .inr hid
  · refine .inl (h.of_records core hport fun hsome => ?_)
    rwa [hrecords, if_neg hid] at hsome

theorem storeInMemory_move (core : StateCore P) (record : StateRecord P)
    (check : ReadbackCheck P) :
    WriteMove core record check (core.storeInMemory record check).1
      (core.storeInMemory record check).2 := by
  unfold storeInMemory
  dsimp only
  split
  · rename_i error hraised
    refine .failed _ ?_ rfl ?_
    · intro other hother
      simp [hother]
    · intro stateId hmentions
      have h := mentions_of_insert core hmentions rfl fun _ => Dict.lookup_insert_eq ..
      exact h.imp_right fun hid => ⟨hid, error, hraised⟩
  · refine .failed _ ?_ rfl ?_
    · intro other hother
      simp [hother]
    · intro stateId hmentions
      refine .inl (hmentions.of_records core rfl fun hsome => ?_)
      rw [Dict.lookup_erase_eq] at hsome
      split at hsome
      · cases hsome
      · rename_i hother
        rwa [Dict.lookup_insert_eq, if_neg hother] at hsome
  · have hrecords : ∀ other,
        ((core.records.insert record.stateId record).insert record.stateId record).lookup
            other = if other = record.stateId then some record
          else core.records.lookup other := by
      intro other
      simp only [Dict.lookup_insert_eq]
      split <;> rfl
    exact .installed hrecords (fun _ => Dict.lookup_insert_eq ..)
      (fun _ h => mentions_of_insert core h rfl hrecords) rfl rfl rfl rfl

theorem checkPersisted_ok (h : checkPersisted codec record persisted check = .ok ()) :
    persisted.stateId = record.stateId ∧ persisted.ocs = record.ocs ∧
      persisted.version = record.version ∧
      persisted.predecessor = record.predecessor := by
  unfold checkPersisted at h
  split at h
  · cases h
  · rename_i hsame
    simp only [not_or, not_not] at hsame
    exact ⟨hsame.1, hsame.2.1, hsame.2.2.1, hsame.2.2.2.1⟩

variable {database : StateDatabase P}

theorem rowsMention_of_write {written : StateDatabase P}
    (hwrite : database.write codec record = .ok written)
    (h : RowsMention written stateId) :
    RowsMention database stateId ∨ stateId = record.stateId := by
  unfold StateDatabase.write at hwrite
  split at hwrite
  · cases hwrite
  · split at hwrite
    · cases hwrite
    · cases hwrite
      obtain ⟨row, hrow, hid⟩ := h
      rcases List.mem_append.mp hrow with hold | hnew
      · exact .inl ⟨row, hold, hid⟩
      · rw [List.mem_singleton.mp hnew] at hid
        exact .inr (hid.elim Eq.symm Eq.symm)

theorem rowsMention_of_delete {written : StateDatabase P}
    (hwrite : database.write codec record = .ok written)
    (h : RowsMention (written.delete record.stateId) stateId) :
    RowsMention database stateId := by
  unfold StateDatabase.write at hwrite
  split at hwrite
  · cases hwrite
  · split at hwrite
    · cases hwrite
    · cases hwrite
      obtain ⟨row, hrow, hid⟩ := h
      obtain ⟨hrow, hkept⟩ := List.mem_filter.mp hrow
      rcases List.mem_append.mp hrow with hold | hnew
      · exact ⟨row, hold, hid⟩
      · rw [List.mem_singleton.mp hnew] at hkept
        simp at hkept

theorem storeDurably_move
    (hport : core.persistence = some database) (record : StateRecord P)
    (check : ReadbackCheck P) :
    WriteMove core record check (core.storeDurably codec database record check).1
      (core.storeDurably codec database record check).2 := by
  unfold storeDurably
  split
  · exact .refused _
  · rename_i written hwritten
    have hdeleted (stateId : String)
        (h : Mentions { core with
          persistence := some (written.delete record.stateId) } stateId) :
        core.Mentions stateId := by
      rcases h with hmemory | ⟨_, hsome, hrow⟩
      · exact .inl hmemory
      · cases hsome
        exact .inr ⟨database, hport, rowsMention_of_delete hwritten hrow⟩
    dsimp only
    split
    · exact .failed _ (fun _ _ => rfl) rfl fun stateId h => .inl (hdeleted stateId h)
    · rename_i persisted hread
      split
      · exact .failed _ (fun _ _ => rfl) rfl fun stateId h => .inl (hdeleted stateId h)
      · rename_i hpersisted
        obtain ⟨hid, hocs, hversion, hpredecessor⟩ := checkPersisted_ok hpersisted
        refine .installed (fun _ => Dict.lookup_insert_eq ..)
          (fun _ => Dict.lookup_insert_eq ..) ?_ hid hocs hversion hpredecessor
        intro stateId hmentions
        rcases hmentions with hmemory | ⟨_, hsome, hrow⟩
        · by_cases hnew : stateId = record.stateId
          · exact .inr hnew
          · refine .inl (.inl ?_)
            simpa [install, hnew] using hmemory
        · cases hsome
          rcases rowsMention_of_write hwritten hrow with hold | hnew
          · exact .inl (.inr ⟨database, hport, hold⟩)
          · exact .inr hnew

theorem write_move (codec : StateCodec P) (core : StateCore P) (record : StateRecord P)
    (check : ReadbackCheck P) (context : WriteContext) :
    WriteMove core record check (core.write codec record check context).1
        (core.write codec record check context).2 ∧
      (core.checkWrite codec record context = .ok () ∨
        (core.write codec record check context).1 = core ∧
          ∃ error, (core.write codec record check context).2 = .error error) := by
  unfold write
  split
  · exact ⟨.refused _, .inr ⟨rfl, _, rfl⟩⟩
  · rename_i hcheck
    refine ⟨?_, .inl hcheck⟩
    split
    · exact storeInMemory_move ..
    · rename_i hport
      exact storeDurably_move hport ..

theorem WriteMove.current_eq {answer : Except PyError (StateRecord P)}
    (hmove : WriteMove core record check core' answer)
    (hocs : ocs ≠ record.ocs) (hid : core.currentIds.lookup ocs ≠ some record.stateId) :
    core'.current ocs = core.current ocs := by
  have hother (stateId : String) (hpointer : core.currentIds.lookup ocs = some stateId) :
      stateId ≠ record.stateId := by
    intro hsame
    rw [hpointer, hsame] at hid
    exact hid rfl
  cases hmove with
  | refused error => rfl
  | failed error hrecords hcurrent =>
    apply current_congr
    · rw [hcurrent]
    · intro stateId hpointer
      exact hrecords stateId (hother stateId hpointer)
  | installed hrecords hcurrent =>
    apply current_congr
    · rw [hcurrent, if_neg hocs]
    · intro stateId hpointer
      rw [hrecords, if_neg (hother stateId hpointer)]

/-! ## Reload -/

theorem readFresh_ok
    (h : database.readFresh codec stateId = .ok persisted) :
    ∃ row, database.find? (·.stateId = stateId) = some row ∧
      codec.recordHash row.recordJson = some row.recordHash ∧
      row.recordJson = persisted := by
  unfold StateDatabase.readFresh at h
  split at h
  · cases h
  · rename_i row hrow
    split at h
    · cases h
    · rename_i digest hdigest
      split at h
      · cases h
      · rename_i hsame
        cases h
        exact ⟨row, hrow, hdigest.trans (congrArg some (not_not.mp hsame)), rfl⟩

theorem readFresh_row
    (h : database.readFresh codec stateId = .ok record) :
    ∃ row ∈ database, row.recordJson = record := by
  obtain ⟨row, hfound, -, hrecord⟩ := readFresh_ok h
  exact ⟨row, List.mem_of_find?_eq_some hfound, hrecord⟩

theorem reloadRecord_ok (h : core.reloadRecord record = .ok core') :
    core'.persistence = core.persistence ∧
      ∀ stateId, core'.records.lookup stateId =
        if stateId = record.stateId then some record
        else core.records.lookup stateId := by
  unfold reloadRecord at h
  dsimp only at h
  split at h
  · cases h
  · split at h
    · cases h
    · split at h
      · cases h
      · cases h
        exact ⟨rfl, fun _ => Dict.lookup_insert_eq ..⟩

/-- A reloaded core knows no ids but those of the database. -/
theorem reload_mentions
    (h : reload codec database = .ok core) :
    core.persistence = some database ∧
      ∀ stateId, core.Mentions stateId → RowsMention database stateId := by
  unfold reload at h
  split at h
  · cases h
  · rename_i records hrecords
    have hrow (record : StateRecord P) (hrecord : record ∈ records) :
        RowsMention database record.stateId := by
      obtain ⟨_, -, hread⟩ := mem_of_mapM_eq_ok hrecords hrecord
      obtain ⟨row, hmem, rfl⟩ := readFresh_row hread
      exact ⟨row, hmem, .inr rfl⟩
    have hloaded := foldlM_invariant
      (fun core : StateCore P => core.persistence = some database ∧
        ∀ stateId, (core.records.lookup stateId).isSome → RowsMention database stateId)
      (fun before record after hrecord hround ⟨hport, hbefore⟩ => by
        obtain ⟨hsame, hlookup⟩ := reloadRecord_ok hround
        refine ⟨hsame.trans hport, fun stateId hsome => ?_⟩
        rw [hlookup] at hsome
        split at hsome
        · rename_i hid
          exact hid ▸ hrow record hrecord
        · exact hbefore stateId hsome)
      ⟨rfl, by simp⟩ h
    refine ⟨hloaded.1, fun stateId hmentions => ?_⟩
    rcases hmentions with hmemory | ⟨found, hport, hrows⟩
    · exact hloaded.2 stateId hmemory
    · rw [hloaded.1, Option.some.injEq] at hport
      exact hport ▸ hrows

end StateCore

end ReisOs.Kernel
