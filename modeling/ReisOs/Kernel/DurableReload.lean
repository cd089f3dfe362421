import Mathlib.Data.String.Basic
import ReisOs.Core.Journals
import ReisOs.Kernel.StateChain

/-!
# Reloading a durable state core

A state core over a SQLite port keeps its records twice, in memory and as rows.
Writes and restores, failing ones included, keep both equal, and a new core over the
same rows loads what the live one holds.
-/

namespace ReisOs.Kernel

open ReisOs.Core StateDatabase

variable {P : Type} {codec : StateCodec P}

/-! ## Rows -/

namespace StateRow

/-- The columns of the row repeat its record, and its digest is the record's. -/
structure Intact (codec : StateCodec P) (row : StateRow P) : Prop where
  stateId : row.recordJson.stateId = row.stateId
  ocs : row.recordJson.ocs = row.ocs
  version : row.recordJson.version = row.version
  predecessor : row.recordJson.predecessor = row.predecessor
  digest : codec.recordHash row.recordJson = some row.recordHash

/-- The genesis or successor rule, between the rows of an OCS. -/
def Succeeds (previous : Option (StateRow P)) (row : StateRow P) : Prop :=
  row.predecessor = previous.map (·.stateId) ∧
    row.version = previous.elim 1 (·.version + 1)

/-- The row that the port writes for a record. -/
def ofRecord (codec : StateCodec P) (record : StateRecord P) (digest : String) :
    StateRow P :=
  { stateId := record.stateId
    ocs := record.ocs
    version := record.version
    predecessor := record.predecessor
    recordJson := { record with payload := codec.roundTrip record.payload }
    recordHash := digest }

theorem succeeds_of_checkSuccession {previous : Option (StateRow P)}
    {record : StateRecord P} {row : StateRow P}
    (hprevious : ∀ before ∈ previous, before.Intact codec)
    (hversion : row.version = record.version)
    (hpredecessor : row.predecessor = record.predecessor)
    (h : StateCore.checkSuccession (previous.map (·.recordJson)) record = none) :
    Succeeds previous row := by
  cases previous with
  | none =>
    obtain ⟨hnone, hone⟩ := StateCore.checkSuccession_none h
    exact ⟨hpredecessor.trans hnone, hversion.trans hone⟩
  | some before =>
    have hintact := hprevious before rfl
    obtain ⟨hlink, hnext⟩ := StateCore.checkSuccession_some h
    rw [hintact.stateId] at hlink
    rw [hintact.version] at hnext
    exact ⟨hpredecessor.trans hlink, hversion.trans hnext⟩

theorem Intact.checkSuccession {previous : Option (StateRow P)} {row : StateRow P}
    (hprevious : ∀ before ∈ previous, before.Intact codec) (hrow : row.Intact codec)
    (h : Succeeds previous row) :
    StateCore.checkSuccession (previous.map (·.recordJson)) row.recordJson = none := by
  obtain ⟨hlink, hnext⟩ := h
  cases previous with
  | none =>
    simp [StateCore.checkSuccession, hrow.predecessor, hrow.version, hlink, hnext]
  | some before =>
    have hintact := hprevious before rfl
    simp [StateCore.checkSuccession, hrow.predecessor, hrow.version, hlink, hnext,
      hintact.stateId, hintact.version]

end StateRow

/-! ## Databases -/

namespace StateDatabase

/-- What the port's own writes keep true of the table. -/
structure Sound (codec : StateCodec P) (database : StateDatabase P) : Prop where
  intact : ∀ row ∈ database, row.Intact codec
  keys : (database.map (·.stateId)).Nodup
  chains : GroupChained StateRow.Succeeds (·.ocs) database

instance : Std.Total (rowOrder (P := P)) where
  total left right := by
    rcases lt_trichotomy left.ocs right.ocs with hlt | heq | hgt
    · exact .inl (.inl hlt)
    · exact (Nat.le_total left.version right.version).imp
        (fun hle => .inr ⟨heq, hle⟩) (fun hle => .inr ⟨heq.symm, hle⟩)
    · exact .inr (.inl hgt)

instance : IsTrans (StateRow P) rowOrder where
  trans := by
    intro left middle right hfirst hsecond
    rcases hfirst with hlt | ⟨heq, hle⟩
    · rcases hsecond with hlt' | ⟨heq', -⟩
      · exact .inl (hlt.trans hlt')
      · exact .inl (heq' ▸ hlt)
    · rcases hsecond with hlt' | ⟨heq', hle'⟩
      · exact .inl (heq ▸ hlt')
      · exact .inr ⟨heq.trans heq', hle.trans hle'⟩

variable {database : StateDatabase P}

theorem write_ok {written : StateDatabase P} {record : StateRecord P}
    (h : database.write codec record = .ok written) :
    ∃ digest, codec.recordHash record = some digest ∧
      written = database ++ [.ofRecord codec record digest] ∧
      ∀ row ∈ database, row.stateId ≠ record.stateId := by
  unfold write at h
  split at h
  · cases h
  · rename_i digest hdigest
    split at h
    · cases h
    · rename_i hfree
      cases h
      refine ⟨digest, hdigest, rfl, fun row hrow hsame => hfree ?_⟩
      exact List.any_eq_true.mpr ⟨row, hrow, by simp [hsame]⟩

theorem Sound.versions (h : database.Sound codec)
    (ocs : String) :
    (database.filter (·.ocs = ocs)).Pairwise
      (fun left right => left.version < right.version) :=
  (h.chains ocs).pairwise_lt StateRow.version fun _ _ hsucceeds => hsucceeds.2

/-- `ORDER BY` brings each OCS's rows back in the order of writing. -/
theorem Sound.filter_sorted (h : database.Sound codec)
    (ocs : String) :
    (database.insertionSort rowOrder).filter (·.ocs = ocs) =
      database.filter (·.ocs = ocs) := by
  have hversions := h.versions ocs
  apply filter_insertionSort_eq
  · apply hversions.imp_of_mem
    intro left right hleft hright hlt
    have hsame : left.ocs = right.ocs := by
      have hleft := (List.mem_filter.mp hleft).2
      have hright := (List.mem_filter.mp hright).2
      simp only [decide_eq_true_eq] at hleft hright
      rw [hleft, hright]
    exact .inr ⟨hsame, hlt.le⟩
  · intro left hleft right hright hkeptleft hkeptright hle hge
    simp only [decide_eq_true_eq] at hkeptleft hkeptright
    have hmemleft : left ∈ database.filter (·.ocs = ocs) :=
      List.mem_filter.mpr ⟨hleft, decide_eq_true hkeptleft⟩
    have hmemright : right ∈ database.filter (·.ocs = ocs) :=
      List.mem_filter.mpr ⟨hright, decide_eq_true hkeptright⟩
    have hsame : left.ocs = right.ocs := hkeptleft.trans hkeptright.symm
    have hversion : left.version = right.version := by
      rcases hle with hlt | ⟨-, hle⟩
      · exact absurd hsame hlt.ne
      · rcases hge with hlt | ⟨-, hge⟩
        · exact absurd hsame hlt.ne'
        · exact le_antisymm hle hge
    have hdistinct : ((database.filter (·.ocs = ocs)).map StateRow.version).Nodup :=
      List.pairwise_map.mpr (hversions.imp fun hlt => hlt.ne)
    exact List.inj_on_of_nodup_map hdistinct hmemleft hmemright hversion

/-- A row that extends a sound table. -/
structure Extends (codec : StateCodec P) (database : StateDatabase P) (row : StateRow P) :
    Prop where
  intact : row.Intact codec
  fresh : ∀ before ∈ database, before.stateId ≠ row.stateId
  succeeds : row.Succeeds (database.filter (·.ocs = row.ocs)).getLast?

theorem Sound.append (h : database.Sound codec)
    {row : StateRow P} (hrow : Extends codec database row) :
    StateDatabase.Sound codec (database ++ [row]) where
  intact := by
    intro found hfound
    rcases List.mem_append.mp hfound with hold | hnew
    · exact h.intact found hold
    · rw [List.mem_singleton.mp hnew]
      exact hrow.intact
  keys := by
    rw [List.map_append, List.nodup_append]
    refine ⟨h.keys, by simp, ?_⟩
    intro left hleft right hright
    obtain ⟨before, hbefore, rfl⟩ := List.mem_map.mp hleft
    rw [List.mem_singleton.mp hright]
    exact hrow.fresh before hbefore
  chains := groupChained_concat h.chains hrow.succeeds

theorem Sound.of_append {earlier later : StateDatabase P}
    (h : StateDatabase.Sound codec (earlier ++ later)) : earlier.Sound codec where
  intact row hrow := h.intact row (List.mem_append_left _ hrow)
  keys := by
    have hkeys := h.keys
    rw [List.map_append] at hkeys
    exact hkeys.of_append_left
  chains := h.chains.of_append

theorem Sound.extends {earlier later : StateDatabase P} {row : StateRow P}
    (h : StateDatabase.Sound codec (earlier ++ row :: later)) :
    Extends codec earlier row where
  intact := h.intact row (by simp)
  fresh := by
    intro before hbefore
    have hkeys := h.keys
    rw [List.map_append, List.nodup_append] at hkeys
    exact hkeys.2.2 _ (List.mem_map_of_mem hbefore) _ (by simp)
  succeeds := h.chains.succeeds

theorem Sound.sorted (h : database.Sound codec) :
    StateDatabase.Sound codec (database.insertionSort rowOrder) where
  intact row hrow := h.intact row ((List.perm_insertionSort ..).mem_iff.mp hrow)
  keys := ((List.perm_insertionSort rowOrder database).map _).nodup_iff.mpr h.keys
  chains ocs := by
    rw [h.filter_sorted]
    exact h.chains ocs

end StateDatabase

/-! ## Memory beside the rows -/

namespace StateCore

variable {core : StateCore P} {rows : StateDatabase P}

/-- The records and the current pointers are those of the rows. -/
structure Mirrors (core : StateCore P) (rows : StateDatabase P) : Prop where
  records : ∀ stateId, core.records.lookup stateId =
    (rows.find? (·.stateId = stateId)).map (·.recordJson)
  pointers : ∀ ocs, core.currentIds.lookup ocs =
    ((rows.filter (·.ocs = ocs)).getLast?).map (·.stateId)

theorem Mirrors.current (h : core.Mirrors rows) (hkeys : (rows.map (·.stateId)).Nodup)
    (ocs : String) :
    core.current ocs =
      .ok (((rows.filter (·.ocs = ocs)).getLast?).map (·.recordJson)) := by
  cases hlast : (rows.filter (·.ocs = ocs)).getLast? with
  | none =>
    apply current_eq_ok_none_iff.mpr
    rw [h.pointers, hlast]
    rfl
  | some row =>
    have hmem : row ∈ rows := List.mem_of_mem_filter (List.mem_of_getLast? hlast)
    have hfound := (find?_key_eq_some_iff hkeys).mpr ⟨hmem, rfl⟩
    apply current_eq_ok_some_iff.mpr
    refine ⟨row.stateId, ?_, ?_⟩
    · rw [h.pointers, hlast]
      rfl
    · rw [h.records, hfound]
      rfl

variable {record : StateRecord P} {row : StateRow P}

theorem Mirrors.install (h : core.Mirrors rows) (hid : record.stateId = row.stateId) (hocs : record.ocs = row.ocs)
    (hfresh : ∀ before ∈ rows, before.stateId ≠ row.stateId) :
    (core.install record row.recordJson).Mirrors (rows ++ [row]) where
  records := by
    intro stateId
    rw [find?_key_concat hfresh, StateCore.install, Dict.lookup_insert_eq, hid]
    split
    · rfl
    · exact h.records stateId
  pointers := by
    intro ocs
    rw [StateCore.install, Dict.lookup_insert_eq, hid, hocs, List.filter_append]
    split
    · rename_i hsame
      simp [hsame]
    · rename_i hother
      simpa [Ne.symm hother] using h.pointers ocs

theorem Mirrors.reorder (h : core.Mirrors rows) {other : StateDatabase P}
    (hkeys : (rows.map (·.stateId)).Nodup) (hperm : rows.Perm other)
    (hgroups : ∀ ocs, rows.filter (·.ocs = ocs) = other.filter (·.ocs = ocs)) :
    core.Mirrors other where
  records stateId := by rw [h.records, find?_key_perm hkeys hperm]
  pointers ocs := by rw [h.pointers, hgroups]

/-- The two stores of a durable core agree. -/
structure Backed (codec : StateCodec P) (core : StateCore P) (rows : StateDatabase P) :
    Prop where
  port : core.persistence = some rows
  sound : rows.Sound codec
  memory : core.Mirrors rows

/-! ## Writing -/

theorem Backed.install (h : Backed codec core rows) (hid : record.stateId = row.stateId) (hocs : record.ocs = row.ocs)
    (hrow : rows.Extends codec row) :
    Backed codec ({ core with persistence := some (rows ++ [row]) }.install record
      row.recordJson) (rows ++ [row]) where
  port := rfl
  sound := h.sound.append hrow
  memory := by
    have hmirrors : StateCore.Mirrors { core with persistence := some (rows ++ [row]) } rows :=
      ⟨h.memory.records, h.memory.pointers⟩
    exact hmirrors.install hid hocs hrow.fresh

theorem delete_concat
    (hfresh : ∀ before ∈ rows, before.stateId ≠ row.stateId) :
    delete (rows ++ [row]) row.stateId = rows := by
  have hkept : rows.filter (·.stateId ≠ row.stateId) = rows :=
    List.filter_eq_self.mpr fun before hbefore => by simpa using hfresh before hbefore
  rw [delete, List.filter_append, hkept]
  simp

theorem extends_of_write {digest : String}
    (h : rows.Sound codec) (hfresh : ∀ before ∈ rows, before.stateId ≠ record.stateId)
    (hdigest : codec.recordHash (StateRow.ofRecord codec record digest).recordJson =
      some digest)
    (hsuccession : checkSuccession
      (((rows.filter (·.ocs = record.ocs)).getLast?).map (·.recordJson)) record = none) :
    rows.Extends codec (.ofRecord codec record digest) where
  intact := ⟨rfl, rfl, rfl, rfl, hdigest⟩
  fresh := hfresh
  succeeds := by
    have hprevious (before : StateRow P)
        (hbefore : before ∈ (rows.filter (·.ocs = record.ocs)).getLast?) :
        before.Intact codec :=
      h.intact before (List.mem_of_mem_filter (List.mem_of_getLast? hbefore))
    exact StateRow.succeeds_of_checkSuccession hprevious rfl rfl hsuccession

theorem Backed.storeDurably (h : Backed codec core rows)
    {check : ReadbackCheck P}
    (hsuccession : checkSuccession
      (((rows.filter (·.ocs = record.ocs)).getLast?).map (·.recordJson)) record = none) :
    ∃ after, Backed codec (core.storeDurably codec rows record check).1 after := by
  unfold StateCore.storeDurably
  split
  · exact ⟨rows, h⟩
  · rename_i written hwritten
    obtain ⟨digest, -, rfl, hfresh⟩ := write_ok hwritten
    have hdeleted : delete (rows ++ [.ofRecord codec record digest])
        record.stateId = rows := delete_concat hfresh
    have hrejected : Backed codec { core with
        persistence := some (delete
          (rows ++ [.ofRecord codec record digest]) record.stateId) } rows :=
      ⟨congrArg some hdeleted, h.sound, h.memory.records, h.memory.pointers⟩
    dsimp only
    split
    · exact ⟨rows, hrejected⟩
    · rename_i persisted hread
      split
      · exact ⟨rows, hrejected⟩
      · obtain ⟨row, hfound, hdigest, rfl⟩ := readFresh_ok hread
        have hwas := (find?_key_concat hfresh record.stateId).symm.trans hfound
        obtain rfl := Option.some.inj ((if_pos rfl).symm.trans hwas)
        exact ⟨_, h.install rfl rfl (extends_of_write h.sound hfresh hdigest hsuccession)⟩

theorem Backed.write (h : Backed codec core rows) (record : StateRecord P)
    (check : ReadbackCheck P) (context : WriteContext) :
    ∃ after, Backed codec (core.write codec record check context).1 after := by
  unfold StateCore.write
  split
  · exact ⟨rows, h⟩
  · rename_i hcheck
    obtain ⟨current, hcurrent, hsuccession⟩ := checkWrite_succession hcheck
    have hmirrored := h.memory.current h.sound.keys record.ocs
    rw [hcurrent, Except.ok.injEq] at hmirrored
    rw [h.port]
    exact h.storeDurably (hmirrored ▸ hsuccession)

theorem Backed.restoreVerified [DecidableEq P] (h : Backed codec core rows)
    (checkpoint : VerifiedCheckpoint P) :
    ∃ after, Backed codec (core.restoreVerified codec checkpoint).1 after := by
  unfold StateCore.restoreVerified
  split
  · exact ⟨rows, h⟩
  · exact h.write ..

/-! ## Reloading -/

theorem Mirrors.reloadRecord (h : core.Mirrors rows) (hsound : rows.Sound codec) (hrow : rows.Extends codec row) :
    core.reloadRecord row.recordJson =
      .ok (core.install row.recordJson row.recordJson) := by
  have hunknown : core.records.lookup row.recordJson.stateId = none := by
    have hmissing : rows.find? (·.stateId = row.stateId) = none := by
      simpa using hrow.fresh
    rw [hrow.intact.stateId, h.records, hmissing]
    rfl
  have hcurrent := h.current hsound.keys row.recordJson.ocs
  have hlast (before : StateRow P)
      (hbefore : before ∈ (rows.filter (·.ocs = row.ocs)).getLast?) :
      before.Intact codec :=
    hsound.intact before (List.mem_of_mem_filter (List.mem_of_getLast? hbefore))
  have hsuccession := StateRow.Intact.checkSuccession hlast hrow.intact hrow.succeeds
  rw [← hrow.intact.ocs] at hsuccession
  unfold StateCore.reloadRecord
  rw [hunknown, hcurrent]
  simp only [hsuccession]
  rfl

theorem loadAll_eq (h : rows.Sound codec) :
    rows.loadAll codec =
      .ok ((rows.insertionSort rowOrder).map (·.recordJson)) := by
  apply mapM_eq_ok_map
  intro row hrow
  have hmem : row ∈ rows := (List.perm_insertionSort _ _).mem_iff.mp hrow
  have hfound := (find?_key_eq_some_iff h.keys).mpr ⟨hmem, rfl⟩
  simp [readFresh, hfound, (h.intact row hmem).digest]

theorem reload_backed (h : rows.Sound codec) :
    ∃ loaded, reload codec rows = .ok loaded ∧ Backed codec loaded rows := by
  have hsorted := h.sorted
  have hloop : ∃ loaded, (rows.insertionSort rowOrder).foldlM
      (fun (core : StateCore P) row => core.reloadRecord row.recordJson)
        ⟨∅, ∅, some rows⟩ = .ok loaded ∧
      loaded.persistence = some rows ∧
      loaded.Mirrors (rows.insertionSort rowOrder) := by
    apply foldlM_ok_of_rounds fun done (core : StateCore P) =>
      core.persistence = some rows ∧ core.Mirrors done
    · rintro earlier row later core hsplit ⟨hport, hmirrors⟩
      rw [hsplit] at hsorted
      have hextends := hsorted.extends
      have hround := hmirrors.reloadRecord hsorted.of_append hextends
      exact ⟨_, hround, hport, hmirrors.install hextends.intact.stateId
        hextends.intact.ocs hextends.fresh⟩
    · exact ⟨rfl, fun _ => rfl, fun _ => rfl⟩
  obtain ⟨loaded, hloaded, hport, hmirrors⟩ := hloop
  refine ⟨loaded, ?_, hport, h, ?_⟩
  · rw [reload, loadAll_eq h]
    simpa [List.foldlM_map] using hloaded
  · apply hmirrors.reorder hsorted.keys (List.perm_insertionSort ..)
    exact h.filter_sorted

end StateCore

/-! ## Runs -/

/-- What happens to a durable state core: calls, and reopening the database. -/
inductive DurableOp (P : Type) where
  | call (op : StateOp P)
  | reopen

namespace StateCore

/-- The core after the operation, whether or not a call raised. -/
def perform [DecidableEq P] (codec : StateCodec P) (core : StateCore P) :
    DurableOp P → StateCore P
  | .call (.write record check context) => (core.write codec record check context).1
  | .call (.restore checkpoint) => (core.restoreVerified codec checkpoint).1
  | .reopen =>
    match core.persistence with
    | none => core
    | some database =>
      match reload codec database with
      | .error _ => core
      | .ok loaded => loaded

/-- A state core constructed over an empty database. -/
def overEmptyDatabase : StateCore P := ⟨∅, ∅, some []⟩

/-- The records and the current record of every OCS are the same. -/
structure SameStates (left right : StateCore P) : Prop where
  records : ∀ stateId, left.get stateId = right.get stateId
  current : ∀ ocs, left.current ocs = right.current ocs

theorem overEmptyDatabase_backed : Backed codec overEmptyDatabase [] where
  port := rfl
  sound := ⟨by simp, by simp, fun _ => chained_nil _⟩
  memory := ⟨fun _ => rfl, fun _ => rfl⟩

theorem Backed.sameStates {left right : StateCore P} (hleft : Backed codec left rows)
    (hright : Backed codec right rows) : left.SameStates right where
  records stateId := by
    rw [StateCore.get, StateCore.get, hleft.memory.records, hright.memory.records]
  current ocs := by
    rw [hleft.memory.current hleft.sound.keys, hright.memory.current hright.sound.keys]

theorem Backed.perform [DecidableEq P] (h : Backed codec core rows) (op : DurableOp P) :
    ∃ after, Backed codec (core.perform codec op) after := by
  cases op with
  | call op =>
    cases op with
    | write record check context => exact h.write record check context
    | restore checkpoint => exact h.restoreVerified checkpoint
  | reopen =>
    obtain ⟨loaded, hreload, hbacked⟩ := reload_backed h.sound
    simp only [StateCore.perform, h.port, hreload]
    exact ⟨rows, hbacked⟩

/-- After any writes, restores and reopenings over a database that began empty, a new
core over the database loads without error and holds what the live core holds. -/
theorem reload_sameStates [DecidableEq P] (codec : StateCodec P)
    (ops : List (DurableOp P)) :
    ∃ database loaded,
      (run (perform codec) overEmptyDatabase ops).persistence = some database ∧
      reload codec database = .ok loaded ∧
      loaded.SameStates (run (perform codec) overEmptyDatabase ops) := by
  have hbacked := run_invariant (fun core => ∃ rows, Backed codec core rows)
    (fun _ op ⟨_, hbefore⟩ => hbefore.perform op) ⟨_, overEmptyDatabase_backed⟩ ops
  obtain ⟨rows, hlive⟩ := hbacked
  obtain ⟨loaded, hreload, hloaded⟩ := reload_backed hlive.sound
  exact ⟨rows, loaded, hlive.port, hreload, hloaded.sameStates hlive⟩

end StateCore

end ReisOs.Kernel
