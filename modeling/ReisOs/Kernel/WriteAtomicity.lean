import ReisOs.Kernel.StateLaws

/-!
# What a failed state write leaves behind

`StateCore.write` again, with every answer its collaborators can give: the readback
check and the port raise what they like, and a write or a delete of the port may
raise after it took effect.  When nothing of this happens it is the `write` of the
state core; what a raising call leaves behind is decided here exactly.
-/

namespace ReisOs.Kernel

open ReisOs.Core

variable {P : Type}

/-- What a callback or a port call raises.  `except Exception` catches the first kind
and lets the second one pass. -/
inductive Raised where
  | exception (error : PyError)
  | baseException (name : String)
  deriving DecidableEq, Repr

/-- A `readback_check` that raises anything. -/
abbrev ReadbackAnswer (P : Type) := StateRecord P → Except Raised Bool

/-- A check that raises ordinary exceptions only. -/
def ReadbackCheck.answer (check : ReadbackCheck P) : ReadbackAnswer P :=
  fun record => (check record).mapError .exception

/-- How a writing call of the port ends: as asked, raising with nothing done, or
raising although it took effect. -/
inductive PortFate where
  | done
  | failed (raised : Raised)
  | unacknowledged (raised : Raised)
  deriving DecidableEq, Repr

/-- How the three port calls of one `write` end. -/
structure PortFates where
  write : PortFate
  readFresh : Option Raised
  delete : PortFate
  deriving DecidableEq, Repr

/-- A port that fails only as its rows make it. -/
def PortFates.settled : PortFates := ⟨.done, none, .done⟩

namespace StateCore

/-- Over a database with these rows. -/
def withRows (core : StateCore P) (database : StateDatabase P) : StateCore P :=
  { core with persistence := some database }

@[simp] theorem withRows_persistence (core : StateCore P) (database : StateDatabase P) :
    (core.withRows database).persistence = some database := rfl

/-- `read_fresh`, the comparison and the readback check, inside the `try`. -/
def readback (codec : StateCodec P) (database : StateDatabase P)
    (record : StateRecord P) (check : ReadbackAnswer P) (readFresh : Option Raised) :
    Except Raised (StateRecord P) :=
  match readFresh with
  | some raised => .error raised
  | none =>
    match database.readFresh codec record.stateId with
    | .error error => .error (.exception error)
    | .ok persisted =>
      if persisted.stateId ≠ record.stateId ∨ persisted.ocs ≠ record.ocs ∨
          persisted.version ≠ record.version ∨
          persisted.predecessor ≠ record.predecessor ∨
          codec.recordHash persisted ≠ codec.recordHash record then
        .error (.exception (.runtimeError "state_readback_failed"))
      else
        match check persisted with
        | .error raised => .error raised
        | .ok false => .error (.exception (.runtimeError "state_readback_failed"))
        | .ok true => .ok persisted

/-- `self._persistence.delete(record.state_id); raise`. -/
def compensate (core : StateCore P) (written : StateDatabase P) (stateId : String)
    (fate : PortFate) (error : PyError) :
    StateCore P × Except Raised (StateRecord P) :=
  match fate with
  | .done => (core.withRows (written.delete stateId), .error (.exception error))
  | .failed raised => (core.withRows written, .error raised)
  | .unacknowledged raised => (core.withRows (written.delete stateId), .error raised)

/-- The storing half of `write` with a port whose calls end as told. -/
def storeUnder (codec : StateCodec P) (core : StateCore P) (database : StateDatabase P)
    (record : StateRecord P) (check : ReadbackAnswer P) (fates : PortFates) :
    StateCore P × Except Raised (StateRecord P) :=
  match database.write codec record with
  | .error error => (core, .error (.exception error))
  | .ok written =>
    match fates.write with
    | .failed raised => (core, .error raised)
    | .unacknowledged raised => (core.withRows written, .error raised)
    | .done =>
      match readback codec written record check fates.readFresh with
      | .ok persisted => ((core.withRows written).install record persisted, .ok persisted)
      | .error (.baseException name) =>
        (core.withRows written, .error (.baseException name))
      | .error (.exception error) =>
        core.compensate written record.stateId fates.delete error

/-- The storing half of `write` without a port. -/
def keepUnder (core : StateCore P) (record : StateRecord P) (check : ReadbackAnswer P) :
    StateCore P × Except Raised (StateRecord P) :=
  let stored := { core with records := core.records.insert record.stateId record }
  match check record with
  | .error raised => (stored, .error raised)
  | .ok false =>
    ({ stored with records := stored.records.erase record.stateId },
      .error (.exception (.runtimeError "state_readback_failed")))
  | .ok true => (stored.install record record, .ok record)

/-- `write`, with the answers of the check and of the port. -/
def writeUnder (codec : StateCodec P) (core : StateCore P) (record : StateRecord P)
    (check : ReadbackAnswer P) (context : WriteContext) (fates : PortFates) :
    StateCore P × Except Raised (StateRecord P) :=
  match core.checkWrite codec record context with
  | .error error => (core, .error (.exception error))
  | .ok () =>
    match core.persistence with
    | none => core.keepUnder record check
    | some database => core.storeUnder codec database record check fates

/-! ## Without port failures this is `write` -/

theorem readback_settled (codec : StateCodec P) (database : StateDatabase P)
    (record : StateRecord P) (check : ReadbackCheck P) :
    readback codec database record check.answer none =
      (match database.readFresh codec record.stateId with
        | .error error => .error (.exception error)
        | .ok persisted =>
          match checkPersisted codec record persisted check with
          | .error error => .error (.exception error)
          | .ok () => .ok persisted) := by
  unfold readback checkPersisted ReadbackCheck.answer
  dsimp only
  cases database.readFresh codec record.stateId with
  | error error => rfl
  | ok persisted =>
    dsimp only
    split
    · rfl
    · cases check persisted with
      | error error => rfl
      | ok verdict => cases verdict <;> rfl

theorem keepUnder_answer (core : StateCore P) (record : StateRecord P)
    (check : ReadbackCheck P) :
    core.keepUnder record check.answer =
      ((core.storeInMemory record check).1,
        (core.storeInMemory record check).2.mapError .exception) := by
  unfold keepUnder storeInMemory ReadbackCheck.answer
  cases check record with
  | error error => rfl
  | ok verdict => cases verdict <;> rfl

theorem storeUnder_settled (codec : StateCodec P) (core : StateCore P)
    (database : StateDatabase P) (record : StateRecord P) (check : ReadbackCheck P) :
    core.storeUnder codec database record check.answer .settled =
      ((core.storeDurably codec database record check).1,
        (core.storeDurably codec database record check).2.mapError .exception) := by
  unfold storeUnder storeDurably PortFates.settled
  cases database.write codec record with
  | error error => rfl
  | ok written =>
    dsimp only
    rw [readback_settled]
    cases written.readFresh codec record.stateId with
    | error error => rfl
    | ok persisted =>
      dsimp only
      cases checkPersisted codec record persisted check with
      | error error => rfl
      | ok done => rfl

/-- With a settled port and a check that raises exceptions only, `writeUnder` is the
`write` of the state core. -/
theorem writeUnder_settled (codec : StateCodec P) (core : StateCore P)
    (record : StateRecord P) (check : ReadbackCheck P) (context : WriteContext) :
    core.writeUnder codec record check.answer context .settled =
      ((core.write codec record check context).1,
        (core.write codec record check context).2.mapError .exception) := by
  unfold writeUnder write
  cases core.checkWrite codec record context with
  | error error => rfl
  | ok done =>
    dsimp only
    cases core.persistence with
    | none => exact core.keepUnder_answer record check
    | some database => exact core.storeUnder_settled codec database record check

/-! ## What a raising write leaves behind -/

/-- The records, the current record of every OCS and the rows are as before. -/
structure Unchanged (before after : StateCore P) : Prop where
  records : ∀ stateId, after.records.lookup stateId = before.records.lookup stateId
  current : ∀ ocs, after.current ocs = before.current ocs
  rows : after.persistence = before.persistence

theorem Unchanged.refl (core : StateCore P) : Unchanged core core :=
  ⟨fun _ => rfl, fun _ => rfl, rfl⟩

theorem Unchanged.of_records {before after : StateCore P}
    (hrecords : ∀ stateId, after.records.lookup stateId = before.records.lookup stateId)
    (hids : after.currentIds = before.currentIds)
    (hrows : after.persistence = before.persistence) : Unchanged before after := by
  refine ⟨hrecords, fun ocs => ?_, hrows⟩
  apply current_congr
  · rw [hids]
  · intro stateId _
    exact hrecords stateId

/-- The record can go into the database: it is serialisable, and neither its id nor its
version is taken. -/
def Fits (codec : StateCodec P) (database : StateDatabase P) (record : StateRecord P) :
    Prop :=
  (codec.recordHash record).isSome ∧
    ∀ row ∈ database, row.stateId ≠ record.stateId ∧
      ¬ (row.ocs = record.ocs ∧ row.version = record.version)

/-- The record that its stored JSON text gives back. -/
def reloaded (codec : StateCodec P) (record : StateRecord P) : StateRecord P :=
  { record with payload := codec.roundTrip record.payload }

/-- Read again and compared, the record is the one that was written. -/
def Faithful (codec : StateCodec P) (record : StateRecord P) (fates : PortFates) : Prop :=
  fates.readFresh = none ∧ codec.recordHash (reloaded codec record) = codec.recordHash record

/-- Read again, the record passes. -/
def Accepted (codec : StateCodec P) (record : StateRecord P) (check : ReadbackAnswer P)
    (fates : PortFates) : Prop :=
  Faithful codec record fates ∧ check (reloaded codec record) = .ok true

/-- The read or the check raises past `except Exception`. -/
def Uncaught (codec : StateCodec P) (record : StateRecord P) (check : ReadbackAnswer P)
    (fates : PortFates) : Prop :=
  ∃ name, fates.readFresh = some (.baseException name) ∨
    Faithful codec record fates ∧
      check (reloaded codec record) = .error (.baseException name)

/-- When a raising `write` takes back what it stored.  Without a port: a rejected
record was not in the table before, and a check that raises was given a record that was
there already.  With a port: an inserted row is acknowledged, and unless the row is
accepted the failure is an ordinary exception and the row can be deleted. -/
def Undoable (codec : StateCodec P) (core : StateCore P) (record : StateRecord P)
    (check : ReadbackAnswer P) (context : WriteContext) (fates : PortFates) : Prop :=
  core.checkWrite codec record context = .ok () →
    match core.persistence with
    | none =>
      (check record = .ok false → core.records.lookup record.stateId = none) ∧
      ∀ raised, check record = .error raised →
        core.records.lookup record.stateId = some record
    | some database =>
      Fits codec database record →
        (∀ raised, fates.write ≠ .unacknowledged raised) ∧
        (fates.write = .done → Accepted codec record check fates ∨
          ¬ Uncaught codec record check fates ∧
            ∀ raised, fates.delete ≠ .failed raised)

theorem keepUnder_undone_iff (core : StateCore P) (record : StateRecord P)
    (check : ReadbackAnswer P) :
    (∀ raised, (core.keepUnder record check).2 = .error raised →
        Unchanged core (core.keepUnder record check).1) ↔
      (check record = .ok false → core.records.lookup record.stateId = none) ∧
      ∀ raised, check record = .error raised →
        core.records.lookup record.stateId = some record := by
  have herased (stateId : String) :
      ((core.records.insert record.stateId record).erase record.stateId).lookup stateId =
        if stateId = record.stateId then none else core.records.lookup stateId := by
    rw [Dict.lookup_erase_eq, Dict.lookup_insert_eq]
    split <;> rfl
  cases hcheck : check record with
  | error raised =>
    have hkept : core.keepUnder record check =
        ({ core with records := core.records.insert record.stateId record },
          .error raised) := by
      simp only [keepUnder, hcheck]
    rw [hkept]
    constructor
    · intro h
      have hsame := (h raised rfl).records record.stateId
      rw [Dict.lookup_insert_eq, if_pos rfl] at hsame
      constructor
      · intro hfalse
        cases hfalse
      · intro _ _
        exact hsame.symm
    · intro h _ _
      refine .of_records (fun stateId => ?_) rfl rfl
      rw [Dict.lookup_insert_eq]
      split
      · rename_i hid
        rw [hid, h.2 raised rfl]
      · rfl
  | ok verdict =>
    cases verdict with
    | true =>
      have hkept : (core.keepUnder record check).2 = .ok record := by
        simp only [keepUnder, hcheck]
      simp [hkept]
    | false =>
      have hkept : core.keepUnder record check =
          ({ core with
              records := (core.records.insert record.stateId record).erase
                record.stateId },
            .error (.exception (.runtimeError "state_readback_failed"))) := by
        simp only [keepUnder, hcheck]
      rw [hkept]
      constructor
      · intro h
        have hsame := (h _ rfl).records record.stateId
        rw [herased, if_pos rfl] at hsame
        constructor
        · intro _
          exact hsame.symm
        · intro _ hraised
          cases hraised
      · intro h _ _
        refine .of_records (fun stateId => ?_) rfl rfl
        rw [herased]
        split
        · rename_i hid
          rw [hid, h.1 rfl]
        · rfl

/-- The row that `write` inserts, under a digest. -/
def insertedRow (codec : StateCodec P) (record : StateRecord P) (digest : String) :
    StateRow P :=
  { stateId := record.stateId
    ocs := record.ocs
    version := record.version
    predecessor := record.predecessor
    recordJson := reloaded codec record
    recordHash := digest }

theorem write_of_fits {codec : StateCodec P} {database : StateDatabase P}
    {record : StateRecord P} (hfits : Fits codec database record) :
    ∃ digest, codec.recordHash record = some digest ∧
      database.write codec record = .ok (database ++ [insertedRow codec record digest]) := by
  obtain ⟨digest, hdigest⟩ := Option.isSome_iff_exists.mp hfits.1
  refine ⟨digest, hdigest, ?_⟩
  have hfree : (database.any fun row => row.stateId = record.stateId ||
      (row.ocs = record.ocs && row.version = record.version)) = false := by
    rw [List.any_eq_false]
    intro row hrow
    have hrow := hfits.2 row hrow
    simpa using ⟨hrow.1, fun hocs hversion => hrow.2 ⟨hocs, hversion⟩⟩
  unfold StateDatabase.write
  rw [hdigest]
  dsimp only
  rw [hfree]
  rfl

theorem write_of_not_fits {codec : StateCodec P} {database : StateDatabase P}
    {record : StateRecord P} (hfits : ¬ Fits codec database record) :
    ∃ error, database.write codec record = .error error := by
  unfold StateDatabase.write
  cases hdigest : codec.recordHash record with
  | none => exact ⟨_, rfl⟩
  | some digest =>
    dsimp only
    split
    · exact ⟨_, rfl⟩
    · rename_i hfree
      have hnone : Fits codec database record := by
        refine ⟨by rw [hdigest]; rfl, fun row hrow => ?_⟩
        have hfree := List.any_eq_false.mp (Bool.eq_false_iff.mpr hfree) row hrow
        simpa using hfree
      exact absurd hnone hfits

theorem delete_inserted {codec : StateCodec P} {database : StateDatabase P}
    {record : StateRecord P} (hfits : Fits codec database record) (digest : String) :
    StateDatabase.delete (database ++ [insertedRow codec record digest]) record.stateId =
      database := by
  have hkept : database.filter (fun row => row.stateId ≠ record.stateId) = database := by
    rw [List.filter_eq_self]
    intro row hrow
    simpa using (hfits.2 row hrow).1
  unfold StateDatabase.delete
  rw [List.filter_append, hkept]
  simp [insertedRow]

theorem find_inserted {codec : StateCodec P} {database : StateDatabase P}
    {record : StateRecord P} (hfits : Fits codec database record) (digest : String) :
    (database ++ [insertedRow codec record digest]).find? (·.stateId = record.stateId) =
      some (insertedRow codec record digest) := by
  have hnone : database.find? (·.stateId = record.stateId) = none := by
    rw [List.find?_eq_none]
    intro row hrow
    simpa using (hfits.2 row hrow).1
  rw [List.find?_append, hnone]
  simp [insertedRow]

section Inserted

variable {codec : StateCodec P} {database : StateDatabase P} {record : StateRecord P}
  {check : ReadbackAnswer P} {fates : PortFates} {digest : String}

/-- Read back faithfully, the record is left to the check. -/
theorem readback_faithful (hfits : Fits codec database record)
    (hdigest : codec.recordHash record = some digest)
    (hfaithful : Faithful codec record fates) :
    readback codec (database ++ [insertedRow codec record digest]) record check
        fates.readFresh =
      (match check (reloaded codec record) with
        | .error raised => .error raised
        | .ok false => .error (.exception (.runtimeError "state_readback_failed"))
        | .ok true => .ok (reloaded codec record)) := by
  have hread : StateDatabase.readFresh codec
      (database ++ [insertedRow codec record digest]) record.stateId =
        .ok (reloaded codec record) := by
    unfold StateDatabase.readFresh
    rw [find_inserted hfits digest]
    dsimp only
    have hhash : codec.recordHash (insertedRow codec record digest).recordJson =
        some digest := hfaithful.2.trans hdigest
    rw [hhash]
    dsimp only
    rw [if_neg (by simp [insertedRow])]
    rfl
  unfold readback
  rw [hfaithful.1]
  dsimp only
  rw [hread]
  dsimp only
  rw [if_neg (by simp [hfaithful.2]; simp [reloaded])]

/-- A read that fails, or gives another record back, raises what the port raised or an
ordinary exception. -/
theorem readback_unfaithful (hfits : Fits codec database record)
    (hdigest : codec.recordHash record = some digest)
    (hfaithful : ¬ Faithful codec record fates) :
    ∃ raised, readback codec (database ++ [insertedRow codec record digest]) record check
        fates.readFresh = .error raised ∧
      ∀ name, raised = .baseException name →
        fates.readFresh = some (.baseException name) := by
  unfold readback
  cases hread : fates.readFresh with
  | some raised =>
    refine ⟨raised, rfl, fun name hname => ?_⟩
    rw [hname]
  | none =>
    have hother : codec.recordHash (reloaded codec record) ≠ some digest := by
      intro hsame
      exact hfaithful ⟨hread, hsame.trans hdigest.symm⟩
    have hfailed : ∃ error, StateDatabase.readFresh codec
        (database ++ [insertedRow codec record digest]) record.stateId =
          .error error := by
      unfold StateDatabase.readFresh
      rw [find_inserted hfits digest]
      dsimp only
      cases hhash : codec.recordHash (insertedRow codec record digest).recordJson with
      | none => exact ⟨_, rfl⟩
      | some found =>
        have hfound : found ≠ (insertedRow codec record digest).recordHash := by
          intro hsame
          apply hother
          rw [← show found = digest from hsame]
          exact hhash
        dsimp only
        rw [if_pos hfound]
        exact ⟨_, rfl⟩
    obtain ⟨error, herror⟩ := hfailed
    dsimp only
    rw [herror]
    refine ⟨.exception error, rfl, fun name hname => ?_⟩
    cases hname

/-- The row read back is accepted, or the call raises, past the handler or into it. -/
theorem readback_cases (hfits : Fits codec database record)
    (hdigest : codec.recordHash record = some digest) :
    (Accepted codec record check fates ∧
      readback codec (database ++ [insertedRow codec record digest]) record check
        fates.readFresh = .ok (reloaded codec record)) ∨
    (¬ Accepted codec record check fates ∧ Uncaught codec record check fates ∧
      ∃ name, readback codec (database ++ [insertedRow codec record digest]) record check
        fates.readFresh = .error (.baseException name)) ∨
    (¬ Accepted codec record check fates ∧ ¬ Uncaught codec record check fates ∧
      ∃ error, readback codec (database ++ [insertedRow codec record digest]) record check
        fates.readFresh = .error (.exception error)) := by
  by_cases hfaithful : Faithful codec record fates
  · rw [readback_faithful hfits hdigest hfaithful]
    cases hcheck : check (reloaded codec record) with
    | error raised =>
      have hrejected : ¬ Accepted codec record check fates := by
        intro haccepted
        have := hcheck.symm.trans haccepted.2
        cases this
      cases raised with
      | baseException name =>
        exact .inr (.inl ⟨hrejected, ⟨name, .inr ⟨hfaithful, hcheck⟩⟩, name, rfl⟩)
      | exception error =>
        refine .inr (.inr ⟨hrejected, ?_, error, rfl⟩)
        rintro ⟨name, hread | ⟨-, hraised⟩⟩
        · rw [hfaithful.1] at hread
          cases hread
        · have := hcheck.symm.trans hraised
          cases this
    | ok verdict =>
      cases verdict with
      | true => exact .inl ⟨⟨hfaithful, hcheck⟩, rfl⟩
      | false =>
        refine .inr (.inr ⟨?_, ?_, _, rfl⟩)
        · intro haccepted
          have := hcheck.symm.trans haccepted.2
          cases this
        · rintro ⟨name, hread | ⟨-, hraised⟩⟩
          · rw [hfaithful.1] at hread
            cases hread
          · have := hcheck.symm.trans hraised
            cases this
  · obtain ⟨raised, hreadback, hbase⟩ :=
      @readback_unfaithful P codec database record check fates digest hfits hdigest
        hfaithful
    have hrejected : ¬ Accepted codec record check fates := fun h => hfaithful h.1
    rw [hreadback]
    cases raised with
    | baseException name =>
      exact .inr (.inl ⟨hrejected, ⟨name, .inl (hbase name rfl)⟩, name, rfl⟩)
    | exception error =>
      refine .inr (.inr ⟨hrejected, ?_, error, rfl⟩)
      rintro ⟨name, hread | ⟨h, -⟩⟩
      · unfold readback at hreadback
        rw [hread] at hreadback
        cases hreadback
      · exact hfaithful h

end Inserted

variable {core : StateCore P}

theorem not_unchanged_of_inserted {database : StateDatabase P}
    (hport : core.persistence = some database) (row : StateRow P) :
    ¬ Unchanged core (core.withRows (database ++ [row])) := by
  intro h
  have hrows : database ++ [row] = database := by
    have := h.rows
    rw [withRows_persistence, hport] at this
    exact Option.some.inj this
  have hlength := congrArg List.length hrows
  rw [List.length_append, List.length_singleton] at hlength
  omega

theorem withRows_self {database : StateDatabase P}
    (hport : core.persistence = some database) : core.withRows database = core := by
  unfold withRows
  rw [← hport]

theorem compensate_undone_iff {codec : StateCodec P}
    {database : StateDatabase P} {record : StateRecord P}
    (hport : core.persistence = some database) (hfits : Fits codec database record)
    (digest : String) (fate : PortFate) (error : PyError) :
    (∀ raised,
        (core.compensate (database ++ [insertedRow codec record digest]) record.stateId
          fate error).2 = .error raised →
        Unchanged core
          (core.compensate (database ++ [insertedRow codec record digest]) record.stateId
            fate error).1) ↔
      ∀ raised, fate ≠ .failed raised := by
  unfold compensate
  rw [delete_inserted hfits, withRows_self hport]
  cases fate with
  | done => simp [Unchanged.refl]
  | unacknowledged raised => simp [Unchanged.refl]
  | failed raised => simp [not_unchanged_of_inserted hport]

theorem storeUnder_undone_iff {codec : StateCodec P}
    {database : StateDatabase P} (hport : core.persistence = some database)
    (record : StateRecord P) (check : ReadbackAnswer P) (fates : PortFates) :
    (∀ raised, (core.storeUnder codec database record check fates).2 = .error raised →
        Unchanged core (core.storeUnder codec database record check fates).1) ↔
      (Fits codec database record →
        (∀ raised, fates.write ≠ .unacknowledged raised) ∧
        (fates.write = .done → Accepted codec record check fates ∨
          ¬ Uncaught codec record check fates ∧
            ∀ raised, fates.delete ≠ .failed raised)) := by
  by_cases hfits : Fits codec database record
  · obtain ⟨digest, hdigest, hwritten⟩ := write_of_fits hfits
    have hleft := not_unchanged_of_inserted hport (insertedRow codec record digest)
    unfold storeUnder
    rw [hwritten]
    dsimp only
    cases hwrite : fates.write with
    | failed raised => simp [hfits, Unchanged.refl]
    | unacknowledged raised => simp [hfits, hleft]
    | done =>
      dsimp only
      obtain ⟨haccepted, hread⟩ | ⟨hrejected, huncaught, name, hread⟩ |
          ⟨hrejected, hcaught, error, hread⟩ :=
        @readback_cases P codec database record check fates digest hfits hdigest
      · rw [hread]
        simp [hfits, haccepted]
      · rw [hread]
        simp [hfits, hrejected, huncaught, hleft]
      · rw [hread]
        dsimp only
        rw [compensate_undone_iff hport hfits]
        simp [hfits, hrejected, hcaught]
  · obtain ⟨error, herror⟩ := write_of_not_fits hfits
    unfold storeUnder
    rw [herror]
    simp [hfits, Unchanged.refl]

/-- A raising `write` leaves the records, the current records and the rows as they were
exactly when what it stored can be undone. -/
theorem raising_write_unchanged_iff (codec : StateCodec P) (core : StateCore P)
    (record : StateRecord P) (check : ReadbackAnswer P) (context : WriteContext)
    (fates : PortFates) :
    (∀ raised, (core.writeUnder codec record check context fates).2 = .error raised →
        Unchanged core (core.writeUnder codec record check context fates).1) ↔
      Undoable codec core record check context fates := by
  unfold writeUnder Undoable
  cases hcheck : core.checkWrite codec record context with
  | error error => simp [Unchanged.refl]
  | ok done =>
    dsimp only
    cases hport : core.persistence with
    | none =>
      dsimp only
      rw [keepUnder_undone_iff]
      simp
    | some database =>
      dsimp only
      rw [storeUnder_undone_iff hport]
      simp

/-- A record of one OCS with a number as payload. -/
def genesisRecord (stateId ocs : String) : StateRecord ℕ :=
  { stateId := stateId
    ocs := ocs
    version := 1
    predecessor := none
    payload := 0
    verified := true }

/-- A check that raises leaves the record in the table of a core without a port, and a
rejected record takes the record of another OCS with it when it reuses its id. -/
theorem raising_write_changes_records :
    (¬ ∀ (check : ReadbackAnswer ℕ) (raised : Raised),
      (empty.writeUnder .numbers (genesisRecord "state:1" "SOFIA") check
        (restoreContext (genesisRecord "state:1" "SOFIA")) .settled).2 = .error raised →
      Unchanged empty (empty.writeUnder .numbers (genesisRecord "state:1" "SOFIA") check
        (restoreContext (genesisRecord "state:1" "SOFIA")) .settled).1) ∧
    ¬ ∀ (core : StateCore ℕ) (raised : Raised),
      (core.writeUnder .numbers (genesisRecord "state:1" "AGORA") (fun _ => .ok false)
        (restoreContext (genesisRecord "state:1" "AGORA")) .settled).2 = .error raised →
      Unchanged core (core.writeUnder .numbers (genesisRecord "state:1" "AGORA")
        (fun _ => .ok false) (restoreContext (genesisRecord "state:1" "AGORA"))
        .settled).1 := by
  constructor
  · intro h
    have hsame := (h (fun _ => .error (.exception (.valueError "readback")))
      (.exception (.valueError "readback")) (by decide +kernel)).records "state:1"
    revert hsame
    decide +kernel
  · intro h
    let core : StateCore ℕ := empty.install (genesisRecord "state:1" "SOFIA")
      (genesisRecord "state:1" "SOFIA")
    have hsame := (h core (.exception (.runtimeError "state_readback_failed"))
      (by decide +kernel)).records "state:1"
    revert hsame
    decide +kernel

end StateCore

end ReisOs.Kernel
