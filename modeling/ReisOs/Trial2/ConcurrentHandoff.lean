import ReisOs.Core.Counting
import ReisOs.Trial2.Wiring

/-!
# Concurrent handoffs

`accept_handoff` of the integrity-checked store reads and checks first and then claims
the mission with a compare-and-set of its version.  Here the two parts of any number of
calls are interleaved with each other and with the other methods.  The version settles
which handoff is accepted; it does not move with a checkpoint, so a handoff may be
accepted with a checkpoint that has been succeeded since it was read.
-/

namespace ReisOs.Trial2

open ReisOs.Core

variable {N : Type} {encoding : Encoding N} {database after : Database} {missionId : String}

/-- The number of checkpoints an instance has stored. -/
def savedBy (database : Database) (missionId instanceId : String) : ℕ :=
  (database.checkpoints.filter fun row =>
    row.missionId = missionId ∧ row.instanceId = instanceId).length

/-- A call of `accept_handoff` between its reads and its claim, with the number of
checkpoints its source had stored when it read. -/
structure Ticket where
  missionId : String
  handoffId : String
  reading : Reading
  saved : ℕ

/-- An accepted handoff: the mission's version it claimed, the checkpoint it carries and
the one its source had at that moment. -/
structure Acceptance where
  missionId : String
  version : ℕ
  carried : String
  current : Option String

structure Floor where
  database : Database
  tickets : List Ticket
  accepted : List Acceptance

def Floor.start : Floor := ⟨.empty, [], []⟩

def Call.acceptsHandoff : Call N → Bool
  | .acceptHandoff .. => true
  | _ => false

/-- A step of one of the calls: all of another method, or one part of
`accept_handoff`. -/
inductive HandoffStep (N : Type) where
  | call (call : Call N) (hother : call.acceptsHandoff = false)
  | read (missionId handoffId : String)
  | claim (index : ℕ) (now : ℕ → String)

/-- What the call of a ticket claims with. -/
def Ticket.claim (ticket : Ticket) (encoding : Encoding N) (now : ℕ → String) :
    Transaction Database Trial2Error String :=
  IntegrityChecked.claim encoding ticket.missionId ticket.handoffId ticket.reading now

def Ticket.sourceInstanceId (ticket : Ticket) : String := ticket.reading.row.sourceInstanceId

/-- The entry of a ticket's acceptance. -/
def Ticket.acceptance (ticket : Ticket) (database : Database) : Acceptance where
  missionId := ticket.missionId
  version := ticket.reading.mission.version
  carried := ticket.reading.row.checkpointRef
  current := (database.binding? ticket.missionId ticket.sourceInstanceId).bind
    (·.checkpointRef)

def advance (encoding : Encoding N) (floor : Floor) : HandoffStep N → Floor
  | .call call _ => { floor with database := perform encoding floor.database call }
  | .read missionId handoffId =>
    match IntegrityChecked.readHandoff encoding missionId handoffId floor.database with
    | .error _ => floor
    | .ok reading =>
      { floor with
        tickets := floor.tickets ++
          [⟨missionId, handoffId, reading,
            savedBy floor.database missionId reading.row.sourceInstanceId⟩] }
  | .claim index now =>
    match floor.tickets[index]? with
    | none => floor
    | some ticket =>
      let tickets := floor.tickets.eraseIdx index
      match ticket.claim encoding now floor.database with
      | .error _ => { floor with tickets := tickets }
      | .ok (database, _) =>
        ⟨database, tickets, floor.accepted ++ [ticket.acceptance floor.database]⟩

/-- What the claims owe to each other and to the mission. -/
structure Serialized (floor : Floor) : Prop where
  versions : (floor.accepted.map fun entry => (entry.missionId, entry.version)).Nodup
  single : ∀ missionId, (floor.database.bindings.filter fun binding =>
    binding.missionId = missionId ∧ binding.status = .active).length ≤ 1
  budget : ∀ missionId mission, floor.database.missions.lookup missionId = some mission →
    (mission.autonomousStepCounter : ℤ) ≤ mission.autonomyBudget
  carried : ∀ entry ∈ floor.accepted, entry.current = some entry.carried

/-- The source of an accepted claim has stored no checkpoint since the claim's reads. -/
def SourceRested (encoding : Encoding N) (floor : Floor) : HandoffStep N → Prop
  | .claim index now =>
    ∀ ticket, floor.tickets[index]? = some ticket →
      (∃ answer, ticket.claim encoding now floor.database = .ok answer) →
      savedBy floor.database ticket.missionId ticket.sourceInstanceId = ticket.saved
  | _ => True

/-! ## Tickets -/

/-- What stays true of a reading until it is claimed. -/
structure Open (database : Database) (ticket : Ticket) : Prop where
  mission : ∃ current, database.missions.lookup ticket.missionId = some current ∧
    ticket.reading.mission.autonomyBudget = current.autonomyBudget
  budget : (ticket.reading.mission.autonomousStepCounter + 1 : ℤ) ≤
    ticket.reading.mission.autonomyBudget
  source : ∃ binding ∈ database.bindings,
    binding.bindingId = ticket.reading.source.bindingId ∧
      binding.key = (ticket.missionId, ticket.sourceInstanceId) ∧
      (binding.checkpointRef = some ticket.reading.row.checkpointRef ↔
        savedBy database ticket.missionId ticket.sourceInstanceId = ticket.saved)
  saved : ticket.saved ≤ savedBy database ticket.missionId ticket.sourceInstanceId
  stored : ∃ row ∈ database.checkpoints,
    row.checkpointId = ticket.reading.row.checkpointRef
  target : ∃ binding ∈ database.bindings,
    binding.bindingId = ticket.reading.target.bindingId ∧
      binding.key = (ticket.missionId, ticket.reading.row.targetInstanceId) ∧
      binding.ocsId = ticket.reading.row.targetOcsId
  handoff : ∃ stored, database.handoffs.lookup ticket.handoffId = some stored ∧
    stored.missionId = ticket.missionId ∧
    stored.targetOcsId = ticket.reading.row.targetOcsId ∧
    stored.targetInstanceId = ticket.reading.row.targetInstanceId
  route : ticket.reading.row.targetOcsId ∈ routeTargets

/-- What a step leaves in place for every ticket. -/
structure Keeps (database after : Database) : Prop where
  missions : ∀ missionId mission, database.missions.lookup missionId = some mission →
    ∃ current, after.missions.lookup missionId = some current ∧
      mission.autonomyBudget = current.autonomyBudget ∧ mission.version ≤ current.version
  bindings : ∀ binding ∈ database.bindings, ∃ kept ∈ after.bindings,
    kept.bindingId = binding.bindingId ∧ kept.key = binding.key ∧
      kept.ocsId = binding.ocsId ∧
      (kept.checkpointRef = binding.checkpointRef ∧
          savedBy after binding.missionId binding.instanceId =
            savedBy database binding.missionId binding.instanceId ∨
        (∃ checkpointRef, kept.checkpointRef = some checkpointRef ∧
            ∀ row ∈ database.checkpoints, row.checkpointId ≠ checkpointRef) ∧
          savedBy after binding.missionId binding.instanceId =
            savedBy database binding.missionId binding.instanceId + 1)
  checkpoints : ∀ row ∈ database.checkpoints, row ∈ after.checkpoints
  handoffs : ∀ handoffId row, database.handoffs.lookup handoffId = some row →
    ∃ kept, after.handoffs.lookup handoffId = some kept ∧ kept.missionId = row.missionId ∧
      kept.targetOcsId = row.targetOcsId ∧ kept.targetInstanceId = row.targetInstanceId

variable {ticket : Ticket}

theorem Open.keep (h : Open database ticket)
    (hkeeps : Keeps database after) : Open after ticket := by
  obtain ⟨old, hold, hid, hkey, hcurrent⟩ := h.source
  obtain ⟨hmission, hinstance⟩ := Prod.mk.inj hkey
  obtain ⟨kept, hkept, hkeptId, hkeptKey, -, hsaved⟩ := hkeeps.bindings old hold
  rw [hmission, hinstance] at hsaved
  constructor
  case mission =>
    obtain ⟨mission, hfound, hbudget⟩ := h.mission
    obtain ⟨current, hcurrent, hsame, -⟩ := hkeeps.missions _ mission hfound
    exact ⟨current, hcurrent, hbudget.trans hsame⟩
  case budget => exact h.budget
  case source =>
    refine ⟨kept, hkept, hkeptId.trans hid, hkeptKey.trans hkey, ?_⟩
    rcases hsaved with ⟨href, hcount⟩ | ⟨⟨checkpointRef, href, hnew⟩, hcount⟩
    · rw [href, hcount]
      exact hcurrent
    · obtain ⟨row, hrow, hrowId⟩ := h.stored
      have hne : kept.checkpointRef ≠ some ticket.reading.row.checkpointRef := by
        rw [href]
        intro heq
        exact hnew row hrow (hrowId.trans (Option.some.inj heq).symm)
      have hlater : savedBy after ticket.missionId ticket.sourceInstanceId ≠
          ticket.saved := by
        have hle := h.saved
        omega
      exact ⟨fun heq => absurd heq hne, fun heq => absurd heq hlater⟩
  case saved =>
    have hle := h.saved
    rcases hsaved with ⟨-, hcount⟩ | ⟨-, hcount⟩ <;> omega
  case stored =>
    obtain ⟨row, hrow, hrowId⟩ := h.stored
    exact ⟨row, hkeeps.checkpoints row hrow, hrowId⟩
  case target =>
    obtain ⟨target, htarget, htargetId, htargetKey, hocs⟩ := h.target
    obtain ⟨found, hfound, hfoundId, hfoundKey, hfoundOcs, -⟩ :=
      hkeeps.bindings target htarget
    exact ⟨found, hfound, hfoundId.trans htargetId, hfoundKey.trans htargetKey,
      hfoundOcs.trans hocs⟩
  case handoff =>
    obtain ⟨stored, hstored, hstoredMission, hocs, hinstance⟩ := h.handoff
    obtain ⟨found, hfound, hfoundMission, hfoundOcs, hfoundInstance⟩ :=
      hkeeps.handoffs _ stored hstored
    exact ⟨found, hfound, hfoundMission.trans hstoredMission, hfoundOcs.trans hocs,
      hfoundInstance.trans hinstance⟩
  case route => exact h.route

namespace Keeps

theorem congr (hmissions : after.missions = database.missions)
    (hbindings : after.bindings = database.bindings)
    (hcheckpoints : after.checkpoints = database.checkpoints)
    (hhandoffs : after.handoffs = database.handoffs) : Keeps database after where
  missions := by
    intro missionId mission hfound
    rw [hmissions]
    exact ⟨mission, hfound, rfl, le_rfl⟩
  bindings := by
    intro binding hbinding
    rw [hbindings]
    refine ⟨binding, hbinding, rfl, rfl, rfl, .inl ⟨rfl, ?_⟩⟩
    rw [savedBy, hcheckpoints]
    rfl
  checkpoints := by
    rw [hcheckpoints]
    exact fun _ hrow => hrow
  handoffs := by
    intro handoffId row hrow
    rw [hhandoffs]
    exact ⟨row, hrow, rfl, rfl, rfl⟩

theorem of_same (hsame : database.SameRecords after) : Keeps database after :=
  congr hsame.missions hsame.bindings hsame.checkpoints hsame.handoffs

theorem of_noted {middle : Database} {kind receipt : String} (h : Keeps database middle)
    (hnoted : middle.Noted missionId kind receipt after) : Keeps database after where
  missions := by
    rw [hnoted.missions]
    exact h.missions
  bindings := by
    have hcount : savedBy after = savedBy middle := by
      funext missionId instanceId
      rw [savedBy, savedBy, hnoted.checkpoints]
    rw [hnoted.bindings, hcount]
    exact h.bindings
  checkpoints := by
    rw [hnoted.checkpoints]
    exact h.checkpoints
  handoffs := by
    rw [hnoted.handoffs]
    exact h.handoffs

theorem updateMission {mission : MissionRow}
    (hold : ∀ old, database.missions.lookup missionId = some old →
      old.autonomyBudget = mission.autonomyBudget ∧ old.version ≤ mission.version) :
    Keeps database (database.updateMission missionId mission) where
  missions := by
    intro other found hfound
    simp only [Database.updateMission, Dict.lookup_insert_eq]
    split
    · rename_i heq
      rw [heq] at hfound
      exact ⟨mission, rfl, hold found hfound⟩
    · exact ⟨found, hfound, rfl, le_rfl⟩
  bindings := fun binding hbinding => ⟨binding, hbinding, rfl, rfl, rfl, .inl ⟨rfl, rfl⟩⟩
  checkpoints := fun _ hrow => hrow
  handoffs := fun _ row hrow => ⟨row, hrow, rfl, rfl, rfl⟩

theorem bound {mission : MissionRow} {row : BindingRow} {active : Bool}
    (hbinds : Binds database mission row active) :
    Keeps database (Trial2.bound database mission row active) where
  missions := by
    intro other found hfound
    rw [Wired.lookup_bound hbinds]
    split
    · rename_i hactive
      rw [hactive.2, hbinds.found] at hfound
      cases hfound
      exact ⟨_, rfl, rfl, Nat.le_succ _⟩
    · exact ⟨found, hfound, rfl, le_rfl⟩
  bindings := by
    intro binding hbinding
    refine ⟨binding, ?_, rfl, rfl, rfl, .inl ⟨rfl, ?_⟩⟩
    · rw [Wired.bindings_bound]
      exact List.mem_append_left _ hbinding
    · rw [savedBy, Stored.checkpoints_bound]
      rfl
  checkpoints := by
    rw [Stored.checkpoints_bound]
    exact fun _ hrow => hrow
  handoffs := by
    intro handoffId handoff hrow
    rw [Wired.handoffs_bound]
    exact ⟨handoff, hrow, rfl, rfl, rfl⟩

theorem savedBy_checkpointed (row : CheckpointRow) (bindingId missionId instanceId : String) :
    savedBy (Trial2.checkpointed database row bindingId) missionId instanceId =
      savedBy database missionId instanceId +
        if (row.missionId, row.instanceId) = (missionId, instanceId) then 1 else 0 := by
  simp only [savedBy, Trial2.checkpointed, Database.updateBinding, List.filter_append,
    List.length_append, Prod.mk.injEq]
  by_cases hkey : row.missionId = missionId ∧ row.instanceId = instanceId
  · rw [if_pos hkey, List.filter_singleton, decide_eq_true hkey]
    rfl
  · rw [if_neg hkey, List.filter_singleton, decide_eq_false hkey]
    rfl

theorem checkpointed (hwired : Wired database) {mission : MissionRow} {source : BindingRow}
    {row : CheckpointRow} {localState : PyValue N}
    (hsaves : Saves encoding database mission source row localState) :
    Keeps database (Trial2.checkpointed database row source.bindingId) where
  missions := fun _ found hfound => ⟨found, hfound, rfl, le_rfl⟩
  bindings := by
    intro binding hbinding
    obtain ⟨hsource, hkey⟩ := hwired.binding?_eq_some.mp hsaves.seated
    rw [savedBy_checkpointed]
    refine ⟨_, List.mem_map_of_mem hbinding, ?_⟩
    by_cases hid : binding.bindingId = source.bindingId
    · have hsame := hwired.eq_of_id hbinding hsource hid
      rw [hsame, if_pos (decide_eq_true rfl)]
      refine ⟨rfl, rfl, rfl, .inr ⟨⟨row.checkpointId, rfl, hsaves.fresh⟩, ?_⟩⟩
      exact congrArg _ (if_pos hkey.symm)
    · rw [if_neg (by simpa using hid)]
      refine ⟨rfl, rfl, rfl, .inl ⟨rfl, ?_⟩⟩
      rw [if_neg, Nat.add_zero]
      intro heq
      exact hid (congrArg _ (hwired.eq_of_key hbinding hsource (heq.symm.trans hkey.symm)))
  checkpoints := fun _ hrow => List.mem_append_left _ hrow
  handoffs := fun _ found hfound => ⟨found, hfound, rfl, rfl, rfl⟩

theorem insertHandoff {handoffId : String} {row : HandoffRow}
    (hold : ∀ old, database.handoffs.lookup handoffId = some old →
      row.missionId = old.missionId ∧ row.targetOcsId = old.targetOcsId ∧
        row.targetInstanceId = old.targetInstanceId) :
    Keeps database { database with handoffs := database.handoffs.insert handoffId row } where
  missions := fun _ found hfound => ⟨found, hfound, rfl, le_rfl⟩
  bindings := fun binding hbinding => ⟨binding, hbinding, rfl, rfl, rfl, .inl ⟨rfl, rfl⟩⟩
  checkpoints := fun _ hrow => hrow
  handoffs := by
    intro other found hfound
    simp only [Dict.lookup_insert_eq]
    split
    · rename_i heq
      rw [heq] at hfound
      exact ⟨row, rfl, hold found hfound⟩
    · exact ⟨found, hfound, rfl, rfl, rfl⟩

theorem trans {middle : Database} (hfirst : Keeps database middle)
    (hlast : Keeps middle after)
    (hbindings : middle.bindings = database.bindings)
    (hcheckpoints : middle.checkpoints = database.checkpoints) : Keeps database after where
  missions := by
    intro missionId mission hfound
    obtain ⟨first, hfirstFound, hfirstBudget, hfirstVersion⟩ :=
      hfirst.missions missionId mission hfound
    obtain ⟨last, hlastFound, hlastBudget, hlastVersion⟩ :=
      hlast.missions missionId first hfirstFound
    exact ⟨last, hlastFound, hfirstBudget.trans hlastBudget,
      hfirstVersion.trans hlastVersion⟩
  bindings := by
    have hcount : savedBy middle = savedBy database := by
      funext missionId instanceId
      rw [savedBy, savedBy, hcheckpoints]
    have hkept := hlast.bindings
    rw [hbindings, hcount, hcheckpoints] at hkept
    exact hkept
  checkpoints := fun row hrow => hlast.checkpoints row (hfirst.checkpoints row hrow)
  handoffs := by
    intro handoffId row hrow
    obtain ⟨first, hfirstFound, hmission, hocs, hinstance⟩ :=
      hfirst.handoffs handoffId row hrow
    obtain ⟨last, hlastFound, hlastMission, hlastOcs, hlastInstance⟩ :=
      hlast.handoffs handoffId first hfirstFound
    exact ⟨last, hlastFound, hlastMission.trans hmission, hlastOcs.trans hocs,
      hlastInstance.trans hinstance⟩

theorem issued {mission : MissionRow} {source target : BindingRow} {handoffId : String}
    {row : HandoffRow} {envelope : PyValue N}
    (hissues : Issues encoding database mission source target handoffId row envelope) :
    Keeps database (Trial2.issued database mission handoffId row) := by
  have hinserted : Keeps database { database with
      handoffs := database.handoffs.insert handoffId row } := by
    apply insertHandoff
    intro old hold
    rw [hissues.fresh] at hold
    cases hold
  apply hinserted.trans (updateMission _) rfl rfl
  intro old hold
  have hfound : database.missions.lookup row.missionId = some old := hold
  rw [hissues.found] at hfound
  cases hfound
  exact ⟨rfl, le_rfl⟩

theorem handedOver {handoffId receipt : String} {reading : Reading} {current : MissionRow}
    {stored : HandoffRow} (hfound : database.missions.lookup missionId = some current)
    (hversion : current.version = reading.mission.version)
    (hstored : database.handoffs.lookup handoffId = some stored) :
    Keeps database
      (Trial2.handedOver database missionId handoffId reading current stored receipt) where
  missions := by
    intro other found hother
    simp only [Trial2.handedOver, Dict.lookup_insert_eq]
    split
    · rename_i heq
      rw [heq, hfound] at hother
      cases hother
      refine ⟨_, rfl, rfl, ?_⟩
      show current.version ≤ reading.mission.version + 1
      omega
    · exact ⟨found, hother, rfl, le_rfl⟩
  bindings := fun binding hbinding =>
    ⟨restatus reading binding, List.mem_map_of_mem hbinding, rfl, rfl, rfl,
      .inl ⟨rfl, rfl⟩⟩
  checkpoints := fun _ hrow => hrow
  handoffs := by
    intro other found hother
    simp only [Trial2.handedOver, Dict.lookup_insert_eq]
    split
    · rename_i heq
      rw [heq, hstored] at hother
      cases hother
      exact ⟨_, rfl, rfl, rfl, rfl⟩
    · exact ⟨found, hother, rfl, rfl, rfl⟩

theorem perform (hwired : Wired database) {call : Call N}
    (hother : call.acceptsHandoff = false) :
    Keeps database (Trial2.perform encoding database call) := by
  have hchange := perform_change encoding database call
  cases hchange with
  | same hsame => exact .of_same hsame
  | created hnew _ _ _ _ hsame =>
    apply Keeps.trans (updateMission _) (.of_same hsame) rfl rfl
    intro old hold
    rw [hnew] at hold
    cases hold
  | bound hbinds hnoted => exact (Keeps.bound hbinds).of_noted hnoted
  | checkpointed hsaves hnoted => exact (Keeps.checkpointed hwired hsaves).of_noted hnoted
  | issued hissues hnoted => exact (Keeps.issued hissues).of_noted hnoted
  | accepted => cases hother
  | applied _ _ _ _ hnoted =>
    exact congr hnoted.missions hnoted.bindings hnoted.checkpoints hnoted.handoffs

end Keeps

/-! ## Readings and claims -/

theorem Acceptable.isOpen (hwired : Wired database) (hstored : Stored database)
    {handoffId : String} {reading : Reading}
    (h : Acceptable database missionId handoffId reading) :
    Open database ⟨missionId, handoffId, reading,
      savedBy database missionId reading.row.sourceInstanceId⟩ := by
  have hclaimable := h.claimable hwired
  obtain ⟨hsource, hsourceKey⟩ := hwired.binding?_eq_some.mp h.sender
  constructor
  case mission => exact ⟨reading.mission, h.found, rfl⟩
  case budget => exact h.budget
  case source =>
    exact ⟨reading.source, hsource, rfl, hsourceKey, fun _ => rfl, fun _ => h.saved⟩
  case saved => exact le_rfl
  case stored => exact (hstored reading.source hsource _ h.saved).2
  case target => exact hclaimable.target
  case handoff => exact ⟨reading.row, h.row, h.ofMission, rfl, rfl⟩
  case route => exact hclaimable.route

theorem Open.claimable (h : Open database ticket) {current : MissionRow}
    {stored : HandoffRow}
    (hfound : database.missions.lookup ticket.missionId = some current)
    (hpointer : current.activeInstanceId = some ticket.sourceInstanceId)
    (hstored : database.handoffs.lookup ticket.handoffId = some stored) :
    Claimable database ticket.missionId ticket.reading current stored := by
  constructor
  case found => exact hfound
  case pointer => exact hpointer
  case source =>
    obtain ⟨source, hsource, hid, hkey, -⟩ := h.source
    exact ⟨source, hsource, hid, hkey⟩
  case target => exact h.target
  case stored =>
    obtain ⟨row, hrow, hmission, hocs, hinstance⟩ := h.handoff
    rw [hstored] at hrow
    cases hrow
    exact ⟨hmission, hocs, hinstance⟩
  case route => exact h.route
  case budget =>
    obtain ⟨found, hmission, hbudget⟩ := h.mission
    rw [hfound] at hmission
    cases hmission
    rw [← hbudget]
    exact h.budget

theorem Open.claimed (h : Open database ticket) {now : ℕ → String}
    {receipt : String} (hclaim : ticket.claim encoding now database = .ok (after, receipt)) :
    ∃ current stored, database.missions.lookup ticket.missionId = some current ∧
      current.version = ticket.reading.mission.version ∧
      Claimable database ticket.missionId ticket.reading current stored ∧
      database.handoffs.lookup ticket.handoffId = some stored ∧
      (handedOver database ticket.missionId ticket.handoffId ticket.reading current stored
        receipt).Noted ticket.missionId "handoff_acceptance" receipt after := by
  obtain ⟨stored, hstored, -⟩ := h.handoff
  obtain ⟨current, hfound, hversion, hpointer, -, hnoted⟩ := claim_spec hstored hclaim
  exact ⟨current, stored, hfound, hversion, h.claimable hfound hpointer hstored, hstored,
    hnoted⟩

/-- The checkpoint of the source when the ticket is claimed is the one it carries just if
the source has stored none since. -/
theorem Open.carried_iff (hwired : Wired database)
    (h : Open database ticket) :
    (ticket.acceptance database).current = some (ticket.acceptance database).carried ↔
      savedBy database ticket.missionId ticket.sourceInstanceId = ticket.saved := by
  obtain ⟨source, hsource, -, hkey, hcurrent⟩ := h.source
  have hseated : database.binding? ticket.missionId ticket.sourceInstanceId = some source :=
    hwired.binding?_eq_some.mpr ⟨hsource, hkey⟩
  rw [← hcurrent]
  simp only [Ticket.acceptance, hseated, Option.bind_some]

/-! ## Runs -/

/-- What every run keeps. -/
structure Consistent (floor : Floor) : Prop where
  wired : Wired floor.database
  stored : Stored floor.database
  tickets : ∀ ticket ∈ floor.tickets, Open floor.database ticket
  log : ∀ entry ∈ floor.accepted, ∃ mission,
    floor.database.missions.lookup entry.missionId = some mission ∧
      entry.version < mission.version
  versions : (floor.accepted.map fun entry => (entry.missionId, entry.version)).Nodup

theorem Consistent.start : Consistent .start where
  wired := Wired.start
  stored := fun _ hmem => absurd hmem List.not_mem_nil
  tickets := fun _ hmem => absurd hmem List.not_mem_nil
  log := fun _ hmem => absurd hmem List.not_mem_nil
  versions := List.nodup_nil

variable {floor : Floor}

theorem Consistent.log_keep (h : Consistent floor)
    (hkeeps : Keeps floor.database after) :
    ∀ entry ∈ floor.accepted, ∃ mission,
      after.missions.lookup entry.missionId = some mission ∧
        entry.version < mission.version := by
  intro entry hentry
  obtain ⟨mission, hfound, hversion⟩ := h.log entry hentry
  obtain ⟨current, hcurrent, -, hle⟩ := hkeeps.missions _ mission hfound
  exact ⟨current, hcurrent, Nat.lt_of_lt_of_le hversion hle⟩

theorem Consistent.claim (h : Consistent floor)
    (hticket : ticket ∈ floor.tickets) {tickets : List Ticket}
    (hrest : ∀ other ∈ tickets, other ∈ floor.tickets) {now : ℕ → String} {receipt : String}
    (hclaim : ticket.claim encoding now floor.database = .ok (after, receipt)) :
    Consistent ⟨after, tickets, floor.accepted ++ [ticket.acceptance floor.database]⟩ := by
  have hopen := h.tickets ticket hticket
  obtain ⟨current, stored, hfound, hversion, hclaimable, hstored, hnoted⟩ :=
    hopen.claimed hclaim
  have hkeeps : Keeps floor.database after :=
    (Keeps.handedOver hfound hversion hstored).of_noted hnoted
  constructor
  case wired => exact (h.wired.handedOver hclaimable).of_noted hnoted
  case stored =>
    exact (h.stored.handedOver _ _ _ _ _).congr hnoted.bindings hnoted.checkpoints
  case tickets => exact fun other hother => (h.tickets other (hrest other hother)).keep hkeeps
  case log =>
    intro entry hentry
    rcases List.mem_append.mp hentry with hold | hnew
    · exact h.log_keep hkeeps entry hold
    · rw [List.mem_singleton.mp hnew]
      refine ⟨advanced ticket.handoffId ticket.reading current, ?_, Nat.lt_succ_self _⟩
      rw [hnoted.missions]
      exact AList.lookup_insert _
  case versions =>
    rw [List.map_append, List.map_singleton, ← List.concat_eq_append]
    apply h.versions.concat
    -- the version that is claimed is beyond those claimed before
    intro hmem
    obtain ⟨entry, hentry, hsame⟩ := List.mem_map.mp hmem
    obtain ⟨hmission, hentryVersion⟩ := Prod.mk.inj hsame
    obtain ⟨mission, hmissionFound, hlt⟩ := h.log entry hentry
    have heq : entry.missionId = ticket.missionId := hmission
    rw [heq, hfound] at hmissionFound
    cases hmissionFound
    have hclaimed : entry.version = ticket.reading.mission.version := hentryVersion
    omega

theorem Consistent.step (h : Consistent floor) (step : HandoffStep N) :
    Consistent (advance encoding floor step) := by
  cases step with
  | call call hother =>
    have hkeeps : Keeps floor.database (perform encoding floor.database call) :=
      Keeps.perform h.wired hother
    constructor
    case wired => exact h.wired.perform encoding call
    case stored => exact h.stored.perform call
    case tickets => exact fun ticket hticket => (h.tickets ticket hticket).keep hkeeps
    case log => exact h.log_keep hkeeps
    case versions => exact h.versions
  | read missionId handoffId =>
    simp only [advance]
    cases hread : IntegrityChecked.readHandoff encoding missionId handoffId
        floor.database with
    | error error => exact h
    | ok reading =>
      constructor
      case wired => exact h.wired
      case stored => exact h.stored
      case tickets =>
        intro ticket hticket
        rcases List.mem_append.mp hticket with hold | hnew
        · exact h.tickets ticket hold
        · rw [List.mem_singleton.mp hnew]
          exact (readHandoff_spec hread).isOpen h.wired h.stored
      case log => exact h.log
      case versions => exact h.versions
  | claim index now =>
    simp only [advance]
    cases hticket : floor.tickets[index]? with
    | none => exact h
    | some ticket =>
      have hrest : ∀ other ∈ floor.tickets.eraseIdx index, other ∈ floor.tickets :=
        fun other hother => List.mem_of_mem_eraseIdx hother
      simp only
      cases hclaim : ticket.claim encoding now floor.database with
      | error error =>
        constructor
        case wired => exact h.wired
        case stored => exact h.stored
        case tickets => exact fun other hother => h.tickets other (hrest other hother)
        case log => exact h.log
        case versions => exact h.versions
      | ok answer =>
        obtain ⟨after, receipt⟩ := answer
        exact h.claim (List.mem_of_getElem? hticket) hrest hclaim

theorem Wired.single_active (h : Wired database) (missionId : String) :
    (database.bindings.filter fun binding =>
      binding.missionId = missionId ∧ binding.status = .active).length ≤ 1 := by
  have hkeys : ((database.bindings.filter fun binding =>
      binding.missionId = missionId ∧ binding.status = .active).map BindingRow.key).Nodup :=
    h.keys.sublist (List.filter_sublist.map _)
  let active := ((database.missions.lookup missionId).bind (·.activeInstanceId)).getD ""
  have hactive : ∀ binding ∈ database.bindings.filter (fun binding =>
      binding.missionId = missionId ∧ binding.status = .active),
      binding.key = (missionId, active) := by
    intro binding hbinding
    obtain ⟨hmem, hkept⟩ := List.mem_filter.mp hbinding
    obtain ⟨rfl, hstatus⟩ := of_decide_eq_true hkept
    obtain ⟨mission, hfound, hpointer⟩ := (h.active binding hmem).mp hstatus
    have heq : active = binding.instanceId := by
      simp only [active, hfound, Option.bind_some, hpointer, Option.getD_some]
    rw [heq]
    rfl
  exact length_le_one_of_label hkeys hactive

theorem Consistent.serialized (h : Consistent floor)
    (hcarried : ∀ entry ∈ floor.accepted, entry.current = some entry.carried) :
    Serialized floor where
  versions := h.versions
  single := h.wired.single_active
  budget := h.wired.budget
  carried := hcarried

/-- A step carries on with current checkpoints just if the source of its claim rested. -/
theorem Consistent.carried_step_iff (h : Consistent floor)
    (hcarried : ∀ entry ∈ floor.accepted, entry.current = some entry.carried)
    (step : HandoffStep N) :
    (∀ entry ∈ (advance encoding floor step).accepted,
        entry.current = some entry.carried) ↔ SourceRested encoding floor step := by
  cases step with
  | call call hother => exact ⟨fun _ => trivial, fun _ => hcarried⟩
  | read missionId handoffId =>
    simp only [advance]
    cases IntegrityChecked.readHandoff encoding missionId handoffId floor.database with
    | error error => exact ⟨fun _ => trivial, fun _ => hcarried⟩
    | ok reading => exact ⟨fun _ => trivial, fun _ => hcarried⟩
  | claim index now =>
    simp only [advance, SourceRested]
    cases hticket : floor.tickets[index]? with
    | none => exact ⟨fun _ _ hnone => (nomatch hnone), fun _ => hcarried⟩
    | some ticket =>
      have hopen := h.tickets ticket (List.mem_of_getElem? hticket)
      simp only
      cases hclaim : ticket.claim encoding now floor.database with
      | error error =>
        refine ⟨fun _ other hother => ?_, fun _ => hcarried⟩
        rintro ⟨answer, hanswer⟩
        cases hother
        rw [hclaim] at hanswer
        cases hanswer
      | ok answer =>
        obtain ⟨after, receipt⟩ := answer
        constructor
        · intro hall other hother _
          cases hother
          apply (hopen.carried_iff h.wired).mp
          exact hall _ (List.mem_append_right _ (List.mem_singleton_self _))
        · intro hrested entry hentry
          rcases List.mem_append.mp hentry with hold | hnew
          · exact hcarried entry hold
          · rw [List.mem_singleton.mp hnew]
            exact (hopen.carried_iff h.wired).mpr
              (hrested ticket rfl ⟨_, hclaim⟩)

/-- Interleaved handoffs are serialized, each with the current checkpoint of its source,
just if no source stores a checkpoint between the reads and the claim of an accepted
handoff. -/
theorem handoffs_serialized_iff (encoding : Encoding N) (steps : List (HandoffStep N)) :
    (∀ before, before <+: steps → Serialized (run (advance encoding) .start before)) ↔
      Admissible (advance encoding) (SourceRested encoding) .start steps := by
  apply always_iff_admissible fun floor =>
    Consistent floor ∧ ∀ entry ∈ floor.accepted, entry.current = some entry.carried
  · rintro floor step ⟨hconsistent, hcarried⟩ hrested
    exact ⟨hconsistent.step step, (hconsistent.carried_step_iff hcarried step).mpr hrested⟩
  · rintro floor ⟨hconsistent, hcarried⟩
    exact hconsistent.serialized hcarried
  · rintro floor step ⟨hconsistent, hcarried⟩ hserialized
    exact (hconsistent.carried_step_iff hcarried step).mp hserialized.carried
  · exact ⟨Consistent.start, fun _ hmem => absurd hmem List.not_mem_nil⟩

/-- The source of a handoff stores a second checkpoint between its reads and its
claim. -/
def overtakenSteps : List (HandoffStep ℤ) :=
  [.call (.createMission "m-001" "state:m-001" "gate-1" 3 (clockAt "t1")) rfl,
    .call (.bind "m-001" "DÉDALA" "dedala-1" "authority-1" "role-1" true (clockAt "t2")) rfl,
    .call (.bind "m-001" "SOFIA" "sofia-1" "authority-1" "role-1" false (clockAt "t3")) rfl,
    .call (.checkpoint "m-001" "dedala-1" (.dict []) (clockAt "t4")) rfl,
    .call (.issueHandoff "m-001" "L2-SINGLE-SURFACE-DEDALA-TO-SOFIA-PLAN-001" "sofia-1"
      "SOFIA" (.dict []) (clockAt "t5")) rfl,
    .read "m-001" (plainEncoding.handoffId "m-001"
      "L2-SINGLE-SURFACE-DEDALA-TO-SOFIA-PLAN-001" "dedala-1" "sofia-1"
      (plainEncoding.checkpointId "m-001" "dedala-1" 1 (.dict [])) (.dict [])),
    .call (.checkpoint "m-001" "dedala-1" (.dict []) (clockAt "t6")) rfl,
    .claim 0 (clockAt "t7")]

/-- The handoff is accepted with the first checkpoint. -/
theorem overtaken_not_serialized :
    ¬ ∀ before, before <+: overtakenSteps →
      Serialized (run (advance plainEncoding) .start before) := by
  intro h
  have hcarried := (h overtakenSteps (List.prefix_refl _)).carried
  have hstale : (run (advance plainEncoding) .start overtakenSteps).accepted.any
      (fun entry => decide (entry.current ≠ some entry.carried)) = true := by
    decide +kernel
  obtain ⟨entry, hentry, hne⟩ := List.any_eq_true.mp hstale
  exact of_decide_eq_true hne (hcarried entry hentry)

end ReisOs.Trial2
