import ReisOs.Command.GivenPayloads

/-!
# What the event store reads back

`append` compares a repeated event with the stored one by its identifier only, and
`read_all` gives the payload as JSON has it.  Both are right about events with plain
payloads of which no two share key and identifier but differ.
-/

namespace ReisOs.Command

open ReisOs.Core

/-- The table, with the connections that are about to insert the event they were given. -/
structure EventLog (K N : Type) where
  rows : List (CommandEvent N)
  pending : K → Option (GivenEvent N)

inductive LogStep (K N : Type) where
  | check (connection : K) (event : GivenEvent N)
  | insert (connection : K)
  | fail (connection : K)

variable {K N : Type}

namespace EventLog

def empty : EventLog K N := ⟨[], fun _ => none⟩

/-- The table alone. -/
def store (log : EventLog K N) : EventStore K N := ⟨log.rows, fun _ => none⟩

/-- `append` up to its INSERT: its answer, or none if it goes on. -/
def check (library : Library N) (log : EventLog K N) (event : GivenEvent N) :
    Option (Except EventError Bool) :=
  match event.validate library with
  | .error error => some (.error error)
  | .ok () =>
    match log.rows.find? (·.idempotencyKey = event.form.idempotencyKey) with
    | some existing =>
      if existing.eventId ≠ event.form.eventId then
        some (.error (.store "command_event_idempotency_conflict"))
      else some (.ok false)
    | none =>
      let expected := match lastSequence (log.store.sequences event.form.stream) with
        | none => 1
        | some last => last + 1
      if event.form.sequence ≠ expected then
        some (.error (.validation "command_event_sequence_hold"))
      else
        match event.form.occurredAtUtc library with
        | .error error => some (.error error)
        | .ok _ => none

/-- The log after a step, with the answer of the call that it ends. -/
def step [DecidableEq K] (library : Library N) (log : EventLog K N) :
    LogStep K N → EventLog K N × Option (Except EventError Bool)
  | .check connection event =>
    match log.pending connection with
    | some _ => (log, none)
    | none =>
      match log.check library event with
      | some answer => (log, some answer)
      | none =>
        (⟨log.rows, Function.update log.pending connection (some event)⟩, none)
  | .insert connection =>
    match log.pending connection with
    | none => (log, none)
    | some event =>
      let pending := Function.update log.pending connection none
      if log.store.identified event.form ∨ log.store.numbered event.form then
        (⟨log.rows, pending⟩,
          some (.error (.store "command_event_integrity_rejected")))
      else (⟨log.rows ++ [event.form.persisted], pending⟩, some (.ok true))
  | .fail connection => (⟨log.rows, Function.update log.pending connection none⟩, none)

def readAll (log : EventLog K N) : List (GivenEvent N) := log.rows.map GivenEvent.ofRow

end EventLog

/-- The event that an append with this answer has just added. -/
def EventLog.added (log : EventLog K N) : LogStep K N → Option (Except EventError Bool) →
    List (GivenEvent N)
  | .insert connection, some (.ok true) => (log.pending connection).toList
  | _, _ => []

/-- A log and the events whose append has answered True, in the order of the answers. -/
structure Logged (K N : Type) where
  log : EventLog K N
  appended : List (GivenEvent N)

namespace Logged

variable [DecidableEq K]

def step (library : Library N) (state : Logged K N) (next : LogStep K N) : Logged K N where
  log := (state.log.step library next).1
  appended := state.appended ++ state.log.added next (state.log.step library next).2

/-- What a run of steps leaves. -/
def after (library : Library N) (steps : List (LogStep K N)) : Logged K N :=
  run (Logged.step library) ⟨.empty, []⟩ steps

end Logged

/-- The events given in a run. -/
def LogStep.given : List (LogStep K N) → List (GivenEvent N) :=
  List.filterMap fun
    | .check _ event => some event
    | _ => none

/-- Payloads are plain, and events of one key and identifier are equal. -/
structure Consistent (steps : List (LogStep K N)) : Prop where
  plain : ∀ event ∈ LogStep.given steps, event.IsPlain
  repeated : ∀ event ∈ LogStep.given steps, ∀ other ∈ LogStep.given steps,
    event.form.idempotencyKey = other.form.idempotencyKey →
      event.form.eventId = other.form.eventId → event.Same other

/-- An append answers False to an event equal to a stored one only, and by an error to
one that conflicts with a stored one; and all appended events are read back. -/
structure Reliable [DecidableEq K] (library : Library N) (state : Logged K N)
    (next : LogStep K N) : Prop where
  repeated : ∀ connection event, next = .check connection event →
    (state.log.step library next).2 = some (.ok false) →
      ∃ stored ∈ state.log.readAll, stored.Same event
  conflicting : ∀ connection event, next = .check connection event →
    state.log.pending connection = none → event.validate library = .ok () →
    (∃ stored ∈ state.log.readAll,
      stored.form.idempotencyKey = event.form.idempotencyKey ∧
        stored.form.eventId ≠ event.form.eventId) →
      (state.log.step library next).2 =
        some (.error (.store "command_event_idempotency_conflict"))
  identified : ∀ connection event, next = .insert connection →
    state.log.pending connection = some event →
    (∃ stored ∈ state.log.readAll,
      stored.form.idempotencyKey = event.form.idempotencyKey ∨
        stored.form.eventId = event.form.eventId) →
      (state.log.step library next).2 =
        some (.error (.store "command_event_integrity_rejected"))
  readAll : List.Forall₂ GivenEvent.Same (state.step library next).log.readAll
    (state.step library next).appended

/-! ## Rows -/

theorem GivenEvent.IsPlain.ofRow {event : GivenEvent N} (h : event.IsPlain) :
    (GivenEvent.ofRow event.form.persisted).Same event where
  columns := by
    have htwice : event.form.persisted.persisted = event.form.persisted := by
      simp [CommandEvent.persisted]
    rw [columns, columns, GivenEvent.ofRow, htwice]
  payload key := by
    have hpayload : event.form.persisted.payload = event.payload.mapValues Data.json :=
      event.written
    change (event.form.persisted.payload.mapValues Data.ofJson).lookup key = _
    rw [hpayload, Dict.lookup_mapValues, Dict.lookup_mapValues]
    cases hvalue : event.payload.lookup key with
    | none => rfl
    | some value =>
      rw [Option.map_some, Option.map_some, (Data.ofJson_json value).mpr (h key value hvalue)]

namespace Logged

variable {library : Library N} {given : List (GivenEvent N)} {state : Logged K N}

/-- The rows are those of the appended events, no two of which share a key, and all
events are among those given. -/
structure Kept (given : List (GivenEvent N)) (state : Logged K N) : Prop where
  rows : state.log.rows = state.appended.map fun event => event.form.persisted
  appended : ∀ event ∈ state.appended, event ∈ given
  pending : ∀ connection event, state.log.pending connection = some event → event ∈ given
  keys : (state.appended.map (·.form.idempotencyKey)).Nodup

variable {row : CommandEvent N}

theorem mem_rows (h : Kept given state) :
    row ∈ state.log.rows ↔ ∃ event ∈ state.appended, event.form.persisted = row := by
  rw [h.rows, List.mem_map]

theorem Kept.readAll (h : Kept given state) (hplain : ∀ event ∈ given, event.IsPlain) :
    List.Forall₂ GivenEvent.Same state.log.readAll state.appended := by
  rw [EventLog.readAll, h.rows, List.map_map, List.forall₂_map_left_iff, List.forall₂_same]
  intro event hevent
  exact (hplain event (h.appended event hevent)).ofRow

theorem Kept.mono {more : List (GivenEvent N)} (h : Kept given state)
    (hmore : ∀ event ∈ given, event ∈ more) : Kept more state where
  rows := h.rows
  appended event hevent := hmore event (h.appended event hevent)
  pending connection event hevent := hmore event (h.pending connection event hevent)
  keys := h.keys

variable [DecidableEq K]

theorem Kept.hold (h : Kept given state) {connection : K} {held : Option (GivenEvent N)}
    (hheld : ∀ event ∈ held, event ∈ given) :
    Kept given
      ⟨⟨state.log.rows, Function.update state.log.pending connection held⟩,
        state.appended ++ []⟩ where
  rows := by rw [List.append_nil, h.rows]
  appended event hevent := h.appended event (by simpa using hevent)
  pending other event hevent := by
    by_cases hsame : other = connection
    · rw [hsame] at hevent
      exact hheld event (by simpa using hevent)
    · exact h.pending other event (by simpa [hsame] using hevent)
  keys := by
    rw [List.append_nil]
    exact h.keys

variable {event : GivenEvent N}

theorem Kept.push (h : Kept given state) {connection : K}
    (hevent : state.log.pending connection = some event)
    (hnew : ¬state.log.store.identified event.form) :
    Kept given
      ⟨⟨state.log.rows ++ [event.form.persisted],
          Function.update state.log.pending connection none⟩,
        state.appended ++ [event]⟩ where
  rows := by rw [List.map_append, h.rows, List.map_singleton]
  appended other hother := by
    rcases List.mem_append.mp hother with hbefore | hlast
    · exact h.appended other hbefore
    · rw [List.mem_singleton.mp hlast]
      exact h.pending connection event hevent
  pending other later hlater := by
    by_cases hsame : other = connection
    · simp [hsame] at hlater
    · exact h.pending other later (by simpa [hsame] using hlater)
  keys := by
    rw [List.map_append, List.map_singleton, List.nodup_append_comm, List.singleton_append,
      List.nodup_cons]
    refine ⟨?_, h.keys⟩
    intro hmem
    obtain ⟨other, hother, hkey⟩ := List.mem_map.mp hmem
    exact hnew ⟨other.form.persisted, (mem_rows h).mpr ⟨other, hother, rfl⟩, .inr hkey⟩

theorem step_insert {connection : K}
    (h : state.log.pending connection = some event) :
    state.log.step library (.insert connection) =
      if state.log.store.identified event.form ∨ state.log.store.numbered event.form then
        (⟨state.log.rows, Function.update state.log.pending connection none⟩,
          some (.error (.store "command_event_integrity_rejected")))
      else
        (⟨state.log.rows ++ [event.form.persisted],
          Function.update state.log.pending connection none⟩, some (.ok true)) := by
  rw [EventLog.step, h]

theorem Kept.step (h : Kept given state) {next : LogStep K N}
    (hnext : ∀ event ∈ LogStep.given [next], event ∈ given) :
    Kept given (state.step library next) := by
  have hsame : Kept given ⟨state.log, state.appended ++ []⟩ := by
    rw [List.append_nil]
    exact h
  cases next with
  | check connection event =>
    rw [Logged.step, EventLog.step]
    cases hpending : state.log.pending connection with
    | some held => exact hsame
    | none =>
      cases hcheck : state.log.check library event with
      | some answer => exact hsame
      | none =>
        apply h.hold
        intro held hheld
        rw [← Option.some.inj hheld]
        exact hnext event List.mem_cons_self
  | insert connection =>
    cases hpending : state.log.pending connection with
    | none =>
      rw [Logged.step, EventLog.step, hpending]
      exact hsame
    | some event =>
      rw [Logged.step, step_insert hpending]
      by_cases hrejected : state.log.store.identified event.form ∨
          state.log.store.numbered event.form
      · rw [if_pos hrejected]
        apply h.hold
        intro held hheld
        cases hheld
      · rw [if_neg hrejected, EventLog.added, hpending]
        exact h.push hpending fun hid => hrejected (.inl hid)
  | fail connection =>
    apply h.hold
    intro held hheld
    cases hheld

theorem kept_after (library : Library N) (steps : List (LogStep K N)) :
    Kept (LogStep.given steps) (after library steps) := by
  induction steps using List.reverseRecOn with
  | nil =>
    exact ⟨rfl, fun _ h => absurd h List.not_mem_nil, fun _ _ h => (nomatch h),
      List.nodup_nil⟩
  | append_singleton before next ih =>
    have hgiven : LogStep.given (before ++ [next]) =
        LogStep.given before ++ LogStep.given [next] := List.filterMap_append
    rw [after, run_append, run_cons, run_nil, hgiven]
    have hbefore : Kept (LogStep.given before ++ LogStep.given [next])
        (after library before) :=
      ih.mono fun event hevent => List.mem_append_left _ hevent
    exact hbefore.step fun event hevent => List.mem_append_right _ hevent

omit [DecidableEq K] in
/-- A stored event, as it was given. -/
theorem Kept.exists_stored (h : Kept given state) {stored : GivenEvent N}
    (hstored : stored ∈ state.log.readAll) :
    ∃ event ∈ state.appended, stored = GivenEvent.ofRow event.form.persisted := by
  rw [EventLog.readAll, h.rows, List.map_map, List.mem_map] at hstored
  obtain ⟨event, hevent, hsame⟩ := hstored
  exact ⟨event, hevent, hsame.symm⟩

omit [DecidableEq K] in
/-- The query for a key finds an event of that key. -/
theorem Kept.find_eq_some (h : Kept given state) {key : String}
    (hfound : state.log.rows.find? (·.idempotencyKey = key) = some row) :
    ∃ event ∈ state.appended, event.form.persisted = row ∧ event.form.idempotencyKey = key := by
  obtain ⟨event, hevent, hrow⟩ := (mem_rows h).mp (List.mem_of_find?_eq_some hfound)
  have hkey := List.find?_some hfound
  rw [← hrow, decide_eq_true_eq] at hkey
  exact ⟨event, hevent, hrow, hkey⟩

omit [DecidableEq K] in
/-- It is the only one. -/
theorem Kept.find_key (h : Kept given state)
    (hevent : event ∈ state.appended) :
    state.log.rows.find? (·.idempotencyKey = event.form.idempotencyKey) =
      some event.form.persisted := by
  cases hfound : state.log.rows.find? (·.idempotencyKey = event.form.idempotencyKey) with
  | none =>
    rw [List.find?_eq_none] at hfound
    have hother := hfound event.form.persisted ((mem_rows h).mpr ⟨event, hevent, rfl⟩)
    exact absurd (decide_eq_true rfl) hother
  | some row =>
    obtain ⟨other, hother, hrow, hkey⟩ := h.find_eq_some hfound
    rw [← hrow, List.inj_on_of_nodup_map h.keys hother hevent hkey]

omit [DecidableEq K] in
/-- What `append` answers to an event whose key is in the table. -/
theorem check_of_found
    (hvalid : event.validate library = .ok ())
    (hfound : state.log.rows.find? (·.idempotencyKey = event.form.idempotencyKey) = some row) :
    state.log.check library event =
      if row.eventId ≠ event.form.eventId then
        some (.error (.store "command_event_idempotency_conflict"))
      else some (.ok false) := by
  rw [EventLog.check, hvalid]
  simp only [hfound]

omit [DecidableEq K] in
/-- The answer False is given to an event whose key and identifier are stored. -/
theorem check_false (h : state.log.check library event = some (.ok false)) :
    ∃ row, state.log.rows.find? (·.idempotencyKey = event.form.idempotencyKey) = some row ∧
      row.eventId = event.form.eventId := by
  cases hvalid : event.validate library with
  | error error =>
    rw [EventLog.check, hvalid] at h
    cases h
  | ok _ =>
    cases hfound : state.log.rows.find? (·.idempotencyKey = event.form.idempotencyKey) with
    | some row =>
      rw [check_of_found hvalid hfound] at h
      by_cases hid : row.eventId ≠ event.form.eventId
      · rw [if_pos hid] at h
        cases h
      · exact ⟨row, rfl, not_not.mp hid⟩
    | none =>
      rw [EventLog.check, hvalid] at h
      simp only [hfound, ne_eq, ite_not] at h
      cases hutc : event.form.occurredAtUtc library with
      | error error => simp [hutc, ite_eq_iff] at h
      | ok text => simp [hutc, ite_eq_iff] at h

theorem step_check {connection : K} {answer : Except EventError Bool}
    (h : (state.log.step library (.check connection event)).2 = some answer) :
    state.log.check library event = some answer := by
  rw [EventLog.step] at h
  cases hpending : state.log.pending connection with
  | some held => simp [hpending] at h
  | none =>
    cases hcheck : state.log.check library event with
    | some other => simpa [hpending, hcheck] using h
    | none => simp [hpending, hcheck] at h

/-- What a step does in a run of consistent events. -/
theorem Kept.reliable (h : Kept given state) {next : LogStep K N}
    (hnext : ∀ event ∈ LogStep.given [next], event ∈ given)
    (hplain : ∀ event ∈ given, event.IsPlain)
    (hrepeated : ∀ event ∈ given, ∀ other ∈ given,
      event.form.idempotencyKey = other.form.idempotencyKey →
        event.form.eventId = other.form.eventId → event.Same other) :
    Reliable library state next where
  repeated := by
    rintro connection event rfl hanswer
    obtain ⟨row, hfound, hid⟩ := check_false (step_check hanswer)
    obtain ⟨stored, hstored, hrow, hkey⟩ := h.find_eq_some hfound
    have hgiven := h.appended stored hstored
    have hsame : stored.Same event := by
      apply hrepeated stored hgiven event (hnext event List.mem_cons_self) hkey
      rw [← hid, ← hrow]
      rfl
    refine ⟨GivenEvent.ofRow row, List.mem_map_of_mem (List.mem_of_find?_eq_some hfound), ?_⟩
    rw [← hrow]
    exact (hplain stored hgiven).ofRow.trans hsame
  conflicting := by
    rintro connection event rfl hidle hvalid ⟨stored, hstored, hkey, hid⟩
    obtain ⟨known, hknown, rfl⟩ := h.exists_stored hstored
    have hfound := h.find_key hknown
    have hsame : known.form.idempotencyKey = event.form.idempotencyKey := hkey
    rw [hsame] at hfound
    have hcheck := check_of_found hvalid hfound
    have hdiffers : known.form.persisted.eventId ≠ event.form.eventId := hid
    rw [if_pos hdiffers] at hcheck
    rw [EventLog.step, hidle, hcheck]
  identified := by
    rintro connection event rfl hpending ⟨stored, hstored, hid⟩
    obtain ⟨known, hknown, rfl⟩ := h.exists_stored hstored
    have hidentified : state.log.store.identified event.form :=
      ⟨known.form.persisted, (mem_rows h).mpr ⟨known, hknown, rfl⟩, hid.symm⟩
    rw [step_insert hpending, if_pos (.inl hidentified)]
  readAll := (h.step hnext).readAll hplain

end Logged

variable [DecidableEq K]

/-- In a run of consistent events every answer is right about the stored ones, and the
appended events are read back in their order. -/
theorem consistent_round_trip (library : Library N) {steps : List (LogStep K N)}
    (h : Consistent steps) (before : List (LogStep K N)) (next : LogStep K N)
    (hinitial : before ++ [next] <+: steps) :
    Reliable library (Logged.after library before) next := by
  have hgiven : ∀ event ∈ LogStep.given (before ++ [next]), event ∈ LogStep.given steps :=
    fun event hevent => (hinitial.sublist.filterMap _).subset hevent
  have hsplit : LogStep.given (before ++ [next]) =
      LogStep.given before ++ LogStep.given [next] := List.filterMap_append
  rw [hsplit] at hgiven
  have hkept : Logged.Kept (LogStep.given steps) (Logged.after library before) :=
    (Logged.kept_after library before).mono fun event hevent =>
      hgiven event (List.mem_append_left _ hevent)
  apply hkept.reliable
  · intro event hevent
    exact hgiven event (List.mem_append_right _ hevent)
  · exact h.plain
  · exact h.repeated

/-! ## A repeated event and a pair -/

/-- An event of key `k` and identifier `a` with the value for `"v"`. -/
def noted (value : Data ℕ) : GivenEvent ℕ :=
  .ofColumns (institutionEvent "a" "k" ∅) ((∅ : Dict String (Data ℕ)).insert "v" value)

/-- The event is appended, and then one of another value. -/
def changedRepetition : List (LogStep Unit ℕ) :=
  [.check () (noted (.number 1)), .insert ()]

theorem changed_repetition_answers_false :
    ¬Reliable asciiLibrary (Logged.after asciiLibrary changedRepetition)
      (.check () (noted (.number 2))) := by
  intro h
  obtain ⟨stored, hstored, hsame⟩ := h.repeated () (noted (.number 2)) rfl (by decide +kernel)
  have hall : (Logged.after asciiLibrary changedRepetition).log.readAll =
      [GivenEvent.ofRow (noted (.number 1)).form.persisted] := rfl
  rw [hall, List.mem_singleton] at hstored
  have hpayload := hsame.payload "v"
  rw [hstored] at hpayload
  have hvalues : some (Data.number 1) = some (Data.number 2) := hpayload
  cases hvalues

theorem plain_repetition_round_trip :
    Consistent (changedRepetition ++ [.check () (noted (.number 1))]) ∧
      Reliable asciiLibrary (Logged.after asciiLibrary changedRepetition)
        (.check () (noted (.number 1))) := by
  have h : Consistent (changedRepetition ++ [.check () (noted (.number 1))]) := by
    have hgiven : LogStep.given (changedRepetition ++ [.check () (noted (.number 1))]) =
        [noted (.number 1), noted (.number 1)] := rfl
    constructor
    · rw [hgiven]
      intro event hevent key value hvalue
      have hnoted : event = noted (.number 1) := by simpa using hevent
      have hpayload : event.payload = (∅ : Dict String (Data ℕ)).insert "v" (.number 1) := by
        rw [hnoted]
        rfl
      rw [hpayload, Dict.lookup_insert_eq] at hvalue
      by_cases hkey : key = "v"
      · rw [if_pos hkey] at hvalue
        rw [← Option.some.inj hvalue]
        rfl
      · rw [if_neg hkey] at hvalue
        cases hvalue
    · rw [hgiven]
      intro event hevent other hother _ _
      have hfirst : event = noted (.number 1) := by simpa using hevent
      have hsecond : other = noted (.number 1) := by simpa using hother
      rw [hfirst, hsecond]
      exact ⟨rfl, fun _ => rfl⟩
  exact ⟨h, consistent_round_trip asciiLibrary h _ _ (List.prefix_refl _)⟩

end ReisOs.Command
