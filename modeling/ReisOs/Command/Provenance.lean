import ReisOs.Command.Projections

/-!
# Where projected entries come from

Each event writes at most one entry of the state, so that an entry is the one of the last
event that writes it.  It tells that event's provenance where the data does not say
otherwise.
-/

namespace ReisOs.Command

open ReisOs.Core

variable {N : Type}

/-- The places of entries in the state. -/
inductive Slot where
  | institution
  | ocs (ocsId : String)
  | operation (key : String)
  | gate (key : String)
  | evidence (key : String)
  | systemHealth
  | map (key : String)
  deriving DecidableEq, Repr

def ProjectionState.entry (state : ProjectionState N) : Slot → Option (Mapping N)
  | .institution => some state.institution
  | .ocs ocsId => state.ocs.lookup ocsId
  | .operation key => state.operations.lookup key
  | .gate key => state.gates.lookup key
  | .evidence key => state.evidence.lookup key
  | .systemHealth => some state.systemHealth
  | .map key => state.maps.lookup key

namespace CommandEvent

/-- The place that an event writes. -/
def target (library : Library N) (event : CommandEvent N) : Option Slot :=
  if event.kind = some "institution" then some .institution
  else if event.kind = some "ocs" then event.ocsId.map .ocs
  else if event.kind = some "operation" then some (.operation event.operationKey)
  else if event.kind = some "gate" then some (.gate (event.dataKey library "gate_id"))
  else if event.kind = some "evidence" ∨ event.kind = some "receipt" then
    some (.evidence (event.dataKey library "evidence_id"))
  else if event.kind = some "system_health" then some .systemHealth
  else if event.kind = some "map" then some (.map (event.dataKey library "map_id"))
  else none

/-- What an event writes. -/
def entry (library : Library N) (event : CommandEvent N) (occurredAt : String) :
    Mapping N :=
  let entry := (event.common occurredAt).insertAll event.data
  if event.kind = some "system_health" then
    entry.insert "status" (.string (event.status library))
  else entry

theorem isOneOf_kind {event : CommandEvent N} {texts : List String} {found : Bool}
    (h : isOneOf texts (event.payload.lookup "projection") = .ok found) :
    found = true ↔ ∃ text ∈ texts, event.kind = some text := by
  rw [kind]
  cases hkind : event.payload.lookup "projection" with
  | none =>
    rw [hkind] at h
    cases h
    simp
  | some json =>
    rw [hkind] at h
    cases json with
    | array items => cases h
    | object fields => cases h
    | null | bool _ | number _ =>
      cases h
      simp [Json.asString]
    | string text =>
      cases h
      simp [Json.asString]

end CommandEvent

namespace ProjectionState

/-- Assigning the entry of a place. -/
def write (state : ProjectionState N) : Slot → Mapping N → ProjectionState N
  | .institution, entry => { state with institution := entry }
  | .ocs ocsId, entry => { state with ocs := state.ocs.insert ocsId entry }
  | .operation key, entry => { state with operations := state.operations.insert key entry }
  | .gate key, entry => { state with gates := state.gates.insert key entry }
  | .evidence key, entry => { state with evidence := state.evidence.insert key entry }
  | .systemHealth, entry => { state with systemHealth := entry }
  | .map key, entry => { state with maps := state.maps.insert key entry }

theorem entry_write (state : ProjectionState N) (slot other : Slot) (entry : Mapping N) :
    (state.write slot entry).entry other =
      if slot = other then some entry else state.entry other := by
  cases slot <;> cases other <;>
    simp [write, ProjectionState.entry, Dict.lookup_insert_eq, eq_comm]

/-- The state with an event added to its list. -/
def record (state : ProjectionState N) (event : CommandEvent N) (occurredAt : String) :
    ProjectionState N :=
  let payload := event.payload.entries.map fun entry => (entry.1, entry.2)
  { state with
    events := state.events ++
      [(event.common occurredAt).insertAll [("payload", .object payload)]] }

/-- `apply` lists the event and writes its entry. -/
theorem apply_ok {library : Library N} {state after : ProjectionState N}
    {event : CommandEvent N} (h : state.apply library event = .ok after) :
    ∃ occurredAt, event.occurredAtUtc library = .ok occurredAt ∧
      after = match event.target library with
        | none => state.record event occurredAt
        | some slot =>
          (state.record event occurredAt).write slot (event.entry library occurredAt) := by
  rw [apply] at h
  cases htext : event.occurredAtUtc library with
  | error error =>
    rw [htext] at h
    cases h
  | ok occurredAt =>
    refine ⟨occurredAt, rfl, ?_⟩
    simp only [htext] at h
    rw [CommandEvent.target, CommandEvent.entry]
    by_cases hinstitution : event.kind = some "institution"
    · simp only [hinstitution, reduceIte] at h ⊢
      cases h
      rfl
    rw [if_neg hinstitution] at h ⊢
    by_cases hocs : event.kind = some "ocs"
    · rw [if_pos hocs] at h ⊢
      cases hid : event.ocsId with
      | none =>
        simp only [hid] at h
        cases h
        rfl
      | some ocsId =>
        simp only [hid, hocs] at h ⊢
        cases h
        rfl
    rw [if_neg hocs] at h ⊢
    by_cases hoperation : event.kind = some "operation"
    · simp only [hoperation, reduceIte] at h ⊢
      cases h
      rfl
    rw [if_neg hoperation] at h ⊢
    by_cases hgate : event.kind = some "gate"
    · simp only [hgate, reduceIte] at h ⊢
      cases h
      rfl
    rw [if_neg hgate] at h ⊢
    cases hone : isOneOf ["evidence", "receipt"] (event.payload.lookup "projection") with
    | error error =>
      rw [hone] at h
      cases h
    | ok found =>
      have hfound : found = true ↔
          event.kind = some "evidence" ∨ event.kind = some "receipt" := by
        simpa using CommandEvent.isOneOf_kind hone
      rw [hone] at h
      cases found with
      | true =>
        have hkind := hfound.mp rfl
        have hhealth : event.kind ≠ some "system_health" := by
          rcases hkind with hkind | hkind <;> simp [hkind]
        rw [if_pos hkind, if_neg hhealth]
        cases h
        rfl
      | false =>
        rw [if_neg (fun hkind => nomatch hfound.mpr hkind)]
        by_cases hhealth : event.kind = some "system_health"
        · simp only [hhealth, reduceIte] at h ⊢
          cases h
          rfl
        simp only [if_neg hhealth] at h ⊢
        by_cases hmap : event.kind = some "map"
        · rw [if_pos hmap] at h ⊢
          cases h
          rfl
        · rw [if_neg hmap] at h ⊢
          cases h
          rfl

theorem entry_apply {library : Library N} {state after : ProjectionState N}
    {event : CommandEvent N} (h : state.apply library event = .ok after) :
    ∃ occurredAt, event.occurredAtUtc library = .ok occurredAt ∧
      ∀ slot, after.entry slot =
        if event.target library = some slot then some (event.entry library occurredAt)
        else state.entry slot := by
  obtain ⟨occurredAt, htext, rfl⟩ := apply_ok h
  refine ⟨occurredAt, htext, ?_⟩
  intro slot
  have hrecord : (state.record event occurredAt).entry slot = state.entry slot := by
    cases slot <;> rfl
  cases htarget : event.target library with
  | none => simpa using hrecord
  | some written => simp [entry_write, hrecord]

end ProjectionState

/-! ## The last event of a place -/

/-- The event that an entry comes from. -/
def producer (library : Library N) (log : List (CommandEvent N)) (slot : Slot) :
    Option (CommandEvent N) :=
  (log.filter fun event => event.target library = some slot).getLast?

/-- The occurrence of an event as an entry tells it. -/
def CommandEvent.occurredText (library : Library N) (event : CommandEvent N) : String :=
  (library.utcText event.occurredAt).getD ""

variable {library : Library N}

theorem CommandEvent.occurredText_eq {event : CommandEvent N}
    {occurredAt : String} (h : event.occurredAtUtc library = .ok occurredAt) :
    event.occurredText library = occurredAt := by
  rw [occurredAtUtc] at h
  rw [occurredText]
  cases htext : library.utcText event.occurredAt with
  | none =>
    rw [htext] at h
    cases h
  | some text =>
    rw [htext] at h
    exact Except.ok.inj h

/-- Every place holds what its last event wrote, or what it held at the start. -/
theorem entry_foldlM {log : List (CommandEvent N)}
    {start state : ProjectionState N}
    (h : log.foldlM (ProjectionState.apply library) start = .ok state) (slot : Slot) :
    state.entry slot =
      match producer library log slot with
      | none => start.entry slot
      | some event => some (event.entry library (event.occurredText library)) := by
  induction log generalizing start with
  | nil =>
    cases h
    rfl
  | cons event log ih =>
    rw [List.foldlM_cons] at h
    cases hfirst : start.apply library event with
    | error error =>
      rw [hfirst] at h
      cases h
    | ok next =>
      rw [hfirst] at h
      obtain ⟨occurredAt, htext, hentry⟩ := ProjectionState.entry_apply hfirst
      have hrest := ih h
      rw [hentry slot, ← CommandEvent.occurredText_eq htext] at hrest
      rw [hrest, producer, producer, List.filter_cons]
      by_cases htarget : event.target library = some slot
      · rw [if_pos htarget, if_pos (decide_eq_true htarget), List.getLast?_cons]
        cases (log.filter fun event => event.target library = some slot).getLast? with
        | none => rfl
        | some last => rfl
      · rw [if_neg htarget, if_neg (by simpa using htarget)]

theorem entry_rebuild {log : List (CommandEvent N)}
    {state : ProjectionState N} (h : rebuild library log = .ok state) (slot : Slot) :
    state.entry slot =
      match producer library log slot with
      | none => ProjectionState.init.entry slot
      | some event => some (event.entry library (event.occurredText library)) :=
  entry_foldlM h slot

/-! ## Provenance -/

namespace CommandEvent

/-- The entry has the provenance of the event. -/
def Carries (library : Library N) (event : CommandEvent N) (entry : Mapping N) : Prop :=
  ∀ field ∈ event.provenance (event.occurredText library),
    entry.lookup field.1 = some field.2

/-- The data of the event says nothing else about its provenance. -/
def KeepsProvenance (library : Library N) (event : CommandEvent N) : Prop :=
  ∀ field ∈ event.provenance (event.occurredText library), ∀ value,
    event.datum field.1 = some value → value = field.2

theorem lookup_common (event : CommandEvent N) (occurredAt : String)
    {field : String × Json N} (h : field ∈ event.provenance occurredAt) :
    (event.common occurredAt).lookup field.1 = some field.2 := by
  rw [common, Dict.lookup_insertAll]
  simp only [provenance, List.mem_cons, List.not_mem_nil, or_false] at h
  rcases h with rfl | rfl | rfl | rfl | rfl | rfl <;> simp [provenance]

theorem lookup_entry (library : Library N) (event : CommandEvent N) (occurredAt : String)
    {field : String × Json N} (h : field ∈ event.provenance occurredAt) :
    (event.entry library occurredAt).lookup field.1 =
      some ((event.datum field.1).getD field.2) := by
  have hmerged : ((event.common occurredAt).insertAll event.data).lookup field.1 =
      some ((event.datum field.1).getD field.2) := by
    rw [Dict.lookup_insertAll, lookup_common event occurredAt h, datum]
    cases (event.data.find? fun other => other.1 = field.1).map Prod.snd <;> rfl
  have hstatus : field.1 ≠ "status" := by
    simp only [provenance, List.mem_cons, List.not_mem_nil, or_false] at h
    rcases h with rfl | rfl | rfl | rfl | rfl | rfl <;> simp
  rw [entry]
  by_cases hhealth : event.kind = some "system_health"
  · simp only [if_pos hhealth, Dict.lookup_insert_eq, if_neg hstatus]
    exact hmerged
  · simp only [if_neg hhealth]
    exact hmerged

theorem carries_entry_iff (library : Library N) (event : CommandEvent N) :
    event.Carries library (event.entry library (event.occurredText library)) ↔
      event.KeepsProvenance library := by
  constructor
  · intro h field hfield value hvalue
    have hcarried := h field hfield
    rw [lookup_entry library event _ hfield, hvalue] at hcarried
    exact Option.some.inj hcarried
  · intro h field hfield
    rw [lookup_entry library event _ hfield]
    cases hvalue : event.datum field.1 with
    | none => rfl
    | some value =>
      rw [h field hfield value hvalue]
      rfl

theorem refs_of_status {library : Library N} {event : CommandEvent N}
    (h : event.status library ≠ "unknown") : event.evidenceRefs ≠ [] := by
  intro hrefs
  apply h
  simp only [status, hrefs, true_and]
  by_cases hstatus : library.str ((event.datum "status").getD (.string "unknown")) = "unknown"
  · rw [if_neg (not_not_intro hstatus), hstatus]
  · rw [if_pos hstatus]

theorem kind_of_target {library : Library N} {event : CommandEvent N}
    (h : event.target library = some .systemHealth) : event.kind = some "system_health" := by
  rw [target] at h
  split_ifs at h with hinstitution hocs hoperation hgate hevidence hhealth hmap
  · cases h
  · simp at h
  · cases h
  · cases h
  · cases h
  · exact hhealth
  · cases h

end CommandEvent

/-- Entries carry the provenance of the events they come from, the others are those of
the initial state, and a health status other than unknown comes with evidence. -/
structure Provenanced (library : Library N) (log : List (CommandEvent N))
    (state : ProjectionState N) : Prop where
  produced : ∀ slot event, producer library log slot = some event →
    ∃ entry, state.entry slot = some entry ∧ event.Carries library entry
  initial : ∀ slot, producer library log slot = none →
    state.entry slot = ProjectionState.init.entry slot
  health : state.systemHealth.lookup "status" ≠ some (.string "unknown") →
    ∃ refs, state.systemHealth.lookup "evidence_refs" = some (.array refs) ∧ refs ≠ []

/-- The state that a log is folded to has provenance if and only if no event that an
entry comes from overrides it in its data. -/
theorem provenanced_iff {library : Library N} {log : List (CommandEvent N)}
    {state : ProjectionState N} (h : rebuild library log = .ok state) :
    Provenanced library log state ↔
      ∀ slot event, producer library log slot = some event →
        event.KeepsProvenance library := by
  constructor
  · intro hprovenanced slot event hproducer
    obtain ⟨entry, hentry, hcarries⟩ := hprovenanced.produced slot event hproducer
    rw [entry_rebuild h slot, hproducer, Option.some.injEq] at hentry
    rw [← CommandEvent.carries_entry_iff, hentry]
    exact hcarries
  · intro hkeeps
    constructor
    · intro slot event hproducer
      refine ⟨event.entry library (event.occurredText library), ?_, ?_⟩
      · rw [entry_rebuild h slot, hproducer]
      · exact (CommandEvent.carries_entry_iff library event).mpr (hkeeps slot event hproducer)
    · intro slot hproducer
      rw [entry_rebuild h slot, hproducer]
    · intro hstatus
      have hslot := entry_rebuild h .systemHealth
      cases hproducer : producer library log .systemHealth with
      | none =>
        rw [hproducer] at hslot
        have hinitial : state.systemHealth = ProjectionState.init.systemHealth :=
          Option.some.inj hslot
        exact absurd (by rw [hinitial]; rfl) hstatus
      | some event =>
        rw [hproducer] at hslot
        have hentry : state.systemHealth =
            event.entry library (event.occurredText library) := Option.some.inj hslot
        have htarget : event.target library = some .systemHealth := by
          have hmem := List.mem_of_getLast? hproducer
          simpa using (List.mem_filter.mp hmem).2
        have hevidence : event.evidenceRefs ≠ [] := by
          apply @CommandEvent.refs_of_status N library
          intro hunknown
          apply hstatus
          rw [hentry, CommandEvent.entry,
            if_pos (CommandEvent.kind_of_target htarget), Dict.lookup_insert_eq,
            if_pos rfl, hunknown]
        have hcarries := (CommandEvent.carries_entry_iff library event).mpr
          (hkeeps .systemHealth event hproducer)
        refine ⟨event.evidenceRefs.map .string, ?_, by simpa using hevidence⟩
        rw [hentry]
        exact hcarries ("evidence_refs", _) (by simp [CommandEvent.provenance])

/-! ## Data that overrides -/

/-- An event with data that projects to the institution. -/
def institutionReport (data : List (String × Json ℕ)) : CommandEvent ℕ :=
  institutionEvent "a" "k"
    (Dict.insertAll ∅ [("projection", .string "institution"), ("data", .object data)])

theorem provenanced_iff_report :
    ∃ state, rebuild asciiLibrary [institutionReport [("name", .string "n")]] = .ok state ∧
      (Provenanced asciiLibrary [institutionReport [("name", .string "n")]] state ↔
        ∀ slot event,
          producer asciiLibrary [institutionReport [("name", .string "n")]] slot = some event →
            event.KeepsProvenance asciiLibrary) :=
  ⟨_, rfl, provenanced_iff rfl⟩

/-- Valid events can give another event's identifier in their data. -/
theorem provenance_overridden :
    ¬∀ log, (∀ event ∈ log, CommandEvent.validate asciiLibrary event = .ok ()) →
      ∀ state, rebuild asciiLibrary log = .ok state → Provenanced asciiLibrary log state := by
  intro hall
  have hvalid : CommandEvent.validate asciiLibrary
      (institutionReport [("event_id", .string "b")]) = .ok () := by rfl
  have hstate := hall [institutionReport [("event_id", .string "b")]]
    (by simpa using hvalid) _ rfl
  obtain ⟨entry, hentry, hcarries⟩ := hstate.produced .institution _ rfl
  have hmem : ("event_id", Json.string "a") ∈
      (institutionReport [("event_id", .string "b")]).provenance
        (CommandEvent.occurredText asciiLibrary
          (institutionReport [("event_id", .string "b")])) := List.mem_cons_self
  have htold := hcarries _ hmem
  cases hentry
  have hforged : some (Json.string "b") = some (Json.string "a") := htold
  simp at hforged

end ReisOs.Command
