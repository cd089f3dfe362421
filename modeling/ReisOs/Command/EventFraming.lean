import ReisOs.Command.InstanceFeed
import ReisOs.Command.Projections
import ReisOs.Core.AsciiText
import ReisOs.Core.ServerSentEvents
import ReisOs.Core.SortedKeys

/-!
# The frames of a realtime batch

`encode_sse` writes the data of an event as JSON, which has no line ends, and the type of
the event as it is.
-/

namespace ReisOs.Command

open ReisOs.Core ReisOs.Core.JsonText ReisOs.Core.ServerSentEvents

variable {N : Type}

/-! ## Encoding -/

/-- The data of an event; `number` is the number of an integer. -/
def eventDocument (number : ℤ → N) (event : CommandEvent N) : Json N :=
  .object
    [("event_id", .string event.eventId), ("event_type", .string event.eventType),
      ("sequence", .number (number event.sequence)), ("source", .string event.source),
      ("source_version", .string event.sourceVersion),
      ("freshness", .string event.freshness.value),
      ("causation_id", optionalText event.causationId),
      ("correlation_id", optionalText event.correlationId),
      ("evidence_refs", .array (event.evidenceRefs.map .string)),
      ("payload", .object (event.payload.entries.map fun entry => (entry.1, entry.2)))]

/-- The data of the cursor frame. -/
def controlDocument (number : ℤ → N) (observedAt : String) (batch : RealtimeBatch N) :
    Json N :=
  .object
    [("next_cursor", .number (number batch.nextCursor)),
      ("freshness", .string batch.freshness.value),
      ("disconnected", .bool batch.disconnected), ("observed_at", .string observedAt)]

/-- `json.dumps` with sorted keys. -/
def sortedText (format : NumberFormat N) (style : Style) (json : Json N) : List Char :=
  dumpsAscii format style (canonical json)

def encodeEvent (format : NumberFormat N) (number : ℤ → N) (event : CommandEvent N) :
    List Char :=
  "id: ".toList ++ event.sequence.repr.toList ++ "\nevent: ".toList ++
    event.eventType.toList ++ "\ndata: ".toList ++
    sortedText format .compact (eventDocument number event) ++ "\n\n".toList

def encodeControl (format : NumberFormat N) (number : ℤ → N) (observedAt : String)
    (batch : RealtimeBatch N) : List Char :=
  "event: command.cursor\ndata: ".toList ++
    sortedText format .spaced (controlDocument number observedAt batch) ++ "\n\n".toList

/-- The chunks that `encode_sse` yields; `observed_at` is the clock at the end. -/
def encodeSse (format : NumberFormat N) (number : ℤ → N) (observedAt : String)
    (batch : RealtimeBatch N) : List (List Char) :=
  batch.events.map (encodeEvent format number) ++
    [encodeControl format number observedAt batch]

/-! ## What is read -/

/-- A frame as a client uses it: the name of the event and its data. -/
def Frame.message (format : NumberFormat N) (frame : Frame) : List Char × Option (Json N) :=
  (frame.event, loadsAscii format frame.data)

/-- One frame for every event, in order, and then the cursor frame. -/
def messages (number : ℤ → N) (observedAt : String) (batch : RealtimeBatch N) :
    List (List Char × Option (Json N)) :=
  batch.events.map (fun event =>
      (event.eventType.toList, some (canonical (eventDocument number event)))) ++
    [("command.cursor".toList, some (canonical (controlDocument number observedAt batch)))]

/-- The stream of a batch is read as its messages. -/
def Framed (format : NumberFormat N) (number : ℤ → N) (observedAt : String)
    (batch : RealtimeBatch N) : Prop :=
  (parse (encodeSse format number observedAt batch).flatten).map (Frame.message format) =
    messages number observedAt batch

section Framing

variable {format : NumberFormat N} {number : ℤ → N} {observedAt : String}

theorem eventText_eq (sequence event data : List Char) :
    "id: ".toList ++ sequence ++ "\nevent: ".toList ++ event ++ "\ndata: ".toList ++ data ++
        "\n\n".toList =
      frameText [(['i', 'd'], sequence), (['e', 'v', 'e', 'n', 't'], event),
        (['d', 'a', 't', 'a'], data)] := by
  have hid : "id: ".toList = ['i', 'd', ':', ' '] := rfl
  have hevent : "\nevent: ".toList = ['\n', 'e', 'v', 'e', 'n', 't', ':', ' '] := rfl
  have hdata : "\ndata: ".toList = ['\n', 'd', 'a', 't', 'a', ':', ' '] := rfl
  have hend : "\n\n".toList = ['\n', '\n'] := rfl
  rw [hid, hevent, hdata, hend]
  simp only [frameText, fieldLine, List.flatMap_cons, List.flatMap_nil, List.append_assoc,
    List.cons_append, List.nil_append]

theorem controlText_eq (data : List Char) :
    "event: command.cursor\ndata: ".toList ++ data ++ "\n\n".toList =
      frameText [(['e', 'v', 'e', 'n', 't'], "command.cursor".toList),
        (['d', 'a', 't', 'a'], data)] := by
  have hcursor : "event: command.cursor\ndata: ".toList = ['e', 'v', 'e', 'n', 't', ':', ' '] ++
      "command.cursor".toList ++ ['\n', 'd', 'a', 't', 'a', ':', ' '] := rfl
  have hend : "\n\n".toList = ['\n', '\n'] := rfl
  rw [hcursor, hend]
  simp only [frameText, fieldLine, List.flatMap_cons, List.flatMap_nil, List.append_assoc,
    List.cons_append, List.nil_append]

theorem encodeEvent_eq (event : CommandEvent N) :
    encodeEvent format number event =
      frameText [(['i', 'd'], event.sequence.repr.toList),
        (['e', 'v', 'e', 'n', 't'], event.eventType.toList),
        (['d', 'a', 't', 'a'], sortedText format .compact (eventDocument number event))] :=
  eventText_eq _ _ _

theorem encodeControl_eq (batch : RealtimeBatch N) :
    encodeControl format number observedAt batch =
      frameText [(['e', 'v', 'e', 'n', 't'], "command.cursor".toList),
        (['d', 'a', 't', 'a'],
          sortedText format .spaced (controlDocument number observedAt batch))] :=
  controlText_eq _

theorem endsLine_of_ascii {c : Char} (h : 32 ≤ c.toNat) : endsLine c = false := by
  unfold endsLine
  rw [Bool.or_eq_false_iff, decide_eq_false_iff_not, decide_eq_false_iff_not]
  constructor
  · rintro rfl
    exact absurd h (by decide)
  · rintro rfl
    exact absurd h (by decide)

theorem unbroken_sortedText (format : NumberFormat N) (style : Style) (json : Json N) :
    Unbroken (sortedText format style json) := fun _ hc =>
  endsLine_of_ascii (mem_dumpsAscii hc).1

theorem unbroken_repr (value : ℤ) : Unbroken value.repr.toList := fun _ hc =>
  endsLine_of_ascii (plain_of_mem_repr hc).1

theorem unbroken_fieldLine {name value : List Char} (hname : Unbroken name)
    (hvalue : Unbroken value) : Unbroken (fieldLine name value) := by
  intro c hc
  cases List.mem_append.mp hc with
  | inl hleft => exact hname c hleft
  | inr hright =>
    simp only [List.mem_cons] at hright
    rcases hright with rfl | rfl | hin
    · rfl
    · rfl
    · exact hvalue c hin

theorem loadsAscii_sortedText (style : Style) (json : Json N) :
    loadsAscii format (sortedText format style json) = some (canonical json) :=
  loadsAscii_dumpsAscii format style (canonical json)

theorem fieldNames : Unbroken ['i', 'd'] ∧ Unbroken ['e', 'v', 'e', 'n', 't'] ∧
    Unbroken ['d', 'a', 't', 'a'] := by decide

theorem colonFree : ':' ∉ ['i', 'd'] ∧ ':' ∉ ['e', 'v', 'e', 'n', 't'] ∧
    ':' ∉ ['d', 'a', 't', 'a'] := by decide

theorem framesOf_encodeEvent (format : NumberFormat N) (number : ℤ → N)
    {event : CommandEvent N} (h : Unbroken event.eventType.toList)
    (htype : event.eventType.toList ≠ []) (lastEventId rest : List Char) :
    ∃ nextEventId, framesOf ⟨[], [], lastEventId⟩
        (lines (encodeEvent format number event ++ rest)) =
      ⟨event.eventType.toList, sortedText format .compact (eventDocument number event),
        nextEventId⟩ :: framesOf ⟨[], [], nextEventId⟩ (lines rest) := by
  have hdata := unbroken_sortedText format .compact (eventDocument number event)
  rw [encodeEvent_eq]
  generalize sortedText format .compact (eventDocument number event) = data at hdata
  generalize hsequence : event.sequence.repr.toList = sequence
  have hid : Unbroken sequence := hsequence ▸ unbroken_repr event.sequence
  refine ⟨if '\x00' ∈ sequence then lastEventId else sequence, ?_⟩
  apply framesOf_frameText _ _ htype
  · simp only [List.forall_mem_cons]
    exact ⟨unbroken_fieldLine fieldNames.1 hid, unbroken_fieldLine fieldNames.2.1 h,
      unbroken_fieldLine fieldNames.2.2 hdata, List.forall_mem_nil _⟩
  · rw [List.foldl_cons, List.foldl_cons, List.foldl_cons, List.foldl_nil, Buffers.field,
      Buffers.field, Buffers.field, process_fieldLine _ colonFree.1,
      process_fieldLine _ colonFree.2.1, process_fieldLine _ colonFree.2.2]
    by_cases hnull : '\x00' ∈ sequence
    · simp [hnull]
    · simp [hnull]

theorem framesOf_encodeControl (batch : RealtimeBatch N) (lastEventId : List Char) :
    framesOf ⟨[], [], lastEventId⟩
        (lines (encodeControl format number observedAt batch)) =
      [⟨"command.cursor".toList,
        sortedText format .spaced (controlDocument number observedAt batch), lastEventId⟩] := by
  have hdata := unbroken_sortedText format .spaced
    (controlDocument number observedAt batch)
  have hname : Unbroken "command.cursor".toList := by decide
  rw [encodeControl_eq]
  generalize sortedText format .spaced (controlDocument number observedAt batch) = data at hdata
  have hlines : ∀ field ∈ [(['e', 'v', 'e', 'n', 't'], "command.cursor".toList),
      (['d', 'a', 't', 'a'], data)], Unbroken (fieldLine field.1 field.2) := by
    simp only [List.forall_mem_cons]
    exact ⟨unbroken_fieldLine fieldNames.2.1 hname,
      unbroken_fieldLine fieldNames.2.2 hdata, List.forall_mem_nil _⟩
  have hfields : [(['e', 'v', 'e', 'n', 't'], "command.cursor".toList),
      (['d', 'a', 't', 'a'], data)].foldl Buffers.field ⟨[], [], lastEventId⟩ =
        ⟨"command.cursor".toList, data ++ ['\n'], lastEventId⟩ := by
    rw [List.foldl_cons, List.foldl_cons, List.foldl_nil, Buffers.field, Buffers.field,
      process_fieldLine _ colonFree.2.1, process_fieldLine _ colonFree.2.2]
    simp
  have hframe := framesOf_frameText hlines hfields (by decide) []
  rw [List.append_nil] at hframe
  rw [hframe]
  rfl

theorem framesOf_encodeEvents (format : NumberFormat N) (number : ℤ → N)
    {events : List (CommandEvent N)}
    (h : ∀ event ∈ events, Unbroken event.eventType.toList)
    (htypes : ∀ event ∈ events, event.eventType.toList ≠ []) (lastEventId rest : List Char) :
    ∃ frames nextEventId, framesOf ⟨[], [], lastEventId⟩
        (lines ((events.map (encodeEvent format number)).flatten ++ rest)) =
          frames ++ framesOf ⟨[], [], nextEventId⟩ (lines rest) ∧
      frames.map (Frame.message format) = events.map fun event =>
        (event.eventType.toList, some (canonical (eventDocument number event))) := by
  induction events generalizing lastEventId with
  | nil => exact ⟨[], lastEventId, rfl, rfl⟩
  | cons event events ih =>
    rw [List.forall_mem_cons] at h htypes
    obtain ⟨middle, hfirst⟩ := framesOf_encodeEvent format number h.1
      htypes.1 lastEventId ((events.map (encodeEvent format number)).flatten ++ rest)
    obtain ⟨frames, nextEventId, hframes, hmessages⟩ := ih h.2 htypes.2 middle
    refine ⟨⟨event.eventType.toList,
      sortedText format .compact (eventDocument number event), middle⟩ :: frames,
      nextEventId, ?_, ?_⟩
    · rw [List.map_cons, List.flatten_cons, List.append_assoc, hfirst, hframes]
      rfl
    · rw [List.map_cons, List.map_cons, hmessages, Frame.message, loadsAscii_sortedText]

theorem framed_of_unbroken {batch : RealtimeBatch N}
    (h : ∀ event ∈ batch.events, Unbroken event.eventType.toList)
    (htypes : ∀ event ∈ batch.events, event.eventType.toList ≠ []) :
    Framed format number observedAt batch := by
  obtain ⟨frames, lastEventId, hframes, hmessages⟩ := framesOf_encodeEvents format
    number h htypes [] (encodeControl format number observedAt batch)
  rw [Framed, parse, encodeSse, List.flatten_append, List.flatten_singleton, hframes,
    framesOf_encodeControl, List.map_append, hmessages, messages, List.map_singleton,
    Frame.message, loadsAscii_sortedText]

theorem unbroken_of_framed {batch : RealtimeBatch N}
    (h : Framed format number observedAt batch) :
    ∀ event ∈ batch.events, Unbroken event.eventType.toList := by
  intro event hevent
  have hmem : (event.eventType.toList, some (canonical (eventDocument number event))) ∈
      messages number observedAt batch :=
    List.mem_append_left _ (List.mem_map_of_mem hevent)
  rw [← h] at hmem
  obtain ⟨frame, hframe, hmessage⟩ := List.mem_map.mp hmem
  rw [← (Prod.mk.inj hmessage).1]
  exact unbroken_parse _ frame hframe

theorem eventType_ne_nil {library : Library N} {event : CommandEvent N}
    (h : event.validate library = .ok ()) : event.eventType.toList ≠ [] := by
  intro hnil
  have hblank : event.required.any isBlankText = true := by
    rw [List.any_eq_true]
    refine ⟨event.eventType, by simp [CommandEvent.required], ?_⟩
    rw [isBlankText, hnil]
    rfl
  rw [CommandEvent.validate, if_pos hblank] at h
  cases h

end Framing

/-- The stream of a batch of valid events is read as one frame for every event and the
cursor frame exactly where no type of an event ends a line. -/
theorem framed_iff {library : Library N} {format : NumberFormat N} {number : ℤ → N}
    {observedAt : String} {batch : RealtimeBatch N}
    (hvalid : ∀ event ∈ batch.events, event.validate library = .ok ()) :
    Framed format number observedAt batch ↔
      ∀ event ∈ batch.events, ∀ c ∈ event.eventType.toList, c ≠ '\n' ∧ c ≠ '\r' := by
  have hunbroken : (∀ event ∈ batch.events, Unbroken event.eventType.toList) ↔
      ∀ event ∈ batch.events, ∀ c ∈ event.eventType.toList, c ≠ '\n' ∧ c ≠ '\r' := by
    simp only [Unbroken, endsLine, Bool.or_eq_false_iff, decide_eq_false_iff_not, ne_eq]
  rw [← hunbroken]
  constructor
  · exact unbroken_of_framed
  · intro h
    exact framed_of_unbroken h fun event hevent => eventType_ne_nil (hvalid event hevent)

/-- A library for events without numbers. -/
def wordLibrary : Library ℤ where
  str json := json.asString.getD ""
  casefold := id
  utcText _ := some "t"

/-- A batch of one event with the given type. -/
def typedBatch (eventType : String) : RealtimeBatch ℤ where
  events :=
    [{ eventId := "e"
       eventType
       schemaVersion := "1"
       occurredAt := ⟨0, some 0⟩
       source := "s"
       sourceVersion := "1"
       institutionId := "i"
       ocsId := none
       projectId := none
       runId := none
       causationId := none
       correlationId := none
       sequence := 1
       idempotencyKey := "k"
       freshness := .live
       evidenceRefs := []
       payload := ∅ }]
  nextCursor := 1
  disconnected := false
  freshness := .live

theorem framed_iff_plain :
    Framed integerFormat id "t" (typedBatch "operation.updated") ↔
      ∀ event ∈ (typedBatch "operation.updated").events, ∀ c ∈ event.eventType.toList,
        c ≠ '\n' ∧ c ≠ '\r' := by
  have hvalid : ∀ event ∈ (typedBatch "operation.updated").events,
      event.validate wordLibrary = .ok () := by
    intro event hevent
    rw [List.mem_singleton.mp hevent]
    rfl
  exact framed_iff hvalid

/-- A type that ends its frame and begins another one with a cursor of its own. -/
theorem forged_cursor_not_framed :
    (∀ event ∈ (typedBatch "e\ndata: {}\n\nevent: command.cursor").events,
        event.validate wordLibrary = .ok ()) ∧
      ¬ Framed integerFormat id "t"
        (typedBatch "e\ndata: {}\n\nevent: command.cursor") := by
  constructor
  · intro event hevent
    rw [List.mem_singleton.mp hevent]
    rfl
  · intro h
    have hunbroken := unbroken_of_framed h _ (List.mem_singleton_self _)
    exact absurd (hunbroken '\n' (by decide)) (by decide)

end ReisOs.Command
