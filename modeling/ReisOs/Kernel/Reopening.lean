import Mathlib.Logic.Encodable.Basic
import Mathlib.Logic.Equiv.List
import ReisOs.Core.Identifiers
import ReisOs.Kernel.AuditFile

/-!
# Reopening an identity audit log

Every event is read back from its own line, up to the normal form of its dictionaries.
Whether a whole file can be read back depends on the strings of its events: three
characters are written as they are and end a line when the file is read.  The chain of
what is read depends on the keys of its dictionaries.
-/

namespace ReisOs.Kernel.AuditFile

open ReisOs.Core ReisOs.Core.JsonText

variable {N : Type} {numbers : Numbers N} {clock : Time → N} {digest : List Char → String}

/-! ## One event -/

/-- The event that is read back from an event's line. -/
def rereadEvent (event : IdentityLogEvent N) : IdentityLogEvent N :=
  { event with
    binding := PyValue.reread event.binding
    details := PyValue.reread event.details }

theorem nodup_eventData (event : IdentityLogEvent N) :
    ((eventData numbers event).map Prod.fst).Nodup := by
  have hkeys : (eventData numbers event).map Prod.fst =
      ["sequence", "event_type", "run_id", "ocs_id", "binding", "details",
        "predecessor_hash", "event_hash"] := rfl
  rw [hkeys]
  decide

variable {event : IdentityLogEvent N}

theorem item_eventData {name : String} {value : PyValue N}
    (h : PyValue.item name (.dict (eventData numbers event)) = some value) :
    PyValue.item name (PyValue.dict (eventData numbers event)).readBack =
      some value.readBack := PyValue.item_readBack (nodup_eventData event) h

theorem asTextOrNone_textOrNone (text : Option String) :
    asTextOrNone (textOrNone text : PyValue N).readBack = some text := by
  cases text <;> rfl

theorem eventOf_eventData (event : IdentityLogEvent N) :
    eventOf numbers (PyValue.dict (eventData numbers event)).readBack =
      some (rereadEvent event) := by
  have hsequence : asInt numbers
      (PyValue.number (numbers.ofInt event.sequence)).readBack =
        some event.sequence := numbers.toInt_ofInt event.sequence
  have htext (text : String) :
      asText (PyValue.string text : PyValue N).readBack = some text := rfl
  have hdict (fields : Fields N) :
      asDict (PyValue.dict fields).readBack = some (PyValue.reread fields) := rfl
  rw [eventOf, item_eventData rfl, item_eventData rfl, item_eventData rfl,
    item_eventData rfl, item_eventData rfl, item_eventData rfl, item_eventData rfl,
    item_eventData rfl]
  simp only [Option.bind_some, hsequence, htext, hdict, asTextOrNone_textOrNone]
  rfl

theorem loads_dumps (style : Style) (fields : Fields N) :
    loads numbers (dumps numbers style fields) =
      some (PyValue.dict fields).readBack := by
  rw [loads, dumps, read_write]
  rfl

theorem loadLine_dumps (event : IdentityLogEvent N) :
    loadLine numbers (dumps numbers .spaced (eventData numbers event)) =
      .ok (rereadEvent event) := by
  rw [loadLine, loads_dumps]
  simp only
  rw [eventOf_eventData]

theorem loadLine_cut {fields : Fields N} {front back : List Char}
    (h : dumps numbers .spaced fields = front ++ back) (hfront : front ≠ [])
    (hback : back ≠ []) : loadLine numbers front = .error .jsonDecodeError := by
  rw [loadLine, loads, read_cut h hfront hback]
  rfl

/-! ## Strings that break lines -/

/-- The characters that end a line and that the writer leaves as they are. -/
def keptBreaks : List Char := ['\x85', '\u2028', '\u2029']

/-- The text has none of them. -/
def Unbroken (text : String) : Prop := ∀ c ∈ text.toList, c ∉ keptBreaks

instance (text : String) : Decidable (Unbroken text) := List.decidableBAll _ _

theorem isLineBreak_eq_false_of_plain {c : Char} (h : Plain c) : isLineBreak c = false := by
  by_contra hbreak
  rw [Bool.not_eq_false, isLineBreak, decide_eq_true_eq] at hbreak
  have hnone : lineBreaks.all (fun d => decide ¬ Plain d) = true := by decide
  exact of_decide_eq_true (List.all_eq_true.mp hnone c hbreak) h

theorem isLineBreak_iff {c : Char} (h : 128 ≤ c.toNat) :
    isLineBreak c = true ↔ c ∈ keptBreaks := by
  rw [isLineBreak, decide_eq_true_eq]
  constructor
  · intro hbreak
    have hall : lineBreaks.all (fun d => decide (128 ≤ d.toNat → d ∈ keptBreaks)) = true := by
      decide
    exact of_decide_eq_true (List.all_eq_true.mp hall c hbreak) h
  · exact fun hkept => List.mem_of_mem_drop (show c ∈ lineBreaks.drop 7 from hkept)

theorem not_ascii_of_kept {c : Char} (h : c ∈ keptBreaks) : 128 ≤ c.toNat := by
  have hall : keptBreaks.all (fun d => decide (128 ≤ d.toNat)) = true := by decide
  exact of_decide_eq_true (List.all_eq_true.mp hall c h)

theorem dumps_unbroken_iff (numbers : Numbers N) (style : Style) (fields : Fields N) :
    (∀ c ∈ dumps numbers style fields, isLineBreak c = false) ↔
      ∀ text ∈ (PyValue.dict fields).strings, Unbroken text := by
  constructor
  · intro h text htext c hc hkept
    have hascii : 128 ≤ c.toNat := not_ascii_of_kept hkept
    have hwritten : c ∈ dumps numbers style fields :=
      write_mem _ (PyValue.strings_mem_document _ htext) hc hascii
    have hbreak : isLineBreak c = true := (isLineBreak_iff hascii).mpr hkept
    rw [h c hwritten] at hbreak
    cases hbreak
  · intro h c hc
    rcases mem_write _ hc with hplain | ⟨text, htext, hmem, hascii⟩
    · exact isLineBreak_eq_false_of_plain hplain
    · by_contra hbreak
      rw [Bool.not_eq_false, isLineBreak_iff hascii] at hbreak
      rcases PyValue.strings_document _ htext with hfound | ⟨key, rfl⟩
      · exact h text hfound c hmem hbreak
      · have hplain := plain_of_mem_repr hmem
        exact absurd hascii (Nat.not_le.mpr hplain.2)

/-! ## The file -/

def lineOf (numbers : Numbers N) (event : IdentityLogEvent N) : List Char :=
  dumps numbers .spaced (eventData numbers event) ++ ['\n']

theorem dumps_head (numbers : Numbers N) (fields : Fields N) :
    ∃ rest, dumps numbers .spaced fields = '{' :: rest := ⟨_, rfl⟩

theorem all_isSpace_object (rest : List Char) : ('{' :: rest).all isSpace = false := by
  rw [List.all_cons]
  rfl

variable {events : List (IdentityLogEvent N)}

theorem loadLines_whole
    (h : ∀ event ∈ events, ∀ text ∈ (PyValue.dict (eventData numbers event)).strings,
      Unbroken text) :
    loadLines numbers (splitlines (events.flatMap (lineOf numbers))) =
      .ok (events.map rereadEvent) := by
  induction events with
  | nil => rfl
  | cons event events ih =>
    have hrest := ih fun later hlater => h later (List.mem_cons_of_mem event hlater)
    have hwhole := (dumps_unbroken_iff numbers .spaced _).mpr
      (h event List.mem_cons_self)
    obtain ⟨rest, hline⟩ := dumps_head numbers (eventData numbers event)
    rw [List.flatMap_cons, lineOf, List.append_assoc, List.singleton_append,
      splitlines_line hwhole, loadLines, hline, if_neg (by rw [all_isSpace_object]; simp),
      ← hline, loadLine_dumps, hrest]
    rfl

/-- A file with a broken line is not read. -/
theorem loadLines_broken
    (h : ¬ ∀ event ∈ events, ∀ text ∈ (PyValue.dict (eventData numbers event)).strings,
      Unbroken text) :
    loadLines numbers (splitlines (events.flatMap (lineOf numbers))) =
      .error .jsonDecodeError := by
  induction events with
  | nil => exact absurd (fun event hevent => absurd hevent List.not_mem_nil) h
  | cons event events ih =>
    obtain ⟨rest, hline⟩ := dumps_head numbers (eventData numbers event)
    by_cases hwhole : ∀ c ∈ dumps numbers .spaced (eventData numbers event),
        isLineBreak c = false
    · have hrest := ih fun hall => h (by
        intro later hlater
        rcases List.mem_cons.mp hlater with rfl | hmem
        · exact (dumps_unbroken_iff numbers .spaced _).mp hwhole
        · exact hall later hmem)
      rw [List.flatMap_cons, lineOf, List.append_assoc, List.singleton_append,
        splitlines_line hwhole, loadLines, hline,
        if_neg (by rw [all_isSpace_object]; simp), ← hline, loadLine_dumps, hrest]
      rfl
    · have hbreak : ∃ c ∈ dumps numbers .spaced (eventData numbers event),
          isLineBreak c = true := by
        by_contra hnone
        exact hwhole fun c hc => Bool.eq_false_iff.mpr fun hc' => hnone ⟨c, hc, hc'⟩
      obtain ⟨front, c, back, hsplit, hc, hfront⟩ := exists_first_break hbreak
      obtain ⟨inside, rfl⟩ : ∃ inside, front = '{' :: inside := by
        rw [hline] at hsplit
        cases front with
        | nil =>
          obtain rfl : '{' = c := (List.cons.inj hsplit).1
          cases hc
        | cons first inside =>
          exact ⟨inside, by rw [(List.cons.inj hsplit).1]⟩
      have hlines := head?_splitlines hfront hc
        (back ++ '\n' :: events.flatMap (lineOf numbers))
      obtain ⟨more, hmore⟩ := List.head?_eq_some_iff.mp hlines
      have hcut : loadLine numbers ('{' :: inside) = .error .jsonDecodeError :=
        loadLine_cut hsplit (List.cons_ne_nil _ _) (List.cons_ne_nil _ _)
      rw [List.flatMap_cons, lineOf, hsplit]
      simp only [List.append_assoc, List.cons_append, List.nil_append] at hmore ⊢
      rw [hmore, loadLines, if_neg (by rw [all_isSpace_object]; simp), hcut]
      rfl

theorem loadLines_eq_ok_iff {loaded : List (IdentityLogEvent N)} :
    loadLines numbers (splitlines (events.flatMap (lineOf numbers))) = .ok loaded ↔
      (∀ event ∈ events, ∀ text ∈ (PyValue.dict (eventData numbers event)).strings,
        Unbroken text) ∧ events.map rereadEvent = loaded := by
  by_cases h : ∀ event ∈ events,
      ∀ text ∈ (PyValue.dict (eventData numbers event)).strings, Unbroken text
  · rw [loadLines_whole h, Except.ok.injEq]
    exact (and_iff_right h).symm
  · rw [loadLines_broken h]
    simp [h]

/-! ## The chain -/

/-- Events count up and name the hashes of the ones before them. -/
def Linked : ℤ → Option String → List (IdentityLogEvent N) → Prop
  | _, _, [] => True
  | sequence, predecessor, event :: events =>
    event.sequence = sequence ∧ event.predecessorHash = predecessor ∧
      Linked (sequence + 1) (some event.eventHash) events

variable {predecessor : Option String}

theorem Linked.concat {sequence : ℤ} (h : Linked sequence predecessor events) (hsequence : event.sequence = sequence + events.length)
    (hpredecessor : event.predecessorHash =
      (events.getLast?.map (·.eventHash)).or predecessor) :
    Linked sequence predecessor (events ++ [event]) := by
  induction events generalizing sequence predecessor with
  | nil => exact ⟨by simpa using hsequence, hpredecessor, trivial⟩
  | cons first events ih =>
    obtain ⟨hfirst, hnamed, hrest⟩ := h
    refine ⟨hfirst, hnamed, ih hrest ?_ ?_⟩
    · rw [hsequence, List.length_cons]
      omega
    · rw [hpredecessor, List.getLast?_cons]
      cases events.getLast? <;> rfl

theorem linked_map_rereadEvent {sequence : ℤ} (h : Linked sequence predecessor events) :
    Linked sequence predecessor (events.map rereadEvent) := by
  induction events generalizing sequence predecessor with
  | nil => trivial
  | cons event events ih => exact ⟨h.1, h.2.1, ih h.2.2⟩

theorem chainIsValidFrom_iff {sequence : ℤ} :
    chainIsValidFrom numbers digest sequence predecessor events = true ↔
      Linked sequence predecessor events ∧
        ∀ event ∈ events, hashPayload numbers digest event.toIdentityLogBase =
          event.eventHash := by
  induction events generalizing sequence predecessor with
  | nil => simp [chainIsValidFrom, Linked]
  | cons event events ih =>
    rw [chainIsValidFrom, Bool.and_eq_true, ih, Linked, List.forall_mem_cons]
    simp only [Bool.and_eq_true, decide_eq_true_eq]
    tauto

/-! ## Hashes -/

theorem keysInOrder_textOrNone (text : Option String) :
    (textOrNone text : PyValue N).KeysInOrder := by
  cases text <;> trivial

theorem keysInOrder_basePayload (base : IdentityLogBase N) :
    (PyValue.dict (basePayload numbers base)).KeysInOrder ↔
      (PyValue.dict base.binding).KeysInOrder ∧ (PyValue.dict base.details).KeysInOrder := by
  have hkeys : ((basePayload numbers base).map Prod.fst).Nodup := by
    have hnames : (basePayload numbers base).map Prod.fst =
        ["sequence", "event_type", "run_id", "ocs_id", "binding", "details",
          "predecessor_hash"] := rfl
    rw [hnames]
    decide
  rw [PyValue.KeysInOrder, and_iff_right hkeys]
  simp only [basePayload, PyValue.FieldsInOrder, keysInOrder_textOrNone, and_true]
  constructor
  · rintro ⟨-, -, -, -, hbinding, hdetails⟩
    exact ⟨hbinding, hdetails⟩
  · rintro ⟨hbinding, hdetails⟩
    exact ⟨trivial, trivial, trivial, trivial, hbinding, hdetails⟩

/-- The hash of an event survives its file just if the keys of its dictionaries come in
the order of strings. -/
theorem hashPayload_reread_iff (hinjective : Function.Injective digest)
    (event : IdentityLogEvent N) :
    hashPayload numbers digest (rereadEvent event).toIdentityLogBase =
        hashPayload numbers digest event.toIdentityLogBase ↔
      (PyValue.dict event.binding).KeysInOrder ∧ (PyValue.dict event.details).KeysInOrder := by
  constructor
  · intro h
    have hdocument :
        (PyValue.dict (basePayload numbers (rereadEvent event).toIdentityLogBase)).document =
          (PyValue.dict (basePayload numbers event.toIdentityLogBase)).document :=
      write_injective _ _ (hinjective h)
    have hreread :
        (PyValue.dict (basePayload numbers (rereadEvent event).toIdentityLogBase)).KeysInOrder :=
      (keysInOrder_basePayload _).mpr ⟨PyValue.keysInOrder_readBack (.dict event.binding),
        PyValue.keysInOrder_readBack (.dict event.details)⟩
    rw [← PyValue.keysSorted_document, hdocument, PyValue.keysSorted_document] at hreread
    exact (keysInOrder_basePayload _).mp hreread
  · rintro ⟨hbinding, hdetails⟩
    have hsame : PyValue.fieldDocuments
        (basePayload numbers (rereadEvent event).toIdentityLogBase) =
          PyValue.fieldDocuments (basePayload numbers event.toIdentityLogBase) := by
      have hbindingSame : (PyValue.dict (PyValue.reread event.binding)).document =
          (PyValue.dict event.binding).document := PyValue.document_readBack hbinding
      have hdetailsSame : (PyValue.dict (PyValue.reread event.details)).document =
          (PyValue.dict event.details).document := PyValue.document_readBack hdetails
      simp only [basePayload, rereadEvent, PyValue.fieldDocuments, hbindingSame,
        hdetailsSame]
    have hdocument :
        (PyValue.dict (basePayload numbers (rereadEvent event).toIdentityLogBase)).document =
          (PyValue.dict (basePayload numbers event.toIdentityLogBase)).document :=
      congrArg (fun fields => Json.object (PyValue.sortKeys fields)) hsame
    rw [hashPayload, hashPayload, dumps, dumps, hdocument]

/-! ## Appended events -/

theorem forall_mem_iff_of_forall₂ {A B : Type} {related : A → B → Prop} {holds : A → Prop}
    {held : B → Prop} (hagree : ∀ left right, related left right → (holds left ↔ held right))
    {lefts : List A} {rights : List B} (h : List.Forall₂ related lefts rights) :
    (∀ left ∈ lefts, holds left) ↔ ∀ right ∈ rights, held right := by
  induction h with
  | nil => simp
  | cons hhead _ ih => rw [List.forall_mem_cons, List.forall_mem_cons, ih, hagree _ _ hhead]

/-- An event records a call. -/
structure Records (numbers : Numbers N) (clock : Time → N) (digest : List Char → String)
    (call : AppendCall N) (event : IdentityLogEvent N) : Prop where
  eventType : event.eventType = call.eventType
  runId : event.runId = call.binding.runId
  ocsId : event.ocsId = call.binding.ocsId
  binding : event.binding = bindingData clock call.binding
  details : event.details = call.details
  predecessorHash : ∀ text ∈ event.predecessorHash, ∃ hashed, text = digest hashed
  eventHash : event.eventHash = hashPayload numbers digest event.toIdentityLogBase

theorem eventHash_of_records {calls : List (AppendCall N)}
    (h : List.Forall₂ (Records numbers clock digest) calls events) :
    ∀ event ∈ events, event.eventHash = hashPayload numbers digest event.toIdentityLogBase :=
  (forall_mem_iff_of_forall₂ (fun _ _ hrecords => iff_of_true trivial hrecords.eventHash)
    h).mp fun _ _ => trivial

/-- A log after its calls: their events, linked, one line each. -/
structure Recorded (numbers : Numbers N) (clock : Time → N) (digest : List Char → String)
    (calls : List (AppendCall N)) (log : IdentityAuditLog N) : Prop where
  events : List.Forall₂ (Records numbers clock digest) calls log.events
  linked : Linked 1 none log.events
  text : log.text = log.events.flatMap (lineOf numbers)

theorem recorded_append {calls : List (AppendCall N)} {log : IdentityAuditLog N}
    (h : Recorded numbers clock digest calls log) (call : AppendCall N) :
    Recorded numbers clock digest (calls ++ [call]) (append numbers clock digest log call) := by
  constructor
  case events =>
    apply List.rel_append h.events
    refine List.Forall₂.cons ⟨rfl, rfl, rfl, rfl, rfl, ?_, rfl⟩ List.Forall₂.nil
    intro text htext
    obtain ⟨last, hlast, rfl⟩ := Option.map_eq_some_iff.mp htext
    exact ⟨_, eventHash_of_records h.events last (List.mem_of_getLast? hlast)⟩
  case linked =>
    apply h.linked.concat
    · exact Int.add_comm _ _
    · exact (Option.or_none).symm
  case text =>
    rw [append, h.text]
    simp [lineOf]

theorem recorded_run (calls : List (AppendCall N)) :
    Recorded numbers clock digest calls
      (run (append numbers clock digest) .empty calls) := by
  induction calls using List.reverseRecOn with
  | nil => exact ⟨.nil, trivial, rfl⟩
  | append_singleton calls call ih =>
    rw [run_append]
    exact recorded_append ih call

/-! ## Reopening -/

/-- The same event, its dictionaries up to their JSON normal form. -/
structure SameEvent (event other : IdentityLogEvent N) : Prop where
  sequence : other.sequence = event.sequence
  eventType : other.eventType = event.eventType
  runId : other.runId = event.runId
  ocsId : other.ocsId = event.ocsId
  binding : (PyValue.dict other.binding).normalForm = (PyValue.dict event.binding).normalForm
  details : (PyValue.dict other.details).normalForm = (PyValue.dict event.details).normalForm
  predecessorHash : other.predecessorHash = event.predecessorHash
  eventHash : other.eventHash = event.eventHash

theorem sameEvent_rereadEvent (event : IdentityLogEvent N) :
    SameEvent event (rereadEvent event) where
  sequence := rfl
  eventType := rfl
  runId := rfl
  ocsId := rfl
  binding := PyValue.normalForm_readBack (.dict event.binding)
  details := PyValue.normalForm_readBack (.dict event.details)
  predecessorHash := rfl
  eventHash := rfl

/-- No string of the call breaks a line, and in every dictionary of its details the keys
come in the order of strings. -/
structure Reloadable (clock : Time → N) (call : AppendCall N) : Prop where
  eventType : Unbroken call.eventType
  binding : ∀ text ∈ (PyValue.dict (bindingData clock call.binding)).strings, Unbroken text
  details : ∀ text ∈ (PyValue.dict call.details).strings, Unbroken text
  keys : (PyValue.dict call.details).KeysInOrder

theorem keysInOrder_bindingData (binding : ActiveIdentityBinding) :
    (PyValue.dict (bindingData clock binding)).KeysInOrder := by
  have hnames : ((bindingData clock binding).map Prod.fst).Nodup := by
    have hkeys : (bindingData clock binding).map Prod.fst =
        ["run_id", "ocs_canonical_name", "ocs_id", "institution", "lineage_ref",
          "identity_ref", "constitution_ref", "csp_ref", "host", "session_context",
          "state_namespace", "memory_namespace", "authority_envelope_ref",
          "profile_version", "bound_at", "status", "hold_reason"] := rfl
    rw [hkeys]
    decide
  rw [PyValue.KeysInOrder, and_iff_right hnames]
  simp only [bindingData, PyValue.FieldsInOrder, PyValue.KeysInOrder, keysInOrder_textOrNone,
    and_true]

theorem strings_textOrNone (text : Option String) :
    (textOrNone text : PyValue N).strings = text.toList := by
  cases text <;> rfl

theorem strings_eventData (event : IdentityLogEvent N) :
    (∀ text ∈ (PyValue.dict (eventData numbers event)).strings, Unbroken text) ↔
      Unbroken event.eventType ∧ Unbroken event.runId ∧ Unbroken event.ocsId ∧
        (∀ text ∈ (PyValue.dict event.binding).strings, Unbroken text) ∧
        (∀ text ∈ (PyValue.dict event.details).strings, Unbroken text) ∧
        (∀ text ∈ event.predecessorHash, Unbroken text) ∧ Unbroken event.eventHash := by
  have hkeys : ∀ key ∈ ["sequence", "event_type", "run_id", "ocs_id", "binding", "details",
      "predecessor_hash", "event_hash"], Unbroken key := by decide
  simp only [List.forall_mem_cons, List.not_mem_nil, false_imp_iff, implies_true,
    and_true] at hkeys
  simp only [eventData, basePayload, List.cons_append, List.nil_append, PyValue.strings,
    PyValue.fieldStrings, strings_textOrNone, List.forall_mem_cons, List.forall_mem_append,
    List.not_mem_nil, false_imp_iff, implies_true, and_true, true_and, hkeys,
    Option.mem_toList, Option.mem_def]

theorem unbroken_of_hex {text : String}
    (h : ∀ c ∈ text.toList, c ∈ "0123456789abcdef".toList) : Unbroken text := by
  have hdigits : Unbroken "0123456789abcdef" := by decide
  exact fun c hc => hdigits c (h c hc)

theorem reloadable_iff (hhex : ∀ text, Unbroken (digest text)) {call : AppendCall N} (h : Records numbers clock digest call event) :
    Reloadable clock call ↔
      (∀ text ∈ (PyValue.dict (eventData numbers event)).strings, Unbroken text) ∧
        (PyValue.dict event.binding).KeysInOrder ∧
          (PyValue.dict event.details).KeysInOrder := by
  rw [strings_eventData, h.eventType, h.runId, h.ocsId, h.binding, h.details]
  constructor
  · intro hreloadable
    have hfield {key text : String}
        (hmem : (key, PyValue.string text) ∈ bindingData clock call.binding) :
        Unbroken text := by
      apply hreloadable.binding
      exact PyValue.mem_fieldStrings.mpr
        ⟨_, hmem, .inr (List.mem_singleton_self text)⟩
    have hrunId : Unbroken call.binding.runId := hfield List.mem_cons_self
    have hocsId : Unbroken call.binding.ocsId :=
      hfield (List.mem_cons_of_mem _ (List.mem_cons_of_mem _ List.mem_cons_self))
    have hpredecessor : ∀ text ∈ event.predecessorHash, Unbroken text := by
      intro text htext
      obtain ⟨hashed, rfl⟩ := h.predecessorHash text htext
      exact hhex hashed
    have hhash : Unbroken event.eventHash := by
      rw [h.eventHash]
      exact hhex _
    exact ⟨⟨hreloadable.eventType, hrunId, hocsId, hreloadable.binding, hreloadable.details,
      hpredecessor, hhash⟩, keysInOrder_bindingData call.binding, hreloadable.keys⟩
  · rintro ⟨⟨heventType, -, -, hbinding, hdetails, -, -⟩, -, hkeys⟩
    exact ⟨heventType, hbinding, hdetails, hkeys⟩

/-- The integers alone. -/
def integers : Numbers ℤ := ⟨integerFormat, id, some, fun _ => rfl⟩

/-- A digest without collisions: a decimal number for every text. -/
def decimalDigest (text : List Char) : String :=
  (Encodable.encode (text.map Char.toNat)).repr

theorem decimalDigest_injective : Function.Injective decimalDigest := by
  intro left right h
  have hcode : Encodable.encode (left.map Char.toNat) =
      Encodable.encode (right.map Char.toNat) := by
    apply toDigits_injective
    rw [← Nat.toList_repr, ← Nat.toList_repr]
    exact congrArg String.toList h
  have hchar : Function.Injective Char.toNat := fun _ _ hcode => Char.toNat_inj.mp hcode
  exact List.map_injective_iff.mpr hchar (Encodable.encode_injective hcode)

theorem mem_hex_of_isDigit {c : Char} (h : c.isDigit = true) :
    c ∈ "0123456789abcdef".toList := by
  have hall : ∀ digit < 10, Char.ofNat (48 + digit) ∈ "0123456789abcdef".toList := by
    decide
  rw [Char.isDigit, Bool.and_eq_true, decide_eq_true_eq, decide_eq_true_eq] at h
  have hlow : 48 ≤ c.toNat := UInt32.le_iff_toNat_le.mp h.1
  have hhigh : c.toNat ≤ 57 := UInt32.le_iff_toNat_le.mp h.2
  have hc := hall (c.toNat - 48) (by omega)
  rwa [Nat.add_sub_cancel' hlow, Char.ofNat_toNat] at hc

theorem decimalDigest_hex (text : List Char) :
    ∀ c ∈ (decimalDigest text).toList, c ∈ "0123456789abcdef".toList :=
  fun _ hc => mem_hex_of_isDigit (mem_toList_repr_nat hc)

def sofiaBinding (sessionContext : String) : ActiveIdentityBinding where
  runId := "run-1"
  ocsCanonicalName := "SOFIA"
  ocsId := "SOFIA"
  institution := institution
  lineageRef := "lineage"
  identityRef := "identity"
  constitutionRef := "constitution"
  cspRef := "csp"
  host := "host"
  sessionContext := sessionContext
  stateNamespace := "state"
  memoryNamespace := "memory"
  authorityEnvelopeRef := "authority"
  profileVersion := "1.0"
  boundAt := 0
  status := .valid
  holdReason := none

def bindCall (sessionContext : String) : AppendCall ℤ :=
  ⟨"BIND_ACTIVE_IDENTITY", sofiaBinding sessionContext, []⟩

theorem reloadable_bindCall : Reloadable id (bindCall "plan") where
  eventType := by decide
  binding := by decide
  details := by decide
  keys := ⟨List.nodup_nil, trivial⟩

end ReisOs.Kernel.AuditFile
