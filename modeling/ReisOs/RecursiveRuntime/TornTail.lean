import Mathlib.Data.Fintype.EquivFin
import Mathlib.Data.String.Basic
import ReisOs.Core.CutTexts
import ReisOs.RecursiveRuntime.JournalContract

/-!
# A journal whose last line is torn

A crash in the middle of a put leaves some part of its line at the end of the file.  Every
read parses all lines, so that a line without its end makes the whole file unreadable; and
a line that lacks only its newline does so with the next put.
-/

namespace ReisOs.RecursiveRuntime

open ReisOs.Core ReisOs.Core.JsonText JournalRow

namespace DurableJournal

open JournalRecord

/-! ## What a reopened journal promises -/

/-- A repository object on a file puts records; what it accepts. -/
def putAll (text : List Char) (later : List JournalRecord) : History :=
  run History.put ⟨text, []⟩ later

/-- All completed puts are returned, and later puts of new records succeed and are
returned. -/
def Recovers (text : List Char) (completed : List JournalRecord) : Prop :=
  ∃ rows, load text = .ok rows ∧ (∀ record ∈ completed, record.stored ∈ rows) ∧
    ∀ later : List JournalRecord,
      (rows.map (·.journalId) ++ later.map (·.journalId)).Nodup →
        (putAll text later).accepted = later ∧
          load (putAll text later).text = .ok (rows ++ later.map stored)

/-! ## Whole lines -/

variable {records : List JournalRecord}

theorem run_put_new {later : List JournalRecord} (accepted : List JournalRecord)
    (h : (records.map (·.journalId) ++ later.map (·.journalId)).Nodup) :
    run History.put ⟨records.flatMap line, accepted⟩ later =
      ⟨(records ++ later).flatMap line, accepted ++ later⟩ := by
  induction later generalizing records accepted with
  | nil => rw [List.append_nil, List.append_nil, run_nil]
  | cons record later ih =>
    rw [List.map_cons] at h
    have hids : (records.map (·.journalId)).Nodup := (List.nodup_append.mp h).1
    have hnew : ∀ other ∈ records, other.journalId ≠ record.journalId := by
      intro other hother hsame
      exact (List.nodup_append.mp h).2.2 _ (List.mem_map_of_mem hother) _
        List.mem_cons_self hsame
    have hrest : ((records ++ [record]).map (·.journalId) ++
        later.map (·.journalId)).Nodup := by
      rw [List.map_append, List.append_assoc]
      exact h
    have hput : History.put ⟨records.flatMap line, accepted⟩ record =
        ⟨(records ++ [record]).flatMap line, accepted ++ [record]⟩ := by
      rw [History.put, DurableJournal.put_new hids hnew]
    rw [run_cons, hput, ih (accepted ++ [record]) hrest, List.append_assoc,
      List.append_assoc]
    rfl

variable {completed : List JournalRecord}

theorem recovers_records
    (hids : (records.map (·.journalId)).Nodup) (hcompleted : ∀ record ∈ completed,
      record ∈ records) : Recovers (records.flatMap line) completed := by
  refine ⟨records.map stored, load_records hids, ?_, ?_⟩
  · intro record hrecord
    exact List.mem_map_of_mem (hcompleted record hrecord)
  · intro later hlater
    have hall : (records.map (·.journalId) ++ later.map (·.journalId)).Nodup := by
      rw [List.map_map] at hlater
      exact hlater
    have hrun := run_put_new [] hall
    rw [List.nil_append] at hrun
    rw [putAll, hrun]
    refine ⟨rfl, ?_⟩
    rw [← List.map_append] at hall ⊢
    exact load_records hall

/-! ## Torn lines -/

theorem splitlines_torn {tail : List Char} (hne : tail ≠ [])
    (h : ∀ c ∈ tail, isLineBreak c = false) : splitlines tail = [tail] := by
  induction tail with
  | nil => exact absurd rfl hne
  | cons c rest ih =>
    rw [List.forall_mem_cons] at h
    rw [splitlines_cons h.1]
    cases rest with
    | nil => rfl
    | cons d rest => rw [ih (List.cons_ne_nil d rest) h.2]

theorem splitlines_records_append (records : List JournalRecord) (rest : List Char) :
    splitlines (records.flatMap line ++ rest) =
      records.map (·.fresh.dumps) ++ splitlines rest := by
  induction records with
  | nil => rfl
  | cons record records ih =>
    rw [List.flatMap_cons, line, List.append_assoc, List.append_assoc,
      List.singleton_append, splitlines_line (isLineBreak_dumps record), ih]
    rfl

theorem loadLines_unreadable {texts : List (List Char)} {tail : List Char}
    (rows : List JournalRow) (hblank : tail.all Kernel.AuditFile.isSpace = false)
    (hunreadable : loads tail = none) :
    loadLines rows (texts ++ [tail]) = .error .unreadable := by
  induction texts generalizing rows with
  | nil =>
    rw [List.nil_append, loadLines, hblank, hunreadable]
    rfl
  | cons text texts ih =>
    rw [List.cons_append, loadLines]
    split
    · exact ih rows
    · cases loads text with
      | none => rfl
      | some row => exact ih (setRow rows row)

theorem load_torn (records : List JournalRecord) {rest tail : List Char}
    (hlines : splitlines rest = [tail])
    (hblank : tail.all Kernel.AuditFile.isSpace = false)
    (hunreadable : loads tail = none) :
    load (records.flatMap line ++ rest) = .error .unreadable := by
  rw [load, splitlines_records_append, hlines]
  exact loadLines_unreadable [] hblank hunreadable

theorem load_unended (records : List JournalRecord) (record : JournalRecord) :
    load (records.flatMap line ++ record.fresh.dumps) =
      load ((records ++ [record]).flatMap line) := by
  have hne : record.fresh.dumps ≠ [] := by
    intro hnil
    have hblank := dumps_not_blank record
    rw [hnil] at hblank
    cases hblank
  rw [load, splitlines_records_append, splitlines_torn hne (isLineBreak_dumps record), load,
    splitlines_records, List.map_append]
  rfl

theorem loads_torn (record : JournalRecord) {front back : List Char}
    (h : record.fresh.dumps = front ++ back) (hfront : front ≠ []) (hback : back ≠ []) :
    loads front = none := by
  rw [loads, loadsAscii_cut h hfront hback]
  rfl

theorem loads_two (record other : JournalRecord) :
    loads (record.fresh.dumps ++ other.fresh.dumps) = none := by
  have htwo := loadsAscii_two integerFormat .spaced
  rw [loads, dumps, dumps, document,
    document, htwo]
  rfl

theorem not_blank_of_open {front : List Char} (h : front.head? = some '{') :
    front.all Kernel.AuditFile.isSpace = false := by
  obtain ⟨rest, rfl⟩ := List.head?_eq_some_iff.mp h
  rfl

theorem exists_new_id (ids : List String) : ∃ journalId, journalId ∉ ids := by
  have hinfinite : Infinite String :=
    Infinite.of_injective String.ofList fun _ _ h => String.ofList_injective h
  obtain ⟨journalId, hnew⟩ := Infinite.exists_notMem_finset ids.toFinset
  exact ⟨journalId, fun hmem => hnew (List.mem_toFinset.mpr hmem)⟩

/-- A line that lacks its newline is lost with the next put. -/
theorem not_recovers_unended
    {record : JournalRecord} (hids : ((records ++ [record]).map (·.journalId)).Nodup) :
    ¬ Recovers (records.flatMap line ++ record.fresh.dumps) completed := by
  rintro ⟨rows, hload, -, hlater⟩
  have hwhole := load_records hids
  rw [load_unended, hwhole] at hload
  cases hload
  obtain ⟨journalId, hnew⟩ := exists_new_id ((records ++ [record]).map (·.journalId))
  let next : JournalRecord := { record with journalId := journalId }
  have hnodup : (((records ++ [record]).map stored).map (·.journalId) ++
      [next].map (·.journalId)).Nodup := by
    rw [List.map_map, List.nodup_append]
    refine ⟨hids, List.nodup_singleton _, ?_⟩
    intro id hid last hlast hsame
    rw [List.map_singleton, List.mem_singleton] at hlast
    rw [hsame, hlast] at hid
    exact hnew hid
  obtain ⟨haccepted, hload⟩ := hlater [next] hnodup
  have hput : DurableJournal.put (records.flatMap line ++ record.fresh.dumps) next =
      (records.flatMap line ++ record.fresh.dumps ++ next.line, .ok ()) := by
    have hnone : ((records ++ [record]).map stored).find? (·.journalId = next.journalId) =
        none := by
      rw [find?_stored, Option.map_eq_none_iff, List.find?_eq_none]
      intro other hother hsame
      apply hnew
      have hid : other.journalId = journalId := of_decide_eq_true hsame
      rw [← hid]
      exact List.mem_map_of_mem hother
    rw [DurableJournal.put, load_unended, hwhole]
    simp only
    rw [hnone]
    rfl
  have htext : (putAll (records.flatMap line ++ record.fresh.dumps) [next]).text =
      records.flatMap line ++ ((record.fresh.dumps ++ next.fresh.dumps) ++ ['\n']) := by
    rw [putAll, run_cons, run_nil, History.put, hput, line]
    simp only [List.append_assoc]
  have hbreaks : ∀ c ∈ record.fresh.dumps ++ next.fresh.dumps, isLineBreak c = false := by
    intro c hc
    cases List.mem_append.mp hc with
    | inl hleft => exact isLineBreak_dumps record c hleft
    | inr hright => exact isLineBreak_dumps next c hright
  have hlines : splitlines ((record.fresh.dumps ++ next.fresh.dumps) ++ ['\n']) =
      [record.fresh.dumps ++ next.fresh.dumps] := splitlines_line hbreaks []
  rw [htext, load_torn records hlines (not_blank_of_open rfl) (loads_two record next)] at hload
  cases hload

theorem not_recovers_torn {record : JournalRecord}
    {front back : List Char} (h : record.fresh.dumps = front ++ back) (hfront : front ≠ [])
    (hback : back ≠ []) : ¬ Recovers (records.flatMap line ++ front) completed := by
  rintro ⟨rows, hload, -, -⟩
  have hbreaks : ∀ c ∈ front, isLineBreak c = false := by
    intro c hc
    apply isLineBreak_dumps record
    rw [h]
    exact List.mem_append_left back hc
  have hopen : front.head? = some '{' := by
    have hhead : (front ++ back).head? = some '{' := by
      rw [← h]
      rfl
    rwa [List.head?_append_of_ne_nil _ hfront] at hhead
  rw [load_torn records (splitlines_torn hfront hbreaks) (not_blank_of_open hopen)
    (loads_torn record h hfront hback)] at hload
  cases hload

/-! ## Which tails are recovered -/

/-- A crash during the put of a new record leaves a journal that goes on working exactly
where it leaves nothing of the line or all of it. -/
theorem recovers_torn_iff (records : List JournalRecord) {record : JournalRecord}
    {front : List Char}
    (hnew : ∀ other ∈ (history records).accepted, other.journalId ≠ record.journalId)
    (hfront : front <+: record.line) :
    Recovers ((history records).text ++ front) (history records).accepted ↔
      front = [] ∨ front = record.line := by
  have hsound := history_sound records
  have hids : (((history records).kept ++ [record]).map (·.journalId)).Nodup := by
    rw [List.map_append, List.nodup_append]
    refine ⟨hsound.ids, List.nodup_singleton _, ?_⟩
    intro id hid last hlast hsame
    obtain ⟨other, hother, rfl⟩ := List.mem_map.mp hid
    exact hnew other (History.mem_kept.mp hother)
      (hsame.trans (List.mem_singleton.mp hlast))
  rw [hsound.text]
  constructor
  · intro hrecovers
    by_contra hneither
    rw [not_or] at hneither
    obtain ⟨back, hback⟩ := hfront
    have hline : record.fresh.dumps ++ ['\n'] = front ++ back := hback.symm
    cases List.append_eq_append_iff.mp hline with
    | inl hall =>
      obtain ⟨more, rfl, hmore⟩ := hall
      cases more with
      | nil =>
        rw [List.append_nil] at hrecovers
        exact not_recovers_unended hids hrecovers
      | cons c more =>
        rw [List.cons_append, List.cons.injEq] at hmore
        have hnone := List.append_eq_nil_iff.mp hmore.2.symm
        apply hneither.2
        rw [hnone.1, ← hmore.1]
        rfl
    | inr hpart =>
      obtain ⟨missing, hmissing, -⟩ := hpart
      by_cases hempty : missing = []
      · rw [hempty, List.append_nil] at hmissing
        rw [← hmissing] at hrecovers
        exact not_recovers_unended hids hrecovers
      · exact not_recovers_torn hmissing hneither.1 hempty hrecovers
  · rintro (rfl | rfl)
    · rw [List.append_nil]
      apply recovers_records hsound.ids
      intro other hother
      exact History.mem_kept.mpr hother
    · have htext : (history records).kept.flatMap line ++ record.line =
          ((history records).kept ++ [record]).flatMap line := by
        rw [List.flatMap_append, List.flatMap_singleton]
      rw [htext]
      apply recovers_records hids
      intro other hother
      exact List.mem_append_left _ (History.mem_kept.mpr hother)

/-- The intent to cancel an actor. -/
def sampleRecord (actorId : String) : JournalRecord :=
  ⟨"cancel-op:" ++ actorId, "CANCELLATION", actorId, "t", 1, 1, "COMMITTED",
    [("reason", "stop")]⟩

theorem accepted_sample : (history [sampleRecord "a"]).accepted = [sampleRecord "a"] := by
  have hstart : History.Sound ⟨[], []⟩ := ⟨rfl, List.nodup_nil⟩
  have hput : put [] (sampleRecord "a") = _ := hstart.put_new fun _ hother => by cases hother
  change (History.put ⟨[], []⟩ (sampleRecord "a")).accepted = _
  rw [History.put, hput]
  rfl

theorem recovers_torn_iff_nothing :
    Recovers ((history [sampleRecord "a"]).text ++ []) (history [sampleRecord "a"]).accepted ↔
      ([] : List Char) = [] ∨ [] = (sampleRecord "b").line := by
  apply recovers_torn_iff
  · rw [accepted_sample]
    decide
  · exact List.nil_prefix

/-- The first character of a second line takes the first record away. -/
theorem torn_unreadable :
    (history [sampleRecord "a"]).accepted = [sampleRecord "a"] ∧
      ['{'] <+: (sampleRecord "b").line ∧
      load ((history [sampleRecord "a"]).text ++ ['{']) = .error .unreadable := by
  refine ⟨accepted_sample, ⟨_, rfl⟩, ?_⟩
  have hdumps : (sampleRecord "b").fresh.dumps =
      ['{'] ++ (sampleRecord "b").fresh.dumps.tail := rfl
  have hunreadable : loads ['{'] = none := by
    apply loads_torn (sampleRecord "b") hdumps (List.cons_ne_nil _ _)
    exact List.cons_ne_nil _ _
  rw [(history_sound [sampleRecord "a"]).text]
  exact load_torn _ rfl rfl hunreadable

end DurableJournal

end ReisOs.RecursiveRuntime
