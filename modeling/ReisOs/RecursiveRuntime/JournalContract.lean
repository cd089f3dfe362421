import ReisOs.RecursiveRuntime.Journal

/-!
# What a journal promises

The file of a journal is the lines of the records it has accepted, so that all of them
are read back, each once and in the order of their first puts.  Putting a record again is
refused unless its payload is empty: tuples never equal the lists that are read back.
-/

namespace ReisOs.RecursiveRuntime

open ReisOs.Core ReisOs.Core.JsonText

theorem eraseDups_concat (records : List JournalRecord) (record : JournalRecord) :
    (records ++ [record]).eraseDups =
      if record ∈ records then records.eraseDups else records.eraseDups ++ [record] := by
  rw [List.eraseDups_append]
  split
  · next hmem => simp [List.removeAll, hmem]
  · next hnew => simp [List.removeAll, hnew, List.eraseDups_cons]

namespace JournalRecord

variable {record other : JournalRecord}

def line (record : JournalRecord) : List Char := record.fresh.dumps ++ ['\n']

theorem stored_eq_fresh_iff : other.stored = record.fresh ↔ other = record ∧
    record.payload = [] := by
  constructor
  · intro h
    obtain ⟨id, kind, actor, trace, generation, epoch, status, payload⟩ := record
    obtain ⟨id', kind', actor', trace', generation', epoch', status', payload'⟩ := other
    simp only [stored, fresh, row, JournalRow.mk.injEq] at h
    obtain ⟨rfl, rfl, rfl, rfl, rfl, rfl, rfl, hpayload⟩ := h
    cases payload with
    | nil =>
      obtain rfl := List.map_eq_nil_iff.mp hpayload
      exact ⟨rfl, rfl⟩
    | cons pair rest =>
      cases payload' with
      | nil => cases hpayload
      | cons pair' rest' => cases (List.cons.inj hpayload).1
  · rintro ⟨rfl, hpayload⟩
    simp only [stored, fresh, row, hpayload, List.map_nil]

/-! ## Lines -/

theorem ofDocument_fresh (record : JournalRecord) :
    JournalRow.ofDocument record.fresh.document = some record.stored := by
  have hitem (pair : String × String) :
      PayloadItem.ofDocument (PayloadItem.tuple pair.1 pair.2).document =
        some (.list [pair.1, pair.2]) := rfl
  have hpayload : (Json.array (record.fresh.payload.map PayloadItem.document)).asList
      PayloadItem.ofDocument = some record.stored.payload := by
    change (Json.array ((record.payload.map _).map _)).asList _ = some (record.payload.map _)
    rw [List.map_map, Json.asList, Json.asArray, Option.bind_some]
    induction record.payload with
    | nil => rfl
    | cons pair rest ih =>
      rw [List.map_cons, List.map_cons, List.mapM_cons, Function.comp_apply, hitem, ih]
      rfl
  have hfield (name : String) (value : Json ℤ)
      (h : record.fresh.document.field name = some value) {A : Type}
      (decode : Json ℤ → Option A) :
      record.fresh.document.fieldAs name decode = decode value := Json.fieldAs_of_field h
  unfold JournalRow.ofDocument
  rw [hfield "journal_id" _ rfl, hfield "kind" _ rfl, hfield "actor_id" _ rfl,
    hfield "trace_id" _ rfl, hfield "generation" _ rfl, hfield "fencing_epoch" _ rfl,
    hfield "status" _ rfl, hfield "payload" _ rfl, hpayload]
  rfl

theorem loads_dumps (record : JournalRecord) :
    JournalRow.loads record.fresh.dumps = some record.stored := by
  rw [JournalRow.loads, JournalRow.dumps, loadsAscii_dumpsAscii, Option.bind_some,
    ofDocument_fresh]

theorem isLineBreak_dumps (record : JournalRecord) :
    ∀ c ∈ record.fresh.dumps, isLineBreak c = false := by
  intro c hc
  obtain ⟨hlow, hhigh⟩ := mem_dumpsAscii hc
  have hbreaks : lineBreaks.all (fun d => d.toNat < 32 || 127 ≤ d.toNat) = true := rfl
  apply decide_eq_false
  intro hmem
  have hbreak := List.all_eq_true.mp hbreaks c hmem
  simp only [Bool.or_eq_true, decide_eq_true_eq] at hbreak
  omega

theorem dumps_not_blank (record : JournalRecord) :
    record.fresh.dumps.all Kernel.AuditFile.isSpace = false := by
  have hhead : ∃ rest, record.fresh.dumps = '{' :: rest := ⟨_, rfl⟩
  obtain ⟨rest, hrest⟩ := hhead
  rw [hrest, List.all_cons]
  rfl

end JournalRecord

/-! ## Texts -/

namespace DurableJournal

open JournalRecord

theorem loadLines_records {rows : List JournalRow} {records : List JournalRecord}
    (h : (rows.map (·.journalId) ++ records.map (·.journalId)).Nodup) :
    loadLines rows (records.map (·.fresh.dumps)) = .ok (rows ++ records.map stored) := by
  induction records generalizing rows with
  | nil => rw [List.map_nil, List.map_nil, List.append_nil, loadLines]
  | cons record records ih =>
    have hnew : rows.any (·.journalId = record.stored.journalId) = false := by
      rw [List.any_eq_false]
      intro other hother hsame
      rw [List.map_cons, List.nodup_append] at h
      exact h.2.2 _ (List.mem_map_of_mem hother) _ List.mem_cons_self
        (of_decide_eq_true hsame)
    have hset : setRow rows record.stored = rows ++ [record.stored] := by
      rw [setRow, hnew]
      rfl
    have hrest : ((rows ++ [record.stored]).map (·.journalId) ++
        records.map (·.journalId)).Nodup := by
      rw [List.map_append, List.append_assoc]
      exact h
    rw [List.map_cons, loadLines, dumps_not_blank, loads_dumps]
    change loadLines (setRow rows record.stored) _ = _
    rw [hset, ih hrest, List.append_assoc]
    rfl

theorem splitlines_records (records : List JournalRecord) :
    splitlines (records.flatMap line) = records.map (·.fresh.dumps) := by
  induction records with
  | nil => rfl
  | cons record records ih =>
    rw [List.flatMap_cons, line, List.append_assoc, List.singleton_append,
      splitlines_line (isLineBreak_dumps record), ih]
    rfl

theorem load_records {records : List JournalRecord}
    (h : (records.map (·.journalId)).Nodup) :
    load (records.flatMap line) = .ok (records.map stored) := by
  rw [load, splitlines_records]
  exact loadLines_records h

/-! ## Puts -/

variable {records : List JournalRecord} {record : JournalRecord}

theorem find?_stored (records : List JournalRecord) (journalId : String) :
    (records.map stored).find? (·.journalId = journalId) =
      (records.find? (·.journalId = journalId)).map stored := by
  rw [List.find?_map]
  rfl

theorem put_new (h : (records.map (·.journalId)).Nodup)
    (hnew : ∀ other ∈ records, other.journalId ≠ record.journalId) :
    put (records.flatMap line) record = ((records ++ [record]).flatMap line, .ok ()) := by
  have hnone : records.find? (·.journalId = record.journalId) = none := by
    rw [List.find?_eq_none]
    intro other hother hsame
    exact hnew other hother (of_decide_eq_true hsame)
  rw [put, load_records h]
  simp only
  rw [find?_stored, hnone, List.flatMap_append, List.flatMap_singleton]
  rfl

/-- A record whose id is stored changes nothing, and is accepted only if it is the
stored record and has no payload. -/
theorem put_old (h : (records.map (·.journalId)).Nodup) {other : JournalRecord}
    (hother : other ∈ records) (hsame : other.journalId = record.journalId) :
    put (records.flatMap line) record = (records.flatMap line,
      if other = record ∧ record.payload = [] then .ok ()
      else .error (.conflict "JOURNAL_ID_CONFLICT")) := by
  have hfind : records.find? (·.journalId = record.journalId) = some other := by
    cases hfound : records.find? (·.journalId = record.journalId) with
    | none =>
      rw [List.find?_eq_none] at hfound
      exact absurd (decide_eq_true hsame) (hfound other hother)
    | some found =>
      have hid : found.journalId = record.journalId := by simpa using List.find?_some hfound
      have hmem : found ∈ records := List.mem_of_find?_eq_some hfound
      rw [List.inj_on_of_nodup_map h hmem hother (hid.trans hsame.symm)]
  rw [put, load_records h]
  simp only
  rw [find?_stored, hfind]
  simp only [Option.map_some, stored_eq_fresh_iff]
  split <;> rfl

/-- What `put` does to the records of a file. -/
def putRecord (records : List JournalRecord) (record : JournalRecord) :
    List JournalRecord × Except JournalError Unit :=
  match records.find? (·.journalId = record.journalId) with
  | some other =>
    if other = record ∧ record.payload = [] then (records, .ok ())
    else (records, .error (.conflict "JOURNAL_ID_CONFLICT"))
  | none => (records ++ [record], .ok ())

theorem putRecord_cases (records : List JournalRecord) (record : JournalRecord) :
    ((∀ other ∈ records, other.journalId ≠ record.journalId) ∧
        putRecord records record = (records ++ [record], .ok ())) ∨
      (∃ other ∈ records, other.journalId = record.journalId ∧
        putRecord records record = (records,
          if other = record ∧ record.payload = [] then .ok ()
          else .error (.conflict "JOURNAL_ID_CONFLICT"))) := by
  rw [putRecord]
  cases hfind : records.find? (·.journalId = record.journalId) with
  | none =>
    left
    refine ⟨?_, rfl⟩
    intro other hother hsame
    exact List.find?_eq_none.mp hfind other hother (decide_eq_true hsame)
  | some other =>
    right
    have hsame : other.journalId = record.journalId := by simpa using List.find?_some hfind
    refine ⟨other, List.mem_of_find?_eq_some hfind, hsame, ?_⟩
    simp only
    split <;> rfl

theorem prefix_putRecord (records : List JournalRecord) (record : JournalRecord) :
    records <+: (putRecord records record).1 := by
  obtain ⟨-, hput⟩ | ⟨other, -, -, hput⟩ := putRecord_cases records record
  · rw [hput]
    exact List.prefix_append records [record]
  · simp only [hput, List.prefix_rfl]

theorem nodup_putRecord (h : (records.map (·.journalId)).Nodup) :
    ((putRecord records record).1.map (·.journalId)).Nodup := by
  obtain ⟨hnew, hput⟩ | ⟨other, -, -, hput⟩ := putRecord_cases records record
  · rw [hput, List.map_append, List.map_singleton, List.nodup_append]
    refine ⟨h, List.nodup_singleton _, ?_⟩
    intro journalId hid last hlast hsame
    obtain ⟨other, hother, rfl⟩ := List.mem_map.mp hid
    exact hnew other hother (hsame.trans (List.mem_singleton.mp hlast))
  · rw [hput]
    exact h

theorem mem_putRecord {other : JournalRecord} (h : other ∈ (putRecord records record).1) :
    other ∈ records ∨ other = record := by
  obtain ⟨-, hput⟩ | ⟨_, -, -, hput⟩ := putRecord_cases records record
  · rw [hput, List.mem_append, List.mem_singleton] at h
    exact h
  · rw [hput] at h
    exact Or.inl h

theorem putRecord_ok (hpayload : record.payload ≠ [])
    (h : (putRecord records record).2 = .ok ()) :
    (∀ other ∈ records, other.journalId ≠ record.journalId) ∧
      (putRecord records record).1 = records ++ [record] := by
  obtain ⟨hnew, hput⟩ | ⟨other, -, -, hput⟩ := putRecord_cases records record
  · rw [hput]
    exact ⟨hnew, rfl⟩
  · rw [hput, if_neg (fun hboth => hpayload hboth.2)] at h
    cases h

/-! ## Histories -/

namespace History

variable {history : History}

/-- The accepted records, each where it was put first. -/
def kept (history : History) : List JournalRecord := history.accepted.eraseDups

/-- The file is the lines of the records that were accepted, no id twice. -/
structure Sound (history : History) : Prop where
  text : history.text = history.kept.flatMap line
  ids : (history.kept.map (·.journalId)).Nodup

theorem mem_kept {other : JournalRecord} :
    other ∈ history.kept ↔ other ∈ history.accepted := List.mem_eraseDups

theorem Sound.put_new (h : history.Sound)
    (hnew : ∀ other ∈ history.accepted, other.journalId ≠ record.journalId) :
    DurableJournal.put history.text record =
      ((history.kept ++ [record]).flatMap line, .ok ()) := by
  rw [h.text]
  apply DurableJournal.put_new h.ids
  intro other hother
  exact hnew other (mem_kept.mp hother)

theorem Sound.put_old (h : history.Sound) {other : JournalRecord}
    (hother : other ∈ history.accepted) (hsame : other.journalId = record.journalId) :
    DurableJournal.put history.text record = (history.text,
      if other = record ∧ record.payload = [] then .ok ()
      else .error (.conflict "JOURNAL_ID_CONFLICT")) := by
  rw [h.text]
  exact DurableJournal.put_old h.ids (mem_kept.mpr hother) hsame

/-- A put keeps the file in step with what was accepted. -/
theorem Sound.put (h : history.Sound) (record : JournalRecord) :
    (history.put record).Sound := by
  by_cases hid : ∃ other ∈ history.accepted, other.journalId = record.journalId
  · obtain ⟨other, hother, hsame⟩ := hid
    have hput := h.put_old hother hsame
    by_cases hagain : other = record ∧ record.payload = []
    · rw [if_pos hagain] at hput
      have hmem : record ∈ history.accepted := hagain.1 ▸ hother
      have hkept : (history.put record).kept = history.kept := by
        rw [History.put, hput]
        exact (eraseDups_concat _ _).trans (if_pos hmem)
      have htext : (history.put record).text = history.text := by rw [History.put, hput]
      exact ⟨htext.trans (hkept ▸ h.text), hkept ▸ h.ids⟩
    · rw [if_neg hagain] at hput
      have hsame : history.put record = history := by rw [History.put, hput]
      rw [hsame]
      exact h
  · have hnew : ∀ other ∈ history.accepted, other.journalId ≠ record.journalId :=
      fun other hother hsame => hid ⟨other, hother, hsame⟩
    have hput := h.put_new hnew
    have hmem : record ∉ history.accepted := fun hmem => hnew record hmem rfl
    have hkept : (history.put record).kept = history.kept ++ [record] := by
      rw [History.put, hput]
      exact (eraseDups_concat _ _).trans (if_neg hmem)
    have htext : (history.put record).text = (history.kept ++ [record]).flatMap line := by
      rw [History.put, hput]
    refine ⟨htext.trans (hkept ▸ rfl), ?_⟩
    rw [hkept, List.map_append, List.map_singleton, List.nodup_append]
    refine ⟨h.ids, List.nodup_singleton _, ?_⟩
    intro journalId hid' last hlast hsame
    obtain ⟨other, hother, rfl⟩ := List.mem_map.mp hid'
    exact hnew other (mem_kept.mp hother) (hsame.trans (List.mem_singleton.mp hlast))

/-- What a put promises in terms of the records that were accepted before it. -/
structure Honours (history : History) (record : JournalRecord) : Prop where
  identical : record ∈ history.accepted →
    DurableJournal.put history.text record = (history.text, .ok ())
  different : ∀ other ∈ history.accepted, other.journalId = record.journalId →
    other ≠ record →
      ∃ error, DurableJournal.put history.text record = (history.text, .error error)
  fresh : (∀ other ∈ history.accepted, other.journalId ≠ record.journalId) →
    (DurableJournal.put history.text record).2 = .ok ()

theorem Sound.honours_iff (h : history.Sound) :
    history.Honours record ↔ ¬(record ∈ history.accepted ∧ record.payload ≠ []) := by
  constructor
  · intro hhonours hagain
    have hput := h.put_old hagain.1 rfl
    rw [hhonours.identical hagain.1, if_neg (fun hempty => hagain.2 hempty.2)] at hput
    cases congrArg Prod.snd hput
  · intro hnot
    refine ⟨?_, ?_, ?_⟩
    · intro hmem
      have hempty : record.payload = [] := by
        by_contra hpayload
        exact hnot ⟨hmem, hpayload⟩
      rw [h.put_old hmem rfl, if_pos ⟨rfl, hempty⟩]
    · intro other hother hsame hdiffers
      have hrefused : ¬(other = record ∧ record.payload = []) := fun hboth => hdiffers hboth.1
      exact ⟨_, by rw [h.put_old hother hsame, if_neg hrefused]⟩
    · intro hnew
      rw [h.put_new hnew]

end History

theorem history_sound (records : List JournalRecord) : (history records).Sound := by
  apply run_invariant History.Sound
  · intro history record hsound
    exact hsound.put record
  · exact ⟨rfl, List.nodup_nil⟩

end DurableJournal

end ReisOs.RecursiveRuntime
