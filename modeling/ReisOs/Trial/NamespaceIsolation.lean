import ReisOs.Trial.WriteFencing
import ReisOs.Trial2.EpochFencing

/-!
# Whose keys are whose

Both trial stores let an OCS write the keys that start with its namespace, a text built
from the mission and the OCS.  Neither `bind` looks at the characters of an OCS, so one
namespace may start with another.
-/

namespace ReisOs.Trial

open ReisOs.Core TrialDatabase

/-! ## Namespaces -/

/-- The namespace of the first OCS contains that of the second one. -/
def Contains (outer inner : String) : Prop :=
  (outer ++ ":state:").toList <+: (inner ++ ":state:").toList

instance (outer inner : String) : Decidable (Contains outer inner) :=
  inferInstanceAs (Decidable (_ <+: _))

/-- Neither namespace contains the other. -/
def Apart (left right : String) : Prop := ¬ Contains left right ∧ ¬ Contains right left

instance (left right : String) : Decidable (Apart left right) :=
  inferInstanceAs (Decidable (_ ∧ _))

/-- A family of texts that only differ in a middle part. -/
structure Namespaces (space : String → String) : Prop where
  framed : ∃ front : String, ∀ ocsId, space ocsId = front ++ (ocsId ++ ":state:")

theorem Namespaces.prefix_iff {space : String → String} (h : Namespaces space)
    {outer inner : String} :
    (space outer).toList <+: (space inner).toList ↔ Contains outer inner := by
  obtain ⟨front, hframed⟩ := h.framed
  have hlist (ocsId : String) :
      (space ocsId).toList = front.toList ++ (ocsId ++ ":state:").toList := by
    rw [hframed, String.toList_append]
  rw [hlist, hlist, List.prefix_append_right_inj]
  rfl

theorem Namespaces.shared_iff {space : String → String} (h : Namespaces space)
    {left right : String} :
    (∃ key : String, (space left).toList <+: key.toList ∧
      (space right).toList <+: key.toList) ↔ ¬ Apart left right := by
  rw [Apart, not_and_or, not_not, not_not]
  constructor
  · rintro ⟨key, hleft, hright⟩
    rw [← h.prefix_iff, ← h.prefix_iff]
    exact List.prefix_or_prefix_of_prefix hleft hright
  · intro hcontains
    rw [← h.prefix_iff, ← h.prefix_iff] at hcontains
    rcases hcontains with hleft | hright
    · exact ⟨space right, hleft, List.prefix_rfl⟩
    · exact ⟨space left, List.prefix_rfl, hright⟩

theorem stateNamespace_framed (missionId : String) :
    Namespaces (stateNamespace missionId) where
  framed := ⟨s!"trial:{missionId}:", fun ocsId => by
    simp [stateNamespace, toString, String.append_assoc]⟩

theorem trial2_stateNamespace_framed (missionId : String) :
    Namespaces (Trial2.stateNamespace missionId) where
  framed := ⟨s!"trial2:{missionId}:", fun ocsId => by
    simp [Trial2.stateNamespace, toString, String.append_assoc]⟩

/-! ## Writable keys -/

/-- In some run of the store the OCS is let through with the key. -/
def Writable (canonicalHash : Value → String) (missionId ocsId key : String) : Prop :=
  ∃ ops instanceId epoch, (run (perform canonicalHash) .empty ops).writeDenialReason
    missionId ocsId instanceId epoch key = .ok none

/-- In some run of the second trial's store a write of the OCS to the key is made. -/
def Writable2 {N : Type} (encoding : Trial2.Encoding N) (missionId ocsId key : String) :
    Prop :=
  ∃ calls instanceId epoch value after, Trial2.writeState encoding missionId ocsId
    instanceId epoch key value (run (Trial2.perform encoding) .empty calls) =
      .ok (after, 1)

/-- No key is writable by both OCSs, whatever the digest is. -/
def Isolated (missionId left right : String) : Prop :=
  ∀ (canonicalHash : Value → String) (key : String),
    ¬ (Writable canonicalHash missionId left key ∧
      Writable canonicalHash missionId right key)

/-- The same of the second trial's store. -/
def Isolated2 (missionId left right : String) : Prop :=
  ∀ (N : Type) (encoding : Trial2.Encoding N) (key : String),
    ¬ (Writable2 encoding missionId left key ∧ Writable2 encoding missionId right key)

variable {missionId ocsId key : String}

theorem Writable.inNamespace {canonicalHash : Value → String}
    (h : Writable canonicalHash missionId ocsId key) :
    (stateNamespace missionId ocsId).toList <+: key.toList := by
  obtain ⟨ops, instanceId, epoch, hallowed⟩ := h
  obtain ⟨mission, current, -, -, -, hkey, -⟩ := writeDenialReason_eq_none.mp hallowed
  exact List.isPrefixOf_iff_prefix.mp hkey

theorem Writable2.inNamespace {N : Type} {encoding : Trial2.Encoding N} (h : Writable2 encoding missionId ocsId key) :
    (Trial2.stateNamespace missionId ocsId).toList <+: key.toList := by
  obtain ⟨calls, instanceId, epoch, value, after, hwritten⟩ := h
  simp only [Trial2.writeState] at hwritten
  obtain ⟨mission, -, hwritten⟩ := bind_eq_ok hwritten
  split at hwritten
  · cases hwritten
  · split at hwritten
    · cases hwritten
    · rename_i hkey
      exact List.isPrefixOf_iff_prefix.mp (by simpa using hkey)

/-! ## A mission with one active instance -/

/-- The time in a field of an object that is hashed. -/
def timeField {N : Type} (field : String × Json N) : Option String :=
  if field.1 = "at" then
    match field.2 with
    | .string time => some time
    | _ => none
  else none

/-- A digest that keeps the time of an object and drops the rest. -/
def timeDigest {N : Type} : Json N → String
  | .object fields => (fields.findSome? timeField).getD ""
  | _ => ""

theorem timeDigest_of_perm {N : Type} {fields sorted : List (String × Json N)}
    (hperm : sorted.Perm fields) {time : String}
    (htime : fields.filterMap timeField = [time]) : timeDigest (.object sorted) = time := by
  have hsorted : sorted.filterMap timeField = [time] := by
    rw [← List.perm_singleton, ← htime]
    exact hperm.filterMap timeField
  rw [timeDigest, ← List.head?_filterMap, hsorted]
  rfl

def openingOps (missionId ocsId : String) : List TrialOp :=
  [.createMission missionId "state" "gate" 1 (clockAt "t1"),
    .bind missionId ocsId "instance" "authority" true (clockAt "t2")]

theorem writable_of_isPrefix (hmission : missionId ≠ "")
    (hocs : ocsId ≠ "") (hkey : (stateNamespace missionId ocsId).toList <+: key.toList) :
    Writable timeDigest missionId ocsId key := by
  refine ⟨openingOps missionId ocsId, "instance", 1, writeDenialReason_eq_none.mpr ?_⟩
  simp [openingOps, run, perform, Transaction.leaves, createMission, empty,
    updateMission, appendLedger, timeDigest, timeField,
    List.findSome?_cons, clockAt, Trial.bind, hmission, hocs, mission, -AList.insert_empty,
    advanceEpoch, insertBinding, receipt,
    Bind.bind, Except.bind, pure, Except.pure, hkey, toString]


/-- The encoding of the second trial's store with this digest. -/
def timeEncoding : Trial2.Encoding ℤ where
  format := JsonText.integerFormat
  ofInt := id
  digest := timeDigest

theorem timeEncoding_eventId (missionId outcome time : String) (before after : PyValue ℤ) :
    timeEncoding.eventId missionId outcome before after time = "obs:" ++ time := by
  have hdigest : timeEncoding.hash (.dict
      [("mission", .string missionId), ("outcome", .string outcome), ("at", .string time),
        ("before", before), ("after", after)]) = time :=
    timeDigest_of_perm (PyValue.perm_sortKeys _)
      (by simp [PyValue.fieldDocuments, PyValue.document, timeField])
  rw [Trial2.Encoding.eventId, hdigest]
  rfl

theorem timeEncoding_receiptId (missionId kind time : String) (payload : PyValue ℤ) :
    timeEncoding.receiptId missionId kind payload time = "receipt:" ++ time := by
  have hdigest : timeEncoding.hash (.dict
      [("mission", .string missionId), ("kind", .string kind), ("payload", payload),
        ("at", .string time)]) = time :=
    timeDigest_of_perm (PyValue.perm_sortKeys _)
      (by simp [PyValue.fieldDocuments, PyValue.document, timeField])
  rw [Trial2.Encoding.receiptId, hdigest]
  rfl

def openingCalls (missionId ocsId : String) : List (Trial2.Call ℤ) :=
  [.createMission missionId "state" "gate" 1 (clockAt "t1"),
    .bind missionId ocsId "instance" "authority" "role" true (clockAt "t2")]

theorem writable2_of_isPrefix (hmission : missionId ≠ "")
    (hocs : ocsId ≠ "")
    (hkey : (Trial2.stateNamespace missionId ocsId).toList <+: key.toList) :
    Writable2 timeEncoding missionId ocsId key := by
  refine ⟨openingCalls missionId ocsId, "instance", 1, .none, ?_⟩
  have hwithin := List.isPrefixOf_iff_prefix.mpr hkey
  simp [openingCalls, run, Trial2.perform, Transaction.leaves, Trial2.createMission,
    Trial2.Database.empty, Trial2.Database.updateMission, Trial2.Database.observe,
    timeEncoding_eventId, timeEncoding_receiptId, clockAt, Trial2.bind, hmission, hocs,
    Trial2.Database.mission, -AList.insert_empty, Trial2.Database.advanceEpoch,
    Trial2.Database.insertBinding, Trial2.Database.receipt,
    Trial2.Database.observeMission, Bind.bind, Except.bind, pure, Except.pure,
    Trial2.writeState, hwithin, Trial2.Database.binding, Trial2.Database.binding?,
    Trial2.BindingRow.key]

/-! ## Isolation -/

/-- Of two OCSs that the stores accept, both stores keep the keys apart exactly when
neither namespace contains the other. -/
theorem isolated_iff_apart {missionId left right : String} (hmission : missionId ≠ "")
    (hleft : left ≠ "") (hright : right ≠ "") :
    (Isolated missionId left right ↔ Apart left right) ∧
      (Isolated2 missionId left right ↔ Apart left right) := by
  constructor
  · have hshared := @Namespaces.shared_iff _ (stateNamespace_framed missionId) left right
    constructor
    · intro h
      by_contra hcontains
      obtain ⟨key, hkeyLeft, hkeyRight⟩ := hshared.mpr hcontains
      exact h timeDigest key ⟨writable_of_isPrefix hmission hleft hkeyLeft,
        writable_of_isPrefix hmission hright hkeyRight⟩
    · rintro hapart canonicalHash key ⟨hkeyLeft, hkeyRight⟩
      exact hshared.mp ⟨key, hkeyLeft.inNamespace, hkeyRight.inNamespace⟩ hapart
  · have hshared := @Namespaces.shared_iff _ (trial2_stateNamespace_framed missionId) left
      right
    constructor
    · intro h
      by_contra hcontains
      obtain ⟨key, hkeyLeft, hkeyRight⟩ := hshared.mpr hcontains
      exact h ℤ timeEncoding key ⟨writable2_of_isPrefix hmission hleft hkeyLeft,
        writable2_of_isPrefix hmission hright hkeyRight⟩
    · rintro hapart N encoding key ⟨hkeyLeft, hkeyRight⟩
      exact hshared.mp ⟨key, hkeyLeft.inNamespace, hkeyRight.inNamespace⟩ hapart

theorem sofia_isolated_from_dedala :
    Isolated "m-001" "SOFIA" "DÉDALA" ∧ Isolated2 "m-001" "SOFIA" "DÉDALA" := by
  have h := @isolated_iff_apart "m-001" "SOFIA" "DÉDALA" (by decide) (by decide) (by decide)
  have hapart : Apart "SOFIA" "DÉDALA" := by decide
  exact ⟨h.1.mpr hapart, h.2.mpr hapart⟩

/-! ### An OCS that is named like a key -/

/-- SÝNESIS:state:plan is active, and SÝNESIS is bound. -/
def lentOps : List TrialOp :=
  [.createMission "m-001" "state:m-001" "gate-1" 3 (clockAt "t1"),
    .bind "m-001" "SÝNESIS:state:plan" "plan-1" "authority-1" true (clockAt "t2"),
    .bind "m-001" "SÝNESIS" "synesis-1" "authority-1" false (clockAt "t3")]

/-- The handover to SÝNESIS. -/
def lentHandover : List TrialOp :=
  [.checkpoint "m-001" "plan-1" (.object []) (clockAt "t4"),
    .issueHandoff "m-001"
      "L2-SINGLE-SURFACE-IMPLEMENTER-TO-SYNESIS-IMPLEMENTATION-ASSURANCE-001" "synesis-1"
      "SÝNESIS" (.object []) (clockAt "t5"),
    .acceptHandoff "m-001"
      ("handoff:m-001L2-SINGLE-SURFACE-IMPLEMENTER-TO-SYNESIS-IMPLEMENTATION-ASSURANCE" ++
        "-001plan-1synesis-1checkpoint:m-001plan-11") (clockAt "t6")]

/-- A key in both namespaces. -/
def lentKey : String := "trial:m-001:SÝNESIS:state:plan:state:draft"

/-- The same run of the second trial's store. -/
def lentCalls : List (Trial2.Call ℤ) :=
  [.createMission "m-001" "state:m-001" "gate-1" 3 (clockAt "t1"),
    .bind "m-001" "SÝNESIS:state:plan" "plan-1" "authority-1" "role-1" true (clockAt "t2")]

/-- A run in which SÝNESIS is active alone. -/
def ownCalls : List (Trial2.Call ℤ) :=
  [.createMission "m-001" "state:m-001" "gate-1" 3 (clockAt "t1"),
    .bind "m-001" "SÝNESIS" "synesis-1" "authority-1" "role-1" true (clockAt "t2")]

/-- Before the handover the first OCS may write the key and after it the second one;
the second trial's store lets both write such a key too. -/
theorem lentKey_not_isolated :
    (run (perform textDigest) .empty lentOps).writeDenialReason "m-001"
        "SÝNESIS:state:plan" "plan-1" 1 lentKey = .ok none ∧
      (run (perform textDigest) .empty (lentOps ++ lentHandover)).writeDenialReason "m-001"
        "SÝNESIS" "synesis-1" 1 lentKey = .ok none ∧
      ¬ Isolated "m-001" "SÝNESIS:state:plan" "SÝNESIS" ∧
      ¬ Isolated2 "m-001" "SÝNESIS:state:plan" "SÝNESIS" := by
  have hplan : (run (perform textDigest) .empty lentOps).writeDenialReason "m-001"
      "SÝNESIS:state:plan" "plan-1" 1 lentKey = .ok none := by decide +kernel
  have hown : (run (perform textDigest) .empty (lentOps ++ lentHandover)).writeDenialReason
      "m-001" "SÝNESIS" "synesis-1" 1 lentKey = .ok none := by decide +kernel
  have hplan2 : (Trial2.writeState Trial2.plainEncoding "m-001" "SÝNESIS:state:plan"
      "plan-1" 1 "trial2:m-001:SÝNESIS:state:plan:state:draft" .none
      (run (Trial2.perform Trial2.plainEncoding) .empty lentCalls)).map Prod.snd =
        .ok 1 := by
    decide +kernel
  have hown2 : (Trial2.writeState Trial2.plainEncoding "m-001" "SÝNESIS" "synesis-1" 1
      "trial2:m-001:SÝNESIS:state:plan:state:draft" .none
      (run (Trial2.perform Trial2.plainEncoding) .empty ownCalls)).map Prod.snd =
        .ok 1 := by
    decide +kernel
  refine ⟨hplan, hown, ?_, ?_⟩
  · intro h
    exact h textDigest lentKey ⟨⟨_, _, _, hplan⟩, ⟨_, _, _, hown⟩⟩
  · intro h
    obtain ⟨after, hwritten⟩ := exists_state_of_answer hplan2
    obtain ⟨after', hwritten'⟩ := exists_state_of_answer hown2
    exact h ℤ Trial2.plainEncoding _
      ⟨⟨_, _, _, _, after, hwritten⟩, ⟨_, _, _, _, after', hwritten'⟩⟩

end ReisOs.Trial
