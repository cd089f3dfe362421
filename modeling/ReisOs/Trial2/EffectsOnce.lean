import ReisOs.Trial2.Wiring

/-!
# Effects happen once

An effect and its receipt are written in one transaction, under a key that the mission
uses once.  Whatever else happens, effects and effect receipts correspond, a repeated
call finds what the first one did, and a rejected call leaves nothing behind.
-/

namespace ReisOs.Trial2

open ReisOs.Core

variable {N : Type} {encoding : Encoding N} {database middle after : Database}
  {missionId : String}

/-- A call, and whether the database fails at one of its statements. -/
structure Attempt (N : Type) where
  call : Call N
  fails : Bool

/-- A failing statement rolls the transaction of its call back. -/
def attempt (encoding : Encoding N) (database : Database) (attempted : Attempt N) :
    Database :=
  if attempted.fails then database else perform encoding database attempted.call

/-- Effects and effect receipts, one to one. -/
structure Receipted (database : Database) : Prop where
  keys : (database.effects.map EffectRow.key).Nodup
  refs : (database.effects.map (·.receiptRef)).Nodup
  receipts : ∀ effect ∈ database.effects, ∃ row,
    database.receipts.lookup effect.receiptRef = some row ∧ row.kind = "effect" ∧
      row.missionId = effect.missionId
  effects : ∀ receiptId row, database.receipts.lookup receiptId = some row →
    row.kind = "effect" → ∃ effect ∈ database.effects, effect.receiptRef = receiptId

/-- The effect on record for a key has another payload. -/
def Conflicts (encoding : Encoding N) (database : Database)
    (missionId idempotencyKey : String) (payload : PyValue N) : Prop :=
  ∃ effect ∈ database.effects, effect.key = (missionId, idempotencyKey) ∧
    effect.payloadHash ≠ encoding.hash payload

/-- What holds of effects wherever a run has come. -/
structure EffectsOnce (encoding : Encoding N) (database : Database) : Prop where
  receipted : Receipted database
  replays : ∀ missionId ocsId instanceId epoch authorityRef idempotencyKey payload now after
      answer,
    IntegrityChecked.applySyntheticEffect encoding missionId ocsId instanceId epoch
        authorityRef idempotencyKey payload now database = .ok (after, answer) →
      ∀ more ocsId instanceId epoch authorityRef now,
        Admitted (run (attempt encoding) after more) missionId ocsId instanceId epoch
            authorityRef →
          IntegrityChecked.applySyntheticEffect encoding missionId ocsId instanceId epoch
              authorityRef idempotencyKey payload now (run (attempt encoding) after more) =
            .ok (run (attempt encoding) after more,
              ⟨answer.effectId, answer.receiptRef, 0, true⟩)
  rejects : ∀ missionId ocsId instanceId epoch authorityRef idempotencyKey payload now,
    ¬ Admitted database missionId ocsId instanceId epoch authorityRef ∨
        Conflicts encoding database missionId idempotencyKey payload →
      ∃ error, IntegrityChecked.applySyntheticEffect encoding missionId ocsId instanceId
        epoch authorityRef idempotencyKey payload now database = .error error
  unchanged : ∀ missionId ocsId instanceId epoch authorityRef idempotencyKey payload now
      error,
    IntegrityChecked.applySyntheticEffect encoding missionId ocsId instanceId epoch
        authorityRef idempotencyKey payload now database = .error error →
      perform encoding database (.applySyntheticEffect .integrityChecked missionId ocsId
        instanceId epoch authorityRef idempotencyKey payload now) = database

/-! ## Receipts -/

namespace Receipted

theorem congr (h : Receipted database) (heffects : after.effects = database.effects)
    (hreceipts : after.receipts = database.receipts) : Receipted after where
  keys := by
    rw [heffects]
    exact h.keys
  refs := by
    rw [heffects]
    exact h.refs
  receipts := by
    rw [heffects, hreceipts]
    exact h.receipts
  effects := by
    rw [heffects, hreceipts]
    exact h.effects

/-- A receipt of another kind. -/
theorem of_noted (hdatabase : Receipted database) {kind receipt : String}
    (hnoted : middle.Noted missionId kind receipt after) (hkind : kind ≠ "effect")
    (heffects : middle.effects = database.effects)
    (hsame : middle.receipts = database.receipts) : Receipted after := by
  have h : Receipted middle := hdatabase.congr heffects hsame
  obtain ⟨noted, -, hnotedKind, hreceipts⟩ := hnoted.receipts
  constructor
  case keys =>
    rw [hnoted.effects]
    exact h.keys
  case refs =>
    rw [hnoted.effects]
    exact h.refs
  case receipts =>
    intro effect heffect
    rw [hnoted.effects] at heffect
    obtain ⟨row, hrow, hrowKind, hmission⟩ := h.receipts effect heffect
    refine ⟨row, ?_, hrowKind, hmission⟩
    rw [hreceipts, Dict.lookup_insert_eq, if_neg]
    · exact hrow
    · intro heq
      rw [heq, hnoted.fresh] at hrow
      cases hrow
  case effects =>
    intro receiptId row hrow hrowKind
    rw [hreceipts, Dict.lookup_insert_eq] at hrow
    rw [hnoted.effects]
    split at hrow
    · cases hrow
      exact absurd (hnotedKind.symm.trans hrowKind) hkind
    · exact h.effects receiptId row hrow hrowKind

/-- A new effect with its receipt. -/
theorem applied (h : Receipted database) {row : EffectRow}
    (hfresh : ∀ effect ∈ database.effects, effect.key ≠ row.key)
    (hmission : row.missionId = missionId)
    (hnoted : Database.Noted missionId "effect" row.receiptRef
      { database with effects := database.effects ++ [row] } after) : Receipted after := by
  obtain ⟨noted, hnotedMission, hnotedKind, hreceipts⟩ := hnoted.receipts
  have hnew : database.receipts.lookup row.receiptRef = none := hnoted.fresh
  have hother : ∀ effect ∈ database.effects, effect.receiptRef ≠ row.receiptRef := by
    intro effect heffect heq
    obtain ⟨stored, hstored, -⟩ := h.receipts effect heffect
    rw [heq, hnew] at hstored
    cases hstored
  constructor
  case keys =>
    rw [hnoted.effects, List.map_append, List.map_singleton, ← List.concat_eq_append]
    apply h.keys.concat
    intro hmem
    obtain ⟨effect, heffect, hkey⟩ := List.mem_map.mp hmem
    exact hfresh effect heffect hkey
  case refs =>
    rw [hnoted.effects, List.map_append, List.map_singleton, ← List.concat_eq_append]
    apply h.refs.concat
    intro hmem
    obtain ⟨effect, heffect, href⟩ := List.mem_map.mp hmem
    exact hother effect heffect href
  case receipts =>
    intro effect heffect
    rw [hnoted.effects] at heffect
    rw [hreceipts, Dict.lookup_insert_eq]
    rcases List.mem_append.mp heffect with hold | hrow
    · rw [if_neg (hother effect hold)]
      exact h.receipts effect hold
    · rw [List.mem_singleton.mp hrow, if_pos rfl]
      exact ⟨noted, rfl, hnotedKind, hnotedMission.trans hmission.symm⟩
  case effects =>
    intro receiptId found hfound hkind
    rw [hreceipts, Dict.lookup_insert_eq] at hfound
    rw [hnoted.effects]
    split at hfound
    · rename_i heq
      exact ⟨row, List.mem_append_right _ (List.mem_singleton_self row), heq.symm⟩
    · obtain ⟨effect, heffect, href⟩ := h.effects receiptId found hfound hkind
      exact ⟨effect, List.mem_append_left _ heffect, href⟩

theorem perform (h : Receipted database) (call : Call N) :
    Receipted (Trial2.perform encoding database call) := by
  have hchange := perform_change encoding database call
  cases hchange with
  | same hsame => exact h.congr hsame.effects hsame.receipts
  | created _ _ _ _ _ hsame => exact h.congr hsame.effects hsame.receipts
  | @bound _ _ _ _ mission row active _ _ _ hnoted =>
    cases active with
    | false => exact h.of_noted hnoted (by decide) rfl rfl
    | true => exact h.of_noted hnoted (by decide) rfl rfl
  | checkpointed _ hnoted => exact h.of_noted hnoted (by decide) rfl rfl
  | issued _ hnoted => exact h.of_noted hnoted (by decide) rfl rfl
  | accepted _ _ hnoted => exact h.of_noted hnoted (by decide) rfl rfl
  | applied _ hfresh hkey _ hnoted =>
    exact h.applied hfresh (Prod.mk.inj hkey).1 hnoted

theorem start : Receipted .empty where
  keys := List.nodup_nil
  refs := List.nodup_nil
  receipts := fun _ hmem => absurd hmem List.not_mem_nil
  effects := fun _ _ hfound => nomatch hfound

end Receipted

/-! ## Effects on record -/

variable {effect : EffectRow}

theorem effects_perform (database : Database) (call : Call N)
    (heffect : effect ∈ database.effects) :
    effect ∈ (perform encoding database call).effects := by
  have hchange := perform_change encoding database call
  cases hchange with
  | same hsame => rwa [hsame.effects]
  | created _ _ _ _ _ hsame => rwa [hsame.effects]
  | @bound _ _ _ _ mission row active _ _ _ hnoted =>
    have hbound : (Trial2.bound database mission row active).effects = database.effects := by
      cases active <;> rfl
    rwa [hnoted.effects, hbound]
  | checkpointed _ hnoted =>
    rw [hnoted.effects]
    exact heffect
  | issued _ hnoted =>
    rw [hnoted.effects]
    exact heffect
  | accepted _ _ hnoted =>
    rw [hnoted.effects]
    exact heffect
  | applied _ _ _ _ hnoted =>
    rw [hnoted.effects]
    exact List.mem_append_left _ heffect

theorem Receipted.attempt (h : Receipted database) (attempted : Attempt N) :
    Receipted (Trial2.attempt encoding database attempted) := by
  unfold Trial2.attempt
  split
  · exact h
  · exact h.perform attempted.call

theorem effects_run (attempts : List (Attempt N))
    (heffect : effect ∈ database.effects) :
    effect ∈ (run (attempt encoding) database attempts).effects := by
  refine run_invariant (fun database : Database => effect ∈ database.effects) ?_ heffect
    attempts
  intro database attempted heffect
  unfold attempt
  split
  · exact heffect
  · exact effects_perform database attempted.call heffect

variable {ocsId instanceId authorityRef idempotencyKey : String} {epoch : ℤ}
  {payload : PyValue N} {now : ℕ → String}

theorem applySyntheticEffect_recorded {answer : EffectResult}
    (h : IntegrityChecked.applySyntheticEffect encoding missionId ocsId instanceId epoch
      authorityRef idempotencyKey payload now database = .ok (after, answer)) :
    Admitted database missionId ocsId instanceId epoch authorityRef ∧
      ∃ effect ∈ after.effects, effect.key = (missionId, idempotencyKey) ∧
        effect.payloadHash = encoding.hash payload ∧
        answer.effectId = effect.effectId ∧ answer.receiptRef = effect.receiptRef := by
  obtain ⟨hadmitted, hreplay | hnew⟩ := applySyntheticEffectWith_spec h
  · obtain ⟨prior, hprior, hsame, rfl, rfl⟩ := hreplay
    refine ⟨hadmitted, prior, List.mem_of_find?_eq_some hprior, ?_, ?_, rfl, rfl⟩
    · simpa using List.find?_some hprior
    · simpa using hsame
  · obtain ⟨row, -, hkey, hpayload, rfl, hnoted⟩ := hnew
    refine ⟨hadmitted, row, ?_, hkey, hpayload, rfl, rfl⟩
    rw [hnoted.effects]
    exact List.mem_append_right _ (List.mem_singleton_self row)

theorem applySyntheticEffect_replayed (h : Receipted database)
    (hadmitted : Admitted database missionId ocsId instanceId epoch authorityRef) (heffect : effect ∈ database.effects)
    (hkey : effect.key = (missionId, idempotencyKey))
    (hpayload : effect.payloadHash = encoding.hash payload) :
    IntegrityChecked.applySyntheticEffect encoding missionId ocsId instanceId epoch
        authorityRef idempotencyKey payload now database =
      .ok (database, ⟨effect.effectId, effect.receiptRef, 0, true⟩) := by
  obtain ⟨mission, hmission, hocs, hpointer⟩ := hadmitted.pointer
  obtain ⟨binding, hbinding, hepoch, hauthority⟩ := hadmitted.seated
  have hmissionOk : database.mission missionId = .ok mission := by
    rw [Database.mission, hmission]
  have hbindingOk : database.binding missionId instanceId = .ok binding := by
    rw [Database.binding, hbinding]
  have hprior : database.effects.find? (EffectRow.key · = (missionId, idempotencyKey)) =
      some effect :=
    (find?_key_eq_some_iff h.keys).mpr ⟨heffect, hkey⟩
  unfold IntegrityChecked.applySyntheticEffect applySyntheticEffectWith
  rw [hmissionOk]
  simp only [Bind.bind, Except.bind, hocs, hpointer, hbindingOk, hepoch, hauthority, hprior,
    hpayload, ne_eq, not_true_eq_false, or_self, if_false, decide_false, Bool.false_eq_true]
  rfl

theorem applySyntheticEffect_rejected (h : Receipted database)
    (hrejects : ¬ Admitted database missionId ocsId instanceId epoch authorityRef ∨
      Conflicts encoding database missionId idempotencyKey payload) :
    ∃ error, IntegrityChecked.applySyntheticEffect encoding missionId ocsId instanceId epoch
      authorityRef idempotencyKey payload now database = .error error := by
  cases hresult : IntegrityChecked.applySyntheticEffect encoding missionId ocsId instanceId
      epoch authorityRef idempotencyKey payload now database with
  | error error => exact ⟨error, rfl⟩
  | ok result =>
    obtain ⟨after, answer⟩ := result
    obtain ⟨hadmitted, hrecorded⟩ := applySyntheticEffectWith_spec hresult
    rcases hrejects with hother | ⟨effect, heffect, hkey, hpayload⟩
    · exact absurd hadmitted hother
    · exfalso
      rcases hrecorded with ⟨prior, hprior, hsame, -, -⟩ | ⟨row, hfresh, hrowKey, -⟩
      · have hfound := (find?_key_eq_some_iff h.keys).mpr ⟨heffect, hkey⟩
        have heq : effect = prior := Option.some.inj (hfound.symm.trans hprior)
        rw [heq] at hpayload
        simp only [ne_eq, decide_not, Bool.not_eq_false', decide_eq_true_eq] at hsame
        exact hpayload hsame
      · exact hfresh effect heffect (hkey.trans hrowKey.symm)

/-! ## Runs -/

/-- Along every run, with whatever calls and failing statements, effects happen once. -/
theorem effects_once (encoding : Encoding N) (attempts : List (Attempt N)) :
    EffectsOnce encoding (run (attempt encoding) .empty attempts) := by
  have hreceipted : Receipted (run (attempt encoding) .empty attempts) :=
    run_invariant Receipted (fun _ attempted h => h.attempt attempted) Receipted.start attempts
  constructor
  case receipted => exact hreceipted
  case replays =>
    intro missionId ocsId instanceId epoch authorityRef idempotencyKey payload now after
      answer haccepted more laterOcsId laterInstanceId laterEpoch laterAuthorityRef laterNow
      hadmitted
    obtain ⟨-, effect, heffect, hkey, hpayload, heffectId, hreceiptRef⟩ :=
      applySyntheticEffect_recorded haccepted
    have hafter : Receipted after := by
      have hperformed : Receipted (perform encoding (run (attempt encoding) .empty attempts)
          (.applySyntheticEffect .integrityChecked missionId ocsId instanceId epoch
            authorityRef idempotencyKey payload now)) := hreceipted.perform _
      rw [perform, StoreClass.choose, Transaction.leaves, haccepted] at hperformed
      exact hperformed
    have hlater : Receipted (run (attempt encoding) after more) :=
      run_invariant Receipted (fun _ attempted h => h.attempt attempted) hafter more
    rw [heffectId, hreceiptRef]
    exact applySyntheticEffect_replayed hlater hadmitted (effects_run more heffect) hkey
      hpayload
  case rejects =>
    intro missionId ocsId instanceId epoch authorityRef idempotencyKey payload now hrejects
    exact applySyntheticEffect_rejected hreceipted hrejects
  case unchanged =>
    intro missionId ocsId instanceId epoch authorityRef idempotencyKey payload now error
      herror
    rw [perform, StoreClass.choose, Transaction.leaves, herror]

end ReisOs.Trial2
