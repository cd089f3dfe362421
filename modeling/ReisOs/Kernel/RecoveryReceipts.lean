import ReisOs.Kernel.Authorization
import ReisOs.Kernel.CrossOcs
import ReisOs.Kernel.EffectHonesty
import ReisOs.Kernel.WriteAtomicity

/-!
# Recovery receipts

The receipt of a recovery should say whether the state of the OCS was restored and
whether the compensation was confirmed.  The compensation runs first, inside the `except`
clause of `execute`; what the restore raises afterwards leaves the call without a receipt,
and a restore that is reported may have concerned another OCS or another content.
-/

namespace ReisOs.Kernel

open ReisOs.Core ReadbackCheck

variable {P : Type}

/-! ## Compensation -/

/-- The adapter compensated, and a verifier that is another object than the adapter read
the compensation back and confirmed it. -/
def ToolBroker.Confirmed (broker : ToolBroker) (capability : String)
    (answers : AdapterAnswers P) : Prop :=
  ∃ verifier adapter compensationId readback,
    broker.compensationVerifiers.lookup capability = some verifier ∧
      broker.adapters.lookup capability = some adapter ∧ verifier ≠ adapter.objectId ∧
      adapter.hasCompensate = true ∧ answers.compensate = .ok compensationId ∧
      answers.verifierReadback = .ok readback ∧ answers.verify = .ok true

/-- A `ValueError` or a `RuntimeError`. -/
def PyError.Ordinary (error : PyError) : Prop :=
  ∃ message, error = .valueError message ∨ error = .runtimeError message

/-- Compensation and verifier return or raise ordinary errors. -/
structure AdapterAnswers.Ordinary (answers : AdapterAnswers P) : Prop where
  compensate : ∀ error, answers.compensate = .error error → error.Ordinary
  verifierReadback : ∀ error, answers.verifierReadback = .error error → error.Ordinary
  verify : ∀ error, answers.verify = .error error → error.Ordinary

namespace ToolBroker

variable {broker : ToolBroker} {answers : AdapterAnswers P}
  {envelope : AuthorizedActionEnvelope P}

theorem compensateFor_confirmed (hvalid : validateEnvelope envelope = none)
    (h : broker.Confirmed envelope.capability answers) :
    ∃ readback, broker.compensateFor answers envelope = .ok readback := by
  obtain ⟨verifier, adapter, compensationId, readback, hverifier, hadapter, hother,
    hcompensate, hcompensated, hreadback, hverify⟩ := h
  refine ⟨readback, ?_⟩
  rw [compensateFor, hvalid]
  simp only [hverifier, hadapter, if_neg hother, hcompensate, hcompensated, hreadback,
    hverify]
  rfl

/-- What is not confirmed ends by an ordinary error. -/
theorem compensateFor_unconfirmed (hordinary : answers.Ordinary)
    (h : ¬broker.Confirmed envelope.capability answers) :
    ∃ error, broker.compensateFor answers envelope = .error error ∧ error.Ordinary := by
  cases hvalid : validateEnvelope envelope with
  | some reason => exact ⟨.valueError reason, by rw [compensateFor, hvalid], _, .inl rfl⟩
  | none =>
    rw [compensateFor, hvalid]
    cases hverifier : broker.compensationVerifiers.lookup envelope.capability with
    | none => exact ⟨_, rfl, _, .inr rfl⟩
    | some verifier =>
      cases hadapter : broker.adapters.lookup envelope.capability with
      | none => exact ⟨_, rfl, _, .inr rfl⟩
      | some adapter =>
        dsimp only
        by_cases hsame : verifier = adapter.objectId
        · rw [if_pos hsame]
          exact ⟨_, rfl, _, .inr rfl⟩
        · rw [if_neg hsame]
          cases hcompensate : adapter.hasCompensate with
          | false => exact ⟨_, rfl, _, .inr rfl⟩
          | true =>
            cases hcompensated : answers.compensate with
            | error error =>
              exact ⟨error, rfl, hordinary.compensate error hcompensated⟩
            | ok compensationId =>
              cases hreadback : answers.verifierReadback with
              | error error =>
                exact ⟨error, rfl, hordinary.verifierReadback error hreadback⟩
              | ok readback =>
                cases hverify : answers.verify with
                | error error =>
                  exact ⟨error, rfl, hordinary.verify error hverify⟩
                | ok verified =>
                  cases verified with
                  | false => exact ⟨_, rfl, _, .inr rfl⟩
                  | true =>
                    exact absurd ⟨verifier, adapter, compensationId, readback,
                      hverifier, hadapter, hsame, hcompensate, hcompensated,
                      hreadback, hverify⟩ h

end ToolBroker

/-! ## Restore -/

namespace StateCore

/-- The current state of the OCS has the content of the checkpoint. -/
def AtCheckpoint (core : StateCore P) (ocs : String) (checkpoint : VerifiedCheckpoint P) :
    Prop :=
  ∃ record, core.current ocs = .ok (some record) ∧
    record.payload = checkpoint.state.payload

/-- Without a port, or with one whose rows take the record and give it back. -/
def Storable (codec : StateCodec P) (core : StateCore P) (record : StateRecord P) : Prop :=
  ∀ database, core.persistence = some database →
    Fits codec database record ∧ reloaded codec record = record

/-- Recovery to the checkpoint is possible and leads to the states of `landed`. -/
def Lands (codec : StateCodec P) (core : StateCore P) (checkpoint : VerifiedCheckpoint P)
    (landed : StateCore P) : Prop :=
  ∃ current, core.current checkpoint.state.ocs = .ok current ∧
    if current.any (·.stateId = checkpoint.state.stateId) then landed = core
    else
      ∃ source restored, core.checkSource codec checkpoint = .ok source ∧
        restored = restoredRecord checkpoint.checkpointId source current ∧
        core.checkWrite codec restored (restoreContext restored) = .ok () ∧
        core.Storable codec restored ∧ landed = core.install restored restored

/-- The checkpoint is one of the OCS, and recovery to it is possible and gives the OCS
the content of the checkpoint. -/
def Restorable (codec : StateCodec P) (core : StateCore P) (ocs : String)
    (checkpoint : VerifiedCheckpoint P) : Prop :=
  checkpoint.state.ocs = ocs ∧
    ∃ landed, core.Lands codec checkpoint landed ∧ landed.AtCheckpoint ocs checkpoint

theorem AtCheckpoint.congr {core core' : StateCore P} {ocs : String}
    {checkpoint : VerifiedCheckpoint P} (h : core.AtCheckpoint ocs checkpoint)
    (hcurrent : core'.current ocs = core.current ocs) : core'.AtCheckpoint ocs checkpoint := by
  obtain ⟨record, hrecord, hpayload⟩ := h
  exact ⟨record, hcurrent.trans hrecord, hpayload⟩

variable [DecidableEq P] {codec : StateCodec P} {core : StateCore P}
  {record : StateRecord P} {context : WriteContext}

/-- The readback check of the kernel. -/
def unchanged (record : StateRecord P) : ReadbackCheck P :=
  fun stored => .ok (stored = record)

theorem unchanged_self (record : StateRecord P) : unchanged record record = .ok true := by
  rw [unchanged, decide_eq_true rfl]

theorem unchanged_other {record stored : StateRecord P} (h : stored ≠ record) :
    unchanged record stored = .ok false := by
  rw [unchanged, decide_eq_false h]

omit [DecidableEq P] in
/-- The answer of `write`, from its form with a port that fails as its rows make it. -/
theorem write_of_writeUnder {check : ReadbackCheck P} {after : StateCore P}
    {answer : Except Raised (StateRecord P)}
    (h : core.writeUnder codec record check.answer context .settled = (after, answer)) :
    (core.write codec record check context).1 = after ∧
      (core.write codec record check context).2.mapError .exception = answer := by
  rw [writeUnder_settled] at h
  exact Prod.mk.inj h

/-- A record that can be stored is written and becomes the current one. -/
theorem write_storable (hcheck : core.checkWrite codec record context = .ok ())
    (hstorable : core.Storable codec record) :
    ∃ after, core.write codec record (unchanged record) context = (after, .ok record) ∧
      ∀ ocs, after.current ocs = (core.install record record).current ocs := by
  cases hport : core.persistence with
  | none =>
    rw [write, hcheck]
    simp only [hport]
    rw [storeInMemory, unchanged_self]
    refine ⟨_, rfl, fun ocs => ?_⟩
    apply current_congr
    · rfl
    · intro stateId _
      simp [install, Dict.lookup_insert_eq]
  | some database =>
    obtain ⟨hfits, hreloaded⟩ := hstorable database hport
    obtain ⟨digest, hdigest, hwritten⟩ := write_of_fits hfits
    have hread := @readback_faithful P codec database record
      (answer (unchanged record)) .settled digest hfits hdigest
      ⟨rfl, by rw [hreloaded]⟩
    have haccepted : answer (unchanged record) record = .ok true := by
      rw [answer, unchanged_self]
      rfl
    simp only [hreloaded, haccepted] at hread
    have hunder : core.writeUnder codec record (answer (unchanged record))
        context .settled =
          ((core.withRows (database ++ [insertedRow codec record digest])).install record
            record, .ok record) := by
      rw [writeUnder, hcheck]
      simp only [hport]
      rw [storeUnder, hwritten]
      simp only [PortFates.settled] at hread ⊢
      rw [hread]
    obtain ⟨hafter, hanswer⟩ := write_of_writeUnder hunder
    refine ⟨_, Prod.ext hafter ?_, fun ocs => rfl⟩
    cases hresult : (core.write codec record (unchanged record) context).2 with
    | error error =>
      rw [hresult] at hanswer
      cases hanswer
    | ok stored =>
      rw [hresult] at hanswer
      rw [Except.ok.inj hanswer]

/-- With a port, what cannot be stored ends by an exception. -/
theorem storeUnder_not_storable {database : StateDatabase P}
    (hnot : ¬(Fits codec database record ∧ reloaded codec record = record)) :
    ∃ after error, core.storeUnder codec database record
      (answer (unchanged record)) .settled = (after, .error (.exception error)) := by
  by_cases hfits : Fits codec database record
  · have hother : reloaded codec record ≠ record := fun hsame => hnot ⟨hfits, hsame⟩
    obtain ⟨digest, hdigest, hwritten⟩ := write_of_fits hfits
    have hraised : ∃ error, readback codec (database ++ [insertedRow codec record digest])
        record (answer (unchanged record)) PortFates.settled.readFresh =
          .error (.exception error) := by
      by_cases hfaithful : Faithful codec record .settled
      · have hrefused : answer (unchanged record) (reloaded codec record) =
            .ok false := by
          rw [answer, unchanged_other hother]
          rfl
        rw [readback_faithful hfits hdigest hfaithful, hrefused]
        exact ⟨_, rfl⟩
      · obtain ⟨raised, hread, hbase⟩ := @readback_unfaithful P codec database record
          (answer (unchanged record)) .settled digest hfits hdigest hfaithful
        cases raised with
        | exception error => exact ⟨error, hread⟩
        | baseException name => cases hbase name rfl
    obtain ⟨error, hread⟩ := hraised
    rw [storeUnder, hwritten]
    simp only [PortFates.settled] at hread ⊢
    rw [hread]
    exact ⟨_, _, rfl⟩
  · obtain ⟨error, herror⟩ := write_of_not_fits hfits
    rw [storeUnder, herror]
    exact ⟨_, _, rfl⟩

/-- Any other record is not written. -/
theorem write_not_storable
    (h : core.checkWrite codec record context = .ok () → ¬core.Storable codec record) :
    ∃ after error, core.write codec record (unchanged record) context =
      (after, .error error) := by
  cases hcheck : core.checkWrite codec record context with
  | error error => exact ⟨core, error, by rw [write, hcheck]⟩
  | ok _ =>
    have hnot := h hcheck
    cases hport : core.persistence with
    | none =>
      rw [Storable, hport] at hnot
      exact absurd (fun _ hsome => nomatch hsome) hnot
    | some database =>
      have hrows : ¬(Fits codec database record ∧ reloaded codec record = record) := by
        intro hrows
        apply hnot
        intro other hother
        rw [hport] at hother
        cases hother
        exact hrows
      obtain ⟨after, raised, hstore⟩ :=
        @storeUnder_not_storable P _ codec core record database hrows
      have hunder : core.writeUnder codec record (answer (unchanged record))
          context .settled = (after, .error (.exception raised)) := by
        rw [writeUnder, hcheck]
        simp only [hport]
        exact hstore
      obtain ⟨hafter, hanswer⟩ := write_of_writeUnder hunder
      cases hresult : (core.write codec record (unchanged record) context).2 with
      | error error => exact ⟨_, error, Prod.ext hafter hresult⟩
      | ok stored =>
        rw [hresult] at hanswer
        cases hanswer

variable {checkpoints : Checkpoints P} {checkpoint : VerifiedCheckpoint P}
  {recoveryRef : String}

theorem recoverState_lands (hcheckpoint : checkpoints.lookup recoveryRef = some checkpoint)
    {landed : StateCore P} (h : core.Lands codec checkpoint landed) :
    ∃ after, recoverState codec checkpoints core recoveryRef = (after, .ok true) ∧
      ∀ ocs, after.current ocs = landed.current ocs := by
  obtain ⟨current, hcurrent, hlands⟩ := h
  rw [recoverState, hcheckpoint]
  simp only [hcurrent]
  by_cases hsame : current.any (·.stateId = checkpoint.state.stateId) = true
  · rw [if_pos hsame] at hlands ⊢
    exact ⟨core, rfl, fun ocs => by rw [hlands]⟩
  · rw [if_neg hsame] at hlands ⊢
    obtain ⟨source, restored, hsource, hrestored, hcheck, hstorable, hlanded⟩ := hlands
    obtain ⟨after, hwrite, hafter⟩ := write_storable hcheck hstorable
    have hrestore : core.restoreVerified codec checkpoint = (after, .ok restored) := by
      rw [restoreVerified, restoreTarget, hsource]
      simp only [hcurrent, ← hrestored]
      exact hwrite
    rw [hrestore]
    refine ⟨after, rfl, fun ocs => ?_⟩
    rw [hlanded, hafter ocs]

/-- One that is not raises. -/
theorem recoverState_raises (hcheckpoint : checkpoints.lookup recoveryRef = some checkpoint)
    (h : ¬∃ landed, core.Lands codec checkpoint landed) :
    ∃ after error, recoverState codec checkpoints core recoveryRef =
      (after, .error error) := by
  rw [recoverState, hcheckpoint]
  cases hcurrent : core.current checkpoint.state.ocs with
  | error error => exact ⟨core, error, by simp only [hcurrent]⟩
  | ok current =>
    simp only [hcurrent]
    by_cases hsame : current.any (·.stateId = checkpoint.state.stateId) = true
    · exact absurd ⟨core, current, hcurrent, by rw [if_pos hsame]⟩ h
    · rw [if_neg hsame]
      have hrestore : ∃ after error, core.restoreVerified codec checkpoint =
          (after, .error error) := by
        rw [restoreVerified, restoreTarget]
        cases hsource : core.checkSource codec checkpoint with
        | error reason => exact ⟨core, _, rfl⟩
        | ok source =>
          simp only [hcurrent]
          apply write_not_storable
          intro hcheck hstorable
          let restored := restoredRecord checkpoint.checkpointId source current
          apply h
          refine ⟨core.install restored restored, current, hcurrent, ?_⟩
          rw [if_neg hsame]
          exact ⟨source, restored, hsource, rfl, hcheck, hstorable, rfl⟩
      obtain ⟨after, error, hraised⟩ := hrestore
      rw [hraised]
      exact ⟨after, error, rfl⟩

end StateCore

/-! ## Receipts -/

namespace UniversalKernelRuntime

/-- The effect could not be read back. -/
def VerificationFailed (answers : Point → StepEnv P) : Prop :=
  ∃ error, (answers .materialEffect).answers.readback = .error error ∧ error.Ordinary

/-- The recovery came to the state, and the OCS of the action is at its checkpoint. -/
def Restored (config : RuntimeConfig P) (p : ActionProposal P) (answers : AdapterAnswers P)
    (checkpoints : Checkpoints P) (core : StateCore P) : Prop :=
  p.reversibilityClass ≠ some .irreversible ∧
    config.broker.Confirmed p.capability answers ∧
    ∃ recoveryRef checkpoint, p.recoveryRef = some recoveryRef ∧
      checkpoints.lookup recoveryRef = some checkpoint ∧ checkpoint.state.ocs = p.ocs ∧
      core.AtCheckpoint p.ocs checkpoint

/-- The call returned a receipt, which says what the recovery did. -/
def Truthful (config : RuntimeConfig P) (p : ActionProposal P) (answers : Point → StepEnv P)
    (checkpoints : Checkpoints P) (place : UniversalKernelRuntime P × Phase P) : Prop :=
  ∃ result receipt, place.2 = .returned (.ok result) ∧
    result.recoveryReceipt = some receipt ∧
    (receipt.stateRecovered = true ↔
      Restored config p (answers .recover).answers checkpoints place.1.state) ∧
    (receipt.residualEffect = false →
      config.broker.Confirmed p.capability (answers .recover).answers)

/-- If the recovery comes to the state and has a checkpoint, it can restore it. -/
def RecoverySound (config : RuntimeConfig P) (k : UniversalKernelRuntime P)
    (p : ActionProposal P) (answers : AdapterAnswers P) (checkpoints : Checkpoints P) :
    Prop :=
  p.reversibilityClass ≠ some .irreversible →
    config.broker.Confirmed p.capability answers →
    ∀ recoveryRef ∈ p.recoveryRef, ∀ checkpoint ∈ checkpoints.lookup recoveryRef,
      k.state.Restorable config.codec p.ocs checkpoint

variable {config : RuntimeConfig P} {p : ActionProposal P} {answers : Point → StepEnv P}
  {checkpoints : Checkpoints P} {k start : UniversalKernelRuntime P}
  {envelope : AuthorizedActionEnvelope P} {reason : String}

theorem not_truthful_of_unreceipted {after : UniversalKernelRuntime P}
    {outcome : Except PyError (ExecutionResult P)}
    (h : ∀ result, outcome = .ok result → result.recoveryReceipt = none) :
    ¬Truthful config p answers checkpoints (after, .returned outcome) := by
  rintro ⟨result, receipt, hresult, hreceipt, -⟩
  rw [h result (Phase.returned.inj hresult)] at hreceipt
  cases hreceipt

variable [DecidableEq P]

theorem recoverEffect_receipt {core : StateCore P} {receipt : RecoveryReceipt P}
    (hrecovery : k.recovery = some checkpoints) {env : StepEnv P}
    (h : recoverPostEffect config.broker config.codec checkpoints k.state env.answers
      envelope = (core, .ok receipt)) :
    ∃ result, k.recoverEffect config env envelope reason =
      ({ k with state := core }, .returned (.ok result)) ∧
        result.recoveryReceipt = some receipt := by
  rw [recoverEffect, hrecovery]
  simp only [h]
  exact ⟨_, rfl, rfl⟩

theorem truthful_of_receipt {core : StateCore P} {receipt : RecoveryReceipt P}
    (hrecovery : k.recovery = some checkpoints)
    (h : recoverPostEffect config.broker config.codec checkpoints k.state
      (answers .recover).answers envelope = (core, .ok receipt)) :
    Truthful config p answers checkpoints
        (k.recoverEffect config (answers .recover) envelope reason) ↔
      (receipt.stateRecovered = true ↔
        Restored config p (answers .recover).answers checkpoints core) ∧
      (receipt.residualEffect = false →
        config.broker.Confirmed p.capability (answers .recover).answers) := by
  obtain ⟨result, hresult, hreceipt⟩ := @recoverEffect_receipt P config checkpoints k
    envelope reason _ core receipt hrecovery _ h
  rw [hresult]
  constructor
  · rintro ⟨other, otherReceipt, hother, hotherReceipt, hstate, hresidue⟩
    rw [← Except.ok.inj (Phase.returned.inj hother), hreceipt] at hotherReceipt
    rw [Option.some.inj hotherReceipt]
    exact ⟨hstate, hresidue⟩
  · rintro ⟨hstate, hresidue⟩
    exact ⟨result, receipt, rfl, hreceipt, hstate, hresidue⟩

/-- The receipt of a recovery is truthful exactly if what it comes to can be restored. -/
theorem recoverEffect_truthful_iff (hrecovery : k.recovery = some checkpoints)
    (hof : EnvelopeOf p envelope)
    (hclass : p.reversibilityClass = some envelope.reversibilityClass)
    (hvalid : ToolBroker.validateEnvelope envelope = none)
    (hordinary : (answers .recover).answers.Ordinary) :
    Truthful config p answers checkpoints
        (k.recoverEffect config (answers .recover) envelope reason) ↔
      RecoverySound config k p (answers .recover).answers checkpoints := by
  have hirreversible : p.reversibilityClass = some .irreversible ↔
      envelope.reversibilityClass = .irreversible := by
    rw [hclass, Option.some.injEq]
  by_cases hfinal : envelope.reversibilityClass = .irreversible
  · have hpost : recoverPostEffect config.broker config.codec checkpoints k.state
        (answers .recover).answers envelope =
          (k.state, .ok ⟨"incident", false, false, true, none⟩) := by
      rw [recoverPostEffect, if_pos hfinal]
    rw [truthful_of_receipt hrecovery hpost]
    have hdone : p.reversibilityClass = some .irreversible := hirreversible.mpr hfinal
    simp [Restored, RecoverySound, hdone]
  have hopen : p.reversibilityClass ≠ some .irreversible := fun h => hfinal (hirreversible.mp h)
  by_cases hconfirmed : config.broker.Confirmed p.capability (answers .recover).answers
  · obtain ⟨readback, hcompensated⟩ := ToolBroker.compensateFor_confirmed hvalid
      (hof.capability.symm ▸ hconfirmed)
    cases hcheckpoint : checkpoints.lookup envelope.recoveryRef with
    | none =>
      have hpost : recoverPostEffect config.broker config.codec checkpoints k.state
          (answers .recover).answers envelope =
            (k.state, .ok ⟨"recovered", false, true, false, some readback⟩) := by
        rw [recoverPostEffect, if_neg hfinal, hcompensated]
        simp only [recoverState, hcheckpoint]
      rw [truthful_of_receipt hrecovery hpost]
      simp [Restored, RecoverySound, hof.recoveryRef, hcheckpoint, hconfirmed]
    | some checkpoint =>
      have hsound : RecoverySound config k p (answers .recover).answers checkpoints ↔
          k.state.Restorable config.codec p.ocs checkpoint := by
        simp [RecoverySound, hopen, hconfirmed, hof.recoveryRef, hcheckpoint]
      rw [hsound]
      by_cases hlands : ∃ landed, k.state.Lands config.codec checkpoint landed
      · obtain ⟨landed, hlanded⟩ := hlands
        obtain ⟨after, hstate, hafter⟩ := StateCore.recoverState_lands hcheckpoint hlanded
        have hpost : recoverPostEffect config.broker config.codec checkpoints k.state
            (answers .recover).answers envelope =
              (after, .ok ⟨"recovered", true, true, false, some readback⟩) := by
          rw [recoverPostEffect, if_neg hfinal, hcompensated]
          simp only [hstate]
        rw [truthful_of_receipt hrecovery hpost]
        have hrestored : Restored config p (answers .recover).answers checkpoints after ↔
            checkpoint.state.ocs = p.ocs ∧ after.AtCheckpoint p.ocs checkpoint := by
          simp [Restored, hopen, hconfirmed, hof.recoveryRef, hcheckpoint]
        rw [hrestored]
        constructor
        · rintro ⟨hreceipt, -⟩
          obtain ⟨hocs, hat⟩ := hreceipt.mp rfl
          exact ⟨hocs, landed, hlanded, hat.congr (hafter p.ocs).symm⟩
        · rintro ⟨hocs, other, hother, hat⟩
          obtain ⟨again, hagain, hsame⟩ := StateCore.recoverState_lands hcheckpoint hother
          rw [hstate] at hagain
          have hcore : after = again := (Prod.mk.inj hagain).1
          refine ⟨⟨fun _ => ⟨hocs, ?_⟩, fun _ => rfl⟩, fun _ => hconfirmed⟩
          rw [hcore]
          exact hat.congr (hsame p.ocs)
      · obtain ⟨after, error, hstate⟩ := StateCore.recoverState_raises hcheckpoint hlands
        have hraised : k.recoverEffect config (answers .recover) envelope reason =
            ({ k with state := after }, .returned (.error error)) := by
          rw [recoverEffect, hrecovery]
          simp only [recoverPostEffect, if_neg hfinal, hcompensated, hstate]
        rw [hraised]
        constructor
        · intro h
          refine absurd h (not_truthful_of_unreceipted ?_)
          intro result hok
          cases hok
        · rintro ⟨-, landed, hlanded, -⟩
          exact absurd ⟨landed, hlanded⟩ hlands
  · have hunconfirmed : ¬config.broker.Confirmed envelope.capability
        (answers .recover).answers := by
      rw [hof.capability]
      exact hconfirmed
    obtain ⟨error, herror, message, hmessage⟩ :=
      ToolBroker.compensateFor_unconfirmed hordinary hunconfirmed
    have hpost : recoverPostEffect config.broker config.codec checkpoints k.state
        (answers .recover).answers envelope =
          (k.state, .ok ⟨"compensation_unverified", false, false, true, none⟩) := by
      rw [recoverPostEffect, if_neg hfinal, herror]
      rcases hmessage with rfl | rfl <;> rfl
    rw [truthful_of_receipt hrecovery hpost]
    simp [Restored, RecoverySound, hconfirmed]

/-! ## The way to the receipt -/

/-- The envelope has the proposal's class of reversibility. -/
def Classed (p : ActionProposal P) (progress : Progress P) : Prop :=
  ∀ envelope ∈ progress.envelope?, p.reversibilityClass = some envelope.reversibilityClass

theorem Classed.move {env : StepEnv P} {k' : UniversalKernelRuntime P}
    {progress progress' : Progress P}
    (hmove : Move config p env k progress k' progress') (h : Classed p progress) :
    Classed p progress' := by
  intro envelope henvelope
  cases hmove with
  | quiet => exact h envelope henvelope
  | assemble _ _ hbuild =>
    cases henvelope
    exact (Copies.of_build hbuild).reversibilityClass
  | reserve =>
    cases henvelope
    have hgranted := h _ rfl
    exact hgranted
  | mutateUnread _ _ hnext =>
    rcases hnext with rfl | ⟨outcome, rfl, -⟩
    · exact h envelope henvelope
    · cases henvelope
  | replayEffect | mutate | commit | finalize => exact h envelope henvelope
  | refuse | replay | miss | check | mutateFailed | recover | commitFailed
  | finalizeFailed | complete => cases henvelope

/-- Where a call from `start` is whose effect cannot be read back: no mutation completed
so far; or one did, and the recovery is next, or its place is given, or the call has
returned without a receipt. -/
inductive RecoveryPlace (config : RuntimeConfig P) (p : ActionProposal P)
    (answers : Point → StepEnv P) (start k : UniversalKernelRuntime P) (phase : Phase P) :
    Prop where
  | unmutated (hmutations : k.mutations = start.mutations)
      (hkept : phase.progress.BeforeEffect → StateKept start k)
      (hpoint : phase.point ≠ .recover)
  | recovering (envelope : AuthorizedActionEnvelope P) (reason : String)
      (hphase : phase = .recover envelope reason) (hlost : LosesReadback answers)
      (hkept : StateKept start k)
      (hresolved : ∃ adapter, config.broker.resolveFor envelope = .ok adapter)
  | recovered (before : UniversalKernelRuntime P) (envelope : AuthorizedActionEnvelope P)
      (reason : String) (hlost : LosesReadback answers) (hkept : StateKept start before)
      (hof : EnvelopeOf p envelope)
      (hclass : p.reversibilityClass = some envelope.reversibilityClass)
      (hresolved : ∃ adapter, config.broker.resolveFor envelope = .ok adapter)
      (hplace : (k, phase) = before.recoverEffect config (answers .recover) envelope reason)
  | unreceipted (result : ExecutionResult P) (hphase : phase = .returned (.ok result))
      (hreceipt : result.recoveryReceipt = none) (hkept : ¬LosesReadback answers)

omit [DecidableEq P] in
theorem not_beforeEffect_of_returned {phase : Phase P} (h : phase.remaining = 0) :
    ¬phase.progress.BeforeEffect := by
  cases phase with
  | returned => exact id
  | traceDenial _ name | traceGrant _ _ name => cases name <;> cases h
  | _ => cases h

theorem materialEffect_place (hmutations : k.mutations = start.mutations)
    (hkept : StateKept start k) (hfailed : VerificationFailed answers) :
    RecoveryPlace config p answers start
      (k.materialEffect config (answers .materialEffect) p envelope).1
      (k.materialEffect config (answers .materialEffect) p envelope).2 := by
  obtain ⟨raised, hraised, message, hordinary⟩ := hfailed
  have hreturned (after : UniversalKernelRuntime P) (error : PyError)
      (hafter : after.mutations = start.mutations) :
      RecoveryPlace config p answers start after (.raised envelope false none error) :=
    .unmutated hafter
      (fun h => absurd h (not_beforeEffect_of_returned (raised_remaining ..)))
      (point_ne_recover (raised_remaining ..))
  unfold materialEffect
  split
  · exact hreturned _ _ hmutations
  · split <;> rename_i heffect
    · exact .unmutated hmutations (fun h => h.elim) nofun
    · exact hreturned _ _ hmutations
    · exact hreturned _ _ ((called_mutations ..).trans hmutations)
    · have hresolved := resolveFor_of_effectorExecute heffect nofun nofun
      refine .recovering envelope _ rfl ⟨_, effectorExecute_readback heffect⟩ ?_ hresolved
      exact hkept.trans ⟨rfl, rfl, rfl, rfl⟩
    · rename_i error hother
      have hreadback := effectorExecute_readback heffect
      have hsame : raised = error := by
        rw [hraised] at hreadback
        exact Except.error.inj hreadback
      rcases hordinary with hvalue | hruntime
      · rw [← hsame, hvalue]
        refine .unreceipted _ rfl rfl ?_
        rintro ⟨other, hlost⟩
        rw [hraised, hvalue] at hlost
        cases hlost
      · exact absurd (hsame.symm.trans hruntime) (hother message)
    · have hreadback := effectorExecute_applied heffect
      rw [hraised] at hreadback
      cases hreadback

theorem RecoveryPlace.advance {phase : Phase P} (hfailed : VerificationFailed answers)
    (henvelope : ∀ envelope ∈ phase.progress.envelope?, EnvelopeOf p envelope)
    (hclass : Classed p phase.progress)
    (h : RecoveryPlace config p answers start k phase) :
    RecoveryPlace config p answers start
      (k.advance config p (answers phase.point) phase).1
      (k.advance config p (answers phase.point) phase).2 := by
  cases h with
  | unmutated hmutations hkept hpoint =>
    by_cases heffect : ∃ envelope, phase = .materialEffect envelope
    · obtain ⟨envelope, rfl⟩ := heffect
      exact materialEffect_place hmutations (hkept trivial) hfailed
    · rw [not_exists] at heffect
      have hmove : Move config p (answers phase.point) k phase.progress _ _ :=
        advance_move k phase
      refine .unmutated ((advance_mutations heffect).trans hmutations) ?_ ?_
      · intro hbefore
        have hnow := (hmove.beforeEffect hbefore).1
        apply (hkept hnow).trans (hmove.stateKept _ _)
        · intro envelope readback happlied
          rw [happlied] at hnow
          exact hnow
        · intro envelope hunread
          rw [hunread] at hnow
          exact hnow
      · intro hrecover
        have hplace := (advance_recover hrecover).1
        cases phase with
        | materialEffect envelope => exact heffect envelope rfl
        | traceDenial _ name | traceGrant _ _ name => cases name <;> cases hplace
        | _ => cases hplace
  | recovering envelope reason hphase hlost hkept hresolved =>
    rw [hphase] at henvelope hclass ⊢
    exact .recovered k envelope reason hlost hkept (henvelope envelope rfl)
      (hclass envelope rfl) hresolved rfl
  | recovered before envelope reason hlost hkept hof hclassed hresolved hplace =>
    have hphase : phase = (before.recoverEffect config (answers .recover) envelope reason).2 :=
      congrArg Prod.snd hplace
    have hreturned : phase.remaining = 0 := by
      rw [hphase]
      exact recoverEffect_remaining envelope reason
    obtain ⟨outcome, houtcome⟩ := eq_returned_of_remaining hreturned
    rw [houtcome] at hplace ⊢
    exact .recovered before envelope reason hlost hkept hof hclassed hresolved hplace
  | unreceipted result hphase hreceipt hkept =>
    rw [hphase]
    exact .unreceipted result rfl hreceipt hkept

theorem execute_recoveryPlace (config : RuntimeConfig P) (k : UniversalKernelRuntime P)
    (p : ActionProposal P) (hfailed : VerificationFailed answers) :
    RecoveryPlace config p answers k (k.execute config p answers).1
      (k.execute config p answers).2 := by
  have hend := execute_induction config p
    (fun after phase => Classed p phase.progress ∧
      RecoveryPlace config p answers k after phase) answers
    (fun after phase henvelope h =>
      ⟨h.1.move (advance_move after phase), h.2.advance hfailed henvelope h.1⟩)
    ⟨fun _ hnone => (nomatch hnone), .unmutated rfl (fun _ => .refl k) nofun⟩
  exact hend.2

/-- After an effect that could not be read back, a call returns a truthful receipt exactly
if the readback raised a `RuntimeError` and the recovery can restore what it comes to. -/
theorem execute_truthful_iff (config : RuntimeConfig P) (k : UniversalKernelRuntime P)
    (p : ActionProposal P) (answers : Point → StepEnv P) (checkpoints : Checkpoints P)
    (hrecovery : k.recovery = some checkpoints)
    (hmutated : Mutated k (k.execute config p answers).1)
    (hfailed : VerificationFailed answers)
    (hordinary : (answers .recover).answers.Ordinary) :
    Truthful config p answers checkpoints (k.execute config p answers) ↔
      LosesReadback answers ∧
        RecoverySound config k p (answers .recover).answers checkpoints := by
  cases execute_recoveryPlace config k p hfailed with
  | unmutated hmutations => exact absurd hmutations hmutated
  | recovering envelope reason hphase =>
    obtain ⟨outcome, houtcome⟩ := @execute_returned P _ config p answers k
    rw [hphase] at houtcome
    cases houtcome
  | recovered before envelope reason hlost hkept hof hclass hresolved hplace =>
    have hbefore : before.recovery = some checkpoints := hkept.recovery.trans hrecovery
    have hvalid : ToolBroker.validateEnvelope envelope = none := by
      obtain ⟨adapter, hadapter⟩ := hresolved
      cases hvalidate : ToolBroker.validateEnvelope envelope with
      | none => rfl
      | some message => simp [ToolBroker.resolveFor, hvalidate] at hadapter
    have hiff := @recoverEffect_truthful_iff P config p answers checkpoints before envelope
      reason _ hbefore hof hclass hvalid hordinary
    rw [← hplace] at hiff
    have hsound : RecoverySound config before p (answers .recover).answers checkpoints ↔
        RecoverySound config k p (answers .recover).answers checkpoints := by
      rw [RecoverySound, RecoverySound, hkept.state]
    rw [and_iff_right hlost, ← hsound]
    exact hiff
  | unreceipted result hphase hreceipt hnot =>
    constructor
    · rintro ⟨other, receipt, hother, hsome, -⟩
      rw [hphase] at hother
      rw [← Except.ok.inj (Phase.returned.inj hother), hreceipt] at hsome
      cases hsome
    · intro h
      exact absurd h.1 hnot

/-! ## A restore that succeeds and one that raises -/

/-- The checkpoints of the reference of the fixture's proposal. -/
def underReference (source : StateRecord ℕ) : Checkpoints ℕ :=
  (∅ : Checkpoints ℕ).insert "recovery-1" ⟨"checkpoint-1", source⟩

theorem unread_failed : VerificationFailed Fixture.unread :=
  ⟨_, rfl, "readback_failed", .inr rfl⟩

theorem unread_ordinary : (Fixture.unread .recover).answers.Ordinary where
  compensate _ h := nomatch h
  verifierReadback _ h := nomatch h
  verify _ h := nomatch h

/-- The checkpoint is an older version of the OCS. -/
def rolledBack : UniversalKernelRuntime ℕ :=
  run (operate Fixture.config) recoverable (checkpointed firstSofia)

theorem rolledBack_truthful_iff :
    Truthful Fixture.config Fixture.proposal Fixture.unread (underReference firstSofia)
        (rolledBack.execute Fixture.config Fixture.proposal Fixture.unread) ↔
      LosesReadback Fixture.unread ∧
        RecoverySound Fixture.config rolledBack Fixture.proposal
          (Fixture.unread .recover).answers (underReference firstSofia) :=
  execute_truthful_iff Fixture.config rolledBack Fixture.proposal Fixture.unread
    (underReference firstSofia) rfl (by unfold Mutated; decide) unread_failed unread_ordinary

/-- The checkpoint is a verified state that the state core does not have. -/
def orphaned : UniversalKernelRuntime ℕ :=
  run (operate Fixture.config) recoverable
    [ownerCommit firstSofia,
      .registerCheckpoint "recovery-1" ⟨"checkpoint-1", ⟨"sofia:0", "SOFIA", 1, none, 4, true⟩⟩,
      .issue 100 Fixture.lease]

/-- The compensation is confirmed, and the call raises. -/
theorem orphaned_not_truthful :
    let checkpoints := underReference ⟨"sofia:0", "SOFIA", 1, none, 4, true⟩
    let place := orphaned.execute Fixture.config Fixture.proposal Fixture.unread
    orphaned.recovery = some checkpoints ∧ Mutated orphaned place.1 ∧
      VerificationFailed Fixture.unread ∧ (Fixture.unread .recover).answers.Ordinary ∧
      place.2 = .returned (.error (.valueError "verified_checkpoint_source_missing")) ∧
      ¬Truthful Fixture.config Fixture.proposal Fixture.unread checkpoints place := by
  have hraised : (orphaned.execute Fixture.config Fixture.proposal Fixture.unread).2 =
      .returned (.error (.valueError "verified_checkpoint_source_missing")) := rfl
  refine ⟨rfl, by unfold Mutated; decide, unread_failed, unread_ordinary, hraised, ?_⟩
  rintro ⟨result, receipt, hresult, -⟩
  rw [hraised] at hresult
  cases hresult

end UniversalKernelRuntime

end ReisOs.Kernel
