import ReisOs.RecursiveRuntime.ProductionEffects

/-!
# One effect for each request

Whatever the order in which the steps of several gateways follow one another, and
wherever they stop: the intent of a request is made by one gateway, which alone calls the
adapter for it and once only; a commit follows an intent of the same fingerprint; and a
receipt tells of the request it answers and of the commit.
-/

namespace ReisOs.RecursiveRuntime

open ReisOs.Core DurableJournal Script

/-! ## Rows of a request -/

structure IntentRow (requestId fingerprint : String) (row : JournalRecord) : Prop where
  kind : row.kind = "PRODUCTION_EFFECT_INTENT"
  journalId : row.journalId = "effect-intent:" ++ requestId
  request : row.field "request_id" = some requestId
  fingerprint : row.field "fingerprint" = some fingerprint

structure CommitRow (requestId fingerprint resultRef : String) (row : JournalRecord) :
    Prop where
  kind : row.kind = "PRODUCTION_EFFECT_COMMIT"
  journalId : row.journalId = "effect-commit:" ++ requestId
  request : row.field "request_id" = some requestId
  fingerprint : row.field "fingerprint" = some fingerprint
  result : row.field "result_ref" = some resultRef

section Digest

variable (digest : EffectFingerprint → String)

theorem intentRow_intentRecord (actor : ActorState) (request : EffectRequest)
    (leaseId : String) : IntentRow request.requestId (digest request.fingerprint)
      (intentRecord digest actor request leaseId) :=
  ⟨rfl, rfl, by simp [intentRecord, JournalRecord.field],
    by simp [intentRecord, JournalRecord.field]⟩

theorem commitRow_commitRecord (actor : ActorState) (request : EffectRequest)
    (leaseId resultRef : String) :
    CommitRow request.requestId (digest request.fingerprint) resultRef
      (commitRecord digest actor request leaseId resultRef) :=
  ⟨rfl, rfl, by simp [commitRecord, JournalRecord.field],
    by simp [commitRecord, JournalRecord.field], by simp [commitRecord, JournalRecord.field]⟩

variable {row : JournalRecord}

theorem mem_of_lastRow {kind requestId : String} {rows : List JournalRecord} (h : lastRow kind requestId rows = some row) :
    row ∈ rows ∧ row.kind = kind ∧ row.field "request_id" = some requestId := by
  have hmem : row ∈ rows := List.mem_reverse.mp (List.mem_of_find?_eq_some h)
  have hfound := List.find?_some h
  simp only [decide_eq_true_eq] at hfound
  exact ⟨hmem, hfound.1, hfound.2⟩

theorem mem_journal_of_mem_rows {world : EffectWorld}
    (h : row ∈ journalRows world) : row ∈ world.1.journal := by
  rw [journalRows] at h
  split at h
  · exact h
  · cases h

theorem fingerprint_of_validateDurableRow {request : EffectRequest}
    (h : validateDurableRow digest row request = .ok ()) :
    row.field "fingerprint" = some (digest request.fingerprint) := by
  rw [validateDurableRow] at h
  split at h
  · cases h
  · next hsame => exact not_not.mp hsame

/-! ## What gateways keep -/

/-- The receipt tells of the request and of its commit. -/
def Answers (journal : List JournalRecord) (request : EffectRequest)
    (receipt : EffectReceipt) : Prop :=
  ∃ resultRef, receipt = committedReceipt request "PRODUCTION" "COMMITTED" resultRef ∧
    ∃ row ∈ journal, CommitRow request.requestId (digest request.fingerprint) resultRef row

theorem Answers.mono {journal now : List JournalRecord} {request : EffectRequest}
    {receipt : EffectReceipt} (h : Answers digest journal request receipt)
    (hgrows : journal <+: now) : Answers digest now request receipt := by
  obtain ⟨resultRef, hreceipt, row, hrow, hcommit⟩ := h
  exact ⟨resultRef, hreceipt, row, hgrows.subset hrow, hcommit⟩

variable (known : EffectRequest → Prop)

structure EffectStore.Sound (store : EffectStore) : Prop where
  ids : (store.journal.map (·.journalId)).Nodup
  intents : ∀ row ∈ store.journal, row.kind = "PRODUCTION_EFFECT_INTENT" →
    ∃ requestId fingerprint, IntentRow requestId fingerprint row
  commits : ∀ row ∈ store.journal, row.kind = "PRODUCTION_EFFECT_COMMIT" →
    ∃ requestId fingerprint resultRef, CommitRow requestId fingerprint resultRef row ∧
      ∃ intent ∈ store.journal, IntentRow requestId fingerprint intent
  owners : ∀ requestId process, store.owner requestId = some process →
    ∃ row ∈ store.journal, row.journalId = "effect-intent:" ++ requestId
  answers : ∀ pair ∈ store.returned, known pair.1 ∧
    (pair.2.adapterEnvironment = "PRODUCTION" → Answers digest store.journal pair.1 pair.2)

/-- What a gateway knows of its own calls and receipts. -/
structure Gateway.Sound (process : ℕ) (store : EffectStore) (gateway : Gateway) : Prop where
  number : gateway.process = process
  once : (gateway.calls.map (·.request.requestId)).Nodup
  owned : ∀ call ∈ gateway.calls, store.owner call.request.requestId = some process ∧
    known call.request ∧ ∃ row ∈ store.journal,
      IntentRow call.request.requestId (digest call.request.fingerprint) row
  receipts : ∀ requestId receipt, gateway.memory.receipts requestId = some receipt →
    ∃ request : EffectRequest, request.requestId = requestId ∧
      gateway.memory.fingerprints requestId = some request.fingerprint ∧
      (receipt.adapterEnvironment = "PRODUCTION" → Answers digest store.journal request receipt)

structure EffectStore.Grows (store now : EffectStore) : Prop where
  journal : store.journal <+: now.journal
  owner : ∀ requestId process, store.owner requestId = some process →
    now.owner requestId = some process

/-- From outside, a gateway is configured anew, and perhaps built anew. -/
structure Gateway.Altered (gateway now : Gateway) : Prop where
  calls : now.calls = gateway.calls
  process : now.process = gateway.process
  memory : now.memory = gateway.memory ∨ now.memory = GatewayMemory.empty

variable {digest known}

theorem Gateway.Sound.grown {process : ℕ} {store now : EffectStore} {gateway : Gateway}
    (h : gateway.Sound digest known process store) (hgrows : store.Grows now) :
    gateway.Sound digest known process now := by
  refine ⟨h.number, h.once, ?_, ?_⟩
  · intro call hcall
    obtain ⟨howner, hknown, row, hrow, hintent⟩ := h.owned call hcall
    exact ⟨hgrows.owner _ _ howner, hknown, row, hgrows.journal.subset hrow, hintent⟩
  · intro requestId receipt hreceipt
    obtain ⟨request, hid, hfingerprint, hanswers⟩ := h.receipts requestId receipt hreceipt
    exact ⟨request, hid, hfingerprint,
      fun hproduction => (hanswers hproduction).mono digest hgrows.journal⟩

theorem Gateway.Sound.altered {process : ℕ} {store : EffectStore} {gateway now : Gateway}
    (h : gateway.Sound digest known process store) (haltered : gateway.Altered now) :
    now.Sound digest known process store := by
  refine ⟨haltered.process.trans h.number, ?_, ?_, ?_⟩
  · rw [haltered.calls]
    exact h.once
  · rw [haltered.calls]
    exact h.owned
  · rcases haltered.memory with hsame | hempty
    · rw [hsame]
      exact h.receipts
    · intro requestId receipt hreceipt
      rw [hempty] at hreceipt
      cases hreceipt

variable (digest known)

def effectRule : LinkRule EffectStore Gateway where
  Common := EffectStore.Sound digest known
  Own := Gateway.Sound digest known
  Grows := EffectStore.Grows
  Alters := Gateway.Altered
  refl store := ⟨List.prefix_rfl, fun _ _ h => h⟩
  trans h hnext := ⟨h.journal.trans hnext.journal,
    fun requestId process howner => hnext.owner _ _ (h.owner requestId process howner)⟩
  idle gateway := ⟨rfl, rfl, Or.inl rfl⟩
  again h hnext := by
    refine ⟨hnext.calls.trans h.calls, hnext.process.trans h.process, ?_⟩
    rcases hnext.memory with hsame | hempty
    · rw [hsame]
      exact h.memory
    · exact Or.inr hempty
  grown h hgrows := h.grown hgrows
  altered h haltered := h.altered haltered

/-- The discipline of one gateway. -/
def gatewayRule (process : ℕ) : Discipline EffectWorld :=
  (effectRule digest known).discipline effectParts process

/-! ## Puts -/

variable {digest known} {store : EffectStore} {gateway : Gateway} {world : EffectWorld}
  {process : ℕ}

theorem putAnswer_cases (record : EffectWorld → Except Fault JournalRecord)
    (noted : EffectStore → Gateway → EffectStore) (world : EffectWorld) :
    (∃ fault, putAnswer record noted world = (world, .error fault)) ∨
      ∃ accepted, record world = .ok accepted ∧
        (putRecord world.1.journal accepted).2 = .ok () ∧
        putAnswer record noted world =
          ((noted { world.1 with journal := (putRecord world.1.journal accepted).1 } world.2,
            world.2), .ok ()) := by
  rw [putAnswer]
  cases hrecord : record world with
  | error fault => exact Or.inl ⟨fault, rfl⟩
  | ok accepted =>
    simp only
    cases hanswer : (putRecord world.1.journal accepted).2 with
    | error error => exact Or.inl ⟨error.fault, rfl⟩
    | ok answer => exact Or.inr ⟨accepted, rfl, hanswer, rfl⟩

theorem EffectStore.grows_put (store : EffectStore) (record : JournalRecord) :
    store.Grows { store with journal := (putRecord store.journal record).1 } :=
  ⟨prefix_putRecord store.journal record, fun _ _ h => h⟩

/-- A put keeps the store sound if an intent is one, and a commit follows its intent. -/
theorem EffectStore.Sound.put (h : store.Sound digest known) {record : JournalRecord}
    (hintent : record.kind = "PRODUCTION_EFFECT_INTENT" →
      ∃ requestId fingerprint, IntentRow requestId fingerprint record)
    (hcommit : record.kind = "PRODUCTION_EFFECT_COMMIT" →
      ∃ requestId fingerprint resultRef, CommitRow requestId fingerprint resultRef record ∧
        ∃ intent ∈ store.journal, IntentRow requestId fingerprint intent) :
    EffectStore.Sound digest known
      { store with journal := (putRecord store.journal record).1 } := by
  have hgrows := (store.grows_put record).journal
  refine ⟨nodup_putRecord h.ids, ?_, ?_, ?_, ?_⟩
  · intro row hrow hkind
    rcases mem_putRecord hrow with hold | rfl
    · exact h.intents row hold hkind
    · exact hintent hkind
  · intro row hrow hkind
    have hfound : ∃ requestId fingerprint resultRef,
        CommitRow requestId fingerprint resultRef row ∧
          ∃ intent ∈ store.journal, IntentRow requestId fingerprint intent := by
      rcases mem_putRecord hrow with hold | rfl
      · exact h.commits row hold hkind
      · exact hcommit hkind
    obtain ⟨requestId, fingerprint, resultRef, hrow, intent, hmem, hintent⟩ := hfound
    exact ⟨requestId, fingerprint, resultRef, hrow, intent, hgrows.subset hmem, hintent⟩
  · intro requestId owner howner
    obtain ⟨row, hrow, hid⟩ := h.owners requestId owner howner
    exact ⟨row, hgrows.subset hrow, hid⟩
  · intro pair hpair
    obtain ⟨hknown, hanswers⟩ := h.answers pair hpair
    exact ⟨hknown, fun hproduction => (hanswers hproduction).mono digest hgrows⟩

/-- A gateway may call the adapter for the request: it owns the intent and has not yet
called. -/
structure Entitled (digest : EffectFingerprint → String) (process : ℕ)
    (request : EffectRequest) (world : EffectWorld) : Prop where
  owner : world.1.owner request.requestId = some process
  fresh : ∀ call ∈ world.2.calls, call.request.requestId ≠ request.requestId
  intent : ∃ row ∈ world.1.journal,
    IntentRow request.requestId (digest request.fingerprint) row

theorem Entitled.later {request : EffectRequest} {now : EffectWorld}
    (h : Entitled digest process request world)
    (hothers : (gatewayRule digest known process).Others world now) :
    Entitled digest process request now := by
  refine ⟨hothers.1.owner _ _ h.owner, ?_, ?_⟩
  · rw [show now.2.calls = world.2.calls from hothers.2.calls]
    exact h.fresh
  · obtain ⟨row, hrow, hintent⟩ := h.intent
    exact ⟨row, hothers.1.journal.subset hrow, hintent⟩

/-- The store after an intent of a gateway that nobody owns. -/
theorem EffectStore.Sound.own (h : store.Sound digest known) {actor : ActorState}
    {request : EffectRequest} {leaseId : String}
    (hok : (putRecord store.journal (intentRecord digest actor request leaseId)).2 = .ok ()) :
    EffectStore.Sound digest known
        { store with
          journal := (putRecord store.journal (intentRecord digest actor request leaseId)).1
          owner := Function.update store.owner request.requestId (some process) } ∧
      store.Grows
        { store with
          journal := (putRecord store.journal (intentRecord digest actor request leaseId)).1
          owner := Function.update store.owner request.requestId (some process) } ∧
      store.owner request.requestId = none ∧
      intentRecord digest actor request leaseId ∈
        (putRecord store.journal (intentRecord digest actor request leaseId)).1 := by
  have hintent := intentRow_intentRecord digest actor request leaseId
  obtain ⟨hnew, hjournal⟩ := putRecord_ok (List.cons_ne_nil _ _) hok
  have hmem : intentRecord digest actor request leaseId ∈
      (putRecord store.journal (intentRecord digest actor request leaseId)).1 := by
    rw [hjournal]
    exact List.mem_append_right _ (List.mem_singleton_self _)
  have hunowned : store.owner request.requestId = none := by
    cases howner : store.owner request.requestId with
    | none => rfl
    | some other =>
      obtain ⟨row, hrow, hid⟩ := h.owners _ _ howner
      exact absurd (hid.trans hintent.journalId.symm) (hnew row hrow)
  have hput := h.put (fun _ => ⟨_, _, hintent⟩)
    (fun hkind => absurd (hintent.kind.symm.trans hkind) (by decide))
  refine ⟨⟨hput.ids, hput.intents, hput.commits, ?_, hput.answers⟩,
    ⟨prefix_putRecord _ _, ?_⟩, hunowned, hmem⟩
  · intro requestId owner howner
    by_cases hsame : requestId = request.requestId
    · rw [hsame]
      exact ⟨_, hmem, hintent.journalId⟩
    · simp only [Function.update_of_ne hsame] at howner
      exact hput.owners requestId owner howner
  · intro requestId owner howner
    by_cases hsame : requestId = request.requestId
    · rw [hsame, hunowned] at howner
      cases howner
    · simp only [Function.update_of_ne hsame]
      exact howner

/-- An accepted intent entitles the gateway to the call. -/
theorem safe_persistIntent_bind {B : Type} {Post : B → EffectWorld → Prop}
    {actor : ActorState} {request : EffectRequest} {rest : Unit → EffectScript B}
    (hrest : ∀ now, (gatewayRule digest known process).Inv now →
      Entitled digest process request now →
        Safe (gatewayRule digest known process) Post (rest ()) now) :
    Safe (gatewayRule digest known process) Post
      (persistIntent digest actor request >>= rest) world := by
  apply safe_act_bind
  intro now hnow hothers
  obtain ⟨fault, hanswer⟩ | ⟨record, hrecord, hok, hanswer⟩ := putAnswer_cases _ _ now
  · rw [hanswer]
    exact ⟨hnow, (gatewayRule digest known process).refl now, fun _ h => nomatch h⟩
  · rw [hanswer]
    have hintent : ∃ leaseId, record = intentRecord digest actor request leaseId := by
      split at hrecord
      · cases hlease : boundLeaseId now.2.environment with
        | error fault =>
          rw [hlease] at hrecord
          cases hrecord
        | ok leaseId =>
          rw [hlease] at hrecord
          cases hrecord
          exact ⟨leaseId, rfl⟩
      · cases hrecord
    obtain ⟨leaseId, rfl⟩ := hintent
    have hgateway : now.2.Sound digest known process now.1 := hnow.2
    obtain ⟨hstore, hgrows, hunowned, hmem⟩ := EffectStore.Sound.own hnow.1 hok
    have hinv := And.intro hstore (hgateway.grown hgrows)
    refine ⟨hinv, hgrows, fun _ _ => hrest _ hinv ⟨?_, ?_, ?_⟩⟩
    · simp only [Function.update_self]
      exact congrArg some hgateway.number
    · intro call hcall hsame
      have howner := (hgateway.owned call hcall).1
      rw [hsame] at howner
      cases hunowned.symm.trans howner
    · exact ⟨_, hmem, intentRow_intentRecord digest actor request leaseId⟩

/-- A commit that is accepted for an intent can be found. -/
theorem safe_persistCommit_bind {B : Type} {Post : B → EffectWorld → Prop}
    {actor : ActorState} {request : EffectRequest} {resultRef : String}
    {rest : Unit → EffectScript B}
    (hintent : ∃ row ∈ world.1.journal,
      IntentRow request.requestId (digest request.fingerprint) row)
    (hrest : ∀ now, (gatewayRule digest known process).Inv now →
      (∃ row ∈ now.1.journal,
        CommitRow request.requestId (digest request.fingerprint) resultRef row) →
        Safe (gatewayRule digest known process) Post (rest ()) now) :
    Safe (gatewayRule digest known process) Post
      (persistCommit digest actor request resultRef >>= rest) world := by
  apply safe_act_bind
  intro now hnow hothers
  obtain ⟨fault, hanswer⟩ | ⟨record, hrecord, hok, hanswer⟩ := putAnswer_cases _ _ now
  · rw [hanswer]
    exact ⟨hnow, (gatewayRule digest known process).refl now, fun _ h => nomatch h⟩
  · rw [hanswer]
    cases hlease : boundLeaseId now.2.environment with
    | error fault =>
      rw [hlease] at hrecord
      cases hrecord
    | ok leaseId =>
      rw [hlease] at hrecord
      cases hrecord
      have hcommit := commitRow_commitRecord digest actor request leaseId resultRef
      obtain ⟨row, hrow, hintent⟩ := hintent
      have hstore := EffectStore.Sound.put hnow.1
        (fun hkind => absurd (hcommit.kind.symm.trans hkind) (by decide))
        (fun _ => ⟨_, _, _, hcommit, row, hothers.1.journal.subset hrow, hintent⟩)
      have hgrows := EffectStore.grows_put now.1
        (commitRecord digest actor request leaseId resultRef)
      have hgateway : now.2.Sound digest known process now.1 := hnow.2
      have hinv := And.intro hstore (hgateway.grown hgrows)
      refine ⟨hinv, hgrows, fun _ _ => hrest _ hinv ⟨_, ?_, hcommit⟩⟩
      simp only
      rw [(putRecord_ok (List.cons_ne_nil _ _) hok).2]
      exact List.mem_append_right _ (List.mem_singleton_self _)

/-! ## Steps of a call -/

/-- A receipt of production tells of its request and commit. -/
def Answered (digest : EffectFingerprint → String) (request : EffectRequest)
    (receipt : EffectReceipt) (world : EffectWorld) : Prop :=
  receipt.adapterEnvironment = "PRODUCTION" → Answers digest world.1.journal request receipt

variable {B : Type} {Post : B → EffectWorld → Prop} {request : EffectRequest}
  {receipt : EffectReceipt} {actor : ActorState} {rest : Unit → EffectScript B}

theorem Answered.later {now : EffectWorld} (h : Answered digest request receipt world)
    (hgrows : world.1.Grows now.1) : Answered digest request receipt now :=
  fun hproduction => (h hproduction).mono digest hgrows.journal

theorem Gateway.Sound.remember (h : gateway.Sound digest known process store)
    (hanswers : receipt.adapterEnvironment = "PRODUCTION" →
      Answers digest store.journal request receipt) :
    Gateway.Sound digest known process store
      { gateway with
        memory := { gateway.memory with
          receipts := Function.update gateway.memory.receipts request.requestId (some receipt)
          fingerprints := Function.update gateway.memory.fingerprints request.requestId
            (some request.fingerprint) } } := by
  refine ⟨h.number, h.once, h.owned, ?_⟩
  intro requestId kept hkept
  by_cases hsame : requestId = request.requestId
  · subst hsame
    simp only [Function.update_self] at hkept ⊢
    cases hkept
    exact ⟨request, rfl, rfl, hanswers⟩
  · simp only [Function.update_of_ne hsame] at hkept ⊢
    exact h.receipts requestId kept hkept

theorem Gateway.Sound.withCounts (h : gateway.Sound digest known process store)
    (counts : String → ℕ) :
    Gateway.Sound digest known process store
      { gateway with memory := { gateway.memory with leaseEffectCounts := counts } } :=
  ⟨h.number, h.once, h.owned, h.receipts⟩

theorem safe_remember_bind (hanswered : Answered digest request receipt world)
    (hrest : ∀ now, (gatewayRule digest known process).Inv now →
      Answered digest request receipt now →
        Safe (gatewayRule digest known process) Post (rest ()) now) :
    Safe (gatewayRule digest known process) Post
      (remember request receipt >>= rest) world := by
  apply safe_act_bind
  intro now hnow hothers
  have hlater : Answered digest request receipt now := hanswered.later hothers.1
  have hgateway : now.2.Sound digest known process now.1 := hnow.2
  have hinv := And.intro hnow.1 (hgateway.remember hlater)
  exact ⟨hinv, (effectRule digest known).refl now.1, fun _ _ => hrest _ hinv hlater⟩

theorem safe_countEffects_bind (hanswered : Answered digest request receipt world)
    (hrest : ∀ now, (gatewayRule digest known process).Inv now →
      Answered digest request receipt now →
        Safe (gatewayRule digest known process) Post (rest ()) now) :
    Safe (gatewayRule digest known process) Post (countEffects >>= rest) world := by
  apply safe_act_bind
  intro now hnow hothers
  have hlater : Answered digest request receipt now := hanswered.later hothers.1
  have hgateway : now.2.Sound digest known process now.1 := hnow.2
  cases hlease : boundLeaseId now.2.environment with
  | error fault => exact ⟨hnow, (effectRule digest known).refl now.1, fun _ h => nomatch h⟩
  | ok leaseId =>
    have hinv := And.intro hnow.1 (hgateway.withCounts (Function.update
      now.2.memory.leaseEffectCounts leaseId (durableEffectCount (journalRows now) leaseId)))
    exact ⟨hinv, (effectRule digest known).refl now.1, fun _ _ => hrest _ hinv hlater⟩

/-- The call of the adapter by a gateway that is entitled to it. -/
theorem safe_adapterExecute_bind (hknown : known request)
    (hentitled : Entitled digest process request world)
    {rest : String → EffectScript B}
    (hrest : ∀ now resultRef, (gatewayRule digest known process).Inv now →
      (∃ row ∈ now.1.journal,
        IntentRow request.requestId (digest request.fingerprint) row) →
        Safe (gatewayRule digest known process) Post (rest resultRef) now) :
    Safe (gatewayRule digest known process) Post
      (adapterExecute request true >>= rest) world := by
  apply safe_act_bind
  intro now hnow hothers
  have hlater : Entitled digest process request now := hentitled.later hothers
  have hgateway : now.2.Sound digest known process now.1 := hnow.2
  have hcalled : Gateway.Sound digest known process now.1
      { now.2 with
        calls := now.2.calls ++
          [⟨now.2.environment.activationLease.map (·.leaseId), request⟩] } := by
    refine ⟨hgateway.number, ?_, ?_, hgateway.receipts⟩
    · rw [List.map_append, List.map_singleton, List.nodup_append]
      refine ⟨hgateway.once, List.nodup_singleton _, ?_⟩
      intro requestId hold last hlast hsame
      obtain ⟨call, hcall, rfl⟩ := List.mem_map.mp hold
      exact hlater.fresh call hcall (hsame.trans (List.mem_singleton.mp hlast))
    · intro call hcall
      rcases List.mem_append.mp hcall with hold | hnew
      · exact hgateway.owned call hold
      · rw [List.mem_singleton.mp hnew]
        exact ⟨hlater.owner, hknown, hlater.intent⟩
  have hinv := And.intro hnow.1 hcalled
  exact ⟨hinv, (effectRule digest known).refl now.1,
    fun resultRef _ => hrest _ resultRef hinv hlater.intent⟩

theorem safe_traceEffect (hanswered : Answered digest request receipt world) :
    Safe (gatewayRule digest known process) (Answered digest request)
      (traceEffect receipt >>= fun _ => (return receipt)) world := by
  apply safe_look_bind
  intro now hnow hothers _ _
  exact hanswered.later hothers.1

/-! ## Calls -/

theorem safe_perform_production (hknown : known request)
    (hentitled : Entitled digest process request world) :
    Safe (gatewayRule digest known process) (Answered digest request)
      (perform digest actor request true) world := by
  apply safe_adapterExecute_bind hknown hentitled
  intro now resultRef hnow hintent
  apply safe_persistCommit_bind hintent
  intro later hlater hcommit
  have hanswered : Answered digest request
      (committedReceipt request "PRODUCTION" "COMMITTED" resultRef) later :=
    fun _ => ⟨resultRef, rfl, hcommit⟩
  apply safe_remember_bind hanswered
  intro last hlast hanswered
  apply safe_countEffects_bind hanswered
  intro final hfinal hanswered
  exact safe_traceEffect hanswered

theorem safe_perform_sandbox :
    Safe (gatewayRule digest known process) (Answered digest request)
      (perform digest actor request false) world := by
  apply safe_act_bind
  intro now hnow hothers
  refine ⟨hnow, (effectRule digest known).refl now.1, ?_⟩
  intro resultRef _
  have hanswered (world : EffectWorld) : Answered digest request
      (committedReceipt request "SANDBOX" "SIMULATED" resultRef) world :=
    fun hproduction => absurd hproduction (show "SANDBOX" ≠ "PRODUCTION" by decide)
  apply safe_remember_bind (hanswered _)
  intro last hlast hanswered
  exact safe_traceEffect hanswered

theorem answered_of_receiptFromCommit
    (hstore : world.1.Sound digest known)
    (hrow : lastRow "PRODUCTION_EFFECT_COMMIT" request.requestId (journalRows world) = some row)
    (hreceipt : receiptFromCommit digest request row = .ok receipt) :
    Answered digest request receipt world := by
  intro _
  obtain ⟨hmem, hkind, hrequest⟩ := mem_of_lastRow hrow
  obtain ⟨_, hvalid, hrest⟩ := bind_eq_ok hreceipt
  obtain ⟨requestId, fingerprint, resultRef, hcommit, -⟩ :=
    hstore.commits row (mem_journal_of_mem_rows hmem) hkind
  have hid : requestId = request.requestId :=
    Option.some.inj (hcommit.request.symm.trans hrequest)
  have hfingerprint : fingerprint = digest request.fingerprint :=
    Option.some.inj (hcommit.fingerprint.symm.trans (fingerprint_of_validateDurableRow _ hvalid))
  subst hid hfingerprint
  simp only [hcommit.result] at hrest
  cases hrest
  exact ⟨resultRef, rfl, row, mem_journal_of_mem_rows hmem, hcommit⟩

theorem safe_replayCommit (hstore : world.1.Sound digest known)
    (hrow : lastRow "PRODUCTION_EFFECT_COMMIT" request.requestId (journalRows world) =
      some row) :
    Safe (gatewayRule digest known process) (Answered digest request)
      (replayCommit digest request row) world := by
  apply safe_look_bind
  intro now hnow hothers receipt hreceipt
  have hanswered : Answered digest request receipt world :=
    answered_of_receiptFromCommit hstore hrow hreceipt
  apply safe_remember_bind (hanswered.later hothers.1)
  intro last hlast hanswered
  exact hanswered

theorem safe_reconcile (hstore : world.1.Sound digest known)
    (hrow : lastRow "PRODUCTION_EFFECT_INTENT" request.requestId (journalRows world) =
      some row) :
    Safe (gatewayRule digest known process) (Answered digest request)
      (reconcile digest actor request row) world := by
  obtain ⟨hmem, hkind, hrequest⟩ := mem_of_lastRow hrow
  obtain ⟨requestId, fingerprint, hintent⟩ :=
    hstore.intents row (mem_journal_of_mem_rows hmem) hkind
  apply safe_look_bind
  intro now hnow hothers _ hvalid
  have hid : requestId = request.requestId :=
    Option.some.inj (hintent.request.symm.trans hrequest)
  have hfingerprint : fingerprint = digest request.fingerprint :=
    Option.some.inj (hintent.fingerprint.symm.trans (fingerprint_of_validateDurableRow _ hvalid))
  subst hid hfingerprint
  have hnowMem := hothers.1.journal.subset (mem_journal_of_mem_rows hmem)
  apply safe_look_bind
  intro now' hnow' hothers' resultRef _
  apply safe_persistCommit_bind ⟨row, hothers'.1.journal.subset hnowMem, hintent⟩
  intro later hlater hcommit
  apply safe_look_bind
  intro last hlast hothers'' receipt hreceipt
  have hanswered : Answered digest request receipt last := by
    simp only [findDurable] at hreceipt
    split at hreceipt
    · cases hreceipt
    · next hfound => exact answered_of_receiptFromCommit hlast.1 hfound hreceipt
  apply safe_remember_bind hanswered
  intro final hfinal hanswered
  apply safe_countEffects_bind hanswered
  intro ended hended hanswered
  exact hanswered

theorem safe_executeProduction (hknown : known request) :
    Safe (gatewayRule digest known process) (Answered digest request)
      (executeProduction digest actor request) world := by
  apply safe_read_bind
  intro now hnow hothers
  cases now.2.environment.journalBound with
  | false =>
    apply safe_look_bind
    intro later hlater _ _ _
    exact safe_raise
  | true =>
    apply safe_read_bind
    intro found hfound _
    simp only [findDurable]
    cases hcommit : lastRow "PRODUCTION_EFFECT_COMMIT" request.requestId
        (journalRows found) with
    | some commit => exact safe_replayCommit hfound.1 hcommit
    | none =>
      cases hintent : lastRow "PRODUCTION_EFFECT_INTENT" request.requestId
          (journalRows found) with
      | some intent => exact safe_reconcile hfound.1 hintent
      | none =>
        apply safe_look_bind
        intro leased _ _ _ _
        apply safe_look_bind
        intro approved _ _ _ _
        apply safe_persistIntent_bind
        intro later hlater hentitled
        exact safe_perform_production hknown hentitled

theorem EffectRequest.eq_of_fingerprint {other : EffectRequest}
    (hid : other.requestId = request.requestId)
    (hfingerprint : other.fingerprint = request.fingerprint) : other = request := by
  cases other
  cases request
  simp only [EffectRequest.fingerprint, EffectFingerprint.mk.injEq] at hfingerprint
  simp only [EffectRequest.mk.injEq]
  exact ⟨hid, hfingerprint⟩

theorem Gateway.Sound.answered {world : EffectWorld}
    (h : world.2.Sound digest known process world.1)
    (hreceipt : world.2.memory.receipts request.requestId = some receipt)
    (hsame : world.2.memory.fingerprints request.requestId = some request.fingerprint) :
    Answered digest request receipt world := by
  intro hproduction
  obtain ⟨other, hid, hfingerprint, hanswers⟩ := h.receipts _ _ hreceipt
  have hother : other = request :=
    EffectRequest.eq_of_fingerprint hid (Option.some.inj (hfingerprint.symm.trans hsame))
  rw [← hother]
  exact hanswers hproduction

theorem safe_execute (hknown : known request) :
    Safe (gatewayRule digest known process) (Answered digest request)
      (execute digest request) world := by
  apply safe_look_bind
  intro now hnow hothers found hfound
  cases found with
  | some receipt =>
    split at hfound
    · cases hfound
    · next kept hkept =>
        split at hfound
        · cases hfound
        · next fingerprint hfingerprint =>
            split at hfound
            · cases hfound
            · next hsame =>
                cases hfound
                have hgateway : now.2.Sound digest known process now.1 := hnow.2
                apply hgateway.answered hkept
                rw [hfingerprint, not_not.mp hsame]
  | none =>
    apply safe_look_bind
    intro valid _ _ actor _
    apply safe_read_bind
    intro later hlater _
    split
    · exact safe_executeProduction hknown
    · split
      · exact safe_perform_sandbox
      · exact safe_raise

theorem safe_effectCall (hknown : known request)
    (hworld : (gatewayRule digest known process).Inv world) :
    Safe (gatewayRule digest known process) (fun _ _ => True)
      (effectCall digest request) world := by
  apply (safe_execute hknown).bind hworld
  intro receipt now hnow _ hanswered
  apply safe_act
  intro later hlater hothers
  have hstore : later.1.Sound digest known := hlater.1
  have hgateway : later.2.Sound digest known process later.1 := hlater.2
  have hgrows : later.1.Grows
      { later.1 with returned := later.1.returned ++ [(request, receipt)] } :=
    ⟨List.prefix_rfl, fun _ _ h => h⟩
  have hreturned : EffectStore.Sound digest known
      { later.1 with returned := later.1.returned ++ [(request, receipt)] } := by
    refine ⟨hstore.ids, hstore.intents, hstore.commits, hstore.owners, ?_⟩
    intro pair hpair
    rcases List.mem_append.mp hpair with hold | hnew
    · exact hstore.answers pair hold
    · rw [List.mem_singleton.mp hnew]
      exact ⟨hknown, hanswered.later hothers.1⟩
  exact ⟨⟨hreturned, hgateway.grown hgrows⟩, hgrows, fun _ _ => trivial⟩

/-! ## Gateways side by side -/

/-- A record that another service writes to the journal. -/
abbrev ForeignRecord := {record : JournalRecord //
  record.kind ≠ "PRODUCTION_EFFECT_INTENT" ∧ record.kind ≠ "PRODUCTION_EFFECT_COMMIT"}

def foreignPut (record : ForeignRecord) : EffectScript Unit :=
  putStep (fun _ => .ok record.1) fun store _ => store

theorem safe_foreignPut (record : ForeignRecord) :
    Safe (gatewayRule digest known process) (fun _ _ => True) (foreignPut record) world := by
  apply safe_act
  intro now hnow hothers
  obtain ⟨fault, hanswer⟩ | ⟨accepted, hrecord, hok, hanswer⟩ := putAnswer_cases _ _ now
  · rw [hanswer]
    exact ⟨hnow, (gatewayRule digest known process).refl now, fun _ _ => trivial⟩
  · rw [hanswer]
    cases hrecord
    have hstore := EffectStore.Sound.put hnow.1
      (fun hkind => absurd hkind record.2.1) (fun hkind => absurd hkind record.2.2)
    have hgrows := EffectStore.grows_put now.1 record.1
    have hgateway : now.2.Sound digest known process now.1 := hnow.2
    exact ⟨⟨hstore, hgateway.grown hgrows⟩, hgrows, fun _ _ => trivial⟩

/-- What happens around gateways that share a journal. -/
inductive GatewayTurn where
  | call (gateway : ℕ) (request : EffectRequest)
  | foreign (process : ℕ) (record : ForeignRecord)
  /-- The next step of what is running. -/
  | advance (process : ℕ)
  /-- What is running ends where it is, by an exception. -/
  | interrupt (process : ℕ)
  /-- What the gateway is configured with changes, and what its callbacks answer. -/
  | configure (gateway : ℕ) (environment : GatewayEnvironment)
  /-- What is running is lost, and the gateway is built anew. -/
  | restart (gateway : ℕ) (environment : GatewayEnvironment)

variable (digest)

def GatewayTurn.turns : GatewayTurn → List (Turn EffectWorld Fault Gateway)
  | call gateway request => [.start gateway (effectCall digest request)]
  | foreign process record => [.start process (foreignPut record)]
  | advance process => [.advance process]
  | interrupt process => [.crash process]
  | configure gateway environment =>
    [.alter gateway fun mine => { mine with environment := environment }]
  | restart gateway environment => [.crash gateway,
      .alter gateway fun mine => { mine with environment := environment, memory := .empty }]

/-- The requests of the calls. -/
def requestsOf (turns : List GatewayTurn) : List EffectRequest :=
  turns.filterMap fun
    | .call _ request => some request
    | _ => none

/-- New gateways over an empty journal. -/
def effectPool (environments : ℕ → GatewayEnvironment) :
    Pool EffectWorld Fault EffectStore Gateway where
  common := ⟨[], fun _ => none, []⟩
  own process := ⟨environments process, .empty, [], process⟩
  running _ := none

def effectRun (environments : ℕ → GatewayEnvironment) (turns : List GatewayTurn) :
    Pool EffectWorld Fault EffectStore Gateway :=
  run (Pool.turn effectParts) (effectPool environments) (turns.flatMap (·.turns digest))

variable {digest}

theorem GatewayTurn.allowed {turn : GatewayTurn}
    (hknown : ∀ gateway request, turn = .call gateway request → known request)
    {next : Turn EffectWorld Fault Gateway} (hnext : next ∈ turn.turns digest) :
    (effectRule digest known).Allowed effectParts next := by
  have hkept (mine : Gateway) (environment : GatewayEnvironment) :
      mine.Altered { mine with environment := environment } := ⟨rfl, rfl, Or.inl rfl⟩
  have hcleared (mine : Gateway) (environment : GatewayEnvironment) :
      mine.Altered { mine with environment := environment, memory := .empty } :=
    ⟨rfl, rfl, Or.inr rfl⟩
  cases turn with
  | call gateway request =>
    rw [List.mem_singleton.mp hnext]
    intro world hworld
    exact safe_effectCall (hknown gateway request rfl) hworld
  | foreign process record =>
    rw [List.mem_singleton.mp hnext]
    intro world hworld
    exact safe_foreignPut record
  | advance process =>
    rw [List.mem_singleton.mp hnext]
    trivial
  | interrupt process =>
    rw [List.mem_singleton.mp hnext]
    trivial
  | configure gateway environment =>
    rw [List.mem_singleton.mp hnext]
    intro mine
    exact hkept mine environment
  | restart gateway environment =>
    rcases List.mem_cons.mp hnext with rfl | hlast
    · trivial
    · rw [List.mem_singleton.mp hlast]
      intro mine
      exact hcleared mine environment

theorem effectRun_orderly (environments : ℕ → GatewayEnvironment)
    (turns : List GatewayTurn) :
    (effectRule digest (· ∈ requestsOf turns)).Orderly effectParts
      (effectRun digest environments turns) := by
  apply LinkRule.Orderly.run
  · refine ⟨⟨List.nodup_nil, ?_, ?_, ?_, ?_⟩, ?_, ?_⟩
    · exact fun _ hrow => nomatch hrow
    · exact fun _ hrow => nomatch hrow
    · exact fun _ _ howner => nomatch howner
    · exact fun _ hpair => nomatch hpair
    · intro process
      refine ⟨rfl, List.nodup_nil, ?_, ?_⟩
      · exact fun _ hcall => nomatch hcall
      · exact fun _ _ hreceipt => nomatch hreceipt
    · exact fun _ _ hscript => nomatch hscript
  · intro next hnext
    obtain ⟨turn, hturn, hmem⟩ := List.mem_flatMap.mp hnext
    apply GatewayTurn.allowed _ hmem
    rintro gateway request rfl
    exact List.mem_filterMap.mpr ⟨_, hturn, rfl⟩

/-! ## One effect -/

/-- A receipt of an adapter of production. -/
def EffectReceipt.Production (receipt : EffectReceipt) : Prop :=
  receipt.adapterEnvironment = "PRODUCTION"

/-- What holds of the calls, the journal and the receipts of gateways. -/
structure EffectsOnce (digest : EffectFingerprint → String)
    (pool : Pool EffectWorld Fault EffectStore Gateway) : Prop where
  /-- No two calls of adapters are for one request id. -/
  single : ∀ (gateway other i j : ℕ) (call again : Invocation),
    (pool.own gateway).calls[i]? = some call → (pool.own other).calls[j]? = some again →
    call.request.requestId = again.request.requestId → gateway = other ∧ i = j
  intended : ∀ commit ∈ pool.common.journal, commit.kind = "PRODUCTION_EFFECT_COMMIT" →
    ∃ intent ∈ pool.common.journal, intent.kind = "PRODUCTION_EFFECT_INTENT" ∧
      intent.field "request_id" = commit.field "request_id" ∧
      intent.field "fingerprint" = commit.field "fingerprint"
  committed : ∀ (i j : ℕ) (commit again : JournalRecord),
    pool.common.journal[i]? = some commit → pool.common.journal[j]? = some again →
    commit.kind = "PRODUCTION_EFFECT_COMMIT" → again.kind = "PRODUCTION_EFFECT_COMMIT" →
    commit.field "request_id" = again.field "request_id" → i = j
  receipts : ∀ pair ∈ pool.common.returned, pair.2.Production →
    pair.2.requestId = pair.1.requestId ∧ pair.2.target = pair.1.target ∧
      pair.2.capability = pair.1.capability ∧ pair.2.payloadRef = pair.1.payloadRef ∧
      ∃ commit ∈ pool.common.journal, commit.kind = "PRODUCTION_EFFECT_COMMIT" ∧
        commit.field "request_id" = some pair.1.requestId ∧
        commit.field "result_ref" = some pair.2.resultRef
  /-- A receipt goes to the content that the intent of its request id has. -/
  sameIntent : ∀ pair ∈ pool.common.returned, pair.2.Production →
    ∀ intent ∈ pool.common.journal, intent.kind = "PRODUCTION_EFFECT_INTENT" →
      intent.field "request_id" = some pair.1.requestId →
      intent.field "fingerprint" = some (digest pair.1.fingerprint)
  sameReturned : ∀ pair ∈ pool.common.returned, pair.2.Production →
    ∀ other ∈ pool.common.returned, other.2.Production →
      other.1.requestId = pair.1.requestId → other.1 = pair.1
  sameCalled : ∀ pair ∈ pool.common.returned, pair.2.Production →
    ∀ gateway, ∀ call ∈ (pool.own gateway).calls,
      call.request.requestId = pair.1.requestId → call.request = pair.1

theorem index_eq_of_journalId {journal : List JournalRecord}
    (h : (journal.map (·.journalId)).Nodup) {i j : ℕ} {other : JournalRecord}
    (hrow : journal[i]? = some row) (hother : journal[j]? = some other)
    (hsame : row.journalId = other.journalId) : i = j := by
  have hlength : i < (journal.map (·.journalId)).length := by
    rw [List.length_map]
    exact (List.getElem?_eq_some_iff.mp hrow).1
  apply (List.getElem?_inj hlength h).mp
  rw [List.getElem?_map, List.getElem?_map, hrow, hother, Option.map_some, Option.map_some,
    hsame]

theorem EffectStore.Sound.intent_unique (h : store.Sound digest known)
    {requestId fingerprint : String} {intent : JournalRecord}
    (hrow : row ∈ store.journal) (hfound : IntentRow requestId fingerprint row)
    (hintent : intent ∈ store.journal) (hkind : intent.kind = "PRODUCTION_EFFECT_INTENT")
    (hrequest : intent.field "request_id" = some requestId) :
    intent.field "fingerprint" = some fingerprint := by
  obtain ⟨id, text, hfields⟩ := h.intents intent hintent hkind
  have hid : id = requestId := Option.some.inj (hfields.request.symm.trans hrequest)
  have hsame : intent = row := by
    apply List.inj_on_of_nodup_map h.ids hintent hrow
    rw [hfields.journalId, hfound.journalId, hid]
  rw [hsame]
  exact hfound.fingerprint

theorem EffectStore.Sound.intent_of_answers (h : store.Sound digest known)
    (hanswers : Answers digest store.journal request receipt) :
    ∃ row ∈ store.journal, IntentRow request.requestId (digest request.fingerprint) row := by
  obtain ⟨resultRef, -, row, hrow, hcommit⟩ := hanswers
  obtain ⟨requestId, fingerprint, resultRef', hfields, intent, hmem, hintent⟩ :=
    h.commits row hrow hcommit.kind
  have hid : requestId = request.requestId :=
    Option.some.inj (hfields.request.symm.trans hcommit.request)
  have hfingerprint : fingerprint = digest request.fingerprint :=
    Option.some.inj (hfields.fingerprint.symm.trans hcommit.fingerprint)
  subst hid hfingerprint
  exact ⟨intent, hmem, hintent⟩

/-- However the steps of gateways over one journal are ordered, and wherever they stop:
one effect for each request, and receipts that tell of it. -/
theorem provider_effects_once (digest : EffectFingerprint → String)
    (environments : ℕ → GatewayEnvironment) (turns : List GatewayTurn)
    (hdigest : ∀ request ∈ requestsOf turns, ∀ other ∈ requestsOf turns,
      digest request.fingerprint = digest other.fingerprint →
        request.fingerprint = other.fingerprint) :
    EffectsOnce digest (effectRun digest environments turns) := by
  have horderly := @effectRun_orderly digest environments turns
  have hstore := horderly.common
  have hgateway := horderly.own
  have hsame {request other : EffectRequest} (hrequest : request ∈ requestsOf turns)
      (hother : other ∈ requestsOf turns) (hid : other.requestId = request.requestId)
      (hintent : ∃ row ∈ (effectRun digest environments turns).common.journal,
        IntentRow request.requestId (digest request.fingerprint) row)
      (hother' : ∃ row ∈ (effectRun digest environments turns).common.journal,
        IntentRow other.requestId (digest other.fingerprint) row) : other = request := by
    obtain ⟨row, hrow, hfields⟩ := hintent
    obtain ⟨row', hrow', hfields'⟩ := hother'
    have hfingerprint := hstore.intent_unique hrow hfields hrow' hfields'.kind
      (hid ▸ hfields'.request)
    apply EffectRequest.eq_of_fingerprint hid
    apply hdigest other hother request hrequest
    exact Option.some.inj (hfields'.fingerprint.symm.trans hfingerprint)
  refine ⟨?_, ?_, ?_, ?_, ?_, ?_, ?_⟩
  · intro gateway other i j call again hcall hagain hid
    obtain ⟨howner, -, -⟩ := (hgateway gateway).owned call (List.mem_of_getElem? hcall)
    obtain ⟨howner', -, -⟩ := (hgateway other).owned again (List.mem_of_getElem? hagain)
    rw [hid, howner'] at howner
    cases howner
    refine ⟨rfl, ?_⟩
    have hlength : i < ((((effectRun digest environments turns).own gateway).calls.map
        (·.request.requestId)).length) := by
      rw [List.length_map]
      exact (List.getElem?_eq_some_iff.mp hcall).1
    apply (List.getElem?_inj hlength (hgateway gateway).once).mp
    rw [List.getElem?_map, List.getElem?_map, hcall, hagain, Option.map_some,
      Option.map_some, hid]
  · intro commit hcommit hkind
    obtain ⟨requestId, fingerprint, resultRef, hfields, intent, hmem, hintent⟩ :=
      hstore.commits commit hcommit hkind
    refine ⟨intent, hmem, hintent.kind, ?_, ?_⟩
    · rw [hintent.request, hfields.request]
    · rw [hintent.fingerprint, hfields.fingerprint]
  · intro i j commit again hcommit hagain hkind hkind' hid
    obtain ⟨requestId, _, _, hfields, -⟩ :=
      hstore.commits commit (List.mem_of_getElem? hcommit) hkind
    obtain ⟨requestId', _, _, hfields', -⟩ :=
      hstore.commits again (List.mem_of_getElem? hagain) hkind'
    rw [hfields.request, hfields'.request] at hid
    apply index_eq_of_journalId hstore.ids hcommit hagain
    rw [hfields.journalId, hfields'.journalId, Option.some.inj hid]
  · intro pair hpair hproduction
    obtain ⟨resultRef, hreceipt, row, hrow, hcommit⟩ :=
      (hstore.answers pair hpair).2 hproduction
    rw [hreceipt]
    exact ⟨rfl, rfl, rfl, rfl, row, hrow, hcommit.kind, hcommit.request, hcommit.result⟩
  · intro pair hpair hproduction intent hintent hkind hrequest
    obtain ⟨row, hrow, hfields⟩ :=
      hstore.intent_of_answers ((hstore.answers pair hpair).2 hproduction)
    exact hstore.intent_unique hrow hfields hintent hkind hrequest
  · intro pair hpair hproduction other hother hproduction' hid
    obtain ⟨hknown, hanswers⟩ := hstore.answers pair hpair
    obtain ⟨hknown', hanswers'⟩ := hstore.answers other hother
    exact hsame hknown hknown' hid (hstore.intent_of_answers (hanswers hproduction))
      (hstore.intent_of_answers (hanswers' hproduction'))
  · intro pair hpair hproduction gateway call hcall hid
    obtain ⟨hknown, hanswers⟩ := hstore.answers pair hpair
    obtain ⟨-, hknown', hintent⟩ := (hgateway gateway).owned call hcall
    exact hsame hknown hknown' hid (hstore.intent_of_answers (hanswers hproduction)) hintent

end Digest

/-! ## A small deployment -/

/-- The root actor of the deployment. -/
def rootActor : ActorState :=
  { actorId := "a", identityId := "NOESIS", sessionBinding := "S1", missionBinding := "M1"
    stateNamespace := "ns:a", authority := ⟨"AUTH:1", {"read", "write"}⟩
    capability := ⟨"CAP:1", {"publish"}, {"tool:a"}⟩, budgetRef := "B1"
    providerId := "provider-canonical", traceId := "T1", spanId := "span:a", generation := 1
    fencingEpoch := 1, depth := 0, lifecycle := .active, cancellationPolicyRef := some "C1"
    parentActorId := none, children := [] }

/-- A repository with one actor, which is current. -/
def StateRepository.single (actor : ActorState) : StateRepository :=
  { actors := fun actorId => if actorId = actor.actorId then some actor else none
    activeByIdentity := fun identityId =>
      if identityId = actor.identityId then some actor.actorId else none
    namespaces := {actor.stateNamespace} }

/-- A gateway whose adapter and reconciler answer as given, under a lease for one effect. -/
def deployedGateway (adapterExecute : EffectRequest → Except Fault String)
    (reconciler : EffectRequest → Except Fault (Option String)) : GatewayEnvironment :=
  { states := .single rootActor
    ocsEnforcer := ⟨id⟩
    adapterEnvironment := some "PRODUCTION"
    adapterExecute := adapterExecute
    activationLease := some
      { leaseId := "L1", environment := "PRODUCTION", allowedTargets := {"github:repo"}
        allowedCapabilities := {"publish"}, founderApprovalRef := "FOUNDER", active := true
        maxEffects := 1, expiresAtUnix := 100 }
    productionPolicy := some
      { policyId := "P1", allowedOcsIds := {"NOESIS"}, allowedTargetPrefixes := ["github:"]
        allowedCapabilities := {"publish"}, founderApprovalRef := "FOUNDER"
        zeroUnauthorizedSpend := false, allowGithubMerge := false, active := true }
    approvalVerifier := some fun _ _ _ _ => .ok true
    costPreflight := none
    clock := 0
    journalBound := true
    providerReconciler := some reconciler
    traceEmit := fun _ => .ok () }

/-- A request to publish a payload. -/
def publishRequest (requestId payloadRef : String) : EffectRequest :=
  { requestId := requestId, actorId := "a", target := "github:repo", capability := "publish"
    payloadRef := payloadRef, authorityRef := "AUTH:1", missionBinding := "M1", generation := 1
    fencingEpoch := 1, estimatedIncrementalCostUsd := 0, requiresPaidUpgrade := false }

/-- A gateway stops after the call of its adapter, and another one reconciles. -/
theorem provider_effects_once_reconciled :
    let digest := (·.payloadRef : EffectFingerprint → String)
    let environment := deployedGateway (fun _ => .ok "done") fun _ => .ok (some "found")
    let turns := GatewayTurn.call 0 (publishRequest "fx:1" "payload:1") ::
      List.replicate 9 (.advance 0) ++ .restart 0 environment ::
      .call 1 (publishRequest "fx:1" "payload:1") :: List.replicate 13 (.advance 1)
    let pool := effectRun digest (fun _ => environment) turns
    EffectsOnce digest pool ∧ (pool.own 0).calls.length = 1 ∧
      pool.common.returned.map (·.2.resultRef) = ["found"] := by
  intro digest environment turns pool
  refine ⟨?_, ?_⟩
  · apply provider_effects_once
    intro request hrequest other hother _
    have hsingle : ∀ found ∈ requestsOf turns, found = publishRequest "fx:1" "payload:1" := by
      decide +kernel
    rw [hsingle request hrequest, hsingle other hother]
  · decide +kernel

end ReisOs.RecursiveRuntime
