import ReisOs.Core.Identifiers
import ReisOs.Trial.WriteFencing

/-!
# Identifiers of stored rows

Bindings, receipts and ledger entries are stored under digests of what they say.  Every
binding says something new, so under a digest without collisions a bind that the store
does not refuse for its arguments is never refused for a conflict of identifiers.
-/

namespace ReisOs.Trial

open ReisOs.Core

variable {canonicalHash : Value → String} {database after : TrialDatabase}
  {missionId ocsId instanceId : String} {now : ℕ → String}

section Keys

variable (canonicalHash : Value → String)

def bindingKey (missionId ocsId instanceId : String) (epoch : ℕ) : String :=
  let digest := canonicalHash (.object
    [("mission", .string missionId), ("ocs", .string ocsId),
      ("instance", .string instanceId), ("epoch", .number (toString epoch))])
  s!"binding:{digest}"

def receiptKey (missionId kind : String) (payload : Value) (time : String) : String :=
  let digest := canonicalHash (.object
    [("mission", .string missionId), ("kind", .string kind), ("payload", payload),
      ("at", .string time)])
  s!"receipt:{digest}"

def ledgerKey (missionId eventType eventRef : String) (payload : Value) (time : String) :
    String :=
  let digest := canonicalHash (.object
    [("mission", .string missionId), ("event_type", .string eventType),
      ("event_ref", .string eventRef), ("payload", payload), ("at", .string time)])
  s!"ledger:{digest}"

/-- What the receipt of a bind says. -/
def bindingPayload (bindingId ocsId instanceId : String) (epoch : ℕ) : Value :=
  .object [("binding_id", .string bindingId), ("ocs_id", .string ocsId),
    ("instance_id", .string instanceId), ("epoch", .number (toString epoch))]

end Keys

theorem eq_of_prefixed {stem left right : String} (h : stem ++ left = stem ++ right) :
    left = right := by
  have hlists := congrArg String.toList h
  rw [String.toList_append, String.toList_append] at hlists
  exact String.toList_injective (List.append_cancel_left hlists)

variable {missionId' : String}

theorem bindingKey_inj (hinjective : Function.Injective canonicalHash)
    {ocsId' instanceId' : String} {epoch epoch' : ℕ}
    (h : bindingKey canonicalHash missionId ocsId instanceId epoch =
      bindingKey canonicalHash missionId' ocsId' instanceId' epoch') :
    missionId = missionId' ∧ ocsId = ocsId' ∧ epoch = epoch' := by
  have hvalues := hinjective (eq_of_prefixed h)
  simp only [Json.object.injEq, List.cons.injEq, Prod.mk.injEq, Json.string.injEq,
    Json.number.injEq, true_and, and_true] at hvalues
  obtain ⟨hmission, hocs, -, hepoch⟩ := hvalues
  have hdigits := congrArg String.toList hepoch
  rw [Nat.toString_eq_repr, Nat.toString_eq_repr, Nat.toList_repr, Nat.toList_repr] at hdigits
  exact ⟨hmission, hocs, toDigits_injective hdigits⟩

variable {kind : String} {payload : Value}

theorem receiptKey_inj (hinjective : Function.Injective canonicalHash)
    {kind' time time' : String} {payload' : Value}
    (h : receiptKey canonicalHash missionId kind payload time =
      receiptKey canonicalHash missionId' kind' payload' time') :
    kind = kind' ∧ payload = payload' := by
  have hvalues := hinjective (eq_of_prefixed h)
  simp only [Json.object.injEq, List.cons.injEq, Prod.mk.injEq, Json.string.injEq,
    true_and, and_true] at hvalues
  exact ⟨hvalues.2.1, hvalues.2.2.1⟩

variable {eventType eventRef : String}

theorem ledgerKey_inj (hinjective : Function.Injective canonicalHash)
    {eventType' eventRef' time time' : String}
    {payload' : Value}
    (h : ledgerKey canonicalHash missionId eventType eventRef payload time =
      ledgerKey canonicalHash missionId' eventType' eventRef' payload' time') :
    eventType = eventType' ∧ eventRef = eventRef' := by
  have hvalues := hinjective (eq_of_prefixed h)
  simp only [Json.object.injEq, List.cons.injEq, Prod.mk.injEq, Json.string.injEq,
    true_and, and_true] at hvalues
  exact ⟨hvalues.2.1, hvalues.2.2.1⟩

/-- Every stored row has the identifier of what it says.  A receipt of a bind is about a
stored binding, and a ledger entry about such a receipt is about a stored one. -/
structure Issued (canonicalHash : Value → String) (database : TrialDatabase) : Prop where
  bindings : ∀ binding ∈ database.bindings, binding.bindingId =
    bindingKey canonicalHash binding.missionId binding.ocsId binding.instanceId
      binding.fencingEpoch
  receipts : ∀ receiptId, (database.receipts.lookup receiptId).isSome →
    ∃ missionId kind payload time, receiptId =
      receiptKey canonicalHash missionId kind payload time ∧
        (kind = "binding" → ∃ binding ∈ database.bindings, payload =
          bindingPayload binding.bindingId binding.ocsId binding.instanceId
            binding.fencingEpoch)
  ledger : ∀ ledgerId, (database.ledger.lookup ledgerId).isSome →
    ∃ missionId eventType eventRef payload time, ledgerId =
      ledgerKey canonicalHash missionId eventType eventRef payload time ∧
        (eventType = "receipt:binding" → (database.receipts.lookup eventRef).isSome)

/-- The columns that identify a binding. -/
def BindingRow.identity (binding : BindingRow) : String × String × String × String × ℕ :=
  (binding.bindingId, binding.missionId, binding.ocsId, binding.instanceId,
    binding.fencingEpoch)

theorem exists_mem_of_map_eq {A K : Type} {column : A → K} {left right : List A}
    (h : left.map column = right.map column) {row : A} (hrow : row ∈ left) :
    ∃ other ∈ right, column other = column row := by
  have hmem : column row ∈ right.map column := h ▸ List.mem_map_of_mem hrow
  exact List.mem_map.mp hmem

/-- Updates that identify no binding anew. -/
theorem Issued.of_bindings (h : Issued canonicalHash database)
    (hbindings : after.bindings.map (·.identity) = database.bindings.map (·.identity))
    (hreceipts : after.receipts = database.receipts)
    (hledger : after.ledger = database.ledger) : Issued canonicalHash after := by
  constructor
  case bindings =>
    intro binding hbinding
    obtain ⟨old, hold, hidentity⟩ := exists_mem_of_map_eq hbindings hbinding
    simp only [BindingRow.identity, Prod.mk.injEq] at hidentity
    obtain ⟨hid, hmission, hocs, hinstance, hepoch⟩ := hidentity
    rw [← hid, ← hmission, ← hocs, ← hinstance, ← hepoch]
    exact h.bindings old hold
  case receipts =>
    intro receiptId hreceipt
    rw [hreceipts] at hreceipt
    obtain ⟨mission, kind, payload, time, hkey, hpayload⟩ := h.receipts receiptId hreceipt
    refine ⟨mission, kind, payload, time, hkey, fun hkind => ?_⟩
    obtain ⟨old, hold, hsaid⟩ := hpayload hkind
    obtain ⟨binding, hbinding, hidentity⟩ := exists_mem_of_map_eq hbindings.symm hold
    simp only [BindingRow.identity, Prod.mk.injEq] at hidentity
    obtain ⟨hid, -, hocs, hinstance, hepoch⟩ := hidentity
    refine ⟨binding, hbinding, ?_⟩
    rw [hid, hocs, hinstance, hepoch]
    exact hsaid
  case ledger =>
    intro ledgerId hentry
    rw [hledger] at hentry
    rw [hreceipts]
    exact h.ledger ledgerId hentry

/-! ## Receipts and ledger entries -/

theorem isSome_lookup_insert_iff {K V : Type} [DecidableEq K] {table : Dict K V}
    {key other : K} {value : V} :
    ((table.insert key value).lookup other).isSome ↔
      other = key ∨ (table.lookup other).isSome := by
  rw [Dict.lookup_insert_eq]
  by_cases hkey : other = key
  · simp [hkey]
  · simp [hkey]

theorem Issued.appendLedger (h : Issued canonicalHash database)
    (hevent : eventType = "receipt:binding" → (database.receipts.lookup eventRef).isSome)
    (hok : database.appendLedger canonicalHash missionId eventType eventRef payload now =
      .ok after) : Issued canonicalHash after := by
  simp only [TrialDatabase.appendLedger] at hok
  split at hok
  · cases hok
  · cases hok
    refine ⟨h.bindings, h.receipts, fun ledgerId hentry => ?_⟩
    rcases isSome_lookup_insert_iff.mp hentry with rfl | hold
    · exact ⟨missionId, eventType, eventRef, payload, now 0, rfl, hevent⟩
    · exact h.ledger ledgerId hold

variable {receiptId : String}

theorem Issued.receipt (h : Issued canonicalHash database)
    (hkind : kind = "binding" → ∃ binding ∈ database.bindings, payload =
      bindingPayload binding.bindingId binding.ocsId binding.instanceId
        binding.fencingEpoch)
    (hok : database.receipt canonicalHash missionId kind payload now =
      .ok (after, receiptId)) : Issued canonicalHash after := by
  simp only [TrialDatabase.receipt] at hok
  split at hok
  · cases hok
  · obtain ⟨noted, hledger, hok⟩ := bind_eq_ok hok
    cases hok
    have hstored : Issued canonicalHash { database with
        receipts := database.receipts.insert
          (receiptKey canonicalHash missionId kind payload (now 0))
          ⟨missionId, kind, canonicalHash payload, now 1⟩ } := by
      refine ⟨h.bindings, ?_, ?_⟩
      · intro receiptId hreceipt
        rcases isSome_lookup_insert_iff.mp hreceipt with rfl | hold
        · exact ⟨missionId, kind, payload, now 0, rfl, hkind⟩
        · exact h.receipts receiptId hold
      · intro ledgerId hentry
        obtain ⟨mission, eventType, eventRef, said, time, hkey, hevent⟩ :=
          h.ledger ledgerId hentry
        exact ⟨mission, eventType, eventRef, said, time, hkey,
          fun htype => isSome_lookup_insert (hevent htype)⟩
    exact hstored.appendLedger (fun _ => isSome_lookup_insert_iff.mpr (.inl rfl)) hledger

theorem Issued.otherReceipt (h : Issued canonicalHash database) (hkind : kind ≠ "binding")
    (hok : database.receipt canonicalHash missionId kind payload now =
      .ok (after, receiptId)) : Issued canonicalHash after :=
  h.receipt (fun heq => absurd heq hkind) hok

theorem Issued.otherEntry (h : Issued canonicalHash database) (htype : eventType ≠ "receipt:binding")
    (hok : database.appendLedger canonicalHash missionId eventType eventRef payload now =
      .ok after) : Issued canonicalHash after :=
  h.appendLedger (fun heq => absurd heq htype) hok

/-! ## The methods -/

theorem Issued.updateBinding (h : Issued canonicalHash database) (bindingId : String)
    {change : BindingRow → BindingRow}
    (hchange : ∀ binding, (change binding).identity = binding.identity) :
    Issued canonicalHash (database.updateBinding bindingId change) :=
  h.of_bindings (map_updateWhere hchange) rfl rfl

theorem Issued.insertBinding (h : Issued canonicalHash database) {row : BindingRow}
    (hid : row.bindingId = bindingKey canonicalHash row.missionId row.ocsId row.instanceId
      row.fencingEpoch) :
    Issued canonicalHash { database with bindings := database.bindings ++ [row] } := by
  constructor
  case bindings =>
    intro binding hbinding
    rcases List.mem_append.mp hbinding with hold | hnew
    · exact h.bindings binding hold
    · rw [List.mem_singleton.mp hnew]
      exact hid
  case receipts =>
    intro receiptId hreceipt
    obtain ⟨mission, kind, payload, time, hkey, hpayload⟩ := h.receipts receiptId hreceipt
    refine ⟨mission, kind, payload, time, hkey, fun hkind => ?_⟩
    obtain ⟨binding, hbinding, hsaid⟩ := hpayload hkind
    exact ⟨binding, List.mem_append_left _ hbinding, hsaid⟩
  case ledger => exact h.ledger

theorem Issued.advanceEpoch (h : Issued canonicalHash database) {fenced : TrialDatabase}
    {epoch generation : ℕ} {predecessor : Option String}
    (hadvance : database.advanceEpoch missionId ocsId =
      .ok (fenced, epoch, generation, predecessor)) : Issued canonicalHash fenced := by
  rcases advanceEpoch_eq_ok hadvance with
    ⟨-, -, -, rfl⟩ | ⟨current, prior, -, -, -, -, rfl⟩
  · exact h.of_bindings rfl rfl rfl
  · exact h.of_bindings (map_updateWhere fun _ => rfl) rfl rfl

theorem createMission_issued (h : Issued canonicalHash database)
    {canonicalStateRef currentGate : String} {autonomyBudget : ℤ}
    (hok : createMission canonicalHash missionId canonicalStateRef currentGate
      autonomyBudget now database = .ok (after, ())) : Issued canonicalHash after := by
  simp only [createMission] at hok
  split at hok
  · cases hok
  · split at hok
    · cases hok
    · obtain ⟨noted, hledger, hok⟩ := bind_eq_ok hok
      cases hok
      apply Issued.otherEntry ?_ (by decide) hledger
      exact h.of_bindings rfl rfl rfl

theorem bind_issued (h : Issued canonicalHash database) {authorityRef : String}
    {activateIfEmpty : Bool} {answer : BindingReceipt}
    (hok : Trial.bind canonicalHash missionId ocsId instanceId authorityRef activateIfEmpty
      now database = .ok (after, answer)) : Issued canonicalHash after := by
  simp only [Trial.bind] at hok
  split at hok
  · cases hok
  · obtain ⟨mission, hmission, hok⟩ := bind_eq_ok hok
    obtain ⟨⟨fenced, epoch, generation, predecessor⟩, hadvance, hok⟩ := bind_eq_ok hok
    obtain ⟨inserted, hinserted, hok⟩ := bind_eq_ok hok
    obtain ⟨⟨receipted, receiptId⟩, hreceipt, hok⟩ := bind_eq_ok hok
    cases hok
    obtain ⟨rfl, -⟩ := TrialDatabase.insertBinding_eq_ok hinserted
    apply Issued.receipt ?_ ?_ hreceipt
    · have hbound (row : BindingRow)
          (hid : row.bindingId = bindingKey canonicalHash row.missionId row.ocsId
            row.instanceId row.fencingEpoch) :=
        (h.advanceEpoch hadvance).insertBinding hid
      split
      · exact (hbound _ rfl).of_bindings rfl rfl rfl
      · exact hbound _ rfl
    · intro _
      split
      · exact ⟨_, List.mem_append_right _ (List.mem_singleton_self _), rfl⟩
      · exact ⟨_, List.mem_append_right _ (List.mem_singleton_self _), rfl⟩

theorem checkpoint_issued (h : Issued canonicalHash database) {localState : Value}
    {checkpointId : String}
    (hok : checkpoint canonicalHash missionId instanceId localState now database =
      .ok (after, checkpointId)) : Issued canonicalHash after := by
  simp only [checkpoint] at hok
  obtain ⟨mission, -, hok⟩ := bind_eq_ok hok
  split at hok
  · cases hok
  · obtain ⟨binding, -, hok⟩ := bind_eq_ok hok
    obtain ⟨saved, hsaved, hok⟩ := bind_eq_ok hok
    obtain ⟨⟨receipted, receiptId⟩, hreceipt, hok⟩ := bind_eq_ok hok
    obtain ⟨noted, hledger, hok⟩ := bind_eq_ok hok
    cases hok
    have hsavedIssued : Issued canonicalHash saved := by
      unfold TrialDatabase.insertCheckpoint at hsaved
      split at hsaved
      · cases hsaved
      · cases hsaved
        exact h.of_bindings rfl rfl rfl
    apply Issued.otherEntry ?_ (by decide) hledger
    apply Issued.otherReceipt ?_ (by decide) hreceipt
    exact hsavedIssued.updateBinding binding.bindingId fun _ => rfl

theorem writeState_issued (h : Issued canonicalHash database) {epoch : ℤ}
    {namespaceKey : String} {value : Value} {answer : MutationReceipt}
    (hok : writeState canonicalHash missionId ocsId instanceId epoch namespaceKey value now
      database = .ok (after, answer)) : Issued canonicalHash after := by
  simp only [writeState] at hok
  obtain ⟨reason, -, hok⟩ := bind_eq_ok hok
  cases reason with
  | some reason =>
    obtain ⟨⟨receipted, receiptId⟩, hreceipt, hok⟩ := bind_eq_ok hok
    cases hok
    exact h.otherReceipt (by decide) hreceipt
  | none =>
    obtain ⟨⟨receipted, receiptId⟩, hreceipt, hok⟩ := bind_eq_ok hok
    cases hok
    have hwritten : Issued canonicalHash { database with
        stateEntries := database.stateEntries.insert (missionId, namespaceKey)
          ⟨canonicalHash value, instanceId, epoch⟩ } := h.of_bindings rfl rfl rfl
    exact hwritten.otherReceipt (by decide) hreceipt

theorem issueHandoff_issued (h : Issued canonicalHash database)
    {routeId targetInstanceId targetOcsId handoffId : String} {envelope : Value}
    (hok : issueHandoff canonicalHash missionId routeId targetInstanceId targetOcsId envelope
      now database = .ok (after, handoffId)) : Issued canonicalHash after := by
  simp only [issueHandoff] at hok
  split at hok
  · cases hok
  · obtain ⟨mission, -, hok⟩ := bind_eq_ok hok
    split at hok
    · cases hok
    · split at hok
      · cases hok
      · split at hok
        · cases hok
        · obtain ⟨source, -, hok⟩ := bind_eq_ok hok
          split at hok
          · cases hok
          · obtain ⟨found, -, hok⟩ := bind_eq_ok hok
            split at hok
            · cases hok
            · obtain ⟨issued, hissued, hok⟩ := bind_eq_ok hok
              obtain ⟨noted, hledger, hok⟩ := bind_eq_ok hok
              cases hok
              obtain rfl := TrialDatabase.insertHandoff_eq_ok hissued
              apply Issued.otherEntry ?_ (by decide) hledger
              exact h.of_bindings rfl rfl rfl

theorem acceptHandoff_issued (h : Issued canonicalHash database) {handoffId : String}
    {answer : HandoffReceipt}
    (hok : acceptHandoff canonicalHash missionId handoffId now database =
      .ok (after, answer)) : Issued canonicalHash after := by
  simp only [acceptHandoff] at hok
  obtain ⟨row, -, hok⟩ := bind_eq_ok hok
  split at hok
  · cases hok
  · obtain ⟨mission, -, hok⟩ := bind_eq_ok hok
    split at hok
    · cases hok
    · obtain ⟨target, -, hok⟩ := bind_eq_ok hok
      split at hok
      · cases hok
      · obtain ⟨⟨receipted, receiptId⟩, hreceipt, hok⟩ := bind_eq_ok hok
        obtain ⟨noted, hledger, hok⟩ := bind_eq_ok hok
        cases hok
        have hquiesced : Issued canonicalHash
            (quiesce database missionId row.sourceInstanceId) :=
          h.of_bindings (map_updateWhere fun _ => rfl) rfl rfl
        have hreceipted : Issued canonicalHash receipted := by
          apply Issued.otherReceipt ?_ (by decide) hreceipt
          exact hquiesced.updateBinding target.bindingId fun _ => rfl
        apply Issued.otherEntry ?_ (by decide) hledger
        exact hreceipted.of_bindings rfl rfl rfl

theorem release_issued (h : Issued canonicalHash database) {activeInstance : String}
    (hok : release missionId ocsId database = .ok (after, activeInstance)) :
    Issued canonicalHash after := by
  obtain ⟨mission, active, -, -, -, rfl⟩ := release_spec hok
  exact h.of_bindings (map_updateWhere fun _ => rfl) rfl rfl

theorem recoveryReceipt_issued (h : Issued canonicalHash database)
    {activeInstance successorInstanceId : String} {epoch : ℕ}
    (hok : recoveryReceipt canonicalHash missionId activeInstance successorInstanceId epoch
      now database = .ok (after, receiptId)) : Issued canonicalHash after :=
  h.otherReceipt (by decide) hok

theorem recover_issued (h : Issued canonicalHash database)
    (successorInstanceId authorityRef : String) :
    Script.Safe (alone (Issued canonicalHash)) (fun _ _ => True)
      (recover canonicalHash missionId ocsId successorInstanceId authorityRef now)
      database := by
  have hcommit {A : Type} {transaction : Transaction TrialDatabase TrialError A}
      (hissued : ∀ {found after answer}, Issued canonicalHash found →
        transaction found = .ok (after, answer) → Issued canonicalHash after)
      (found : TrialDatabase) :
      Script.Safe (alone (Issued canonicalHash)) (fun _ _ => True) transaction.commit
        found := by
    apply Transaction.safe_commit
    intro current hcurrent _ after answer hok
    exact ⟨hissued hcurrent hok, trivial, trivial⟩
  apply (hcommit (fun hfound hok => release_issued hfound hok) database).bind h
  intro activeInstance released hreleased _ _
  apply (hcommit (fun hfound hok => bind_issued hfound hok) released).bind hreleased
  intro receipt bound hbound _ _
  apply (hcommit (fun hfound hok => recoveryReceipt_issued hfound hok) bound).bind hbound
  intro _ _ _ _ _
  exact Script.safe_pure trivial

theorem Issued.perform (h : Issued canonicalHash database) (op : TrialOp) :
    Issued canonicalHash (perform canonicalHash database op) := by
  have hleaves {A : Type} {transaction : Transaction TrialDatabase TrialError A}
      (hcommitted : ∀ after answer, transaction database = .ok (after, answer) →
        Issued canonicalHash after) : Issued canonicalHash (transaction.leaves database) :=
    Transaction.leaves_induction (Issued canonicalHash) h hcommitted
  cases op with
  | createMission => exact hleaves fun after _ hok => createMission_issued h hok
  | bind => exact hleaves fun after _ hok => bind_issued h hok
  | checkpoint => exact hleaves fun after _ hok => checkpoint_issued h hok
  | writeState => exact hleaves fun after _ hok => writeState_issued h hok
  | issueHandoff => exact hleaves fun after _ hok => issueHandoff_issued h hok
  | acceptHandoff => exact hleaves fun after _ hok => acceptHandoff_issued h hok
  | recover missionId ocsId successorInstanceId authorityRef now crash =>
    have hsafe : Script.Safe (alone (Issued canonicalHash)) (fun _ _ => True)
        (recover canonicalHash missionId ocsId successorInstanceId authorityRef now)
        database := recover_issued h successorInstanceId authorityRef
    cases crash with
    | none => exact (hsafe.exec h).1
    | some count => exact (hsafe.crashed h count).1

/-! ## Binds are accepted -/

theorem Generations.exists_newest (h : Generations database) {current : ℕ}
    (hcurrent : database.fencing.lookup (missionId, ocsId) = some current) :
    ∃ prior, database.newest missionId ocsId = some prior := by
  obtain ⟨binding, hbinding, hmission, hocs, -⟩ := h.current missionId ocsId current hcurrent
  have hlisted : binding ∈ (database.bindings.filter fun binding =>
      binding.missionId = missionId ∧ binding.ocsId = ocsId).insertionSort newerFirst := by
    rw [List.mem_insertionSort]
    exact List.mem_filter.mpr ⟨hbinding, decide_eq_true ⟨hmission, hocs⟩⟩
  have hne := List.ne_nil_of_mem hlisted
  exact ⟨_, List.head?_eq_some_head hne⟩

theorem Generations.advanceEpoch_ok (h : Generations database) (missionId ocsId : String) :
    ∃ advanced, database.advanceEpoch missionId ocsId = .ok advanced := by
  unfold TrialDatabase.advanceEpoch
  cases hcurrent : database.fencing.lookup (missionId, ocsId) with
  | none => exact ⟨_, rfl⟩
  | some current =>
    obtain ⟨prior, hprior⟩ := h.exists_newest hcurrent
    simp only [hprior]
    exact ⟨_, rfl⟩

theorem insertBinding_ok {row : BindingRow}
    (hfresh : ∀ binding ∈ database.bindings, binding.bindingId ≠ row.bindingId ∧
      ¬ (binding.missionId = row.missionId ∧ binding.ocsId = row.ocsId ∧
        binding.generation = row.generation)) :
    database.insertBinding row =
      .ok { database with bindings := database.bindings ++ [row] } := by
  have hnone : (database.bindings.any fun binding =>
      binding.bindingId = row.bindingId ||
        (binding.missionId = row.missionId && binding.ocsId = row.ocsId &&
          binding.generation = row.generation)) = false := by
    rw [List.any_eq_false]
    intro binding hbinding
    obtain ⟨hid, hkey⟩ := hfresh binding hbinding
    simp only [hid, Bool.or_eq_true, Bool.and_eq_true, decide_eq_true_eq, decide_false]
    tauto
  simp only [TrialDatabase.insertBinding, hnone, Bool.false_eq_true, if_false]

theorem receipt_ok
    (hreceipt : database.receipts.lookup
      (receiptKey canonicalHash missionId kind payload (now 0)) = none)
    (hledger : database.ledger.lookup
      (ledgerKey canonicalHash missionId s!"receipt:{kind}"
        (receiptKey canonicalHash missionId kind payload (now 0)) payload (now 2)) = none) :
    ∃ result, database.receipt canonicalHash missionId kind payload now = .ok result := by
  unfold receiptKey at hreceipt hledger
  unfold ledgerKey at hledger
  simp only [TrialDatabase.receipt, TrialDatabase.appendLedger, hreceipt, hledger]
  exact ⟨_, rfl⟩

/-- A bind whose arguments are all given is accepted for every mission there is. -/
theorem bind_ok (hinjective : Function.Injective canonicalHash)
    (hissued : Issued canonicalHash database) (hgenerations : Generations database)
    {mission : MissionRow} (hmission : database.missions.lookup missionId = some mission)
    {authorityRef : String} (hgiven : ¬ (missionId = "" ∨ ocsId = "" ∨ instanceId = "" ∨
      authorityRef = "")) (activateIfEmpty : Bool) (now : ℕ → String) :
    ∃ result, Trial.bind canonicalHash missionId ocsId instanceId authorityRef
      activateIfEmpty now database = .ok result := by
  obtain ⟨⟨fenced, epoch, generation, predecessor⟩, hadvance⟩ :=
    hgenerations.advanceEpoch_ok missionId ocsId
  obtain ⟨rfl, hsuperseded⟩ := hgenerations.advanceEpoch hadvance
  have hfenced : Issued canonicalHash fenced := hissued.advanceEpoch hadvance
  have hfound : database.mission missionId = .ok mission := by
    rw [TrialDatabase.mission, hmission]
  have hid : ∀ binding ∈ fenced.bindings, binding.bindingId ≠
      bindingKey canonicalHash missionId ocsId instanceId generation := by
    intro binding hbinding heq
    rw [hfenced.bindings binding hbinding] at heq
    obtain ⟨hsameMission, hsameOcs, hsameEpoch⟩ := bindingKey_inj hinjective heq
    obtain ⟨old, hold, hsame, -⟩ := hsuperseded.descends.origin binding hbinding
    have hearlier := (hsuperseded.earlier binding hbinding hsameMission hsameOcs).2
    rw [hsame.generation, hgenerations.numbered old hold, ← hsame.fencingEpoch,
      hsameEpoch] at hearlier
    exact Nat.lt_irrefl _ hearlier
  have hreceipt : fenced.receipts.lookup (receiptKey canonicalHash missionId "binding"
      (bindingPayload (bindingKey canonicalHash missionId ocsId instanceId generation) ocsId
        instanceId generation) (now 1)) = none := by
    by_contra hstored
    obtain ⟨_, kind, payload, _, hkey, hpayload⟩ :=
      hfenced.receipts _ (Option.ne_none_iff_isSome.mp hstored)
    obtain ⟨rfl, rfl⟩ := receiptKey_inj hinjective hkey
    obtain ⟨binding, hbinding, hsaid⟩ := hpayload rfl
    simp only [bindingPayload, Json.object.injEq, List.cons.injEq, Prod.mk.injEq,
      Json.string.injEq, true_and] at hsaid
    exact hid binding hbinding hsaid.1.symm
  have hledger : fenced.ledger.lookup (ledgerKey canonicalHash missionId "receipt:binding"
      (receiptKey canonicalHash missionId "binding"
        (bindingPayload (bindingKey canonicalHash missionId ocsId instanceId generation) ocsId
          instanceId generation) (now 1))
      (bindingPayload (bindingKey canonicalHash missionId ocsId instanceId generation) ocsId
        instanceId generation) (now 3)) = none := by
    by_contra hstored
    obtain ⟨_, eventType, eventRef, _, _, hkey, hevent⟩ :=
      hfenced.ledger _ (Option.ne_none_iff_isSome.mp hstored)
    obtain ⟨rfl, rfl⟩ := ledgerKey_inj hinjective hkey
    have hsome := hevent rfl
    rw [hreceipt] at hsome
    cases hsome
  unfold Trial.bind
  rw [if_neg hgiven]
  apply exists_bind_eq_ok ⟨mission, hfound⟩
  intro found hfound'
  apply exists_bind_eq_ok ⟨_, hadvance⟩
  intro advanced hadvanced
  rw [hadvance] at hadvanced
  cases hadvanced
  apply exists_bind_eq_ok
  · refine ⟨_, insertBinding_ok fun binding hbinding => ⟨hid binding hbinding, ?_⟩⟩
    rintro ⟨hsameMission, hsameOcs, hsameGeneration⟩
    have hearlier := (hsuperseded.earlier binding hbinding hsameMission hsameOcs).2
    rw [hsameGeneration] at hearlier
    exact Nat.lt_irrefl _ hearlier
  · intro bound hbound
    obtain ⟨rfl, -⟩ := TrialDatabase.insertBinding_eq_ok hbound
    apply exists_bind_eq_ok
    · apply receipt_ok
      · split
        · exact hreceipt
        · exact hreceipt
      · split
        · exact hledger
        · exact hledger
    · exact fun receipted _ => ⟨_, rfl⟩

end ReisOs.Trial
