import ReisOs.Command.RecoveryStability

/-!
# Views of one organization

What the views show to an organization depends on its own bindings only.  Calls on the
bindings of other organizations leave these alone, unless a replacement that was already
made is repeated under the key of a saga of the organization.
-/

namespace ReisOs.Command

open ReisOs.Core ReisOs.Kernel ReisOs.Instances

/-! ## Equal views -/

/-- Every view of the organization is the same in both states. -/
structure SameViews (updatedAt : String → ℕ → Time) (stamps : String → JournalStamp)
    (organizationId : String) (state later : RegistryState) : Prop where
  listInstances : ∀ codec health filters cursor limit now wall,
    listInstances codec (.ofState updatedAt later) health organizationId filters cursor
        limit now wall =
      Command.listInstances codec (.ofState updatedAt state) health organizationId filters
        cursor limit now wall
  get : ∀ health bindingId now wall,
    (Registry.ofState updatedAt later).get stamps health bindingId organizationId now wall =
      (Registry.ofState updatedAt state).get stamps health bindingId organizationId now wall
  lineage : ∀ health bindingId now wall,
    (Registry.ofState updatedAt later).lineage health bindingId organizationId now wall =
      (Registry.ofState updatedAt state).lineage health bindingId organizationId now wall
  comparison : ∀ health bindingId,
    (Registry.ofState updatedAt later).comparison health bindingId organizationId =
      (Registry.ofState updatedAt state).comparison health bindingId organizationId
  recoveryCenter : ∀ codec health filters cursor limit now wall,
    recoveryCenter codec (.ofState updatedAt later) health organizationId filters cursor
        limit now wall =
      Command.recoveryCenter codec (.ofState updatedAt state) health organizationId filters
        cursor limit now wall
  journalFeed : ∀ health cursor limit now,
    ((journalFeed stamps organizationId health cursor limit now).exec later.store).2 =
      ((Command.journalFeed stamps organizationId health cursor limit now).exec
        state.store).2

namespace Registry

variable {kept : String → Bool} {left right : Registry} {organizationId : String}

theorem bindingOf_ok {bindingId : String} {row : BindingRow}
    (hright : right.Covered kept organizationId)
    (hrow : right.bindingOf bindingId organizationId = .ok row) :
    kept row.bindingId = true ∧ row.bindingId = bindingId ∧
      row.organizationId = organizationId := by
  unfold Registry.bindingOf at hrow
  cases hfound : right.getScoped bindingId organizationId with
  | none =>
    rw [hfound] at hrow
    cases hrow
  | some found =>
    rw [hfound] at hrow
    cases hrow
    obtain ⟨hmem, hid, horganization⟩ := mem_of_getScoped hfound
    exact ⟨hright row hmem horganization, hid, horganization⟩

section Agreement

variable (h : Agree kept left right) (hleft : left.Covered kept organizationId)
  (hright : right.Covered kept organizationId)

include h hleft hright

theorem Agree.filteredItems (filters : InstanceFilter) (snapshotAt clock : Time)
    (health : Health) (wall : String) :
    filteredItems left organizationId filters snapshotAt clock health wall =
      filteredItems right organizationId filters snapshotAt clock health wall := by
  have horganization (row : BindingRow)
      (hselected : selects organizationId filters snapshotAt row = true) :
      row.organizationId = organizationId := by
    simp only [selects, Bool.and_eq_true, decide_eq_true_eq] at hselected
    exact hselected.1.1.1.1
  have hrows : left.bindings.filter (selects organizationId filters snapshotAt) =
      right.bindings.filter (selects organizationId filters snapshotAt) := by
    apply filter_eq_of_imp h.bindings
    · intro row hmem hselected
      exact hleft row hmem (horganization row hselected)
    · intro row hmem hselected
      exact hright row hmem (horganization row hselected)
  unfold Command.filteredItems
  rw [hrows]
  apply congrArg (List.filter (keeps filters))
  apply List.map_congr_left
  intro row hrow
  have hmem := List.mem_filter.mp ((List.mem_insertionSort _).mp hrow)
  have hsame := horganization row hmem.2
  exact h.project hleft hright hsame (hright row hmem.1 hsame) clock health wall

theorem Agree.listInstances (codec : Codec) (health : Health) (filters : InstanceFilter)
    (cursor : Option String) (limit : ℕ) (now : Time) (wall : String) :
    listInstances codec left health organizationId filters cursor limit now wall =
      listInstances codec right health organizationId filters cursor limit now wall := by
  have hitems : Command.filteredItems left organizationId filters =
      Command.filteredItems right organizationId filters := by
    funext snapshotAt clock health wall
    exact h.filteredItems hleft hright filters snapshotAt clock health wall
  unfold Command.listInstances
  rw [hitems]

theorem Agree.bindingOf (bindingId : String) :
    left.bindingOf bindingId organizationId = right.bindingOf bindingId organizationId := by
  unfold Registry.bindingOf
  rw [h.getScoped_covered hleft hright]

theorem Agree.onBinding {A : Type} {view other : BindingRow → Except InstanceError A}
    {bindingId : String}
    (hview : ∀ row, kept row.bindingId = true → row.bindingId = bindingId →
      row.organizationId = organizationId → view row = other row) :
    (left.bindingOf bindingId organizationId >>= view) =
      (right.bindingOf bindingId organizationId >>= other) := by
  rw [h.bindingOf hleft hright]
  cases hrow : right.bindingOf bindingId organizationId with
  | error error => rfl
  | ok row =>
    obtain ⟨hkept, hid, hsame⟩ := bindingOf_ok hright hrow
    exact hview row hkept hid hsame

theorem Agree.lineage (health : Health) (bindingId : String) (now : Time) (wall : String) :
    left.lineage health bindingId organizationId now wall =
      right.lineage health bindingId organizationId now wall := by
  apply h.onBinding hleft hright
  intro target _ _ hsame
  have hitems : (((left.lineageRows target).insertionSort byGeneration).map fun row =>
        left.project row now health wall) =
      ((right.lineageRows target).insertionSort byGeneration).map fun row =>
        right.project row now health wall := by
    rw [h.lineageRows hleft hright hsame]
    apply List.map_congr_left
    intro row hrow
    have hmem := List.mem_filter.mp ((List.mem_insertionSort _).mp hrow)
    have horganization := (of_decide_eq_true hmem.2).1.trans hsame
    exact h.project hleft hright horganization (hright row hmem.1 horganization) now health
      wall
  dsimp only
  rw [hitems]

theorem Agree.journalOf (stamps : String → JournalStamp) (bindingId : String) :
    left.journalOf stamps bindingId organizationId =
      right.journalOf stamps bindingId organizationId := by
  apply h.onBinding hleft hright
  intro row hkept hid _
  rw [h.journalRows (hid ▸ hkept)]

theorem Agree.get (stamps : String → JournalStamp) (health : Health) (bindingId : String)
    (now : Time) (wall : String) :
    left.get stamps health bindingId organizationId now wall =
      right.get stamps health bindingId organizationId now wall := by
  apply h.onBinding hleft hright
  intro row hkept _ hsame
  rw [h.project hleft hright hsame hkept, h.journalOf hleft hright, h.lineage hleft hright]

theorem Agree.comparison (health : Health) (bindingId : String) :
    left.comparison health bindingId organizationId =
      right.comparison health bindingId organizationId := by
  apply h.onBinding hleft hright
  intro row hkept _ hsame
  dsimp only
  rw [h.recoveryProof hleft hright hsame hkept, h.predecessor hleft hright hsame]

theorem Agree.recoveryCenter (codec : Codec) (health : Health) (filters : InstanceFilter)
    (cursor : Option String) (limit : ℕ) (now : Time) (wall : String) :
    recoveryCenter codec left health organizationId filters cursor limit now wall =
      recoveryCenter codec right health organizationId filters cursor limit now wall := by
  unfold Command.recoveryCenter
  rw [h.listInstances hleft hright]

end Agreement

end Registry

/-! ## The journal -/

variable {kept : String → Bool} {organizationId : String}

variable {store : InstanceStore}

/-- The joined rows come from kept entries. -/
theorem feedRows_part
    (hcovered : ∀ row ∈ store.bindings, row.organizationId = organizationId →
      kept row.bindingId = true) :
    feedRows store organizationId = feedRows (store.part kept) organizationId := by
  have hjoined (entry : JournalEntry) (hkept : kept entry.bindingId = true) :
      (store.bindings.filter fun row =>
        row.bindingId = entry.bindingId ∧ row.organizationId = organizationId) =
      (store.part kept).bindings.filter fun row =>
        row.bindingId = entry.bindingId ∧ row.organizationId = organizationId := by
    apply Eq.symm
    apply filter_of_imp
    intro row _ hrow
    rw [(of_decide_eq_true hrow).1]
    exact hkept
  unfold feedRows
  rw [InstanceStore.part]
  induction store.journal with
  | nil => rfl
  | cons entry rest ih =>
    rw [List.flatMap_cons, ih, List.filter_cons]
    cases hkept : kept entry.bindingId with
    | true =>
      rw [hjoined entry hkept]
      rfl
    | false =>
      have hnone : (store.bindings.filter fun row => row.bindingId = entry.bindingId ∧
          row.organizationId = organizationId) = [] := by
        apply List.filter_eq_nil_iff.mpr
        intro row hrow hboth
        obtain ⟨hid, hsame⟩ := of_decide_eq_true hboth
        have hother := hcovered row hrow hsame
        rw [hid, hkept] at hother
        cases hother
      rw [hnone]
      rfl

theorem journalFeed_exec (stamps : String → JournalStamp) (health : Health)
    (cursor limit : ℤ) (now : Time) {later : InstanceStore}
    (h : feedRows later organizationId = feedRows store organizationId) :
    ((journalFeed stamps organizationId health cursor limit now).exec later).2 =
      ((journalFeed stamps organizationId health cursor limit now).exec store).2 := by
  unfold Command.journalFeed
  by_cases hnegative : cursor < 0
  · rw [Script.exec_raiseIf_bind, Script.exec_raiseIf_bind, if_pos hnegative, if_pos hnegative]
  · rw [Script.exec_raiseIf_bind, Script.exec_raiseIf_bind, if_neg hnegative, if_neg hnegative]
    by_cases hhealth : health ≠ .available
    · rw [if_pos hhealth]
      rfl
    · rw [if_neg hhealth, Script.exec_read_bind, Script.exec_read_bind,
        Script.exec_raiseIf_bind, Script.exec_raiseIf_bind, h]
      by_cases hahead : ((feedRows store organizationId).length : ℤ) < cursor
      · rw [if_pos hahead, if_pos hahead]
      · rw [if_neg hahead, if_neg hahead, Script.exec_read_bind, Script.exec_read_bind, h]
        rfl

/-! ## Frames of an organization -/

/-- The ids of the rows of an organization. -/
def belongs (organizationId : String) (store : InstanceStore) (bindingId : String) : Bool :=
  store.bindings.any fun row =>
    row.bindingId = bindingId ∧ row.organizationId = organizationId

/-- What an organization has in the registry. -/
def organizationFrame (organizationId : String) (store : InstanceStore) : Frame where
  kept := belongs organizationId store
  part := store.part (belongs organizationId store)
  Like row := row.organizationId ≠ organizationId

theorem belongs_iff {bindingId : String} :
    belongs organizationId store bindingId = true ↔
      ∃ row ∈ store.bindings, row.bindingId = bindingId ∧
        row.organizationId = organizationId := by
  simp [belongs]

theorem holds_organizationFrame (organizationId : String) (state : RegistryState) :
    (organizationFrame organizationId state.store).Holds state.store where
  wellFormed := state.wellFormed
  part := rfl
  like row hrow hother horganization := by
    have hkept : belongs organizationId state.store row.bindingId = true :=
      belongs_iff.mpr ⟨row, hrow, rfl, horganization⟩
    change belongs organizationId state.store row.bindingId = false at hother
    rw [hkept] at hother
    cases hother

theorem byOrganization_organizationFrame (organizationId : String) (store : InstanceStore) :
    (organizationFrame organizationId store).ByOrganization := by
  intro row next hsame hlike
  change next.organizationId ≠ organizationId
  rw [hsame]
  exact hlike

theorem tight_organizationFrame (organizationId : String) (store : InstanceStore) :
    (organizationFrame organizationId store).Tight := by
  intro bindingId hkept
  obtain ⟨row, hrow, hid, horganization⟩ := belongs_iff.mp hkept
  refine ⟨row, List.mem_filter.mpr ⟨hrow, ?_⟩, hid⟩
  exact belongs_iff.mpr ⟨row, hrow, rfl, horganization⟩

theorem covered_of_holds {state : RegistryState}
    (h : (organizationFrame organizationId store).Holds state.store) :
    ∀ row ∈ state.store.bindings, row.organizationId = organizationId →
      belongs organizationId store row.bindingId = true := by
  intro row hrow horganization
  by_contra hother
  have hforeign : belongs organizationId store row.bindingId = false := by
    simpa using hother
  exact h.like row hrow hforeign horganization

theorem sameViews_of_holds (updatedAt : String → ℕ → Time) (stamps : String → JournalStamp)
    {state later : RegistryState}
    (h : (organizationFrame organizationId state.store).Holds later.store) :
    SameViews updatedAt stamps organizationId state later := by
  have hbefore := holds_organizationFrame organizationId state
  have hagree := Registry.agree_of_part updatedAt (h.part.trans hbefore.part.symm)
  have hcovered {now : RegistryState}
      (hnow : (organizationFrame organizationId state.store).Holds now.store) :
      (Registry.ofState updatedAt now).Covered (belongs organizationId state.store)
        organizationId := by
    intro row hrow horganization
    obtain ⟨binding, hbinding, rfl⟩ := List.mem_map.mp hrow
    exact covered_of_holds hnow binding hbinding horganization
  have hfeed : feedRows later.store organizationId = feedRows state.store organizationId := by
    rw [feedRows_part (covered_of_holds h), feedRows_part (covered_of_holds hbefore)]
    exact congrArg (feedRows · organizationId) h.part
  exact {
    listInstances := hagree.listInstances (hcovered h) (hcovered hbefore)
    get := hagree.get (hcovered h) (hcovered hbefore) stamps
    lineage := hagree.lineage (hcovered h) (hcovered hbefore)
    comparison := hagree.comparison (hcovered h) (hcovered hbefore)
    recoveryCenter := hagree.recoveryCenter (hcovered h) (hcovered hbefore)
    journalFeed := fun health cursor limit now =>
      journalFeed_exec stamps health cursor limit now hfeed }

/-! ## Calls of other organizations -/

section Calls

variable {S : Type}

/-- The call is about bindings of other organizations. -/
def OnOthers (organizationId : String) (store : InstanceStore) : Call S → Prop
  | .prepare request => request.organizationId ≠ organizationId
  | .attach call => belongs organizationId store call.bindingId = false
  | .acknowledge ack _ => belongs organizationId store ack.bindingId = false
  | .checkpoint call => belongs organizationId store call.bindingId = false
  | .replaceInstance call => belongs organizationId store call.bindingId = false
  | .recoverInstance caller _ _ => caller ≠ organizationId

/-- A row of the organization has the key and the hash of another one's request. -/
def AnsweredBy (config : BinderConfig S) (organizationId : String) (store : InstanceStore)
    (request : PrepareInstanceRequest) : Prop :=
  ∃ row ∈ store.bindings, row.organizationId = organizationId ∧
    row.idempotencyKey = request.idempotencyKey ∧ row.requestHash = config.requestHash request

/-- A replacement that was already made is repeated under the key of a saga of the
organization that waits for its lease to be finalized. -/
def RepeatsWithSagaOf (config : BinderConfig S) (organizationId : String)
    (store : InstanceStore) (call : ReplaceCall) : Prop :=
  (∃ previous ∈ store.bindings, previous.bindingId = call.bindingId ∧
    previous.status = .replaced ∧
    ∃ replayed ∈ store.bindings, replayed.idempotencyKey = call.request.idempotencyKey ∧
      replayed.requestHash = config.requestHash call.request ∧
      replayed.predecessorBindingId = some previous.bindingId) ∧
    ∃ saga ∈ store.sagas, saga.idempotencyKey = call.idempotencyKey ∧
      saga.state = .localCommitted ∧ belongs organizationId store saga.bindingId = true

instance (config : BinderConfig S) (organizationId : String) (store : InstanceStore)
    (request : PrepareInstanceRequest) :
    Decidable (AnsweredBy config organizationId store request) :=
  inferInstanceAs (Decidable (∃ row ∈ store.bindings, row.organizationId = organizationId ∧
    row.idempotencyKey = request.idempotencyKey ∧
      row.requestHash = config.requestHash request))

instance (config : BinderConfig S) (organizationId : String) (store : InstanceStore)
    (call : ReplaceCall) : Decidable (RepeatsWithSagaOf config organizationId store call) :=
  inferInstanceAs (Decidable ((∃ previous ∈ store.bindings,
    previous.bindingId = call.bindingId ∧ previous.status = .replaced ∧
    ∃ replayed ∈ store.bindings, replayed.idempotencyKey = call.request.idempotencyKey ∧
      replayed.requestHash = config.requestHash call.request ∧
      replayed.predecessorBindingId = some previous.bindingId) ∧
    ∃ saga ∈ store.sagas, saga.idempotencyKey = call.idempotencyKey ∧
      saga.state = .localCommitted ∧ belongs organizationId store saga.bindingId = true))

/-- When the code keeps a call away from the organization. -/
def KeptAway (config : BinderConfig S) (organizationId : String) (store : InstanceStore) :
    Call S → Prop
  | .prepare request => ¬ AnsweredBy config organizationId store request
  | .replaceInstance call => ¬ AnsweredBy config organizationId store call.request ∧
      ¬ RepeatsWithSagaOf config organizationId store call
  | .attach _ | .acknowledge .. | .checkpoint _ | .recoverInstance .. => True

/-- The rule of a frame for a service that nobody disturbs. -/
def undisturbed (frame : Frame) : Discipline (World S) :=
  { (frame.served : Discipline (World S)) with
    Others := Eq
    idle := fun _ => rfl
    others := fun h => h ▸ (frame.served : Discipline (World S)).refl _ }

theorem safe_undisturbed {A : Type} {frame : Frame} {world : World S} {script : Service S A}
    (h : script.Safe frame.served (fun _ _ => True) world) :
    script.Safe (undisturbed frame) (fun _ _ => True) world := by
  apply h.weaken
  · exact fun _ => Iff.rfl
  · rintro now _ rfl
    exact (frame.served : Discipline (World S)).idle now
  · exact fun _ _ => id

theorem fresh_of_not_answered {config : BinderConfig S} {organizationId : String}
    {store : InstanceStore} {request : PrepareInstanceRequest}
    (hwell : store.WellFormed)
    (h : ¬ AnsweredBy config organizationId store request) :
    (organizationFrame organizationId store).Fresh request.idempotencyKey
      (config.requestHash request) := by
  intro row hrow hkey hhash
  obtain ⟨hmem, hkept⟩ := List.mem_filter.mp hrow
  obtain ⟨other, hother, hid, horganization⟩ := belongs_iff.mp hkept
  have hone : other = row := List.inj_on_of_nodup_map hwell.bindings hother hmem hid
  rw [hone] at horganization
  exact h ⟨row, hmem, horganization, hkey, hhash⟩

theorem saga_of_part {store : InstanceStore} {organizationId : String} {saga : ActionSaga}
    (h : saga ∈ (organizationFrame organizationId store).part.sagas) :
    saga ∈ store.sagas ∧ belongs organizationId store saga.bindingId = true :=
  List.mem_filter.mp h

variable {world : World S}

theorem safe_getRow {frame : Frame} (bindingId : String) :
    (World.onStore (InstanceStore.get bindingId) : Service S InstanceBinding).Safe
      (undisturbed frame)
      (fun binding now => now = world ∧ world.store.row bindingId = some binding) world := by
  unfold InstanceStore.get
  rw [onStore_bind]
  unfold World.onStore
  rw [Script.on_read]
  apply Script.safe_read_bind
  rintro now - rfl
  cases hrow : (World.storePart.get world).row bindingId with
  | none => exact Script.safe_raise
  | some binding => exact ⟨rfl, hrow⟩

variable [DecidableEq S] (config : BinderConfig S) {organizationId : String}

/-- A replacement that is kept away reads what it finds and then obeys the frame. -/
theorem safe_replaceInstance (hwell : world.store.WellFormed) (call : ReplaceCall)
    (hothers : belongs organizationId world.store call.bindingId = false)
    (hanswered : ¬ AnsweredBy config organizationId world.store call.request)
    (hsaga : ¬ RepeatsWithSagaOf config organizationId world.store call) :
    (replaceInstance config call).Safe
      (undisturbed (organizationFrame organizationId world.store)) (fun _ _ => True)
      world := by
  have hholds : (organizationFrame organizationId world.store).Holds world.store :=
    holds_organizationFrame organizationId ⟨world.store, hwell⟩
  have hfresh := fresh_of_not_answered hwell hanswered
  unfold replaceInstance validateRequest
  apply Script.safe_raiseIf_bind
  intro _
  apply (safe_getRow call.bindingId).bind hholds
  rintro previous now hnow - ⟨rfl, hrow⟩
  obtain ⟨hprevious, hid⟩ := Frame.mem_of_row hrow
  apply Script.safe_read_bind
  rintro now - rfl
  split
  · rename_i hreplaced
    by_cases hanswers : ∃ replayed, now.store.byIdempotency call.request.idempotencyKey =
        some replayed ∧ replayed.predecessorBindingId = some previous.bindingId ∧
          replayed.requestHash = config.requestHash call.request
    · obtain ⟨replayed, hreplayed, hlink, hhash⟩ := hanswers
      apply safe_undisturbed
      apply Frame.safe_replayReplace config call previous _ hholds
      intro saga hmem hkey hcommitted
      obtain ⟨hsagaMem, hbelongs⟩ := saga_of_part hmem
      have hreplayedKey : replayed.idempotencyKey = call.request.idempotencyKey := by
        simpa using List.find?_some hreplayed
      exact hsaga ⟨⟨previous, hprevious, hid, hreplaced, replayed,
        List.mem_of_find?_eq_some hreplayed, hreplayedKey, hhash, hlink⟩, saga, hsagaMem,
        hkey, hcommitted, hbelongs⟩
    · unfold replayReplace
      cases hreplayed : now.store.byIdempotency call.request.idempotencyKey with
      | none => exact Script.safe_raise
      | some replayed =>
        apply Script.safe_raiseIf_bind
        intro hsame
        simp only [not_or, not_not] at hsame
        exact absurd ⟨replayed, hreplayed, hsame⟩ hanswers
  · apply safe_undisturbed
    have hforeign : (organizationFrame organizationId now.store).kept previous.bindingId =
        false := by
      rw [hid]
      exact hothers
    exact Frame.safe_replaceNew config
      (byOrganization_organizationFrame organizationId now.store)
      (tight_organizationFrame organizationId now.store) call previous hholds hforeign
      (hholds.like previous hprevious hforeign) hfresh

/-- A call of others that is kept away obeys the frame of the organization. -/
theorem safe_keptAway (folding : TextFolding) (hwell : world.store.WellFormed)
    {made : Call S} (hothers : OnOthers organizationId world.store made)
    (haway : KeptAway config organizationId world.store made) :
    (made.script config folding).Safe
      (undisturbed (organizationFrame organizationId world.store)) (fun _ _ => True)
      world := by
  have hholds : (organizationFrame organizationId world.store).Holds world.store :=
    holds_organizationFrame organizationId ⟨world.store, hwell⟩
  have hforeign (hmade : (organizationFrame organizationId world.store).Foreign config made) :
      (made.script config folding).Safe
        (undisturbed (organizationFrame organizationId world.store)) (fun _ _ => True)
        world := by
    have hobeys := Frame.obeys_foreign config folding
      (byOrganization_organizationFrame organizationId world.store)
      (tight_organizationFrame organizationId world.store) hmade
    exact safe_undisturbed (hobeys.safe world hholds)
  cases made with
  | prepare request =>
    apply hforeign
    refine ⟨?_, fresh_of_not_answered hwell haway⟩
    intro binding hsame
    change binding.organizationId ≠ organizationId
    rw [hsame]
    exact hothers
  | attach call => exact hforeign hothers
  | acknowledge ack expectedVersion => exact hforeign hothers
  | checkpoint call => exact hforeign hothers
  | replaceInstance call =>
    apply (safe_replaceInstance config hwell call hothers haway.1 haway.2).bind hholds
    intro _ _ _ _ _
    exact trivial
  | recoverInstance caller missionId ocsId =>
    apply hforeign
    intro row hrow hsame
    obtain ⟨hmem, hkept⟩ := List.mem_filter.mp hrow
    obtain ⟨other, hother, hid, horganization⟩ := belongs_iff.mp hkept
    have hone : other = row := List.inj_on_of_nodup_map hwell.bindings hother hmem hid
    rw [hone, hsame] at horganization
    exact hothers horganization

variable (updatedAt : String → ℕ → Time) (stamps : String → JournalStamp)

theorem SameViews.refl (state : RegistryState) :
    SameViews updatedAt stamps organizationId state state :=
  sameViews_of_holds updatedAt stamps (holds_organizationFrame organizationId state)

variable {updatedAt stamps} in
theorem SameViews.trans {state middle later : RegistryState}
    (h : SameViews updatedAt stamps organizationId state middle)
    (hnext : SameViews updatedAt stamps organizationId middle later) :
    SameViews updatedAt stamps organizationId state later where
  listInstances codec health filters cursor limit now wall :=
    (hnext.listInstances codec health filters cursor limit now wall).trans
      (h.listInstances codec health filters cursor limit now wall)
  get health bindingId now wall :=
    (hnext.get health bindingId now wall).trans (h.get health bindingId now wall)
  lineage health bindingId now wall :=
    (hnext.lineage health bindingId now wall).trans (h.lineage health bindingId now wall)
  comparison health bindingId :=
    (hnext.comparison health bindingId).trans (h.comparison health bindingId)
  recoveryCenter codec health filters cursor limit now wall :=
    (hnext.recoveryCenter codec health filters cursor limit now wall).trans
      (h.recoveryCenter codec health filters cursor limit now wall)
  journalFeed health cursor limit now :=
    (hnext.journalFeed health cursor limit now).trans (h.journalFeed health cursor limit now)

theorem sameViews_operate (folding : TextFolding) {state : RegistryState}
    {operation : Operation S} (hothers : OnOthers organizationId state.store operation.made)
    (haway : KeptAway config organizationId state.store operation.made) :
    SameViews updatedAt stamps organizationId state (operate config folding state operation) := by
  have hsafe := @safe_keptAway _ (operation.world state.store) _ config _ folding
    state.wellFormed _ hothers haway
  have hcrashed := hsafe.crashed (holds_organizationFrame organizationId state) operation.steps
  exact sameViews_of_holds updatedAt stamps hcrashed.1

/-- Through every sequence of calls of other organizations that are all kept away, every
view of the organization stays the same. -/
theorem views_isolated (folding : TextFolding) {state : RegistryState}
    {operations : List (Operation S)}
    (h : Admissible (operate config folding)
      (fun state operation => OnOthers organizationId state.store operation.made ∧
        KeptAway config organizationId state.store operation.made) state operations) :
    SameViews updatedAt stamps organizationId state
      (run (operate config folding) state operations) := by
  apply run_invariant_of_admissible (SameViews updatedAt stamps organizationId state) _
    (.refl updatedAt stamps state) h
  intro middle operation hmiddle hoperation
  exact hmiddle.trans
    (sameViews_operate config updatedAt stamps folding hoperation.1 hoperation.2)

end Calls

/-! ## Two organizations -/

/-- A request of the other organization. -/
def otherRequest (leaseId idempotencyKey : String) (causationId : Option String) :
    PrepareInstanceRequest :=
  { sofiaRequest leaseId idempotencyKey causationId with organizationId := "other" }

def otherLease (leaseId actionBinding : String) : AuthorityLease :=
  { sofiaLease leaseId actionBinding 1 1000 with tenant := "other" }

def otherFirst : PrepareInstanceRequest := otherRequest "lease:bind2" "key:prepare2" none

def otherBinding : String := sofiaConfig.bindingId otherFirst

def otherReplacement (idempotencyKey : String) : ReplaceCall :=
  { bindingId := otherBinding
    request := otherRequest "lease:next2" "key:next2"
      (some (withNumber
        s!"run:REIS OS/other/mission/SOFIA/{otherBinding}/checkpoint:1:9" 2))
    platformInstanceId := "other1", generation := 1, expectedVersion := 5
    idempotencyKey := idempotencyKey }

/-- The first organization's replacement crashes before its last step, and then the
other organization replaces an instance of its own. -/
def sharedRun : List (Happening ℕ) :=
  sofiaReplaced.dropLast ++
    [.crash (.replaceInstance sofiaReplacement) 45,
      .issue 5 (otherLease "lease:bind2" "ocs_instance_binding"),
      .issue 5 (otherLease "lease:cp3" "ocs_instance_checkpoint"),
      .issue 5 (otherLease "lease:next2" "ocs_instance_binding"),
      .call (.prepare otherFirst),
      .call (.attach ⟨otherBinding, ⟨"other1", "SOFIA"⟩, 2, "key:attach3"⟩),
      .call (.acknowledge
        { bindingId := otherBinding, platformInstanceId := "other1", generation := 1
          bootstrapHash := withNumber s!"{otherBinding}/unverified" 33
          identityBindingHash := withNumber "run:REIS OS/other/mission/SOFIA" 32
          challengeNonce := "key:prepare2/lease:bind2", idempotencyKey := "key:ack3" } 3),
      .call (.checkpoint
        { bindingId := otherBinding
          authority := otherRequest "lease:cp3" "key:cp3" none
          platformInstanceId := "other1", generation := 1, expectedVersion := 4, state := 9
          idempotencyKey := "key:cp3" }),
      .call (.replaceInstance (otherReplacement "key:replace2"))]

def sharedRegistry : RegistryState := .ofAlone sofiaConfig plainFolding sharedRun

/-- The other organization repeats its replacement under some key. -/
def otherRepeats (idempotencyKey : String) : Operation ℕ :=
  .within (reachedAlone sofiaConfig plainFolding sharedRun)
    (.replaceInstance (otherReplacement idempotencyKey)) 100

def noStamps : String → JournalStamp := fun _ => ⟨0, 0⟩

theorem views_isolated_repeat :
    Admissible (operate sofiaConfig plainFolding)
        (fun state operation => OnOthers "org" state.store operation.made ∧
          KeptAway sofiaConfig "org" state.store operation.made) sharedRegistry
        [otherRepeats "key:replace2"] ∧
      SameViews versionTime noStamps "org" sharedRegistry
        (run (operate sofiaConfig plainFolding) sharedRegistry
          [otherRepeats "key:replace2"]) := by
  have haway : Admissible (operate sofiaConfig plainFolding)
      (fun state operation => OnOthers "org" state.store operation.made ∧
        KeptAway sofiaConfig "org" state.store operation.made) sharedRegistry
      [otherRepeats "key:replace2"] := by
    have hcalls : belongs "org" sharedRegistry.store otherBinding = false ∧
        ¬ AnsweredBy sofiaConfig "org" sharedRegistry.store
          (otherReplacement "key:replace2").request ∧
        ¬ RepeatsWithSagaOf sofiaConfig "org" sharedRegistry.store
          (otherReplacement "key:replace2") := by decide +kernel
    exact ⟨hcalls, trivial⟩
  exact ⟨haway, views_isolated sofiaConfig versionTime noStamps plainFolding haway⟩

/-- Under the key of the first organization's saga the repeated replacement ends that
saga, and the first organization is shown a recovery. -/
theorem views_not_isolated :
    OnOthers "org" sharedRegistry.store (otherRepeats "key:replace").made ∧
      ¬ SameViews versionTime noStamps "org" sharedRegistry
        (operate sofiaConfig plainFolding sharedRegistry (otherRepeats "key:replace")) := by
  have hrun : belongs "org" sharedRegistry.store otherBinding = false ∧
      ((Registry.ofState versionTime sharedRegistry).comparison .available
        sofiaSuccessor "org").toOption.map (·.verified) = some false ∧
      ((Registry.ofState versionTime (operate sofiaConfig plainFolding sharedRegistry
        (otherRepeats "key:replace"))).comparison .available
        sofiaSuccessor "org").toOption.map (·.verified) = some true := by decide +kernel
  obtain ⟨hothers, hbefore, hafter⟩ := hrun
  refine ⟨hothers, ?_⟩
  intro h
  rw [h.comparison .available sofiaSuccessor, hbefore] at hafter
  cases hafter

end ReisOs.Command
