import ReisOs.Instances.RegistryStates

/-!
# The maturity of a binding

A row is unverified until its worker acknowledges the bootstrap.  The registry keeps this
for first generations; a successor takes over the maturity of its predecessor instead.
The rows of both kinds are described here in every state that processes reach together.
-/

namespace ReisOs.Instances

open ReisOs.Core ReisOs.Kernel World Script

namespace InstanceStore

open InstanceBinding

variable {store written later : InstanceStore} {binding current next : InstanceBinding}

/-! ## Rows before their acknowledgement -/

/-- The statuses before a worker has acknowledged its bootstrap. -/
def awaiting : List InstanceStatus := [.prepared, .persisted, .bound]

/-- The journal of the binding has its acknowledgement. -/
def Acknowledged (store : InstanceStore) (bindingId : String) : Prop :=
  ∃ entry ∈ store.journal, entry.bindingId = bindingId ∧
    entry.eventType = "OCS_BOOTSTRAP_ACKNOWLEDGED"

/-- The maturity that a row has by its status and its predecessor. -/
def Matured (binding : InstanceBinding) : Prop :=
  binding.maturity =
    if binding.status ∈ awaiting ∧ binding.predecessorBindingId = none then
      .preparedUnverified
    else .operationallyBoundL1

theorem matured_active (hactive : binding.status ∉ awaiting) :
    Matured binding ↔ binding.maturity = .operationallyBoundL1 := by
  unfold Matured
  rw [if_neg fun h => hactive h.1]

theorem Matured.keeps (h : Matured current) (hmaturity : next.maturity = current.maturity)
    (hlink : next.predecessorBindingId = current.predecessorBindingId)
    (hstatus : next.status ∈ awaiting ↔ current.status ∈ awaiting) : Matured next := by
  unfold Matured at h ⊢
  rw [hmaturity, h]
  simp only [hlink, hstatus]

structure Ceiled (store : InstanceStore) : Prop where
  ids : (store.bindings.map (·.bindingId)).Nodup
  matured : ∀ row ∈ store.bindings, Matured row
  acknowledged : ∀ row ∈ store.bindings, row.status ∉ awaiting →
    store.Acknowledged row.bindingId

/-- The rows move on and entries are only added. -/
structure Proceeds (store later : InstanceStore) : Prop where
  rows : store.Grows later
  journal : store.journal <+: later.journal

theorem Proceeds.refl (store : InstanceStore) : store.Proceeds store :=
  ⟨.refl store, List.prefix_refl _⟩

theorem Proceeds.trans (h : store.Proceeds written) (hnext : written.Proceeds later) :
    store.Proceeds later :=
  ⟨h.rows.trans hnext.rows, h.journal.trans hnext.journal⟩

theorem Acknowledged.grows {bindingId : String} (h : store.Acknowledged bindingId)
    (hjournal : store.journal <+: later.journal) : later.Acknowledged bindingId := by
  obtain ⟨entry, hentry, hrest⟩ := h
  exact ⟨entry, hjournal.mem hentry, hrest⟩

theorem ceiled_empty : empty.Ceiled where
  ids := List.nodup_nil
  matured := by simp [empty]
  acknowledged := by simp [empty]

/-- The rule of the registry. -/
def maturing : Discipline InstanceStore where
  Inv := Ceiled
  Grows := Proceeds
  Others := Proceeds
  refl := .refl
  trans := .trans
  idle := .refl
  others := id

/-! ## Writes -/

/-- An update of the row that was read, if its version still matches: the row moves to
its new columns and every other row stays. -/
theorem updated_current (hids : (store.bindings.map (·.bindingId)).Nodup)
    (hseen : Seen current store) {columns : InstanceBinding → InstanceBinding}
    (hcolumns : Advances current (columns current)) :
    let bindings := updated store.bindings current.bindingId current.version columns
    (bindings.map (·.bindingId)).Nodup ∧ Grows store { store with bindings := bindings } ∧
      ∀ next ∈ bindings, next ∈ store.bindings ∨
        current ∈ store.bindings ∧ next = columns current := by
  let move (binding : InstanceBinding) : InstanceBinding :=
    if binding.bindingId = current.bindingId ∧ binding.version = current.version then
      columns binding
    else binding
  have hcases (binding : InstanceBinding) (hbinding : binding ∈ store.bindings) :
      binding = current ∧ move binding = columns current ∨ move binding = binding := by
    by_cases hmatches : binding.bindingId = current.bindingId ∧
        binding.version = current.version
    · have hsame := hseen.eq_of_version hids hbinding hmatches.1 hmatches.2
      refine .inl ⟨hsame, ?_⟩
      rw [hsame] at hmatches ⊢
      exact if_pos hmatches
    · exact .inr (if_neg hmatches)
  have hmoves (binding : InstanceBinding) (hbinding : binding ∈ store.bindings) :
      Advances binding (move binding) := by
    rcases hcases binding hbinding with ⟨rfl, hmove⟩ | hmove
    · rw [hmove]
      exact hcolumns
    · rw [hmove]
      exact .refl binding
  refine ⟨?_, grows_moved hmoves rfl, ?_⟩
  · have hsame : (store.bindings.map move).map (·.bindingId) =
        store.bindings.map (·.bindingId) := by
      rw [List.map_map]
      apply List.map_congr_left
      intro binding hbinding
      exact (hmoves binding hbinding).bindingId
    change ((store.bindings.map move).map (·.bindingId)).Nodup
    rw [hsame]
    exact hids
  · intro next hnext
    obtain ⟨binding, hbinding, hmove⟩ := List.mem_map.mp hnext
    change move binding = next at hmove
    rcases hcases binding hbinding with ⟨rfl, hcurrent⟩ | hstays
    · exact .inr ⟨hbinding, hmove.symm.trans hcurrent⟩
    · rw [← hmove, hstays]
      exact .inl hbinding

theorem Ceiled.created (h : store.Ceiled) (hstatus : binding.status = .prepared)
    (hmatured : Matured binding) (hwritten : insertCreated binding store = .ok written) :
    written.Ceiled ∧ store.Proceeds written := by
  obtain ⟨rfl, hfree⟩ := insertCreated_ok hwritten
  have hjournal : store.journal <+: store.journal ++ [event binding "OCS_INSTANCE_PREPARED"
      none s!"{binding.idempotencyKey}:prepared" (.created binding.profileHash)] :=
    List.prefix_append _ _
  refine ⟨⟨?_, ?_, ?_⟩, fun other hother => .of_mem (List.mem_append_left _ hother), hjournal⟩
  · rw [List.map_append, List.nodup_append]
    refine ⟨h.ids, List.nodup_singleton _, ?_⟩
    intro left hleft right hright
    obtain ⟨other, hother, rfl⟩ := List.mem_map.mp hleft
    rw [List.mem_singleton.mp hright]
    have hclash := hfree other hother
    simp only [clashes, Bool.or_eq_false_iff, decide_eq_false_iff_not] at hclash
    exact hclash.1.1.1
  · intro row hrow
    rcases List.mem_append.mp hrow with hold | hnew
    · exact h.matured row hold
    · rw [List.mem_singleton.mp hnew]
      exact hmatured
  · intro row hrow hactive
    rcases List.mem_append.mp hrow with hold | hnew
    · exact (h.acknowledged row hold hactive).grows hjournal
    · rw [List.mem_singleton.mp hnew, hstatus] at hactive
      exact absurd hactive (by decide)

theorem Ceiled.moved (h : store.Ceiled)
    (hrows : ∀ row ∈ later.bindings, row ∈ store.bindings ∨
      current ∈ store.bindings ∧ row = next)
    (hids : (later.bindings.map (·.bindingId)).Nodup)
    (hjournal : store.journal <+: later.journal) (hid : next.bindingId = current.bindingId)
    (hmatured : current ∈ store.bindings → Matured next)
    (hacknowledged : current ∈ store.bindings → next.status ∉ awaiting →
      current.status ∉ awaiting ∨ later.Acknowledged current.bindingId) : later.Ceiled where
  ids := hids
  matured row hrow := by
    rcases hrows row hrow with hold | ⟨hcurrent, rfl⟩
    · exact h.matured row hold
    · exact hmatured hcurrent
  acknowledged row hrow hactive := by
    rcases hrows row hrow with hold | ⟨hcurrent, rfl⟩
    · exact (h.acknowledged row hold hactive).grows hjournal
    · rw [hid]
      rcases hacknowledged hcurrent hactive with hbefore | hnow
      · exact (h.acknowledged current hcurrent hbefore).grows hjournal
      · exact hnow

/-- A transition of the services or of a preparation. -/
def Served (arguments : Transition) : Prop :=
  InService arguments ∨ arguments.target = .persisted ∧ arguments.maturity = none

variable {arguments : Transition}

theorem Served.advances (h : Served arguments)
    (current : InstanceBinding) : Advances current (arguments.columns current) := by
  have htarget : arguments.target ≠ .prepared := by
    rcases h with (⟨htarget, -⟩ | ⟨htarget, -⟩ | ⟨htarget, -⟩) | ⟨htarget, -⟩
    all_goals
      rw [htarget]
      decide
  exact ⟨rfl, Nat.le_succ _, fun hsame => absurd hsame (Nat.succ_ne_self _),
    fun _ => htarget⟩

/-- A transition keeps the maturity of a row, or is its acknowledgement. -/
theorem Served.matured (h : Served arguments)
    (hallowed : arguments.target ∈ allowedTransitions current.status)
    (hmatured : Matured current) :
    Matured (arguments.columns current) ∧
      ((arguments.columns current).status ∉ awaiting →
        current.status ∉ awaiting ∨
          arguments.eventType = "OCS_BOOTSTRAP_ACKNOWLEDGED") := by
  have hstays (hnone : arguments.maturity = none)
      (hsame : arguments.target ∈ awaiting ↔ current.status ∈ awaiting) :
      Matured (arguments.columns current) ∧
        ((arguments.columns current).status ∉ awaiting →
          current.status ∉ awaiting ∨
            arguments.eventType = "OCS_BOOTSTRAP_ACKNOWLEDGED") := by
    constructor
    · refine hmatured.keeps ?_ rfl hsame
      simp only [Transition.columns, hnone, Option.getD_none]
    · intro hactive
      exact .inl fun hwaiting => hactive (hsame.mpr hwaiting)
  rcases h with (⟨htarget, hnone⟩ | ⟨htarget, hbound, hevent⟩ | ⟨htarget, hnone⟩) |
    ⟨htarget, hnone⟩
  · apply hstays hnone
    rw [htarget] at hallowed ⊢
    revert hallowed
    cases current.status <;> decide
  · refine ⟨?_, fun _ => .inr hevent⟩
    have hactive : (arguments.columns current).status ∉ awaiting := by
      simp only [Transition.columns, htarget]
      decide
    rw [matured_active hactive]
    simp only [Transition.columns, hbound, Option.getD_some]
  · apply hstays hnone
    rw [htarget] at hallowed ⊢
    revert hallowed
    cases current.status <;> decide
  · apply hstays hnone
    rw [htarget] at hallowed ⊢
    revert hallowed
    cases current.status <;> decide

theorem Ceiled.transitioned (h : store.Ceiled)
    (hserved : Served arguments) (hseen : Seen current store)
    (hid : current.bindingId = arguments.bindingId)
    (hversion : current.version = arguments.expectedVersion)
    (hallowed : arguments.target ∈ allowedTransitions current.status)
    (hwritten : applyTransition arguments current store = .ok written) :
    written.Ceiled ∧ store.Proceeds written := by
  obtain ⟨rfl, -⟩ := applyTransition_ok hwritten
  have hmoved : Advances current (arguments.overRow current current) :=
    hserved.advances current
  obtain ⟨hids, hgrows, hrows⟩ := updated_current h.ids hseen hmoved
  rw [hid, hversion] at hids hgrows hrows
  have hjournal : store.journal <+: store.journal ++ [event (arguments.columns current)
      arguments.eventType (some current.status) arguments.idempotencyKey
      arguments.requestedPayload] := List.prefix_append _ _
  have hsame : (arguments.overRow current current).bindingId = current.bindingId := rfl
  refine ⟨h.moved hrows hids hjournal hsame ?_ ?_, hgrows, hjournal⟩
  · intro hcurrent
    exact (hserved.matured hallowed (h.matured current hcurrent)).1
  · intro hcurrent hactive
    apply ((hserved.matured hallowed (h.matured current hcurrent)).2 hactive).imp_right
    intro hevent
    exact ⟨_, List.mem_append_right _ (List.mem_singleton_self _), rfl, hevent⟩

theorem Ceiled.replaced (h : store.Ceiled) {arguments : Replacement}
    {predecessor successor : InstanceBinding} (hpredecessor : Seen predecessor store)
    (hsuccessor : Seen successor store)
    (hpredecessorId : predecessor.bindingId = arguments.predecessorId)
    (hsuccessorId : successor.bindingId = arguments.successorId)
    (hversion : predecessor.version = arguments.predecessorExpectedVersion)
    (hsuccessorVersion : successor.version = arguments.successorExpectedVersion)
    (hcheckpointed : predecessor.status = .checkpointed)
    (hprepared : successor.status = .prepared)
    (hwritten : applyReplacement arguments predecessor successor store = .ok written) :
    written.Ceiled ∧ store.Proceeds written := by
  have hwrites := applyReplacement_ok hwritten
  have hfirstMoves : Advances predecessor
      (Replacement.overPredecessor predecessor predecessor) :=
    ⟨rfl, Nat.le_succ _, fun hsame => absurd hsame (Nat.succ_ne_self _), fun _ => by
      simp [Replacement.overPredecessor, Replacement.replaced]⟩
  have hsecondMoves : Advances successor (arguments.overSuccessor successor successor) :=
    ⟨rfl, Nat.le_succ _, fun hsame => absurd hsame (Nat.succ_ne_self _), fun _ => by
      simp [Replacement.overSuccessor, Replacement.persisted]⟩
  obtain ⟨hids, hgrows, hrows⟩ := updated_current h.ids hpredecessor hfirstMoves
  rw [hpredecessorId, hversion] at hids hgrows hrows
  have hmiddle : Ceiled { store with
      bindings := updated store.bindings arguments.predecessorId
        arguments.predecessorExpectedVersion (Replacement.overPredecessor predecessor) } := by
    have hsame : (Replacement.overPredecessor predecessor predecessor).bindingId =
        predecessor.bindingId := rfl
    refine h.moved hrows hids (List.prefix_refl _) hsame ?_ ?_
    · intro hmem
      refine (h.matured predecessor hmem).keeps rfl rfl ?_
      rw [hcheckpointed]
      change InstanceStatus.replaced ∈ awaiting ↔ _
      decide
    · intro _ _
      left
      rw [hcheckpointed]
      decide
  obtain ⟨hlaterIds, hlaterGrows, hlaterRows⟩ :=
    updated_current hmiddle.ids (hsuccessor.grows hgrows) hsecondMoves
  rw [hsuccessorId, hsuccessorVersion] at hlaterIds hlaterGrows hlaterRows
  have hjournal : store.journal <+: written.journal := by
    rw [hwrites, List.append_assoc]
    exact List.prefix_append _ _
  have hbindings : written.bindings = updated
      (updated store.bindings arguments.predecessorId arguments.predecessorExpectedVersion
        (Replacement.overPredecessor predecessor))
      arguments.successorId arguments.successorExpectedVersion
      (arguments.overSuccessor successor) := by
    rw [hwrites]
  refine ⟨?_, ?_, hjournal⟩
  · rw [← hbindings] at hlaterIds hlaterRows
    have hsame : (arguments.overSuccessor successor successor).bindingId =
        successor.bindingId := rfl
    refine hmiddle.moved hlaterRows hlaterIds hjournal hsame ?_ ?_
    · intro hmem
      refine (hmiddle.matured successor hmem).keeps rfl rfl ?_
      rw [hprepared]
      change InstanceStatus.persisted ∈ awaiting ↔ _
      decide
    · intro _ hactive
      have hwaiting : InstanceStatus.persisted ∈ awaiting := by decide
      exact absurd hwaiting hactive
  · intro row hrow
    have hlater := (hgrows.trans hlaterGrows) row hrow
    obtain ⟨final, hfinal, hadvances⟩ := hlater
    exact ⟨final, by rw [hbindings]; exact hfinal, hadvances⟩

/-! ## Methods -/

theorem safe_writes {writes : InstanceStore → Except InstanceError InstanceStore}
    (h : ∀ now after, now.Ceiled → store.Proceeds now → writes now = .ok after →
      after.Ceiled ∧ now.Proceeds after) :
    (commit writes).Safe maturing (fun _ _ => True) store := by
  apply safe_act
  intro now hnow hproceeds
  cases hwritten : writes now with
  | error error => exact ⟨hnow, .refl now, fun _ _ => trivial⟩
  | ok after =>
    obtain ⟨hceiled, hafter⟩ := h now after hnow hproceeds hwritten
    exact ⟨hceiled, hafter, fun _ _ => trivial⟩

theorem safe_lookup {A : Type} (query : InstanceStore → A) :
    (Script.read query : Script InstanceStore InstanceError A).Safe maturing
      (fun found now => query now = found) store :=
  safe_read fun _ _ _ => rfl

theorem maturing_create (binding : InstanceBinding) (hmatured : Matured binding) :
    Obeys maturing (create binding) := by
  constructor
  intro store hstore
  unfold create
  apply safe_raiseIf_bind
  intro hinitial
  have hprepared : binding.status = .prepared := by
    simpa using (not_or.mp hinitial).1
  apply ((obeys_read _).safe store hstore).bind hstore
  intro replay now hnow _ _
  cases replay with
  | some recovered => exact ((obeys_raiseIf _ _).bind fun _ => obeys_pure recovered).safe now hnow
  | none =>
    apply ((obeys_read _).safe now hnow).bind hnow
    intro active probed hprobed _ _
    apply safe_raiseIf_bind
    intro _
    apply ((obeys_checkPredecessor binding).safe probed hprobed).bind hprobed
    intro _ checked hchecked _ _
    have hinsert : (commit (insertCreated binding)).Safe maturing (fun _ _ => True)
        checked :=
      safe_writes fun _ _ hlater _ hwritten => hlater.created hprepared hmatured hwritten
    apply hinsert.bind hchecked
    intro _ later _ _ _
    trivial

theorem maturing_transition (arguments : Transition) (hserved : Served arguments) :
    Obeys maturing (transition arguments) := by
  constructor
  intro store hstore
  unfold transition
  apply ((obeys_read _).safe store hstore).bind hstore
  intro replay now hnow _ _
  cases replay with
  | some replay =>
    exact ((obeys_raiseIf _ _).bind fun _ => obeys_storeGet _).safe now hnow
  | none =>
    have hget : (InstanceStore.get arguments.bindingId).Safe maturing
        (fun current found => current ∈ found.bindings ∧
          current.bindingId = arguments.bindingId) now := by
      apply (safe_lookup _).bind hnow
      intro found later _ _ hfound
      cases found with
      | none => exact safe_raise
      | some current =>
        exact ⟨List.mem_of_find?_eq_some hfound, by simpa using List.find?_some hfound⟩
    apply hget.bind hnow
    intro current found hfound _ hcurrent
    apply safe_raiseIf_bind
    intro hversion
    apply safe_raiseIf_bind
    intro hallowed
    have hmove : (commit (applyTransition arguments current)).Safe maturing
        (fun _ _ => True) found :=
      safe_writes fun _ _ hlater hproceeds hwritten =>
        hlater.transitioned hserved ((Seen.of_mem hcurrent.1).grows hproceeds.rows)
          hcurrent.2 (not_not.mp hversion) (not_not.mp hallowed) hwritten
    apply hmove.bind hfound
    intro _ later _ _ _
    trivial

theorem maturing_commitReplacement (arguments : Replacement) :
    Obeys maturing (commitReplacement arguments) := by
  constructor
  intro store hstore
  unfold commitReplacement
  apply ((obeys_read _).safe store hstore).bind hstore
  intro replay now hnow _ _
  cases replay with
  | some replay =>
    have hreads : Obeys maturing (do
        let predecessor ← get arguments.predecessorId
        let successor ← get arguments.successorId
        return (predecessor, successor)) :=
      (obeys_storeGet _).bind fun _ => (obeys_storeGet _).bind fun _ => obeys_pure _
    exact ((obeys_raiseIf _ _).bind fun _ => hreads).safe now hnow
  | none =>
    apply (safe_lookup _).bind hnow
    intro predecessorRow found hfound _ hpredecessorRow
    apply ((safe_lookup _).since (Proceeds.refl found)).bind hfound
    intro successorRow later hlater _ hsuccessorRow
    cases predecessorRow with
    | none => exact safe_raise
    | some predecessor =>
      cases successorRow with
      | none => exact safe_raise
      | some successor =>
        obtain ⟨hsuccessor, hproceeds⟩ := hsuccessorRow
        apply safe_raiseIf_bind
        intro _
        apply safe_raiseIf_bind
        intro hversions
        simp only [not_or, not_not] at hversions
        apply safe_raiseIf_bind
        intro hcheckpointed
        apply safe_raiseIf_bind
        intro hprepared
        have hpredecessorId : predecessor.bindingId = arguments.predecessorId := by
          simpa using List.find?_some hpredecessorRow
        have hsuccessorId : successor.bindingId = arguments.successorId := by
          simpa using List.find?_some hsuccessor
        have hseen := Seen.of_mem (List.mem_of_find?_eq_some hpredecessorRow)
        have hseenNext := Seen.of_mem (List.mem_of_find?_eq_some hsuccessor)
        have hmove : (commit (applyReplacement arguments predecessor
            successor)).Safe maturing (fun _ _ => True) later :=
          safe_writes fun _ _ hlast hmoves hwritten =>
            hlast.replaced (hseen.grows (hproceeds.rows.trans hmoves.rows))
              (hseenNext.grows hmoves.rows) hpredecessorId hsuccessorId hversions.1
              hversions.2 (not_not.mp hcheckpointed) (not_not.mp hprepared) hwritten
        apply hmove.bind hlater
        intro _ last _ _ _
        trivial

theorem maturing_commit {writes : InstanceStore → Except InstanceError InstanceStore}
    (h : ∀ store written, writes store = .ok written →
      written.bindings = store.bindings ∧ written.journal = store.journal) :
    Obeys maturing (commit writes) := by
  constructor
  intro store _
  apply safe_writes
  intro now after hnow _ hwritten
  obtain ⟨hbindings, hjournal⟩ := h now after hwritten
  have hkept : now.journal <+: after.journal := ⟨[], by rw [hjournal, List.append_nil]⟩
  refine ⟨⟨?_, ?_, ?_⟩, .of_bindings hbindings, hkept⟩
  · rw [hbindings]
    exact hnow.ids
  · rw [hbindings]
    exact hnow.matured
  · rw [hbindings]
    intro row hrow hactive
    exact (hnow.acknowledged row hrow hactive).grows hkept

end InstanceStore

/-! ## Services -/

variable {S : Type} {config : BinderConfig S}

open InstanceStore

instance : AllowsServices (ofStore maturing : Discipline (World S)) where
  commit h := ofStore_onStore (maturing_commit h)
  create binding previous hderived hknown := by
    obtain ⟨world, hworld, hprevious⟩ := hknown
    apply ofStore_onStore
    apply maturing_create
    have hactive : previous.status ∉ awaiting := by
      rw [hderived.checkpointed]
      decide
    have hmatured := hworld.matured previous hprevious
    rw [matured_active hactive] at hmatured
    unfold Matured
    rw [hderived.maturity, hmatured, if_neg]
    rintro ⟨-, hnone⟩
    rw [hderived.link] at hnone
    cases hnone
  transition arguments h := ofStore_onStore (maturing_transition arguments (.inl h))
  commitReplacement arguments := ofStore_onStore (maturing_commitReplacement arguments)

theorem maturing_first (binding : InstanceBinding)
    (hfirst : binding.predecessorBindingId = none)
    (hunverified : binding.maturity = .preparedUnverified) :
    Obeys maturing (create binding) := by
  by_cases hprepared : binding.status = .prepared
  · apply maturing_create
    unfold Matured
    rw [hprepared, hfirst, hunverified, if_pos (by decide)]
  · constructor
    intro store _
    unfold create
    apply safe_raiseIf_bind
    intro hinitial
    have hstatus : binding.status = .prepared := by
      simpa using (not_or.mp hinitial).1
    exact absurd hstatus hprepared

instance : AllowsFirst (ofStore maturing) config where
  create binding hfirst hunverified :=
    ofStore_onStore (maturing_first binding hfirst hunverified)
  transition arguments htarget hnone :=
    ofStore_onStore (maturing_transition arguments (.inr ⟨htarget, hnone⟩))
  persistState := ofStore_persistState
  activeIdentity := ofStore_activeIdentity

theorem obeys_maturing [DecidableEq S] (config : BinderConfig S) (folding : TextFolding)
    (made : Call S) : Obeys (ofStore maturing) (made.script config folding) :=
  obeys_script config folding obeys_preparation made

/-! ## Every run -/

/-- The rule of the registry for a pool. -/
def maturingPool : PoolRule (InstanceStore × Hazel S) Own where
  Common common := common.1.Ceiled
  Own _ := True
  Grows common later := common.1.Proceeds later.1
  refl common := .refl common.1
  trans := .trans

theorem turns_mature [DecidableEq S] (config : BinderConfig S) (folding : TextFolding)
    (event : Event S) :
    ∀ next ∈ event.turns config folding, Pool.Allowed parts maturingPool next := by
  intro next hnext
  cases event with
  | call process made =>
    rw [List.mem_singleton.mp hnext]
    intro world hworld
    apply ((obeys_maturing config folding made).safe world hworld.1).weaken
    · exact fun _ => ⟨And.left, fun hnow => ⟨hnow, trivial⟩⟩
    · exact fun _ _ => id
    · exact fun _ _ => id
  | step process =>
    rw [List.mem_singleton.mp hnext]
    trivial
  | crash process =>
    rcases List.mem_pair.mp hnext with rfl | rfl
    · trivial
    · exact fun _ => id
  | leases process manager =>
    rw [List.mem_singleton.mp hnext]
    exact fun _ => id
  | clock process readings =>
    rw [List.mem_singleton.mp hnext]
    exact fun _ => id

theorem ceiled_reached [DecidableEq S] (config : BinderConfig S) (folding : TextFolding)
    (events : List (Event S)) : (reached config folding events).common.1.Ceiled := by
  have hidle : (idleProcesses : Processes S).Orderly parts maturingPool := by
    refine ⟨ceiled_empty, fun _ => trivial, ?_⟩
    simp [idleProcesses]
  have hturns : ∀ next ∈ events.flatMap (·.turns config folding),
      Pool.Allowed parts maturingPool next := by
    intro next hnext
    obtain ⟨event, -, hturn⟩ := List.mem_flatMap.mp hnext
    exact turns_mature config folding event next hturn
  exact (hidle.run hturns).common

/-- The binding claims no more than its journal shows. -/
structure WithinCeiling (store : InstanceStore) (binding : InstanceBinding) : Prop where
  acknowledged : binding.maturity = .operationallyBoundL1 →
    store.Acknowledged binding.bindingId
  unverified : binding.status ∈ awaiting → binding.maturity = .preparedUnverified

theorem InstanceStore.Ceiled.withinCeiling_iff {store : InstanceStore} (h : store.Ceiled)
    {binding : InstanceBinding} (hbinding : binding ∈ store.bindings) :
    WithinCeiling store binding ↔
      (binding.status ∈ awaiting → binding.predecessorBindingId = none) := by
  have hmatured := h.matured binding hbinding
  unfold Matured at hmatured
  constructor
  · intro hwithin hwaiting
    by_contra hsuccessor
    rw [if_neg fun hboth => hsuccessor hboth.2, hwithin.unverified hwaiting] at hmatured
    cases hmatured
  · intro hfirst
    by_cases hwaiting : binding.status ∈ awaiting
    · rw [if_pos ⟨hwaiting, hfirst hwaiting⟩] at hmatured
      constructor
      · intro hbound
        rw [hmatured] at hbound
        cases hbound
      · exact fun _ => hmatured
    · exact ⟨fun _ => h.acknowledged binding hbinding hwaiting,
        fun hstatus => absurd hstatus hwaiting⟩

/-- The leases of the first worker and of the one that replaces it. -/
def sofiaLeases : AuthorityLeaseManager :=
  [sofiaLease "lease:bind" "ocs_instance_binding" 1 1000,
    sofiaLease "lease:cp" "ocs_instance_checkpoint" 1 1000,
    sofiaLease "lease:next" "ocs_instance_binding" 1 1000].foldl
    (fun manager lease => afterLeases manager (manager.issue 5 lease)) .empty

/-- The first worker is prepared, attached, acknowledged, checkpointed and replaced. -/
def sofiaReplacing : List (Call ℕ) :=
  [.prepare sofiaFirst, .attach sofiaAttach, .acknowledge sofiaAck 3,
    .checkpoint
      { bindingId := sofiaBinding
        authority := sofiaRequest "lease:cp" "key:cp" none
        platformInstanceId := "worker", generation := 1, expectedVersion := 4, state := 7
        idempotencyKey := "key:cp" },
    .replaceInstance
      { bindingId := sofiaBinding
        request := sofiaRequest "lease:next" "key:next"
          (some (withNumber
            s!"run:REIS OS/org/mission/SOFIA/{sofiaBinding}/checkpoint:1:7" 2))
        platformInstanceId := "worker", generation := 1, expectedVersion := 5
        idempotencyKey := "key:replace" }]

/-- The calls one after the other, each with steps enough to end. -/
def sofiaEvents : List (Event ℕ) :=
  [.clock 0 fun index => 10 + index, .leases 0 sofiaLeases] ++
    sofiaReplacing.flatMap fun made => .call 0 made :: List.replicate 64 (.step 0)

/-- A row that is persisted as operationally bound without an acknowledgement. -/
def unacknowledged (store : InstanceStore) (binding : InstanceBinding) : Bool :=
  binding.status = .persisted && binding.maturity = .operationallyBoundL1 &&
    store.journal.all fun entry =>
      entry.bindingId ≠ binding.bindingId ||
        entry.eventType ≠ "OCS_BOOTSTRAP_ACKNOWLEDGED"

end ReisOs.Instances
