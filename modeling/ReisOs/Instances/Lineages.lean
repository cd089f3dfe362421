import Mathlib.Data.List.MinMax
import Mathlib.Order.Nat
import ReisOs.Instances.Binder
import ReisOs.Instances.JournalFidelity

/-!
# Lineages of generations

How a row of the registry may change, and the shape that the rows of every
mission-scoped OCS keep: one chain of generations in which all but the newest are
replaced or about to be.
-/

namespace ReisOs.Instances

open ReisOs.Core ReisOs.Kernel

/-! ## Rows -/

namespace InstanceBinding

/-- The columns that no write of the registry touches after the row is there. -/
def fixed (binding : InstanceBinding) : InstanceBinding :=
  { binding with
    maturity := .preparedUnverified
    platformInstanceId := none
    status := .prepared
    version := 0
    checkpointVersion := 0
    checkpointHash := none
    hazelEventHash := none }

/-- The mission-scoped OCS that a row belongs to. -/
def mission (binding : InstanceBinding) : String × String × String :=
  (binding.organizationId, binding.missionId, binding.ocsId)

/-- `later` is a later state of the same row; a version names one state of it. -/
structure Advances (earlier later : InstanceBinding) : Prop where
  fixed : later.fixed = earlier.fixed
  version : earlier.version ≤ later.version
  same : later.version = earlier.version → later = earlier
  begun : earlier.status ≠ .prepared → later.status ≠ .prepared

variable {earlier middle later binding predecessor : InstanceBinding}

theorem Advances.refl (binding : InstanceBinding) : Advances binding binding :=
  ⟨rfl, Nat.le_refl _, fun _ => rfl, id⟩

theorem Advances.trans (h : Advances earlier middle) (hnext : Advances middle later) :
    Advances earlier later where
  fixed := hnext.fixed.trans h.fixed
  version := h.version.trans hnext.version
  same hversion := by
    have hmiddle : middle.version = earlier.version := by
      have := h.version
      have := hnext.version
      omega
    rw [hnext.same (hversion.trans hmiddle.symm), h.same hmiddle]
  begun hbegun := hnext.begun (h.begun hbegun)

theorem column_of_fixed {A : Type} (h : later.fixed = earlier.fixed)
    (column : InstanceBinding → A)
    (hcolumn : ∀ binding, column binding.fixed = column binding) :
    column later = column earlier := by
  rw [← hcolumn later, h, hcolumn]

theorem Advances.column {A : Type} (h : Advances earlier later)
    (column : InstanceBinding → A)
    (hcolumn : ∀ binding, column binding.fixed = column binding) :
    column later = column earlier := column_of_fixed h.fixed column hcolumn

theorem Advances.bindingId (h : Advances earlier later) :
    later.bindingId = earlier.bindingId := h.column (·.bindingId) fun _ => rfl

theorem Advances.runId (h : Advances earlier later) : later.runId = earlier.runId :=
  h.column (·.runId) fun _ => rfl

theorem Advances.generation (h : Advances earlier later) :
    later.generation = earlier.generation := h.column (·.generation) fun _ => rfl

theorem Advances.predecessorBindingId (h : Advances earlier later) :
    later.predecessorBindingId = earlier.predecessorBindingId :=
  h.column (·.predecessorBindingId) fun _ => rfl

theorem Advances.mission (h : Advances earlier later) : later.mission = earlier.mission :=
  h.column (·.mission) fun _ => rfl

end InstanceBinding

namespace InstanceStore

open InstanceBinding

theorem sameLineage_of_fixed {binding binding' predecessor predecessor' : InstanceBinding}
    (h : binding'.fixed = binding.fixed)
    (hpredecessor : predecessor'.fixed = predecessor.fixed) :
    sameLineage binding' predecessor' = sameLineage binding predecessor := by
  change sameLineage binding'.fixed predecessor'.fixed =
    sameLineage binding.fixed predecessor.fixed
  rw [h, hpredecessor]

theorem sameLineage_mission {binding predecessor : InstanceBinding}
    (h : sameLineage binding predecessor = true) : binding.mission = predecessor.mission := by
  simp only [sameLineage, Bool.and_eq_true, decide_eq_true_eq] at h
  simp only [mission, h]

theorem sameLineage_runId {binding predecessor : InstanceBinding}
    (h : sameLineage binding predecessor = true) : binding.runId = predecessor.runId := by
  simp only [sameLineage, Bool.and_eq_true, decide_eq_true_eq] at h
  simp only [h]

theorem sameLineage_generation {binding predecessor : InstanceBinding}
    (h : sameLineage binding predecessor = true) :
    binding.generation = predecessor.generation + 1 := by
  simp only [sameLineage, Bool.and_eq_true, decide_eq_true_eq] at h
  exact h.2

/-- A row in some state that the registry has reached or passed. -/
def Seen (binding : InstanceBinding) (store : InstanceStore) : Prop :=
  ∃ row ∈ store.bindings, Advances binding row

/-- No row is lost and every row moves on. -/
def Grows (store later : InstanceStore) : Prop :=
  ∀ binding ∈ store.bindings, Seen binding later

variable {store written later : InstanceStore} {binding current : InstanceBinding}

theorem Seen.of_mem (h : binding ∈ store.bindings) : Seen binding store :=
  ⟨binding, h, .refl binding⟩

theorem Seen.grows (h : Seen binding store) (hgrows : Grows store later) :
    Seen binding later := by
  obtain ⟨row, hrow, hadvances⟩ := h
  obtain ⟨next, hnext, hmoves⟩ := hgrows row hrow
  exact ⟨next, hnext, hadvances.trans hmoves⟩

theorem Grows.refl (store : InstanceStore) : Grows store store := fun _ => .of_mem

theorem Grows.trans (h : Grows store written) (hnext : Grows written later) :
    Grows store later := fun binding hbinding => (h binding hbinding).grows hnext

theorem Grows.of_bindings (h : later.bindings = store.bindings) : Grows store later := by
  intro binding hbinding
  rw [← h] at hbinding
  exact .of_mem hbinding

theorem Seen.eq_of_version (h : Seen current store)
    (hids : (store.bindings.map (·.bindingId)).Nodup) (hbinding : binding ∈ store.bindings)
    (hid : binding.bindingId = current.bindingId)
    (hversion : binding.version = current.version) : binding = current := by
  obtain ⟨row, hrow, hadvances⟩ := h
  have hsame : binding = row :=
    List.inj_on_of_nodup_map hids hbinding hrow (hid.trans hadvances.bindingId.symm)
  rw [hsame] at hversion ⊢
  exact hadvances.same hversion

/-! ## Chains of generations -/

/-- The binding is the first of its lineage. -/
def Genesis (bindingId : String) (store : InstanceStore) : Prop :=
  ∃ binding ∈ store.bindings, binding.bindingId = bindingId ∧
    binding.predecessorBindingId = none

theorem Genesis.grows {bindingId : String} (h : Genesis bindingId store)
    (hgrows : Grows store later) : Genesis bindingId later := by
  obtain ⟨binding, hbinding, hid, hlink⟩ := h
  obtain ⟨row, hrow, hadvances⟩ := hgrows binding hbinding
  exact ⟨row, hrow, hadvances.bindingId.trans hid,
    hadvances.predecessorBindingId.trans hlink⟩

/-- The statuses that the services give. -/
def inService : List InstanceStatus :=
  [.prepared, .persisted, .bound, .active, .checkpointed, .replaced]

variable {S : Type}

/-- The rows of each mission-scoped OCS form one chain, and Hazel knows the run of
every row that is past its preparation. -/
structure Lineages (store : InstanceStore) (hazel : Hazel S) : Prop where
  ids : (store.bindings.map (·.bindingId)).Nodup
  generations : ∀ binding ∈ store.bindings, ∀ other ∈ store.bindings,
    binding.mission = other.mission → binding.generation = other.generation →
      binding = other
  statuses : ∀ binding ∈ store.bindings, binding.status ∈ inService
  first : ∀ binding ∈ store.bindings, binding.predecessorBindingId = none →
    binding.generation = 1
  successor : ∀ binding ∈ store.bindings, ∀ predecessorId,
    binding.predecessorBindingId = some predecessorId →
      ∃ predecessor ∈ store.bindings, predecessor.bindingId = predecessorId ∧
        sameLineage binding predecessor = true ∧ predecessor.status ≠ .prepared ∧
        (binding.status ≠ .prepared → predecessor.status = .replaced)
  replaced : ∀ binding ∈ store.bindings, binding.status = .replaced →
    ∃ next ∈ store.bindings, next.predecessorBindingId = some binding.bindingId ∧
      next.status ≠ .prepared
  known : ∀ binding ∈ store.bindings, binding.status ≠ .prepared →
    (hazel.lookup binding.runId).isSome
  genesis : ∀ runId record binding, hazel.lookup runId = some record →
    record.payload = some (preparedState binding) → Genesis binding.bindingId store
  named : ∀ runId record, hazel.lookup runId = some record → record.eventHash.isSome

variable {hazel : Hazel S}

theorem lineages_empty : Lineages empty (∅ : Hazel S) where
  ids := by simp [empty]
  generations := by simp [empty]
  statuses := by simp [empty]
  first := by simp [empty]
  successor := by simp [empty]
  replaced := by simp [empty]
  known := by simp [empty]
  genesis := by simp
  named := by simp

/-- Some row belongs to the mission-scoped OCS. -/
def Occupied (mission : String × String × String) (store : InstanceStore) : Prop :=
  ∃ binding ∈ store.bindings, binding.mission = mission

theorem Occupied.grows {mission : String × String × String} (h : Occupied mission store)
    (hgrows : Grows store later) : Occupied mission later := by
  obtain ⟨binding, hbinding, hmission⟩ := h
  obtain ⟨row, hrow, hadvances⟩ := hgrows binding hbinding
  exact ⟨row, hrow, hadvances.mission.trans hmission⟩

theorem latest_or_occupied (store : InstanceStore) (organizationId missionId ocsId : String) :
    store.latestGeneration organizationId missionId ocsId = 0 ∨
      Occupied (organizationId, missionId, ocsId) store := by
  cases hrows : store.lineage organizationId missionId ocsId with
  | nil => exact .inl (by rw [latestGeneration, hrows]; rfl)
  | cons binding rest =>
    right
    have hmem : binding ∈ store.lineage organizationId missionId ocsId := by
      rw [hrows]
      exact List.mem_cons_self
    rw [lineage, List.mem_filter, decide_eq_true_iff] at hmem
    refine ⟨binding, hmem.1, ?_⟩
    simp only [mission, hmem.2]

theorem Lineages.contiguous (h : Lineages store hazel) (hbinding : binding ∈ store.bindings)
    {generation : ℕ} (hpositive : 1 ≤ generation) (hle : generation ≤ binding.generation) :
    ∃ row ∈ store.bindings, row.mission = binding.mission ∧ row.generation = generation := by
  induction hcount : binding.generation - generation generalizing binding with
  | zero => exact ⟨binding, hbinding, rfl, by omega⟩
  | succ count ih =>
    cases hlink : binding.predecessorBindingId with
    | none =>
      have := h.first binding hbinding hlink
      omega
    | some predecessorId =>
      obtain ⟨predecessor, hpredecessor, -, hlineage, -⟩ :=
        h.successor binding hbinding predecessorId hlink
      have hnumber := sameLineage_generation hlineage
      obtain ⟨row, hrow, hmission, hgeneration⟩ :=
        ih hpredecessor (by omega) (by omega)
      exact ⟨row, hrow, hmission.trans (sameLineage_mission hlineage).symm, hgeneration⟩

theorem Lineages.positive (h : Lineages store hazel) (hbinding : binding ∈ store.bindings) :
    1 ≤ binding.generation := by
  cases hlink : binding.predecessorBindingId with
  | none => rw [h.first binding hbinding hlink]
  | some predecessorId =>
    obtain ⟨predecessor, -, -, hlineage, -⟩ :=
      h.successor binding hbinding predecessorId hlink
    rw [sameLineage_generation hlineage]
    omega

theorem Lineages.below_replaced (h : Lineages store hazel)
    (hbinding : binding ∈ store.bindings) (hbegun : binding.status ≠ .prepared)
    {other : InstanceBinding} (hother : other ∈ store.bindings)
    (hmission : other.mission = binding.mission)
    (hlt : other.generation < binding.generation) : other.status = .replaced := by
  induction hcount : binding.generation - other.generation generalizing binding with
  | zero => omega
  | succ count ih =>
    cases hlink : binding.predecessorBindingId with
    | none =>
      have := h.first binding hbinding hlink
      have := h.positive hother
      omega
    | some predecessorId =>
      obtain ⟨predecessor, hpredecessor, -, hlineage, -, hreplaced⟩ :=
        h.successor binding hbinding predecessorId hlink
      have hnumber := sameLineage_generation hlineage
      have hsame := hmission.trans (sameLineage_mission hlineage)
      by_cases hequal : other.generation = predecessor.generation
      · rw [h.generations other hother predecessor hpredecessor hsame hequal]
        exact hreplaced hbegun
      · apply ih hpredecessor _ hsame (by omega) (by omega)
        rw [hreplaced hbegun]
        decide

theorem generation_le_latest (hbinding : binding ∈ store.bindings) :
    binding.generation ≤ store.latestGeneration binding.organizationId binding.missionId
      binding.ocsId := by
  have hmem : binding ∈ store.lineage binding.organizationId binding.missionId
      binding.ocsId := by
    rw [lineage, List.mem_filter]
    exact ⟨hbinding, by simp⟩
  exact List.le_max_of_le (List.mem_map_of_mem hmem) (Nat.le_refl _)

theorem Lineages.live (h : Lineages store hazel) (hbinding : binding ∈ store.bindings) :
    ∃ row ∈ store.bindings, row.mission = binding.mission ∧ isLive row.status = true := by
  induction hcount : store.latestGeneration binding.organizationId binding.missionId
      binding.ocsId - binding.generation using Nat.strong_induction_on
      generalizing binding with
  | _ count ih =>
    by_cases hreplaced : binding.status = .replaced
    · obtain ⟨next, hnext, hlink, -⟩ := h.replaced binding hbinding hreplaced
      obtain ⟨predecessor, hpredecessor, hid, hlineage, -⟩ :=
        h.successor next hnext binding.bindingId hlink
      rw [List.inj_on_of_nodup_map h.ids hpredecessor hbinding hid] at hlineage
      have hnumber := sameLineage_generation hlineage
      have hmission := sameLineage_mission hlineage
      have hle := generation_le_latest hnext
      simp only [mission, Prod.mk.injEq] at hmission
      obtain ⟨row, hrow, hsame, hlive⟩ := ih _ (by
        rw [hmission.1, hmission.2.1, hmission.2.2] at hle ⊢
        omega) hnext rfl
      exact ⟨row, hrow, hsame.trans (sameLineage_mission hlineage), hlive⟩
    · refine ⟨binding, hbinding, rfl, ?_⟩
      have hstatus := h.statuses binding hbinding
      revert hstatus hreplaced
      cases binding.status <;> decide

theorem Lineages.not_occupied (h : Lineages store hazel) {organizationId missionId
    ocsId : String} (hactive : store.activeRow organizationId missionId ocsId = none) :
    ¬ Occupied (organizationId, missionId, ocsId) store := by
  rintro ⟨binding, hbinding, hmission⟩
  obtain ⟨row, hrow, hsame, hlive⟩ := h.live hbinding
  rw [hmission] at hsame
  simp only [mission, Prod.mk.injEq] at hsame
  apply List.find?_eq_none.mp hactive row _ hlive
  rw [lineage, List.mem_filter]
  exact ⟨hrow, by simpa using hsame⟩

theorem Lineages.known_of_predecessor (h : Lineages store hazel)
    (hbinding : binding ∈ store.bindings) {predecessorId : String}
    (hlink : binding.predecessorBindingId = some predecessorId) :
    (hazel.lookup binding.runId).isSome := by
  obtain ⟨predecessor, hpredecessor, -, hlineage, hbegun, -⟩ :=
    h.successor binding hbinding predecessorId hlink
  rw [sameLineage_runId hlineage]
  exact h.known predecessor hpredecessor hbegun

/-! ## Writes -/

/-- Hazel accepts an event of a run: a preparation only of the first generation. -/
theorem Lineages.persisted (h : Lineages store hazel) {runId : String}
    {record : HazelRecord (HazelPayload S)} (hnamed : record.eventHash.isSome)
    (hgenesis : ∀ binding, record.payload = some (preparedState binding) →
      Genesis binding.bindingId store) : Lineages store (hazel.insert runId record) where
  ids := h.ids
  generations := h.generations
  statuses := h.statuses
  first := h.first
  successor := h.successor
  replaced := h.replaced
  known binding hbinding hbegun := by
    rw [Dict.lookup_insert_eq]
    split
    · rfl
    · exact h.known binding hbinding hbegun
  genesis other found binding hfound hpayload := by
    rw [Dict.lookup_insert_eq] at hfound
    split at hfound
    · cases hfound
      exact hgenesis binding hpayload
    · exact h.genesis other found binding hfound hpayload
  named other found hfound := by
    rw [Dict.lookup_insert_eq] at hfound
    split at hfound
    · cases hfound
      exact hnamed
    · exact h.named other found hfound

theorem grows_moved {move : InstanceBinding → InstanceBinding}
    (hmoves : ∀ binding ∈ store.bindings, Advances binding (move binding))
    (hwritten : written.bindings = store.bindings.map move) : Grows store written := by
  intro binding hbinding
  refine ⟨move binding, ?_, hmoves binding hbinding⟩
  rw [hwritten]
  exact List.mem_map_of_mem hbinding

/-- Rows that move on, one at a time or two together. -/
theorem Lineages.moved (h : Lineages store hazel) {move : InstanceBinding → InstanceBinding}
    (hmoves : ∀ binding ∈ store.bindings, Advances binding (move binding))
    (hstatuses : ∀ binding ∈ store.bindings, (move binding).status ∈ inService)
    (hsuccessor : ∀ binding ∈ store.bindings, ∀ predecessor ∈ store.bindings,
      binding.predecessorBindingId = some predecessor.bindingId →
      (move binding).status ≠ .prepared → (move predecessor).status = .replaced)
    (hreplaced : ∀ binding ∈ store.bindings, (move binding).status = .replaced →
      ∃ next ∈ store.bindings, next.predecessorBindingId = some binding.bindingId ∧
        (move next).status ≠ .prepared)
    (hknown : ∀ binding ∈ store.bindings, (move binding).status ≠ .prepared →
      (hazel.lookup binding.runId).isSome)
    (hwritten : written.bindings = store.bindings.map move) : Lineages written hazel := by
  have hmem {row : InstanceBinding} (hrow : row ∈ written.bindings) :
      ∃ binding ∈ store.bindings, move binding = row := by
    rw [hwritten] at hrow
    exact List.mem_map.mp hrow
  have hmoved {binding : InstanceBinding} (hbinding : binding ∈ store.bindings) :
      move binding ∈ written.bindings := by
    rw [hwritten]
    exact List.mem_map_of_mem hbinding
  constructor
  · rw [hwritten, List.map_map]
    have hids : store.bindings.map ((·.bindingId) ∘ move) =
        store.bindings.map (·.bindingId) :=
      List.map_congr_left fun binding hbinding => (hmoves binding hbinding).bindingId
    rw [hids]
    exact h.ids
  · intro row hrow other hother hmission hgeneration
    obtain ⟨binding, hbinding, rfl⟩ := hmem hrow
    obtain ⟨second, hsecond, rfl⟩ := hmem hother
    rw [(hmoves binding hbinding).mission, (hmoves second hsecond).mission] at hmission
    rw [(hmoves binding hbinding).generation, (hmoves second hsecond).generation]
      at hgeneration
    rw [h.generations binding hbinding second hsecond hmission hgeneration]
  · intro row hrow
    obtain ⟨binding, hbinding, rfl⟩ := hmem hrow
    exact hstatuses binding hbinding
  · intro row hrow hlink
    obtain ⟨binding, hbinding, rfl⟩ := hmem hrow
    rw [(hmoves binding hbinding).predecessorBindingId] at hlink
    rw [(hmoves binding hbinding).generation]
    exact h.first binding hbinding hlink
  · intro row hrow predecessorId hlink
    obtain ⟨binding, hbinding, rfl⟩ := hmem hrow
    rw [(hmoves binding hbinding).predecessorBindingId] at hlink
    obtain ⟨predecessor, hpredecessor, hid, hlineage, hbegun, -⟩ :=
      h.successor binding hbinding predecessorId hlink
    refine ⟨move predecessor, hmoved hpredecessor, ?_, ?_, ?_, ?_⟩
    · rw [(hmoves predecessor hpredecessor).bindingId, hid]
    · rw [sameLineage_of_fixed (hmoves binding hbinding).fixed
        (hmoves predecessor hpredecessor).fixed]
      exact hlineage
    · exact (hmoves predecessor hpredecessor).begun hbegun
    · intro hstatus
      exact hsuccessor binding hbinding predecessor hpredecessor (hid ▸ hlink) hstatus
  · intro row hrow hstatus
    obtain ⟨binding, hbinding, rfl⟩ := hmem hrow
    obtain ⟨next, hnext, hlink, hbegun⟩ := hreplaced binding hbinding hstatus
    refine ⟨move next, hmoved hnext, ?_, hbegun⟩
    rw [(hmoves next hnext).predecessorBindingId, (hmoves binding hbinding).bindingId]
    exact hlink
  · intro row hrow hstatus
    obtain ⟨binding, hbinding, rfl⟩ := hmem hrow
    rw [(hmoves binding hbinding).runId]
    exact hknown binding hbinding hstatus
  · intro runId record binding hrecord hpayload
    exact (h.genesis runId record binding hrecord hpayload).grows
      (grows_moved hmoves hwritten)
  · exact h.named

/-- What a row needs to be the next of its lineage: nothing before it, or a predecessor
that is past its preparation. -/
def Fits (binding : InstanceBinding) (store : InstanceStore) : Prop :=
  (binding.predecessorBindingId = none → binding.generation = 1) ∧
    ∀ predecessorId, binding.predecessorBindingId = some predecessorId →
      ∃ predecessor ∈ store.bindings, predecessor.bindingId = predecessorId ∧
        sameLineage binding predecessor = true ∧ predecessor.status ≠ .prepared

theorem Fits.grows (h : Fits binding store) (hgrows : Grows store later) :
    Fits binding later := by
  refine ⟨h.1, ?_⟩
  intro predecessorId hlink
  obtain ⟨predecessor, hpredecessor, hid, hlineage, hbegun⟩ := h.2 predecessorId hlink
  obtain ⟨row, hrow, hadvances⟩ := hgrows predecessor hpredecessor
  refine ⟨row, hrow, hadvances.bindingId.trans hid, ?_, hadvances.begun hbegun⟩
  rw [sameLineage_of_fixed rfl hadvances.fixed]
  exact hlineage

theorem Lineages.created (h : Lineages store hazel) (hstatus : binding.status = .prepared)
    (hfits : Fits binding store) (hwritten : insertCreated binding store = .ok written) :
    Lineages written hazel ∧ Grows store written := by
  obtain ⟨rfl, hfree⟩ := insertCreated_ok hwritten
  have hfresh (other : InstanceBinding) (hother : other ∈ store.bindings) :
      other.bindingId ≠ binding.bindingId ∧
        ¬ (other.mission = binding.mission ∧ other.generation = binding.generation) := by
    have hclash := hfree other hother
    simp only [clashes, Bool.or_eq_false_iff, decide_eq_false_iff_not] at hclash
    refine ⟨hclash.1.1.1, ?_⟩
    rintro ⟨hmission, hgeneration⟩
    simp only [mission, Prod.mk.injEq] at hmission
    simp [hmission, hgeneration] at hclash
  have hgrows : Grows store { store with
      bindings := store.bindings ++ [binding]
      journal := store.journal ++ [event binding "OCS_INSTANCE_PREPARED" none
        s!"{binding.idempotencyKey}:prepared" (.created binding.profileHash)] } :=
    fun other hother => .of_mem (List.mem_append_left _ hother)
  refine ⟨?_, hgrows⟩
  have hmem {row : InstanceBinding} (hrow : row ∈ store.bindings ++ [binding]) :
      row ∈ store.bindings ∨ row = binding := by
    simpa using hrow
  constructor
  · rw [List.map_append, List.nodup_append]
    refine ⟨h.ids, by simp, ?_⟩
    intro left hleft right hright
    obtain ⟨other, hother, rfl⟩ := List.mem_map.mp hleft
    rw [List.mem_singleton.mp hright]
    exact (hfresh other hother).1
  · intro row hrow other hother hmission hgeneration
    rcases hmem hrow with hold | rfl
    · rcases hmem hother with hsecond | rfl
      · exact h.generations row hold other hsecond hmission hgeneration
      · exact ((hfresh row hold).2 ⟨hmission, hgeneration⟩).elim
    · rcases hmem hother with hsecond | rfl
      · exact ((hfresh other hsecond).2 ⟨hmission.symm, hgeneration.symm⟩).elim
      · rfl
  · intro row hrow
    rcases hmem hrow with hold | rfl
    · exact h.statuses row hold
    · rw [hstatus]
      decide
  · intro row hrow hlink
    rcases hmem hrow with hold | rfl
    · exact h.first row hold hlink
    · exact hfits.1 hlink
  · intro row hrow predecessorId hlink
    rcases hmem hrow with hold | rfl
    · obtain ⟨predecessor, hpredecessor, hrest⟩ := h.successor row hold predecessorId hlink
      exact ⟨predecessor, List.mem_append_left _ hpredecessor, hrest⟩
    · obtain ⟨predecessor, hpredecessor, hid, hlineage, hbegun⟩ := hfits.2 predecessorId hlink
      exact ⟨predecessor, List.mem_append_left _ hpredecessor, hid, hlineage, hbegun,
        fun hnot => (hnot hstatus).elim⟩
  · intro row hrow hreplaced
    rcases hmem hrow with hold | rfl
    · obtain ⟨next, hnext, hrest⟩ := h.replaced row hold hreplaced
      exact ⟨next, List.mem_append_left _ hnext, hrest⟩
    · rw [hstatus] at hreplaced
      cases hreplaced
  · intro row hrow hbegun
    rcases hmem hrow with hold | rfl
    · exact h.known row hold hbegun
    · exact (hbegun hstatus).elim
  · intro runId record other hrecord hpayload
    exact (h.genesis runId record other hrecord hpayload).grows hgrows
  · exact h.named

/-- The statuses to which the services move a row by `transition`. -/
def inTransition : List InstanceStatus := [.persisted, .bound, .active, .checkpointed]

/-- The row of a first generation whose run Hazel has. -/
def Persistable (bindingId : String) (store : InstanceStore) (hazel : Hazel S) : Prop :=
  ∃ row ∈ store.bindings, row.bindingId = bindingId ∧ row.predecessorBindingId = none ∧
    (hazel.lookup row.runId).isSome

theorem Persistable.grows {bindingId : String} (h : Persistable bindingId store hazel)
    {later : InstanceStore} {laterHazel : Hazel S} (hgrows : Grows store later)
    (hhazel : ∀ runId, (hazel.lookup runId).isSome → (laterHazel.lookup runId).isSome) :
    Persistable bindingId later laterHazel := by
  obtain ⟨binding, hbinding, hid, hlink, hknown⟩ := h
  obtain ⟨row, hrow, hadvances⟩ := hgrows binding hbinding
  refine ⟨row, hrow, hadvances.bindingId.trans hid,
    hadvances.predecessorBindingId.trans hlink, ?_⟩
  rw [hadvances.runId]
  exact hhazel binding.runId hknown

theorem Lineages.transitioned (h : Lineages store hazel) {arguments : Transition}
    (hseen : Seen current store) (hid : current.bindingId = arguments.bindingId)
    (hversion : current.version = arguments.expectedVersion)
    (hallowed : arguments.target ∈ allowedTransitions current.status)
    (htarget : arguments.target ∈ inTransition)
    (hpersisted : arguments.target = .persisted →
      Persistable arguments.bindingId store hazel)
    (hwritten : applyTransition arguments current store = .ok written) :
    Lineages written hazel ∧ Grows store written := by
  obtain ⟨rfl, -⟩ := applyTransition_ok hwritten
  let move (binding : InstanceBinding) : InstanceBinding :=
    if binding.bindingId = arguments.bindingId ∧
        binding.version = arguments.expectedVersion then arguments.overRow current binding
    else binding
  have hcases (binding : InstanceBinding) (hbinding : binding ∈ store.bindings) :
      binding = current ∧ move binding = arguments.columns current ∨
        move binding = binding := by
    by_cases hmatches : binding.bindingId = arguments.bindingId ∧
        binding.version = arguments.expectedVersion
    · have hsame := hseen.eq_of_version h.ids hbinding (hmatches.1.trans hid.symm)
        (hmatches.2.trans hversion.symm)
      refine .inl ⟨hsame, ?_⟩
      rw [hsame] at hmatches ⊢
      exact if_pos hmatches
    · exact .inr (if_neg hmatches)
  have hbegun : arguments.target ≠ .prepared ∧ arguments.target ≠ .replaced := by
    revert htarget
    cases arguments.target <;> decide
  have hfirst (hprepared : current.status = .prepared) (hmem : current ∈ store.bindings) :
      current.predecessorBindingId = none ∧ (hazel.lookup current.runId).isSome := by
    have hpersist : arguments.target = .persisted := by
      rw [hprepared] at hallowed
      revert htarget hallowed
      cases arguments.target <;> decide
    obtain ⟨row, hrow, hrowId, hlink, hknown⟩ := hpersisted hpersist
    rw [← List.inj_on_of_nodup_map h.ids hrow hmem (hrowId.trans hid.symm)]
    exact ⟨hlink, hknown⟩
  have hmoves (binding : InstanceBinding) (hbinding : binding ∈ store.bindings) :
      Advances binding (move binding) := by
    rcases hcases binding hbinding with ⟨rfl, hmove⟩ | hmove
    · rw [hmove]
      exact ⟨rfl, Nat.le_succ _, fun hsame => absurd hsame (Nat.succ_ne_self _),
        fun _ => hbegun.1⟩
    · rw [hmove]
      exact .refl binding
  refine ⟨h.moved hmoves ?_ ?_ ?_ ?_ rfl, grows_moved hmoves rfl⟩
  · intro binding hbinding
    rcases hcases binding hbinding with ⟨rfl, hmove⟩ | hmove
    · rw [hmove]
      change arguments.target ∈ inService
      revert htarget
      cases arguments.target <;> decide
    · rw [hmove]
      exact h.statuses binding hbinding
  · intro binding hbinding predecessor hpredecessor hlink hstatus
    obtain ⟨other, hother, hotherId, hlineage, -, hreplaced⟩ :=
      h.successor binding hbinding _ hlink
    have hsame : other = predecessor :=
      List.inj_on_of_nodup_map h.ids hother hpredecessor hotherId
    rw [hsame] at hlineage hreplaced
    have hstill : binding.status ≠ .prepared := by
      intro hprepared
      rcases hcases binding hbinding with ⟨rfl, -⟩ | hmove
      · rw [(hfirst hprepared hbinding).1] at hlink
        cases hlink
      · rw [hmove] at hstatus
        exact hstatus hprepared
    rcases hcases predecessor hpredecessor with ⟨rfl, -⟩ | hmove
    · rw [hreplaced hstill] at hallowed
      cases hallowed
    · rw [hmove]
      exact hreplaced hstill
  · intro binding hbinding hstatus
    rcases hcases binding hbinding with ⟨rfl, hmove⟩ | hmove
    · rw [hmove] at hstatus
      exact (hbegun.2 hstatus).elim
    · rw [hmove] at hstatus
      obtain ⟨next, hnext, hlink, hnextBegun⟩ := h.replaced binding hbinding hstatus
      exact ⟨next, hnext, hlink, (hmoves next hnext).begun hnextBegun⟩
  · intro binding hbinding hstatus
    by_cases hprepared : binding.status = .prepared
    · rcases hcases binding hbinding with ⟨rfl, -⟩ | hmove
      · exact (hfirst hprepared hbinding).2
      · rw [hmove] at hstatus
        exact (hstatus hprepared).elim
    · exact h.known binding hbinding hprepared

theorem Lineages.committed (h : Lineages store hazel) {arguments : Replacement}
    {predecessor successor : InstanceBinding} (hpredecessor : Seen predecessor store)
    (hsuccessor : Seen successor store)
    (hpredecessorId : predecessor.bindingId = arguments.predecessorId)
    (hsuccessorId : successor.bindingId = arguments.successorId)
    (hlink : successor.predecessorBindingId = some predecessor.bindingId)
    (hlineage : sameLineage successor predecessor = true)
    (hversion : predecessor.version = arguments.predecessorExpectedVersion)
    (hsuccessorVersion : successor.version = arguments.successorExpectedVersion)
    (hcheckpointed : predecessor.status = .checkpointed)
    (hprepared : successor.status = .prepared)
    (hwritten : applyReplacement arguments predecessor successor store = .ok written) :
    Lineages written hazel ∧ Grows store written := by
  obtain ⟨⟨first, hfirst, hfirstId, hfirstVersion⟩, second, hsecond, hsecondId,
    hsecondVersion⟩ := applyReplacement_found hwritten
  obtain rfl := applyReplacement_ok hwritten
  have hne : arguments.successorId ≠ arguments.predecessorId := by
    intro hsame
    obtain ⟨row, hrow, hadvances⟩ := hpredecessor
    obtain ⟨other, hother, hotherAdvances⟩ := hsuccessor
    have hrows : row = other := List.inj_on_of_nodup_map h.ids hrow hother (by
      rw [hadvances.bindingId, hotherAdvances.bindingId, hpredecessorId, hsuccessorId, hsame])
    have := sameLineage_generation hlineage
    have := hadvances.generation
    have := hotherAdvances.generation
    rw [hrows] at *
    omega
  have hpredecessorMem : predecessor ∈ store.bindings := by
    have hsame := hpredecessor.eq_of_version h.ids hfirst
      (hfirstId.trans hpredecessorId.symm) (hfirstVersion.trans hversion.symm)
    rwa [← hsame]
  have hsuccessorMem : successor ∈ store.bindings := by
    obtain ⟨row, hrow, hmove⟩ := List.mem_map.mp hsecond
    split at hmove
    · rename_i hmatches
      rw [← hmove] at hsecondId
      exact (hne (hsecondId.symm.trans hmatches.1)).elim
    · subst hmove
      have hsame := hsuccessor.eq_of_version h.ids hrow
        (hsecondId.trans hsuccessorId.symm) (hsecondVersion.trans hsuccessorVersion.symm)
      rwa [← hsame]
  let move (binding : InstanceBinding) : InstanceBinding :=
    if binding.bindingId = arguments.predecessorId then Replacement.replaced predecessor
    else if binding.bindingId = arguments.successorId then arguments.persisted successor
    else binding
  have hrows : updated (updated store.bindings arguments.predecessorId
      arguments.predecessorExpectedVersion (Replacement.overPredecessor predecessor))
      arguments.successorId arguments.successorExpectedVersion
      (arguments.overSuccessor successor) = store.bindings.map move := by
    rw [updated, updated, List.map_map]
    apply List.map_congr_left
    intro binding hbinding
    simp only [Function.comp_apply, move]
    by_cases hleft : binding.bindingId = arguments.predecessorId
    · have hsame : binding = predecessor := List.inj_on_of_nodup_map h.ids hbinding
        hpredecessorMem (hleft.trans hpredecessorId.symm)
      rw [hsame, if_pos (show predecessor.bindingId = arguments.predecessorId ∧
        predecessor.version = arguments.predecessorExpectedVersion from
          ⟨hpredecessorId, hversion⟩), if_pos hpredecessorId]
      exact if_neg fun hmatches => hne (hmatches.1.symm.trans hpredecessorId)
    · rw [if_neg (show ¬ (binding.bindingId = arguments.predecessorId ∧
        binding.version = arguments.predecessorExpectedVersion) from
          fun hmatches => hleft hmatches.1), if_neg hleft]
      by_cases hright : binding.bindingId = arguments.successorId
      · have hsame : binding = successor := List.inj_on_of_nodup_map h.ids hbinding
          hsuccessorMem (hright.trans hsuccessorId.symm)
        rw [hsame, if_pos hsuccessorId]
        exact if_pos ⟨hsuccessorId, hsuccessorVersion⟩
      · rw [if_neg hright]
        exact if_neg fun hmatches => hright hmatches.1
  have hcases (binding : InstanceBinding) (hbinding : binding ∈ store.bindings) :
      binding = predecessor ∧ move binding = Replacement.replaced predecessor ∨
        binding = successor ∧ move binding = arguments.persisted successor ∨
        move binding = binding := by
    by_cases hleft : binding.bindingId = arguments.predecessorId
    · have hsame : binding = predecessor := List.inj_on_of_nodup_map h.ids hbinding
        hpredecessorMem (hleft.trans hpredecessorId.symm)
      exact .inl ⟨hsame, if_pos hleft⟩
    · by_cases hright : binding.bindingId = arguments.successorId
      · have hsame : binding = successor := List.inj_on_of_nodup_map h.ids hbinding
          hsuccessorMem (hright.trans hsuccessorId.symm)
        refine .inr (.inl ⟨hsame, ?_⟩)
        simp only [move]
        rw [if_neg hleft, if_pos hright]
      · refine .inr (.inr ?_)
        simp only [move]
        rw [if_neg hleft, if_neg hright]
  have hmovedPredecessor : move predecessor = Replacement.replaced predecessor :=
    if_pos hpredecessorId
  have hmovedSuccessor : move successor = arguments.persisted successor := by
    have hother : ¬ successor.bindingId = arguments.predecessorId := by
      rw [hsuccessorId]
      exact hne
    simp only [move]
    rw [if_neg hother, if_pos hsuccessorId]
  have hmoves (binding : InstanceBinding) (hbinding : binding ∈ store.bindings) :
      Advances binding (move binding) := by
    rcases hcases binding hbinding with ⟨rfl, hmove⟩ | ⟨rfl, hmove⟩ | hmove
    · rw [hmove]
      exact ⟨rfl, Nat.le_succ _, fun hsame => absurd hsame (Nat.succ_ne_self _),
        fun _ => by simp [Replacement.replaced]⟩
    · rw [hmove]
      exact ⟨rfl, Nat.le_succ _, fun hsame => absurd hsame (Nat.succ_ne_self _),
        fun _ => by simp [Replacement.persisted]⟩
    · rw [hmove]
      exact .refl binding
  refine ⟨h.moved hmoves ?_ ?_ ?_ ?_ hrows, grows_moved hmoves hrows⟩
  · intro binding hbinding
    rcases hcases binding hbinding with ⟨rfl, hmove⟩ | ⟨rfl, hmove⟩ | hmove
    · rw [hmove]
      simp [Replacement.replaced, inService]
    · rw [hmove]
      simp [Replacement.persisted, inService]
    · rw [hmove]
      exact h.statuses binding hbinding
  · intro binding hbinding other hother hotherLink hstatus
    obtain ⟨found, hfound, hfoundId, hfoundLineage, -, hreplaced⟩ :=
      h.successor binding hbinding _ hotherLink
    have hsame : found = other := List.inj_on_of_nodup_map h.ids hfound hother hfoundId
    rw [hsame] at hreplaced
    have hkept (hstill : binding.status ≠ .prepared) : (move other).status = .replaced := by
      rcases hcases other hother with ⟨rfl, hmove⟩ | ⟨rfl, hmove⟩ | hmove
      · rw [hmove]
        rfl
      · rw [hreplaced hstill] at hprepared
        cases hprepared
      · rw [hmove]
        exact hreplaced hstill
    rcases hcases binding hbinding with ⟨rfl, -⟩ | ⟨rfl, -⟩ | hmove
    · apply hkept
      rw [hcheckpointed]
      decide
    · rw [hlink] at hotherLink
      have hid : predecessor.bindingId = other.bindingId := Option.some_inj.mp hotherLink
      rw [← List.inj_on_of_nodup_map h.ids hpredecessorMem hother hid, hmovedPredecessor]
      rfl
    · rw [hmove] at hstatus
      exact hkept hstatus
  · intro binding hbinding hstatus
    rcases hcases binding hbinding with ⟨rfl, -⟩ | ⟨rfl, hmove⟩ | hmove
    · refine ⟨successor, hsuccessorMem, hlink, ?_⟩
      rw [hmovedSuccessor]
      simp [Replacement.persisted]
    · rw [hmove] at hstatus
      cases hstatus
    · rw [hmove] at hstatus
      obtain ⟨next, hnext, hnextLink, hbegun⟩ := h.replaced binding hbinding hstatus
      exact ⟨next, hnext, hnextLink, (hmoves next hnext).begun hbegun⟩
  · intro binding hbinding hstatus
    rcases hcases binding hbinding with ⟨rfl, -⟩ | ⟨rfl, -⟩ | hmove
    · apply h.known binding hbinding
      rw [hcheckpointed]
      decide
    · exact h.known_of_predecessor hbinding hlink
    · rw [hmove] at hstatus
      exact h.known binding hbinding hstatus

end InstanceStore

end ReisOs.Instances
