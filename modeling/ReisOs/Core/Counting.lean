import Mathlib.Data.List.Dedup
import Mathlib.Order.Interval.Finset.Nat

/-!
# Counting by tickets

Items that hold pairwise different tickets out of `1..n` are at most `n` many.
-/

namespace ReisOs.Core

variable {A : Type*}

variable {items : List A}

theorem length_le_of_tickets (ticket : A → ℕ) {limit : ℕ}
    (hdistinct : (items.map ticket).Nodup)
    (hrange : ∀ item ∈ items, 1 ≤ ticket item ∧ ticket item ≤ limit) :
    items.length ≤ limit := by
  have hsubset : (items.map ticket).toFinset ⊆ Finset.Icc 1 limit := by
    intro number hnumber
    obtain ⟨item, hitem, rfl⟩ := List.mem_map.mp (List.mem_toFinset.mp hnumber)
    exact Finset.mem_Icc.mpr (hrange item hitem)
  calc items.length = (items.map ticket).toFinset.card := by
        rw [List.toFinset_card_of_nodup hdistinct, List.length_map]
    _ ≤ (Finset.Icc 1 limit).card := Finset.card_le_card hsubset
    _ = limit := by simp

theorem nodup_map_of_determines {B C : Type*} {label : A → B}
    {other : A → C} (hlabel : (items.map label).Nodup)
    (hdetermines : ∀ left ∈ items, ∀ right ∈ items,
      other left = other right → label left = label right) :
    (items.map other).Nodup := by
  rw [List.Nodup, List.pairwise_map] at hlabel ⊢
  exact hlabel.imp_of_mem fun hleft hright hne heq =>
    hne (hdetermines _ hleft _ hright heq)

theorem length_le_one_of_label {B : Type*} {label : A → B} {value : B}
    (hdistinct : (items.map label).Nodup)
    (hlabel : ∀ item ∈ items, label item = value) : items.length ≤ 1 := by
  have hreplicate : items.map label = List.replicate items.length value :=
    List.eq_replicate_iff.mpr ⟨by simp, by simpa using hlabel⟩
  rw [hreplicate] at hdistinct
  exact List.nodup_replicate.mp hdistinct

theorem countP_le_of_charge {B C : Type*} {rows : List B} {counted : A → Bool}
    {paid : B → Bool} (label : A → C) (charge : B → Option C)
    (hdistinct : (items.map label).Nodup)
    (hcharge : ∀ item ∈ items, counted item = true →
      ∃ row ∈ rows, paid row = true ∧ charge row = some (label item)) :
    items.countP counted ≤ rows.countP paid := by
  have hlabels : ((items.filter counted).map label).Nodup :=
    hdistinct.sublist (List.filter_sublist.map label)
  have hsubset : (items.filter counted).map label ⊆ (rows.filter paid).filterMap charge := by
    intro value hvalue
    obtain ⟨item, hitem, rfl⟩ := List.mem_map.mp hvalue
    obtain ⟨hmem, hcounted⟩ := List.mem_filter.mp hitem
    obtain ⟨row, hrow, hpaid, hlabel⟩ := hcharge item hmem hcounted
    exact List.mem_filterMap.mpr ⟨row, List.mem_filter.mpr ⟨hrow, hpaid⟩, hlabel⟩
  calc items.countP counted = ((items.filter counted).map label).length := by
        rw [List.length_map, List.countP_eq_length_filter]
    _ ≤ ((rows.filter paid).filterMap charge).length :=
        (List.subperm_of_subset hlabels hsubset).length_le
    _ ≤ (rows.filter paid).length := List.length_filterMap_le _ _
    _ = rows.countP paid := List.countP_eq_length_filter.symm

end ReisOs.Core
