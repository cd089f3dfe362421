import Mathlib.Logic.Function.Basic
import Mathlib.Logic.Relation

/-!
# Families

Members under ids, each with the id of its parent or none.  A family is sound if every
parent is there and bounds its child; then every ancestor bounds its descendants, and every
member descends from a root.
-/

namespace ReisOs.Core

open Function

variable {A M : Type*} (parent : M → Option A)

abbrev Family (A M : Type*) := A → Option M

namespace Family

/-- `above` is the parent of the member under `id`. -/
def ParentOf (family : Family A M) (id above : A) : Prop :=
  ∃ member, family id = some member ∧ parent member = some above

/-- Every parent is a member, and the edge is as it should be. -/
def Sound (Edge : M → M → Prop) (family : Family A M) : Prop :=
  ∀ id member above, family id = some member → parent member = some above →
    ∃ other, family above = some other ∧ Edge member other

/-- Every member descends from one without a parent. -/
def Rooted (family : Family A M) : Prop :=
  ∀ id member, family id = some member →
    ∃ rootId root, Relation.ReflTransGen (family.ParentOf parent) id rootId ∧
      family rootId = some root ∧ parent root = none

variable {parent} {family : Family A M} {Edge Below : M → M → Prop}

theorem Sound.below (h : family.Sound parent Edge) (hrefl : ∀ member, Below member member)
    (htrans : ∀ {first second third}, Below first second → Below second third →
      Below first third)
    (hedge : ∀ {member other}, Edge member other → Below member other)
    {id ancestorId : A} (hpath : Relation.ReflTransGen (family.ParentOf parent) id ancestorId)
    {member : M} (hmember : family id = some member) :
    ∃ ancestor, family ancestorId = some ancestor ∧ Below member ancestor := by
  induction hpath with
  | refl => exact ⟨member, hmember, hrefl member⟩
  | tail hpath hlast ih =>
    obtain ⟨ancestor, hancestor, hbelow⟩ := ih
    obtain ⟨found, hfound, hparent⟩ := hlast
    obtain rfl : ancestor = found := Option.some.inj (hancestor.symm.trans hfound)
    obtain ⟨other, hother, hnext⟩ := h _ ancestor _ hancestor hparent
    exact ⟨other, hother, htrans hbelow (hedge hnext)⟩

section Insert

variable [DecidableEq A] {id : A} {member : M}

theorem lookup_update (hnew : family id = none) {other : A} {found : M}
    (hfound : family other = some found) :
    update family id (some member) other = some found := by
  rw [update_of_ne]
  · exact hfound
  · rintro rfl
    rw [hnew] at hfound
    cases hfound

theorem parentOf_update (hnew : family id = none) {below above : A}
    (h : family.ParentOf parent below above) :
    ParentOf parent (update family id (some member)) below above := by
  obtain ⟨found, hfound, hparent⟩ := h
  exact ⟨found, lookup_update hnew hfound, hparent⟩

theorem Sound.insert (h : family.Sound parent Edge) (hnew : family id = none)
    (hmember : ∀ above, parent member = some above →
      ∃ other, family above = some other ∧ Edge member other) :
    Sound parent Edge (update family id (some member)) := by
  intro below found above hfound hparent
  by_cases hsame : below = id
  · rw [hsame, update_self] at hfound
    cases hfound
    obtain ⟨other, hother, hedge⟩ := hmember above hparent
    exact ⟨other, lookup_update hnew hother, hedge⟩
  · rw [update_of_ne hsame] at hfound
    obtain ⟨other, hother, hedge⟩ := h below found above hfound hparent
    exact ⟨other, lookup_update hnew hother, hedge⟩

theorem Rooted.insert (h : family.Rooted parent) (hnew : family id = none)
    (hmember : ∀ above, parent member = some above → ∃ other, family above = some other) :
    Rooted parent (update family id (some member)) := by
  have hold {below : A} {found : M} (hfound : family below = some found) :
      ∃ rootId root, Relation.ReflTransGen
          (ParentOf parent (update family id (some member))) below rootId ∧
        update family id (some member) rootId = some root ∧ parent root = none := by
    obtain ⟨rootId, root, hpath, hroot, hparentless⟩ := h below found hfound
    have hmono : ∀ first last, Relation.ReflTransGen (family.ParentOf parent) first last →
        Relation.ReflTransGen (ParentOf parent (update family id (some member)))
          first last := Relation.ReflTransGen.mono fun _ _ => parentOf_update hnew
    exact ⟨rootId, root, hmono _ _ hpath, lookup_update hnew hroot, hparentless⟩
  intro below found hfound
  by_cases hsame : below = id
  · rw [hsame, update_self] at hfound
    cases hfound
    cases hparent : parent member with
    | none => exact ⟨below, member, .refl, by rw [hsame, update_self], hparent⟩
    | some above =>
      obtain ⟨other, hother⟩ := hmember above hparent
      obtain ⟨rootId, root, hpath, hroot, hparentless⟩ := hold hother
      refine ⟨rootId, root, .head ⟨member, ?_, hparent⟩ hpath, hroot, hparentless⟩
      rw [hsame, update_self]
  · rw [update_of_ne hsame] at hfound
    exact hold hfound

end Insert

end Family

end ReisOs.Core
