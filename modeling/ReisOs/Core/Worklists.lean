import Mathlib.Data.Finset.Card
import Mathlib.Data.List.Nodup
import Mathlib.Logic.Relation

/-!
# Walks over a worklist

A queue whose head is taken off, listed, and replaced at the end by what comes next to it,
without a look at what has been visited.  In a forest the walk is over after as many turns
as there are nodes, and lists each descendant once.
-/

namespace ReisOs.Core

variable {A : Type*} (next : A → List A)

/-- The walk from a queue; `none` is a walk that is not over. -/
def walk : ℕ → List A → List A → Option (List A)
  | _, out, [] => some out
  | 0, _, _ :: _ => none
  | fuel + 1, out, node :: queue => walk fuel (out ++ [node]) (queue ++ next node)

/-- `lower` is next to `upper`. -/
def Below (upper lower : A) : Prop := lower ∈ next upper

/-- Nobody is next to two nodes, or twice to one. -/
structure Branching (above : A → Option A) : Prop where
  above : ∀ upper lower, lower ∈ next upper → above lower = some upper
  nodup : ∀ upper, (next upper).Nodup

variable {next} {above : A → Option A} {start : A}

/-- What a walk has listed and what it has still to do. -/
structure Walking (next : A → List A) (above : A → Option A) (start : A)
    (out queue : List A) : Prop where
  nodup : (out ++ queue).Nodup
  reached : ∀ node ∈ out ++ queue, Relation.TransGen (Below next) start node
  listed : ∀ node ∈ out ++ queue, ∃ upper, above node = some upper ∧
    (upper = start ∨ upper ∈ out)
  first : ∀ node ∈ next start, node ∈ out ++ queue
  closed : ∀ node ∈ out, ∀ lower ∈ next node, lower ∈ out ++ queue

theorem walking_start (h : Branching next above) (start : A) :
    Walking next above start [] (next start) := by
  refine ⟨h.nodup start, ?_, ?_, fun node hnode => hnode, fun node hnode => by cases hnode⟩
  · intro node hnode
    exact .single hnode
  · intro node hnode
    exact ⟨start, h.above start node hnode, Or.inl rfl⟩

/-- A turn of the walk. -/
theorem Walking.turn {out queue : List A} {node : A}
    (h : Walking next above start out (node :: queue)) (hbranching : Branching next above)
    (hacyclic : ¬ Relation.TransGen (Below next) start start) :
    Walking next above start (out ++ [node]) (queue ++ next node) := by
  have hsame : out ++ [node] ++ (queue ++ next node) = out ++ node :: queue ++ next node := by
    simp
  have hnode : node ∈ out ++ node :: queue := by simp
  have hfresh : node ∉ out := by
    have hsplit := List.nodup_append.mp h.nodup
    intro hlisted
    exact hsplit.2.2 node hlisted node List.mem_cons_self rfl
  have hkeep {other : A} (hother : other ∈ out ++ node :: queue) :
      other ∈ out ++ [node] ++ (queue ++ next node) := by
    rw [hsame]
    exact List.mem_append_left _ hother
  refine ⟨?_, ?_, ?_, fun other hother => hkeep (h.first other hother), ?_⟩
  · rw [hsame, List.nodup_append]
    refine ⟨h.nodup, hbranching.nodup node, ?_⟩
    rintro lower hlower _ hnext rfl
    -- who is next to `node` has been found before only if `node` itself has been listed
    obtain ⟨upper, hupper, hlisted⟩ := h.listed lower hlower
    rw [hbranching.above node lower hnext] at hupper
    cases hupper
    rcases hlisted with rfl | hlisted
    · exact hacyclic (h.reached _ hnode)
    · exact hfresh hlisted
  · intro other hother
    rw [hsame] at hother
    rcases List.mem_append.mp hother with hold | hnext
    · exact h.reached other hold
    · exact .tail (h.reached node hnode) hnext
  · intro other hother
    rw [hsame] at hother
    rcases List.mem_append.mp hother with hold | hnext
    · obtain ⟨upper, hupper, hlisted⟩ := h.listed other hold
      exact ⟨upper, hupper, hlisted.imp_right (List.mem_append_left _)⟩
    · exact ⟨node, hbranching.above node other hnext, Or.inr (by simp)⟩
  · intro other hother lower hlower
    rcases List.mem_append.mp hother with hold | hlast
    · exact hkeep (h.closed other hold lower hlower)
    · rw [List.mem_singleton.mp hlast] at hlower
      rw [hsame]
      exact List.mem_append_right _ hlower

theorem Walking.done {out : List A} (h : Walking next above start out []) (node : A) :
    node ∈ out ↔ Relation.TransGen (Below next) start node := by
  constructor
  · intro hnode
    exact h.reached node (by simpa using hnode)
  · intro hpath
    induction hpath with
    | single hnext => simpa using h.first _ hnext
    | tail _ hnext ih => simpa using h.closed _ ih _ hnext

/-- With as many turns as there are nodes the walk is over. -/
theorem Walking.walk [DecidableEq A] {nodes : Finset A} (hbranching : Branching next above)
    (hacyclic : ¬ Relation.TransGen (Below next) start start)
    (hnodes : ∀ node, Relation.TransGen (Below next) start node → node ∈ nodes)
    {fuel : ℕ} {out queue : List A} (h : Walking next above start out queue)
    (hfuel : nodes.card ≤ fuel + out.length) :
    ∃ final, Core.walk next fuel out queue = some final ∧
      Walking next above start final [] := by
  induction fuel generalizing out queue with
  | zero =>
    cases queue with
    | nil => exact ⟨out, rfl, h⟩
    | cons node queue =>
      have hsubset : (out ++ node :: queue).toFinset ⊆ nodes := by
        intro other hother
        exact hnodes other (h.reached other (List.mem_toFinset.mp hother))
      have hcard := Finset.card_le_card hsubset
      rw [List.toFinset_card_of_nodup h.nodup, List.length_append, List.length_cons] at hcard
      omega
  | succ fuel ih =>
    cases queue with
    | nil => exact ⟨out, rfl, h⟩
    | cons node queue =>
      apply ih (h.turn hbranching hacyclic)
      rw [List.length_append, List.length_singleton]
      omega

theorem walk_descendants [DecidableEq A] {nodes : Finset A} (hbranching : Branching next above)
    (hacyclic : ¬ Relation.TransGen (Below next) start start)
    (hnodes : ∀ node, Relation.TransGen (Below next) start node → node ∈ nodes)
    {fuel : ℕ} (hfuel : nodes.card ≤ fuel) :
    ∃ out, walk next fuel [] (next start) = some out ∧ out.Nodup ∧
      ∀ node, node ∈ out ↔ Relation.TransGen (Below next) start node := by
  obtain ⟨out, hwalk, hdone⟩ := (walking_start hbranching start).walk hbranching hacyclic
    hnodes (show nodes.card ≤ fuel + ([] : List A).length by simpa using hfuel)
  exact ⟨out, hwalk, by simpa using hdone.nodup, hdone.done⟩

end ReisOs.Core
