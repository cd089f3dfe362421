import Mathlib.Data.List.Induction

/-!
# Loops that can fail

Loops over a list in the `Except` monad stop at the first error.  What a completed
loop says about its result follows from what one round says.
-/

namespace ReisOs.Core

variable {A B E : Type*}

/-- A computation that succeeds has succeeded in its first part and then in its
second. -/
theorem bind_eq_ok {E A B : Type} {first : Except E A} {rest : A → Except E B} {value : B}
    (h : (first >>= rest) = .ok value) :
    ∃ middle, first = .ok middle ∧ rest middle = .ok value := by
  cases first with
  | error error => cases h
  | ok middle => exact ⟨middle, rfl, h⟩

theorem exists_bind_eq_ok {E A B : Type} {first : Except E A} {rest : A → Except E B}
    (hfirst : ∃ middle, first = .ok middle)
    (hrest : ∀ middle, first = .ok middle → ∃ value, rest middle = .ok value) :
    ∃ value, (first >>= rest) = .ok value := by
  obtain ⟨middle, hmiddle⟩ := hfirst
  obtain ⟨value, hvalue⟩ := hrest middle hmiddle
  rw [hmiddle]
  exact ⟨value, hvalue⟩

theorem exists_state_of_answer {E A B : Type} {result : Except E (A × B)} {answer : B}
    (h : result.map Prod.snd = .ok answer) : ∃ state, result = .ok (state, answer) := by
  cases result with
  | error error => cases h
  | ok both =>
    cases h
    exact ⟨both.1, rfl⟩

variable {items : List A}

/-- Every value a completed loop collected is the answer of one of its rounds. -/
theorem mem_of_mapM_eq_ok {f : A → Except E B} {collected : List B}
    (h : items.mapM f = .ok collected) {value : B} (hvalue : value ∈ collected) :
    ∃ item ∈ items, f item = .ok value := by
  induction items generalizing collected with
  | nil =>
    cases h
    cases hvalue
  | cons item items ih =>
    rw [List.mapM_cons] at h
    cases hitem : f item with
    | error error => simp [hitem, bind, Except.bind] at h
    | ok first =>
      cases hrest : items.mapM f with
      | error error => simp [hitem, hrest, bind, Except.bind] at h
      | ok rest =>
        obtain rfl : first :: rest = collected := by
          simpa [hitem, hrest, bind, Except.bind, pure, Except.pure] using h
        rcases List.mem_cons.mp hvalue with rfl | hold
        · exact ⟨item, List.mem_cons_self, hitem⟩
        · obtain ⟨found, hfound, hanswer⟩ := ih hrest hold
          exact ⟨found, List.mem_cons_of_mem _ hfound, hanswer⟩

theorem foldlM_invariant {S : Type*} {f : S → A → Except E S} (Inv : S → Prop)
    (hround : ∀ state item next, item ∈ items → f state item = .ok next → Inv state →
      Inv next)
    {start last : S} (hstart : Inv start) (h : items.foldlM f start = .ok last) :
    Inv last := by
  induction items generalizing start with
  | nil =>
    cases h
    exact hstart
  | cons item items ih =>
    rw [List.foldlM_cons] at h
    cases hitem : f start item with
    | error error => simp [hitem, bind, Except.bind] at h
    | ok next =>
      have hrest : items.foldlM f next = .ok last := by
        simpa [hitem, bind, Except.bind] using h
      have hnext := hround start item next List.mem_cons_self hitem hstart
      refine ih (fun state later after hlater => ?_) hnext hrest
      exact hround state later after (List.mem_cons_of_mem _ hlater)

theorem mapM_eq_ok_map {f : A → Except E B} (answer : A → B)
    (h : ∀ item ∈ items, f item = .ok (answer item)) :
    items.mapM f = .ok (items.map answer) := by
  induction items with
  | nil => rfl
  | cons item items ih =>
    have hitem := h item List.mem_cons_self
    have hrest := ih fun later hlater => h later (List.mem_cons_of_mem _ hlater)
    rw [List.mapM_cons, hitem, hrest]
    rfl

/-- The rule for a loop that never fails: its invariant speaks of the rounds done so
far and lets the next round succeed. -/
theorem foldlM_ok_of_rounds {S : Type*} {f : S → A → Except E S} (Inv : List A → S → Prop)
    (hround : ∀ earlier item later state, items = earlier ++ item :: later →
      Inv earlier state → ∃ next, f state item = .ok next ∧ Inv (earlier ++ [item]) next)
    {start : S} (hstart : Inv [] start) :
    ∃ last, items.foldlM f start = .ok last ∧ Inv items last := by
  induction items using List.reverseRecOn with
  | nil => exact ⟨start, rfl, hstart⟩
  | append_singleton items final ih =>
    have hbefore := ih fun earlier item later state hsplit hinv =>
      hround earlier item (later ++ [final]) state (by rw [hsplit]; simp) hinv
    obtain ⟨state, hloop, hinv⟩ := hbefore
    obtain ⟨last, hfinal, hlast⟩ := hround items final [] state rfl hinv
    have hcomplete : (items ++ [final]).foldlM f start = .ok last := by
      rw [List.foldlM_append, hloop]
      simp [bind, Except.bind, hfinal, pure, Except.pure]
    exact ⟨last, hcomplete, hlast⟩

end ReisOs.Core
