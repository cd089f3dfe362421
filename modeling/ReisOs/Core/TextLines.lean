import Mathlib.Data.List.Basic

/-!
# Lines of a text

`str.splitlines`, which breaks a text at more characters than the newline.  A text of
lines that have none of them is split where it was joined; a line that has one is split
inside.
-/

namespace ReisOs.Core

/-- The characters that end a line. -/
def lineBreaks : List Char :=
  ['\n', '\x0b', '\x0c', '\r', '\x1c', '\x1d', '\x1e', '\x85', '\u2028', '\u2029']

def isLineBreak (c : Char) : Bool := c ∈ lineBreaks

/-- `splitlines`, where a carriage return and a newline after it are one break. -/
def splitlines : List Char → List (List Char)
  | [] => []
  | '\r' :: '\n' :: rest => [] :: splitlines rest
  | c :: rest =>
    if isLineBreak c then [] :: splitlines rest
    else
      match splitlines rest with
      | [] => [[c]]
      | line :: lines => (c :: line) :: lines

theorem splitlines_cons {c : Char} (h : isLineBreak c = false) (rest : List Char) :
    splitlines (c :: rest) =
      match splitlines rest with
      | [] => [[c]]
      | line :: lines => (c :: line) :: lines := by
  rw [splitlines, h]
  · rfl
  · rintro after rfl
    cases h

theorem splitlines_line {line : List Char} (h : ∀ c ∈ line, isLineBreak c = false)
    (rest : List Char) : splitlines (line ++ '\n' :: rest) = line :: splitlines rest := by
  induction line with
  | nil =>
    rw [List.nil_append, splitlines]
    · rfl
    · rintro after ⟨⟩
  | cons c line ih =>
    have hrest := ih fun d hd => h d (List.mem_cons_of_mem c hd)
    rw [List.cons_append, splitlines_cons (h c List.mem_cons_self), hrest]

theorem head?_splitlines {line : List Char} (h : ∀ c ∈ line, isLineBreak c = false)
    {c : Char} (hbreak : isLineBreak c = true) (rest : List Char) :
    (splitlines (line ++ c :: rest)).head? = some line := by
  induction line with
  | nil =>
    rw [List.nil_append]
    by_cases hreturn : ∃ after, c = '\r' ∧ rest = '\n' :: after
    · obtain ⟨after, rfl, rfl⟩ := hreturn
      rfl
    · rw [splitlines, hbreak]
      · rfl
      · exact fun after hc hrest => hreturn ⟨after, hc, hrest⟩
  | cons first line ih =>
    have hrest := ih fun d hd => h d (List.mem_cons_of_mem first hd)
    rw [List.cons_append, splitlines_cons (h first List.mem_cons_self)]
    cases hlines : splitlines (line ++ c :: rest) with
    | nil =>
      rw [hlines] at hrest
      cases hrest
    | cons found lines =>
      rw [hlines] at hrest
      obtain rfl : found = line := Option.some.inj hrest
      rfl

theorem exists_first_break {line : List Char} (h : ∃ c ∈ line, isLineBreak c = true) :
    ∃ front c back, line = front ++ c :: back ∧ isLineBreak c = true ∧
      ∀ d ∈ front, isLineBreak d = false := by
  obtain ⟨d, hd, hbreak⟩ := h
  induction line with
  | nil => cases hd
  | cons first line ih =>
    by_cases hfirst : isLineBreak first = true
    · exact ⟨[], first, line, rfl, hfirst, fun e he => absurd he List.not_mem_nil⟩
    · rw [Bool.not_eq_true] at hfirst
      rcases List.mem_cons.mp hd with rfl | hmem
      · rw [hfirst] at hbreak
        cases hbreak
      · obtain ⟨front, c, back, rfl, hc, hfront⟩ := ih hmem
        refine ⟨first :: front, c, back, rfl, hc, ?_⟩
        intro e he
        rcases List.mem_cons.mp he with rfl | hin
        · exact hfirst
        · exact hfront e hin

end ReisOs.Core
