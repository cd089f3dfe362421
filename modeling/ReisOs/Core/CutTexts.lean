import Mathlib.Data.List.TakeWhile
import ReisOs.Core.AsciiText

/-!
# Texts that have been cut short

An object is read up to its closing brace, so that no text that ends within an escape is a
document.  What else is left of an object's text when its end is lost is no document either.
-/

namespace ReisOs.Core.JsonText

variable {N A : Type}

/-! ## What a reader leaves -/

/-- What is left over is the end of the text. -/
def Trims (reader : Reader A) : Prop :=
  ∀ text value rest, reader text = some (value, rest) → rest <:+ text

theorem skip_suffix (text : List Char) : skip text <:+ text := List.dropWhile_suffix _

variable {text rest : List Char}

theorem suffix_of_skip {c : Char} (h : skip text = c :: rest) :
    c :: rest <:+ text := by
  rw [← h]
  exact skip_suffix text

theorem suffix_of_cons {c : Char} (h : c :: rest <:+ text) :
    rest <:+ text :=
  (List.suffix_cons c rest).trans h

theorem scanString_trims : Trims scanString := by
  intro text
  induction text using scanString.induct with
  | case1 =>
    intro value rest h
    cases h
  | case2 rest =>
    intro value left h
    rw [scanString] at h
    cases h
    exact List.suffix_cons _ _
  | case3 first second third fourth rest ih =>
    intro value left h
    rw [scanString] at h
    obtain ⟨c, hcode, h⟩ := Option.bind_eq_some_iff.mp h
    obtain ⟨⟨scanned, after⟩, hrest, h⟩ := Option.map_eq_some_iff.mp h
    cases h
    exact (ih scanned after hrest).trans
      (List.suffix_append ['\\', 'u', first, second, third, fourth] rest)
  | case4 c rest hshort ih =>
    intro value left h
    rw [scanString] at h
    · obtain ⟨plain, hplain, h⟩ := Option.bind_eq_some_iff.mp h
      obtain ⟨⟨scanned, after⟩, hrest, h⟩ := Option.map_eq_some_iff.mp h
      cases h
      exact (ih scanned after hrest).trans (List.suffix_append ['\\', c] rest)
    · exact hshort
  | case5 c rest hquote hcode hescape hrefused =>
    intro value left h
    rw [scanString, if_pos hrefused] at h
    · cases h
    · exact hquote
    · exact hcode
    · exact hescape
  | case6 c rest hquote hcode hescape hplain ih =>
    intro value left h
    rw [not_or, Nat.not_lt] at hplain
    rw [scanString_plain hquote hplain.1 hplain.2] at h
    obtain ⟨⟨scanned, after⟩, hrest, h⟩ := Option.map_eq_some_iff.mp h
    cases h
    exact (ih scanned after hrest).trans (List.suffix_cons c rest)

theorem scanWord_trims (format : NumberFormat N) : Trims (scanWord format) := by
  intro text value rest h
  obtain ⟨word, -, hpair⟩ := Option.map_eq_some_iff.mp h
  rw [← (Prod.mk.inj hpair).2]
  exact List.dropWhile_suffix _

theorem scanItems_close {item : Reader A} (hitem : Trims item) (close : Char) (count : ℕ) {values : List A}
    (h : scanItems item close count text = some (values, rest)) : close :: rest <:+ text := by
  induction count generalizing text values rest with
  | zero => cases h
  | succ count ih =>
    rw [scanItems] at h
    obtain ⟨⟨value, left⟩, hvalue, h⟩ := Option.bind_eq_some_iff.mp h
    have hleft := hitem text value left hvalue
    simp only at h
    cases hskip : skip left with
    | nil =>
      rw [hskip] at h
      cases h
    | cons c after =>
      have hafter := (suffix_of_skip hskip).trans hleft
      rw [hskip] at h
      simp only at h
      split_ifs at h with hclose hcomma
      · cases h
        rw [← hclose]
        exact hafter
      · obtain ⟨⟨found, behind⟩, hfound, h⟩ := Option.map_eq_some_iff.mp h
        cases h
        exact (ih hfound).trans (suffix_of_cons hafter)

theorem scanList_close {item : Reader A} (hitem : Trims item) (close : Char) (count : ℕ) {values : List A}
    (h : scanList item close count text = some (values, rest)) : close :: rest <:+ text := by
  unfold scanList at h
  cases hskip : skip text with
  | nil =>
    rw [hskip] at h
    cases h
  | cons c after =>
    have hafter := suffix_of_skip hskip
    rw [hskip] at h
    simp only at h
    split_ifs at h with hclose
    · cases h
      rw [← hclose]
      exact hafter
    · exact (scanItems_close hitem close count h).trans hafter

theorem scanMember_trims {value : Reader A} (hvalue : Trims value) :
    Trims (scanMember value) := by
  intro text member rest h
  unfold scanMember at h
  cases hskip : skip text with
  | nil =>
    rw [hskip] at h
    cases h
  | cons c after =>
    have hafter := suffix_of_cons (suffix_of_skip hskip)
    rw [hskip] at h
    simp only at h
    split_ifs at h with hquote
    obtain ⟨⟨key, left⟩, hkey, h⟩ := Option.bind_eq_some_iff.mp h
    have hleft := (scanString_trims after key left hkey).trans hafter
    simp only at h
    cases hcolon : skip left with
    | nil =>
      rw [hcolon] at h
      cases h
    | cons d behind =>
      have hbehind := (suffix_of_cons (suffix_of_skip hcolon)).trans hleft
      rw [hcolon] at h
      simp only at h
      split_ifs at h with hd
      obtain ⟨⟨found, last⟩, hfound, h⟩ := Option.map_eq_some_iff.mp h
      cases h
      exact (hvalue behind found last hfound).trans hbehind

theorem scanValue_trims (format : NumberFormat N) (fuel : ℕ) :
    Trims (scanValue format fuel) := by
  induction fuel with
  | zero =>
    intro text value rest h
    cases h
  | succ fuel ih =>
    intro text value rest h
    rw [scanValue] at h
    cases hskip : skip text with
    | nil =>
      rw [hskip] at h
      cases h
    | cons c after =>
      have hwhole := suffix_of_skip hskip
      have hafter := suffix_of_cons hwhole
      rw [hskip] at h
      simp only at h
      split_ifs at h with hquote harray hobject
      · obtain ⟨⟨scanned, left⟩, hscanned, h⟩ := Option.map_eq_some_iff.mp h
        cases h
        exact (scanString_trims after scanned left hscanned).trans hafter
      · obtain ⟨⟨items, left⟩, hitems, h⟩ := Option.map_eq_some_iff.mp h
        cases h
        exact (suffix_of_cons (scanList_close ih ']' fuel hitems)).trans hafter
      · obtain ⟨⟨fields, left⟩, hfields, h⟩ := Option.map_eq_some_iff.mp h
        cases h
        exact (suffix_of_cons
          (scanList_close (scanMember_trims ih) '}' fuel hfields)).trans hafter
      · exact (scanWord_trims format (c :: after) value rest h).trans hwhole

/-- A text that begins with a brace is read only if nothing but blanks comes after a brace
in it. -/
theorem brace_of_read {format : NumberFormat N} {json : Json N}
    (h : read format ('{' :: text) = some json) :
    ∃ blanks, '}' :: blanks <:+ text ∧ ∀ c ∈ blanks, isBlank c = true := by
  obtain ⟨⟨value, rest⟩, hscanned, hrest⟩ := Option.bind_eq_some_iff.mp h
  have hopen : scanValue format (('{' :: text).length + 1) ('{' :: text) =
      (scanList (scanMember (scanValue format ('{' :: text).length)) '}'
        ('{' :: text).length text).map fun scanned => (.object scanned.1, scanned.2) := rfl
  rw [hopen] at hscanned
  obtain ⟨⟨fields, left⟩, hfields, hpair⟩ := Option.map_eq_some_iff.mp hscanned
  cases hpair
  refine ⟨left, scanList_close (scanMember_trims (scanValue_trims format _)) '}' _ hfields, ?_⟩
  simp only at hrest
  split_ifs at hrest with hblank
  rw [skip, List.dropWhile_eq_nil_iff] at hblank
  exact hblank

/-! ## Cuts through escapes -/

/-- A text that is cut short within an escape, which is left as it is. -/
structure CutEscape (cut : List Char) : Prop where
  resolved : resolve cut = cut
  last : ∀ c ∈ cut.getLast?, c ≠ '}' ∧ isBlank c = false

theorem pieces_plain (h : ∀ c ∈ text, c ≠ '\\') :
    pieces text = text.map fun c => .kept [c] := by
  induction text with
  | nil => rfl
  | cons c rest ih =>
    rw [List.forall_mem_cons] at h
    rw [pieces, ih h.2]
    · rfl
    · rintro _ _ _ _ _ rfl
      exact absurd rfl h.1
    · rintro _ _ rfl
      exact absurd rfl h.1

theorem joined_kept (text : List Char) : joined (text.map fun c => .kept [c]) = text := by
  induction text with
  | nil => rfl
  | cons c rest ih => exact congrArg (c :: ·) ih

theorem pieces_short {digits : List Char} (h : ∀ c ∈ digits, c ≠ '\\')
    (hshort : digits.length < 4) :
    pieces ('\\' :: 'u' :: digits) = .kept ['\\', 'u'] :: digits.map fun c => .kept [c] := by
  have hfour : ∀ a b c d rest, digits ≠ a :: b :: c :: d :: rest := by
    rintro a b c d rest rfl
    simp only [List.length_cons] at hshort
    omega
  rw [pieces, pieces_plain h]
  intro a b c d rest _ hdigits
  exact hfour a b c d rest hdigits

/-- The beginning of one code unit: nothing, its backslash, or all but some digits. -/
theorem unit_cut {unit : ℕ} {front back : List Char} (h : unitText unit = front ++ back)
    (hback : back ≠ []) :
    CutEscape front ∧ ∀ value rest, pieces front ≠ .unit value :: rest := by
  have hdigit : ∀ digit < 16, Nat.digitChar digit ≠ '\\' ∧ Nat.digitChar digit ≠ '}' ∧
      isBlank (Nat.digitChar digit) = false := by decide
  have hhex : ∀ c ∈ hexDigits unit, c ≠ '\\' ∧ c ≠ '}' ∧ isBlank c = false := by
    have hmod (value : ℕ) := hdigit (value % 16) (Nat.mod_lt _ (by decide))
    simp only [hexDigits, List.forall_mem_cons]
    exact ⟨hmod _, hmod _, hmod _, hmod _, List.forall_mem_nil _⟩
  cases front with
  | nil =>
    refine ⟨⟨rfl, fun c hc => absurd hc (by simp)⟩, ?_⟩
    intro value rest hpieces
    cases hpieces
  | cons first front =>
    cases front with
    | nil =>
      obtain rfl : '\\' = first := (List.cons.inj h).1
      refine ⟨⟨rfl, ?_⟩, ?_⟩
      · intro c hc
        cases hc
        decide
      · intro value rest hpieces
        cases hpieces
    | cons second digits =>
      rw [unitText, List.cons_append, List.cons_append, List.cons.injEq, List.cons.injEq] at h
      obtain ⟨rfl, rfl, hdigits⟩ := h
      have hmem : ∀ c ∈ digits, c ∈ hexDigits unit := by
        intro c hc
        rw [hdigits]
        exact List.mem_append_left back hc
      have hshort : digits.length < 4 := by
        have hlength := congrArg List.length hdigits
        have hpos := List.length_pos_of_ne_nil hback
        simp only [hexDigits, List.length_append, List.length_cons, List.length_nil] at hlength
        omega
      have hpieces := pieces_short (fun c hc => (hhex c (hmem c hc)).1) hshort
      refine ⟨⟨?_, ?_⟩, ?_⟩
      · rw [resolve, hpieces]
        change ['\\', 'u'] ++ joined _ = _
        rw [joined_kept]
        rfl
      · intro c hc
        rw [List.getLast?_cons_cons] at hc
        cases digits with
        | nil =>
          cases hc
          decide
        | cons digit digits =>
          rw [List.getLast?_cons_cons] at hc
          exact (hhex c (hmem c (List.mem_of_getLast? hc))).2
      · rw [hpieces]
        intro value rest hunit
        cases hunit

theorem joined_high {high : ℕ} (hhigh : isHigh high = true) {rest : List Piece}
    (h : ∀ value others, rest ≠ .unit value :: others) :
    joined (.unit high :: rest) = unitText high ++ joined rest := by
  have hsingle : single high = unitText high := by
    rw [single, hhigh]
    rfl
  cases rest with
  | nil =>
    change single high ++ joined [] = _
    rw [hsingle]
  | cons piece others =>
    cases piece with
    | kept text =>
      change single high ++ joined (.kept text :: others) = _
      rw [hsingle]
    | unit value => exact absurd rfl (h value others)

theorem CutEscape.of_high {high : ℕ} (hbound : high < 65536) (hhigh : isHigh high = true)
    {cut : List Char} (hcut : CutEscape cut)
    (hkept : ∀ value rest, pieces cut ≠ .unit value :: rest) :
    CutEscape (unitText high ++ cut) := by
  have hlarge : ¬ high < 127 := by
    simp only [isHigh, Bool.and_eq_true, decide_eq_true_eq] at hhigh
    omega
  apply CutEscape.mk
  · rw [resolve, pieces_unitText hbound hlarge, joined_high hhigh hkept]
    exact congrArg (_ ++ ·) hcut.resolved
  · intro c hc
    have hdigit : ∀ digit < 16, Nat.digitChar digit ≠ '}' ∧
        isBlank (Nat.digitChar digit) = false := by decide
    rw [List.getLast?_append] at hc
    cases hlast : cut.getLast? with
    | some last =>
      rw [hlast] at hc
      exact hcut.last c (hlast.trans hc)
    | none =>
      rw [hlast] at hc
      cases hc
      exact hdigit _ (Nat.mod_lt _ (by decide))

/-- A cut through the escape of one character. -/
theorem escapeAscii_cut {c : Char} {front back : List Char}
    (h : escapeAscii c = front ++ back) (hback : back ≠ []) : CutEscape front := by
  have hchar : c.toNat.isValidChar := c.valid
  have hnil : CutEscape [] := ⟨rfl, fun c hc => absurd hc (by simp)⟩
  unfold escapeAscii at h
  split_ifs at h with hascii hbasic
  · cases front with
    | nil => exact hnil
    | cons first front =>
      rw [List.cons_append, List.cons.injEq] at h
      exact absurd (List.append_eq_nil_iff.mp h.2.symm).2 hback
  · exact (unit_cut h hback).1
  · have hbound : c.toNat < 1114112 := by
      unfold Nat.isValidChar at hchar
      omega
    have hhigh : isHigh (55296 + (c.toNat - 65536) / 1024) = true := by
      simp only [isHigh, Bool.and_eq_true, decide_eq_true_eq]
      omega
    cases List.append_eq_append_iff.mp h with
    | inl hsplit =>
      obtain ⟨cut, rfl, hlow⟩ := hsplit
      obtain ⟨hcut, hkept⟩ := unit_cut hlow hback
      exact hcut.of_high (by omega) hhigh hkept
    | inr hsplit =>
      obtain ⟨cut, hunit, -⟩ := hsplit
      by_cases hcut : cut = []
      · rw [hcut, List.append_nil] at hunit
        rw [← hunit, ← List.append_nil (unitText _)]
        exact hnil.of_high (by omega) hhigh fun _ _ hpieces => by cases hpieces
      · exact (unit_cut hunit hcut).1

/-- Every cut through what is written of the text leaves whole escapes and the beginning of
one more. -/
def CutsWell (text : List Char) : Prop :=
  ∀ front back, text.flatMap escapeAscii = front ++ back →
    ∃ whole left cut, text = whole ++ left ∧ Escaped whole ∧ CutEscape cut ∧
      front = whole.flatMap escapeAscii ++ cut

theorem CutsWell.group {group : List Char} (hgroup : Escaped group)
    (hcut : ∀ front back, group.flatMap escapeAscii = front ++ back → back ≠ [] →
      CutEscape front) (hrest : CutsWell rest) : CutsWell (group ++ rest) := by
  intro front back hsplit
  rw [List.flatMap_append] at hsplit
  have hbehind : ∀ after, rest.flatMap escapeAscii = after ++ back →
      front = group.flatMap escapeAscii ++ after →
      ∃ whole left cut, group ++ rest = whole ++ left ∧ Escaped whole ∧ CutEscape cut ∧
        front = whole.flatMap escapeAscii ++ cut := by
    intro after hafter hfront
    obtain ⟨whole, left, cut, hleft, hwhole, hescape, hcut⟩ := hrest after back hafter
    refine ⟨group ++ whole, left, cut, ?_, hgroup.append hwhole, hescape, ?_⟩
    · rw [hleft, List.append_assoc]
    · rw [hfront, hcut, List.flatMap_append, List.append_assoc]
  cases List.append_eq_append_iff.mp hsplit with
  | inl hafter =>
    obtain ⟨after, hfront, hafter⟩ := hafter
    exact hbehind after hafter hfront
  | inr hwithin =>
    obtain ⟨missing, hmissing, hback⟩ := hwithin
    by_cases hempty : missing = []
    · rw [hempty, List.append_nil] at hmissing
      rw [hempty, List.nil_append] at hback
      exact hbehind [] hback.symm (by rw [hmissing, List.append_nil])
    · exact ⟨[], group ++ rest, front, rfl, .nil, hcut front missing hmissing hempty, rfl⟩

theorem flatMap_escapeAscii (h : ∀ c ∈ text, c.toNat < 127) :
    text.flatMap escapeAscii = text := by
  induction text with
  | nil => rfl
  | cons c rest ih =>
    rw [List.forall_mem_cons] at h
    rw [List.flatMap_cons, escapeAscii_of_lt h.1, ih h.2]
    rfl

theorem Escaped.cutsWell (h : Escaped text) : CutsWell text := by
  induction h with
  | nil =>
    intro front back hsplit
    have hfront : front = [] := (List.append_eq_nil_iff.mp hsplit.symm).1
    exact ⟨[], [], [], rfl, .nil, ⟨rfl, fun c hc => absurd hc (by simp)⟩, hfront⟩
  | @plain c rest hplain _ ih =>
    apply CutsWell.group (.plain hplain .nil) _ ih
    intro front back hsplit hback
    rw [List.flatMap_singleton] at hsplit
    exact escapeAscii_cut hsplit hback
  | @pair c rest hunit hascii _ ih =>
    apply CutsWell.group (.pair hunit hascii .nil) _ ih
    intro front back hsplit hback
    rw [flatMap_escapeAscii (by simp [hascii])] at hsplit
    match front with
    | [] => exact ⟨rfl, fun d hd => absurd hd (by simp)⟩
    | [first] =>
      obtain rfl : '\\' = first := (List.cons.inj hsplit).1
      refine ⟨rfl, ?_⟩
      intro d hd
      cases hd
      decide
    | first :: second :: others =>
      rw [List.cons_append, List.cons_append, List.cons.injEq, List.cons.injEq] at hsplit
      exact absurd (List.append_eq_nil_iff.mp hsplit.2.2.symm).2 hback
  | @control code rest hcode _ ih =>
    have hdigit : ∀ digit < 16, (Nat.digitChar digit).toNat < 127 := by decide
    have hhigh := hdigit (code / 16) (by omega)
    have hlow := hdigit (code % 16) (by omega)
    have htext : unitText code = ['\\', 'u', '0', '0', Nat.digitChar (code / 16),
        Nat.digitChar (code % 16)] := by
      have hzero : code / 4096 % 16 = 0 := by omega
      have hnone : code / 256 % 16 = 0 := by omega
      have hsmall : code / 16 % 16 = code / 16 := by omega
      rw [unitText, hexDigits, hzero, hnone, hsmall]
      rfl
    apply CutsWell.group (.control hcode .nil) _ ih
    intro front back hsplit hback
    rw [flatMap_escapeAscii (by simp [hhigh, hlow]), ← htext] at hsplit
    exact (unit_cut hsplit hback).1

/-! ## Documents -/

section Documents

variable {format : NumberFormat N} {style : Style}

theorem read_cutEscape {whole cut : List Char} (hcut : CutEscape cut) (hne : cut ≠ [])
    (hopen : (whole ++ cut).head? = some '{') : read format (whole ++ cut) = none := by
  by_contra hread
  obtain ⟨json, hjson⟩ := Option.ne_none_iff_exists'.mp hread
  obtain ⟨text, htext⟩ := List.head?_eq_some_iff.mp hopen
  rw [htext] at hjson
  obtain ⟨blanks, hsuffix, hblanks⟩ := brace_of_read hjson
  have hlast : (whole ++ cut).getLast? = ('}' :: blanks).getLast? := by
    obtain ⟨before, hbefore⟩ := hsuffix
    rw [htext, ← hbefore, ← List.cons_append]
    exact List.getLast?_append_of_ne_nil _ (List.cons_ne_nil _ _)
  rw [List.getLast?_append_of_ne_nil _ hne] at hlast
  have hfound := hcut.last
  rw [hlast] at hfound
  have hend := hfound _ (List.getLast?_eq_some_getLast (List.cons_ne_nil '}' blanks))
  cases List.mem_cons.mp (List.getLast_mem (List.cons_ne_nil '}' blanks)) with
  | inl hbrace => exact hend.1 hbrace
  | inr hblank =>
    rw [hblanks _ hblank] at hend
    cases hend.2

/-- A proper part of an object's text that begins it is no document. -/
theorem loadsAscii_cut {fields : List (String × Json N)} {front back : List Char}
    (h : dumpsAscii format style (.object fields) = front ++ back) (hfront : front ≠ [])
    (hback : back ≠ []) : loadsAscii format front = none := by
  obtain ⟨whole, left, cut, htext, hwhole, hcut, hsplit⟩ :=
    (Escaped.write format style (.object fields)).cutsWell front back h
  have hresolved : resolve front = whole ++ cut := by
    rw [hsplit, resolve_flatMap_append hwhole, hcut.resolved]
  rw [loadsAscii, hresolved]
  by_cases hempty : cut = []
  · rw [hempty, List.append_nil]
    apply read_cut htext
    · intro hnil
      apply hfront
      rw [hsplit, hnil, hempty]
      rfl
    · intro hnil
      apply hback
      rw [hnil, List.append_nil] at htext
      rw [dumpsAscii, htext, hsplit, hempty, List.append_nil] at h
      exact List.self_eq_append_right.mp h
  · apply read_cutEscape hcut hempty
    cases whole with
    | nil =>
      rw [List.flatMap_nil, List.nil_append] at hsplit
      rw [List.nil_append, ← hsplit]
      cases front with
      | nil => exact absurd rfl hfront
      | cons first front =>
        rw [dumpsAscii, write, List.cons_append, List.flatMap_cons,
          escapeAscii_of_lt (by decide), List.singleton_append, List.cons.injEq] at h
        rw [List.head?_cons, h.1]
    | cons first whole =>
      rw [write, List.cons_append, List.cons.injEq] at htext
      rw [List.cons_append, List.head?_cons, htext.1]

theorem read_two (fields others : List (String × Json N)) :
    read format (write format style (.object fields) ++ write format style (.object others)) =
      none := by
  obtain ⟨text, htext⟩ : ∃ text, write format style (.object fields) = '{' :: text := ⟨_, rfl⟩
  obtain ⟨more, hmore⟩ : ∃ more, write format style (.object others) = '{' :: more := ⟨_, rfl⟩
  have hfirst := scanValue_text format style (.object fields)
  rw [htext] at hfirst
  have hboth := scanValue_object format hfirst ('{' :: more)
  have hfuel : ('{' :: text).length + 1 ≤ ('{' :: text ++ '{' :: more).length + 1 := by
    rw [List.length_append]
    omega
  rw [htext, hmore, read, scanValue_mono format hfuel hboth]
  rfl

theorem loadsAscii_two (format : NumberFormat N) (style : Style)
    (fields others : List (String × Json N)) :
    loadsAscii format (dumpsAscii format style (.object fields) ++
      dumpsAscii format style (.object others)) = none := by
  rw [loadsAscii, dumpsAscii, dumpsAscii, resolve_flatMap_append (.write format style _),
    resolve_flatMap (.write format style _), read_two]

end Documents

end ReisOs.Core.JsonText
