import Mathlib.Data.Int.Notation
import ReisOs.Core.JsonText

/-!
# The characters of JSON texts

What a written document is made of: printable ASCII, and the characters beyond ASCII of
its strings and keys, which are written as they are.
-/

namespace ReisOs.Core.JsonText

variable {N : Type} {format : NumberFormat N} {style : Style}

mutual

/-- The strings and keys of a document. -/
def strings : Json N → List String
  | .null => []
  | .bool _ => []
  | .number _ => []
  | .string value => [value]
  | .array items => itemStrings items
  | .object fields => fieldStrings fields

def itemStrings : List (Json N) → List String
  | [] => []
  | item :: items => strings item ++ itemStrings items

def fieldStrings : List (String × Json N) → List String
  | [] => []
  | (key, value) :: fields => key :: (strings value ++ fieldStrings fields)

end

variable {text : String}

theorem mem_itemStrings {items : List (Json N)} :
    text ∈ itemStrings items ↔ ∃ item ∈ items, text ∈ strings item := by
  induction items with
  | nil => simp [itemStrings]
  | cons item items ih => simp [itemStrings, ih]

theorem mem_fieldStrings {fields : List (String × Json N)} :
    text ∈ fieldStrings fields ↔
      ∃ field ∈ fields, text = field.1 ∨ text ∈ strings field.2 := by
  induction fields with
  | nil => simp [fieldStrings]
  | cons field fields ih =>
    rw [fieldStrings, List.mem_cons, List.mem_append, ih]
    simp [or_assoc]

/-- The characters that are written stand for themselves or are plain ASCII. -/
def Plain (c : Char) : Prop := 32 ≤ c.toNat ∧ c.toNat < 128

instance (c : Char) : Decidable (Plain c) := inferInstanceAs (Decidable (_ ∧ _))

variable {c : Char}

theorem plain_of_all (text : List Char) (h : (text.all fun c => decide (Plain c)) = true) (hc : c ∈ text) : Plain c := of_decide_eq_true (List.all_eq_true.mp h c hc)

theorem plain_of_between {low high : Char} (hlow : Plain low) (hhigh : Plain high)
    (h : low.val ≤ c.val ∧ c.val ≤ high.val) : Plain c :=
  ⟨Nat.le_trans hlow.1 (UInt32.le_iff_toNat_le.mp h.1),
    Nat.lt_of_le_of_lt (UInt32.le_iff_toNat_le.mp h.2) hhigh.2⟩

theorem plain_of_isWordChar (h : isWordChar c = true) : Plain c := by
  have hletters : c.isAlphanum =
      ((decide (c.val ≥ 'A'.val ∧ c.val ≤ 'Z'.val) ||
        (decide (c.val ≥ 'a'.val) && decide (c.val ≤ 'z'.val))) || c.isDigit) := rfl
  simp only [isWordChar, hletters, Char.isDigit, Bool.or_eq_true, decide_eq_true_eq,
    Bool.and_eq_true] at h
  rcases h with (((((hupper | hlower) | hdigit)) | rfl) | rfl) | rfl
  · exact plain_of_between (by decide) (by decide) hupper
  · exact plain_of_between (by decide) (by decide) hlower
  · exact plain_of_between (by decide) (by decide) hdigit
  · decide
  · decide
  · decide

theorem plain_digitChar : ∀ digit < 16, Plain (Nat.digitChar digit) := by decide

theorem mem_escape {d : Char} (h : d ∈ escape c) : Plain d ∨ d = c ∧ 128 ≤ c.toNat := by
  unfold escape at h
  split_ifs at h with hquote hbackslash hnewline hreturn htab hbackspace hformfeed hcontrol
  · exact .inl (plain_of_all ['\\', '"'] (by decide) h)
  · exact .inl (plain_of_all ['\\', '\\'] (by decide) h)
  · exact .inl (plain_of_all ['\\', 'n'] (by decide) h)
  · exact .inl (plain_of_all ['\\', 'r'] (by decide) h)
  · exact .inl (plain_of_all ['\\', 't'] (by decide) h)
  · exact .inl (plain_of_all ['\\', 'b'] (by decide) h)
  · exact .inl (plain_of_all ['\\', 'f'] (by decide) h)
  · left
    rcases List.mem_append.mp (show d ∈ ['\\', 'u', '0', '0'] ++ [Nat.digitChar _, _] from h)
      with hprefix | hdigits
    · exact plain_of_all ['\\', 'u', '0', '0'] (by decide) hprefix
    · rcases List.mem_cons.mp hdigits with rfl | hlast
      · exact plain_digitChar _ (by omega)
      · rw [List.mem_singleton.mp hlast]
        exact plain_digitChar _ (by omega)
  · obtain rfl := List.mem_singleton.mp h
    by_cases hascii : d.toNat < 128
    · exact .inl ⟨Nat.not_lt.mp hcontrol, hascii⟩
    · exact .inr ⟨rfl, Nat.not_lt.mp hascii⟩

theorem escape_of_not_ascii (h : 128 ≤ c.toNat) : escape c = [c] := by
  have hne (d : Char) (hd : d.toNat < 128) : c ≠ d := by
    rintro rfl
    omega
  unfold escape
  rw [if_neg (hne _ (by decide)), if_neg (hne _ (by decide)), if_neg (hne _ (by decide)),
    if_neg (hne _ (by decide)), if_neg (hne _ (by decide)), if_neg (hne _ (by decide)),
    if_neg (hne _ (by decide)), if_neg (by omega)]

theorem mem_quote (h : c ∈ quote text) :
    Plain c ∨ c ∈ text.toList ∧ 128 ≤ c.toNat := by
  rcases List.mem_cons.mp h with rfl | hrest
  · exact .inl (by decide)
  · rcases List.mem_append.mp hrest with hbody | hend
    · obtain ⟨d, hd, hc⟩ := List.mem_flatMap.mp hbody
      rcases mem_escape hc with hplain | ⟨rfl, hascii⟩
      · exact .inl hplain
      · exact .inr ⟨hd, hascii⟩
    · rw [List.mem_singleton.mp hend]
      exact .inl (by decide)

theorem quote_mem (h : c ∈ text.toList) (hascii : 128 ≤ c.toNat) :
    c ∈ quote text := by
  apply List.mem_cons_of_mem
  apply List.mem_append_left
  apply List.mem_flatMap.mpr
  exact ⟨c, h, by rw [escape_of_not_ascii hascii]; exact List.mem_singleton_self c⟩

theorem mem_pad (h : c ∈ style.pad) : c = ' ' := by
  cases style with
  | compact => cases h
  | spaced => exact List.mem_singleton.mp h

theorem mem_separated {texts : List (List Char)}
    (h : c ∈ separated style texts) : Plain c ∨ ∃ text ∈ texts, c ∈ text := by
  induction texts using separated.induct with
  | case1 => cases h
  | case2 only => exact .inr ⟨only, List.mem_singleton_self only, h⟩
  | case3 first next texts ih =>
    rw [separated, List.mem_append, List.mem_cons, List.mem_append] at h
    rcases h with hfirst | rfl | hpad | hrest
    · exact .inr ⟨first, List.mem_cons_self, hfirst⟩
    · exact .inl (by decide)
    · rw [mem_pad hpad]
      exact .inl (by decide)
    · rcases ih hrest with hplain | ⟨text, htext, hc⟩
      · exact .inl hplain
      · exact .inr ⟨text, List.mem_cons_of_mem _ htext, hc⟩

theorem separated_mem {texts : List (List Char)} {text : List Char} (htext : text ∈ texts) (h : c ∈ text) : c ∈ separated style texts := by
  induction texts using separated.induct with
  | case1 => cases htext
  | case2 only =>
    rw [List.mem_singleton.mp htext] at h
    exact h
  | case3 first next texts ih =>
    rw [separated, List.mem_append, List.mem_cons, List.mem_append]
    rcases List.mem_cons.mp htext with rfl | hmem
    · exact .inl h
    · exact .inr (.inr (.inr (ih hmem)))

/-- Every character of a text is plain or stands in one of the document's strings. -/
theorem mem_write (json : Json N) : ∀ {c : Char}, c ∈ write format style json →
    Plain c ∨ ∃ text ∈ strings json, c ∈ text.toList ∧ 128 ≤ c.toNat := by
  induction json using Json.induction with
  | null => exact fun h => .inl (plain_of_all ['n', 'u', 'l', 'l'] (by decide) h)
  | bool value =>
    intro c h
    cases value with
    | false => exact .inl (plain_of_all ['f', 'a', 'l', 's', 'e'] (by decide) h)
    | true => exact .inl (plain_of_all ['t', 'r', 'u', 'e'] (by decide) h)
  | number value => exact fun h => .inl (plain_of_isWordChar (format.isWord value _ h))
  | string value =>
    intro c h
    rcases mem_quote h with hplain | hc
    · exact .inl hplain
    · exact .inr ⟨value, List.mem_singleton_self value, hc⟩
  | array items ih =>
    intro c h
    rw [write, itemTexts_eq_map, List.mem_cons, List.mem_append, List.mem_singleton] at h
    rcases h with rfl | hbody | rfl
    · exact .inl (by decide)
    · rcases mem_separated hbody with hplain | ⟨text, htext, hc⟩
      · exact .inl hplain
      · obtain ⟨item, hitem, rfl⟩ := List.mem_map.mp htext
        rcases ih item hitem hc with hplain | ⟨found, hfound, hchar⟩
        · exact .inl hplain
        · exact .inr ⟨found, mem_itemStrings.mpr ⟨item, hitem, hfound⟩, hchar⟩
    · exact .inl (by decide)
  | object fields ih =>
    intro c h
    rw [write, fieldTexts_eq_map, List.mem_cons, List.mem_append, List.mem_singleton] at h
    rcases h with rfl | hbody | rfl
    · exact .inl (by decide)
    · rcases mem_separated hbody with hplain | ⟨text, htext, hc⟩
      · exact .inl hplain
      · obtain ⟨field, hfield, rfl⟩ := List.mem_map.mp htext
        rw [fieldText, memberText, List.mem_append, List.mem_cons, List.mem_append] at hc
        rcases hc with hkey | rfl | hpad | hvalue
        · rcases mem_quote hkey with hplain | hchar
          · exact .inl hplain
          · exact .inr ⟨field.1, mem_fieldStrings.mpr ⟨field, hfield, .inl rfl⟩, hchar⟩
        · exact .inl (by decide)
        · rw [mem_pad hpad]
          exact .inl (by decide)
        · rcases ih field hfield hvalue with hplain | ⟨found, hfound, hchar⟩
          · exact .inl hplain
          · exact .inr ⟨found, mem_fieldStrings.mpr ⟨field, hfield, .inr hfound⟩, hchar⟩
    · exact .inl (by decide)

/-- Characters beyond ASCII are written as they are. -/
theorem write_mem (json : Json N) : ∀ {text : String} {c : Char}, text ∈ strings json →
    c ∈ text.toList → 128 ≤ c.toNat → c ∈ write format style json := by
  induction json using Json.induction with
  | null => exact fun h => absurd h List.not_mem_nil
  | bool value => exact fun h => absurd h List.not_mem_nil
  | number value => exact fun h => absurd h List.not_mem_nil
  | string value =>
    intro text c h hc hascii
    obtain rfl := List.mem_singleton.mp h
    exact quote_mem hc hascii
  | array items ih =>
    intro text c h hc hascii
    obtain ⟨item, hitem, hfound⟩ := mem_itemStrings.mp h
    rw [write, itemTexts_eq_map]
    apply List.mem_cons_of_mem
    apply List.mem_append_left
    exact separated_mem (List.mem_map_of_mem hitem) (ih item hitem hfound hc hascii)
  | object fields ih =>
    intro text c h hc hascii
    obtain ⟨field, hfield, hfound⟩ := mem_fieldStrings.mp h
    rw [write, fieldTexts_eq_map]
    apply List.mem_cons_of_mem
    apply List.mem_append_left
    apply separated_mem (List.mem_map_of_mem hfield)
    rw [fieldText, memberText, List.mem_append, List.mem_cons, List.mem_append]
    rcases hfound with rfl | hvalue
    · exact .inl (quote_mem hc hascii)
    · exact .inr (.inr (.inr (ih field hfield hvalue hc hascii)))

/-! ## Integers -/

theorem mem_toList_repr_nat {number : ℕ} (h : c ∈ number.repr.toList) :
    c.isDigit = true := by
  rw [Nat.toList_repr] at h
  exact Nat.isDigit_of_mem_toDigits (by decide) (by decide) h

theorem toList_repr_negSucc (number : ℕ) :
    (Int.negSucc number).repr.toList = '-' :: (number + 1).repr.toList := by
  simp [Int.repr]

theorem mem_repr {key : ℤ} (h : c ∈ key.repr.toList) :
    c = '-' ∨ c.isDigit = true := by
  cases key with
  | ofNat number => exact .inr (mem_toList_repr_nat h)
  | negSucc number =>
    rw [toList_repr_negSucc] at h
    rcases List.mem_cons.mp h with hminus | hrest
    · exact .inl hminus
    · exact .inr (mem_toList_repr_nat hrest)

theorem isWordChar_of_mem_repr {key : ℤ} (h : c ∈ key.repr.toList) :
    isWordChar c = true := by
  rcases mem_repr h with rfl | hdigit
  · decide
  · simp [isWordChar, Char.isAlphanum, hdigit]

theorem plain_of_mem_repr {key : ℤ} (h : c ∈ key.repr.toList) :
    Plain c := plain_of_isWordChar (isWordChar_of_mem_repr h)

def readDigits (digits : List Char) : Option ℕ :=
  if digits ≠ [] ∧ digits.all (·.isDigit) then some (Nat.ofDigitChars 10 digits 0) else none

def readInteger (word : List Char) : Option ℤ :=
  if word.head? = some '-' then (readDigits word.tail).map fun number : ℕ => -(number : ℤ)
  else (readDigits word).map Int.ofNat

theorem readDigits_repr (number : ℕ) : readDigits number.repr.toList = some number := by
  have hdigits : ∀ c ∈ number.repr.toList, c.isDigit = true := fun _ => mem_toList_repr_nat
  rw [Nat.toList_repr] at hdigits ⊢
  rw [readDigits, if_pos ⟨Nat.toDigits_ne_nil, List.all_eq_true.mpr hdigits⟩,
    Nat.ofDigitChars_ten_toDigits]

theorem readInteger_repr (value : ℤ) : readInteger value.repr.toList = some value := by
  cases value with
  | ofNat number =>
    have hplain : number.repr.toList.head? ≠ some '-' := by
      intro hhead
      have hdigit := mem_toList_repr_nat (List.mem_of_mem_head? hhead)
      exact absurd hdigit (by decide)
    have hread : readInteger number.repr.toList = some (Int.ofNat number) := by
      rw [readInteger, if_neg hplain, readDigits_repr, Option.map_some]
    exact hread
  | negSucc number =>
    rw [toList_repr_negSucc, readInteger, List.head?_cons, if_pos rfl, List.tail_cons,
      readDigits_repr, Option.map_some]
    rfl

/-- Integers in decimal. -/
def integerFormat : NumberFormat ℤ where
  text value := value.repr.toList
  read := readInteger
  read_text := readInteger_repr
  isWord _ _ h := isWordChar_of_mem_repr h
  ne_nil value h := by
    have hread := readInteger_repr value
    rw [h] at hread
    cases hread
  ne_keyword value h := by
    have hletters : keywords.all (fun word =>
        word.any fun c => decide ¬ (c = '-' ∨ c.isDigit = true)) = true := by decide
    obtain ⟨c, hc, hother⟩ := List.any_eq_true.mp (List.all_eq_true.mp hletters _ h)
    exact of_decide_eq_true hother (mem_repr hc)

end ReisOs.Core.JsonText
