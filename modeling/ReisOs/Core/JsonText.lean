import Mathlib.Data.List.Basic
import ReisOs.Core.Json

/-!
# JSON texts

A writer of JSON documents that escapes only what it has to, and a reader.  Reading
inverts writing, and an object's text that has been cut short cannot be read.
-/

namespace ReisOs.Core

/-- A reader takes a value off the front of a text. -/
abbrev Reader (A : Type) := List Char → Option (A × List Char)

namespace JsonText

variable {N A : Type}

/-! ## Characters -/

def isBlank (c : Char) : Bool := c = ' ' || c = '\t' || c = '\n' || c = '\r'

/-- The characters of numbers and keywords. -/
def isWordChar (c : Char) : Bool := c.isAlphanum || c = '+' || c = '-' || c = '.'

def skip (text : List Char) : List Char := text.dropWhile isBlank

/-- The keywords of JSON. -/
def keywords : List (List Char) := [['n', 'u', 'l', 'l'], ['t', 'r', 'u', 'e'],
  ['f', 'a', 'l', 's', 'e']]

/-- Numbers with the words they are written as. -/
structure NumberFormat (N : Type) where
  text : N → List Char
  read : List Char → Option N
  read_text : ∀ number, read (text number) = some number
  isWord : ∀ number, ∀ c ∈ text number, isWordChar c = true
  ne_nil : ∀ number, text number ≠ []
  ne_keyword : ∀ number, text number ∉ keywords

/-! ## Writing -/

/-- How much is left blank after a comma or a colon. -/
inductive Style where
  | compact | spaced

def Style.pad : Style → List Char
  | .compact => []
  | .spaced => [' ']

/-- A character of a string as it is written. -/
def escape (c : Char) : List Char :=
  if c = '"' then ['\\', '"']
  else if c = '\\' then ['\\', '\\']
  else if c = '\n' then ['\\', 'n']
  else if c = '\r' then ['\\', 'r']
  else if c = '\t' then ['\\', 't']
  else if c = '\x08' then ['\\', 'b']
  else if c = '\x0c' then ['\\', 'f']
  else if c.toNat < 32 then
    ['\\', 'u', '0', '0', Nat.digitChar (c.toNat / 16), Nat.digitChar (c.toNat % 16)]
  else [c]

def quote (text : String) : List Char := '"' :: (text.toList.flatMap escape ++ ['"'])

/-- Texts one after the other with commas between them. -/
def separated (style : Style) : List (List Char) → List Char
  | [] => []
  | [text] => text
  | text :: next :: texts =>
    text ++ ',' :: (style.pad ++ separated style (next :: texts))

def memberText (style : Style) (key : String) (value : List Char) : List Char :=
  quote key ++ ':' :: (style.pad ++ value)

mutual

def write (format : NumberFormat N) (style : Style) : Json N → List Char
  | .null => ['n', 'u', 'l', 'l']
  | .bool true => ['t', 'r', 'u', 'e']
  | .bool false => ['f', 'a', 'l', 's', 'e']
  | .number value => format.text value
  | .string value => quote value
  | .array items => '[' :: (separated style (itemTexts format style items) ++ [']'])
  | .object fields => '{' :: (separated style (fieldTexts format style fields) ++ ['}'])

def itemTexts (format : NumberFormat N) (style : Style) : List (Json N) → List (List Char)
  | [] => []
  | item :: items => write format style item :: itemTexts format style items

def fieldTexts (format : NumberFormat N) (style : Style) :
    List (String × Json N) → List (List Char)
  | [] => []
  | (key, value) :: fields =>
    memberText style key (write format style value) :: fieldTexts format style fields

end

/-- A member of an object as it is written. -/
def fieldText (format : NumberFormat N) (style : Style) (field : String × Json N) : List Char :=
  memberText style field.1 (write format style field.2)

/-! ## Reading -/

def hexValue (c : Char) : Option ℕ :=
  if c.isDigit then some (c.toNat - '0'.toNat)
  else if 'a' ≤ c ∧ c ≤ 'f' then some (c.toNat - 'a'.toNat + 10)
  else if 'A' ≤ c ∧ c ≤ 'F' then some (c.toNat - 'A'.toNat + 10)
  else none

/-- The character of four hexadecimal digits; a surrogate is none. -/
def codeOf (first second third fourth : Char) : Option Char := do
  let first ← hexValue first
  let second ← hexValue second
  let third ← hexValue third
  let fourth ← hexValue fourth
  let code := ((first * 16 + second) * 16 + third) * 16 + fourth
  if code.isValidChar then some (Char.ofNat code) else none

def unescape (c : Char) : Option Char :=
  if c = '"' then some '"'
  else if c = '\\' then some '\\'
  else if c = '/' then some '/'
  else if c = 'n' then some '\n'
  else if c = 'r' then some '\r'
  else if c = 't' then some '\t'
  else if c = 'b' then some '\x08'
  else if c = 'f' then some '\x0c'
  else none

/-- A string after its opening quote. -/
def scanString : Reader (List Char)
  | [] => none
  | '"' :: rest => some ([], rest)
  | '\\' :: 'u' :: first :: second :: third :: fourth :: rest =>
    (codeOf first second third fourth).bind fun c =>
      (scanString rest).map fun scanned => (c :: scanned.1, scanned.2)
  | '\\' :: c :: rest =>
    (unescape c).bind fun c =>
      (scanString rest).map fun scanned => (c :: scanned.1, scanned.2)
  | c :: rest =>
    if c = '\\' ∨ c.toNat < 32 then none
    else (scanString rest).map fun scanned => (c :: scanned.1, scanned.2)

/-- A keyword or a number. -/
def wordValue (format : NumberFormat N) (word : List Char) : Option (Json N) :=
  if word = ['n', 'u', 'l', 'l'] then some .null
  else if word = ['t', 'r', 'u', 'e'] then some (.bool true)
  else if word = ['f', 'a', 'l', 's', 'e'] then some (.bool false)
  else (format.read word).map .number

def scanWord (format : NumberFormat N) : Reader (Json N) := fun text =>
  (wordValue format (text.takeWhile isWordChar)).map fun value =>
    (value, text.dropWhile isWordChar)

/-- At least one item, up to a closing bracket. -/
def scanItems (item : Reader A) (close : Char) : ℕ → Reader (List A)
  | 0, _ => none
  | count + 1, text =>
    (item text).bind fun scanned =>
      match skip scanned.2 with
      | [] => none
      | c :: rest =>
        if c = close then some ([scanned.1], rest)
        else if c = ',' then
          (scanItems item close count rest).map fun more =>
            (scanned.1 :: more.1, more.2)
        else none

/-- Any items, up to a closing bracket. -/
def scanList (item : Reader A) (close : Char) (count : ℕ) : Reader (List A) := fun text =>
  match skip text with
  | [] => none
  | c :: rest => if c = close then some ([], rest) else scanItems item close count (c :: rest)

/-- A key with its value. -/
def scanMember (value : Reader A) : Reader (String × A) := fun text =>
  match skip text with
  | [] => none
  | c :: rest =>
    if c = '"' then
      (scanString rest).bind fun key =>
        match skip key.2 with
        | [] => none
        | c :: rest =>
          if c = ':' then
            (value rest).map fun scanned =>
              ((String.ofList key.1, scanned.1), scanned.2)
          else none
    else none

/-- A value nested at most as deep, and with at most as many items, as the first
argument says. -/
def scanValue (format : NumberFormat N) : ℕ → Reader (Json N)
  | 0, _ => none
  | fuel + 1, text =>
    match skip text with
    | [] => none
    | c :: rest =>
      if c = '"' then
        (scanString rest).map fun scanned => (.string (String.ofList scanned.1), scanned.2)
      else if c = '[' then
        (scanList (scanValue format fuel) ']' fuel rest).map fun scanned =>
          (.array scanned.1, scanned.2)
      else if c = '{' then
        (scanList (scanMember (scanValue format fuel)) '}' fuel rest).map fun scanned =>
          (.object scanned.1, scanned.2)
      else scanWord format (c :: rest)

/-- The document of a whole text. -/
def read (format : NumberFormat N) (text : List Char) : Option (Json N) :=
  (scanValue format (text.length + 1) text).bind fun scanned =>
    if skip scanned.2 = [] then some scanned.1 else none

/-! ## What comes after a value -/

/-- What follows a value that has been read does not change it. -/
def Steady (reader : Reader A) : Prop :=
  ∀ text value rest more, reader text = some (value, rest) →
    reader (text ++ more) = some (value, rest ++ more)

/-- The same, as long as something follows already. -/
def Firm (reader : Reader A) : Prop :=
  ∀ text value rest more, reader text = some (value, rest) → rest ≠ [] →
    reader (text ++ more) = some (value, rest ++ more)

variable {text : List Char}

theorem skip_append {rest : List Char} {c : Char} (h : skip text = c :: rest)
    (more : List Char) : skip (text ++ more) = c :: (rest ++ more) := by
  unfold skip at *
  rw [List.dropWhile_append, h]
  rfl

theorem skip_cons_of_not_blank {c : Char} (h : isBlank c = false) (rest : List Char) :
    skip (c :: rest) = c :: rest := by
  rw [skip, List.dropWhile_cons, h]
  rfl

theorem skip_pad (style : Style) (text : List Char) : skip (style.pad ++ text) = skip text := by
  cases style <;> rfl

theorem ne_nil_of_skip {rest : List Char} {c : Char} (h : skip text = c :: rest) :
    text ≠ [] := by
  rintro rfl
  cases h

theorem scanString_plain {c : Char} (hquote : c ≠ '"') (hescape : c ≠ '\\')
    (hcontrol : 32 ≤ c.toNat) (rest : List Char) :
    scanString (c :: rest) =
      (scanString rest).map fun scanned => (c :: scanned.1, scanned.2) := by
  rw [scanString, if_neg]
  · rw [not_or, Nat.not_lt]
    exact ⟨hescape, hcontrol⟩
  · exact hquote
  · exact fun _ _ _ _ _ heq => absurd heq hescape
  · exact fun _ _ heq => absurd heq hescape

theorem scanString_steady : Steady scanString := by
  intro text
  induction text using scanString.induct with
  | case1 =>
    intro value rest more h
    cases h
  | case2 rest =>
    intro value left more h
    rw [scanString] at h
    cases h
    rfl
  | case3 first second third fourth rest ih =>
    intro value left more h
    rw [scanString] at h
    obtain ⟨c, hcode, h⟩ := Option.bind_eq_some_iff.mp h
    obtain ⟨⟨scanned, after⟩, hrest, h⟩ := Option.map_eq_some_iff.mp h
    cases h
    simp only [List.cons_append]
    rw [scanString, hcode, Option.bind_some, ih scanned after more hrest]
    rfl
  | case4 c rest hshort ih =>
    intro value left more h
    rw [scanString] at h
    · obtain ⟨plain, hplain, h⟩ := Option.bind_eq_some_iff.mp h
      obtain ⟨⟨scanned, after⟩, hrest, h⟩ := Option.map_eq_some_iff.mp h
      cases h
      have hcode : c ≠ 'u' := by
        rintro rfl
        cases hplain
      simp only [List.cons_append]
      rw [scanString, hplain, Option.bind_some, ih scanned after more hrest]
      · rfl
      · exact fun _ _ _ _ _ heq => absurd heq hcode
    · exact hshort
  | case5 c rest hquote hcode hescape hrefused =>
    intro value left more h
    rw [scanString, if_pos hrefused] at h
    · cases h
    · exact hquote
    · exact hcode
    · exact hescape
  | case6 c rest hquote hcode hescape hplain ih =>
    intro value left more h
    rw [not_or, Nat.not_lt] at hplain
    rw [scanString_plain hquote hplain.1 hplain.2] at h
    obtain ⟨⟨scanned, after⟩, hrest, h⟩ := Option.map_eq_some_iff.mp h
    cases h
    rw [List.cons_append, scanString_plain hquote hplain.1 hplain.2,
      ih scanned after more hrest]
    rfl

theorem scanWord_firm (format : NumberFormat N) : Firm (scanWord format) := by
  intro text value rest more h hrest
  obtain ⟨word, hword, hpair⟩ := Option.map_eq_some_iff.mp h
  obtain ⟨rfl, hleft⟩ := Prod.mk.inj hpair
  have hshorter : (text.takeWhile isWordChar).length ≠ text.length := by
    have hsplit := congrArg List.length
      (List.takeWhile_append_dropWhile (p := isWordChar) (l := text))
    rw [List.length_append, hleft] at hsplit
    have hsome : 0 < rest.length := List.length_pos_iff.mpr hrest
    omega
  have hsame : (text ++ more).takeWhile isWordChar = text.takeWhile isWordChar := by
    rw [List.takeWhile_append, if_neg hshorter]
  have hafter : (text ++ more).dropWhile isWordChar = rest ++ more := by
    rw [List.dropWhile_append, hleft, if_neg]
    simpa using hrest
  rw [scanWord, hsame, hword, hafter]
  rfl

theorem scanItems_steady {item : Reader A} (hitem : Firm item) (close : Char) (count : ℕ) :
    Steady (scanItems item close count) := by
  induction count with
  | zero =>
    intro text values rest more h
    cases h
  | succ count ih =>
    intro text values rest more h
    rw [scanItems] at h
    obtain ⟨⟨value, left⟩, hvalue, h⟩ := Option.bind_eq_some_iff.mp h
    simp only at h
    cases hskip : skip left with
    | nil =>
      rw [hskip] at h
      cases h
    | cons c after =>
      have hread : item (text ++ more) = some (value, left ++ more) :=
        hitem text value left more hvalue (ne_nil_of_skip hskip)
      rw [scanItems, hread, Option.bind_some]
      simp only
      rw [skip_append hskip more]
      rw [hskip] at h
      simp only at h ⊢
      split_ifs at h ⊢ with hclose hcomma
      · cases h
        rfl
      · obtain ⟨⟨found, behind⟩, hfound, h⟩ := Option.map_eq_some_iff.mp h
        cases h
        rw [ih after found behind more hfound]
        rfl

theorem scanList_steady {item : Reader A} (hitem : Firm item) (close : Char) (count : ℕ) :
    Steady (scanList item close count) := by
  intro text values rest more h
  unfold scanList at h ⊢
  cases hskip : skip text with
  | nil =>
    rw [hskip] at h
    cases h
  | cons c after =>
    rw [hskip] at h
    rw [skip_append hskip more]
    simp only at h ⊢
    split_ifs at h ⊢ with hclose
    · cases h
      rfl
    · exact scanItems_steady hitem close count (c :: after) values rest more h

theorem scanMember_firm {value : Reader A} (hvalue : Firm value) :
    Firm (scanMember value) := by
  intro text member rest more h hrest
  unfold scanMember at h ⊢
  cases hskip : skip text with
  | nil =>
    rw [hskip] at h
    cases h
  | cons c after =>
    rw [hskip] at h
    rw [skip_append hskip more]
    simp only at h ⊢
    split_ifs at h ⊢ with hquote
    obtain ⟨⟨key, left⟩, hkey, h⟩ := Option.bind_eq_some_iff.mp h
    rw [scanString_steady after key left more hkey, Option.bind_some]
    simp only at h ⊢
    cases hcolon : skip left with
    | nil =>
      rw [hcolon] at h
      cases h
    | cons d behind =>
      rw [hcolon] at h
      rw [skip_append hcolon more]
      simp only at h ⊢
      split_ifs at h ⊢ with hd
      obtain ⟨⟨found, last⟩, hfound, h⟩ := Option.map_eq_some_iff.mp h
      cases h
      rw [hvalue behind found last more hfound hrest]
      rfl

theorem scanValue_firm (format : NumberFormat N) (fuel : ℕ) :
    Firm (scanValue format fuel) := by
  induction fuel with
  | zero =>
    intro text value rest more h
    cases h
  | succ fuel ih =>
    intro text value rest more h hrest
    rw [scanValue] at h ⊢
    cases hskip : skip text with
    | nil =>
      rw [hskip] at h
      cases h
    | cons c after =>
      rw [hskip] at h
      rw [skip_append hskip more]
      simp only at h ⊢
      split_ifs at h ⊢ with hquote harray hobject
      · obtain ⟨⟨scanned, left⟩, hscanned, h⟩ := Option.map_eq_some_iff.mp h
        cases h
        rw [scanString_steady after scanned left more hscanned]
        rfl
      · obtain ⟨⟨items, left⟩, hitems, h⟩ := Option.map_eq_some_iff.mp h
        cases h
        rw [scanList_steady ih ']' fuel after items left more hitems]
        rfl
      · obtain ⟨⟨fields, left⟩, hfields, h⟩ := Option.map_eq_some_iff.mp h
        cases h
        rw [scanList_steady (scanMember_firm ih) '}' fuel after fields left more hfields]
        rfl
      · exact scanWord_firm format (c :: after) value rest more h hrest

theorem scanValue_object (format : NumberFormat N) {fuel : ℕ} {rest : List Char}
    {value : Json N} (h : scanValue format fuel ('{' :: text) = some (value, rest))
    (more : List Char) :
    scanValue format fuel ('{' :: text ++ more) = some (value, rest ++ more) := by
  cases fuel with
  | zero => cases h
  | succ fuel =>
    have hopen (left : List Char) : scanValue format (fuel + 1) ('{' :: left) =
        (scanList (scanMember (scanValue format fuel)) '}' fuel left).map fun scanned =>
          (.object scanned.1, scanned.2) := rfl
    rw [hopen] at h
    obtain ⟨⟨fields, left⟩, hfields, h⟩ := Option.map_eq_some_iff.mp h
    cases h
    have hfirm : Firm (scanMember (scanValue format fuel)) :=
      scanMember_firm (scanValue_firm format fuel)
    rw [List.cons_append, hopen, scanList_steady hfirm '}' fuel text fields left more hfields]
    rfl

/-! ## How much fuel -/

theorem scanItems_mono {item larger : Reader A}
    (hitem : ∀ text scanned, item text = some scanned → larger text = some scanned)
    {close : Char} {count limit : ℕ} (hcount : count ≤ limit)
    {scanned : List A × List Char} (h : scanItems item close count text = some scanned) :
    scanItems larger close limit text = some scanned := by
  induction count generalizing limit text scanned with
  | zero => cases h
  | succ count ih =>
    obtain ⟨limit, rfl⟩ := Nat.exists_eq_add_of_le' hcount
    rw [scanItems] at h
    rw [← Nat.add_assoc, scanItems]
    obtain ⟨⟨value, left⟩, hvalue, h⟩ := Option.bind_eq_some_iff.mp h
    rw [hitem text _ hvalue, Option.bind_some]
    simp only at h ⊢
    cases hskip : skip left with
    | nil =>
      rw [hskip] at h
      cases h
    | cons c after =>
      rw [hskip] at h
      simp only at h ⊢
      split_ifs at h ⊢ with hclose hcomma
      · exact h
      · obtain ⟨found, hfound, h⟩ := Option.map_eq_some_iff.mp h
        rw [ih (Nat.le_add_left count limit) hfound]
        exact congrArg some h

theorem scanList_mono {item larger : Reader A}
    (hitem : ∀ text scanned, item text = some scanned → larger text = some scanned)
    {close : Char} {count limit : ℕ} (hcount : count ≤ limit)
    {scanned : List A × List Char} (h : scanList item close count text = some scanned) :
    scanList larger close limit text = some scanned := by
  unfold scanList at h ⊢
  cases hskip : skip text with
  | nil =>
    rw [hskip] at h
    cases h
  | cons c after =>
    rw [hskip] at h
    simp only at h ⊢
    split_ifs at h ⊢ with hclose
    · exact h
    · exact scanItems_mono hitem hcount h

theorem scanMember_mono {value larger : Reader A}
    (hvalue : ∀ text scanned, value text = some scanned → larger text = some scanned) {scanned : (String × A) × List Char}
    (h : scanMember value text = some scanned) : scanMember larger text = some scanned := by
  unfold scanMember at h ⊢
  cases hskip : skip text with
  | nil =>
    rw [hskip] at h
    cases h
  | cons c after =>
    rw [hskip] at h
    simp only at h ⊢
    split_ifs at h ⊢ with hquote
    obtain ⟨key, hkey, h⟩ := Option.bind_eq_some_iff.mp h
    rw [hkey, Option.bind_some]
    cases hcolon : skip key.2 with
    | nil =>
      rw [hcolon] at h
      cases h
    | cons d behind =>
      rw [hcolon] at h
      simp only at h ⊢
      split_ifs at h ⊢ with hd
      obtain ⟨found, hfound, h⟩ := Option.map_eq_some_iff.mp h
      rw [hvalue behind found hfound]
      exact congrArg some h

/-- More fuel changes no value that was read. -/
theorem scanValue_mono (format : NumberFormat N) {fuel limit : ℕ} (hfuel : fuel ≤ limit) {scanned : Json N × List Char}
    (h : scanValue format fuel text = some scanned) :
    scanValue format limit text = some scanned := by
  induction fuel generalizing limit text scanned with
  | zero => cases h
  | succ fuel ih =>
    obtain ⟨more, rfl⟩ := Nat.exists_eq_add_of_le' hfuel
    have hle : fuel ≤ more + fuel := Nat.le_add_left fuel more
    rw [scanValue] at h
    rw [← Nat.add_assoc, scanValue]
    cases hskip : skip text with
    | nil =>
      rw [hskip] at h
      cases h
    | cons c after =>
      rw [hskip] at h
      simp only at h ⊢
      split_ifs at h ⊢ with hquote harray hobject
      · exact h
      · obtain ⟨found, hfound, h⟩ := Option.map_eq_some_iff.mp h
        rw [scanList_mono (fun _ _ hread => ih hle hread) hle hfound]
        exact congrArg some h
      · obtain ⟨found, hfound, h⟩ := Option.map_eq_some_iff.mp h
        rw [scanList_mono (fun _ _ hread =>
          scanMember_mono (fun _ _ hinner => ih hle hinner) hread) hle hfound]
        exact congrArg some h
      · exact h

/-! ## Reading what was written -/

/-- A text that does not go on with a word. -/
def Delimited (text : List Char) : Prop := ∀ c ∈ text.head?, isWordChar c = false

theorem codeOf_control : ∀ code < 32,
    codeOf '0' '0' (Nat.digitChar (code / 16)) (Nat.digitChar (code % 16)) =
      some (Char.ofNat code) := by decide

theorem scanString_escape (c : Char) (rest : List Char) :
    scanString (escape c ++ rest) =
      (scanString rest).map fun scanned => (c :: scanned.1, scanned.2) := by
  unfold escape
  split_ifs with hquote hbackslash hnewline hreturn htab hbackspace hformfeed hcontrol
  · subst hquote
    rfl
  · subst hbackslash
    rfl
  · subst hnewline
    rfl
  · subst hreturn
    rfl
  · subst htab
    rfl
  · subst hbackspace
    rfl
  · subst hformfeed
    rfl
  · have hcode := codeOf_control c.toNat hcontrol
    rw [Char.ofNat_toNat] at hcode
    simp only [List.cons_append, List.nil_append]
    rw [scanString, hcode]
    rfl
  · exact scanString_plain hquote hbackslash (Nat.not_lt.mp hcontrol) rest

theorem scanString_quoted (text rest : List Char) :
    scanString (text.flatMap escape ++ '"' :: rest) = some (text, rest) := by
  induction text with
  | nil => rfl
  | cons c text ih =>
    rw [List.flatMap_cons, List.append_assoc, scanString_escape, ih]
    rfl

theorem isBlank_eq_false {c : Char} (h : isWordChar c = true) : isBlank c = false := by
  by_contra hblank
  rw [Bool.not_eq_false] at hblank
  simp only [isBlank, Bool.or_eq_true, decide_eq_true_eq] at hblank
  rcases hblank with ((rfl | rfl) | rfl) | rfl <;> exact absurd h (by decide)

section Written

variable {format : NumberFormat N} {style : Style}

theorem itemTexts_eq_map (items : List (Json N)) :
    itemTexts format style items = items.map (write format style) := by
  induction items with
  | nil => rfl
  | cons item items ih => rw [itemTexts, List.map_cons, ih]

theorem fieldTexts_eq_map (fields : List (String × Json N)) :
    fieldTexts format style fields = fields.map (fieldText format style) := by
  induction fields with
  | nil => rfl
  | cons field fields ih => rw [fieldTexts, List.map_cons, ih, fieldText]

theorem write_head (format : NumberFormat N) (style : Style) (json : Json N) :
    ∃ c rest, write format style json = c :: rest ∧ isBlank c = false ∧ c ≠ ']' := by
  cases json with
  | null => exact ⟨'n', _, rfl, rfl, by decide⟩
  | bool value => cases value <;> exact ⟨_, _, rfl, rfl, by decide⟩
  | number value =>
    obtain ⟨c, rest, htext⟩ := List.exists_cons_of_ne_nil (format.ne_nil value)
    have hword : isWordChar c = true := by
      apply format.isWord value
      rw [htext]
      exact List.mem_cons_self
    refine ⟨c, rest, htext, isBlank_eq_false hword, ?_⟩
    rintro rfl
    exact absurd hword (by decide)
  | string value => exact ⟨'"', _, rfl, rfl, by decide⟩
  | array items => exact ⟨'[', _, rfl, rfl, by decide⟩
  | object fields => exact ⟨'{', _, rfl, rfl, by decide⟩

theorem scanWord_word {word rest : List Char} (hword : ∀ c ∈ word, isWordChar c = true)
    (hrest : Delimited rest) :
    scanWord format (word ++ rest) = (wordValue format word).map fun value => (value, rest) := by
  have htake : rest.takeWhile isWordChar = [] := by
    cases rest with
    | nil => rfl
    | cons c rest => rw [List.takeWhile_cons, hrest c rfl]; rfl
  have hdrop : rest.dropWhile isWordChar = rest := by
    cases rest with
    | nil => rfl
    | cons c rest => rw [List.dropWhile_cons, hrest c rfl]; rfl
  rw [scanWord, List.takeWhile_append_of_pos hword, htake, List.append_nil,
    List.dropWhile_append_of_pos hword, hdrop]

theorem length_le_separated (style : Style) {texts : List (List Char)} {text : List Char}
    (h : text ∈ texts) : text.length ≤ (separated style texts).length := by
  induction texts using separated.induct with
  | case1 => cases h
  | case2 only =>
    have heq : text = only := List.mem_singleton.mp h
    exact Nat.le_of_eq (congrArg List.length heq)
  | case3 first next texts ih =>
    rw [separated, List.length_append, List.length_cons, List.length_append]
    rcases List.mem_cons.mp h with rfl | hmem
    · omega
    · have := ih hmem
      omega

theorem count_le_separated {texts : List (List Char)} (h : ∀ text ∈ texts, text ≠ []) :
    texts.length ≤ (separated style texts).length := by
  induction texts using separated.induct with
  | case1 => exact Nat.zero_le _
  | case2 only =>
    have hsome : 0 < only.length :=
      List.length_pos_iff.mpr (h only (List.mem_singleton_self only))
    rw [separated, List.length_singleton]
    omega
  | case3 first next texts ih =>
    have hrest := ih fun text hmem => h text (List.mem_cons_of_mem _ hmem)
    have hlength : (separated style (first :: next :: texts)).length = first.length +
        (style.pad.length + (separated style (next :: texts)).length + 1) := by
      rw [separated, List.length_append, List.length_cons, List.length_append]
    rw [hlength, List.length_cons]
    omega

section Items

variable {item : Reader A} {shown : A → List Char} {close : Char}

theorem scanItems_pad (hskip : ∀ text, item (style.pad ++ text) = item text) (count : ℕ)
    (text : List Char) :
    scanItems item close count (style.pad ++ text) = scanItems item close count text := by
  cases count with
  | zero => rfl
  | succ count =>
    rw [scanItems, hskip]
    rfl

theorem scanItems_separated (hskip : ∀ text, item (style.pad ++ text) = item text)
    (hblank : isBlank close = false) (hword : isWordChar close = false) (hcomma : close ≠ ',')
    {values : List A} (hsome : values ≠ [])
    (hitem : ∀ value ∈ values, ∀ rest, Delimited rest →
      item (shown value ++ rest) = some (value, rest))
    {count : ℕ} (hcount : values.length ≤ count) (rest : List Char) :
    scanItems item close count (separated style (values.map shown) ++ close :: rest) =
      some (values, rest) := by
  induction values generalizing count with
  | nil => exact absurd rfl hsome
  | cons value values ih =>
    obtain ⟨count, rfl⟩ := Nat.exists_eq_add_of_le' hcount
    have hvalue (after : List Char) (hafter : Delimited after) :
        item (shown value ++ after) = some (value, after) :=
      hitem value List.mem_cons_self after hafter
    cases values with
    | nil =>
      have hread : item (shown value ++ close :: rest) = some (value, close :: rest) :=
        hvalue _ (by rintro c ⟨⟩; exact hword)
      rw [List.map_singleton, separated, List.length_singleton, scanItems, hread,
        Option.bind_some]
      simp only
      rw [skip_cons_of_not_blank hblank]
      exact if_pos rfl
    | cons next values =>
      have hrest := ih (List.cons_ne_nil next values)
        (fun other hmem => hitem other (List.mem_cons_of_mem _ hmem))
        (Nat.le_add_left _ count)
      have hread (after : List Char) :
          item (shown value ++ ',' :: after) = some (value, ',' :: after) :=
        hvalue _ (by rintro c ⟨⟩; decide)
      rw [List.map_cons, List.map_cons, separated, List.append_assoc, List.cons_append,
        List.append_assoc, List.length_cons, ← Nat.add_assoc, scanItems, hread,
        Option.bind_some]
      simp only
      rw [skip_cons_of_not_blank (by decide)]
      simp only
      rw [if_neg hcomma.symm, if_pos trivial, scanItems_pad hskip, ← List.map_cons, hrest]
      rfl

theorem scanList_separated (hskip : ∀ text, item (style.pad ++ text) = item text)
    (hblank : isBlank close = false) (hword : isWordChar close = false) (hcomma : close ≠ ',')
    {values : List A}
    (hhead : ∀ value ∈ values, ∃ c rest, shown value = c :: rest ∧ isBlank c = false ∧
      c ≠ close)
    (hitem : ∀ value ∈ values, ∀ rest, Delimited rest →
      item (shown value ++ rest) = some (value, rest))
    {count : ℕ} (hcount : values.length ≤ count) (rest : List Char) :
    scanList item close count (separated style (values.map shown) ++ close :: rest) =
      some (values, rest) := by
  cases values with
  | nil =>
    rw [List.map_nil, separated, List.nil_append, scanList,
      skip_cons_of_not_blank hblank]
    exact if_pos rfl
  | cons value values =>
    obtain ⟨c, after, hshown, hc, hclose⟩ := hhead value List.mem_cons_self
    have hfirst : ∃ left, separated style ((value :: values).map shown) ++ close :: rest =
        c :: left := by
      cases values with
      | nil => exact ⟨_, by rw [List.map_singleton, separated, hshown, List.cons_append]⟩
      | cons next values =>
        exact ⟨_, by rw [List.map_cons, List.map_cons, separated, hshown,
          List.cons_append, List.cons_append]⟩
    obtain ⟨left, hleft⟩ := hfirst
    have hitems := scanItems_separated hskip hblank hword hcomma
      (List.cons_ne_nil value values) hitem hcount rest
    rw [hleft] at hitems ⊢
    rw [scanList, skip_cons_of_not_blank hc]
    simp only
    rw [if_neg hclose, hitems]

end Items

theorem scanValue_pad (fuel : ℕ) (text : List Char) :
    scanValue format fuel (style.pad ++ text) = scanValue format fuel text := by
  cases fuel with
  | zero => rfl
  | succ fuel =>
    rw [scanValue, skip_pad]
    rfl

theorem scanMember_pad (value : Reader A) (text : List Char) :
    scanMember value (style.pad ++ text) = scanMember value text := by
  rw [scanMember, skip_pad]
  rfl

theorem scanMember_text {value : Reader A} {shown : List Char} {key : String} {found : A}
    {rest : List Char} (hpad : ∀ text, value (style.pad ++ text) = value text)
    (hvalue : value (shown ++ rest) = some (found, rest)) :
    scanMember value (memberText style key shown ++ rest) = some ((key, found), rest) := by
  have htext : memberText style key shown ++ rest = '"' ::
      (key.toList.flatMap escape ++ '"' :: (':' :: (style.pad ++ (shown ++ rest)))) := by
    simp [memberText, quote]
  rw [htext, scanMember, skip_cons_of_not_blank (by decide)]
  simp only [if_true]
  rw [scanString_quoted, Option.bind_some]
  simp only
  rw [skip_cons_of_not_blank (by decide)]
  simp only [if_true]
  rw [hpad, hvalue, Option.map_some, String.ofList_toList]

theorem scanValue_word (word : List Char) {rest : List Char} (hsome : word ≠ [])
    (hall : word.all isWordChar = true) {fuel : ℕ} (hfuel : word.length ≤ fuel)
    (hrest : Delimited rest) :
    scanValue format fuel (word ++ rest) =
      (wordValue format word).map fun value => (value, rest) := by
  have hword : ∀ c ∈ word, isWordChar c = true := List.all_eq_true.mp hall
  cases word with
  | nil => exact absurd rfl hsome
  | cons c word =>
    obtain ⟨fuel, rfl⟩ := Nat.exists_eq_add_of_le' hfuel
    have hc : isWordChar c = true := hword c List.mem_cons_self
    have hquote : c ≠ '"' := by
      rintro rfl
      exact absurd hc (by decide)
    have harray : c ≠ '[' := by
      rintro rfl
      exact absurd hc (by decide)
    have hobject : c ≠ '{' := by
      rintro rfl
      exact absurd hc (by decide)
    rw [List.length_cons, ← Nat.add_assoc, List.cons_append, scanValue,
      skip_cons_of_not_blank (isBlank_eq_false hc)]
    simp only
    rw [if_neg hquote, if_neg harray, if_neg hobject, ← List.cons_append,
      scanWord_word hword hrest]

/-- Reading inverts writing, in either style and whatever follows. -/
theorem scanValue_write (format : NumberFormat N) (style : Style) (json : Json N) :
    ∀ {fuel : ℕ} {rest : List Char},
    (write format style json).length ≤ fuel → Delimited rest →
    scanValue format fuel (write format style json ++ rest) = some (json, rest) := by
  induction json using Json.induction with
  | null =>
    intro fuel rest hfuel hrest
    exact scanValue_word ['n', 'u', 'l', 'l'] (by decide) (by decide) hfuel hrest
  | bool value =>
    intro fuel rest hfuel hrest
    cases value with
    | false =>
      exact scanValue_word ['f', 'a', 'l', 's', 'e'] (by decide) (by decide) hfuel hrest
    | true => exact scanValue_word ['t', 'r', 'u', 'e'] (by decide) (by decide) hfuel hrest
  | number value =>
    intro fuel rest hfuel hrest
    have hvalue : wordValue format (format.text value) = some (.number value) := by
      have hkeyword := format.ne_keyword value
      simp only [keywords, List.mem_cons, List.not_mem_nil, or_false, not_or] at hkeyword
      rw [wordValue, if_neg hkeyword.1, if_neg hkeyword.2.1, if_neg hkeyword.2.2,
        format.read_text]
      rfl
    rw [write, scanValue_word _ (format.ne_nil value)
      (List.all_eq_true.mpr (format.isWord value)) hfuel hrest, hvalue]
    rfl
  | string value =>
    intro fuel rest hfuel hrest
    obtain ⟨fuel, rfl⟩ := Nat.exists_eq_add_of_le' hfuel
    have htext : quote value ++ rest = '"' :: (value.toList.flatMap escape ++ '"' :: rest) := by
      simp [quote]
    rw [write, quote, List.length_cons, ← Nat.add_assoc, ← quote, htext, scanValue,
      skip_cons_of_not_blank (by decide)]
    simp only [if_true]
    rw [scanString_quoted, Option.map_some, String.ofList_toList]
  | array items ih =>
    intro fuel rest hfuel hrest
    rw [write, itemTexts_eq_map, List.length_cons, List.length_append] at hfuel
    obtain ⟨fuel, rfl⟩ := Nat.exists_eq_add_of_le' (Nat.le_of_add_left_le hfuel)
    have hlength : (separated style (items.map (write format style))).length ≤ fuel := by
      rw [List.length_singleton] at hfuel
      omega
    have hcount : items.length ≤ fuel := by
      have hle : (items.map (write format style)).length ≤
          (separated style (items.map (write format style))).length := by
        apply count_le_separated
        intro text htext
        obtain ⟨item, -, rfl⟩ := List.mem_map.mp htext
        obtain ⟨c, after, hwritten, -⟩ := write_head format style item
        simp [hwritten]
      rw [List.length_map] at hle
      omega
    have hitems : scanList (scanValue format fuel) ']' fuel
        (separated style (items.map (write format style)) ++ ']' :: rest) =
          some (items, rest) := by
      apply scanList_separated (scanValue_pad fuel) (by decide) (by decide) (by decide)
      · exact fun item _ => write_head format style item
      · intro item hitem after hafter
        apply ih item hitem _ hafter
        exact Nat.le_trans (length_le_separated style (List.mem_map_of_mem hitem)) hlength
      · exact hcount
    rw [write, itemTexts_eq_map, List.cons_append, List.append_assoc,
      List.singleton_append, scanValue, skip_cons_of_not_blank (by decide)]
    simp only [Char.reduceEq, if_false, if_true]
    rw [hitems]
    rfl
  | object fields ih =>
    intro fuel rest hfuel hrest
    rw [write, fieldTexts_eq_map, List.length_cons, List.length_append] at hfuel
    obtain ⟨fuel, rfl⟩ := Nat.exists_eq_add_of_le' (Nat.le_of_add_left_le hfuel)
    have hlength : (separated style (fields.map (fieldText format style))).length ≤ fuel := by
      rw [List.length_singleton] at hfuel
      omega
    have hhead (field : String × Json N) : ∃ c after, fieldText format style field = c :: after ∧
        isBlank c = false ∧ c ≠ '}' := ⟨'"', _, rfl, rfl, by decide⟩
    have hcount : fields.length ≤ fuel := by
      have hle : (fields.map (fieldText format style)).length ≤
          (separated style (fields.map (fieldText format style))).length := by
        apply count_le_separated
        intro text htext
        obtain ⟨field, -, rfl⟩ := List.mem_map.mp htext
        exact List.cons_ne_nil _ _
      rw [List.length_map] at hle
      omega
    have hfields : scanList (scanMember (scanValue format fuel)) '}' fuel
        (separated style (fields.map (fieldText format style)) ++ '}' :: rest) = some (fields, rest) := by
      apply scanList_separated (scanMember_pad _) (by decide) (by decide) (by decide)
      · exact fun field _ => hhead field
      · intro field hfield after hafter
        apply scanMember_text (scanValue_pad fuel)
        apply ih field hfield _ hafter
        have hmem : fieldText format style field ∈ fields.map (fieldText format style) :=
          List.mem_map_of_mem hfield
        have hle := length_le_separated style hmem
        have hshorter : (write format style field.2).length ≤
            (fieldText format style field).length := by
          simp only [fieldText, memberText, List.length_append, List.length_cons]
          omega
        omega
      · exact hcount
    rw [write, fieldTexts_eq_map, List.cons_append, List.append_assoc,
      List.singleton_append, scanValue, skip_cons_of_not_blank (by decide)]
    simp only [Char.reduceEq, if_false, if_true]
    rw [hfields]
    rfl

theorem scanValue_text (format : NumberFormat N) (style : Style) (json : Json N) :
    scanValue format ((write format style json).length + 1) (write format style json) =
      some (json, []) := by
  have hend : Delimited [] := by
    rintro c ⟨⟩
  have hread := scanValue_write format style json (Nat.le_succ _) hend
  rwa [List.append_nil] at hread

theorem read_write (format : NumberFormat N) (style : Style) (json : Json N) :
    read format (write format style json) = some json := by
  rw [read, scanValue_text]
  rfl

theorem write_injective (format : NumberFormat N) (style : Style) :
    Function.Injective (write format style) := by
  intro left right h
  have hread := read_write format style left
  rw [h, read_write] at hread
  exact (Option.some.inj hread).symm

theorem read_cut {fields : List (String × Json N)} {front back : List Char}
    (h : write format style (.object fields) = front ++ back) (hfront : front ≠ [])
    (hback : back ≠ []) : read format front = none := by
  by_contra hread
  obtain ⟨json, hjson⟩ := Option.ne_none_iff_exists'.mp hread
  obtain ⟨⟨value, rest⟩, hscanned, -⟩ := Option.bind_eq_some_iff.mp hjson
  obtain ⟨c, text, rfl⟩ := List.exists_cons_of_ne_nil hfront
  obtain rfl : '{' = c := by
    rw [write, List.cons_append] at h
    exact (List.cons.inj h).1
  have hwhole := scanValue_object format hscanned back
  rw [← h] at hwhole
  have hlength : ('{' :: text).length + 1 ≤ (write format style (.object fields)).length + 1 := by
    rw [h, List.length_append]
    omega
  have hboth := scanValue_mono format hlength hwhole
  rw [scanValue_text] at hboth
  have hnothing : [] = rest ++ back := (Prod.mk.inj (Option.some.inj hboth)).2
  exact hback (List.append_eq_nil_iff.mp hnothing.symm).2

end Written

end JsonText

end ReisOs.Core
