import ReisOs.Core.JsonChars

/-!
# JSON texts in ASCII

A writer that escapes every character outside printable ASCII, as one code unit or as a
pair of surrogates, and the reader that takes these escapes back.  They are the writer
and the reader of `JsonText` behind a translation of the text.
-/

namespace ReisOs.Core.JsonText

variable {N : Type}

/-! ## Escapes -/

def hexDigits (unit : ℕ) : List Char :=
  [Nat.digitChar (unit / 4096 % 16), Nat.digitChar (unit / 256 % 16),
    Nat.digitChar (unit / 16 % 16), Nat.digitChar (unit % 16)]

def unitText (unit : ℕ) : List Char := '\\' :: 'u' :: hexDigits unit

/-- A character of a text that is written in printable ASCII. -/
def escapeAscii (c : Char) : List Char :=
  if c.toNat < 127 then [c]
  else if c.toNat < 65536 then unitText c.toNat
  else
    unitText (55296 + (c.toNat - 65536) / 1024) ++ unitText (56320 + (c.toNat - 65536) % 1024)

/-- The code unit of four hexadecimal digits. -/
def unitOf (first second third fourth : Char) : Option ℕ := do
  let first ← hexValue first
  let second ← hexValue second
  let third ← hexValue third
  let fourth ← hexValue fourth
  return ((first * 16 + second) * 16 + third) * 16 + fourth

/-- The character of a pair of surrogates. -/
def paired (high low : ℕ) : Char := Char.ofNat (65536 + (high - 55296) * 1024 + (low - 56320))

def isHigh (unit : ℕ) : Bool := 55296 ≤ unit && unit < 56320

def isLow (unit : ℕ) : Bool := 56320 ≤ unit && unit < 57344

/-- A piece of a text: a code unit outside printable ASCII, or what is left as it is. -/
inductive Piece where
  | kept (text : List Char)
  | unit (unit : ℕ)

def pieces : List Char → List Piece
  | [] => []
  | '\\' :: 'u' :: a :: b :: c :: d :: rest =>
    match unitOf a b c d with
    | none => .kept ['\\', 'u', a, b, c, d] :: pieces rest
    | some unit =>
      if unit < 127 then .kept ['\\', 'u', a, b, c, d] :: pieces rest
      else .unit unit :: pieces rest
  | '\\' :: c :: rest => .kept ['\\', c] :: pieces rest
  | c :: rest => .kept [c] :: pieces rest

/-- The character of a unit; a surrogate alone is left escaped. -/
def single (unit : ℕ) : List Char :=
  if isHigh unit || isLow unit then unitText unit else [Char.ofNat unit]

def joined : List Piece → List Char
  | [] => []
  | .kept text :: rest => text ++ joined rest
  | .unit high :: .unit low :: rest =>
    if isHigh high && isLow low then paired high low :: joined rest
    else single high ++ joined (.unit low :: rest)
  | .unit unit :: rest => single unit ++ joined rest

/-- Take back the escapes of characters outside printable ASCII and leave the others. -/
def resolve (text : List Char) : List Char := joined (pieces text)

/-- `json.dumps` with its default `ensure_ascii`. -/
def dumpsAscii (format : NumberFormat N) (style : Style) (json : Json N) : List Char :=
  (write format style json).flatMap escapeAscii

/-- `json.loads`. -/
def loadsAscii (format : NumberFormat N) (text : List Char) : Option (Json N) :=
  read format (resolve text)

/-! ## Resolving -/

theorem hexValue_digitChar : ∀ digit < 16, hexValue (Nat.digitChar digit) = some digit := by
  decide

theorem unitOf_hexDigits {unit : ℕ} (h : unit < 65536) :
    unitOf (Nat.digitChar (unit / 4096 % 16)) (Nat.digitChar (unit / 256 % 16))
      (Nat.digitChar (unit / 16 % 16)) (Nat.digitChar (unit % 16)) = some unit := by
  have hdigit (value : ℕ) : hexValue (Nat.digitChar (value % 16)) = some (value % 16) :=
    hexValue_digitChar _ (Nat.mod_lt _ (by decide))
  unfold unitOf
  rw [hdigit, hdigit, hdigit, hdigit]
  change some _ = some unit
  congr 1
  omega

theorem pieces_unitText {unit : ℕ} (h : unit < 65536) (hprintable : ¬ unit < 127)
    (rest : List Char) : pieces (unitText unit ++ rest) = .unit unit :: pieces rest := by
  change pieces ('\\' :: 'u' :: _ :: _ :: _ :: _ :: rest) = _
  rw [pieces, unitOf_hexDigits h]
  exact if_neg hprintable

theorem joined_unit {unit : ℕ} (hhigh : isHigh unit = false) (hlow : isLow unit = false)
    (rest : List Piece) : joined (.unit unit :: rest) = Char.ofNat unit :: joined rest := by
  have hsingle : single unit = [Char.ofNat unit] := by
    rw [single, hhigh, hlow]
    rfl
  cases rest with
  | nil =>
    change single unit ++ joined [] = _
    rw [hsingle]
    rfl
  | cons piece rest =>
    cases piece with
    | kept text =>
      change single unit ++ joined (.kept text :: rest) = _
      rw [hsingle]
      rfl
    | unit low =>
      rw [joined, hhigh, hsingle]
      rfl

theorem resolve_escapeAscii {c : Char} (h : ¬ c.toNat < 127) (rest : List Char) :
    resolve (escapeAscii c ++ rest) = c :: resolve rest := by
  have hvalid := c.valid
  have hchar : c.toNat.isValidChar := hvalid
  unfold escapeAscii
  rw [if_neg h]
  by_cases hunit : c.toNat < 65536
  · have hhigh : isHigh c.toNat = false := by
      simp only [isHigh, Bool.and_eq_false_iff, decide_eq_false_iff_not]
      unfold Nat.isValidChar at hchar
      omega
    have hlow : isLow c.toNat = false := by
      simp only [isLow, Bool.and_eq_false_iff, decide_eq_false_iff_not]
      unfold Nat.isValidChar at hchar
      omega
    rw [if_pos hunit, resolve, pieces_unitText hunit h, joined_unit hhigh hlow,
      Char.ofNat_toNat]
    rfl
  · have hbound : c.toNat < 1114112 := by
      unfold Nat.isValidChar at hchar
      omega
    have hhigh : isHigh (55296 + (c.toNat - 65536) / 1024) = true := by
      simp only [isHigh, Bool.and_eq_true, decide_eq_true_eq]
      omega
    have hlow : isLow (56320 + (c.toNat - 65536) % 1024) = true := by
      simp only [isLow, Bool.and_eq_true, decide_eq_true_eq]
      omega
    have hcode : 65536 + (55296 + (c.toNat - 65536) / 1024 - 55296) * 1024 +
        (56320 + (c.toNat - 65536) % 1024 - 56320) = c.toNat := by omega
    rw [if_neg hunit, List.append_assoc, resolve, pieces_unitText (by omega) (by omega),
      pieces_unitText (by omega) (by omega), joined, hhigh, hlow, Bool.and_self, if_pos rfl,
      paired, hcode, Char.ofNat_toNat]
    rfl

/-! ## Written texts -/

/-- A text whose backslashes all begin one of the writer's escapes. -/
inductive Escaped : List Char → Prop where
  | nil : Escaped []
  | plain {c : Char} {rest : List Char} : c ≠ '\\' → Escaped rest → Escaped (c :: rest)
  | pair {c : Char} {rest : List Char} : c ≠ 'u' → c.toNat < 127 → Escaped rest →
      Escaped ('\\' :: c :: rest)
  | control {code : ℕ} {rest : List Char} : code < 32 → Escaped rest →
      Escaped ('\\' :: 'u' :: '0' :: '0' :: Nat.digitChar (code / 16) ::
        Nat.digitChar (code % 16) :: rest)

namespace Escaped

theorem append {left right : List Char} (h : Escaped left) (hright : Escaped right) :
    Escaped (left ++ right) := by
  induction h with
  | nil => exact hright
  | plain hplain _ ih => exact .plain hplain ih
  | pair hunit hascii _ ih => exact .pair hunit hascii ih
  | control hcode _ ih => exact .control hcode ih

theorem of_plain {text : List Char} (h : ∀ c ∈ text, c ≠ '\\') : Escaped text := by
  induction text with
  | nil => exact .nil
  | cons c rest ih =>
    rw [List.forall_mem_cons] at h
    exact .plain h.1 (ih h.2)

theorem escape (c : Char) : Escaped (JsonText.escape c) := by
  unfold JsonText.escape
  split_ifs with hquote hslash hline hreturn htab hback hfeed hcontrol
  · exact .pair (by decide) (by decide) .nil
  · exact .pair (by decide) (by decide) .nil
  · exact .pair (by decide) (by decide) .nil
  · exact .pair (by decide) (by decide) .nil
  · exact .pair (by decide) (by decide) .nil
  · exact .pair (by decide) (by decide) .nil
  · exact .pair (by decide) (by decide) .nil
  · exact .control hcontrol .nil
  · exact .plain hslash .nil

theorem flatMap {A : Type} {f : A → List Char} (h : ∀ value, Escaped (f value))
    (values : List A) : Escaped (values.flatMap f) := by
  induction values with
  | nil => exact .nil
  | cons value values ih =>
    rw [List.flatMap_cons]
    exact (h value).append ih

theorem quote (text : String) : Escaped (JsonText.quote text) :=
  .plain (by decide) ((flatMap escape text.toList).append (.plain (by decide) .nil))

theorem pad (style : Style) : Escaped style.pad := by
  cases style with
  | compact => exact .nil
  | spaced => exact .plain (by decide) .nil

theorem separated {style : Style} {texts : List (List Char)}
    (h : ∀ text ∈ texts, Escaped text) : Escaped (JsonText.separated style texts) := by
  induction texts with
  | nil => exact .nil
  | cons text texts ih =>
    rw [List.forall_mem_cons] at h
    cases texts with
    | nil => exact h.1
    | cons next texts => exact h.1.append (.plain (by decide) ((pad style).append (ih h.2)))

theorem write (format : NumberFormat N) (style : Style) (json : Json N) :
    Escaped (JsonText.write format style json) := by
  have hword {word : List Char} (h : word.all isWordChar = true) : Escaped word := by
    apply of_plain
    rintro c hc rfl
    exact absurd (List.all_eq_true.mp h _ hc) (by decide)
  induction json using Json.induction with
  | null => exact @hword ['n', 'u', 'l', 'l'] rfl
  | bool value =>
    cases value with
    | false => exact @hword ['f', 'a', 'l', 's', 'e'] rfl
    | true => exact @hword ['t', 'r', 'u', 'e'] rfl
  | number value => exact hword (List.all_eq_true.mpr (format.isWord value))
  | string value => exact quote value
  | array items ih =>
    refine .plain (by decide) (append (separated ?_) (.plain (by decide) .nil))
    rw [itemTexts_eq_map]
    exact List.forall_mem_map.mpr ih
  | object fields ih =>
    refine .plain (by decide) (append (separated ?_) (.plain (by decide) .nil))
    rw [fieldTexts_eq_map]
    have hfields : ∀ field ∈ fields, Escaped (fieldText format style field) := by
      intro field hfield
      exact (quote _).append (.plain (by decide) ((pad style).append (ih field hfield)))
    exact List.forall_mem_map.mpr hfields

end Escaped

theorem escapeAscii_of_lt {c : Char} (h : c.toNat < 127) : escapeAscii c = [c] := if_pos h

/-- Resolving takes back what was escaped for ASCII, whatever comes after it. -/
theorem resolve_flatMap_append {text : List Char} (h : Escaped text) (tail : List Char) :
    resolve (text.flatMap escapeAscii ++ tail) = text ++ resolve tail := by
  induction h with
  | nil => rfl
  | @plain c rest hplain _ ih =>
    rw [List.flatMap_cons, List.append_assoc]
    by_cases hascii : c.toNat < 127
    · rw [escapeAscii_of_lt hascii, List.singleton_append, resolve, pieces]
      · exact congrArg (c :: ·) ih
      · rintro _ _ _ _ _ rfl
        exact absurd rfl hplain
      · rintro _ _ rfl
        exact absurd rfl hplain
    · rw [resolve_escapeAscii hascii, ih]
      rfl
  | @pair c rest hunit hascii _ ih =>
    rw [List.flatMap_cons, List.flatMap_cons, escapeAscii_of_lt hascii,
      escapeAscii_of_lt (by decide), List.singleton_append, List.singleton_append,
      List.cons_append, List.cons_append, resolve, pieces]
    · exact congrArg (fun text => '\\' :: c :: text) ih
    · rintro _ _ _ _ _ rfl
      exact absurd rfl hunit
  | @control code rest hcode _ ih =>
    have hdigit : ∀ digit < 16, escapeAscii (Nat.digitChar digit) =
        [Nat.digitChar digit] := by decide
    have hunit : unitOf '0' '0' (Nat.digitChar (code / 16)) (Nat.digitChar (code % 16)) =
        some code := by
      unfold unitOf
      rw [show '0' = Nat.digitChar 0 from rfl, hexValue_digitChar 0 (by decide),
        hexValue_digitChar _ (by omega : code / 16 < 16),
        hexValue_digitChar _ (by omega : code % 16 < 16)]
      change some _ = some code
      congr 1
      omega
    have htext : ('\\' :: 'u' :: '0' :: '0' :: Nat.digitChar (code / 16) ::
        Nat.digitChar (code % 16) :: rest).flatMap escapeAscii ++ tail =
        '\\' :: 'u' :: '0' :: '0' :: Nat.digitChar (code / 16) ::
          Nat.digitChar (code % 16) :: (rest.flatMap escapeAscii ++ tail) := by
      rw [List.flatMap_cons, List.flatMap_cons, List.flatMap_cons, List.flatMap_cons,
        List.flatMap_cons, List.flatMap_cons, hdigit _ (by omega : code / 16 < 16),
        hdigit _ (by omega : code % 16 < 16)]
      rfl
    rw [htext, resolve, pieces, hunit]
    change joined (if code < 127 then _ else _) = _
    rw [if_pos (by omega)]
    exact congrArg (_ ++ ·) ih

theorem resolve_flatMap {text : List Char} (h : Escaped text) :
    resolve (text.flatMap escapeAscii) = text := by
  have happend := resolve_flatMap_append h []
  rwa [List.append_nil, show resolve [] = [] from rfl, List.append_nil] at happend

theorem loadsAscii_dumpsAscii (format : NumberFormat N) (style : Style) (json : Json N) :
    loadsAscii format (dumpsAscii format style json) = some json := by
  rw [loadsAscii, dumpsAscii, resolve_flatMap (.write format style json), read_write]

theorem mem_dumpsAscii {format : NumberFormat N} {style : Style} {json : Json N} {c : Char}
    (h : c ∈ dumpsAscii format style json) : 32 ≤ c.toNat ∧ c.toNat < 127 := by
  have hdigit : ∀ digit < 16, 32 ≤ (Nat.digitChar digit).toNat ∧
      (Nat.digitChar digit).toNat < 127 := by decide
  have hunit (unit : ℕ) : ∀ c ∈ unitText unit, 32 ≤ c.toNat ∧ c.toNat < 127 := by
    have hmod (value : ℕ) := hdigit (value % 16) (Nat.mod_lt _ (by decide))
    simp only [unitText, hexDigits, List.forall_mem_cons]
    exact ⟨by decide, by decide, hmod _, hmod _, hmod _, hmod _, List.forall_mem_nil _⟩
  obtain ⟨written, hwritten, hc⟩ := List.mem_flatMap.mp h
  unfold escapeAscii at hc
  split_ifs at hc with hascii hbasic
  · rw [List.mem_singleton] at hc
    subst hc
    rcases mem_write json hwritten with hplain | ⟨_, _, _, hlarge⟩
    · exact ⟨hplain.1, hascii⟩
    · omega
  · exact hunit _ c hc
  · rcases List.mem_append.mp hc with hhigh | hlow
    · exact hunit _ c hhigh
    · exact hunit _ c hlow

end ReisOs.Core.JsonText
