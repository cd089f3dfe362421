import Mathlib.Data.Int.Notation
import Mathlib.Data.List.Basic

/-!
# Numbered identifiers

Identifiers that end in a colon and a decimal number determine both their stem and
their number, whatever characters the stem has.
-/

namespace ReisOs.Core

/-- `{stem}:{number}`. -/
def withNumber (stem : String) (number : ℕ) : String := stem ++ ":" ++ number.repr

theorem toDigits_injective {left right : ℕ}
    (h : Nat.toDigits 10 left = Nat.toDigits 10 right) : left = right := by
  rw [← Nat.ofDigitChars_ten_toDigits (n := left), h, Nat.ofDigitChars_ten_toDigits]

theorem colon_not_mem_toDigits (number : ℕ) : ':' ∉ Nat.toDigits 10 number := by
  intro hcolon
  have hdigit := Nat.isDigit_of_mem_toDigits (by decide) (by decide) hcolon
  exact absurd hdigit (by decide)

theorem append_cons_inj_of_not_mem {A : Type*} {separator : A} {left right tail tail' : List A}
    (htail : separator ∉ tail) (htail' : separator ∉ tail')
    (h : left ++ separator :: tail = right ++ separator :: tail') :
    left = right ∧ tail = tail' := by
  rcases List.append_eq_append_iff.mp h with
    ⟨between, hright, hcons⟩ | ⟨between, hleft, hcons⟩
  · cases between with
    | nil => simpa [eq_comm] using And.intro hright hcons
    | cons head between =>
      have htail_eq : tail = between ++ separator :: tail' := by
        simpa using (List.cons.inj hcons).2
      exact absurd (by simp [htail_eq]) htail
  · cases between with
    | nil => simpa [eq_comm] using And.intro hleft hcons
    | cons head between =>
      have htail_eq : tail' = between ++ separator :: tail := by
        simpa using (List.cons.inj hcons).2
      exact absurd (by simp [htail_eq]) htail'

theorem withNumber_inj {left right : String} {number number' : ℕ}
    (h : withNumber left number = withNumber right number') :
    left = right ∧ number = number' := by
  have hlists := congrArg String.toList h
  simp only [withNumber, String.toList_append, Nat.toList_repr, List.append_assoc] at hlists
  have hparts := append_cons_inj_of_not_mem (colon_not_mem_toDigits number)
    (colon_not_mem_toDigits number') hlists
  exact ⟨String.toList_injective hparts.1, toDigits_injective hparts.2⟩

theorem colon_not_mem_toString (number : ℤ) : ':' ∉ (toString number).toList := by
  cases number with
  | ofNat number =>
    change ':' ∉ number.repr.toList
    rw [Nat.toList_repr]
    exact colon_not_mem_toDigits number
  | negSucc number =>
    change ':' ∉ ("-" ++ (number + 1).repr).toList
    rw [String.toList_append, Nat.toList_repr, List.mem_append, not_or]
    exact ⟨by decide, colon_not_mem_toDigits (number + 1)⟩

theorem stem_inj {left right : String} {number number' : ℤ}
    (h : left ++ ":" ++ toString number = right ++ ":" ++ toString number') : left = right := by
  have hlists := congrArg String.toList h
  simp only [String.toList_append, List.append_assoc] at hlists
  have hparts := append_cons_inj_of_not_mem (colon_not_mem_toString number)
    (colon_not_mem_toString number') hlists
  exact String.toList_injective hparts.1

/-- The decimal digits of a number, with zeros in front up to a width. -/
def zeroPadded (width number : ℕ) : String :=
  String.ofList ((Nat.toDigits 10 number).leftpad width '0')

theorem zeroPadded_injective (width : ℕ) : Function.Injective (zeroPadded width) := by
  intro left right h
  have hlists := String.ofList_injective h
  have hvalues := congrArg (fun digits => Nat.ofDigitChars 10 digits 0) hlists
  simpa [List.leftpad, Nat.ofDigitChars_append] using hvalues

end ReisOs.Core
