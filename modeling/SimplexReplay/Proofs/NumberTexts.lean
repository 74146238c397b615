import Mathlib.Data.List.Basic
import Mathlib.Tactic.Push
import SimplexReplay.Decimal.Layout

/-!
# The characters of written numbers

Whatever the layout, the text of a finite double is a sign, if it is below zero, and then a size.  A
size opens with a digit and has no other characters than digits, points, exponent letters and the
signs of exponents.
-/

namespace SimplexReplay.Decimal

def IsSizeMark (char : Char) : Prop :=
  char.isDigit = true ∨ char ∈ ['.', 'e', '+', '-']

instance (char : Char) : Decidable (IsSizeMark char) :=
  inferInstanceAs (Decidable (_ ∨ _))

structure IsSize (chars : List Char) : Prop where
  opens : ∃ first rest, chars = first :: rest ∧ first.isDigit = true
  marks : ∀ char ∈ chars, IsSizeMark char

theorem isDigit_of_mem_digits {number : Nat} {char : Char} (charMem : char ∈ digits number) :
    char.isDigit = true :=
  Nat.isDigit_of_mem_toDigits (by decide) (by decide) charMem

theorem isSize_digits (number : Nat) : IsSize (digits number) where
  opens := by
    have written : digits number ≠ [] := Nat.toDigits_ne_nil
    obtain ⟨first, rest, shown⟩ := List.exists_cons_of_ne_nil written
    exact ⟨first, rest, shown, isDigit_of_mem_digits (shown ▸ List.mem_cons_self)⟩
  marks char charMem := Or.inl (isDigit_of_mem_digits charMem)

theorem IsSize.append {chars others : List Char} (isSize : IsSize chars)
    (marks : ∀ char ∈ others, IsSizeMark char) : IsSize (chars ++ others) where
  opens := by
    obtain ⟨first, rest, rfl, digit⟩ := isSize.opens
    exact ⟨first, rest ++ others, rfl, digit⟩
  marks char charMem := (List.mem_append.mp charMem).elim (isSize.marks char) (marks char)

theorem isSizeMark_of_mem_exponentText {exponent : Int} {char : Char}
    (charMem : char ∈ exponentText exponent) : IsSizeMark char := by
  simp only [exponentText, List.mem_cons] at charMem
  rcases charMem with rfl | padded
  · split <;> decide
  · split at padded
    · rcases List.mem_cons.mp padded with rfl | digit
      · decide
      · exact Or.inl (isDigit_of_mem_digits digit)
    · exact Or.inl (isDigit_of_mem_digits padded)

theorem isSize_positional {shown : List Char} (keepsPoint : Bool) (isSize : IsSize shown)
    (leading : Int) : IsSize (positional keepsPoint shown leading) := by
  have zeros (count : Nat) (char : Char) (charMem : char ∈ List.replicate count '0') :
      IsSizeMark char := by
    rw [List.eq_of_mem_replicate charMem]
    decide
  rw [positional]
  split
  · refine ⟨⟨'0', _, rfl, rfl⟩, ?_⟩
    intro char charMem
    simp only [List.mem_cons, List.mem_append] at charMem
    rcases charMem with rfl | rfl | zero | digit
    · decide
    · decide
    · exact zeros _ char zero
    · exact isSize.marks char digit
  · obtain ⟨first, rest, rfl, digit⟩ := isSize.opens
    -- At least one digit stands before the point.
    have whole : IsSize ((first :: rest).take (leading.toNat + 1)) :=
      ⟨⟨first, _, List.take_succ_cons, digit⟩,
        fun char charMem => isSize.marks char (List.mem_of_mem_take charMem)⟩
    dsimp only
    split
    · refine (whole.append (zeros _)).append ?_
      split <;> simp [IsSizeMark]
    · refine whole.append ?_
      intro char charMem
      rcases List.mem_cons.mp charMem with rfl | fraction
      · decide
      · exact isSize.marks char (List.mem_of_mem_drop fraction)

theorem isSize_scientific {shown : List Char} (isSize : IsSize shown) (leading : Int) :
    IsSize (scientific shown leading) := by
  have behind : ∀ char ∈ 'e' :: exponentText leading, IsSizeMark char := by
    intro char charMem
    rcases List.mem_cons.mp charMem with rfl | charMem
    · decide
    · exact isSizeMark_of_mem_exponentText charMem
  obtain ⟨first, rest, rfl, digit⟩ := isSize.opens
  have single : IsSize [first] :=
    ⟨⟨first, [], rfl, digit⟩, fun char charMem => Or.inl (List.mem_singleton.mp charMem ▸ digit)⟩
  cases rest with
  | nil => exact single.append behind
  | cons second rest =>
      refine single.append fun char charMem => ?_
      rcases List.mem_cons.mp charMem with rfl | charMem
      · decide
      · rcases List.mem_append.mp charMem with digits | exponent
        · exact isSize.marks char (List.mem_cons_of_mem first digits)
        · exact behind char exponent

namespace Layout

def sizeText (layout : Layout) (value : Decimal) : List Char :=
  (layout.write { value with negative := false }).toList

theorem isSize_sizeText (layout : Layout) (value : Decimal) : IsSize (layout.sizeText value) := by
  have digits := isSize_digits value.significand
  simp only [sizeText, write, Bool.false_eq_true, if_false, String.toList_ofList]
  split
  · exact isSize_positional layout.keepsPoint digits _
  · exact isSize_scientific digits _

theorem toList_write (layout : Layout) (value : Decimal) :
    (layout.write value).toList =
      if value.negative then '-' :: layout.sizeText value else layout.sizeText value := by
  obtain ⟨negative, significand, exponent⟩ := value
  cases negative with
  | false => rfl
  | true =>
      simp only [sizeText, write, if_true, String.toList_ofList]
      rfl

end Layout

/-- The text of a double opens with a digit, with a minus sign or with the first letter of a word
for what is no number. -/
theorem Layout.exists_opening (layout : Layout) (value : Float) :
    ∃ first rest, (layout.text value).toList = first :: rest ∧
      (first.isDigit = true ∨ first ∈ ['-', 'n', 'i']) := by
  rw [text]
  split
  · exact ⟨'n', ['a', 'n'], rfl, by decide⟩
  · rename_i negative _
    cases negative with
    | false => exact ⟨'i', ['n', 'f'], rfl, by decide⟩
    | true => exact ⟨'-', ['i', 'n', 'f'], rfl, by decide⟩
  · rename_i binary _
    rw [toList_write]
    split
    · exact ⟨'-', _, rfl, by decide⟩
    · obtain ⟨first, rest, shown, digit⟩ := (layout.isSize_sizeText (layout.round binary)).opens
      exact ⟨first, rest, shown, Or.inl digit⟩

end SimplexReplay.Decimal
