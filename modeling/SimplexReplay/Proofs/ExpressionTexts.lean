import SimplexReplay.Program.Dual
import SimplexReplay.Proofs.JoinedTexts
import SimplexReplay.Proofs.SizeTexts

/-!
# The text of a linear expression tells its coefficients

A linear expression is written as a list of terms: a sign, the text of a size and the number of a
variable.  No size holds a blank or the letter of the variables, so the letter ends the size and a
blank ends the number, and the terms can be read off the text one after the other.  What is left out
of the text comes back with them: a coefficient is zero exactly if no term has its number, and of
size one exactly if its term has no size.
-/

namespace SimplexReplay

theorem Decimal.digits_inj {first second : Nat} (same : digits first = digits second) :
    first = second := by
  have read := congrArg (Nat.ofDigitChars 10 · 0) same
  simpa only [digits, Nat.ofDigitChars_ten_toDigits] using read

/-- A term of a linear expression as it is written.  The text of a size of one is empty. -/
structure Term where
  isNegative : Bool
  size : List Char
  number : Nat

namespace Term

def opening : (isFirst isNegative : Bool) → List Char
  | true, true => ['-']
  | true, false => []
  | false, true => [' ', '-', ' ']
  | false, false => [' ', '+', ' ']

def chars (term : Term) (isFirst : Bool) : List Char :=
  opening isFirst term.isNegative ++ term.size ++ 'x' :: Decimal.digits term.number

def expression : (isFirst : Bool) → List Term → List Char
  | isFirst, [] => if isFirst then ['0'] else []
  | isFirst, term :: terms => term.chars isFirst ++ expression false terms

/-- The size of a term is left out or written as that of a number. -/
def Plain (term : Term) : Prop :=
  term.size = [] ∨ Decimal.IsSize term.size

theorem Plain.marks {term : Term} (plain : term.Plain) :
    ∀ char ∈ term.size, Decimal.IsSizeMark char := by
  rcases plain with empty | isSize
  · simp [empty]
  · exact isSize.marks

theorem Plain.isDigit_head {term : Term} (plain : term.Plain) :
    ∀ char ∈ term.size.head?, char.isDigit = true := by
  rcases plain with empty | isSize
  · simp [empty]
  · obtain ⟨first, rest, shown, digit⟩ := isSize.opens
    simpa [shown] using digit

/-- The characters that an expression can have. -/
def IsMark (char : Char) : Prop :=
  Decimal.IsSizeMark char ∨ char = ' ' ∨ char = 'x'

instance (char : Char) : Decidable (IsMark char) :=
  inferInstanceAs (Decidable (_ ∨ _ ∨ _))

theorem isMark_of_mem_opening {isFirst isNegative : Bool} {char : Char}
    (charMem : char ∈ opening isFirst isNegative) :
    char = ' ' ∨ char = '+' ∨ char = '-' := by
  revert charMem
  cases isFirst <;> cases isNegative <;> simp [opening] <;> tauto

/-- The sign and the size of a term can be told from what they make together: no size opens with a
sign. -/
theorem opening_append_inj {first second : Term} (isFirst : Bool) (firstPlain : first.Plain)
    (secondPlain : second.Plain)
    (same : opening isFirst first.isNegative ++ first.size =
      opening isFirst second.isNegative ++ second.size) :
    first.isNegative = second.isNegative ∧ first.size = second.size := by
  have unsigned {term : Term} (plain : term.Plain) (rest : List Char) :
      term.size ≠ '-' :: rest := by
    intro shown
    have digit := plain.isDigit_head '-' (by simp [shown])
    contradiction
  cases isFirst with
  | false =>
      cases firstSign : first.isNegative <;> cases secondSign : second.isNegative <;>
        simp_all [opening]
  | true =>
      cases firstSign : first.isNegative <;> cases secondSign : second.isNegative <;>
        rw [firstSign, secondSign] at same
      · exact ⟨rfl, same⟩
      · exact absurd same (unsigned firstPlain second.size)
      · exact absurd same.symm (unsigned secondPlain first.size)
      · exact ⟨rfl, List.append_cancel_left same⟩

theorem letter_mem_chars (term : Term) (isFirst : Bool) : 'x' ∈ term.chars isFirst := by
  simp [chars]

theorem isMark_of_mem_expression {isFirst : Bool} {terms : List Term}
    (plain : ∀ term ∈ terms, term.Plain) {char : Char} (charMem : char ∈ expression isFirst terms) :
    IsMark char := by
  induction terms generalizing isFirst with
  | nil =>
      cases isFirst with
      | false => exact nomatch charMem
      | true =>
          obtain rfl := List.mem_singleton.mp charMem
          exact Or.inl (by decide)
  | cons term terms ih =>
      rw [expression, List.mem_append] at charMem
      rcases charMem with inTerm | inRest
      · simp only [chars, List.mem_append, List.mem_cons] at inTerm
        rcases inTerm with (inOpening | inSize) | letter | inNumber
        · rcases isMark_of_mem_opening inOpening with rfl | rfl | rfl
          · exact Or.inr (Or.inl rfl)
          · exact Or.inl (by decide)
          · exact Or.inl (by decide)
        · exact Or.inl ((plain term (by simp)).marks char inSize)
        · exact Or.inr (Or.inr letter)
        · exact Or.inl (Or.inl (Decimal.isDigit_of_mem_digits inNumber))
      · exact ih (fun other otherMem => plain other (List.mem_cons_of_mem term otherMem)) inRest

/-- Terms that follow another one begin with a blank. -/
theorem head_expression_false (terms : List Term) :
    ∀ char ∈ (expression false terms).head?, (char == ' ') = true := by
  cases terms with
  | nil => simp [expression]
  | cons term terms => cases sign : term.isNegative <;> simp [expression, chars, opening, sign]

/-- A term before a blank or the end can be told from what follows. -/
theorem chars_append_inj {isFirst : Bool} {first second : Term} (firstPlain : first.Plain)
    (secondPlain : second.Plain) {firstRest secondRest : List Char}
    (firstStop : ∀ char ∈ firstRest.head?, (char == ' ') = true)
    (secondStop : ∀ char ∈ secondRest.head?, (char == ' ') = true)
    (same : first.chars isFirst ++ firstRest = second.chars isFirst ++ secondRest) :
    first = second ∧ firstRest = secondRest := by
  have letterless {term : Term} (plain : term.Plain) :
      ∀ char ∈ opening isFirst term.isNegative ++ term.size, (char == 'x') = false := by
    intro char charMem
    apply beq_eq_false_iff_ne.mpr
    rintro rfl
    rcases List.mem_append.mp charMem with inOpening | inSize
    · have sign := isMark_of_mem_opening inOpening
      contradiction
    · exact absurd (plain.marks 'x' inSize) (by decide)
  have blankless (number : Nat) :
      ∀ char ∈ Decimal.digits number, (char == ' ') = false := by
    intro char charMem
    apply beq_eq_false_iff_ne.mpr
    rintro rfl
    exact absurd (Decimal.isDigit_of_mem_digits charMem) (by decide)
  -- The letter ends the size, and a blank or the end of the text ends the number.
  have split : (opening isFirst first.isNegative ++ first.size) ++
        'x' :: (Decimal.digits first.number ++ firstRest) =
      (opening isFirst second.isNegative ++ second.size) ++
        'x' :: (Decimal.digits second.number ++ secondRest) := by
    simpa only [chars, List.append_assoc, List.cons_append] using same
  obtain ⟨signedSizeEq, letterEq⟩ := append_inj_of_stops (· == 'x') (letterless firstPlain)
    (letterless secondPlain) (by simp) (by simp) split
  obtain ⟨digitsEq, restEq⟩ := append_inj_of_stops (· == ' ') (blankless first.number)
    (blankless second.number) firstStop secondStop (List.tail_eq_of_cons_eq letterEq)
  obtain ⟨signEq, sizeEq⟩ := opening_append_inj isFirst firstPlain secondPlain signedSizeEq
  obtain ⟨isNegative, size, number⟩ := first
  obtain rfl : isNegative = second.isNegative := signEq
  obtain rfl : size = second.size := sizeEq
  obtain rfl : number = second.number := Decimal.digits_inj digitsEq
  exact ⟨rfl, restEq⟩

/-- No two lists of terms are written alike. -/
theorem expression_inj {isFirst : Bool} {first second : List Term}
    (firstPlain : ∀ term ∈ first, term.Plain) (secondPlain : ∀ term ∈ second, term.Plain)
    (same : expression isFirst first = expression isFirst second) : first = second := by
  -- Without terms there is no letter.
  have letterless (isFirst : Bool) (term : Term) (terms : List Term) :
      expression isFirst [] ≠ expression isFirst (term :: terms) := by
    intro alike
    have letterMem : 'x' ∈ expression isFirst (term :: terms) :=
      List.mem_append_left _ (letter_mem_chars term isFirst)
    rw [← alike] at letterMem
    cases isFirst <;> simp [expression] at letterMem
  induction first generalizing isFirst second with
  | nil =>
      cases second with
      | nil => rfl
      | cons other others => exact absurd same (letterless isFirst other others)
  | cons term terms ih =>
      cases second with
      | nil => exact absurd same.symm (letterless isFirst term terms)
      | cons other others =>
          obtain ⟨rfl, restEq⟩ := chars_append_inj (firstPlain term (by simp))
            (secondPlain other (by simp)) (head_expression_false terms)
            (head_expression_false others) same
          rw [ih (fun kept keptMem => firstPlain kept (List.mem_cons_of_mem term keptMem))
            (fun kept keptMem => secondPlain kept (List.mem_cons_of_mem term keptMem)) restEq]

def sizeChars (coefficient : Float) : List Char :=
  if coefficient.abs == 1.0 then [] else (Decimal.shortText coefficient.abs).toList

/-- The term of a coefficient of the variable at `position`. -/
def ofCoefficient (position : Nat) (coefficient : Float) : Term :=
  ⟨decide (coefficient < 0.0), sizeChars coefficient, position⟩

/-- The terms of an expression whose first coefficient belongs to the variable at `position`. -/
def ofCoefficients : (position : Nat) → List Float → List Term
  | _, [] => []
  | position, coefficient :: rest =>
      if coefficient == 0.0 then ofCoefficients (position + 1) rest
      else ofCoefficient position coefficient :: ofCoefficients (position + 1) rest

theorem toList_termText (isFirst : Bool) (coefficient : Float) (position : Nat) :
    (termText isFirst coefficient ("x" ++ toString position)).toList =
      (ofCoefficient position coefficient).chars isFirst := by
  have size : (if coefficient.abs == 1.0 then "" else Decimal.shortText coefficient.abs).toList =
      sizeChars coefficient := by
    rw [sizeChars, apply_ite String.toList]
    rfl
  cases isFirst <;> by_cases below : coefficient < 0.0 <;>
    simp [termText, ofCoefficient, chars, opening, below, Decimal.digits, ← size]

theorem toList_termsFrom (isFirst : Bool) (position : Nat) (coefficients : List Float) :
    (termsFrom "x" isFirst position coefficients).toList =
      expression isFirst (ofCoefficients position coefficients) := by
  induction coefficients generalizing isFirst position with
  | nil => cases isFirst <;> simp [termsFrom, ofCoefficients, expression]
  | cons coefficient rest ih =>
      rw [termsFrom, ofCoefficients]
      split
      · exact ih isFirst (position + 1)
      · rw [String.toList_append, toList_termText, ih, expression]

theorem plain_ofCoefficient {coefficient : Float} (finite : coefficient.isFinite = true)
    (position : Nat) : (ofCoefficient position coefficient).Plain := by
  change sizeChars coefficient = [] ∨ Decimal.IsSize (sizeChars coefficient)
  rw [sizeChars]
  split
  · exact Or.inl rfl
  · exact Or.inr (Decimal.isSize_shortText_abs finite)

theorem plain_of_mem_ofCoefficients {position : Nat} {coefficients : List Float}
    (finite : ∀ coefficient ∈ coefficients, coefficient.isFinite = true) {term : Term}
    (termMem : term ∈ ofCoefficients position coefficients) : term.Plain := by
  induction coefficients generalizing position with
  | nil => exact nomatch termMem
  | cons coefficient rest ih =>
      have later := fun other otherMem => finite other (List.mem_cons_of_mem coefficient otherMem)
      rw [ofCoefficients] at termMem
      split at termMem
      · exact ih later termMem
      · rcases List.mem_cons.mp termMem with rfl | inRest
        · exact plain_ofCoefficient (finite coefficient (by simp)) position
        · exact ih later inRest

theorem le_number_of_mem_ofCoefficients {position : Nat} {coefficients : List Float} {term : Term}
    (termMem : term ∈ ofCoefficients position coefficients) : position ≤ term.number := by
  induction coefficients generalizing position with
  | nil => exact nomatch termMem
  | cons coefficient rest ih =>
      rw [ofCoefficients] at termMem
      split at termMem
      · exact Nat.le_of_succ_le (ih termMem)
      · rcases List.mem_cons.mp termMem with rfl | inRest
        · exact le_refl position
        · exact Nat.le_of_succ_le (ih inRest)

/-- A size that is left out is one, and no other size is written without a digit. -/
theorem shortText_abs_eq_of_sizeChars_eq {first second : Float}
    (firstFinite : first.isFinite = true) (secondFinite : second.isFinite = true)
    (same : sizeChars first = sizeChars second) :
    (Decimal.shortText first.abs).toList = (Decimal.shortText second.abs).toList := by
  have written {value : Float} (finite : value.isFinite = true) :
      (Decimal.shortText value.abs).toList ≠ [] := by
    obtain ⟨opening, rest, shown, -⟩ := (Decimal.isSize_shortText_abs finite).opens
    simp [shown]
  have one {value : Float} (equal : (value == 1.0) = true) : value = 1.0 := by
    obtain ⟨-, -, same | zeros | zeros⟩ := Float.beq_iff_ne_nan_and_eq.mp equal
    · exact same
    · exact absurd zeros.2 (by decide +kernel)
    · exact absurd zeros.2 (by decide +kernel)
  rw [sizeChars, sizeChars] at same
  split at same
  · rename_i firstOne
    split at same
    · rename_i secondOne
      rw [one firstOne, one secondOne]
    · exact absurd same.symm (written secondFinite)
  · split at same
    · exact absurd same (written firstFinite)
    · exact same

theorem beq_of_ofCoefficient_eq {position : Nat} {first second : Float}
    (firstReads : Decimal.ReadsBack first) (secondReads : Decimal.ReadsBack second)
    (firstNonzero : (first == 0.0) = false) (secondNonzero : (second == 0.0) = false)
    (same : ofCoefficient position first = ofCoefficient position second) :
    (first == second) = true := by
  have sideEq : decide (first < 0.0) = decide (second < 0.0) := congrArg isNegative same
  have sizeEq : sizeChars first = sizeChars second := congrArg size same
  exact firstReads.beq_of_abs secondReads firstNonzero secondNonzero (decide_eq_decide.mp sideEq)
    (shortText_abs_eq_of_sizeChars_eq firstReads.finite secondReads.finite sizeEq)

/-- The terms of an expression and the number of its coefficients determine the coefficients. -/
theorem beq_of_ofCoefficients_eq {position : Nat} {first second : List Float}
    (firstReads : ∀ coefficient ∈ first, Decimal.ReadsBack coefficient)
    (secondReads : ∀ coefficient ∈ second, Decimal.ReadsBack coefficient)
    (lengths : first.length = second.length)
    (same : ofCoefficients position first = ofCoefficients position second) :
    (first == second) = true := by
  induction first generalizing position second with
  | nil =>
      obtain rfl := List.eq_nil_of_length_eq_zero lengths.symm
      rfl
  | cons coefficient rest ih =>
      obtain ⟨other, others, rfl⟩ := List.exists_cons_of_length_eq_add_one lengths.symm
      have restBeq : ofCoefficients (position + 1) rest = ofCoefficients (position + 1) others →
          (rest == others) = true :=
        ih (fun kept keptMem => firstReads kept (List.mem_cons_of_mem coefficient keptMem))
          (fun kept keptMem => secondReads kept (List.mem_cons_of_mem other keptMem))
          (Nat.succ.inj lengths)
      -- The term of a coefficient is numbered below all terms that follow.
      have notLater (value : Float) (coefficients : List Float) (terms : List Term) :
          ofCoefficients (position + 1) coefficients ≠ ofCoefficient position value :: terms := by
        intro alike
        have later : position + 1 ≤ position :=
          le_number_of_mem_ofCoefficients (alike ▸ List.mem_cons_self)
        omega
      rw [List.cons_beq_cons, Bool.and_eq_true]
      rw [ofCoefficients, ofCoefficients] at same
      by_cases firstZero : (coefficient == 0.0) = true <;>
        by_cases secondZero : (other == 0.0) = true
      · rw [if_pos firstZero, if_pos secondZero] at same
        exact ⟨Double.beq_of_beq (Double.beq_symm firstZero) (Double.beq_symm secondZero),
          restBeq same⟩
      · rw [if_pos firstZero, if_neg secondZero] at same
        exact absurd same (notLater other rest _)
      · rw [if_neg firstZero, if_pos secondZero] at same
        exact absurd same.symm (notLater coefficient others _)
      · rw [if_neg firstZero, if_neg secondZero] at same
        obtain ⟨termEq, sameRest⟩ := List.cons.inj same
        have memberBeq := beq_of_ofCoefficient_eq (firstReads coefficient (by simp))
          (secondReads other (by simp)) (Bool.eq_false_iff.mpr firstZero)
          (Bool.eq_false_iff.mpr secondZero) termEq
        exact ⟨memberBeq, restBeq sameRest⟩

end Term

section Expressions

variable {first second : List Float}

theorem toList_expressionText (coefficients : List Float) :
    (expressionText coefficients "x").toList =
      Term.expression true (Term.ofCoefficients 1 coefficients) :=
  Term.toList_termsFrom true 1 coefficients

theorem isMark_of_mem_expressionText {coefficients : List Float}
    (finite : ∀ coefficient ∈ coefficients, coefficient.isFinite = true) {char : Char}
    (charMem : char ∈ (expressionText coefficients "x").toList) : Term.IsMark char := by
  rw [toList_expressionText] at charMem
  exact Term.isMark_of_mem_expression (fun term => Term.plain_of_mem_ofCoefficients finite) charMem

theorem beq_of_expressionText_eq
    (firstReads : ∀ coefficient ∈ first, Decimal.ReadsBack coefficient)
    (secondReads : ∀ coefficient ∈ second, Decimal.ReadsBack coefficient)
    (lengths : first.length = second.length)
    (same : expressionText first "x" = expressionText second "x") : (first == second) = true := by
  have charsEq := congrArg String.toList same
  rw [toList_expressionText, toList_expressionText] at charsEq
  have termsEq := Term.expression_inj
    (fun _ => Term.plain_of_mem_ofCoefficients fun coefficient coefficientMem =>
      (firstReads coefficient coefficientMem).finite)
    (fun _ => Term.plain_of_mem_ofCoefficients fun coefficient coefficientMem =>
      (secondReads coefficient coefficientMem).finite) charsEq
  exact Term.beq_of_ofCoefficients_eq firstReads secondReads lengths termsEq

end Expressions

end SimplexReplay
