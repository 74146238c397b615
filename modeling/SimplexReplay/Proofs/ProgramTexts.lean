import SimplexReplay.Proofs.DoubleDual
import SimplexReplay.Proofs.ExpressionTexts

/-!
# The text of a program tells the program

A program is written in lines, and no line holds a line break.  The first one opens with a word of
three letters, the line of a constraint is cut at the sign of its relation, and the last line has
the letter of the variables once for each of them.  So the lines, and in them the expressions and
the bounds, can be read off the text, and two programs are equal as soon as their texts are.
-/

namespace SimplexReplay

def isComparison (char : Char) : Bool :=
  char == '<' || char == '=' || char == '>'

theorem Relation.sign_inj {first second : Relation} (same : first.sign = second.sign) :
    first = second := by
  revert same
  cases first <;> cases second <;> decide

namespace Constraint

/-- All numbers of the constraint read back from their texts. -/
structure ReadsBack (constraint : Constraint Float) : Prop where
  coefficient : ∀ coefficient ∈ constraint.coefficients, Decimal.ReadsBack coefficient
  bound : Decimal.ReadsBack constraint.bound

instance (constraint : Constraint Float) : Decidable constraint.ReadsBack :=
  decidable_of_iff ((∀ coefficient ∈ constraint.coefficients, Decimal.ReadsBack coefficient) ∧
      Decimal.ReadsBack constraint.bound)
    ⟨fun ⟨coefficient, bound⟩ => ⟨coefficient, bound⟩,
      fun reads => ⟨reads.coefficient, reads.bound⟩⟩

variable {first second constraint : Constraint Float}

theorem toList_text (constraint : Constraint Float) :
    (constraint.text "x").toList = "    ".toList ++
      (((expressionText constraint.coefficients "x").toList ++ [' ']) ++
        (constraint.relation.sign.toList ++
          ' ' :: (Decimal.shortText constraint.bound).toList)) := by
  simp [text]

theorem ReadsBack.isMark (reads : constraint.ReadsBack) {char : Char}
    (charMem : char ∈ (expressionText constraint.coefficients "x").toList ++ [' ']) :
    Term.IsMark char := by
  rcases List.mem_append.mp charMem with inExpression | blank
  · exact isMark_of_mem_expressionText
      (fun coefficient coefficientMem => (reads.coefficient coefficient coefficientMem).finite)
      inExpression
  · exact Or.inr (Or.inl (List.mem_singleton.mp blank))

theorem newline_notMem_text (reads : constraint.ReadsBack) :
    '\n' ∉ (constraint.text "x").toList := by
  have signClear : '\n' ∉ constraint.relation.sign.toList := by
    cases constraint.relation <;> simp [Relation.sign]
  intro newline
  rw [toList_text] at newline
  rcases List.mem_append.mp newline with inIndent | inBody
  · simp at inIndent
  · rcases List.mem_append.mp inBody with inExpression | inRelation
    · exact absurd (reads.isMark inExpression) (by decide)
    · rcases List.mem_append.mp inRelation with inSign | inBound
      · exact signClear inSign
      · rcases List.mem_cons.mp inBound with blank | inNumber
        · contradiction
        · exact absurd (Decimal.isSizeMark_of_mem_shortText reads.bound.finite inNumber) (by decide)

theorem not_isComparison_of_isMark {char : Char} (mark : Term.IsMark char) :
    isComparison char = false := by
  apply Bool.eq_false_iff.mpr
  intro comparison
  simp only [isComparison, Bool.or_eq_true, beq_iff_eq] at comparison
  rcases comparison with (rfl | rfl) | rfl <;> exact absurd mark (by decide)

/-- The line of a constraint determines it, given the number of its coefficients. -/
theorem beq_of_text_eq (firstReads : first.ReadsBack) (secondReads : second.ReadsBack)
    (lengths : first.coefficients.length = second.coefficients.length)
    (same : first.text "x" = second.text "x") : (first == second) = true := by
  have charsEq := congrArg String.toList same
  rw [toList_text, toList_text] at charsEq
  have opens (relation : Relation) (rest : List Char) :
      ∀ char ∈ (relation.sign.toList ++ rest).head?, isComparison char = true := by
    cases relation <;> simp [Relation.sign, isComparison]
  have blankless (relation : Relation) :
      ∀ char ∈ relation.sign.toList, (char == ' ') = false := by
    cases relation <;> simp [Relation.sign]
  -- The first sign of comparison ends the expression, and the blank behind it ends the relation.
  obtain ⟨expressionEq, relationEq⟩ := append_inj_of_stops isComparison
    (fun _ charMem => not_isComparison_of_isMark (firstReads.isMark charMem))
    (fun _ charMem => not_isComparison_of_isMark (secondReads.isMark charMem))
    (opens first.relation _) (opens second.relation _) (List.append_cancel_left charsEq)
  obtain ⟨signEq, boundEq⟩ := append_inj_of_stops (· == ' ') (blankless first.relation)
    (blankless second.relation) (by simp) (by simp) relationEq
  refine beq_iff.mpr ⟨?_, ?_, ?_⟩
  · exact beq_of_expressionText_eq firstReads.coefficient secondReads.coefficient lengths
      (String.toList_inj.mp (List.append_cancel_right expressionEq))
  · exact Relation.sign_inj (String.toList_inj.mp signEq)
  · exact firstReads.bound.beq_of_shortText_eq secondReads.bound
      (String.toList_inj.mp (List.tail_eq_of_cons_eq boundEq))

theorem beq_of_texts_eq {constraints others : List (Constraint Float)} {width : Nat}
    (reads : ∀ constraint ∈ constraints, constraint.ReadsBack)
    (othersRead : ∀ constraint ∈ others, constraint.ReadsBack)
    (widths : ∀ constraint ∈ constraints, constraint.coefficients.length = width)
    (otherWidths : ∀ constraint ∈ others, constraint.coefficients.length = width)
    (same : constraints.map (·.text "x") = others.map (·.text "x")) :
    (constraints == others) = true := by
  induction constraints generalizing others with
  | nil =>
      obtain rfl := List.map_eq_nil_iff.mp same.symm
      rfl
  | cons constraint rest ih =>
      obtain ⟨other, otherRest, rfl, lineEq, restEq⟩ := List.map_eq_cons_iff.mp same.symm
      rw [List.cons_beq_cons, Bool.and_eq_true]
      constructor
      · apply beq_of_text_eq (reads constraint (by simp)) (othersRead other (by simp)) _ lineEq.symm
        rw [widths constraint (by simp), otherWidths other (by simp)]
      · exact ih (fun kept keptMem => reads kept (List.mem_cons_of_mem constraint keptMem))
          (fun kept keptMem => othersRead kept (List.mem_cons_of_mem other keptMem))
          (fun kept keptMem => widths kept (List.mem_cons_of_mem constraint keptMem))
          (fun kept keptMem => otherWidths kept (List.mem_cons_of_mem other keptMem)) restEq.symm

end Constraint

namespace Program

/-- All numbers of the program read back from their texts. -/
structure ReadsBack (program : Program Float) : Prop where
  cost : ∀ cost ∈ program.costs, Decimal.ReadsBack cost
  constraint : ∀ constraint ∈ program.constraints, constraint.ReadsBack

instance (program : Program Float) : Decidable program.ReadsBack :=
  decidable_of_iff ((∀ cost ∈ program.costs, Decimal.ReadsBack cost) ∧
      ∀ constraint ∈ program.constraints, constraint.ReadsBack)
    ⟨fun ⟨cost, constraint⟩ => ⟨cost, constraint⟩, fun reads => ⟨reads.cost, reads.constraint⟩⟩

variable {first second program : Program Float}

def costLine (program : Program Float) : String :=
  program.objective.word ++ " z = " ++ expressionText program.costs "x"

def signLine (program : Program Float) : String :=
  "    " ++ ", ".intercalate (numberedNames "x" program.variableCount) ++ " " ++ ">= 0"

theorem textLines_eq (program : Program Float) :
    program.textLines "x" ">= 0" =
      program.costLine :: "s.t." :: (program.constraints.map (·.text "x") ++ [program.signLine]) :=
  rfl

theorem toList_numberedNames (count : Nat) :
    (numberedNames "x" count).map String.toList =
      (List.range count).map fun position => 'x' :: Decimal.digits (position + 1) := by
  simp [numberedNames, Decimal.digits]

theorem toList_signLine (program : Program Float) :
    program.signLine.toList = "    ".toList ++
      (", ".toList.intercalate ((List.range program.variableCount).map
        fun position => 'x' :: Decimal.digits (position + 1)) ++ " >= 0".toList) := by
  simp [signLine, String.toList_intercalate, toList_numberedNames]

theorem newline_notMem_costLine (reads : program.ReadsBack) :
    '\n' ∉ program.costLine.toList := by
  have wordClear : '\n' ∉ program.objective.word.toList := by
    cases program.objective <;> simp [Objective.word]
  intro newline
  simp only [costLine, String.toList_append, List.mem_append] at newline
  rcases newline with (inWord | inMiddle) | inExpression
  · exact wordClear inWord
  · simp at inMiddle
  · exact absurd (isMark_of_mem_expressionText
      (fun cost costMem => (reads.cost cost costMem).finite) inExpression) (by decide)

theorem newline_notMem_signLine (program : Program Float) : '\n' ∉ program.signLine.toList := by
  intro newline
  rw [toList_signLine, List.mem_append, List.mem_append] at newline
  rcases newline with inIndent | inNames | inEnd
  · simp at inIndent
  · rcases mem_intercalate inNames with inSeparator | ⟨name, nameMem, inName⟩
    · simp at inSeparator
    · obtain ⟨position, -, rfl⟩ := List.mem_map.mp nameMem
      rcases List.mem_cons.mp inName with letter | inNumber
      · contradiction
      · exact absurd (Decimal.isDigit_of_mem_digits inNumber) (by decide)
  · simp at inEnd

theorem newline_notMem_textLines (reads : program.ReadsBack) :
    ∀ line ∈ (program.textLines "x" ">= 0").map String.toList, '\n' ∉ line := by
  intro line lineMem
  obtain ⟨text, textMem, rfl⟩ := List.mem_map.mp lineMem
  rw [textLines_eq, List.mem_cons, List.mem_cons, List.mem_append, List.mem_singleton] at textMem
  rcases textMem with rfl | rfl | inConstraints | rfl
  · exact newline_notMem_costLine reads
  · simp
  · obtain ⟨constraint, constraintMem, rfl⟩ := List.mem_map.mp inConstraints
    exact Constraint.newline_notMem_text (reads.constraint constraint constraintMem)
  · exact newline_notMem_signLine program

/-- Every variable has the letter once in the line of the signs. -/
theorem count_signLine (program : Program Float) :
    program.signLine.toList.count 'x' = program.variableCount := by
  have once : ∀ name ∈ (List.range program.variableCount).map
      fun position => 'x' :: Decimal.digits (position + 1), name.count 'x' = 1 := by
    intro name nameMem
    obtain ⟨position, -, rfl⟩ := List.mem_map.mp nameMem
    have numberClear : 'x' ∉ Decimal.digits (position + 1) := fun inNumber =>
      absurd (Decimal.isDigit_of_mem_digits inNumber) (by decide)
    rw [List.count_cons_self, List.count_eq_zero.mpr numberClear]
  have ends : "    ".toList.count 'x' = 0 ∧ " >= 0".toList.count 'x' = 0 := by simp
  rw [toList_signLine, List.count_append, List.count_append, ends.1, ends.2,
    count_intercalate (by simp) once, List.length_map, List.length_range]
  omega

/-- The lines can be read off the text. -/
theorem textLines_eq_of_standardText_eq (firstReads : first.ReadsBack)
    (secondReads : second.ReadsBack) (same : first.standardText = second.standardText) :
    first.textLines "x" ">= 0" = second.textLines "x" ">= 0" := by
  have split {program : Program Float} (reads : program.ReadsBack) :
      program.standardText.toList.splitOn '\n' =
        (program.textLines "x" ">= 0").map String.toList := by
    rw [standardText, text, String.toList_intercalate]
    exact List.splitOn_intercalate '\n' (newline_notMem_textLines reads) (by simp [textLines])
  have charsEq : (first.textLines "x" ">= 0").map String.toList =
      (second.textLines "x" ">= 0").map String.toList := by
    rw [← split firstReads, ← split secondReads, same]
  exact (List.map_injective_iff.mpr fun _ _ => String.toList_inj.mp) charsEq

theorem objective_eq_and_costs_of_costLine_eq (same : first.costLine = second.costLine) :
    first.objective = second.objective ∧
      expressionText first.costs "x" = expressionText second.costs "x" := by
  have charsEq := congrArg String.toList same
  have wordLength (objective : Objective) : objective.word.toList.length = 3 := by
    cases objective <;> simp [Objective.word]
  have word_inj : ∀ first second : Objective, first.word = second.word → first = second := by
    intro first second
    cases first <;> cases second <;> decide
  simp only [costLine, String.toList_append] at charsEq
  obtain ⟨headEq, expressionEq⟩ := List.append_inj charsEq (by simp [wordLength])
  obtain ⟨wordEq, -⟩ := List.append_inj headEq (by rw [wordLength, wordLength])
  exact ⟨word_inj _ _ (String.toList_inj.mp wordEq), String.toList_inj.mp expressionEq⟩

/-- The text of a program determines it: two programs that pass the shape check and whose numbers
read back from their texts are equal as soon as their texts are. -/
theorem beq_of_standardText_eq (firstChecked : first.checkShape = .ok ())
    (secondChecked : second.checkShape = .ok ()) (firstReads : first.ReadsBack)
    (secondReads : second.ReadsBack) (same : first.standardText = second.standardText) :
    (first == second) = true := by
  have firstShaped := (checkShape_eq_ok_iff first).mp firstChecked
  have secondShaped := (checkShape_eq_ok_iff second).mp secondChecked
  have linesEq := textLines_eq_of_standardText_eq firstReads secondReads same
  rw [textLines_eq, textLines_eq, List.cons.injEq, List.cons.injEq] at linesEq
  obtain ⟨costEq, -, restEq⟩ := linesEq
  obtain ⟨constraintsEq, signEq⟩ := List.append_inj' restEq rfl
  obtain ⟨objectiveEq, expressionEq⟩ := objective_eq_and_costs_of_costLine_eq costEq
  -- An expression does not tell how many zeros end it; the line of the signs does.
  have widthEq : first.variableCount = second.variableCount := by
    rw [← count_signLine first, ← count_signLine second, List.singleton_inj.mp signEq]
  refine beq_iff.mpr ⟨objectiveEq, ?_, ?_⟩
  · exact beq_of_expressionText_eq firstReads.cost secondReads.cost widthEq expressionEq
  · apply Constraint.beq_of_texts_eq firstReads.constraint secondReads.constraint
      firstShaped.2.2 _ constraintsEq
    rw [widthEq]
    exact secondShaped.2.2

/-- A program with a large, a small and a negative coefficient, and with zeros. -/
def sparse : Program Float where
  objective := .minimize
  costs := [1, 0.0, -1e-07]
  constraints := [⟨[-1, 0.0, 2.5e+08], .atLeast, -4.5⟩, ⟨[0.0, 0.0, 0.0], .equal, 0.0⟩]

/-- The sparse program under other signs of the zeros that its text leaves out. -/
def resigned : Program Float where
  objective := .minimize
  costs := [1, -0.0, -1e-07]
  constraints := [⟨[-1, -0.0, 2.5e+08], .atLeast, -4.5⟩, ⟨[-0.0, 0.0, -0.0], .equal, 0.0⟩]

/-- The sparse program and the one with other zeros have one text and are equal. -/
theorem sparse_beq_resigned :
    sparse.checkShape = .ok () ∧ resigned.checkShape = .ok () ∧ sparse.ReadsBack ∧
      resigned.ReadsBack ∧ sparse.standardText = resigned.standardText ∧
      sparse.standardText = "min z = x1 - 1e-07x3\ns.t.\n    -x1 + 2.5e+08x3 >= -4.5\n" ++
        "    0 = 0\n    x1, x2, x3 >= 0" ∧
      (sparse == resigned) = true := by
  have sparseReads : sparse.ReadsBack := by decide +kernel
  have resignedReads : resigned.ReadsBack := by decide +kernel
  have same : sparse.standardText = resigned.standardText := by decide +kernel
  exact ⟨rfl, rfl, sparseReads, resignedReads, same, by decide +kernel,
    beq_of_standardText_eq rfl rfl sparseReads resignedReads same⟩

end Program

end SimplexReplay
