import SimplexReplay.Decimal.Reading

/-!
# Numerals

A line of digits is read as an integer exactly when each digit belongs to a decimal system and
there are not too many of them, and then it is read as the number that the digits stand for, most
significant first.  Digits are neither blanks nor signs nor underscores, so nothing else that the
reader of integers looks for can occur among them.
-/

namespace SimplexReplay

namespace Text

theorem inRanges_iff {ranges : List (Nat × Nat)} {code : Nat} :
    inRanges ranges code = true ↔ ∃ range ∈ ranges, range.1 ≤ code ∧ code ≤ range.2 := by
  simp [inRanges]

theorem isDigit_of_decimalValue? {char : Char} {value : Nat}
    (decimal : decimalValue? char = some value) : isDigit char = true := by
  simp [isDigit, decimal]

/-- No character is both a digit and a blank. -/
theorem isBlank_eq_false_of_isDigit {char : Char} (digit : isDigit char = true) :
    isBlank char = false := by
  have decimalsApart : ∀ range ∈ blankRanges, ∀ least ∈ decimalZeros,
      range.2 < least ∨ least + 9 < range.1 := by decide
  have shapesApart : ∀ range ∈ blankRanges, ∀ shape ∈ digitShapeRanges,
      range.2 < shape.1 ∨ shape.2 < range.1 := by decide
  apply Bool.eq_false_iff.mpr
  intro blank
  obtain ⟨range, rangeMem, low, high⟩ := inRanges_iff.mp blank
  rw [isDigit, Bool.or_eq_true] at digit
  rcases digit with decimal | shape
  · rw [decimalValue?, Option.isSome_map, List.find?_isSome] at decimal
    obtain ⟨least, leastMem, inside⟩ := decimal
    have apart := decimalsApart range rangeMem least leastMem
    simp only [Bool.and_eq_true, decide_eq_true_eq] at inside
    omega
  · obtain ⟨other, otherMem, otherLow, otherHigh⟩ := inRanges_iff.mp shape
    have apart := shapesApart range rangeMem other otherMem
    omega

theorem trimBy_eq_self {test : Char → Bool} {chars : List Char}
    (kept : ∀ char ∈ chars, test char = false) : trimBy test chars = chars := by
  have dropped : ∀ {others : List Char}, (∀ char ∈ others, test char = false) →
      others.dropWhile test = others := by
    intro others allKept
    cases others with
    | nil => rfl
    | cons first rest => simp [allKept first (by simp)]
  rw [trimBy, dropped kept, dropped (by simpa using kept), List.reverse_reverse]

end Text

namespace Decimal

theorem eq_of_symbolOf_eq_other {char other : Char} (decoded : symbolOf char = .other other) :
    char = other := by
  rw [symbolOf] at decoded
  split at decoded
  · contradiction
  · exact Symbol.other.inj decoded

theorem symbolOf_eq_digit_iff {char : Char} {value : Nat} :
    symbolOf char = .digit value ↔ Text.decimalValue? char = some value := by
  rw [symbolOf]
  split <;> simp_all

/-- Symbols among which there is none of a few marks. -/
def Lacks (marks : List Char) (symbols : List Symbol) : Prop :=
  ∀ mark ∈ marks, Symbol.other mark ∉ symbols

theorem splitSign_of_lacks {symbols : List Symbol} (lacks : Lacks ['-', '+'] symbols) :
    splitSign symbols = (false, symbols) := by
  fun_cases splitSign symbols with
  | case1 rest => simp [Lacks] at lacks
  | case2 rest => simp [Lacks] at lacks
  | case3 rest => rfl

theorem dropUnderscores_of_lacks {symbols : List Symbol} (lacks : Lacks ['_'] symbols) :
    dropUnderscores symbols = some symbols := by
  fun_induction dropUnderscores symbols with
  | case1 before next rest ih => simp [Lacks] at lacks
  | case2 rest => simp [Lacks] at lacks
  | case3 symbol rest =>
      rename_i ih
      rw [ih (by simp_all [Lacks]), Option.map_some]
  | case4 => rfl

@[simp]
theorem spanDigits_map_digit (values : List Nat) :
    spanDigits (values.map .digit) = (values, []) := by
  induction values with
  | nil => rfl
  | cons value rest ih => simp [spanDigits, ih]

theorem eq_map_of_spanDigits {symbols : List Symbol} {values : List Nat}
    (spanned : spanDigits symbols = (values, [])) : symbols = values.map .digit := by
  fun_induction spanDigits symbols generalizing values with
  | case1 value rest others remaining spannedRest ih =>
      obtain ⟨rfl, rfl⟩ := Prod.mk.inj spanned
      rw [ih spannedRest, List.map_cons]
  | case2 rest notDigit =>
      obtain ⟨rfl, rfl⟩ := Prod.mk.inj spanned
      rfl

/-- A line is written in decimal digits with the given values. -/
def Spells (line : String) (values : List Nat) : Prop :=
  line.toList.map Text.decimalValue? = values.map some

theorem spells_iff {line : String} {values : List Nat} :
    Spells line values ↔ line.toList.map symbolOf = values.map .digit := by
  rw [Spells]
  generalize line.toList = chars
  induction chars generalizing values with
  | nil => cases values <;> simp
  | cons char rest ih =>
      cases values with
      | nil => simp
      | cons value others => simp [symbolOf_eq_digit_iff, ih]

theorem Spells.isDigit {line : String} {values : List Nat} (spells : Spells line values) :
    ∀ char ∈ line.toList, Text.isDigit char = true := by
  intro char charMem
  have valueMem : Text.decimalValue? char ∈ values.map some := by
    rw [← spells]
    exact List.mem_map_of_mem charMem
  obtain ⟨value, -, valueEq⟩ := List.mem_map.mp valueMem
  exact Text.isDigit_of_decimalValue? valueEq.symm

theorem Spells.length_eq {line : String} {values : List Nat} (spells : Spells line values) :
    line.length = values.length := by
  rw [← String.length_toList]
  simpa using congrArg List.length spells

theorem Spells.unique {line : String} {values others : List Nat} (spells : Spells line values)
    (also : Spells line others) : values = others :=
  List.map_inj_right (fun _ _ => Option.some.inj) |>.mp (spells.symm.trans also)

/-- The digits of a line are all that the reader of integers finds in it. -/
theorem readInt_of_isDigit {line : String}
    (digits : ∀ char ∈ line.toList, Text.isDigit char = true) :
    readInt line =
      match spanDigits (line.toList.map symbolOf) with
      | ([], _) => none
      | (values, []) => if digitLimit < values.length then none else some (ofDigits values : Int)
      | (_, _ :: _) => none := by
  have lacks : ∀ marks : List Char, marks.all (fun mark => !Text.isDigit mark) = true →
      Lacks marks (line.toList.map symbolOf) := by
    intro marks noDigits mark markMem occurs
    obtain ⟨char, charMem, decoded⟩ := List.mem_map.mp occurs
    have noDigit := List.all_eq_true.mp noDigits mark markMem
    rw [eq_of_symbolOf_eq_other decoded] at charMem
    simp [digits mark charMem] at noDigit
  have symbolsEq : symbols line = line.toList.map symbolOf := by
    rw [symbols, Text.trimBy_eq_self]
    intro char charMem
    simp [isNumberBlank, Text.isBlank_eq_false_of_isDigit (digits char charMem)]
  have signless := splitSign_of_lacks (lacks ['-', '+'] (by decide))
  have joined := dropUnderscores_of_lacks (lacks ['_'] (by decide))
  rw [readInt, symbolsEq, signless]
  change ((dropUnderscores (line.toList.map symbolOf)).bind _) = _
  rw [joined]
  rfl

theorem Spells.readInt_eq {line : String} {values : List Nat} (spells : Spells line values) :
    readInt line =
      if values = [] ∨ digitLimit < values.length then none
      else some (ofDigits values : Int) := by
  rw [readInt_of_isDigit spells.isDigit, spells_iff.mp spells, spanDigits_map_digit]
  cases values <;> simp

theorem readInt_eq_none_of_not_spells {line : String}
    (digits : ∀ char ∈ line.toList, Text.isDigit char = true)
    (foreign : ¬∃ values, Spells line values) : readInt line = none := by
  rw [readInt_of_isDigit digits]
  cases spanned : spanDigits (line.toList.map symbolOf) with
  | mk values rest =>
      cases rest with
      | nil => exact absurd ⟨values, spells_iff.mpr (eq_map_of_spanDigits spanned)⟩ foreign
      | cons symbol rest => cases values <;> rfl

end Decimal

end SimplexReplay
