import SimplexReplay.Proofs.MadeTables
import SimplexReplay.Proofs.Run.Solved
import SimplexReplay.Proofs.SizeTexts
import SimplexReplay.Proofs.TableLayout

/-!
# The cells of the table of a tableau

The table of a tableau with a name for every column and a basic column for every constraint row can
always be made, with a ratio for every constraint row or without ratios.  No number is written with
a space, a line break or a bar, so if the names have none either, then every name, label, entry and
ratio can be read off the table, each in its place.
-/

namespace SimplexReplay

namespace Table

theorem isCell_of_forall {text : String} {allowed : Char → Prop}
    (within : ∀ char ∈ text.toList, allowed char)
    (notAllowed : ¬allowed ' ' ∧ ¬allowed '\n' ∧ ¬allowed '|') : IsCell text := by
  intro char charMem excluded
  have isAllowed := within char charMem
  rw [List.mem_cons, List.mem_pair] at excluded
  rcases excluded with rfl | rfl | rfl
  · exact notAllowed.1 isAllowed
  · exact notAllowed.2.1 isAllowed
  · exact notAllowed.2.2 isAllowed

theorem isCell_shortText {value : Float} (finite : value.isFinite = true) :
    IsCell (Decimal.shortText value) :=
  isCell_of_forall (fun _ charMem => Decimal.isSizeMark_of_mem_shortText finite charMem)
    (by decide)

theorem isCell_cellText (value : Float) : IsCell (cellText value) := by
  by_cases finite : value.isFinite = true
  · by_cases tiny : value.abs < 1e-12
    · rw [cellText, finite, if_neg (by decide), if_pos tiny]
      exact isCell_shortText (by decide +kernel)
    · rw [cellText, finite, if_neg (by decide), if_neg tiny]
      exact isCell_shortText finite
  · rw [cellText, if_pos (by simpa using finite)]
    simp [IsCell]

theorem isCell_toString (number : Nat) : IsCell (toString number) := by
  have shown : (toString number).toList = Nat.toDigits 10 number := by simp
  have digits : ∀ char ∈ (toString number).toList, char.isDigit = true := by
    rw [shown]
    exact fun char => Nat.isDigit_of_mem_toDigits (by decide) (by decide)
  exact isCell_of_forall digits (by decide)

theorem isCell_of_mem_header {names : List String} (areCells : ∀ name ∈ names, IsCell name) :
    ∀ cell ∈ "row" :: names ++ ["rhs", "ratio"], IsCell cell := by
  intro cell cellMem
  rw [List.mem_append, List.mem_cons, List.mem_pair] at cellMem
  rcases cellMem with (rfl | named) | rfl | rfl
  · simp [IsCell]
  · exact areCells cell named
  · simp [IsCell]
  · simp [IsCell]

end Table

namespace Tableau

variable {m n : Nat}

/-- The name of a column, if it has one. -/
def columnLabel (names : Vector String n) (column : Int) : String :=
  if inside : 0 ≤ column ∧ column < n then names.get ⟨column.toNat, by omega⟩ else "?"

/-- The cell of the ratio of a constraint row, if it has a finite one. -/
def ratioCell (ratios : List Float) (row : Nat) : String :=
  match ratios[row]? with
  | none => "-"
  | some ratio => if ratio.isFinite then Table.cellText ratio else "-"

/-- The cells of a row from its label, its entries, its right-hand side and its last cell. -/
def rowCells (label : String) (entries : Fin n → Float) (rhs : Float) (last : String) :
    List String :=
  label :: List.ofFn (fun column => Table.cellText (entries column)) ++ [Table.cellText rhs, last]

def shownCells (tableau : Tableau Float m n) (names : Vector String n) (basis : Vector Int m)
    (ratios : List Float) : List (List String) :=
  rowCells "Rz" tableau.reducedCost tableau.objectiveCell "-" ::
    List.ofFn fun row : Fin m =>
      rowCells (s!"R{row.val + 1}(" ++ columnLabel names (basis.get row) ++ ")")
        (fun column => tableau.body row column.castSucc) (tableau.rhs row)
        (ratioCell ratios row)

theorem rowCells_eq (label : String) (entries : Fin (n + 1) → Float) (last : String) :
    label :: (List.ofFn entries).map Table.cellText ++ [last] =
      rowCells label (fun column => entries column.castSucc) (entries (Fin.last n)) last := by
  rw [List.ofFn_succ', List.concat_eq_append, List.map_append, List.map_ofFn, rowCells]
  simp [Function.comp_def]

theorem length_rowCells (label : String) (entries : Fin n → Float) (rhs : Float) (last : String) :
    (rowCells label entries rhs last).length = n + 3 := by
  simp [rowCells]

theorem length_of_mem_shownCells (tableau : Tableau Float m n) (names : Vector String n)
    (basis : Vector Int m) (ratios : List Float) :
    ∀ cells ∈ tableau.shownCells names basis ratios,
      cells.length = ("row" :: names.toList ++ ["rhs", "ratio"]).length := by
  have header : ("row" :: names.toList ++ ["rhs", "ratio"]).length = n + 3 := by simp
  intro cells cellsMem
  rw [header]
  rcases List.mem_cons.mp cellsMem with rfl | inBody
  · exact length_rowCells ..
  · obtain ⟨row, rfl⟩ := List.mem_ofFn.mp inBody
    exact length_rowCells ..

theorem isCell_of_mem_rowCells {label : String} (labelCell : Table.IsCell label)
    (entries : Fin n → Float) (rhs : Float) {last : String} (lastCell : Table.IsCell last) :
    ∀ cell ∈ rowCells label entries rhs last, Table.IsCell cell := by
  intro cell cellMem
  rw [rowCells, List.mem_append, List.mem_cons, List.mem_ofFn, List.mem_pair] at cellMem
  rcases cellMem with (rfl | ⟨column, rfl⟩) | rfl | rfl
  · exact labelCell
  · exact Table.isCell_cellText (entries column)
  · exact Table.isCell_cellText rhs
  · exact lastCell

section Made

variable (names : Vector String n) (basis : Vector Int m) {ratios : List Float}
  (compared : ratios = [] ∨ ratios.length = m)

theorem toLists_eq_ofFn (tableau : Tableau Float m n) :
    tableau.toLists = List.ofFn tableau.objectiveEntry ::
      List.ofFn fun row => List.ofFn (tableau.body row) := by
  have listed {α : Type} {size : Nat} (members : Vector α size) :
      members.toList = List.ofFn members.get := by
    apply List.ext_getElem (by simp)
    intro position first second
    rw [List.getElem_ofFn, Vector.getElem_toList]
    rfl
  have rowsEq : tableau.toLists = List.ofFn fun row => List.ofFn (tableau.entry row) := by
    rw [toLists, listed, List.map_ofFn]
    exact congrArg List.ofFn (funext fun row => listed (tableau.rows.get row))
  rw [rowsEq, List.ofFn_succ]
  rfl

theorem labelAt_ofTexts (column : Int) :
    (Names.ofTexts names.toList).labelAt column = .ok (.text (columnLabel names column)) := by
  have size : (Names.ofTexts names.toList).size = n := by simp [Names.ofTexts, Names.size]
  rw [Names.labelAt, size, columnLabel]
  by_cases inside : 0 ≤ column ∧ column < n
  · obtain ⟨position, rfl⟩ := Int.eq_ofNat_of_zero_le inside.1
    have placeLt : position < (names.toList.map Datum.text).length := by
      simpa using Int.ofNat_lt.mp inside.2
    rw [if_pos inside, dif_pos inside, Names.ofTexts, Names.nameAt, signedGet?_natCast placeLt]
    simp [Vector.get]
  · rw [if_neg inside, dif_neg inside]
    rfl

theorem basisLabel_eq (row : Fin m) :
    Table.basisLabel (.ofTexts names.toList) basis.toList row =
      .ok (.text (columnLabel names (basis.get row))) := by
  have read : basis.toList[row.val]? = some (basis.get row) := by simp [Vector.get]
  rw [Table.basisLabel, read]
  exact labelAt_ofTexts names (basis.get row)

include compared

theorem ratioText_eq (row : Fin m) : Table.ratioText ratios row = .ok (ratioCell ratios row) := by
  rcases compared with rfl | long
  · rfl
  · have inside : row.val < ratios.length := long ▸ row.isLt
    have someRatio : ratios.isEmpty = false := by
      cases ratios with
      | nil => simp at inside
      | cons ratio rest => rfl
    rw [Table.ratioText, someRatio, ratioCell, List.getElem?_eq_getElem inside]
    rfl

theorem bodyCells_eq (tableau : Tableau Float m n) :
    Table.bodyCells ⟨Table.basisLabel (.ofTexts names.toList) basis.toList, Table.ratioText ratios⟩
        (List.ofFn fun row => .ok ((List.ofFn (tableau.body row)).map Table.cellText)) =
      .ok (tableau.shownCells names basis ratios).tail := by
  rw [Table.bodyCells, mapM_eq_ok_iff, List.forall₂_iff_get]
  refine ⟨by simp [shownCells], fun position first second => ?_⟩
  have inside : position < m := by simpa [shownCells] using second
  have labelEq := basisLabel_eq names basis ⟨position, inside⟩
  have ratioEq := ratioText_eq compared ⟨position, inside⟩
  simp only [shownCells, List.tail_cons, List.get_eq_getElem, List.getElem_zipIdx,
    List.getElem_ofFn, Nat.zero_add, Table.constraintCells, labelEq, ratioEq, Datum.spell_text,
    bind, Except.bind, pure, Except.pure]
  exact congrArg Except.ok (rowCells_eq _ _ _)

theorem table_eq (tableau : Tableau Float m n) (tolerance : Float) :
    tableau.table (.ofTexts names.toList) (some basis.toList) ratios tolerance =
      .ok (Table.text (Table.lines ("row" :: names.toList ++ ["rhs", "ratio"])
        (tableau.shownCells names basis ratios))) := by
  have top : Table.objectiveCells (.ok ((List.ofFn tableau.objectiveEntry).map Table.cellText)) =
      .ok (rowCells "Rz" tableau.reducedCost tableau.objectiveCell "-") :=
    congrArg Except.ok (rowCells_eq _ _ _)
  have lengths := length_of_mem_shownCells tableau names basis ratios
  have built := Table.build_eq top (bodyCells_eq names basis compared tableau)
    fun cells cellsMem => (lengths cells cellsMem).ge
  have uncut : (tableau.shownCells names basis ratios).map
      (List.take ("row" :: names.toList ++ ["rhs", "ratio"]).length) =
        tableau.shownCells names basis ratios :=
    (List.map_congr_left fun cells cellsMem =>
      List.take_of_length_le (lengths cells cellsMem).le).trans (List.map_id _)
  simp only [table, shownBasis, tableLines, toLists_eq_ofFn, List.map_ofFn, Function.comp_def, bind,
    Except.bind, pure, Except.pure] at built ⊢
  rw [built]
  exact congrArg (fun rows => Except.ok (Table.text (Table.lines _ rows))) uncut

end Made

theorem isCell_columnLabel {names : Vector String n} (areCells : ∀ name ∈ names, Table.IsCell name)
    (column : Int) : Table.IsCell (columnLabel names column) := by
  rw [columnLabel]
  split
  · exact areCells _ (Vector.getElem_mem _)
  · simp [Table.IsCell]

theorem isCell_ratioCell (ratios : List Float) (row : Nat) :
    Table.IsCell (ratioCell ratios row) := by
  have missing : Table.IsCell "-" := by simp [Table.IsCell]
  rw [ratioCell]
  split
  · exact missing
  · split
    · exact Table.isCell_cellText _
    · exact missing

theorem isCell_of_mem_shownCells {names : Vector String n}
    (areCells : ∀ name ∈ names, Table.IsCell name) (tableau : Tableau Float m n)
    (basis : Vector Int m) (ratios : List Float) :
    ∀ cells ∈ tableau.shownCells names basis ratios, ∀ cell ∈ cells, Table.IsCell cell := by
  intro cells cellsMem
  rcases List.mem_cons.mp cellsMem with rfl | inBody
  · exact isCell_of_mem_rowCells (by simp [Table.IsCell]) _ _ (by simp [Table.IsCell])
  · obtain ⟨row, rfl⟩ := List.mem_ofFn.mp inBody
    refine isCell_of_mem_rowCells ?_ _ _ (isCell_ratioCell ratios row)
    have label := isCell_columnLabel areCells (basis.get row)
    have numbered : Table.IsCell ("R" ++ toString (row.val + 1) ++ "(") :=
      Table.IsCell.append (Table.IsCell.append (by simp [Table.IsCell])
        (Table.isCell_toString (row.val + 1))) (by simp [Table.IsCell])
    exact (numbered.append label).append (by simp [Table.IsCell])

/-- The table of a tableau with a name for every column and a basic column for every constraint row
is rectangular, and all its cells can be read off it. -/
theorem exists_lays_table (tableau : Tableau Float m n) (names : Vector String n)
    (areCells : ∀ name ∈ names, Table.IsCell name) (basis : Vector Int m) {ratios : List Float}
    (compared : ratios = [] ∨ ratios.length = m) (tolerance : Float) :
    ∃ text top rule body,
      tableau.table (.ofTexts names.toList) (some basis.toList) ratios tolerance = .ok text ∧
        Table.linesOf text = top :: rule :: body ∧ body.length = m + 1 ∧
          Table.Lays top rule body ("row" :: names.toList ++ ["rhs", "ratio"])
            (tableau.shownCells names basis ratios) := by
  have namesAreCells : ∀ name ∈ names.toList, Table.IsCell name := by
    intro name named
    exact areCells name (Vector.mem_toList_iff.mp named)
  have headerAreCells := Table.isCell_of_mem_header namesAreCells
  have shownAreCells := isCell_of_mem_shownCells areCells tableau basis ratios
  obtain ⟨top, rule, body, linesEq, lays⟩ := Table.exists_lays_lines
    (List.forall_mem_cons.mpr ⟨headerAreCells, shownAreCells⟩) (List.cons_ne_nil _ _)
    (length_of_mem_shownCells tableau names basis ratios)
  have count : body.length = m + 1 := by
    have readBack := congrArg List.length lays.rows_eq
    simpa [shownCells] using readBack
  exact ⟨_, top, rule, body, table_eq names basis compared tableau tolerance, linesEq, count, lays⟩

/-- A tableau with entries that are large, tiny, infinite and undefined. -/
def assorted : Tableau Float 2 3 :=
  ⟨#v[#v[-1.5, 0.0 / 0.0, 1e-13, 0], #v[1234567, -0.0, 0.1, 4], #v[1.0 / 0.0, 1, -2.5e-07, 18]]⟩

def assortedNames : Vector String 3 := #v["x1", "größe", ""]

/-- All cells of the table of the assorted tableau can be read off it; its second row has a basic
column without a name and an infinite ratio. -/
theorem lays_assorted :
    (∀ name ∈ assortedNames, Table.IsCell name) ∧
      (([2.5, 1.0 / 0.0] : List Float) = [] ∨ ([2.5, 1.0 / 0.0] : List Float).length = 2) ∧
      ∃ text top rule body,
        assorted.table (.ofTexts assortedNames.toList) (some [1, -1]) [2.5, 1.0 / 0.0] 0 =
            .ok text ∧
          Table.linesOf text = top :: rule :: body ∧ body.length = 3 ∧
          Table.Lays top rule body ["row", "x1", "größe", "", "rhs", "ratio"]
            [["Rz", "-1.5", "inf", "0", "0", "-"],
              ["R1(größe)", "1.23457e+06", "0", "0.1", "4", "2.5"],
              ["R2(?)", "inf", "1", "-2.5e-07", "18", "-"]] := by
  have areCells : ∀ name ∈ assortedNames, Table.IsCell name := by
    simp [assortedNames, Table.IsCell]
  have compared : ([2.5, 1.0 / 0.0] : List Float) = [] ∨
      ([2.5, 1.0 / 0.0] : List Float).length = 2 := Or.inr rfl
  have shown : assorted.shownCells assortedNames #v[1, -1] [2.5, 1.0 / 0.0] =
      [["Rz", "-1.5", "inf", "0", "0", "-"], ["R1(größe)", "1.23457e+06", "0", "0.1", "4", "2.5"],
        ["R2(?)", "inf", "1", "-2.5e-07", "18", "-"]] := by
    decide +kernel
  obtain ⟨text, top, rule, body, made, linesEq, count, lays⟩ :=
    exists_lays_table assorted assortedNames areCells #v[1, -1] compared 0
  rw [shown] at lays
  exact ⟨areCells, compared, text, top, rule, body, made, linesEq, count, lays⟩

end Tableau

end SimplexReplay
