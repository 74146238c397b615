import SimplexReplay.Proofs.Run.Choice
import SimplexReplay.Table

/-!
# Tables that can be made

The table of a tableau can be made when no name goes beyond its columns and every row has its basic
column, and its ratio if there are ratios.  The names are texts, so that nothing that is spelled in
it can be refused.
-/

namespace SimplexReplay

variable {m n : Nat}

/-- Every label in a table whose names are texts is a text. -/
theorem Names.exists_labelAt_ofTexts (texts : List String) (position : Int) :
    ∃ text, (ofTexts texts).labelAt position = .ok (.text text) := by
  rw [labelAt]
  split
  · rename_i inside
    obtain ⟨place, rfl⟩ := Int.eq_ofNat_of_zero_le inside.1
    have placeLt : place < (texts.map Datum.text).length := Int.ofNat_lt.mp inside.2
    have inTexts : place < texts.length := by simpa using placeLt
    exact ⟨texts[place], by simp [ofTexts, nameAt, signedGet?_natCast placeLt]⟩
  · exact ⟨_, rfl⟩

namespace Table

theorem exists_basisLabel (texts : List String) {basis : List Int} {row : Nat}
    (inside : row < basis.length) :
    ∃ text, basisLabel (.ofTexts texts) basis row = .ok (.text text) := by
  simp only [basisLabel, List.getElem?_eq_getElem inside]
  exact Names.exists_labelAt_ofTexts texts _

theorem exists_ratioText {ratios : List Float} {row : Nat}
    (inside : ratios = [] ∨ row < ratios.length) : ∃ text, ratioText ratios row = .ok text := by
  rw [ratioText]
  split
  · exact ⟨noRatio, rfl⟩
  · rename_i notEmpty
    have listed : row < ratios.length := by
      rcases inside with rfl | listed
      · simp at notEmpty
      · exact listed
    rw [List.getElem?_eq_getElem listed]
    exact ⟨finiteRatio ratios[row], rfl⟩

/-- The cells of all constraint rows can be made, each with a label before its entries and a ratio
behind them. -/
theorem exists_bodyCells {margin : Margin} {rows : List (List String)} {width : Nat}
    (labelled : ∀ row < rows.length, ∃ text, margin.label row = .ok (.text text))
    (compared : ∀ row < rows.length, ∃ text, margin.ratio row = .ok text)
    (wide : ∀ entries ∈ rows, entries.length = width) :
    ∃ body, bodyCells margin (rows.map .ok) = .ok body ∧
      ∀ cells ∈ body, cells.length = width + 2 := by
  apply exists_mapM
  rintro ⟨given, row⟩ paired
  obtain ⟨-, rowLt, givenEq⟩ := List.mem_zipIdx paired
  rw [Nat.zero_add, List.length_map] at rowLt
  obtain ⟨label, labelEq⟩ := labelled row rowLt
  obtain ⟨ratio, ratioEq⟩ := compared row rowLt
  have entriesWide := wide rows[row] (List.getElem_mem rowLt)
  refine ⟨(s!"R{row + 1}(" ++ label ++ ")") :: rows[row] ++ [ratio], ?_, by simp [entriesWide]⟩
  simp [constraintCells, labelEq, ratioEq, givenEq, bind, Except.bind, pure, Except.pure]

/-- The header can be spelled when its cells are texts and no row is shorter. -/
theorem headers_eq {rows : List (List String)} (texts : List String)
    (wide : ∀ cells ∈ rows, texts.length ≤ cells.length) :
    (texts.map Datum.text).zipIdx.mapM (fun (cell, position) => columnHeader rows cell position) =
      .ok texts := by
  rw [mapM_eq_ok_iff, List.forall₂_iff_get]
  refine ⟨by simp, fun position first second => ?_⟩
  have reached : (rows.any fun cells => decide (cells.length ≤ position)) = false := by
    rw [List.any_eq_false]
    intro cells cellsMem
    simpa using Nat.lt_of_lt_of_le second (wide cells cellsMem)
  simp [columnHeader, reached, bind, Except.bind, pure, Except.pure]

theorem headerCells_map_text (names : List String) :
    headerCells (names.map Datum.text) =
      ("row" :: names ++ ["rhs", "ratio"]).map Datum.text := by
  simp [headerCells]

/-- A table whose rows can be made is made of them as far as its header goes, if none of them is
shorter. -/
theorem build_eq {names : List String} {margin : Margin} {top : List String}
    {objective : Except Fault (List String)} {constraints : List (Except Fault (List String))}
    {body : List (List String)} (topMade : objectiveCells objective = .ok top)
    (bodyMade : bodyCells margin constraints = .ok body)
    (wide : ∀ cells ∈ top :: body, ("row" :: names ++ ["rhs", "ratio"]).length ≤ cells.length) :
    build (.ofTexts names) margin objective constraints =
      .ok (lines ("row" :: names ++ ["rhs", "ratio"])
        ((top :: body).map (List.take ("row" :: names ++ ["rhs", "ratio"]).length))) := by
  have headers := headers_eq _ wide
  simp only [build, Names.ofTexts, Names.members, topMade, bodyMade, bind, Except.bind, pure,
    Except.pure, headerCells_map_text] at headers ⊢
  rw [headers]

theorem exists_build {names : List String} {margin : Margin} {objective : List String}
    {rows : List (List String)} {width : Nat} (short : names.length < width)
    (labelled : ∀ row < rows.length, ∃ text, margin.label row = .ok (.text text))
    (compared : ∀ row < rows.length, ∃ text, margin.ratio row = .ok text)
    (objectiveWide : objective.length = width) (wide : ∀ entries ∈ rows, entries.length = width) :
    ∃ lines, build (.ofTexts names) margin (.ok objective) (rows.map .ok) = .ok lines := by
  obtain ⟨body, bodyMade, bodyWide⟩ := exists_bodyCells labelled compared wide
  refine ⟨_, build_eq rfl bodyMade ?_⟩
  intro cells cellsMem
  have cellsWide : cells.length = width + 2 := by
    rcases List.mem_cons.mp cellsMem with rfl | inBody
    · simp [objectiveWide]
    · exact bodyWide cells inBody
  simp only [List.cons_append, List.length_cons, List.length_append, List.length_nil]
  omega

end Table

/-- A table can be made when no name goes beyond the columns and every row has its basic column,
and its ratio if there are ratios. -/
theorem Tableau.exists_table (tableau : Tableau Float m n) {names : List String}
    (short : names.length ≤ n) {basis : List Int} (based : m ≤ basis.length)
    {ratios : List Float} (compared : ratios = [] ∨ m ≤ ratios.length) (tolerance : Float) :
    ∃ text, tableau.table (.ofTexts names) (some basis) ratios tolerance = .ok text := by
  have rowCount : tableau.toLists.length = m + 1 := by simp [toLists]
  have rowWidth : ∀ entries ∈ tableau.toLists, entries.length = n + 1 := by
    intro entries entriesMem
    obtain ⟨row, -, rfl⟩ := List.mem_map.mp entriesMem
    exact row.length_toList
  cases shown : tableau.toLists with
  | nil => simp [shown] at rowCount
  | cons objective constraints =>
      rw [shown, List.length_cons, Nat.add_right_cancel_iff] at rowCount
      rw [shown] at rowWidth
      let margin : Table.Margin :=
        ⟨Table.basisLabel (.ofTexts names) basis, Table.ratioText ratios⟩
      let rows := constraints.map fun entries => entries.map Table.cellText
      have rowsLength : rows.length = m := by simp [rows, rowCount]
      have labelled : ∀ row < rows.length, ∃ text, margin.label row = .ok (.text text) := by
        intro row rowLt
        exact Table.exists_basisLabel names (by omega)
      have ratioed : ∀ row < rows.length, ∃ text, margin.ratio row = .ok text := by
        intro row rowLt
        exact Table.exists_ratioText (compared.imp_right fun long => by omega)
      have objectiveWide : (objective.map Table.cellText).length = n + 1 := by
        simp [rowWidth objective List.mem_cons_self]
      have wide : ∀ cells ∈ rows, cells.length = n + 1 := by
        intro cells cellsMem
        obtain ⟨entries, entriesMem, rfl⟩ := List.mem_map.mp cellsMem
        simp [rowWidth entries (List.mem_cons_of_mem objective entriesMem)]
      obtain ⟨lines, built⟩ :=
        Table.exists_build (Nat.lt_succ_of_le short) labelled ratioed objectiveWide wide
      have built : tableau.tableLines (.ofTexts names) margin = .ok lines := by
        simpa [tableLines, shown, rows, Function.comp_def] using built
      exact ⟨Table.text lines, by
        simp only [table, shownBasis, bind, Except.bind, pure, Except.pure]
        rw [built]⟩

end SimplexReplay
