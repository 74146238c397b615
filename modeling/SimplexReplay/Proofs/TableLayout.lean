import Mathlib.Data.List.TakeWhile
import Mathlib.Order.MinMax
import SimplexReplay.Proofs.JoinedTexts
import SimplexReplay.Table
import SimplexReplay.Text.Characters

/-!
# The layout of text tables

A grid of cells without spaces, line breaks and bars is laid out without a loss.  Every column is as
wide as its widest cell, so all lines are made of pieces of the same widths; a rule and a line are
compared mark by mark, and the crossings of the one stand at the bars of the other.  The lines come
back when the text is split at its line breaks, and the cells when a line is split at its bars and
the spaces around the pieces are dropped.
-/

namespace SimplexReplay.Table

/-- A text that can stand in a cell: it has no space, no line break and no bar. -/
def IsCell (text : String) : Prop :=
  ∀ char ∈ text.toList, char ∉ [' ', '\n', '|']

instance (text : String) : Decidable (IsCell text) :=
  inferInstanceAs (Decidable (∀ char ∈ text.toList, _))

def linesOf (text : String) : List String :=
  (text.split '\n').toList.map String.Slice.copy

def trimSpaces (text : String) : String :=
  String.ofList (Text.trimBy (· == ' ') text.toList)

def cellsOf (line : String) : List String :=
  ((line.split " | ").toList.map String.Slice.copy).map trimSpaces

/-- The rule has its crossings exactly where the line has its bars. -/
def CrossesBars (rule line : String) : Prop :=
  ∀ position : Nat, rule.toList[position]? = some '+' ↔ line.toList[position]? = some '|'

/-- A mark of the rule is a crossing exactly if the mark at its place in a line is a bar. -/
def Faces (mark char : Char) : Prop :=
  mark = '+' ↔ char = '|'

/-- A line above a rule and lines below it that are as long as the rule, have their bars at its
crossings, and hold the cells of a header and of rows. -/
structure Lays (top rule : String) (body : List String) (header : List String)
    (rows : List (List String)) : Prop where
  length_eq : ∀ line ∈ top :: body, line.length = rule.length
  crossesBars : ∀ line ∈ top :: body, CrossesBars rule line
  header_eq : cellsOf top = header
  rows_eq : body.map cellsOf = rows

theorem IsCell.notMem {text : String} (isCell : IsCell text) {char : Char}
    (excluded : char ∈ [' ', '\n', '|']) : char ∉ text.toList :=
  fun charMem => isCell char charMem excluded

theorem IsCell.append {first second : String} (firstCell : IsCell first)
    (secondCell : IsCell second) : IsCell (first ++ second) := by
  intro char charMem
  rw [String.toList_append, List.mem_append] at charMem
  exact charMem.elim (firstCell char) (secondCell char)

section Padding

theorem toList_flushRight (width : Nat) (cell : String) :
    (flushRight width cell).toList = List.replicate (width - cell.length) ' ' ++ cell.toList := by
  simp [flushRight]

theorem notMem_flushRight {width : Nat} {cell : String} {char : Char} (notSpace : char ≠ ' ')
    (clear : char ∉ cell.toList) : char ∉ (flushRight width cell).toList := by
  rw [toList_flushRight, List.mem_append]
  rintro (inPadding | inCell)
  · exact notSpace (List.eq_of_mem_replicate inPadding)
  · exact clear inCell

theorem trimSpaces_flushRight {cell : String} (isCell : IsCell cell) (width : Nat) :
    trimSpaces (flushRight width cell) = cell := by
  have notSpace : ∀ char ∈ cell.toList, ¬(char == ' ') = true := by
    intro char charMem space
    exact isCell.notMem (by decide) (beq_iff_eq.mp space ▸ charMem)
  have kept {chars : List Char} (clear : ∀ char ∈ chars, ¬(char == ' ') = true) :
      chars.dropWhile (· == ' ') = chars := by
    rw [List.dropWhile_eq_self_iff]
    exact fun nonempty => clear _ (List.getElem_mem nonempty)
  -- The padding is dropped at the front, and the cell has no space at either end.
  rw [trimSpaces, toList_flushRight, Text.trimBy, List.dropWhile_append_of_pos,
    kept notSpace, kept, List.reverse_reverse, String.ofList_toList]
  · intro char charMem
    exact notSpace char (List.mem_reverse.mp charMem)
  · intro char charMem
    rw [List.eq_of_mem_replicate charMem]
    rfl

theorem forall₂_dashes_flushRight {width : Nat} {cell : String} (room : cell.length ≤ width)
    (isCell : IsCell cell) :
    List.Forall₂ Faces (List.replicate width '-') (flushRight width cell).toList := by
  have noBar : '|' ∉ (flushRight width cell).toList :=
    notMem_flushRight (by decide) (isCell.notMem (by decide))
  rw [List.forall₂_iff_zip]
  constructor
  · rw [toList_flushRight, List.length_append, List.length_replicate, List.length_replicate,
      String.length_toList]
    omega
  · intro mark char paired
    obtain ⟨markMem, charMem⟩ := List.of_mem_zip paired
    rw [List.eq_of_mem_replicate markMem]
    exact iff_of_false (by decide) fun bar => noBar (bar ▸ charMem)

end Padding

section Widths

/-- Every cell has room in its column. -/
def Fits (widths : List Nat) (cells : List String) : Prop :=
  List.Forall₂ (fun width cell => cell.length ≤ width) widths cells

theorem le_columnWidth {grid : List (List String)} {cells : List String} (cellsMem : cells ∈ grid)
    (position : Nat) : (cells.getD position "").length ≤ columnWidth grid position := by
  have lengthMem :=
    List.mem_map_of_mem (f := fun cells : List String => (cells.getD position "").length) cellsMem
  rw [columnWidth, List.foldl_max_eq_max (List.ne_nil_of_mem lengthMem)]
  exact le_max_of_le_right (List.le_max_of_mem lengthMem)

theorem fits_columnWidths {header : List String} {rows : List (List String)} {cells : List String}
    (cellsMem : cells ∈ header :: rows) (lengthEq : cells.length = header.length) :
    Fits (columnWidths header rows) cells := by
  rw [Fits, List.forall₂_iff_get]
  refine ⟨by simp [columnWidths, lengthEq], ?_⟩
  intro position first second
  have room := le_columnWidth cellsMem position
  simpa [columnWidths, second] using room

end Widths

section Lines

variable {widths : List Nat} {cells : List String} (areCells : ∀ cell ∈ cells, IsCell cell)

theorem exists_of_mem_padded {padded : String}
    (paddedMem : padded ∈ List.zipWith flushRight widths cells) :
    ∃ width, ∃ cell ∈ cells, flushRight width cell = padded := by
  rw [← List.map_uncurry_zip_eq_zipWith, List.mem_map] at paddedMem
  obtain ⟨⟨width, cell⟩, paired, paddedEq⟩ := paddedMem
  exact ⟨width, cell, (List.of_mem_zip paired).2, paddedEq⟩

theorem newline_notMem_ruleLine (widths : List Nat) : '\n' ∉ (ruleLine widths).toList := by
  intro newline
  rw [ruleLine, String.toList_intercalate] at newline
  rcases mem_intercalate newline with inCrossing | ⟨part, partMem, inPart⟩
  · simp at inCrossing
  · obtain ⟨dashes, dashesMem, rfl⟩ := List.mem_map.mp partMem
    obtain ⟨width, -, rfl⟩ := List.mem_map.mp dashesMem
    rw [String.toList_ofList] at inPart
    exact absurd (List.eq_of_mem_replicate inPart) (by decide)

include areCells

theorem newline_notMem_rowLine : '\n' ∉ (rowLine widths cells).toList := by
  intro newline
  rw [rowLine, String.toList_intercalate] at newline
  rcases mem_intercalate newline with inBar | ⟨part, partMem, inPart⟩
  · simp at inBar
  · obtain ⟨padded, paddedMem, rfl⟩ := List.mem_map.mp partMem
    obtain ⟨width, cell, cellMem, rfl⟩ := exists_of_mem_padded paddedMem
    exact notMem_flushRight (by decide) ((areCells cell cellMem).notMem (by decide)) inPart

theorem map_trimSpaces_padded (fits : Fits widths cells) :
    (List.zipWith flushRight widths cells).map trimSpaces = cells := by
  induction fits with
  | nil => rfl
  | cons room rest ih =>
      rw [List.zipWith_cons_cons, List.map_cons,
        trimSpaces_flushRight (areCells _ List.mem_cons_self),
        ih fun cell cellMem => areCells cell (List.mem_cons_of_mem _ cellMem)]

theorem cellsOf_rowLine (fits : Fits widths cells) (nonempty : cells ≠ []) :
    cellsOf (rowLine widths cells) = cells := by
  have somePadded : List.zipWith flushRight widths cells ≠ [] := by
    intro none
    apply nonempty
    rw [← map_trimSpaces_padded areCells fits, none, List.map_nil]
  have clear : ∀ padded ∈ List.zipWith flushRight widths cells, '|' ∉ padded.toList := by
    intro padded paddedMem
    obtain ⟨width, cell, cellMem, rfl⟩ := exists_of_mem_padded paddedMem
    exact notMem_flushRight (by decide) ((areCells cell cellMem).notMem (by decide))
  have bar : '|' ∈ " | ".toList := by decide
  rw [cellsOf, rowLine, Joined.toList_split_intercalate bar somePadded clear,
    map_trimSpaces_padded areCells fits]

theorem forall₂_ruleLine_rowLine (fits : Fits widths cells) :
    List.Forall₂ Faces (ruleLine widths).toList (rowLine widths cells).toList := by
  rw [ruleLine, rowLine, String.toList_intercalate, String.toList_intercalate]
  apply forall₂_intercalate (by simp [Faces])
  -- The separators face each other, so the induction is on the columns between them.
  induction fits with
  | nil => exact List.Forall₂.nil
  | cons room rest ih =>
      simp only [List.map_cons, List.zipWith_cons_cons, String.toList_ofList]
      refine List.Forall₂.cons ?_ ?_
      · exact forall₂_dashes_flushRight room (areCells _ List.mem_cons_self)
      · exact ih fun cell cellMem => areCells cell (List.mem_cons_of_mem _ cellMem)

end Lines

theorem crossesBars_of_forall₂ {rule line : String}
    (related : List.Forall₂ Faces rule.toList line.toList) : CrossesBars rule line := by
  intro position
  by_cases inside : position < rule.toList.length
  · have insideLine : position < line.toList.length := related.length_eq ▸ inside
    rw [List.getElem?_eq_getElem inside, List.getElem?_eq_getElem insideLine, Option.some_inj,
      Option.some_inj]
    exact related.get inside insideLine
  · have outsideLine : ¬position < line.toList.length := related.length_eq ▸ inside
    rw [List.getElem?_eq_none (not_lt.mp inside), List.getElem?_eq_none (not_lt.mp outsideLine)]
    simp

theorem linesOf_text {lines : List String} (nonempty : lines ≠ [])
    (unbroken : ∀ line ∈ lines, '\n' ∉ line.toList) : linesOf (text lines) = lines := by
  have joined := String.toList_split_intercalate unbroken
  rwa [if_neg nonempty] at joined

section Grid

variable {header : List String} {rows : List (List String)}
  (areCells : ∀ cells ∈ header :: rows, ∀ cell ∈ cells, IsCell cell)

include areCells

theorem newline_notMem_lines : ∀ line ∈ lines header rows, '\n' ∉ line.toList := by
  intro line lineMem
  rw [lines, List.mem_cons, List.mem_cons, List.mem_map] at lineMem
  rcases lineMem with rfl | rfl | ⟨cells, cellsMem, rfl⟩
  · exact newline_notMem_rowLine (areCells header List.mem_cons_self)
  · exact newline_notMem_ruleLine _
  · exact newline_notMem_rowLine (areCells cells (List.mem_cons_of_mem header cellsMem))

theorem map_cellsOf_rowLine {widths : List Nat} (fits : ∀ cells ∈ header :: rows, Fits widths cells)
    (someCell : ∀ cells ∈ header :: rows, cells ≠ []) :
    ((header :: rows).map (rowLine widths)).map cellsOf = header :: rows := by
  rw [List.map_map]
  conv_rhs => rw [← List.map_id (header :: rows)]
  apply List.map_congr_left
  intro cells cellsMem
  exact cellsOf_rowLine (areCells cells cellsMem) (fits cells cellsMem) (someCell cells cellsMem)

/-- The text of a grid whose rows are as long as its header lays out the header and the rows. -/
theorem exists_lays_lines (nonempty : header ≠ [])
    (lengths : ∀ cells ∈ rows, cells.length = header.length) :
    ∃ top rule body, linesOf (text (lines header rows)) = top :: rule :: body ∧
      Lays top rule body header rows := by
  let widths := columnWidths header rows
  have lengthEq : ∀ cells ∈ header :: rows, cells.length = header.length :=
    List.forall_mem_cons.mpr ⟨rfl, lengths⟩
  have fits : ∀ cells ∈ header :: rows, Fits widths cells := fun cells cellsMem =>
    fits_columnWidths cellsMem (lengthEq cells cellsMem)
  have someCell : ∀ cells ∈ header :: rows, cells ≠ [] := by
    intro cells cellsMem
    rw [← List.length_pos_iff, lengthEq cells cellsMem, List.length_pos_iff]
    exact nonempty
  have related : ∀ line ∈ (header :: rows).map (rowLine widths),
      List.Forall₂ Faces (ruleLine widths).toList line.toList := by
    intro line lineMem
    obtain ⟨cells, cellsMem, rfl⟩ := List.mem_map.mp lineMem
    exact forall₂_ruleLine_rowLine (areCells cells cellsMem) (fits cells cellsMem)
  have readBack := map_cellsOf_rowLine areCells fits someCell
  exact ⟨rowLine widths header, ruleLine widths, rows.map (rowLine widths),
    linesOf_text (List.cons_ne_nil _ _) (newline_notMem_lines areCells), {
      length_eq := fun line lineMem => by
        rw [← String.length_toList, ← String.length_toList, (related line lineMem).length_eq]
      crossesBars := fun line lineMem => crossesBars_of_forall₂ (related line lineMem)
      header_eq := (List.cons.inj readBack).1
      rows_eq := (List.cons.inj readBack).2 }⟩

end Grid

end SimplexReplay.Table
