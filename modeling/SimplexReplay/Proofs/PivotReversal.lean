import SimplexReplay.Fault
import SimplexReplay.Proofs.Exact.Canonical
import SimplexReplay.Proofs.Run.Solved

/-!
# Pivots made in place, and undone

A pivot that overwrites the tableau divides its row first, and then goes through the other rows
from the top: each of them loses the multiple of the pivot row, as it stands by then, that its own
entry in the pivot column asks for.  Since no later row reads an earlier one, this leaves the
tableau whose rows are all computed from the tableau before.

Over rational numbers a pivot makes its column the unit column of its row.  It keeps the weights
that give all rows the value zero, and with them the solutions of the equations, and it keeps every
column that is zero in the pivot row.  A unit column of the pivot row is where it can be undone: a
pivot there gives back the tableau before.
-/

namespace SimplexReplay

theorem Change.foldl_andThen_of_fault {σ : Type} (value : σ) (fault : Fault)
    (steps : List (σ → Except Fault σ)) :
    steps.foldl andThen ⟨value, some fault⟩ = ⟨value, some fault⟩ := by
  induction steps with
  | nil => rfl
  | cons step rest ih => exact ih

namespace Tableau

variable {α : Type} {m n : Nat}

def withRow (tableau : Tableau α m n) (row : Fin (m + 1)) (entries : Vector α (n + 1)) :
    Tableau α m n :=
  ⟨tableau.rows.setIfInBounds row.val entries⟩

theorem entry_withRow (tableau : Tableau α m n) (row other : Fin (m + 1))
    (entries : Vector α (n + 1)) (column : Fin (n + 1)) :
    (tableau.withRow row entries).entry other column =
      if other = row then rowEntry entries column else tableau.entry other column := by
  by_cases same : other = row
  · simp [withRow, entry, same]
  · have apart : row.val ≠ other.val := fun equal => same (Fin.ext equal.symm)
    simp [withRow, entry, same, apart]

variable [Scalar α]

/-- Overwrites the row of a pivot with the row divided by its element. -/
def divideRow (row : Fin (m + 1)) (column : Fin (n + 1)) (tableau : Tableau α m n) :
    Except Fault (Tableau α m n) :=
  if tableau.entry row column == 0 then
    .error (.zeroPivot (toString (row.val : Int)) (toString (column.val : Int)))
  else .ok (tableau.withRow row (tableau.normalizedRow row column))

/-- A row less the multiple of the pivot row that its entry in the pivot column asks for. -/
def remainder (tableau : Tableau α m n) (row : Fin (m + 1)) (column : Fin (n + 1))
    (other : Fin (m + 1)) : Vector α (n + 1) :=
  Vector.ofFn fun position =>
    tableau.entry other position - tableau.entry other column * tableau.entry row position

@[simp]
theorem rowEntry_remainder (tableau : Tableau α m n) (row other : Fin (m + 1))
    (column position : Fin (n + 1)) :
    rowEntry (tableau.remainder row column other) position =
      tableau.entry other position - tableau.entry other column * tableau.entry row position := by
  simp [remainder]

/-- Overwrites a row with what is left of it when its entry in the pivot column is cleared. -/
def clearEntry (row : Fin (m + 1)) (column : Fin (n + 1)) (other : Fin (m + 1))
    (tableau : Tableau α m n) : Except Fault (Tableau α m n) :=
  .ok (tableau.withRow other (tableau.remainder row column other))

def otherRows (row : Fin (m + 1)) : List (Fin (m + 1)) :=
  (List.finRange (m + 1)).filter fun other => other ≠ row

/-- The pivot that overwrites one row after the other. -/
def pivotInPlace (tableau : Tableau α m n) (row : Fin (m + 1)) (column : Fin (n + 1)) :
    Change (Tableau α m n) :=
  .ofSteps tableau (divideRow row column :: (otherRows row).map (clearEntry row column))

def cleared (tableau : Tableau α m n) (row : Fin (m + 1)) (column : Fin (n + 1))
    (others : List (Fin (m + 1))) : Tableau α m n :=
  ofEntries fun other position =>
    if other ∈ others then rowEntry (tableau.remainder row column other) position
    else tableau.entry other position

theorem cleared_withRow (tableau : Tableau α m n) {row other : Fin (m + 1)}
    (column : Fin (n + 1)) {rest : List (Fin (m + 1))} (different : other ≠ row)
    (notLater : other ∉ rest) :
    (tableau.withRow other (tableau.remainder row column other)).cleared row column rest =
      tableau.cleared row column (other :: rest) := by
  apply ext_entry
  intro line position
  simp only [cleared, entry_ofEntries, rowEntry_remainder, entry_withRow,
    if_neg different.symm, List.mem_cons]
  by_cases same : line = other
  · subst same
    simp [notLater]
  · simp [same]

/-- The rows are cleared one after the other; the pivot row is none of them. -/
theorem foldl_clearEntry (tableau : Tableau α m n) (row : Fin (m + 1)) (column : Fin (n + 1))
    {others : List (Fin (m + 1))} (nodup : others.Nodup) (notRow : row ∉ others) :
    (others.map (clearEntry row column)).foldl Change.andThen ⟨tableau, none⟩ =
      ⟨tableau.cleared row column others, none⟩ := by
  induction others generalizing tableau with
  | nil =>
      have unchanged : tableau.cleared row column [] = tableau := by
        apply ext_entry
        simp [cleared]
      simp [unchanged]
  | cons other rest ih =>
      obtain ⟨notLater, restNodup⟩ := List.nodup_cons.mp nodup
      have notInRest : row ∉ rest := List.not_mem_of_not_mem_cons notRow
      have different : row ≠ other := List.ne_of_not_mem_cons notRow
      rw [List.map_cons, List.foldl_cons]
      -- The pivot row still stands as it did, so the rest is cleared by the same row.
      change (rest.map (clearEntry row column)).foldl Change.andThen
        ⟨tableau.withRow other (tableau.remainder row column other), none⟩ = _
      rw [ih _ restNodup notInRest, cleared_withRow tableau column different.symm notLater]

theorem cleared_divided (tableau : Tableau α m n) (row : Fin (m + 1)) (column : Fin (n + 1)) :
    (tableau.withRow row (tableau.normalizedRow row column)).cleared row column (otherRows row) =
      tableau.pivot row column := by
  apply ext_entry
  intro other position
  rw [entry_pivot, cleared, entry_ofEntries]
  by_cases same : other = row <;> simp [otherRows, entry_withRow, normalizedRow, same]

/-- A pivot in place leaves the tableau after the pivot, or on a zero the tableau as it was. -/
theorem pivotInPlace_eq (tableau : Tableau α m n) (row : Fin (m + 1)) (column : Fin (n + 1)) :
    tableau.pivotInPlace row column =
      match tableau.pivotAt row.val column.val with
      | .ok next => ⟨next, none⟩
      | .error fault => ⟨tableau, some fault⟩ := by
  rw [pivotAt_val, pivotInPlace, Change.ofSteps, List.foldl_cons, Change.andThen, divideRow]
  by_cases zero : (tableau.entry row column == 0) = true
  · simp only [if_pos zero]
    exact Change.foldl_andThen_of_fault _ _ _
  · simp only [if_neg zero]
    have nodup : (otherRows row).Nodup := (List.nodup_finRange _).filter _
    have notRow : row ∉ otherRows row := by simp [otherRows]
    rw [foldl_clearEntry _ row column nodup notRow, cleared_divided]

end Tableau

namespace Tableau

variable {m n : Nat}

/-- Values of the columns solve the equations of some rows. -/
def Solves (tableau : Tableau Rat m n) (rows : Set (Fin (m + 1))) (values : Fin n → Rat) : Prop :=
  ∀ row ∈ rows,
    ∑ column : Fin n, tableau.entry row column.castSucc * values column =
      tableau.entry row (Fin.last n)

theorem solves_iff_rowValue (tableau : Tableau Rat m n) (rows : Set (Fin (m + 1)))
    (values : Fin n → Rat) :
    tableau.Solves rows values ↔
      ∀ row ∈ rows, tableau.rowValue row (extended values (-1)) = 0 := by
  simp only [Solves, rowValue_extended, mul_neg_one, ← sub_eq_add_neg, sub_eq_zero]

/-- What a pivot on an element other than zero makes of a tableau. -/
structure ChangesBasis (tableau next : Tableau Rat m n) (row : Fin (m + 1))
    (column : Fin (n + 1)) : Prop where
  isUnitColumn : next.IsUnitColumn row column
  null_iff : ∀ weights : Fin (n + 1) → Rat,
    (∀ other, next.rowValue other weights = 0) ↔ ∀ other, tableau.rowValue other weights = 0
  solves_iff : ∀ rows : Set (Fin (m + 1)), row ∈ rows →
    ∀ values, next.Solves rows values ↔ tableau.Solves rows values
  kept_column : ∀ position, tableau.entry row position = 0 →
    ∀ other, next.entry other position = tableau.entry other position
  undone : ∀ position : Fin (n + 1), tableau.IsUnitColumn row position →
    next.pivotAt row.val position.val = .ok tableau

section Nonzero

variable {tableau : Tableau Rat m n} {row : Fin (m + 1)} {column : Fin (n + 1)}
  (nonzero : tableau.entry row column ≠ 0)
include nonzero

theorem isUnitColumn_pivot : (tableau.pivot row column).IsUnitColumn row column := by
  intro other
  rw [entry_pivot_rat, div_self nonzero, mul_one, sub_self]

theorem solves_pivot_iff {rows : Set (Fin (m + 1))} (rowMem : row ∈ rows)
    (values : Fin n → Rat) :
    (tableau.pivot row column).Solves rows values ↔ tableau.Solves rows values := by
  rw [solves_iff_rowValue, solves_iff_rowValue]
  exact tableau.rowValue_pivot_eq_zero_iff nonzero rowMem _

omit nonzero in
theorem entry_pivot_of_eq_zero {position : Fin (n + 1)}
    (zero : tableau.entry row position = 0) (other : Fin (m + 1)) :
    (tableau.pivot row column).entry other position = tableau.entry other position := by
  rw [entry_pivot_rat, zero, zero_div, mul_zero, sub_zero]
  by_cases same : other = row
  · rw [if_pos same, same, zero]
  · rw [if_neg same]

theorem pivot_pivot {position : Fin (n + 1)} (unit : tableau.IsUnitColumn row position) :
    (tableau.pivot row column).pivot row position = tableau := by
  have one : tableau.entry row position = 1 := by rw [unit row, if_pos rfl]
  -- Scaling the pivot row back multiplies it by the old pivot element.
  have scaledBack : ∀ place,
      (tableau.pivot row column).entry row place /
          (tableau.pivot row column).entry row position =
        tableau.entry row place := by
    intro place
    rw [entry_pivot_rat, entry_pivot_rat, if_pos rfl, if_pos rfl, one]
    field_simp
  apply ext_entry
  intro other place
  rw [entry_pivot_rat, scaledBack]
  by_cases same : other = row
  · rw [if_pos same, same]
  · have clear : tableau.entry other position = 0 := by rw [unit other, if_neg same]
    rw [if_neg same, entry_pivot_rat, entry_pivot_rat, if_neg same, if_neg same, clear, one]
    ring

theorem pivotAt_pivot {position : Fin (n + 1)} (unit : tableau.IsUnitColumn row position) :
    (tableau.pivot row column).pivotAt row.val position.val = .ok tableau := by
  have inverse : (tableau.pivot row column).entry row position ≠ 0 := by
    rw [entry_pivot_rat, if_pos rfl, unit row, if_pos rfl]
    exact one_div_ne_zero nonzero
  rw [pivotAt_val, if_neg (by simpa using inverse), pivot_pivot nonzero unit]

theorem changesBasis_pivot : tableau.ChangesBasis (tableau.pivot row column) row column where
  isUnitColumn := isUnitColumn_pivot nonzero
  null_iff weights := by
    simpa using tableau.rowValue_pivot_eq_zero_iff nonzero (Set.mem_univ row) weights
  solves_iff _ rowMem values := solves_pivot_iff nonzero rowMem values
  kept_column _ zero other := entry_pivot_of_eq_zero zero other
  undone _ unit := pivotAt_pivot nonzero unit

end Nonzero

/-- A pivot within a tableau, made in place, changes the basis; on a zero it is refused and leaves
the tableau as it was. -/
theorem pivot_changesBasis_or_refused (tableau : Tableau Rat m n) (row : Fin (m + 1))
    (column : Fin (n + 1)) :
    (tableau.entry row column ≠ 0 →
      ∃ next, tableau.pivotAt row.val column.val = .ok next ∧
        tableau.pivotInPlace row column = ⟨next, none⟩ ∧
        tableau.ChangesBasis next row column) ∧
    (tableau.entry row column = 0 →
      tableau.pivotAt row.val column.val =
          .error (.zeroPivot (toString (row.val : Int)) (toString (column.val : Int))) ∧
        tableau.pivotInPlace row column =
          ⟨tableau,
            some (.zeroPivot (toString (row.val : Int)) (toString (column.val : Int)))⟩) := by
  rw [pivotInPlace_eq, pivotAt_val]
  constructor
  · intro nonzero
    have passes : ¬ (tableau.entry row column == 0) = true := by simpa using nonzero
    rw [if_neg passes]
    exact ⟨_, rfl, rfl, changesBasis_pivot nonzero⟩
  · intro zero
    have stops : (tableau.entry row column == 0) = true := by simpa using zero
    rw [if_pos stops]
    exact ⟨rfl, rfl⟩

/-- The rows `[-3, 0, 0]` and `[2, 1, 4]`; the second column is the unit column of the lower row. -/
def lever : Tableau Rat 1 2 :=
  ⟨#v[#v[-3, 0, 0], #v[2, 1, 4]]⟩

/-- The lever can be pivoted in its lower row and back; the zero above is refused. -/
theorem lever_changesBasis_or_refused :
    lever.entry 1 0 ≠ 0 ∧ lever.IsUnitColumn 1 1 ∧ lever.entry 0 1 = 0 ∧
      (∃ next, lever.pivotAt 1 0 = .ok next ∧ next.pivotAt 1 1 = .ok lever ∧
        lever.ChangesBasis next 1 0) ∧
      lever.pivotInPlace 0 1 = ⟨lever, some (.zeroPivot "0" "1")⟩ := by
  have nonzero : lever.entry 1 0 ≠ 0 := by decide +kernel
  have unit : lever.IsUnitColumn 1 1 := by
    unfold IsUnitColumn
    decide +kernel
  have zero : lever.entry 0 1 = 0 := by decide +kernel
  obtain ⟨next, pivoted, -, changes⟩ := (pivot_changesBasis_or_refused lever 1 0).1 nonzero
  have refused := ((pivot_changesBasis_or_refused lever 0 1).2 zero).2
  exact ⟨nonzero, unit, zero, ⟨next, pivoted, changes.undone 1 unit, changes⟩, refused⟩

end Tableau

end SimplexReplay
