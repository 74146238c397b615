import SimplexReplay.Proofs.DoubleOrder
import SimplexReplay.Proofs.Run.BasisScan

/-!
# The assignment of rows to columns

A tableau need not have been reached by pivots to have a basis read off it, and then several columns
can be basic in one row and others in none.  The scan gives a row the first slack column that is
basic in it, or else the first decision column, and it leaves a row without one exactly if no column
is basic in it.  No column is given to two rows, because no column is basic in two.  As long as no
entry is undefined, a column is basic in a row exactly if it is the unit column of the row up to the
tolerance, with no other row in which its entry is as near to one.
-/

namespace SimplexReplay

/-- The first member with a property of a list in increasing order is the least one. -/
theorem find?_eq_some_of_isLeast {ι : Type} [LinearOrder ι] {members : List ι}
    (sorted : members.Pairwise (· < ·)) {holds : ι → Bool} {least : ι}
    (isLeast : IsLeast {member | member ∈ members ∧ holds member = true} least) :
    members.find? holds = some least := by
  obtain ⟨⟨leastMem, leastHolds⟩, below⟩ := isLeast
  obtain ⟨before, after, rfl⟩ := List.append_of_mem leastMem
  rw [List.find?_eq_some_iff_append]
  refine ⟨leastHolds, before, after, rfl, ?_⟩
  intro other otherMem
  have less : other < least :=
    (List.pairwise_append.mp sorted).2.2 other otherMem least List.mem_cons_self
  have notHolds : ¬holds other = true := fun otherHolds =>
    not_le.mpr less (below ⟨List.mem_append_left _ otherMem, otherHolds⟩)
  simpa using notHolds

namespace Tableau

variable {m n : Nat}

def basicSlacks (tableau : Tableau Float m n) (tolerance : Float) (row : Fin m) : Set (Fin n) :=
  {column | n - m ≤ column.val ∧ tableau.basicRow column.castSucc tolerance = some row}

def basicDecisions (tableau : Tableau Float m n) (tolerance : Float) (row : Fin m) : Set (Fin n) :=
  {column | column.val < n - m ∧ tableau.basicRow column.castSucc tolerance = some row}

/-- A basis gives every row the first column that is basic in it, slack columns before decision
columns, and no column twice. -/
structure Assigns (tableau : Tableau Float m n) (tolerance : Float)
    (basis : Vector Int m) : Prop where
  range : ∀ row : Fin m, basis.get row = -1 ∨ ∃ column : Fin n, basis.get row = column.val
  once : ∀ row other : Fin m, basis.get row ≠ -1 → basis.get row = basis.get other → row = other
  unassigned_iff : ∀ row : Fin m, basis.get row = -1 ↔
    ∀ column : Fin n, tableau.basicRow column.castSucc tolerance ≠ some row
  slack : ∀ (row : Fin m) (column : Fin n), IsLeast (tableau.basicSlacks tolerance row) column →
    basis.get row = column.val
  decision : ∀ (row : Fin m) (column : Fin n), tableau.basicSlacks tolerance row = ∅ →
    IsLeast (tableau.basicDecisions tolerance row) column → basis.get row = column.val

/-- The column costs nothing and is the unit column of the row, up to a tolerance. -/
structure NearUnit (tableau : Tableau Float m n) (tolerance : Float) (row : Fin m)
    (column : Fin (n + 1)) : Prop where
  cost : (tableau.objectiveEntry column).abs ≤ tolerance
  one : (tableau.body row column - 1.0).abs ≤ tolerance
  onlyOne : ∀ other, other ≠ row → ¬(tableau.body other column - 1.0).abs ≤ tolerance
  zero : ∀ other, other ≠ row → (tableau.body other column).abs ≤ tolerance

theorem slackPlace_lt (fits : m ≤ n) (offset : Fin m) : n - m + offset.val < n := by
  omega

def slackColumns (fits : m ≤ n) : List (Fin n) :=
  List.ofFn fun offset : Fin m => ⟨n - m + offset.val, slackPlace_lt fits offset⟩

def decisionColumns (m n : Nat) : List (Fin n) :=
  List.ofFn fun position : Fin (n - m) => ⟨position.val, by omega⟩

theorem scanned_eq_append (fits : m ≤ n) :
    scanned fits = slackColumns fits ++ decisionColumns m n :=
  rfl

section Scan

variable {tableau : Tableau Float m n} {tolerance : Float} {fits : m ≤ n} {row : Fin m}
  {column : Fin n}

theorem mem_slackColumns : column ∈ slackColumns fits ↔ n - m ≤ column.val := by
  rw [slackColumns, List.mem_ofFn]
  constructor
  · rintro ⟨offset, rfl⟩
    exact Nat.le_add_right ..
  · intro slack
    exact ⟨⟨column.val - (n - m), by omega⟩, Fin.ext (by simp; omega)⟩

theorem mem_decisionColumns : column ∈ decisionColumns m n ↔ column.val < n - m := by
  rw [decisionColumns, List.mem_ofFn]
  constructor
  · rintro ⟨position, rfl⟩
    exact position.isLt
  · intro decision
    exact ⟨⟨column.val, decision⟩, rfl⟩

theorem sorted_slackColumns (fits : m ≤ n) : (slackColumns fits).Pairwise (· < ·) := by
  rw [slackColumns, List.pairwise_ofFn]
  intro first second less
  exact Fin.mk_lt_mk.mpr (Nat.add_lt_add_left less _)

theorem sorted_decisionColumns (m n : Nat) : (decisionColumns m n).Pairwise (· < ·) := by
  rw [decisionColumns, List.pairwise_ofFn]
  intro first second less
  exact less

theorem basicRow_of_firstBasic? (found : tableau.firstBasic? fits tolerance row = some column) :
    tableau.basicRow column.castSucc tolerance = some row := by
  have claims := List.find?_some found
  exact of_decide_eq_true claims

theorem firstBasic?_eq_none_iff : tableau.firstBasic? fits tolerance row = none ↔
    ∀ column : Fin n, tableau.basicRow column.castSucc tolerance ≠ some row := by
  simp [firstBasic?, List.find?_eq_none, mem_scanned]

theorem firstBasic?_eq_of_isLeast_slack
    (isLeast : IsLeast (tableau.basicSlacks tolerance row) column) :
    tableau.firstBasic? fits tolerance row = some column := by
  obtain ⟨⟨isSlack, basic⟩, below⟩ := isLeast
  rw [firstBasic?, scanned_eq_append, List.find?_append,
    find?_eq_some_of_isLeast (sorted_slackColumns fits), Option.some_or]
  refine ⟨⟨mem_slackColumns.mpr isSlack, decide_eq_true basic⟩, ?_⟩
  rintro other ⟨otherMem, otherBasic⟩
  exact below ⟨mem_slackColumns.mp otherMem, of_decide_eq_true otherBasic⟩

theorem firstBasic?_eq_of_isLeast_decision
    (noSlack : tableau.basicSlacks tolerance row = ∅)
    (isLeast : IsLeast (tableau.basicDecisions tolerance row) column) :
    tableau.firstBasic? fits tolerance row = some column := by
  obtain ⟨⟨isDecision, basic⟩, below⟩ := isLeast
  have passed : (slackColumns fits).find? (fun slack =>
      tableau.basicRow slack.castSucc tolerance = some row) = none := by
    rw [List.find?_eq_none]
    intro slack slackMem slackBasic
    have isBasic : slack ∈ tableau.basicSlacks tolerance row :=
      ⟨mem_slackColumns.mp slackMem, of_decide_eq_true slackBasic⟩
    rw [noSlack] at isBasic
    exact isBasic
  rw [firstBasic?, scanned_eq_append, List.find?_append, passed, Option.none_or,
    find?_eq_some_of_isLeast (sorted_decisionColumns m n)]
  refine ⟨⟨mem_decisionColumns.mpr isDecision, decide_eq_true basic⟩, ?_⟩
  rintro other ⟨otherMem, otherBasic⟩
  exact below ⟨mem_decisionColumns.mp otherMem, of_decide_eq_true otherBasic⟩

end Scan

/-- The basis that a scan of all columns leaves behind. -/
def scannedBasis (tableau : Tableau Float m n) (fits : m ≤ n) (tolerance : Float) : Vector Int m :=
  Vector.ofFn fun row =>
    (tableau.firstBasic? fits tolerance row).elim (-1) fun column => (column.val : Int)

theorem get_scannedBasis (tableau : Tableau Float m n) (fits : m ≤ n) (tolerance : Float)
    (row : Fin m) : (tableau.scannedBasis fits tolerance).get row =
      (tableau.firstBasic? fits tolerance row).elim (-1) fun column => (column.val : Int) :=
  Vector.getElem_ofFn row.isLt

theorem assigns_scannedBasis (tableau : Tableau Float m n) (fits : m ≤ n) (tolerance : Float) :
    tableau.Assigns tolerance (tableau.scannedBasis fits tolerance) where
  range row := by
    rw [get_scannedBasis]
    cases tableau.firstBasic? fits tolerance row with
    | none => exact Or.inl rfl
    | some column => exact Or.inr ⟨column, rfl⟩
  once row other assigned same := by
    rw [get_scannedBasis] at assigned
    rw [get_scannedBasis, get_scannedBasis] at same
    cases found : tableau.firstBasic? fits tolerance row with
    | none => simp [found] at assigned
    | some column =>
        cases otherFound : tableau.firstBasic? fits tolerance other with
        | none => simp [found, otherFound] at same
        | some otherColumn =>
            rw [found, otherFound, Option.elim_some, Option.elim_some, Int.natCast_inj] at same
            obtain rfl := Fin.ext same
            exact Option.some.inj
              ((basicRow_of_firstBasic? found).symm.trans (basicRow_of_firstBasic? otherFound))
  unassigned_iff row := by
    have free : tableau.firstBasic? fits tolerance row = none ↔ _ := firstBasic?_eq_none_iff
    rw [get_scannedBasis, ← free]
    cases tableau.firstBasic? fits tolerance row with
    | none => simp
    | some column => simp
  slack row column isLeast := by
    rw [get_scannedBasis, firstBasic?_eq_of_isLeast_slack isLeast, Option.elim_some]
  decision row column noSlack isLeast := by
    rw [get_scannedBasis, firstBasic?_eq_of_isLeast_decision noSlack isLeast, Option.elim_some]

theorem basicRow_eq_some_iff_nearUnit {tableau : Tableau Float m n}
    (ordinary : ∀ row column, (tableau.entry row column).isNaN = false) {tolerance : Float}
    (nonneg : 0.0 ≤ tolerance) (row : Fin m) (column : Fin (n + 1)) :
    tableau.basicRow column tolerance = some row ↔ tableau.NearUnit tolerance row column := by
  have small (value : Float) (isOrdinary : value.isNaN = false) :
      ¬tolerance < value.abs ↔ value.abs ≤ tolerance :=
    Double.not_lt_iff_le (Double.isNaN_of_zero_le nonneg) (Double.isNaN_abs isOrdinary)
  rw [basicRow_eq_some_iff]
  constructor
  · intro basic
    exact {
      cost := (small _ (ordinary 0 column)).mp basic.cost
      one := (basic.nearOne_iff row).mpr rfl
      onlyOne := fun other different near => different ((basic.nearOne_iff other).mp near)
      zero := fun other different =>
        (small _ (ordinary other.succ column)).mp (basic.undisturbed other different) }
  · intro near
    refine ⟨(small _ (ordinary 0 column)).mpr near.cost, fun other => ⟨?_, ?_⟩,
      fun other different => (small _ (ordinary other.succ column)).mpr (near.zero other different)⟩
    · intro nearOne
      by_contra different
      exact near.onlyOne other different nearOne
    · rintro rfl
      exact near.one

/-- With a column for every row, the basis read off a tableau of doubles that are not undefined
assigns to each row the first of its basic columns, slack columns before decision columns, and the
basic columns of a row are its unit columns up to the tolerance. -/
theorem exists_assigns_readBasis (tableau : Tableau Float m n) (fits : m ≤ n)
    (ordinary : ∀ row column, (tableau.entry row column).isNaN = false) {tolerance : Float}
    (nonneg : 0.0 ≤ tolerance) :
    ∃ basis, tableau.readBasis tolerance = .ok basis ∧ tableau.Assigns tolerance basis ∧
      ∀ row column, tableau.basicRow column tolerance = some row ↔
        tableau.NearUnit tolerance row column :=
  ⟨_, tableau.readBasis_eq fits tolerance, tableau.assigns_scannedBasis fits tolerance,
    basicRow_eq_some_iff_nearUnit ordinary nonneg⟩

/-- A tableau with two unit columns for each of the first two rows and none for the third.  The
slack of the second row has an infinite cost. -/
def contested : Tableau Float 3 6 :=
  ⟨#v[#v[0, 0, -1e-11, 0, 1.0 / 0.0, 2, 7], #v[1, 0, 0, 1, 0, 0, 4],
    #v[0, 1, 1, 0, 1, 0, 5], #v[0, 0, 1e-11, 0, 0, 3, 6]]⟩

/-- In the contested tableau the first row goes to its slack, the second to the first of two
decision columns, and the third to none. -/
theorem assigns_contested :
    3 ≤ 6 ∧ (∀ row column, (contested.entry row column).isNaN = false) ∧ (0.0 : Float) ≤ 1e-10 ∧
      contested.readBasis 1e-10 = .ok #v[3, 1, -1] ∧ contested.Assigns 1e-10 #v[3, 1, -1] ∧
      contested.NearUnit 1e-10 1 2 := by
  have ordinary : ∀ row column, (contested.entry row column).isNaN = false := by decide +kernel
  have nonneg : (0.0 : Float) ≤ 1e-10 := by decide +kernel
  obtain ⟨basis, readEq, assigns, basicIff⟩ :=
    exists_assigns_readBasis contested (by decide) ordinary nonneg
  have shown : contested.readBasis 1e-10 = .ok #v[3, 1, -1] := by decide +kernel
  obtain rfl : #v[3, 1, -1] = basis := Except.ok.inj (shown.symm.trans readEq)
  exact ⟨by decide, ordinary, nonneg, shown, assigns, (basicIff 1 2).mp (by decide +kernel)⟩

end Tableau

end SimplexReplay
