import SimplexReplay.Proofs.Run.Solved
import SimplexReplay.Tableau.Basis

/-!
# The scan for a basis

When there are at least as many columns as constraint rows, the scan for a basis meets every column
once, the columns of the slacks first.  A row that has been given away is not given again, so each
row ends with the first column on the way that is basic in it.
-/

namespace SimplexReplay

theorem filter_finRange_eq_singleton_iff {size : Nat} {holds : Fin size → Bool}
    {position : Fin size} :
    (List.finRange size).filter holds = [position] ↔
      ∀ other, holds other = true ↔ other = position := by
  constructor
  · intro single other
    have mem_iff : other ∈ (List.finRange size).filter holds ↔ other = position := by
      rw [single, List.mem_singleton]
    simpa using mem_iff
  · intro only
    have nodup : ((List.finRange size).filter holds).Nodup := (List.nodup_finRange size).filter _
    have sameMembers : ((List.finRange size).filter holds).Perm [position] := by
      rw [List.perm_ext_iff_of_nodup nodup (List.nodup_singleton position)]
      intro other
      simpa using only other
    exact List.perm_singleton.mp sameMembers

namespace Tableau

variable {α : Type} [Scalar α] {m n : Nat}

/-- The column is basic in the row, up to the tolerance. -/
structure BasicIn (tableau : Tableau α m n) (tolerance : α) (row : Fin m)
    (column : Fin (n + 1)) : Prop where
  cost : ¬ tolerance < Scalar.magnitude (tableau.objectiveEntry column)
  nearOne_iff : ∀ other,
    Scalar.magnitude (tableau.body other column - 1) ≤ tolerance ↔ other = row
  undisturbed : ∀ other, other ≠ row →
    ¬ tolerance < Scalar.magnitude (tableau.body other column)

theorem nearOnes_eq_singleton_iff {tableau : Tableau α m n} {column : Fin (n + 1)}
    {tolerance : α} {row : Fin m} :
    tableau.nearOnes column tolerance = [row] ↔
      ∀ other, Scalar.magnitude (tableau.body other column - 1) ≤ tolerance ↔ other = row := by
  rw [nearOnes, filter_finRange_eq_singleton_iff]
  simp only [decide_eq_true_eq]

theorem disturbed_eq_false_iff {tableau : Tableau α m n} {column : Fin (n + 1)} {tolerance : α}
    {row : Fin m} :
    tableau.disturbed column tolerance row = false ↔
      ∀ other, other ≠ row → ¬ tolerance < Scalar.magnitude (tableau.body other column) := by
  simp [disturbed]

theorem basicRow_eq_some_iff {tableau : Tableau α m n} {column : Fin (n + 1)} {tolerance : α}
    {row : Fin m} :
    tableau.basicRow column tolerance = some row ↔ tableau.BasicIn tolerance row column := by
  constructor
  · intro found
    rw [basicRow] at found
    split at found
    · contradiction
    next cheap =>
      split at found
      next single nearOne =>
        split at found
        · contradiction
        next calm =>
          obtain rfl := Option.some.inj found
          exact ⟨cheap, nearOnes_eq_singleton_iff.mp nearOne,
            disturbed_eq_false_iff.mp (Bool.not_eq_true _ ▸ calm)⟩
      · contradiction
  · intro basic
    rw [basicRow, if_neg basic.cost, nearOnes_eq_singleton_iff.mpr basic.nearOne_iff]
    simp [disturbed_eq_false_iff.mpr basic.undisturbed]

/-- The columns of a tableau in the order of the scan. -/
def scanned (fits : m ≤ n) : List (Fin n) :=
  List.ofFn (fun offset : Fin m => ⟨n - m + offset.val, by omega⟩) ++
    List.ofFn fun position : Fin (n - m) => ⟨position.val, by omega⟩

theorem scanOrder_eq_map (fits : m ≤ n) :
    scanOrder m n = (scanned fits).map fun column => (column.val : Int) := by
  rw [scanOrder, scanned, List.map_append]
  congr 1
  · apply List.ext_getElem (by simp)
    intro position first second
    simp
    omega
  · apply List.ext_getElem (by simp)
    intro position first second
    simp

theorem mem_scanned (fits : m ≤ n) (column : Fin n) : column ∈ scanned fits := by
  rw [scanned, List.mem_append, List.mem_ofFn, List.mem_ofFn]
  by_cases decision : column.val < n - m
  · exact Or.inr ⟨⟨column.val, decision⟩, rfl⟩
  · have offsetLt : column.val - (n - m) < m := by omega
    exact Or.inl ⟨⟨column.val - (n - m), offsetLt⟩, Fin.ext (by simp; omega)⟩

/-- The basis after a column of the tableau has claimed its row. -/
def claim (tableau : Tableau α m n) (tolerance : α) (basis : Vector Int m) (column : Fin n) :
    Vector Int m :=
  match tableau.basicRow column.castSucc tolerance with
  | none => basis
  | some row => if basis.get row < 0 then basis.set row.val column.val row.isLt else basis

theorem claimRow_val (tableau : Tableau α m n) (tolerance : α) (basis : Vector Int m)
    (column : Fin n) :
    tableau.claimRow tolerance basis column.val = .ok (tableau.claim tolerance basis column) := by
  have inside : column.val < n + 1 := column.castSucc.isLt
  rw [claimRow, signedPosition?_natCast inside, claim]
  change (match tableau.basicRow column.castSucc tolerance with
    | none => _
    | some row => _) = _
  cases tableau.basicRow column.castSucc tolerance <;> rfl

section Claim

variable {tableau : Tableau α m n} {tolerance : α} {basis : Vector Int m} {column : Fin n}
  {row : Fin m}

theorem get_claim_of_basic (free : basis.get row < 0)
    (basic : tableau.basicRow column.castSucc tolerance = some row) :
    (tableau.claim tolerance basis column).get row = column.val := by
  simp only [claim, basic, if_pos free]
  exact Vector.getElem_set_self row.isLt

theorem get_claim_of_not_basic
    (notBasic : tableau.basicRow column.castSucc tolerance ≠ some row) :
    (tableau.claim tolerance basis column).get row = basis.get row := by
  rw [claim]
  cases claims : tableau.basicRow column.castSucc tolerance with
  | none => rfl
  | some claimed =>
      have apart : claimed.val ≠ row.val := fun equal =>
        notBasic (claims.trans (congrArg some (Fin.ext equal)))
      by_cases free : basis.get claimed < 0
      · simp only [if_pos free]
        exact Vector.getElem_set_ne claimed.isLt row.isLt apart
      · simp only [if_neg free]

theorem get_claim_of_taken (taken : ¬ basis.get row < 0) :
    (tableau.claim tolerance basis column).get row = basis.get row := by
  by_cases basic : tableau.basicRow column.castSucc tolerance = some row
  · simp only [claim, basic, if_neg taken]
  · exact get_claim_of_not_basic basic

end Claim

/-- What a row that may still be free holds after the scan of some columns. -/
theorem get_foldl_claim (tableau : Tableau α m n) (tolerance : α) (columns : List (Fin n))
    (basis : Vector Int m) (row : Fin m) :
    (columns.foldl (tableau.claim tolerance) basis).get row =
      if basis.get row < 0 then
        (columns.find? fun column =>
          tableau.basicRow column.castSucc tolerance = some row).elim (basis.get row)
            fun column => (column.val : Int)
      else basis.get row := by
  induction columns generalizing basis with
  | nil => simp
  | cons column rest ih =>
      rw [List.foldl_cons, ih]
      by_cases free : basis.get row < 0
      · by_cases basic : tableau.basicRow column.castSucc tolerance = some row
        · -- The row has just been given away, and the number of its column is not negative.
          have taken : ¬ (column.val : Int) < 0 := by omega
          rw [get_claim_of_basic free basic, if_neg taken, if_pos free,
            List.find?_cons_of_pos (by simp [basic])]
          rfl
        · rw [get_claim_of_not_basic basic, List.find?_cons_of_neg (by simp [basic])]
      · rw [get_claim_of_taken free, if_neg free, if_neg free]

/-- The first column on the scan that is basic in a row. -/
def firstBasic? (tableau : Tableau α m n) (fits : m ≤ n) (tolerance : α) (row : Fin m) :
    Option (Fin n) :=
  (scanned fits).find? fun column => tableau.basicRow column.castSucc tolerance = some row

theorem readBasis_eq (tableau : Tableau α m n) (fits : m ≤ n) (tolerance : α) :
    tableau.readBasis tolerance =
      .ok (Vector.ofFn fun row =>
        (tableau.firstBasic? fits tolerance row).elim (-1) fun column => (column.val : Int)) := by
  have folded : tableau.readBasis tolerance =
      .ok ((scanned fits).foldl (tableau.claim tolerance) (Vector.replicate m (-1))) := by
    rw [readBasis, scanOrder_eq_map fits, List.foldlM_map]
    simp only [claimRow_val]
    exact List.foldlM_pure
  rw [folded]
  congr 1
  apply Vector.ext
  intro row rowLt
  have free : (Vector.replicate m (-1 : Int)).get ⟨row, rowLt⟩ = -1 :=
    Vector.getElem_replicate rowLt
  have claimed := tableau.get_foldl_claim tolerance (scanned fits)
    (Vector.replicate m (-1)) ⟨row, rowLt⟩
  rw [free, if_pos (by decide)] at claimed
  rw [Vector.getElem_ofFn]
  exact claimed

theorem exists_firstBasic?_eq {tableau : Tableau α m n} (fits : m ≤ n) {tolerance : α}
    {row : Fin m} {column : Fin n} (basic : tableau.BasicIn tolerance row column.castSucc) :
    ∃ first, tableau.firstBasic? fits tolerance row = some first ∧
      tableau.BasicIn tolerance row first.castSucc := by
  have claims := decide_eq_true (basicRow_eq_some_iff.mpr basic)
  have isSome : (tableau.firstBasic? fits tolerance row).isSome :=
    List.find?_isSome.mpr ⟨column, mem_scanned fits column, claims⟩
  obtain ⟨first, found⟩ := Option.isSome_iff_exists.mp isSome
  have firstClaims := List.find?_some found
  exact ⟨first, found, basicRow_eq_some_iff.mp (of_decide_eq_true firstClaims)⟩

end Tableau

end SimplexReplay
