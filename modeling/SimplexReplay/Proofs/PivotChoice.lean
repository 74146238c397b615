import SimplexReplay.Proofs.DoubleOrder
import SimplexReplay.Proofs.Run.Selection

/-!
# The choice of a pivot among doubles

Whether a tableau of doubles can be improved, and which column enters, are found by scans of their
own.  They agree on every tableau, infinite and undefined entries included: no column enters exactly
when the tableau cannot be improved.  Bland's rule takes the first improving column.  Dantzig's rule
takes the first column with the least reduced cost where no reduced cost is undefined; otherwise it
takes the first undefined one, which improves nothing.

In a tableau of finite doubles the ratio of a row that limits the step is never undefined, but it
can lie beyond the finite doubles.  The row that leaves is the first one with the least ratio among
the rows that limit the step.  No row leaves when all these ratios are too large, or when one of
them lies too far below zero; only where every ratio is finite does this mean that no row limits the
step.
-/

namespace SimplexReplay

namespace Tableau

variable {m n : Nat}

/-- The column improves the cost, and no column before it does. -/
structure ImprovesFirst (tableau : Tableau Float m n) (tolerance : Float) (column : Fin n) :
    Prop where
  improves : tableau.reducedCost column < -tolerance
  passed : ∀ other < column, ¬tableau.reducedCost other < -tolerance

/-- The column improves the cost, no reduced cost is less than its own, and none before it equals
its own. -/
structure ImprovesMost (tableau : Tableau Float m n) (tolerance : Float) (column : Fin n) :
    Prop where
  improves : tableau.reducedCost column < -tolerance
  least : ∀ other, ¬tableau.reducedCost other < tableau.reducedCost column
  passed : ∀ other < column, (tableau.reducedCost other == tableau.reducedCost column) = false

/-- The reduced cost of the column is undefined, and none before it is. -/
structure FirstUndefined (tableau : Tableau Float m n) (column : Fin n) : Prop where
  undefined : (tableau.reducedCost column).isNaN = true
  passed : ∀ other < column, (tableau.reducedCost other).isNaN = false

/-- What a rule asks of the column that enters a tableau of doubles. -/
def EntersBy (tableau : Tableau Float m n) (tolerance : Float) : PivotRule → Fin n → Prop
  | .bland, column => tableau.ImprovesFirst tolerance column
  | .dantzig, column =>
      if ∃ other, (tableau.reducedCost other).isNaN = true then tableau.FirstUndefined column
      else tableau.ImprovesMost tolerance column

variable {tableau : Tableau Float m n} {tolerance : Float} {column : Fin n}

theorem firstUndefined_of_entering (entered : tableau.entering tolerance .dantzig = some column)
    {other : Fin n} (undefined : (tableau.reducedCost other).isNaN = true) :
    tableau.FirstUndefined column := by
  obtain ⟨isUndefined, passed⟩ :=
    isNaN_of_leastPosition (entering_dantzig_iff.mp entered).2 undefined
  exact ⟨isUndefined, passed⟩

theorem improvesMost_of_entering (entered : tableau.entering tolerance .dantzig = some column)
    (ordinary : ∀ other, (tableau.reducedCost other).isNaN = false) :
    tableau.ImprovesMost tolerance column := by
  have first := firstLeast_of_entering_dantzig ordinary entered
  refine ⟨improves_of_entering ordinary entered, ?_, ?_⟩
  · intro other
    exact first.not_lt (List.mem_finRange other)
  · intro other before
    have greater := first.lt_of_sorted Nat.lt_asymm (List.pairwise_lt_finRange n)
      (List.mem_finRange other) before
    exact Scalar.Ordered.beq_of_lt greater

/-- On every tableau of doubles no column enters exactly when the tableau cannot be improved, and a
column that enters is the one that the rule asks for. -/
theorem entering_among_doubles (tableau : Tableau Float m n) (tolerance : Float)
    (rule : PivotRule) :
    (tableau.entering tolerance rule = none ↔ tableau.canImprove tolerance = false) ∧
      ∀ column, tableau.entering tolerance rule = some column →
        tableau.EntersBy tolerance rule column := by
  refine ⟨entering_eq_none_iff_canImprove, ?_⟩
  intro column entered
  cases rule with
  | bland =>
      exact ⟨improves_of_entering_bland entered,
        fun other before => not_improves_of_lt_entering entered before⟩
  | dantzig =>
      rw [EntersBy]
      split
      · rename_i someUndefined
        obtain ⟨other, undefined⟩ := someUndefined
        exact firstUndefined_of_entering entered undefined
      · rename_i noneUndefined
        exact improvesMost_of_entering entered fun other =>
          Bool.eq_false_iff.mpr fun undefined => noneUndefined ⟨other, undefined⟩

/-- A tableau in which two columns improve the cost without bound. -/
def precipitous : Tableau Float 1 4 :=
  ⟨#v[#v[-1, -1.0 / 0.0, 3, -1.0 / 0.0, 0], #v[1, 1, 1, 1, 1]]⟩

/-- The first of the two steepest columns enters the precipitous tableau, and not the first
improving one. -/
theorem entersBy_precipitous :
    precipitous.entering 1e-10 .dantzig = some 1 ∧ precipitous.EntersBy 1e-10 .dantzig 1 ∧
      precipitous.ImprovesMost 1e-10 1 := by
  have entered : precipitous.entering 1e-10 .dantzig = some 1 := by decide +kernel
  have enters := (entering_among_doubles precipitous 1e-10 .dantzig).2 1 entered
  have noneUndefined : ¬∃ other, (precipitous.reducedCost other).isNaN = true := by
    decide +kernel
  refine ⟨entered, enters, ?_⟩
  rwa [EntersBy, if_neg noneUndefined] at enters

/-- A tableau with an improving column before one whose reduced cost is undefined. -/
def blurred : Tableau Float 1 2 :=
  ⟨#v[#v[-1, 0.0 / 0.0, 0], #v[1, 1, 1]]⟩

/-- The blurred tableau can be improved, and yet the column that Dantzig's rule takes does not
improve it. -/
theorem entering_blurred :
    (0.0 : Float) ≤ 0.0 ∧ blurred.canImprove 0.0 = true ∧
      blurred.entering 0.0 .dantzig = some 1 ∧ ¬blurred.reducedCost 1 < -0.0 ∧
      blurred.entering 0.0 .bland = some 0 ∧ blurred.reducedCost 0 < -0.0 := by
  decide +kernel

end Tableau

namespace Tableau

variable {m n : Nat}

def IsFinite (tableau : Tableau Float m n) : Prop :=
  ∀ row column, (tableau.entry row column).isFinite = true

instance (tableau : Tableau Float m n) : Decidable tableau.IsFinite :=
  inferInstanceAs (Decidable (∀ _, _))

/-- What the answer of the ratio test says about the rows that limit the step. -/
structure Limited (tableau : Tableau Float m n) (column : Fin (n + 1)) (tolerance : Float)
    (found : Option (Fin m)) : Prop where
  none_iff : found = none ↔
    (∀ row, tolerance < tableau.body row column →
      (tableau.quotient column row == Double.infinity) = true) ∨
    ∃ row, tolerance < tableau.body row column ∧
      (tableau.quotient column row == -Double.infinity) = true
  least : ∀ row, found = some row →
    tableau.HasLeastRatio column tolerance row ∧
      (tableau.quotient column row).isFinite = true
  none_iff_of_isFinite :
    (∀ row, tolerance < tableau.body row column →
      (tableau.quotient column row).isFinite = true) →
    (found = none ↔ ∀ row, ¬tolerance < tableau.body row column)

section Limited

variable {tableau : Tableau Float m n} {column : Fin (n + 1)} {tolerance : Float}

theorem isNaN_quotient (finite : tableau.IsFinite) (nonneg : 0.0 ≤ tolerance) (row : Fin m)
    (limits : tolerance < tableau.body row column) :
    (tableau.quotient column row).isNaN = false :=
  Double.isNaN_div (finite _ _) (finite _ _) (Scalar.SeparatesZero.beq_zero_of_lt nonneg limits)

variable (ordinary : ∀ row, tolerance < tableau.body row column →
  (tableau.quotient column row).isNaN = false)
include ordinary

/-- A row leaves when it has the least ratio and this ratio is finite. -/
theorem leaving_eq_some_iff {row : Fin m} :
    tableau.leaving column tolerance = some row ↔
      ∃ limit, firstLeast Prod.snd (tableau.limitingRows column tolerance) = some limit ∧
        limit.2.isFinite = true ∧ limit.1 = row := by
  rw [leaving_eq_filter ordinary]
  simp only [Option.map_eq_some_iff, Option.filter_eq_some_iff, and_assoc]
  rfl

theorem least_of_leaving {row : Fin m} (leaves : tableau.leaving column tolerance = some row) :
    tableau.HasLeastRatio column tolerance row ∧
      (tableau.quotient column row).isFinite = true := by
  obtain ⟨limit, found, finite, rfl⟩ := (leaving_eq_some_iff ordinary).mp leaves
  obtain ⟨ratioEq, least⟩ := hasLeastRatio_of_firstLeast ordinary found
  exact ⟨least, ratioEq ▸ finite⟩

/-- When no row leaves although some row limits the step, the least ratio is infinite. -/
theorem exists_infinite_of_leaving (stays : tableau.leaving column tolerance = none) {row : Fin m}
    (limits : tolerance < tableau.body row column) :
    ∃ least, tableau.HasLeastRatio column tolerance least ∧
      (tableau.quotient column least).isFinite = false := by
  cases found : firstLeast Prod.snd (tableau.limitingRows column tolerance) with
  | none => exact absurd limits (limitingRows_eq_nil_iff.mp (firstLeast_eq_none_iff.mp found) row)
  | some limit =>
      obtain ⟨ratioEq, least⟩ := hasLeastRatio_of_firstLeast ordinary found
      refine ⟨limit.1, least, ?_⟩
      rw [← ratioEq]
      apply Bool.eq_false_iff.mpr
      intro finite
      have leaves := (leaving_eq_some_iff ordinary).mpr ⟨limit, found, finite, rfl⟩
      rw [stays] at leaves
      contradiction

theorem leaving_none_iff_infinite :
    tableau.leaving column tolerance = none ↔
      (∀ row, tolerance < tableau.body row column →
        (tableau.quotient column row == Double.infinity) = true) ∨
      ∃ row, tolerance < tableau.body row column ∧
        (tableau.quotient column row == -Double.infinity) = true := by
  constructor
  · intro stays
    by_cases bounded : ∃ row, tolerance < tableau.body row column
    · obtain ⟨row, limits⟩ := bounded
      obtain ⟨least, isLeast, infinite⟩ := exists_infinite_of_leaving ordinary stays limits
      rcases (Double.isFinite_eq_false_iff (ordinary least isLeast.limits)).mp infinite with
        above | below
      · left
        intro other otherLimits
        exact Double.beq_infinity_of_not_lt (ordinary other otherLimits) above
          (isLeast.not_lt other otherLimits)
      · exact Or.inr ⟨least, isLeast.limits, below⟩
    · exact Or.inl fun row limits => absurd ⟨row, limits⟩ bounded
  · intro infinite
    cases leaves : tableau.leaving column tolerance with
    | none => rfl
    | some row =>
        obtain ⟨isLeast, finite⟩ := least_of_leaving ordinary leaves
        have outside : (tableau.quotient column row).isFinite = false := by
          apply (Double.isFinite_eq_false_iff (ordinary row isLeast.limits)).mpr
          rcases infinite with above | ⟨other, otherLimits, below⟩
          · exact Or.inl (above row isLeast.limits)
          · exact Or.inr (Double.beq_neg_infinity_of_not_lt (ordinary row isLeast.limits) below
              (isLeast.not_lt other otherLimits))
        rw [finite] at outside
        contradiction

end Limited

/-- The ratio test answers for every column of a tableau of finite doubles with a constraint row. -/
theorem exists_limited (someRow : m ≠ 0) {tableau : Tableau Float m n} (finite : tableau.IsFinite)
    {tolerance : Float} (nonneg : 0.0 ≤ tolerance) (column : Fin (n + 1)) :
    ∃ found, tableau.leavingRow column tolerance = .ok found ∧
      tableau.Limited column tolerance found := by
  have ordinary : ∀ row, tolerance < tableau.body row column →
      (tableau.quotient column row).isNaN = false := isNaN_quotient finite nonneg
  refine ⟨_, leavingRow_eq_ok someRow tableau column tolerance,
    leaving_none_iff_infinite ordinary, fun row => least_of_leaving ordinary, ?_⟩
  intro finiteRatios
  constructor
  · intro stays row limits
    obtain ⟨least, isLeast, infinite⟩ := exists_infinite_of_leaving ordinary stays limits
    rw [finiteRatios least isLeast.limits] at infinite
    contradiction
  · intro unlimited
    refine (leaving_none_iff_infinite ordinary).mpr (Or.inl ?_)
    intro row limits
    exact absurd limits (unlimited row)

/-- A tableau in which one ratio is too large and two others tie. -/
def lopsided : Tableau Float 3 1 :=
  ⟨#v[#v[-1, 0], #v[1e-5, 1e305], #v[2, 4], #v[1, 2]]⟩

/-- The first of the tied rows leaves the lopsided tableau. -/
theorem limited_lopsided :
    lopsided.IsFinite ∧ (0.0 : Float) ≤ 1e-10 ∧
      (lopsided.quotient 0 0 == Double.infinity) = true ∧
      lopsided.leavingRow 0 1e-10 = .ok (some 1) ∧ lopsided.Limited 0 1e-10 (some 1) := by
  have finite : lopsided.IsFinite := by decide +kernel
  have nonneg : (0.0 : Float) ≤ 1e-10 := by decide +kernel
  obtain ⟨found, answered, limited⟩ := exists_limited (by decide) finite nonneg 0
  have leaves : lopsided.leaving 0 1e-10 = some 1 := by decide +kernel
  have expected : lopsided.leavingRow 0 1e-10 = .ok (some 1) := by
    rw [leavingRow_eq_ok (by decide), leaves]
  obtain rfl := Except.ok.inj (answered.symm.trans expected)
  exact ⟨finite, nonneg, by decide +kernel, expected, limited⟩

/-- A tableau whose only row limits the step at a ratio beyond all doubles. -/
def remote : Tableau Float 1 1 :=
  ⟨#v[#v[-1, 0], #v[1e-5, 1e305]]⟩

/-- No row leaves the remote tableau, although its entry exceeds the tolerance. -/
theorem leavingRow_remote :
    remote.IsFinite ∧ (0.0 : Float) ≤ 1e-10 ∧ (1e-10 : Float).isFinite = true ∧
      (1e-10 : Float) < remote.body 0 0 ∧ remote.leavingRow 0 1e-10 = .ok none := by
  have stays : remote.leaving 0 1e-10 = none := by decide +kernel
  refine ⟨by decide +kernel, by decide +kernel, by decide +kernel, by decide +kernel, ?_⟩
  rw [leavingRow_eq_ok (by decide), stays]

end Tableau

end SimplexReplay
