import Mathlib.Data.List.Forall2
import SimplexReplay.Run.Solve

/-!
# What a run does next

A tableau with a constraint row always has a choice.  It finishes when no column enters, meets no
limit when a column enters and no row leaves, and pivots when both are found; the row that leaves
has an entry above the tolerance.  This holds over scalars of any kind, undefined ones included.
-/

namespace SimplexReplay

theorem mapM_eq_ok_iff {α β : Type} {compute : α → Except Fault β} {members : List α}
    {results : List β} :
    members.mapM compute = .ok results ↔
      List.Forall₂ (fun member result => compute member = .ok result) members results := by
  constructor
  · intro computed
    induction members generalizing results with
    | nil =>
        obtain rfl : [] = results := Except.ok.inj computed
        exact .nil
    | cons member rest ih =>
        rw [List.mapM_cons] at computed
        obtain ⟨result, found, others⟩ := exists_of_bind_eq_ok computed
        obtain ⟨tail, tailFound, gathered⟩ := exists_of_bind_eq_ok others
        obtain rfl : result :: tail = results := Except.ok.inj gathered
        exact .cons found (ih tailFound)
  · intro computed
    induction computed with
    | nil => rfl
    | cons made rest ih =>
        rw [List.mapM_cons, made, ih]
        rfl

theorem exists_mapM {α β : Type} {compute : α → Except Fault β} {good : β → Prop}
    {members : List α}
    (succeeds : ∀ member ∈ members, ∃ made, compute member = .ok made ∧ good made) :
    ∃ all, members.mapM compute = .ok all ∧ ∀ made ∈ all, good made := by
  induction members with
  | nil => exact ⟨[], rfl, nofun⟩
  | cons member rest ih =>
      obtain ⟨made, madeEq, madeGood⟩ := succeeds member List.mem_cons_self
      obtain ⟨others, othersEq, othersGood⟩ := ih fun other otherMem =>
        succeeds other (List.mem_cons_of_mem member otherMem)
      refine ⟨made :: others, ?_, List.forall_mem_cons.mpr ⟨madeGood, othersGood⟩⟩
      rw [List.mapM_cons, madeEq, othersEq]
      rfl

variable {α : Type} [Scalar α]

theorem mem_of_firstLeast_eq_some {ι : Type} {key : ι → α} {members : List ι} {least : ι}
    (found : firstLeast key members = some least) : least ∈ members := by
  induction members generalizing least with
  | nil => simp [firstLeast] at found
  | cons member rest ih =>
      cases searched : firstLeast key rest with
      | none =>
          have same : member = least := by simpa [firstLeast, searched] using found
          simp [same]
      | some other =>
          by_cases less : key other < key member
          · have same : other = least := by simpa [firstLeast, searched, less] using found
            exact List.mem_cons_of_mem member (same ▸ ih searched)
          · have same : member = least := by simpa [firstLeast, searched, less] using found
            simp [same]

variable {m n : Nat}

theorem Tableau.mem_limitingRows {tableau : Tableau α m n} {column : Fin (n + 1)}
    {tolerance : α} {limit : Fin m × α} :
    limit ∈ tableau.limitingRows column tolerance ↔
      tolerance < tableau.body limit.1 column ∧
        limit.2 = tableau.rhs limit.1 / tableau.body limit.1 column := by
  obtain ⟨row, quotient⟩ := limit
  simp only [limitingRows, List.mem_filterMap, List.mem_finRange, true_and, ratio]
  constructor
  · rintro ⟨other, mapped⟩
    split at mapped
    · simp only [Option.map_some, Option.some.injEq, Prod.mk.injEq] at mapped
      obtain ⟨rfl, rfl⟩ := mapped
      exact ⟨‹_›, rfl⟩
    · simp at mapped
  · rintro ⟨above, rfl⟩
    exact ⟨row, by simp [above]⟩

theorem Tableau.lt_body_of_leaving {tableau : Tableau α m n} {column : Fin (n + 1)}
    {tolerance : α} {row : Fin m} (leaves : tableau.leaving column tolerance = some row) :
    tolerance < tableau.body row column := by
  simp only [leaving] at leaves
  split at leaves
  · simp at leaves
  · cases found : firstLeast Prod.snd (tableau.limitingRows column tolerance) with
    | none => simp [found] at leaves
    | some limit =>
        have same : limit.1 = row := by
          rw [found] at leaves
          split at leaves <;> simp_all
        exact same ▸ (mem_limitingRows.mp (mem_of_firstLeast_eq_some found)).1

theorem Tableau.choice_eq_finish_iff {tableau : Tableau α m n} {tolerance : α}
    {rule : PivotRule} :
    tableau.choice tolerance rule = .ok .finish ↔ tableau.entering tolerance rule = none := by
  cases entered : tableau.entering tolerance rule with
  | none => simp [choice, entered]
  | some column =>
      cases leaves : tableau.leavingRow column.castSucc tolerance with
      | error fault => simp [choice, entered, leaves]
      | ok row => cases row <;> simp [choice, entered, leaves]

theorem Tableau.choice_eq_unlimited_iff (someRow : m ≠ 0) {tableau : Tableau α m n}
    {tolerance : α} {rule : PivotRule} {column : Fin n} :
    tableau.choice tolerance rule = .ok (.unlimited column) ↔
      tableau.entering tolerance rule = some column ∧
        tableau.leaving column.castSucc tolerance = none := by
  cases entered : tableau.entering tolerance rule with
  | none => simp [choice, entered]
  | some other =>
      cases leaves : tableau.leaving other.castSucc tolerance with
      | none =>
          simp only [choice, entered, leavingRow, leaves, someRow, if_false, Except.ok.injEq,
            Choice.unlimited.injEq, Option.some.injEq]
          exact ⟨fun same => ⟨same, same ▸ leaves⟩, fun both => both.1⟩
      | some row =>
          simp only [choice, entered, leavingRow, leaves, someRow, if_false, Except.ok.injEq,
            reduceCtorEq, Option.some.injEq, false_iff, not_and]
          rintro rfl
          simp [leaves]

theorem Tableau.choice_eq_pivot_iff {tableau : Tableau α m n} {tolerance : α}
    {rule : PivotRule} {row : Fin m} {column : Fin n} :
    tableau.choice tolerance rule = .ok (.pivot row column) ↔
      tableau.entering tolerance rule = some column ∧
        tableau.leaving column.castSucc tolerance = some row := by
  have someRow : m ≠ 0 := Nat.ne_of_gt row.pos
  cases entered : tableau.entering tolerance rule with
  | none => simp [choice, entered]
  | some other =>
      cases leaves : tableau.leaving other.castSucc tolerance with
      | none =>
          simp only [choice, entered, leavingRow, leaves, someRow, if_false, Except.ok.injEq,
            reduceCtorEq, Option.some.injEq, false_iff, not_and]
          rintro rfl
          simp [leaves]
      | some first =>
          simp only [choice, entered, leavingRow, leaves, someRow, if_false, Except.ok.injEq,
            Choice.pivot.injEq, Option.some.injEq]
          constructor
          · rintro ⟨rfl, rfl⟩
            exact ⟨rfl, leaves⟩
          · rintro ⟨rfl, second⟩
            exact ⟨Option.some.inj (leaves.symm.trans second), rfl⟩

theorem Tableau.choice_ok (someRow : m ≠ 0) (tableau : Tableau α m n) (tolerance : α)
    (rule : PivotRule) : ∃ choice, tableau.choice tolerance rule = .ok choice := by
  cases entered : tableau.entering tolerance rule with
  | none => exact ⟨.finish, choice_eq_finish_iff.mpr entered⟩
  | some column =>
      cases leaves : tableau.leaving column.castSucc tolerance with
      | none => exact ⟨.unlimited column, (choice_eq_unlimited_iff someRow).mpr ⟨entered, leaves⟩⟩
      | some row => exact ⟨.pivot row column, choice_eq_pivot_iff.mpr ⟨entered, leaves⟩⟩

end SimplexReplay
