import Mathlib.Data.List.Forall2

/-!
# Texts joined by a separator

What is joined by a separator can be taken apart again as long as some mark of the separator stands
in none of the parts.  Then no separator is met before the end of a part, neither within it nor
across its end, so a search for the separator cuts the text exactly where it was joined.
-/

namespace SimplexReplay

/-- Two texts that run up to a delimiter are told apart from what follows them. -/
theorem append_inj_of_stops {α : Type} (stops : α → Bool)
    {first second firstRest secondRest : List α}
    (firstClear : ∀ mark ∈ first, stops mark = false)
    (secondClear : ∀ mark ∈ second, stops mark = false)
    (firstStop : ∀ mark ∈ firstRest.head?, stops mark = true)
    (secondStop : ∀ mark ∈ secondRest.head?, stops mark = true)
    (same : first ++ firstRest = second ++ secondRest) :
    first = second ∧ firstRest = secondRest := by
  have readOff (marks rest : List α) (clear : ∀ mark ∈ marks, stops mark = false)
      (stop : ∀ mark ∈ rest.head?, stops mark = true) :
      (marks ++ rest).takeWhile (fun mark => !stops mark) = marks := by
    rw [List.takeWhile_append_of_pos (by simpa using clear)]
    cases rest with
    | nil => exact List.append_nil marks
    | cons mark rest => simp [stop mark rfl]
  have marksEq : first = second := by
    rw [← readOff first firstRest firstClear firstStop, same,
      readOff second secondRest secondClear secondStop]
  rw [marksEq] at same
  exact ⟨marksEq, List.append_cancel_left same⟩

section Intercalated

variable {α : Type}

theorem mem_intercalate {separator : List α} {parts : List (List α)} {mark : α}
    (markMem : mark ∈ separator.intercalate parts) :
    mark ∈ separator ∨ ∃ part ∈ parts, mark ∈ part := by
  induction parts with
  | nil => simp at markMem
  | cons part parts ih =>
      cases parts with
      | nil =>
          rw [List.intercalate_singleton] at markMem
          exact Or.inr ⟨part, by simp, markMem⟩
      | cons next parts =>
          rw [List.intercalate_cons_cons, List.mem_append, List.mem_append] at markMem
          rcases markMem with (inPart | inSeparator) | inRest
          · exact Or.inr ⟨part, by simp, inPart⟩
          · exact Or.inl inSeparator
          · exact (ih inRest).imp_right fun ⟨other, otherMem, inOther⟩ =>
              ⟨other, List.mem_cons_of_mem part otherMem, inOther⟩

theorem count_intercalate [DecidableEq α] {separator : List α} {parts : List (List α)} {mark : α}
    (notBetween : mark ∉ separator) (once : ∀ part ∈ parts, part.count mark = 1) :
    (separator.intercalate parts).count mark = parts.length := by
  induction parts with
  | nil => simp
  | cons part parts ih =>
      have inFirst := once part (by simp)
      have inRest := ih fun other otherMem => once other (List.mem_cons_of_mem part otherMem)
      cases parts with
      | nil => rw [List.intercalate_singleton, inFirst, List.length_singleton]
      | cons next parts =>
          rw [List.intercalate_cons_cons, List.count_append, List.count_append, inFirst,
            List.count_eq_zero.mpr notBetween, inRest]
          simp only [List.length_cons]
          omega

/-- Parts that are related member by member are so when they are joined by related separators. -/
theorem forall₂_intercalate {β : Type} {relation : α → β → Prop} {first : List α} {second : List β}
    (separators : List.Forall₂ relation first second) {parts : List (List α)}
    {others : List (List β)} (related : List.Forall₂ (List.Forall₂ relation) parts others) :
    List.Forall₂ relation (first.intercalate parts) (second.intercalate others) := by
  induction related with
  | nil => simp
  | cons head tail ih =>
      cases tail with
      | nil => simpa using head
      | cons next rest =>
          rw [List.intercalate_cons_cons, List.intercalate_cons_cons]
          exact List.rel_append (List.rel_append head separators) ih

end Intercalated

namespace Joined

variable {separator : String} {mark : Char} (markMem : mark ∈ separator.toList)

include markMem

/-- No separator is met before the end of a part without its mark. -/
theorem eq_empty_of_append_eq {part rest after : String} (clear : mark ∉ part.toList)
    (same : part ++ (separator ++ rest) = separator ++ after) : part = "" := by
  obtain ⟨left, right, shown, leftClear⟩ := List.eq_append_cons_of_mem markMem
  have stops {chars : List Char} (charsClear : mark ∉ chars) :
      ∀ char ∈ chars, (char == mark) = false := by
    intro char charMem
    exact beq_eq_false_iff_ne.mpr fun equal => charsClear (equal ▸ charMem)
  have cut : (part.toList ++ left) ++ mark :: (right ++ rest.toList) =
      left ++ mark :: (right ++ after.toList) := by
    simpa [shown] using congrArg String.toList same
  obtain ⟨partEq, -⟩ := append_inj_of_stops (· == mark)
    (stops (by simp [leftClear, clear])) (stops leftClear) (by simp) (by simp) cut
  exact String.toList_inj.mp (by simpa using partEq)

open String.Slice String.Slice.Pattern String.Slice.Pattern.Model

variable {slice : String.Slice} {position : slice.Pos} {before part rest : String}

theorem not_matchesAt (splits : position.Splits before part) (clear : mark ∉ part.toList) :
    ¬MatchesAt separator position := by
  intro matchesAt
  obtain ⟨first, behind, found⟩ := ForwardStringSearcher.matchesAt_iff_splits.mp matchesAt
  rw [splits.eq_right found, String.toList_append, List.mem_append] at clear
  exact clear (Or.inl markMem)

theorem not_matchesAt_of_nonempty (splits : position.Splits before (part ++ (separator ++ rest)))
    (nonempty : part ≠ "") (clear : mark ∉ part.toList) : ¬MatchesAt separator position := by
  intro matchesAt
  obtain ⟨first, behind, found⟩ := ForwardStringSearcher.matchesAt_iff_splits.mp matchesAt
  exact nonempty (eq_empty_of_append_eq markMem clear (splits.eq_right found))

theorem split_eq_singleton [StrictPatternModel separator] (splits : position.Splits before part)
    (clear : mark ∉ part.toList) :
    ∃ cut : slice.Subslice, cut.toSlice.copy = part ∧
      Model.split separator position position (Std.le_refl _) = [cut] := by
  obtain ⟨reaches, copied⟩ := String.Slice.copy_slice_eq_iff_splits.mpr
    ⟨before, "", by rwa [String.append_empty], splits.eq_append ▸ slice.splits_endPos⟩
  refine ⟨slice.subslice position slice.endPos reaches, ?_, ?_⟩
  · rw [String.Slice.toSlice_subslice, copied]
  · rw [split_eq_of_not_matchesAt slice.endPos reaches, split_endPos]
    intro other passed _
    obtain ⟨between, -, partEq⟩ := (splits.le_iff_exists_eq_append other.splits).mp passed
    refine not_matchesAt markMem other.splits fun inRest => clear ?_
    rw [partEq, String.toList_append]
    exact List.mem_append_right _ inRest

/-- The first separator cuts off the part before it. -/
theorem split_eq_cons [StrictPatternModel separator]
    (splits : position.Splits before (part ++ (separator ++ rest))) (clear : mark ∉ part.toList) :
    ∃ (cut : slice.Subslice) (next : slice.Pos), cut.toSlice.copy = part ∧
      next.Splits (before ++ part ++ separator) rest ∧
      Model.split separator position position (Std.le_refl _) =
        cut :: Model.split separator next next (Std.le_refl _) := by
  have ends := splits.splits_rotateRight
  have starts := ends.splits_rotateRight
  have matched : IsLongestMatchAt separator splits.rotateRight ends.rotateRight :=
    ForwardStringSearcher.isLongestMatchAt_iff_splits.mpr ⟨_, _, ends, starts⟩
  obtain ⟨reaches, copied⟩ := String.Slice.copy_slice_eq_iff_splits.mpr ⟨_, _, splits, ends⟩
  refine ⟨slice.subslice position splits.rotateRight reaches, ends.rotateRight, ?_, starts, ?_⟩
  · rw [String.Slice.toSlice_subslice, copied]
  · rw [split_eq_of_not_matchesAt splits.rotateRight reaches,
      split_eq_of_isLongestMatchAt matched]
    intro other passed short
    -- At a position before the end of the part something is left of it.
    obtain ⟨between, -, partEq⟩ := (splits.le_iff_exists_eq_append other.splits).mp passed
    obtain ⟨left, leftNonempty, -, behind⟩ :=
      (other.splits.lt_iff_exists_eq_append ends).mp short
    have otherSplits := other.splits
    rw [behind] at otherSplits partEq
    have partIs : part = between ++ left := by
      apply (String.append_left_inj (separator ++ rest)).mp
      rw [partEq, String.append_assoc]
    refine not_matchesAt_of_nonempty markMem otherSplits leftNonempty fun inLeft => clear ?_
    rw [partIs, String.toList_append]
    exact List.mem_append_right _ inLeft

theorem map_copy_split [StrictPatternModel separator] {parts : List String} (nonempty : parts ≠ [])
    (clear : ∀ part ∈ parts, mark ∉ part.toList)
    (splits : position.Splits before (separator.intercalate parts)) :
    (Model.split separator position position (Std.le_refl _)).map
      (String.Slice.copy ∘ Subslice.toSlice) = parts := by
  induction parts generalizing position before with
  | nil => contradiction
  | cons part parts ih =>
      have partClear := clear part List.mem_cons_self
      cases parts with
      | nil =>
          rw [String.intercalate_singleton] at splits
          obtain ⟨cut, copied, splitEq⟩ := split_eq_singleton markMem splits partClear
          rw [splitEq, List.map_singleton, Function.comp_apply, copied]
      | cons next parts =>
          rw [String.intercalate_cons_cons, String.append_assoc] at splits
          obtain ⟨cut, start, copied, startSplits, splitEq⟩ :=
            split_eq_cons markMem splits partClear
          rw [splitEq, List.map_cons, Function.comp_apply, copied,
            ih (List.cons_ne_nil next parts)
              (fun other otherMem => clear other (List.mem_cons_of_mem part otherMem)) startSplits]

/-- Texts that are joined by a separator come back when the whole is split at it. -/
theorem toList_split_intercalate {parts : List String} (nonempty : parts ≠ [])
    (clear : ∀ part ∈ parts, mark ∉ part.toList) :
    ((separator.intercalate parts).split separator).toList.map String.Slice.copy = parts := by
  have written : separator ≠ "" := by
    rintro rfl
    exact nomatch markMem
  have strict := ForwardStringSearcher.strictPatternModel written
  have lawful := ForwardStringSearcher.lawfulToForwardSearcherModel written
  have splits := (separator.intercalate parts).toSlice.splits_startPos
  rw [String.copy_toSlice] at splits
  rw [String.split_eq_split_toSlice, toList_split_eq_splitToSubslice, List.map_map,
    toList_splitToSubslice_eq_modelSplit, map_copy_split markMem nonempty clear splits]

end Joined

end SimplexReplay
