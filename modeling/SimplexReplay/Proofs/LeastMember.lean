import SimplexReplay.Proofs.Run.Choice

/-!
# The first least member

A search for the least member of a list keeps the first of several equal ones.  Where no key is
undefined, the keys before the member that is found are greater than its own key, and those after
it are not less.  This needs of the order only that a comparison which fails twice in a row fails
across a value that is not undefined, so it holds for doubles as well as for rational numbers.
-/

namespace SimplexReplay

/-- Scalars that are ordered as far as they are not undefined. -/
class Scalar.Ordered (α : Type) [Scalar α] : Prop where
  lt_asymm : ∀ {first second : α}, first < second → ¬second < first
  not_lt_trans : ∀ {first second third : α}, Scalar.isNaN second = false →
    ¬first < second → ¬second < third → ¬first < third
  beq_of_lt : ∀ {first second : α}, first < second → (second == first) = false

section FirstLeast

variable {α ι : Type} [Scalar α]

/-- A member of a list whose key is less than every key before it, and such that no key after it
is less. -/
def FirstLeast (key : ι → α) (members : List ι) (least : ι) : Prop :=
  ∃ before after, members = before ++ least :: after ∧
    (∀ other ∈ before, key least < key other) ∧ ∀ other ∈ after, ¬key other < key least

variable {key : ι → α} {members : List ι} {least : ι}

theorem firstLeast_eq_none_iff : firstLeast key members = none ↔ members = [] := by
  cases members with
  | nil => simp [firstLeast]
  | cons member rest =>
      cases searched : firstLeast key rest with
      | none => simp [firstLeast, searched]
      | some other =>
          by_cases less : key other < key member <;> simp [firstLeast, searched, less]

variable [Scalar.Ordered α]

namespace FirstLeast

theorem not_lt (first : FirstLeast key members least) {other : ι} (otherMem : other ∈ members) :
    ¬key other < key least := by
  obtain ⟨before, after, rfl, greater, notLess⟩ := first
  rcases List.mem_append.mp otherMem with inBefore | inRest
  · exact Scalar.Ordered.lt_asymm (greater other inBefore)
  · rcases List.mem_cons.mp inRest with rfl | inAfter
    · exact fun less => Scalar.Ordered.lt_asymm less less
    · exact notLess other inAfter

omit [Scalar.Ordered α] in
/-- In a list that is sorted by an asymmetric relation, what is related to the first least member
stands before it. -/
theorem lt_of_sorted {relation : ι → ι → Prop} (asymm : ∀ {first second}, relation first second →
      ¬relation second first) (sorted : members.Pairwise relation)
    (first : FirstLeast key members least) {other : ι} (otherMem : other ∈ members)
    (related : relation other least) : key least < key other := by
  obtain ⟨before, after, rfl, greater, -⟩ := first
  rcases List.mem_append.mp otherMem with inBefore | inRest
  · exact greater other inBefore
  · rcases List.mem_cons.mp inRest with rfl | inAfter
    · exact absurd related (asymm related)
    · have behind := (List.pairwise_cons.mp (List.pairwise_append.mp sorted).2.1).1 other inAfter
      exact absurd behind (asymm related)

omit [Scalar.Ordered α] in
theorem cons_of_lt {member : ι} (first : FirstLeast key members least)
    (less : key least < key member) : FirstLeast key (member :: members) least := by
  obtain ⟨before, after, rfl, greater, notLess⟩ := first
  refine ⟨member :: before, after, rfl, ?_, notLess⟩
  intro other otherMem
  rcases List.mem_cons.mp otherMem with rfl | inBefore
  · exact less
  · exact greater other inBefore

theorem cons_self {member : ι} (ordinary : Scalar.isNaN (key least) = false)
    (first : FirstLeast key members least) (notLess : ¬key least < key member) :
    FirstLeast key (member :: members) member := by
  refine ⟨[], members, rfl, by simp, ?_⟩
  intro other otherMem
  exact Scalar.Ordered.not_lt_trans ordinary (first.not_lt otherMem) notLess

end FirstLeast

theorem firstLeast_of_eq_some (ordinary : ∀ member ∈ members, Scalar.isNaN (key member) = false)
    (found : firstLeast key members = some least) : FirstLeast key members least := by
  induction members generalizing least with
  | nil => simp [firstLeast] at found
  | cons member rest ih =>
      have restOrdinary : ∀ other ∈ rest, Scalar.isNaN (key other) = false :=
        fun other otherMem => ordinary other (List.mem_cons_of_mem member otherMem)
      cases searched : firstLeast key rest with
      | none =>
          obtain rfl : rest = [] := firstLeast_eq_none_iff.mp searched
          obtain rfl : member = least := by simpa [firstLeast] using found
          exact ⟨[], [], rfl, by simp, by simp⟩
      | some other =>
          have first := ih restOrdinary searched
          by_cases less : key other < key member
          · obtain rfl : other = least := by simpa [firstLeast, searched, less] using found
            exact first.cons_of_lt less
          · obtain rfl : member = least := by simpa [firstLeast, searched, less] using found
            exact first.cons_self
              (restOrdinary other (mem_of_firstLeast_eq_some searched)) less

end FirstLeast

/-- A search through all positions passes over those before the one that it finds. -/
theorem eq_false_of_find?_finRange {size : Nat} {test : Fin size → Bool} {found earlier : Fin size}
    (searched : (List.finRange size).find? test = some found) (before : earlier < found) :
    test earlier = false := by
  obtain ⟨-, position, inside, positionEq, passed⟩ := List.find?_eq_some_iff_getElem.mp searched
  have sameValue : position = found.val := by simpa using congrArg Fin.val positionEq
  have failed := passed earlier.val (sameValue ▸ before)
  simpa using failed

section LeastPosition

variable {α : Type} [Scalar α] {size : Nat} {value : Fin size → α}

theorem leastPosition_eq_firstLeast (ordinary : ∀ position, Scalar.isNaN (value position) = false) :
    leastPosition value = firstLeast value (List.finRange size) := by
  have noneUndefined :
      (List.finRange size).find? (fun position => Scalar.isNaN (value position)) = none := by
    apply List.find?_eq_none.mpr
    intro position _
    simp [ordinary position]
  rw [leastPosition, noneUndefined]

theorem isSome_leastPosition (value : Fin size → α) (position : Fin size) :
    (leastPosition value).isSome := by
  rw [leastPosition]
  split
  · rfl
  · rw [Option.isSome_iff_ne_none, ne_eq, firstLeast_eq_none_iff]
    exact List.ne_nil_of_mem (List.mem_finRange position)

/-- An undefined value comes before all others. -/
theorem isNaN_of_leastPosition {least other : Fin size} (found : leastPosition value = some least)
    (undefined : Scalar.isNaN (value other) = true) :
    Scalar.isNaN (value least) = true ∧
      ∀ earlier < least, Scalar.isNaN (value earlier) = false := by
  cases searched : (List.finRange size).find? fun position => Scalar.isNaN (value position) with
  | none =>
      have missed := List.find?_eq_none.mp searched other (List.mem_finRange other)
      exact absurd undefined missed
  | some first =>
      obtain rfl : first = least := by simpa [leastPosition, searched] using found
      have isUndefined : Scalar.isNaN (value first) = true := by
        simpa using List.find?_some searched
      refine ⟨isUndefined, ?_⟩
      intro earlier before
      exact eq_false_of_find?_finRange searched before

end LeastPosition

end SimplexReplay
