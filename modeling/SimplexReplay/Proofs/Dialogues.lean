import SimplexReplay.Proofs.Numerals
import SimplexReplay.Session.Showcase

/-!
# Dialogues read up to the first answer

A dialogue reads its lines up to the first one that says something and asks again after every line
before it; when no line says anything, the input ends.  What a line says is told without a look at
the dialogue: in a menu it may be a word to leave, empty, the number of an option or one of its
aliases, in this order.  Only a numeral that is no readable number stops a menu in another way.
-/

namespace SimplexReplay

/-- The text that is printed until a question has been asked again a number of times. -/
def askedAgain (question again : String) : Nat → String
  | 0 => question
  | count + 1 => question ++ again ++ askedAgain question again count

/-- A reply comes from the first line that says something, and what is behind this line is not
read.  Where no line says anything, all lines are read and the input ends. -/
inductive Reply.Settled {α : Type} (question again : String)
    (tells : String → Except Fault α → Prop) : List String → Reply α → Prop
  | answered (before : List String) {line : String} {rest : List String} {answer : Except Fault α}
      (unclear : ∀ earlier ∈ before, ∀ other, ¬tells (normalizedLine earlier) other)
      (said : tells (normalizedLine line) answer) :
      Settled question again tells (before ++ line :: rest)
        ⟨askedAgain question again before.length, rest, answer⟩
  | ended {lines : List String}
      (unclear : ∀ line ∈ lines, ∀ other, ¬tells (normalizedLine line) other) :
      Settled question again tells lines
        ⟨askedAgain question again lines.length, [], .error .inputEnded⟩

def verdict {α : Type} : Except Fault (Option α) → Option (Except Fault α)
  | .error fault => some (.error fault)
  | .ok (some answer) => some (.ok answer)
  | .ok none => none

theorem Reply.Settled.cons {α : Type} {question again : String}
    {tells : String → Except Fault α → Prop} {line : String} {rest : List String}
    {reply : Reply α} (unclear : ∀ other, ¬tells (normalizedLine line) other)
    (settled : Settled question again tells rest reply) :
    Settled question again tells (line :: rest)
      { reply with printed := question ++ again ++ reply.printed } := by
  cases settled with
  | answered before others said =>
      exact .answered (line :: before) (List.forall_mem_cons.mpr ⟨unclear, others⟩) said
  | ended others => exact .ended (List.forall_mem_cons.mpr ⟨unclear, others⟩)

theorem Reply.Settled.answer_cases {α : Type} {question again : String}
    {tells : String → Except Fault α → Prop} {lines : List String} {reply : Reply α}
    (settled : Settled question again tells lines reply) :
    reply.answer = .error .inputEnded ∨
      ∃ line ∈ lines, tells (normalizedLine line) reply.answer := by
  cases settled with
  | answered before unclear said => exact .inr ⟨_, by simp, said⟩
  | ended unclear => exact .inl rfl

/-- A dialogue whose judgements are what its lines say is settled by its lines. -/
theorem settled_ask {α : Type} (question again : String)
    {judge : String → Except Fault (Option α)} {tells : String → Except Fault α → Prop}
    (judges : ∀ line answer, tells line answer ↔ verdict (judge line) = some answer)
    (lines : List String) :
    Reply.Settled question again tells lines (ask question again judge lines) := by
  induction lines with
  | nil => exact .ended nofun
  | cons line rest ih =>
      have said := judges (normalizedLine line)
      rw [ask]
      cases judged : judge (normalizedLine line) with
      | error fault =>
          rw [judged] at said
          exact .answered [] nofun ((said _).mpr rfl)
      | ok choice =>
          rw [judged] at said
          cases choice with
          | some answer => exact .answered [] nofun ((said _).mpr rfl)
          | none => exact ih.cons fun other saysOther => nomatch (said other).mp saysOther

def IsQuitWord (line : String) : Prop :=
  line = "q" ∨ line = "quit" ∨ line = "exit"

theorem isQuitWord_iff {line : String} : isQuitWord line = true ↔ IsQuitWord line := by
  simp [isQuitWord, IsQuitWord, or_assoc]

/-- A line of digits that is not read as a number, since one of its digits belongs to no decimal
system or since there are too many of them. -/
structure Unreadable (line : String) : Prop where
  nonempty : line ≠ ""
  digits : ∀ char ∈ line.toList, Text.isDigit char = true
  unread : (¬∃ values, Decimal.Spells line values) ∨ Decimal.digitLimit < line.length

namespace Menu

/-- A line is the number of an option. -/
def Numbers (menu : Menu) (line : String) (entry : MenuOption) : Prop :=
  ∃ values, Decimal.Spells line values ∧ 1 ≤ Decimal.ofDigits values ∧
    menu.options[Decimal.ofDigits values - 1]? = some entry

/-- A line is an alias of an option, and of none before it. -/
def Names (menu : Menu) (line : String) (entry : MenuOption) : Prop :=
  line ∈ entry.aliases ∧ ∃ before, (∃ after, menu.options = before ++ entry :: after) ∧
    ∀ other ∈ before, line ∉ other.aliases

/-- What a normalized line says to a menu. -/
inductive Says (menu : Menu) (line : String) : Except Fault String → Prop
  | quit (isQuit : IsQuitWord line) : Says menu line (.error .cancelled)
  | default (empty : line = "") : Says menu line (.ok menu.defaultKey)
  | number {entry : MenuOption} (numbers : menu.Numbers line entry) : Says menu line (.ok entry.key)
  | name {entry : MenuOption} (noQuit : ¬IsQuitWord line) (nonempty : line ≠ "")
      (unnumbered : ∀ other, ¬menu.Numbers line other) (names : menu.Names line entry) :
      Says menu line (.ok entry.key)

/-- What a normalized line comes to in a menu: a fault if it is an unreadable numeral, and else
what it says. -/
inductive Meets (menu : Menu) (line : String) : Except Fault String → Prop
  | unread (unreadable : Unreadable line) : Meets menu line (.error .unreadableNumber)
  | said {answer : Except Fault String} (readable : ¬Unreadable line)
      (tells : menu.Says line answer) : Meets menu line answer

variable {menu : Menu} {line : String} {entry : MenuOption}

theorem named?_eq_some_iff : menu.named? line = some entry ↔ menu.Names line entry := by
  simp [named?, Names, List.find?_eq_some_iff_append]

theorem numbered?_eq_some_iff {values : List Nat} (spells : Decimal.Spells line values) :
    menu.numbered? (Decimal.ofDigits values) = some entry ↔ menu.Numbers line entry := by
  constructor
  · intro found
    rw [numbered?] at found
    split at found
    · rename_i positive
      exact ⟨values, spells, by omega, found⟩
    · contradiction
  · rintro ⟨others, othersSpell, positive, found⟩
    rw [othersSpell.unique spells] at positive found
    rw [numbered?, if_pos (by omega)]
    exact found

theorem isNumeral_iff :
    isNumeral line = true ↔ line ≠ "" ∧ ∀ char ∈ line.toList, Text.isDigit char = true := by
  simp [isNumeral]

theorem Numbers.isNumeral (numbers : menu.Numbers line entry) : isNumeral line = true := by
  obtain ⟨values, spells, positive, -⟩ := numbers
  refine isNumeral_iff.mpr ⟨?_, spells.isDigit⟩
  rintro rfl
  obtain rfl : [] = values := by simpa [Decimal.Spells] using spells
  contradiction

theorem not_isQuitWord_of_isNumeral (numeral : isNumeral line = true) : ¬IsQuitWord line := by
  rintro (rfl | rfl | rfl) <;> revert numeral <;> decide

theorem readInt_of_unreadable (unreadable : Unreadable line) : Decimal.readInt line = none := by
  by_cases spelled : ∃ values, Decimal.Spells line values
  · obtain ⟨values, spells⟩ := spelled
    have long : Decimal.digitLimit < values.length := by
      rcases unreadable.unread with foreign | long
      · exact absurd ⟨values, spells⟩ foreign
      · rwa [spells.length_eq] at long
    rw [spells.readInt_eq, if_pos (Or.inr long)]
  · exact Decimal.readInt_eq_none_of_not_spells unreadable.digits spelled

theorem exists_spells_of_readable (numeral : isNumeral line = true)
    (readable : ¬Unreadable line) :
    ∃ values, Decimal.Spells line values ∧
      Decimal.readInt line = some (Decimal.ofDigits values : Int) := by
  obtain ⟨nonempty, digits⟩ := isNumeral_iff.mp numeral
  by_cases spelled : ∃ values, Decimal.Spells line values
  · obtain ⟨values, spells⟩ := spelled
    refine ⟨values, spells, ?_⟩
    have short : ¬Decimal.digitLimit < line.length := fun long =>
      readable ⟨nonempty, digits, .inr long⟩
    have someDigit : values ≠ [] := by
      rintro rfl
      exact nonempty (by simpa [Decimal.Spells] using spells)
    rw [spells.readInt_eq, ← spells.length_eq, if_neg (by simp [someDigit, short])]
  · exact absurd ⟨nonempty, digits, .inl spelled⟩ readable

theorem judge_of_isQuitWord (isQuit : IsQuitWord line) : menu.judge line = .error .cancelled := by
  rw [judge, if_pos (isQuitWord_iff.mpr isQuit)]

theorem judge_empty : menu.judge "" = .ok (some menu.defaultKey) := rfl

theorem judge_of_numeral (numeral : isNumeral line = true) :
    menu.judge line =
      match Decimal.readInt line with
      | none => .error .unreadableNumber
      | some number =>
          match menu.numbered? number with
          | some entry => .ok (some entry.key)
          | none => .ok ((menu.named? line).map (·.key)) := by
  have nonempty := (isNumeral_iff.mp numeral).1
  rw [judge, if_neg (mt isQuitWord_iff.mp (not_isQuitWord_of_isNumeral numeral)),
    if_neg (by simpa using nonempty)]
  exact if_pos numeral

theorem judge_of_not_numeral (noQuit : ¬IsQuitWord line) (nonempty : line ≠ "")
    (noNumeral : isNumeral line = false) :
    menu.judge line = .ok ((menu.named? line).map (·.key)) := by
  rw [judge, if_neg (mt isQuitWord_iff.mp noQuit), if_neg (by simpa using nonempty), noNumeral,
    if_neg Bool.false_ne_true]

/-- The judgement of a readable line is what the line says. -/
theorem verdict_judge_of_says (readable : ¬Unreadable line) {answer : Except Fault String}
    (tells : menu.Says line answer) : verdict (menu.judge line) = some answer := by
  cases tells with
  | quit isQuit => rw [judge_of_isQuitWord isQuit, verdict]
  | default empty => rw [empty, judge_empty, verdict]
  | number numbers =>
      have numeral := numbers.isNumeral
      obtain ⟨values, spells, read⟩ := exists_spells_of_readable numeral readable
      have found := (numbered?_eq_some_iff spells).mpr numbers
      rw [judge_of_numeral numeral, read]
      simp only [found, verdict]
  | name noQuit nonempty unnumbered names =>
      have named := named?_eq_some_iff.mpr names
      cases numeral : isNumeral line with
      | false => rw [judge_of_not_numeral noQuit nonempty numeral, named, Option.map_some, verdict]
      | true =>
          obtain ⟨values, spells, read⟩ := exists_spells_of_readable numeral readable
          have none : menu.numbered? (Decimal.ofDigits values) = none :=
            Option.eq_none_iff_forall_ne_some.mpr fun other found =>
              unnumbered other ((numbered?_eq_some_iff spells).mp found)
          rw [judge_of_numeral numeral, read]
          simp only [none, named, Option.map_some, verdict]

theorem says_of_named? (noQuit : ¬IsQuitWord line) (nonempty : line ≠ "")
    (unnumbered : ∀ other, ¬menu.Numbers line other) {answer : Except Fault String}
    (judged : verdict (.ok ((menu.named? line).map (·.key))) = some answer) :
    menu.Says line answer := by
  cases named : menu.named? line with
  | none => simp [named, verdict] at judged
  | some entry =>
      obtain rfl : .ok entry.key = answer := by simpa [named, verdict] using judged
      exact .name noQuit nonempty unnumbered (named?_eq_some_iff.mp named)

theorem says_of_verdict_judge (readable : ¬Unreadable line) {answer : Except Fault String}
    (judged : verdict (menu.judge line) = some answer) : menu.Says line answer := by
  by_cases isQuit : IsQuitWord line
  · rw [judge_of_isQuitWord isQuit] at judged
    exact Option.some.inj judged ▸ .quit isQuit
  by_cases empty : line = ""
  · rw [empty, judge_empty] at judged
    exact Option.some.inj judged ▸ .default empty
  cases numeral : isNumeral line with
  | false =>
      rw [judge_of_not_numeral isQuit empty numeral] at judged
      apply says_of_named? isQuit empty _ judged
      intro other numbers
      simp [numbers.isNumeral] at numeral
  | true =>
      obtain ⟨values, spells, read⟩ := exists_spells_of_readable numeral readable
      rw [judge_of_numeral numeral, read] at judged
      cases found : menu.numbered? (Decimal.ofDigits values) with
      | some entry =>
          simp only [found] at judged
          exact Option.some.inj judged ▸ .number ((numbered?_eq_some_iff spells).mp found)
      | none =>
          simp only [found] at judged
          apply says_of_named? isQuit empty _ judged
          intro other numbers
          simp [(numbered?_eq_some_iff spells).mpr numbers] at found

theorem meets_iff {answer : Except Fault String} :
    menu.Meets line answer ↔ verdict (menu.judge line) = some answer := by
  by_cases unreadable : Unreadable line
  · rw [judge_of_numeral (isNumeral_iff.mpr ⟨unreadable.nonempty, unreadable.digits⟩),
      readInt_of_unreadable unreadable]
    constructor
    · rintro (_ | ⟨readable, -⟩)
      · rfl
      · exact absurd unreadable readable
    · intro judged
      exact Option.some.inj judged ▸ .unread unreadable
  · constructor
    · rintro (unread | ⟨-, tells⟩)
      · exact absurd unread unreadable
      · exact verdict_judge_of_says unreadable tells
    · exact fun judged => .said unreadable (says_of_verdict_judge unreadable judged)

end Menu

namespace Confirmation

/-- What a normalized line says to a question that is answered by yes or no. -/
inductive Says (line : String) : Except Fault Bool → Prop
  | yes (isYes : line = "" ∨ line = "y" ∨ line = "yes") : Says line (.ok true)
  | no (isNo : line = "n" ∨ line = "no") : Says line (.ok false)
  | quit (isQuit : IsQuitWord line) : Says line (.error .cancelled)

theorem says_iff {line : String} {answer : Except Fault Bool} :
    Says line answer ↔ verdict (judge line) = some answer := by
  constructor
  · rintro (isYes | isNo | isQuit)
    · rcases isYes with rfl | rfl | rfl <;> rfl
    · rcases isNo with rfl | rfl <;> rfl
    · rcases isQuit with rfl | rfl | rfl <;> rfl
  · intro judged
    rw [judge] at judged
    split at judged
    · rename_i isYes
      exact Option.some.inj judged ▸ .yes (by simpa [or_assoc] using isYes)
    split at judged
    · rename_i isNo
      exact Option.some.inj judged ▸ .no (by simpa using isNo)
    split at judged
    · rename_i isQuit
      exact Option.some.inj judged ▸ .quit (isQuitWord_iff.mp isQuit)
    · contradiction

end Confirmation

/-- Menus and questions are settled by their lines, whatever text these hold. -/
theorem settled_pick_and_confirm (menu : Menu) (question : String) (lines : List String) :
    Reply.Settled menu.question menu.again menu.Meets lines (menu.pick lines) ∧
      Reply.Settled (question ++ " [Y/n]: ") Confirmation.again Confirmation.Says lines
        (Confirmation.confirm question lines) := by
  constructor
  · have judges : ∀ line answer,
        menu.Meets line answer ↔ verdict (menu.judge line) = some answer :=
      fun line answer => Menu.meets_iff
    exact settled_ask menu.question menu.again judges lines
  · have judges : ∀ line answer,
        Confirmation.Says line answer ↔ verdict (Confirmation.judge line) = some answer :=
      fun line answer => Confirmation.says_iff
    exact settled_ask (question ++ " [Y/n]: ") Confirmation.again judges lines

/-- A superscript two says nothing to the menu of the pivot rules, so that the line behind it would
choose the second rule; but the menu is stopped at the superscript. -/
theorem not_settled_by_superscript :
    (∃ reply, Reply.Settled Showcase.ruleMenu.question Showcase.ruleMenu.again
        Showcase.ruleMenu.Says ["²", "2"] reply ∧ reply.answer = .ok "dantzig") ∧
      (Showcase.ruleMenu.pick ["²", "2"]).answer = .error .unreadableNumber ∧
      ¬Reply.Settled Showcase.ruleMenu.question Showcase.ruleMenu.again Showcase.ruleMenu.Says
        ["²", "2"] (Showcase.ruleMenu.pick ["²", "2"]) := by
  have superscript : normalizedLine "²" = "²" := by decide +kernel
  have two : normalizedLine "2" = "2" := by decide +kernel
  have stopped : (Showcase.ruleMenu.pick ["²", "2"]).answer = .error .unreadableNumber := rfl
  have saysNothing : ∀ earlier ∈ ["²"], ∀ other,
      ¬Showcase.ruleMenu.Says (normalizedLine earlier) other := by
    intro earlier earlierMem other tells
    rw [List.mem_singleton.mp earlierMem, superscript] at tells
    cases tells with
    | quit isQuit => simp [IsQuitWord] at isQuit
    | default empty => simp at empty
    | number numbers =>
        obtain ⟨values, spells, -⟩ := numbers
        have foreign : Text.decimalValue? '²' = none := by decide
        cases values <;> simp [Decimal.Spells, foreign] at spells
    | name noQuit nonempty unnumbered names =>
        obtain ⟨aliased, before, ⟨after, split⟩, -⟩ := names
        have listed : ∀ option ∈ Showcase.ruleMenu.options, "²" ∉ option.aliases := by decide
        exact listed _ (by simp [split]) aliased
  have saysSecond : Showcase.ruleMenu.Says (normalizedLine "2") (.ok "dantzig") := by
    have spells : Decimal.Spells "2" [2] := rfl
    have numbers : Showcase.ruleMenu.Numbers "2"
        ⟨"dantzig", "Dantzig (most negative)", "", ["dantzig", "d"]⟩ :=
      ⟨[2], spells, by decide, rfl⟩
    rw [two]
    exact .number numbers
  refine ⟨⟨_, .answered ["²"] saysNothing saysSecond, rfl⟩, stopped, ?_⟩
  intro settled
  rcases settled.answer_cases with ended | ⟨line, -, said⟩
  · rw [stopped] at ended
    cases ended
  · rw [stopped] at said
    cases said

end SimplexReplay
