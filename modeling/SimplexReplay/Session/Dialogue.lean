import SimplexReplay.Decimal.Reading
import SimplexReplay.Fault
import SimplexReplay.Text.Characters
import SimplexReplay.Text.LowerCase

/-!
# Dialogues

A dialogue prints its question and reads a line, until a line is an answer.  Blanks around a line
and the case of its letters do not matter.
-/

namespace SimplexReplay

/-- What came of a question: the text that was printed, the lines that were not read, and the
answer, or why there is none. -/
structure Reply (α : Type) where
  printed : String
  rest : List String
  answer : Except Fault α

def normalizedLine (line : String) : String :=
  Text.lower (Text.strip line)

def isQuitWord (line : String) : Bool :=
  line = "q" || line = "quit" || line = "exit"

/-- Asks a question until a line is an answer or leads to a fault. -/
def ask {α : Type} (question again : String) (judge : String → Except Fault (Option α)) :
    List String → Reply α
  | [] => ⟨question, [], .error .inputEnded⟩
  | line :: rest =>
      match judge (normalizedLine line) with
      | .error fault => ⟨question, rest, .error fault⟩
      | .ok (some answer) => ⟨question, rest, .ok answer⟩
      | .ok none =>
          let reply := ask question again judge rest
          { reply with printed := question ++ again ++ reply.printed }

/-- One of the options of a menu: its key is answered when its number or one of its aliases is
given.  An empty detail is not shown. -/
structure MenuOption where
  key : String
  label : String
  detail : String
  aliases : List String

/-- A heading above options that are numbered from one; an empty line answers the default. -/
structure Menu where
  heading : String
  options : List MenuOption
  defaultKey : String

namespace Menu

def optionLine (defaultKey : String) (number : Nat) (entry : MenuOption) : String :=
  let detail := if entry.detail.isEmpty then "" else " - " ++ entry.detail
  let marker := if entry.key = defaultKey then " (default)" else ""
  s!"  {number}) " ++ entry.label ++ detail ++ marker

def question (menu : Menu) : String :=
  let lines := menu.options.zipIdx.map fun (entry, position) =>
    optionLine menu.defaultKey (position + 1) entry
  String.join ((menu.heading :: lines).map fun line => line ++ "\n") ++ "> "

def again (menu : Menu) : String :=
  "Invalid choice. Enter a number or one of: " ++
    ", ".intercalate (menu.options.map (·.label)) ++ ".\nType q to quit.\n"

def numbered? (menu : Menu) (number : Int) : Option MenuOption :=
  if 1 ≤ number then menu.options[number.toNat - 1]? else none

def named? (menu : Menu) (word : String) : Option MenuOption :=
  menu.options.find? fun entry => entry.aliases.contains word

def isNumeral (line : String) : Bool :=
  !line.isEmpty && line.toList.all Text.isDigit

/-- What a normalized line chooses.  A line of digits is read as a number, which fails for digits
outside the decimal systems and for numerals that are too long. -/
def judge (menu : Menu) (line : String) : Except Fault (Option String) :=
  if isQuitWord line then .error .cancelled
  else if line.isEmpty then .ok (some menu.defaultKey)
  else if isNumeral line then
    match Decimal.readInt line with
    | none => .error .unreadableNumber
    | some number =>
        match menu.numbered? number with
        | some entry => .ok (some entry.key)
        | none => .ok ((menu.named? line).map (·.key))
  else .ok ((menu.named? line).map (·.key))

def pick (menu : Menu) (lines : List String) : Reply String :=
  ask menu.question menu.again menu.judge lines

end Menu

namespace Confirmation

/-- What a normalized line answers. -/
def judge (line : String) : Except Fault (Option Bool) :=
  if line.isEmpty || line = "y" || line = "yes" then .ok (some true)
  else if line = "n" || line = "no" then .ok (some false)
  else if isQuitWord line then .error .cancelled
  else .ok none

def again : String := "Please answer y or n. Type q to quit.\n"

def confirm (question : String) (lines : List String) : Reply Bool :=
  ask (question ++ " [Y/n]: ") again judge lines

end Confirmation

end SimplexReplay
