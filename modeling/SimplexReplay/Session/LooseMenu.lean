import SimplexReplay.Datum
import SimplexReplay.Session.Dialogue
import SimplexReplay.Spelling

/-!
# Menus from loosely typed values

The parts of a menu are looked at only when they are needed: heading and options when the question
is printed, aliases when a line is compared with them, and labels again when a line is no answer.
A menu whose parts are all as they should be is asked as such.
-/

namespace SimplexReplay

namespace Datum

def fields : Datum → Except Fault Fields
  | record fields => .ok fields
  | _ => .error .wrongType

/-- Whether a text is among the members of a value, or a part of it if the value is a text. -/
def containsText (word : String) : Datum → Except Fault Bool
  | text value => .ok ((value.splitOn word).length != 1)
  | list items => .ok (items.any fun item => match item with
      | text value => value == word
      | _ => false)
  | record fields => .ok (fields.any fun field => field.1 == word)
  | null | truth _ | whole _ | real _ => .error .wrongType

def texts? : Datum → Option (List String)
  | list items => items.mapM fun item => match item with
      | text value => some value
      | _ => none
  | _ => none

end Datum

/-- A menu whose parts have not been looked at. -/
structure LooseMenu where
  heading : Datum
  options : Datum
  defaultKey : Datum

namespace LooseMenu

def option? : Datum → Option MenuOption
  | .record fields => do
      let .text key ← Datum.field? "key" fields | none
      let .text label ← Datum.field? "label" fields | none
      let aliases ← (← Datum.field? "aliases" fields).texts?
      match Datum.fieldOr "detail" .null fields with
      | .text detail => return ⟨key, label, detail, aliases⟩
      | .null => return ⟨key, label, "", aliases⟩
      | _ => none
  | _ => none

/-- The menu that a menu is whose parts are all as they should be. -/
def menu? (menu : LooseMenu) : Option Menu := do
  let .list items := menu.options | none
  let .text defaultKey := menu.defaultKey | none
  let heading ← menu.heading.spell.toOption
  return ⟨heading, ← items.mapM option?, defaultKey⟩

def optionLine (defaultKey : Datum) (number : Nat) (entry : Datum) : Except Fault String := do
  let fields ← entry.fields
  let key ← Datum.needField "key" fields
  let marker := if key.agrees defaultKey then " (default)" else ""
  let detail := Datum.fieldOr "detail" .null fields
  let more ← if detail.isOn then detail.spell.map (" - " ++ ·) else pure ""
  let label ← Datum.needField "label" fields
  let shown ← label.spell
  return s!"  {number}) " ++ shown ++ more ++ marker

/-- The lines of options up to the first one that cannot be made, and why it cannot. -/
def optionLines (defaultKey : Datum) : (number : Nat) → List Datum → List String × Option Fault
  | _, [] => ([], none)
  | number, entry :: rest =>
      match optionLine defaultKey number entry with
      | .error fault => ([], some fault)
      | .ok line =>
          let (lines, fault) := optionLines defaultKey (number + 1) rest
          (line :: lines, fault)

/-- The text that asks for an option, up to the first fault. -/
def question (menu : LooseMenu) : String × Option Fault :=
  match menu.heading.spell with
  | .error fault => ("", some fault)
  | .ok heading =>
      let (lines, fault) :=
        match menu.options.members with
        | .ok items => optionLines menu.defaultKey 1 items
        | .error fault => ([], some fault)
      let text := String.join ((heading :: lines).map fun line => line ++ "\n")
      (if fault.isNone then text ++ "> " else text, fault)

/-- The label of an option, which must be a text. -/
def labelText (entry : Datum) : Except Fault String := do
  match ← Datum.needField "label" (← entry.fields) with
  | .text label => return label
  | _ => throw .wrongType

def again (items : List Datum) : Except Fault String := do
  let labels ← items.mapM labelText
  return "Invalid choice. Enter a number or one of: " ++ ", ".intercalate labels ++
    ".\nType q to quit.\n"

def named? (word : String) : List Datum → Except Fault (Option Datum)
  | [] => .ok none
  | entry :: rest => do
      let fields ← entry.fields
      let aliases ← Datum.needField "aliases" fields
      if ← aliases.containsText word then
        return some (← Datum.needField "key" fields)
      named? word rest

/-- What a normalized line chooses among options. -/
def judge (defaultKey : Datum) (items : List Datum) (line : String) :
    Except Fault (Option Datum) := do
  if isQuitWord line then
    throw .cancelled
  if line.isEmpty then
    return some defaultKey
  if Menu.isNumeral line then
    match Decimal.readInt line with
    | none => throw .unreadableNumber
    | some number =>
        if 1 ≤ number then
          if let some entry := items[number.toNat - 1]? then
            return some (← Datum.needField "key" (← entry.fields))
  named? line items

/-- Asks for one of the options until a line is an answer or leads to a fault. -/
def askLoosely (menu : LooseMenu) (items : List Datum) : List String → Reply Datum
  | [] => ⟨menu.question.1, [], .error (menu.question.2.getD .inputEnded)⟩
  | line :: rest =>
      let (text, fault) := menu.question
      match fault with
      | some reason => ⟨text, line :: rest, .error reason⟩
      | none =>
          match judge menu.defaultKey items (normalizedLine line) with
          | .error reason => ⟨text, rest, .error reason⟩
          | .ok (some answer) => ⟨text, rest, .ok answer⟩
          | .ok none =>
              match again items with
              | .error reason => ⟨text, rest, .error reason⟩
              | .ok more =>
                  let reply := askLoosely menu items rest
                  { reply with printed := text ++ more ++ reply.printed }

/-- Asks for one of the options, as a menu if all parts are as they should be. -/
def pick (menu : LooseMenu) (lines : List String) : Reply Datum :=
  match menu.menu? with
  | some proper =>
      let reply := proper.pick lines
      ⟨reply.printed, reply.rest, reply.answer.map .text⟩
  | none => menu.askLoosely (menu.options.members.toOption.getD []) lines

end LooseMenu

end SimplexReplay
