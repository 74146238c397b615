import SimplexReplay.Datum
import SimplexReplay.Text.Characters

/-!
# Spelling of values and names of columns

Every value has a spelling with which it stands within other text.  A text is its own spelling; in
a sequence or a record it stands between quotation marks: single ones, unless the text itself has a
single mark and no double one.  The mark, the backslash and hidden characters are written with a
backslash.

The names of the columns are a sequence of values, and each is spelled where it is shown.  Anything
else can stand in their place: a record shows its keys as names and cannot be looked up by position,
and a value that is no sequence has no names at all.  Both only matter when a name is asked for.
-/

namespace SimplexReplay

namespace Text

def singleMark : Char := Char.ofNat 39

def doubleMark : Char := Char.ofNat 34

/-- The hexadecimal digits of a number, filled up with zeros to a width. -/
def hexDigits (width number : Nat) : List Char :=
  let digits := Nat.toDigits 16 number
  List.replicate (width - digits.length) '0' ++ digits

def escapedCode (code : Nat) : List Char :=
  if code < 0x100 then '\\' :: 'x' :: hexDigits 2 code
  else if code < 0x10000 then '\\' :: 'u' :: hexDigits 4 code
  else '\\' :: 'U' :: hexDigits 8 code

def quotedChar (mark char : Char) : List Char :=
  if char = mark || char = '\\' then ['\\', char]
  else if char = '\n' then ['\\', 'n']
  else if char = '\r' then ['\\', 'r']
  else if char = '\t' then ['\\', 't']
  else if isHidden char then escapedCode char.toNat
  else [char]

/-- The mark that a text is quoted with. -/
def quotationMark (chars : List Char) : Char :=
  if chars.contains singleMark && !chars.contains doubleMark then doubleMark else singleMark

def quoted (text : String) : String :=
  let chars := text.toList
  let mark := quotationMark chars
  String.ofList (mark :: chars.flatMap (quotedChar mark) ++ [mark])

end Text

namespace Datum

mutual

/-- The spelling of a value within another one. -/
def innerSpelling : Datum → String
  | null => "None"
  | truth value => if value then "True" else "False"
  | whole value => toString value
  | real value => Decimal.fullText value
  | text value => Text.quoted value
  | list items => "[" ++ ", ".intercalate (itemSpellings items) ++ "]"
  | record fields => "\x7b" ++ ", ".intercalate (fieldSpellings fields) ++ "\x7d"

def itemSpellings : List Datum → List String
  | [] => []
  | item :: rest => innerSpelling item :: itemSpellings rest

def fieldSpellings : List (String × Datum) → List String
  | [] => []
  | field :: rest => fieldSpelling field :: fieldSpellings rest

def fieldSpelling : String × Datum → String
  | (name, value) => Text.quoted name ++ ": " ++ innerSpelling value

end

/-- The spelling of a value, however long its integers are. -/
def spelling : Datum → String
  | text value => value
  | value => innerSpelling value

mutual

/-- Whether no integer in a value has more digits than can be written. -/
def isSpellable : Datum → Bool
  | whole value => decide ((Decimal.digits value.natAbs).length ≤ Decimal.digitLimit)
  | list items => areSpellable items
  | record fields => fieldsSpellable fields
  | null | truth _ | real _ | text _ => true

def areSpellable : List Datum → Bool
  | [] => true
  | item :: rest => isSpellable item && areSpellable rest

def fieldsSpellable : List (String × Datum) → Bool
  | [] => true
  | field :: rest => fieldSpellable field && fieldsSpellable rest

def fieldSpellable : String × Datum → Bool
  | (_, value) => isSpellable value

end

/-- The spelling of a value that is asked for: an integer in it that is too long is refused. -/
def spell (value : Datum) : Except Fault String :=
  if value.isSpellable then .ok value.spelling else .error .numeralTooLong

@[simp]
theorem spell_text (value : String) : (text value).spell = .ok value :=
  rfl

end Datum

/-- What was given as the names of the columns. -/
inductive Names where
  | listed (names : List Datum)
  | keyed (keys : List String)
  | unlisted

namespace Names

def ofTexts (texts : List String) : Names :=
  listed (texts.map .text)

/-- The names that a value stands for; a text is the sequence of its characters. -/
def read : Datum → Names
  | .text value => ofTexts (value.toList.map fun char => String.ofList [char])
  | .list items => listed items
  | .record fields => keyed (fields.map Prod.fst)
  | .null | .truth _ | .whole _ | .real _ => unlisted

def members : Names → Except Fault (List Datum)
  | listed names => .ok names
  | keyed keys => .ok (keys.map .text)
  | unlisted => .error .wrongType

def size : Names → Nat
  | listed names => names.length
  | keyed keys => keys.length
  | unlisted => 0

/-- Why a position that lies within the names, or is a number of another kind, has no name. -/
def lookupFault (isPosition : Bool) : Names → Fault
  | listed _ => if isPosition then .outOfRange else .wrongType
  | keyed _ => .missingField
  | unlisted => .wrongType

def nameAt (names : Names) (position : Int) : Except Fault Datum :=
  match names with
  | listed given =>
      match signedGet? given position with
      | some name => .ok name
      | none => .error (names.lookupFault true)
  | keyed _ | unlisted => .error (names.lookupFault true)

/-- What stands for a basic column without a name. -/
def unknown : Datum := .text "?"

/-- The label of the column at a position: its name, if it is one of the columns that have one. -/
def labelAt (names : Names) (position : Int) : Except Fault Datum :=
  if 0 ≤ position ∧ position < names.size then names.nameAt position else .ok unknown

def label (names : Names) : Datum → Except Fault Datum
  | .whole position => names.labelAt position
  | .truth value => names.labelAt (if value then 1 else 0)
  | .real value =>
      if 0.0 ≤ value && value < Float.ofNat names.size then .error (names.lookupFault false)
      else .ok unknown
  | .null | .text _ | .list _ | .record _ => .error .wrongType

end Names

end SimplexReplay
