import SimplexReplay.Entry.Basic
import SimplexReplay.History

/-!
# Entries from loosely typed values

The numbers of the notes and of an array are read before the history is asked to take the entry;
that the array is rectangular, and pivot and basis, are only checked by an open history.
-/

namespace SimplexReplay

/-- An entry whose numbers have been read and whose parts have not been checked. -/
structure DraftEntry where
  snapshot : Snapshot
  description : Datum
  kind : Datum
  pivot : Datum
  iteration : Datum
  notes : Fields
  basis : Datum

namespace DraftEntry

def readNote (note : String × Datum) : Except Fault (String × Datum) := do
  if note.1 = Entry.ratiosNote ∨ note.1 = Entry.elementNote then
    let numbers ← Snapshot.read note.2
    return (note.1, Snapshot.datum numbers)
  else
    return note

/-- The notes of a record; a value that is off holds none. -/
def readNotes (value : Datum) : Except Fault Fields := do
  if value.isOn then (← value.toFields).mapM readNote else return []

/-- A draft from a record; the notes are read first, then the array. -/
def read (fields : Fields) : Except Fault DraftEntry := do
  let notes ← readNotes (Datum.fieldOr "info" .null fields)
  let snapshot ← Snapshot.read (← Datum.needField "T" fields)
  let description ← Datum.needField "description" fields
  let kind ← Datum.needField "kind" fields
  return {
    snapshot, description, kind, notes
    iteration := Datum.fieldOr "iteration" (.whole 0) fields
    pivot := Datum.fieldOr "pivot" .null fields
    basis := Datum.fieldOr "basis" .null fields }

def optionalMembers : Datum → Except Fault (Option (List Datum))
  | .null => .ok none
  | value => do
      let members ← value.members
      return some members

def checkedBasis (draft : DraftEntry) : Except Fault (Option (List Int)) := do
  match ← optionalMembers draft.basis with
  | none => return none
  | some members =>
      let columns ← members.mapM Datum.toInt
      return some columns

def entry (draft : DraftEntry) : Except Fault Entry := do
  draft.snapshot.checkArray
  let pivot ← optionalMembers draft.pivot
  let basis ← draft.checkedBasis
  return {
    snapshot := draft.snapshot, description := draft.description, kind := draft.kind
    pivot, iteration := draft.iteration, notes := draft.notes, basis }

end DraftEntry

/-- The open history of entries that are given as records. -/
def readHistory (records : List Datum) : Except Fault (History Entry) :=
  records.foldlM (fun history value =>
    match value with
    | .record fields => do
        let draft ← DraftEntry.read fields
        history.record draft.entry
    | _ => .error .wrongType) History.empty

end SimplexReplay
