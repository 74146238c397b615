import SimplexReplay.Session.Showcase

/-!
# The command line

`showcase` asks for an example and solves it, `demo` tells a run step by step, and `usage` solves a
program with a report and a viewer.  Text goes to the output; notices, and the number of pages of a
report, go to the error output.
-/

namespace SimplexReplay.CommandLine

def session? : List String → Option (Session Unit)
  | [] | ["showcase"] => some do
      let _ ← Session.showcase
      return
  | ["demo"] => some Session.demonstrate
  | ["usage"] => some Session.present
  | _ => none

def faultText (fault : Fault) : String :=
  match fault.message with
  | some message => message
  | none => "The session was stopped."

/-- Writes what goes to the error output at the end of a session. -/
def writeNotices (journal : Journal) : IO Unit := do
  for notice in journal.notices do
    IO.eprintln notice
  for report in journal.reports do
    IO.eprintln (report.path.spelling ++ s!": {report.pages.length} pages")

/-- Plays a session on the lines read so far, writes what it prints beyond what was written before,
and reads another line when the session asks for one. -/
partial def play (session : Session Unit) (lines : List String) (written : Nat) : IO UInt32 := do
  let (result, journal) := session.run.run (Journal.ofLines lines)
  IO.print (String.ofList (journal.printed.toList.drop written))
  (← IO.getStdout).flush
  match result with
  | .ok () =>
      writeNotices journal
      return 0
  | .error fault =>
      if fault = .inputEnded then
        let line ← (← IO.getStdin).getLine
        if !line.isEmpty then
          return ← play session (lines ++ [line]) journal.printed.length
      writeNotices journal
      IO.eprintln (faultText fault)
      return 1

end SimplexReplay.CommandLine

def main (arguments : List String) : IO UInt32 := do
  match SimplexReplay.CommandLine.session? arguments with
  | some session => SimplexReplay.CommandLine.play session [] 0
  | none =>
      IO.eprintln "usage: showcase | demo | usage"
      return 2
