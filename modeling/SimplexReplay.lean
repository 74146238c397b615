import SimplexReplay.Datum
import SimplexReplay.Decimal.Basic
import SimplexReplay.Decimal.Layout
import SimplexReplay.Decimal.Reading
import SimplexReplay.Display.View
import SimplexReplay.Display.Viewer
import SimplexReplay.Entry.Basic
import SimplexReplay.Entry.Loose
import SimplexReplay.Fault
import SimplexReplay.History
import SimplexReplay.Main
import SimplexReplay.Nested
import SimplexReplay.Options
import SimplexReplay.Position
import SimplexReplay.Program.Basic
import SimplexReplay.Program.Dual
import SimplexReplay.Program.Loose
import SimplexReplay.Proofs.AboveZero
import SimplexReplay.Proofs.AppendOnly
import SimplexReplay.Proofs.BasisAssignment
import SimplexReplay.Proofs.BasisReadOff
import SimplexReplay.Proofs.BasisView
import SimplexReplay.Proofs.Capping
import SimplexReplay.Proofs.Cycling
import SimplexReplay.Proofs.Dialogues
import SimplexReplay.Proofs.DoubleDual
import SimplexReplay.Proofs.DoubleOrder
import SimplexReplay.Proofs.DualSolution
import SimplexReplay.Proofs.Endings
import SimplexReplay.Proofs.Exact.Canonical
import SimplexReplay.Proofs.Exact.Equations
import SimplexReplay.Proofs.Exact.Fickle
import SimplexReplay.Proofs.Exact.Outcome
import SimplexReplay.Proofs.Exact.Passage
import SimplexReplay.Proofs.Exact.Progress
import SimplexReplay.Proofs.Exact.Reached
import SimplexReplay.Proofs.Exact.Recorded
import SimplexReplay.Proofs.Exact.RowValue
import SimplexReplay.Proofs.Exact.Shortfall
import SimplexReplay.Proofs.ExpressionTexts
import SimplexReplay.Proofs.Following
import SimplexReplay.Proofs.Improvement
import SimplexReplay.Proofs.JoinedTexts
import SimplexReplay.Proofs.LeastMember
import SimplexReplay.Proofs.MadeTables
import SimplexReplay.Proofs.NegativeBounds
import SimplexReplay.Proofs.NumberTexts
import SimplexReplay.Proofs.Numerals
import SimplexReplay.Proofs.PivotChoice
import SimplexReplay.Proofs.PivotReversal
import SimplexReplay.Proofs.Presentation
import SimplexReplay.Proofs.ProgramTexts
import SimplexReplay.Proofs.RecordedTables
import SimplexReplay.Proofs.Renderings
import SimplexReplay.Proofs.Replay
import SimplexReplay.Proofs.Run.BasisScan
import SimplexReplay.Proofs.Run.Choice
import SimplexReplay.Proofs.Run.Chronicle
import SimplexReplay.Proofs.Run.Selection
import SimplexReplay.Proofs.Run.Solved
import SimplexReplay.Proofs.Run.Trail
import SimplexReplay.Proofs.Safety
import SimplexReplay.Proofs.Session.Returned
import SimplexReplay.Proofs.SizeTexts
import SimplexReplay.Proofs.TableCells
import SimplexReplay.Proofs.TableLayout
import SimplexReplay.Proofs.Tolerance
import SimplexReplay.Proofs.ValidOptions
import SimplexReplay.Proofs.WeakDuality
import SimplexReplay.Proofs.WholeDoubles
import SimplexReplay.Run.Course
import SimplexReplay.Run.Solve
import SimplexReplay.Run.Step
import SimplexReplay.Session.Dialogue
import SimplexReplay.Session.HandRun
import SimplexReplay.Session.LooseMenu
import SimplexReplay.Session.Showcase
import SimplexReplay.Session.Solve
import SimplexReplay.Spelling
import SimplexReplay.Table
import SimplexReplay.Tableau.Basic
import SimplexReplay.Tableau.Basis
import SimplexReplay.Tableau.Loose
import SimplexReplay.Tableau.Pivot
import SimplexReplay.Tensor.Basic
import SimplexReplay.Tensor.Index
import SimplexReplay.Tensor.Reading
import SimplexReplay.Text.Characters
import SimplexReplay.Text.LowerCase
