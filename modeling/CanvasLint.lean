import CanvasLint.Canvas.Background
import CanvasLint.Main
import CanvasLint.Proofs.Canvas.Forest
import CanvasLint.Proofs.Check.Reordering
import CanvasLint.Proofs.Json.Floats
import CanvasLint.Proofs.Json.ReadValues
import CanvasLint.Proofs.Rule.ConditionText
import CanvasLint.Proofs.Rule.RuleSetText
import CanvasLint.Proofs.Canvas.Collection
import CanvasLint.Proofs.Report.SelectionOrder
import CanvasLint.Proofs.Check.TextColors
import CanvasLint.Proofs.Color.Hints
import CanvasLint.Proofs.Canvas.Refusal
import CanvasLint.Proofs.Report.Accounting
import CanvasLint.Proofs.Report.Overrides
import CanvasLint.Proofs.Report.Confinement
import CanvasLint.Proofs.Rule.Catalogue
import CanvasLint.Proofs.Number.Percentage
import CanvasLint.Proofs.Report.Score
import CanvasLint.Proofs.Rule.Entries
import CanvasLint.Proofs.Command.CheckOutcome
import CanvasLint.Proofs.Canvas.Ancestry
import CanvasLint.Proofs.Check.Joining
import CanvasLint.Proofs.Check.Phrases
import CanvasLint.Proofs.Check.SizeRange
import CanvasLint.Proofs.Check.Loosening
import CanvasLint.Proofs.Json.Records
import CanvasLint.Proofs.Rule.Spellings
import CanvasLint.Proofs.Color.Hex
import CanvasLint.Proofs.Command.JudgedRules
import CanvasLint.Proofs.Report.CompactLines
import CanvasLint.Proofs.Report.Rereading
import CanvasLint.Proofs.Rule.Spans
import CanvasLint.Proofs.Command.RuleChoice
import CanvasLint.Proofs.Check.Mentions
import CanvasLint.Proofs.Json.LineColumns
