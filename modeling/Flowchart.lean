import Flowchart.Source.Parser
import Flowchart.Tree.Outline
import Flowchart.Program.Reading
import Flowchart.Chart.Draft
import Flowchart.Chart.Prune
import Flowchart.Chart.Numbering
import Flowchart.Chart.Listing
import Flowchart.Chart.Layout
import Flowchart.Chart.Canvas
import Flowchart.Chart.Survey
import Flowchart.Command.Console
import Flowchart.Command.Cell
import Flowchart.Command.Sample
import Flowchart.Main
import Flowchart.Proofs.Chart.Edits
import Flowchart.Proofs.Draft.Edits
import Flowchart.Proofs.Draft.Growth
import Flowchart.Proofs.Draft.Picture
import Flowchart.Proofs.Draft.Media
import Flowchart.Proofs.Draft.Parents
import Flowchart.Proofs.Draft.Content
import Flowchart.Proofs.Chart.Pruning
import Flowchart.Proofs.Chart.Contraction
import Flowchart.Proofs.Chart.Description
import Flowchart.Proofs.Chart.Silence
import Flowchart.Proofs.Program.IdleLoops
import Flowchart.Proofs.Chart.Numbers
import Flowchart.Proofs.Chart.Walk
import Flowchart.Proofs.Dot.Walk
import Flowchart.Proofs.Program.Execution
import Flowchart.Proofs.Program.Meaning
import Flowchart.Proofs.Text.Numeral
import Flowchart.Proofs.Text.Number
import Flowchart.Proofs.Text.Quoted
import Flowchart.Proofs.Program.Readability
import Flowchart.Proofs.Chart.Cells
import Flowchart.Proofs.Draft.Invariant
import Flowchart.Proofs.Draft.Plan
import Flowchart.Proofs.Draft.Layout
import Flowchart.Proofs.Draft.Tracks
import Flowchart.Proofs.Grid
import Flowchart.Proofs.Program.Spelling
import Flowchart.Proofs.Chart.Canvas
import Flowchart.Proofs.Program.Drawing
import Flowchart.Proofs.Program.Printing
import Flowchart.Proofs.Faults
import Flowchart.Proofs.Outline.Spelling
import Flowchart.Proofs.Outline.Readability
import Flowchart.Proofs.Outline.Lines
import Flowchart.Proofs.Program.Obstacles
import Flowchart.Proofs.Program.Assignment
import Flowchart.Proofs.Program.Leaves
import Flowchart.Proofs.Draft.Trees
import Flowchart.Proofs.Program.Syntax
import Flowchart.Proofs.Chart.Depth
import Flowchart.Proofs.Source.Reading
import Flowchart.Proofs.Program.Series
import Flowchart.Proofs.Program.Graphs
import Flowchart.Proofs.Program.Consoles
