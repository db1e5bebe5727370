import StoryGraph.Check.Issue
import StoryGraph.Check.Reach
import StoryGraph.FlagSet
import StoryGraph.Graph.Building
import StoryGraph.Graph.Limits
import StoryGraph.Graph.Node
import StoryGraph.Graph.NodeId
import StoryGraph.Graph.Pool
import StoryGraph.Graph.Span
import StoryGraph.Json.Reader
import StoryGraph.Json.Stored
import StoryGraph.Json.Value
import StoryGraph.Json.Writer
import StoryGraph.Notice
import StoryGraph.Play.Backlog
import StoryGraph.Play.Event
import StoryGraph.Play.Gate
import StoryGraph.Play.Runner
import StoryGraph.Play.Session
import StoryGraph.Play.Turn
import StoryGraph.Save.Format
import StoryGraph.Save.SettingsFile
import StoryGraph.Save.Snapshot
import StoryGraph.Script.Cell
import StoryGraph.Script.Compile
import StoryGraph.Script.Entry
import StoryGraph.Script.Row
import StoryGraph.Settings
import StoryGraph.Text.Blank
import StoryGraph.Text.Digit
import StoryGraph.Text.Line
import StoryGraph.Text.Printable
import StoryGraph.Text.Quoted
import StoryGraph.Toml.DateTime
import StoryGraph.Toml.Document
import StoryGraph.Toml.Number
import StoryGraph.Toml.Reader
import StoryGraph.Toml.Text
import StoryGraph.Toml.Value
import StoryGraph.Proofs.Graph.Growth
import StoryGraph.Proofs.Graph.Lookup
import StoryGraph.Proofs.Check.Reach
import StoryGraph.Proofs.Script.Work
import StoryGraph.Proofs.Script.Retelling
import StoryGraph.Proofs.Script.Compiled
import StoryGraph.Proofs.Play.Move
import StoryGraph.Proofs.Play.Reached
import StoryGraph.Proofs.FlagMembers
import StoryGraph.Proofs.Json.Faithful
import StoryGraph.Proofs.Play.Mirror
import StoryGraph.Proofs.Play.Alike
import StoryGraph.Proofs.Play.Step
import StoryGraph.Proofs.Play.Refusal
import StoryGraph.Proofs.Check.Issue
import StoryGraph.Proofs.Play.Within
import StoryGraph.Proofs.Check.Promise
import StoryGraph.Proofs.Save.Resume
import StoryGraph.Proofs.Play.Interrupt
import StoryGraph.Proofs.Script.Editing
import StoryGraph.Proofs.Graph.Tiling
import StoryGraph.Proofs.Script.BrokenRun
import StoryGraph.Proofs.Script.Capacity
import StoryGraph.Proofs.Play.Placed
import StoryGraph.Proofs.Play.Beat
import StoryGraph.Proofs.Play.Telling
import StoryGraph.Proofs.Play.Ledger
import StoryGraph.Proofs.Play.Offer
import StoryGraph.Proofs.Play.OpenGate
import StoryGraph.Proofs.Script.Written
import StoryGraph.Proofs.Check.Coverage
import StoryGraph.Proofs.Play.FreeFlags
import StoryGraph.Proofs.Script.Rearranged
import StoryGraph.Proofs.Play.Retold
import StoryGraph.Proofs.Check.Paths
import StoryGraph.Proofs.Check.Report
import StoryGraph.Proofs.FlagNumbers
import StoryGraph.Proofs.Script.Pieces
import StoryGraph.Proofs.Script.Appending
import StoryGraph.Proofs.Script.FlagRuns
import StoryGraph.Proofs.Save.Restored
import StoryGraph.Proofs.Save.Kept
import StoryGraph.Proofs.Text.Trimmed
import StoryGraph.Proofs.Script.CellNumbers
import StoryGraph.Proofs.Text.Lines
import StoryGraph.Proofs.Script.Layout
import StoryGraph.Proofs.Play.History
import StoryGraph.Proofs.Script.FlagLists
import StoryGraph.Proofs.Script.Columns
import StoryGraph.Proofs.GuardedWords
import StoryGraph.Proofs.Graph.Guarded
import StoryGraph.Proofs.Check.Guarded
import StoryGraph.Proofs.Script.Sizes
import StoryGraph.Proofs.Script.Guarded
