import LiveLint.Classify.Classifier
import LiveLint.Cli.Command
import LiveLint.Cli.Run
import LiveLint.Config.Basic
import LiveLint.Config.Sources
import LiveLint.Decimal
import LiveLint.Detect.Detector
import LiveLint.Detect.Match
import LiveLint.Detect.Queries
import LiveLint.Detect.Query
import LiveLint.Digest
import LiveLint.Disk
import LiveLint.Engine.Basic
import LiveLint.Engine.Host
import LiveLint.Engine.Request
import LiveLint.Engine.Session
import LiveLint.Fault
import LiveLint.Json.Parser
import LiveLint.Json.Printer
import LiveLint.Language.Profile
import LiveLint.Log
import LiveLint.Log.Setup
import LiveLint.Main
import LiveLint.Moment
import LiveLint.Notice.Cache
import LiveLint.Notice.Journal
import LiveLint.Number
import LiveLint.Parse.Grammars
import LiveLint.Parse.Parser
import LiveLint.Proofs.Classify.Ratings
import LiveLint.Proofs.Classify.Totality
import LiveLint.Proofs.Config.Layers
import LiveLint.Proofs.Decimal.Nearest
import LiveLint.Proofs.Decimal.Shortest
import LiveLint.Proofs.Detect.Assignment
import LiveLint.Proofs.Detect.Below
import LiveLint.Proofs.Detect.ByteColumns
import LiveLint.Proofs.Detect.ErrorSpans
import LiveLint.Proofs.Detect.Faults
import LiveLint.Proofs.Detect.Finds
import LiveLint.Proofs.Detect.Identities
import LiveLint.Proofs.Detect.Independence
import LiveLint.Proofs.Detect.Likeness
import LiveLint.Proofs.Detect.LoopNests
import LiveLint.Proofs.Detect.Overlaps
import LiveLint.Proofs.Detect.Relocation
import LiveLint.Proofs.Detect.Repetitions
import LiveLint.Proofs.Detect.Reports
import LiveLint.Proofs.Detect.Scopes
import LiveLint.Proofs.Detect.Search
import LiveLint.Proofs.Detect.Transparency
import LiveLint.Proofs.Doubles
import LiveLint.Proofs.Engine.Coherence
import LiveLint.Proofs.Engine.Grammar
import LiveLint.Proofs.Engine.Histories
import LiveLint.Proofs.Engine.LastWrite
import LiveLint.Proofs.Engine.Moves
import LiveLint.Proofs.Engine.Queues
import LiveLint.Proofs.Engine.Repeats
import LiveLint.Proofs.Engine.Serving
import LiveLint.Proofs.Engine.SingleCalls
import LiveLint.Proofs.Engine.Steps
import LiveLint.Proofs.Engine.WellTyped
import LiveLint.Proofs.Json.Doubles
import LiveLint.Proofs.Json.Nested
import LiveLint.Proofs.Json.Texts
import LiveLint.Proofs.Json.Values
import LiveLint.Proofs.Moments
import LiveLint.Proofs.Notice.Accounts
import LiveLint.Proofs.Notice.Decoding
import LiveLint.Proofs.Notice.Dismissal
import LiveLint.Proofs.Notice.Evictions
import LiveLint.Proofs.Notice.Loading
import LiveLint.Proofs.Notice.Recovery
import LiveLint.Proofs.Notice.Reopening
import LiveLint.Proofs.Notice.Steps
import LiveLint.Proofs.Notice.Suppression
import LiveLint.Proofs.Notice.Sweeps
import LiveLint.Proofs.Outcomes
import LiveLint.Proofs.Parse.Editing
import LiveLint.Proofs.Parse.Fallbacks
import LiveLint.Proofs.Parse.HandOff
import LiveLint.Proofs.Parse.Incremental
import LiveLint.Proofs.Parse.LoopBodies
import LiveLint.Proofs.Parse.NativeRecords
import LiveLint.Proofs.Parse.Provenance
import LiveLint.Proofs.Parse.Published
import LiveLint.Proofs.Parse.Readings
import LiveLint.Proofs.Parse.Scratch
import LiveLint.Proofs.Parse.ShapedArenas
import LiveLint.Proofs.Remote.Adjustments
import LiveLint.Proofs.Remote.Budget
import LiveLint.Proofs.Remote.CallLogs
import LiveLint.Proofs.Remote.Counts
import LiveLint.Proofs.Remote.Exchanges
import LiveLint.Proofs.Remote.Protocol
import LiveLint.Proofs.Remote.Refinements
import LiveLint.Proofs.Revision.ChangedLines
import LiveLint.Proofs.Revision.Gaps
import LiveLint.Proofs.Revision.Ledger
import LiveLint.Proofs.Revision.LineSets
import LiveLint.Proofs.Revision.Lives
import LiveLint.Proofs.Revision.Partners
import LiveLint.Proofs.Revision.Splices
import LiveLint.Proofs.Revision.Tracking
import LiveLint.Proofs.Scan.Behind
import LiveLint.Proofs.Scan.Blanks
import LiveLint.Proofs.Scan.Blocks
import LiveLint.Proofs.Scan.Bodies
import LiveLint.Proofs.Scan.Colons
import LiveLint.Proofs.Scan.Constructs
import LiveLint.Proofs.Scan.Drafts
import LiveLint.Proofs.Scan.FindingsBelow
import LiveLint.Proofs.Scan.Forests
import LiveLint.Proofs.Scan.Headers
import LiveLint.Proofs.Scan.InRange
import LiveLint.Proofs.Scan.LoopBlocks
import LiveLint.Proofs.Scan.Masks
import LiveLint.Proofs.Scan.Matches
import LiveLint.Proofs.Scan.Nesting
import LiveLint.Proofs.Scan.Offsets
import LiveLint.Proofs.Scan.Outlines
import LiveLint.Proofs.Scan.OutlinesBelow
import LiveLint.Proofs.Scan.Pairings
import LiveLint.Proofs.Scan.ParameterLists
import LiveLint.Proofs.Scan.Ranges
import LiveLint.Proofs.Scan.Rounds
import LiveLint.Proofs.Scan.Searches
import LiveLint.Proofs.Scan.Shapes
import LiveLint.Proofs.Scan.Spans
import LiveLint.Proofs.Scan.Starts
import LiveLint.Proofs.Schedule.Books
import LiveLint.Proofs.Schedule.Conservation
import LiveLint.Proofs.Schedule.Debounce
import LiveLint.Proofs.Schedule.Intervals
import LiveLint.Proofs.Schedule.Moves
import LiveLint.Proofs.Schedule.Notes
import LiveLint.Proofs.Schedule.Order
import LiveLint.Proofs.Schedule.Paths
import LiveLint.Proofs.Schedule.Runs
import LiveLint.Proofs.Schedule.Slots
import LiveLint.Proofs.Schedule.Turns
import LiveLint.Proofs.Toml.Distinct
import LiveLint.Proofs.Tree.Descents
import LiveLint.Proofs.Tree.Faces
import LiveLint.Proofs.Tree.Grown
import LiveLint.Proofs.Tree.Moved
import LiveLint.Proofs.Tree.Preorder
import LiveLint.Proofs.Tree.Stored
import LiveLint.Proofs.Tree.Trails
import LiveLint.Proofs.Tree.TreeShapes
import LiveLint.Proofs.Tree.Walks
import LiveLint.Reading
import LiveLint.Remote.Client
import LiveLint.Remote.Connectivity
import LiveLint.Remote.Refinement
import LiveLint.Remote.Script
import LiveLint.Revision.Diff
import LiveLint.Revision.Tracker
import LiveLint.Scan.Brace
import LiveLint.Scan.Draft
import LiveLint.Scan.Forward
import LiveLint.Scan.Indent
import LiveLint.Scan.Indexed
import LiveLint.Scan.Mask
import LiveLint.Scan.Outline
import LiveLint.Scan.Shared
import LiveLint.Schedule.Jobs
import LiveLint.Schedule.Scheduler
import LiveLint.Stamp
import LiveLint.Table
import LiveLint.Terminal.EmojiTable
import LiveLint.Terminal.Markup
import LiveLint.Terminal.Screen
import LiveLint.Terminal.Style
import LiveLint.Terminal.Width
import LiveLint.Text.Basic
import LiveLint.Text.Encoding
import LiveLint.Text.Lower
import LiveLint.Text.Numeral
import LiveLint.Text.Pattern
import LiveLint.Text.Quoted
import LiveLint.Text.Utf8
import LiveLint.Text.Word
import LiveLint.Toml.Parser
import LiveLint.Total
import LiveLint.Tree.Arena
import LiveLint.Tree.Normalize
import LiveLint.Tree.Tree
import LiveLint.Url.Composition
import LiveLint.Url.Host
import LiveLint.Url.Label
import LiveLint.Url.LabelTable
import LiveLint.Url.Parser
import LiveLint.Value
import LiveLint.View.Given
import LiveLint.View.Tree
