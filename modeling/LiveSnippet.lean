import LiveSnippet.CommandLine.Arguments
import LiveSnippet.CommandLine.Reader
import LiveSnippet.CommandLine.Report
import LiveSnippet.CommandLine.Slot
import LiveSnippet.CommandLine.Usage
import LiveSnippet.Decimal.Binary
import LiveSnippet.Decimal.Notation
import LiveSnippet.Decimal.Shortest
import LiveSnippet.Files.FileSystem
import LiveSnippet.Files.FileTree
import LiveSnippet.Files.Path
import LiveSnippet.Library
import LiveSnippet.Main
import LiveSnippet.Matching.Candidate
import LiveSnippet.Matching.Context
import LiveSnippet.Pattern.Automaton
import LiveSnippet.Pattern.BracketClass
import LiveSnippet.Pattern.CharSet
import LiveSnippet.Pattern.Footprint
import LiveSnippet.Pattern.Parser
import LiveSnippet.Pattern.Program
import LiveSnippet.Pattern.Property
import LiveSnippet.Pattern.Property.Age
import LiveSnippet.Pattern.Property.Binary
import LiveSnippet.Pattern.Property.CaseFolding
import LiveSnippet.Pattern.Property.GeneralCategory
import LiveSnippet.Pattern.Property.Script
import LiveSnippet.Pattern.Property.Segmentation
import LiveSnippet.Pattern.Search
import LiveSnippet.Pattern.Syntax
import LiveSnippet.Pattern.Trigger
import LiveSnippet.Proofs.Decimal.Length
import LiveSnippet.Proofs.Decimal.Negation
import LiveSnippet.Proofs.Library.Additions
import LiveSnippet.Proofs.Library.Ranking
import LiveSnippet.Proofs.Matching.Boundaries
import LiveSnippet.Proofs.Matching.Candidates
import LiveSnippet.Proofs.Matching.Members
import LiveSnippet.Proofs.Matching.Restarts
import LiveSnippet.Proofs.Script.Bounds
import LiveSnippet.Proofs.Script.Expressions
import LiveSnippet.Proofs.Script.Indexed
import LiveSnippet.Proofs.Script.Joining
import LiveSnippet.Proofs.Script.Lexing
import LiveSnippet.Proofs.Script.Limits
import LiveSnippet.Proofs.Script.Mirroring
import LiveSnippet.Proofs.Script.Moments
import LiveSnippet.Proofs.Script.Parsing
import LiveSnippet.Proofs.Script.Printer
import LiveSnippet.Proofs.Script.Reading
import LiveSnippet.Proofs.Script.Rules
import LiveSnippet.Proofs.Script.Slices
import LiveSnippet.Proofs.Script.Spelling
import LiveSnippet.Proofs.Script.Statements
import LiveSnippet.Proofs.Script.Strings
import LiveSnippet.Proofs.Session.Atomicity
import LiveSnippet.Proofs.Session.Batches
import LiveSnippet.Proofs.Session.Contents
import LiveSnippet.Proofs.Session.Echo
import LiveSnippet.Proofs.Session.Elsewhere
import LiveSnippet.Proofs.Session.Footing
import LiveSnippet.Proofs.Session.Handing
import LiveSnippet.Proofs.Session.Inputs
import LiveSnippet.Proofs.Session.Insertion
import LiveSnippet.Proofs.Session.Opening
import LiveSnippet.Proofs.Session.Order
import LiveSnippet.Proofs.Session.Page
import LiveSnippet.Proofs.Session.Placement
import LiveSnippet.Proofs.Session.Routing
import LiveSnippet.Proofs.Session.Selections
import LiveSnippet.Proofs.Session.Settling
import LiveSnippet.Proofs.Session.Sync
import LiveSnippet.Proofs.Session.Tracking
import LiveSnippet.Proofs.Template.Bodies
import LiveSnippet.Proofs.Template.Counting
import LiveSnippet.Proofs.Template.Cutting
import LiveSnippet.Proofs.Template.Entries
import LiveSnippet.Proofs.Template.Escaping
import LiveSnippet.Proofs.Template.Fields
import LiveSnippet.Proofs.Template.Headers
import LiveSnippet.Proofs.Template.Levels
import LiveSnippet.Proofs.Template.Pieces
import LiveSnippet.Proofs.Template.Rendering
import LiveSnippet.Proofs.Template.Seams
import LiveSnippet.Proofs.Text.Addressing
import LiveSnippet.Proofs.Text.BatchShift
import LiveSnippet.Proofs.Text.Columns
import LiveSnippet.Proofs.Text.Cuts
import LiveSnippet.Proofs.Text.Extent
import LiveSnippet.Proofs.Text.Following
import LiveSnippet.Proofs.Text.Indices
import LiveSnippet.Proofs.Text.Landing
import LiveSnippet.Proofs.Text.Lines
import LiveSnippet.Proofs.Text.Locating
import LiveSnippet.Proofs.Text.Occurrences
import LiveSnippet.Proofs.Text.Offsets
import LiveSnippet.Proofs.Text.Patch
import LiveSnippet.Proofs.Text.Replacing
import LiveSnippet.Proofs.Text.Returns
import LiveSnippet.Proofs.Text.Rewriting
import LiveSnippet.Proofs.Text.Size
import LiveSnippet.Proofs.Text.Splicing
import LiveSnippet.Script.Error
import LiveSnippet.Script.Interpreter
import LiveSnippet.Script.Lexer
import LiveSnippet.Script.Method
import LiveSnippet.Script.Parser
import LiveSnippet.Script.Syntax
import LiveSnippet.Script.Token
import LiveSnippet.Script.Value
import LiveSnippet.Session.Diagnostic
import LiveSnippet.Session.Expansion
import LiveSnippet.Session.Host
import LiveSnippet.Session.Layout
import LiveSnippet.Session.Part
import LiveSnippet.Session.Update
import LiveSnippet.Settings.Basic
import LiveSnippet.Settings.Toml
import LiveSnippet.Template.Body
import LiveSnippet.Template.Code
import LiveSnippet.Template.Compiled
import LiveSnippet.Template.Error
import LiveSnippet.Template.File
import LiveSnippet.Template.Flags
import LiveSnippet.Template.Generator
import LiveSnippet.Template.Header
import LiveSnippet.Template.Marker
import LiveSnippet.Text.Basic
import LiveSnippet.Text.Buffer
import LiveSnippet.Text.Document
import LiveSnippet.Text.Edit
import LiveSnippet.Text.Position
import LiveSnippet.Text.Quoted
import LiveSnippet.Text.Search
import LiveSnippet.Text.Shift
import LiveSnippet.Text.Tracked
import LiveSnippet.Unicode.Alphabetic
import LiveSnippet.Unicode.Alphanumeric
import LiveSnippet.Unicode.CaseMapping
import LiveSnippet.Unicode.GraphemeExtend
import LiveSnippet.Unicode.Numeric
import LiveSnippet.Unicode.Printable
import LiveSnippet.Unicode.RangeTable
import LiveSnippet.Unicode.WhiteSpace
