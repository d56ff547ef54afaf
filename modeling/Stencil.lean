import Stencil.Text.Blank
import Stencil.Text.Digit
import Stencil.Text.Word
import Stencil.Text.Printable
import Stencil.Text.CaseTable
import Stencil.Text.Casing
import Stencil.Text.Lines
import Stencil.Text.Quoted
import Stencil.Text.Similarity
import Stencil.Number.Binary64
import Stencil.Number.Shortest
import Stencil.Number.Integer
import Stencil.Number.Numeral
import Stencil.Value.Equality
import Stencil.Html.ErrorPage
import Stencil.Token.Reading
import Stencil.Condition
import Stencil.Node.Reading
import Stencil.Value.Path
import Stencil.Filter.Samples
import Stencil.Template
import Stencil.Json.Reader
import Stencil.Cache.Key
import Stencil.Disk.Path
import Stencil.Settings
import Stencil.Text.Decoding
import Stencil.Disk
import Stencil.Disk.Pattern
import Stencil.Disk.Work
import Stencil.Loader
import Stencil.Cache
import Stencil.Engine
import Stencil.Session
import Stencil.CommandLine
import Stencil.Main
import Stencil.Proofs.Render.Meaning
import Stencil.Proofs.Text.Pairs
import Stencil.Proofs.Text.Runs
import Stencil.Proofs.Token.Names
import Stencil.Proofs.Token.Cutting
import Stencil.Proofs.Token.Directives
import Stencil.Proofs.Token.Lexing
import Stencil.Proofs.Token.Places
import Stencil.Proofs.Condition.Spelling
import Stencil.Proofs.Condition.Grammar
import Stencil.Proofs.Node.Grammar
import Stencil.Proofs.Node.Forms
import Stencil.Proofs.Number.Integers
import Stencil.Proofs.Node.Marks
import Stencil.Proofs.Node.Acceptance
import Stencil.Proofs.Html.Escaping
import Stencil.Proofs.Render.Trust
import Stencil.Proofs.Render.Progress
import Stencil.Proofs.Condition.Writing
import Stencil.Proofs.Node.Rereading
import Stencil.Proofs.Cache.Soundness
import Stencil.Proofs.Cache.Runs
import Stencil.Proofs.Engine.Memo
import Stencil.Proofs.Engine.Caching
import Stencil.Proofs.Engine.Storms
import Stencil.Proofs.Node.Prefixes
import Stencil.Proofs.Session.Registry
import Stencil.Proofs.Html.Minifying
import Stencil.Proofs.Engine.Faults
import Stencil.Proofs.Render.Dataless
import Stencil.Proofs.Cache.Atomicity
import Stencil.Proofs.Cache.Validity
import Stencil.Proofs.Engine.Repetition
import Stencil.Proofs.Cache.Reordering
import Stencil.Proofs.Render.Stops
import Stencil.Proofs.Text.Lines
import Stencil.Proofs.Render.Lines
import Stencil.Proofs.Fault.Quotations
import Stencil.Proofs.Value.Keys
import Stencil.Proofs.Value.Walking
import Stencil.Proofs.Token.Shapes
import Stencil.Proofs.Token.Failing
import Stencil.Proofs.Condition.Reading
import Stencil.Proofs.Condition.Literals
import Stencil.Proofs.Render.Pipelines
import Stencil.Proofs.Render.Joining
import Stencil.Proofs.Html.Pages
import Stencil.Proofs.Html.Squeezing
import Stencil.Proofs.Value.Symmetry
import Stencil.Proofs.Filter.Rounding
import Stencil.Proofs.Html.Documents
import Stencil.Proofs.Render.Nesting
import Stencil.Proofs.Disk.Names
import Stencil.Proofs.Disk.Patterns
import Stencil.Proofs.Disk.Trees
import Stencil.Proofs.Loader.Searching
import Stencil.Proofs.Loader.Listing
