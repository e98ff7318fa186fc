import FormulaTex.Calendar
import FormulaTex.CommandLine.Arguments
import FormulaTex.CommandLine.Ending
import FormulaTex.CommandLine.Files
import FormulaTex.CommandLine.Help
import FormulaTex.CommandLine.Request
import FormulaTex.CommandLine.Run
import FormulaTex.Console
import FormulaTex.Diagnostics
import FormulaTex.Document
import FormulaTex.Draft
import FormulaTex.Failure
import FormulaTex.Failure.Reports
import FormulaTex.Json
import FormulaTex.Json.Fault
import FormulaTex.Json.Token
import FormulaTex.Latex.Accent
import FormulaTex.Latex.Accent.Macros
import FormulaTex.Latex.Escape
import FormulaTex.Layout
import FormulaTex.Layout.Fault
import FormulaTex.Listing
import FormulaTex.Main
import FormulaTex.Number.Double
import FormulaTex.Number.Reading
import FormulaTex.Number.Shortest
import FormulaTex.Pass
import FormulaTex.Proofs.Steps
import FormulaTex.Proofs.Walk
import FormulaTex.Renderer
import FormulaTex.Settings
import FormulaTex.Settings.Coercion
import FormulaTex.Settings.File
import FormulaTex.Settings.Issue
import FormulaTex.Settings.Validation
import FormulaTex.SymbolTable
import FormulaTex.Text.Base64
import FormulaTex.Text.Blank
import FormulaTex.Text.Composition
import FormulaTex.Text.Composition.Table
import FormulaTex.Text.LowerCase
import FormulaTex.Text.Markup
import FormulaTex.Text.Printable
import FormulaTex.Text.Quoted
import FormulaTex.Text.Range
import FormulaTex.Text.Terminal
import FormulaTex.Text.Utf8
import FormulaTex.Text.Width
import FormulaTex.Value
import FormulaTex.Value.Equality
import FormulaTex.Value.Scope
import FormulaTex.Value.SetOrder
import FormulaTex.Value.Spelling
import FormulaTex.Yaml
import FormulaTex.Yaml.Fault
import FormulaTex.Yaml.Graph
import FormulaTex.Yaml.Graph.Merge
import FormulaTex.Yaml.Node
import FormulaTex.Yaml.Object
import FormulaTex.Yaml.Scalar
import FormulaTex.Yaml.Source
import FormulaTex.Yaml.Tag
import FormulaTex.Yaml.Timestamp
import FormulaTex.Yaml.Token
import FormulaTex.Yaml.Token.Block
import FormulaTex.Yaml.Token.Name
import FormulaTex.Yaml.Token.Plain
import FormulaTex.Yaml.Token.Quoted
import FormulaTex.Yaml.Token.Scan
import FormulaTex.Proofs.Outcome
import FormulaTex.Proofs.Nesting
import FormulaTex.Proofs.Position
import FormulaTex.Proofs.Arguments
import FormulaTex.Proofs.Scripts
import FormulaTex.Proofs.Children
import FormulaTex.Proofs.Limit
import FormulaTex.Proofs.Places
import FormulaTex.Proofs.Data
import FormulaTex.Proofs.Trees
import FormulaTex.Proofs.Loaded
import FormulaTex.Proofs.KeyOrder
import FormulaTex.Proofs.Faults
import FormulaTex.Proofs.Documents
import FormulaTex.Proofs.Mentions
import FormulaTex.Proofs.Unused
import FormulaTex.Proofs.Validity
import FormulaTex.Proofs.Requests
import FormulaTex.Proofs.Commands
import FormulaTex.Proofs.Escapes
import FormulaTex.Proofs.Updates
import FormulaTex.Proofs.Inert
import FormulaTex.Proofs.Unescaping
import FormulaTex.Proofs.Accents
import FormulaTex.Proofs.Legacy
import FormulaTex.Proofs.Depth
import FormulaTex.Proofs.Layers
import FormulaTex.Proofs.Tables
import FormulaTex.Proofs.Roots
import FormulaTex.Proofs.Numbers
import FormulaTex.Proofs.Parentheses
import FormulaTex.Proofs.Pieces
import FormulaTex.Proofs.Overrides
import FormulaTex.Proofs.Offsets
import FormulaTex.Proofs.Reports
import FormulaTex.Proofs.Layering
import FormulaTex.Proofs.Listings
import FormulaTex.Proofs.Fallbacks
import FormulaTex.Proofs.Causes
import FormulaTex.Proofs.States
import FormulaTex.Proofs.Sections
import FormulaTex.Proofs.Chains
import FormulaTex.Proofs.Bracing
