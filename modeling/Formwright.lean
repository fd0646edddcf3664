import Formwright.Main
import Formwright.Proofs.Markup.Alike
import Formwright.Proofs.Markup.Wrappers
import Formwright.Proofs.Number.Signs
import Formwright.Proofs.Reading.Described
import Formwright.Proofs.Script.Sections
import Formwright.Proofs.Text.Escape
import Formwright.Proofs.Text.Lines
import Formwright.Proofs.Text.Parts
import Formwright.Record.Register
import Formwright.Surface.Playground
import Formwright.Surface.Web
import Formwright.Proofs.Agreement
import Formwright.Proofs.Reading.Boundary
import Formwright.Proofs.Component.Generated
import Formwright.Proofs.Text.Settled
import Formwright.Proofs.Json.Grammar
import Formwright.Proofs.Json.Written
import Formwright.Proofs.Json.Lexemes
import Formwright.Proofs.Json.Nesting
import Formwright.Proofs.Json.Decoded
import Formwright.Proofs.Reading.Report
import Formwright.Proofs.Reading.Decoded
import Formwright.Proofs.Surface.Answer
import Formwright.Proofs.Reading.Stable
import Formwright.Proofs.Reading.Alike
import Formwright.Proofs.Reading.Members
import Formwright.Proofs.Record.Interchange
import Formwright.Proofs.Component.Built
import Formwright.Proofs.Json.Conformance
import Formwright.Proofs.Mcp.Contained
import Formwright.Proofs.Mcp.Served
import Formwright.Proofs.Component.Apart
import Formwright.Proofs.Script.Distinct
import Formwright.Proofs.Script.Balance
import Formwright.Proofs.Markup.Tags
import Formwright.Proofs.Markup.Tree
import Formwright.Proofs.Text.Guards
import Formwright.Proofs.Script.Message
import Formwright.Proofs.Markup.Captions
import Formwright.Proofs.Component.Prompts
import Formwright.Proofs.Number.Printed
import Formwright.Proofs.Number.Whole
import Formwright.Proofs.Text.Repeated
import Formwright.Proofs.Reading.Parts
import Formwright.Proofs.Reading.Judged
import Formwright.Proofs.Reading.Integers
import Formwright.Proofs.Json.Stops
import Formwright.Proofs.Surface.Shown
