import PromptDiagram.Alias
import PromptDiagram.Chat.Client
import PromptDiagram.Chat.Reply
import PromptDiagram.Chat.Types
import PromptDiagram.Dictionary
import PromptDiagram.Extraction
import PromptDiagram.Graph
import PromptDiagram.Graph.Data
import PromptDiagram.Instruction
import PromptDiagram.Json.Fault
import PromptDiagram.Json.Outline
import PromptDiagram.Json.Printer
import PromptDiagram.Json.Reader
import PromptDiagram.Json.Shape
import PromptDiagram.Json.Token
import PromptDiagram.Json.Value
import PromptDiagram.Notation
import PromptDiagram.Notation.Items
import PromptDiagram.Notation.Lemmas
import PromptDiagram.Numeric.Floating
import PromptDiagram.Numeric.Reading
import PromptDiagram.Numeric.Shortest
import PromptDiagram.Proofs.Alias.FirstFree
import PromptDiagram.Proofs.Alias.Search
import PromptDiagram.Proofs.Alias.Stability
import PromptDiagram.Proofs.Alias.Table
import PromptDiagram.Proofs.Chat.Envelope
import PromptDiagram.Proofs.Chat.Posting
import PromptDiagram.Proofs.Dictionary
import PromptDiagram.Proofs.Extraction.Checks
import PromptDiagram.Proofs.Extraction.Decoding
import PromptDiagram.Proofs.Extraction.Description
import PromptDiagram.Proofs.Extraction.Recovery
import PromptDiagram.Proofs.Extraction.Reply
import PromptDiagram.Proofs.Extraction.Report
import PromptDiagram.Proofs.Extraction.Schema
import PromptDiagram.Proofs.Extraction.Visible
import PromptDiagram.Proofs.Graph.Data
import PromptDiagram.Proofs.Json.Drafts
import PromptDiagram.Proofs.Json.Fitting
import PromptDiagram.Proofs.Json.Grammar
import PromptDiagram.Proofs.Json.Layout
import PromptDiagram.Proofs.Json.Locality
import PromptDiagram.Proofs.Json.Nesting
import PromptDiagram.Proofs.Json.Numerals
import PromptDiagram.Proofs.Json.Prose
import PromptDiagram.Proofs.Json.Quoting
import PromptDiagram.Proofs.Json.Records
import PromptDiagram.Proofs.Json.Spelling
import PromptDiagram.Proofs.Json.Tokens
import PromptDiagram.Proofs.Json.Unambiguous
import PromptDiagram.Proofs.Json.Values
import PromptDiagram.Proofs.Notation.Matching
import PromptDiagram.Proofs.Notation.Parts
import PromptDiagram.Proofs.Notation.Pattern
import PromptDiagram.Proofs.Notation.RoundTrip
import PromptDiagram.Proofs.Notation.Scanning
import PromptDiagram.Proofs.Notation.Sections
import PromptDiagram.Proofs.Notation.Spelling
import PromptDiagram.Proofs.Numeric.Naturals
import PromptDiagram.Proofs.Render.Dot
import PromptDiagram.Proofs.Render.ElementIds
import PromptDiagram.Proofs.Render.Fence
import PromptDiagram.Proofs.Render.Incidence
import PromptDiagram.Proofs.Render.LineEnds
import PromptDiagram.Proofs.Render.Lines
import PromptDiagram.Proofs.Render.Placement
import PromptDiagram.Proofs.Render.Scanning
import PromptDiagram.Proofs.Render.Scene
import PromptDiagram.Proofs.Render.Shown
import PromptDiagram.Proofs.Render.Statements
import PromptDiagram.Proofs.Service.Accounting
import PromptDiagram.Proofs.Service.Asking
import PromptDiagram.Proofs.Service.Delivery
import PromptDiagram.Proofs.Service.Fallback
import PromptDiagram.Proofs.Service.Orders
import PromptDiagram.Proofs.Service.Origins
import PromptDiagram.Proofs.Settings.Model
import PromptDiagram.Proofs.Settings.Numbers
import PromptDiagram.Proofs.Text.Runs
import PromptDiagram.Proofs.Text.Utf8
import PromptDiagram.Recovery
import PromptDiagram.Render.Dot
import PromptDiagram.Render.Drawing
import PromptDiagram.Render.Mermaid
import PromptDiagram.Render.Parameters
import PromptDiagram.Render.PlantUml
import PromptDiagram.Render.Renderer
import PromptDiagram.Render.Scene
import PromptDiagram.Schema
import PromptDiagram.Service.Failure
import PromptDiagram.Service.Generate
import PromptDiagram.Service.Http
import PromptDiagram.Service.MediaType
import PromptDiagram.Settings.Model
import PromptDiagram.Settings.Server
import PromptDiagram.Text.Character
import PromptDiagram.Text.Hidden
import PromptDiagram.Text.Utf8
