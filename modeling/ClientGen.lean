import ClientGen.Call.Element
import ClientGen.Call.Pager
import ClientGen.Call.Retry
import ClientGen.Call.Shape
import ClientGen.Catalog.Basic
import ClientGen.Catalog.Declaration
import ClientGen.Catalog.Table
import ClientGen.Client.Basic
import ClientGen.Client.Call
import ClientGen.Client.Doc
import ClientGen.Client.GoType
import ClientGen.Client.Header
import ClientGen.Client.Iterator
import ClientGen.Client.Methods
import ClientGen.Client.Scaffold
import ClientGen.Code
import ClientGen.Command.Arguments
import ClientGen.Command.Basic
import ClientGen.Command.Failure
import ClientGen.Command.FileTree
import ClientGen.Command.LogFilter
import ClientGen.Command.Request
import ClientGen.Command.Response
import ClientGen.Command.System
import ClientGen.Emitter
import ClientGen.Fault
import ClientGen.Import.Block
import ClientGen.Import.Client
import ClientGen.Import.Package
import ClientGen.Import.Spec
import ClientGen.Json.Decoder
import ClientGen.Json.Reader
import ClientGen.Json.Token
import ClientGen.Json.Value
import ClientGen.Json.Writer
import ClientGen.Main
import ClientGen.Naming
import ClientGen.Options
import ClientGen.Pattern.Escape
import ClientGen.Pattern.Flags
import ClientGen.Pattern.Nesting
import ClientGen.Pattern.Valid
import ClientGen.Proto.Datum
import ClientGen.Proto.Decl
import ClientGen.Proto.Form
import ClientGen.Proto.Linked
import ClientGen.Proto.OptionValue
import ClientGen.Proto.Scalar
import ClientGen.Proto.Scope
import ClientGen.Proto.Setting
import ClientGen.Proto.Standard
import ClientGen.Proto.Symbol
import ClientGen.Proto.ToSchema
import ClientGen.Proto.Valid
import ClientGen.Run
import ClientGen.Schema.FromJson
import ClientGen.Schema.ToJson
import ClientGen.Schema.Types
import ClientGen.Text.Blank
import ClientGen.Text.Case
import ClientGen.Text.Digit
import ClientGen.Text.Escaped
import ClientGen.Text.Floating
import ClientGen.Text.Letter
import ClientGen.Text.Numeral
import ClientGen.Text.Printable
import ClientGen.Text.Quoted
import ClientGen.Text.Ranges
import ClientGen.Text.Split
import ClientGen.Text.Words
import ClientGen.Wire.Fold
import ClientGen.Wire.Message
import ClientGen.Wire.Varint
import ClientGen.Proofs.Client.Resolved
import ClientGen.Proofs.Pager.Calls
import ClientGen.Proofs.Client.ImportNames
import ClientGen.Proofs.Client.Declarations
import ClientGen.Proofs.Client.Pages
import ClientGen.Proofs.Client.Iterators
import ClientGen.Proofs.Emitter.Level
import ClientGen.Proofs.Client.Sheet
import ClientGen.Proofs.Run.InTurn
import ClientGen.Proofs.Run.Composition
import ClientGen.Proofs.Catalog.Lookup
import ClientGen.Proofs.Catalog.Names
import ClientGen.Proofs.Catalog.Extension
import ClientGen.Proofs.Run.Independence
import ClientGen.Proofs.Client.NamedTypes
import ClientGen.Proofs.Client.Faults
import ClientGen.Proofs.Run.Success
import ClientGen.Proofs.Text.Quoted
import ClientGen.Proofs.Client.Imports
import ClientGen.Proofs.Text.Words
import ClientGen.Proofs.Client.Qualifiers
import ClientGen.Proofs.Client.References
import ClientGen.Proofs.Proto.Names
import ClientGen.Proofs.Proto.Conversion
import ClientGen.Proofs.Proto.Files
import ClientGen.Proofs.Proto.References
import ClientGen.Proofs.Run.References
import ClientGen.Proofs.Text.Split
import ClientGen.Proofs.Emitter.Rows
import ClientGen.Proofs.Client.Comments
import ClientGen.Proofs.Catalog.Comments
import ClientGen.Proofs.Run.Comments
import ClientGen.Proofs.Run.FileNames
import ClientGen.Proofs.Text.Names
import ClientGen.Proofs.Emitter.Tidy
import ClientGen.Proofs.Emitter.Items
import ClientGen.Proofs.Client.Named
import ClientGen.Proofs.Client.Scaffold
import ClientGen.Proofs.Client.Methods
import ClientGen.Proofs.Client.IteratorItems
import ClientGen.Proofs.Client.Segments
import ClientGen.Proofs.Client.FileItems
import ClientGen.Proofs.Client.Identifiers
import ClientGen.Proofs.Run.Identifiers
import ClientGen.Proofs.Run.Iterators
import ClientGen.Proofs.Catalog.Places
import ClientGen.Proofs.Catalog.Last
import ClientGen.Proofs.Wire.Primitives
import ClientGen.Proofs.Wire.Fields
import ClientGen.Proofs.Command.Response
import ClientGen.Proofs.Command.FileTree
import ClientGen.Proofs.Json.Strings
import ClientGen.Proofs.Json.Numbers
import ClientGen.Proofs.Json.Tokens
import ClientGen.Proofs.Json.Documents
import ClientGen.Proofs.Json.Writing
import ClientGen.Proofs.Json.Records
import ClientGen.Proofs.Schema.Values
import ClientGen.Proofs.Schema.Requests
import ClientGen.Proofs.Schema.Written
import ClientGen.Proofs.Command.JsonRequest
import ClientGen.Proofs.Command.Ending
import ClientGen.Proofs.Call.Shape
import ClientGen.Proofs.Call.Retry
import ClientGen.Proofs.Catalog.Paths
import ClientGen.Proofs.Client.Nesting
import ClientGen.Proofs.Client.Drafting
import ClientGen.Proofs.Text.Trimmed
import ClientGen.Proofs.Text.Numerals
import ClientGen.Proofs.Options.Settings
import ClientGen.Proofs.Options.Parsing
import ClientGen.Proofs.Options.OutputDir
import ClientGen.Proofs.Command.OutputPlaces
import ClientGen.Proofs.Emitter.Printed
import ClientGen.Proofs.Client.CallOptions
import ClientGen.Proofs.Import.Order
import ClientGen.Proofs.Import.Rows
import ClientGen.Proofs.Import.Hint
import ClientGen.Proofs.Run.Literals
import ClientGen.Proofs.Command.WriteFiles
import ClientGen.Proofs.Emitter.Balance
import ClientGen.Proofs.Emitter.CommentText
import ClientGen.Proofs.Command.Year
import ClientGen.Proofs.Proto.Typing
import ClientGen.Proofs.Proto.Settings
import ClientGen.Proofs.Proto.Types
import ClientGen.Proofs.Proto.OptionTypes
import ClientGen.Proofs.Proto.Rule
import ClientGen.Proofs.Run.Retries
