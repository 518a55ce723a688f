import ApiScribe.Dialect.Basic
import ApiScribe.Dialect.CSharp
import ApiScribe.Dialect.Java
import ApiScribe.Dialect.TypeScript
import ApiScribe.Generate.Emit
import ApiScribe.Generate.Error
import ApiScribe.Generate.Family
import ApiScribe.Generate.Language
import ApiScribe.Generate.Settings
import ApiScribe.Generate.Spelling
import ApiScribe.Json.Basic
import ApiScribe.Json.Parser
import ApiScribe.Json.Printer
import ApiScribe.Json.Record
import ApiScribe.Model.Build
import ApiScribe.Model.Codec
import ApiScribe.Model.Member
import ApiScribe.Model.Tree
import ApiScribe.Model.Type
import ApiScribe.Number.Binary64
import ApiScribe.Number.Shortest
import ApiScribe.Order.FoldedMap
import ApiScribe.Order.KeyedList
import ApiScribe.Order.StableSort
import ApiScribe.Plan.Accessor
import ApiScribe.Plan.Body
import ApiScribe.Plan.Constructor
import ApiScribe.Plan.Declaration
import ApiScribe.Plan.Exchange
import ApiScribe.Plan.Request
import ApiScribe.Plan.Signature
import ApiScribe.Plan.Site
import ApiScribe.Proofs.Dialect.CSharp
import ApiScribe.Proofs.Dialect.Java
import ApiScribe.Proofs.Dialect.Members
import ApiScribe.Proofs.Dialect.Shape
import ApiScribe.Proofs.Dialect.TypeScript
import ApiScribe.Proofs.Generate.AllOrNothing
import ApiScribe.Proofs.Generate.AssignedFields
import ApiScribe.Proofs.Generate.Clashes
import ApiScribe.Proofs.Generate.ClassText
import ApiScribe.Proofs.Generate.ConstructorActs
import ApiScribe.Proofs.Generate.Decoration
import ApiScribe.Proofs.Generate.Documentation
import ApiScribe.Proofs.Generate.ExchangeText
import ApiScribe.Proofs.Generate.FilePath
import ApiScribe.Proofs.Generate.Files
import ApiScribe.Proofs.Generate.FlagValues
import ApiScribe.Proofs.Generate.Imports
import ApiScribe.Proofs.Generate.Independence
import ApiScribe.Proofs.Generate.Layouts
import ApiScribe.Proofs.Generate.LinkCheck
import ApiScribe.Proofs.Generate.Literals
import ApiScribe.Proofs.Generate.MethodFault
import ApiScribe.Proofs.Generate.MethodParts
import ApiScribe.Proofs.Generate.ModulePath
import ApiScribe.Proofs.Generate.PropertyOrder
import ApiScribe.Proofs.Generate.ReadOnly
import ApiScribe.Proofs.Generate.Shape
import ApiScribe.Proofs.Json.Codec
import ApiScribe.Proofs.Json.ReadBack
import ApiScribe.Proofs.Model.Ancestry
import ApiScribe.Proofs.Model.Edits
import ApiScribe.Proofs.Model.Ownership
import ApiScribe.Proofs.Model.SaveLoad
import ApiScribe.Proofs.Model.Sight
import ApiScribe.Proofs.Model.Texts
import ApiScribe.Proofs.Model.Validity
import ApiScribe.Proofs.Order.History
import ApiScribe.Proofs.Order.Keyed
import ApiScribe.Proofs.Order.Stable
import ApiScribe.Proofs.Plan.Arguments
import ApiScribe.Proofs.Plan.Exchange
import ApiScribe.Proofs.Plan.Imports
import ApiScribe.Proofs.Plan.Marks
import ApiScribe.Proofs.Plan.Neutrality
import ApiScribe.Proofs.Plan.NoResult
import ApiScribe.Proofs.Plan.Outcome
import ApiScribe.Proofs.Plan.Reading
import ApiScribe.Proofs.Plan.Storage
import ApiScribe.Proofs.Request.Attach
import ApiScribe.Proofs.Request.Chain
import ApiScribe.Proofs.Request.DefaultHeaders
import ApiScribe.Proofs.Request.Document
import ApiScribe.Proofs.Request.FullQuery
import ApiScribe.Proofs.Request.NullParameters
import ApiScribe.Proofs.Source.Layout
import ApiScribe.Proofs.Source.Levels
import ApiScribe.Proofs.Source.Path
import ApiScribe.Proofs.Source.Relocation
import ApiScribe.Proofs.Source.Shape
import ApiScribe.Proofs.Text.Comment
import ApiScribe.Proofs.Text.LetterCase
import ApiScribe.Proofs.Text.Literal
import ApiScribe.Proofs.Text.Marks
import ApiScribe.Proofs.Text.Split
import ApiScribe.Request.Basic
import ApiScribe.Request.Error
import ApiScribe.Request.Handler
import ApiScribe.Request.Inspect
import ApiScribe.Request.MediaType
import ApiScribe.Request.Payload
import ApiScribe.Source.Page
import ApiScribe.Source.Path
import ApiScribe.Text.Alphanumeric
import ApiScribe.Text.Ascii
import ApiScribe.Text.Blank
import ApiScribe.Text.Composition
import ApiScribe.Text.Digits
import ApiScribe.Text.Direction
import ApiScribe.Text.Joining
import ApiScribe.Text.LetterCase
import ApiScribe.Text.Mark
import ApiScribe.Text.Printable
import ApiScribe.Text.Quoted
import ApiScribe.Text.Run
import ApiScribe.Text.Split
import ApiScribe.Text.Words
import ApiScribe.Toml.Parser
import ApiScribe.Toml.Quoted
import ApiScribe.Toml.Scalar
import ApiScribe.Toml.Sections
import ApiScribe.Toml.Value
import ApiScribe.Uri.Address
import ApiScribe.Uri.Basic
import ApiScribe.Uri.Domain
import ApiScribe.Uri.Error
import ApiScribe.Uri.File
import ApiScribe.Uri.Form
import ApiScribe.Uri.Host
import ApiScribe.Uri.Parser
import ApiScribe.Uri.Path
import ApiScribe.Uri.Percent
import ApiScribe.Uri.Punycode
import ApiScribe.Uri.Repertoire
import ApiScribe.Wire.Guid
import ApiScribe.Wire.Timestamp
