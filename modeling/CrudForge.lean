import CrudForge.Code.Block
import CrudForge.Code.Body
import CrudForge.Code.Json
import CrudForge.Command.Arguments
import CrudForge.Command.Error
import CrudForge.Command.Generate
import CrudForge.Command.Inspect
import CrudForge.Command.Run
import CrudForge.Command.Settings
import CrudForge.Command.ShowConfig
import CrudForge.Config.Basic
import CrudForge.Config.DotEnv
import CrudForge.Config.Environment
import CrudForge.Config.Error
import CrudForge.Config.Flatten
import CrudForge.Config.Load
import CrudForge.Config.Property
import CrudForge.Config.Section
import CrudForge.Config.Value
import CrudForge.Decimal.Layout
import CrudForge.Decimal.Read
import CrudForge.Decimal.Shortest
import CrudForge.Entity.Basic
import CrudForge.Entity.Json
import CrudForge.Entity.Metadata
import CrudForge.Files.Content
import CrudForge.Files.Host
import CrudForge.Files.Path
import CrudForge.Files.Tree
import CrudForge.Generation.Error
import CrudForge.Generation.Generator
import CrudForge.Generation.Methods
import CrudForge.Generation.Parameters
import CrudForge.Grammar.Expr
import CrudForge.Grammar.Item
import CrudForge.Grammar.Lexer
import CrudForge.Grammar.Literal
import CrudForge.Grammar.Pattern
import CrudForge.Grammar.Phrase
import CrudForge.Grammar.Recognize
import CrudForge.Grammar.Token
import CrudForge.Grammar.Type
import CrudForge.Json.Basic
import CrudForge.Json.Decode
import CrudForge.Json.Text
import CrudForge.Main
import CrudForge.Manifest.Basic
import CrudForge.Manifest.Error
import CrudForge.Manifest.Read
import CrudForge.Manifest.Resolve
import CrudForge.Naming.Basic
import CrudForge.Naming.Case
import CrudForge.Naming.Json
import CrudForge.Naming.Repeat
import CrudForge.Rendering.Body
import CrudForge.Rendering.Class
import CrudForge.Rendering.Error
import CrudForge.Rendering.Options
import CrudForge.Rendering.Target
import CrudForge.Service.Basic
import CrudForge.Service.Builder
import CrudForge.Service.Json
import CrudForge.Serving.Error
import CrudForge.Serving.Page
import CrudForge.Serving.Products
import CrudForge.Serving.Repository
import CrudForge.Serving.Response
import CrudForge.Serving.Service
import CrudForge.Serving.Table
import CrudForge.Serving.Users
import CrudForge.Text.Blank
import CrudForge.Text.Case
import CrudForge.Text.Case.Table
import CrudForge.Text.Class
import CrudForge.Text.Class.Table
import CrudForge.Text.Digit
import CrudForge.Text.Quoted
import CrudForge.Text.Run
import CrudForge.Text.Styled
import CrudForge.Yaml.Core
import CrudForge.Yaml.Cursor
import CrudForge.Yaml.Event
import CrudForge.Yaml.Node
import CrudForge.Yaml.Property
import CrudForge.Yaml.Scalar
import CrudForge.Yaml.Token
import CrudForge.Yaml.Tokens
import CrudForge.Yaml.Value
import CrudForge.Proofs.Naming.Repeat
import CrudForge.Proofs.Outcome
import CrudForge.Proofs.Code.Nesting
import CrudForge.Proofs.Service.Build
import CrudForge.Proofs.Generation.Bodies
import CrudForge.Proofs.Generation.Failure
import CrudForge.Proofs.Rendering.BodyAgreement
import CrudForge.Proofs.Rendering.Class
import CrudForge.Proofs.Grammar.Word
import CrudForge.Proofs.Grammar.Characters
import CrudForge.Proofs.Rendering.Functions
import CrudForge.Proofs.Command.World
import CrudForge.Proofs.Command.ModuleIndex
import CrudForge.Proofs.Command.Writing
import CrudForge.Proofs.Command.BareManifest
import CrudForge.Proofs.Command.OneFile
import CrudForge.Proofs.Rendering.BareService
import CrudForge.Proofs.Files.Tree
import CrudForge.Proofs.Files.Path
import CrudForge.Proofs.Files.Directory
import CrudForge.Proofs.Command.Ending
import CrudForge.Proofs.Command.Sparing
import CrudForge.Proofs.Serving.Table
import CrudForge.Proofs.Serving.Kept
import CrudForge.Proofs.Serving.Decoding
import CrudForge.Proofs.Serving.History
import CrudForge.Proofs.Serving.Pages
import CrudForge.Proofs.Serving.Listing
import CrudForge.Proofs.Config.Variables
import CrudForge.Proofs.Config.Layers
import CrudForge.Proofs.Json.RoundTrip
import CrudForge.Proofs.Manifest.Validity
import CrudForge.Proofs.Generation.Shape
import CrudForge.Proofs.Manifest.Wildcard
import CrudForge.Proofs.Grammar.Quoted
import CrudForge.Proofs.Grammar.Scanning
import CrudForge.Proofs.Grammar.Trees
import CrudForge.Proofs.Grammar.Reading
import CrudForge.Proofs.Grammar.Types
import CrudForge.Proofs.Grammar.Expressions
import CrudForge.Proofs.Grammar.Items
import CrudForge.Proofs.Rendering.Files
import CrudForge.Proofs.Rendering.PlainService
import CrudForge.Proofs.Generation.Scope
import CrudForge.Proofs.Generation.Conventions
import CrudForge.Proofs.Manifest.Order
import CrudForge.Proofs.Text.Split
import CrudForge.Proofs.Code.Pieces
import CrudForge.Proofs.Rendering.Failure
import CrudForge.Proofs.Config.Overrides
import CrudForge.Proofs.Command.Regeneration
import CrudForge.Proofs.Code.Derivation
import CrudForge.Proofs.Code.Blocks
import CrudForge.Proofs.Code.Levels
import CrudForge.Proofs.Rendering.Layout
import CrudForge.Proofs.Service.Steps
import CrudForge.Proofs.Text.Ascii
import CrudForge.Proofs.Config.Segments
import CrudForge.Proofs.Config.Paths
import CrudForge.Proofs.Decimal.Whole
import CrudForge.Proofs.Config.Texts
import CrudForge.Proofs.Config.Reading
import CrudForge.Proofs.Naming.SnakeCase
import CrudForge.Proofs.Rendering.TextArguments
