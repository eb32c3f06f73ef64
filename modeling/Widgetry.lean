import Widgetry.About
import Widgetry.Android.Composable
import Widgetry.Android.Files
import Widgetry.Android.Imports
import Widgetry.Android.Modifier
import Widgetry.Bag
import Widgetry.Cli.Arguments
import Widgetry.Cli.Commands
import Widgetry.Cli.Session
import Widgetry.Code.Basic
import Widgetry.Code.Identifier
import Widgetry.Code.Phrase
import Widgetry.Colour
import Widgetry.Compile
import Widgetry.Config.Basic
import Widgetry.Decimal.Double
import Widgetry.Decimal.Numeral
import Widgetry.Decimal.Reading
import Widgetry.Decimal.Shortest
import Widgetry.Error
import Widgetry.Files.Disk
import Widgetry.Files.Path
import Widgetry.Generate
import Widgetry.Ios.Activity
import Widgetry.Ios.Bundle
import Widgetry.Ios.Files
import Widgetry.Ios.View
import Widgetry.Json.Basic
import Widgetry.Json.Printer
import Widgetry.Json.Reader
import Widgetry.Literal.Basic
import Widgetry.Literal.Operators
import Widgetry.Literal.Scope
import Widgetry.Main
import Widgetry.Markup.Activity
import Widgetry.Markup.Build
import Widgetry.Markup.Builder
import Widgetry.Markup.Finder
import Widgetry.Markup.Given
import Widgetry.Markup.Search
import Widgetry.Markup.Tag
import Widgetry.Markup.Text
import Widgetry.Node.Basic
import Widgetry.Node.Digest
import Widgetry.Node.Layout
import Widgetry.Project.Artifacts
import Widgetry.Project.Compile
import Widgetry.Project.Discovery
import Widgetry.Project.Options
import Widgetry.Root.Basic
import Widgetry.Root.Decoder
import Widgetry.Root.Decoding
import Widgetry.Root.Encoding
import Widgetry.Root.Validation
import Widgetry.Source.Comment
import Widgetry.Source.Cursor
import Widgetry.Source.Dialect
import Widgetry.Source.Fold
import Widgetry.Source.Form
import Widgetry.Source.Grammar.Basic
import Widgetry.Source.Grammar.Classes
import Widgetry.Source.Grammar.Commas
import Widgetry.Source.Grammar.Declarations
import Widgetry.Source.Grammar.Expressions
import Widgetry.Source.Grammar.Functions
import Widgetry.Source.Grammar.Markup
import Widgetry.Source.Grammar.Modifiers
import Widgetry.Source.Grammar.Modules
import Widgetry.Source.Grammar.Parameters
import Widgetry.Source.Grammar.Primary
import Widgetry.Source.Grammar.Statements
import Widgetry.Source.Grammar.Types
import Widgetry.Source.Parse
import Widgetry.Source.Token.Basic
import Widgetry.Source.Token.Lexer
import Widgetry.Source.Token.Numeric
import Widgetry.Source.Token.Quoted
import Widgetry.Source.Token.Trivia
import Widgetry.Source.Tree
import Widgetry.Spelling
import Widgetry.Style.Basic
import Widgetry.Style.Box
import Widgetry.Text.Blank
import Widgetry.Text.Case
import Widgetry.Text.Hex
import Widgetry.Text.Letters
import Widgetry.Text.Quoted
import Widgetry.Text.Ranges
import Widgetry.Toml.Reader
import Widgetry.Toml.Scalar
import Widgetry.Toml.Table
import Widgetry.Proofs.Decimal.Whole
import Widgetry.Proofs.Json.Numbers
import Widgetry.Proofs.Json.RoundTrip
import Widgetry.Proofs.Source.Substitution
import Widgetry.Proofs.Source.Extension
import Widgetry.Proofs.Bag.Sorted
import Widgetry.Proofs.Json.Proper
import Widgetry.Proofs.Root.Records
import Widgetry.Proofs.Root.Tidy
import Widgetry.Proofs.Root.Decoding
import Widgetry.Proofs.Root.Validity
import Widgetry.Proofs.Root.RoundTrip
import Widgetry.Proofs.Literal.Proper
import Widgetry.Proofs.Markup.Proper
import Widgetry.Proofs.Markup.Declarations
import Widgetry.Proofs.Markup.Restoring
import Widgetry.Proofs.Markup.Children
import Widgetry.Proofs.Markup.Attributes
import Widgetry.Proofs.Compile.RoundTrip
import Widgetry.Proofs.Generate.Tidied
import Widgetry.Proofs.Generate.Fields
import Widgetry.Proofs.Generate.Reloaded
import Widgetry.Proofs.Code.Lexing
import Widgetry.Proofs.Code.Whole
import Widgetry.Proofs.Code.Reading
import Widgetry.Proofs.Ios.Whole
import Widgetry.Proofs.Android.Whole
import Widgetry.Proofs.Generate.Brackets
import Widgetry.Proofs.Generate.Shape
import Widgetry.Proofs.Project.Ids
import Widgetry.Proofs.Files.Paths
import Widgetry.Proofs.Files.Writing
import Widgetry.Proofs.Project.Writing
import Widgetry.Proofs.Generate.Paths
import Widgetry.Proofs.Code.Numbers
import Widgetry.Proofs.Decimal.Finite
import Widgetry.Proofs.Node.Numbers
import Widgetry.Proofs.Root.Numbers
import Widgetry.Proofs.Generate.Numbers
import Widgetry.Proofs.Style.Normalizing
import Widgetry.Proofs.Root.Sites
import Widgetry.Proofs.Root.Violations
import Widgetry.Proofs.Files.Folders
import Widgetry.Proofs.Project.Deeds
import Widgetry.Proofs.Project.Artifacts
import Widgetry.Proofs.Project.Sources
import Widgetry.Proofs.Cli.Sessions
import Widgetry.Proofs.Cli.Rebuilding
import Widgetry.Proofs.Code.Literals
import Widgetry.Proofs.Source.Comments
import Widgetry.Proofs.Markup.Search
import Widgetry.Proofs.Code.Names
import Widgetry.Proofs.Android.Context
import Widgetry.Proofs.Markup.Text
import Widgetry.Proofs.Node.Shape
import Widgetry.Proofs.Project.Discovery
import Widgetry.Proofs.Root.Unknown
import Widgetry.Proofs.Literal.Order
import Widgetry.Markup.Draft
import Widgetry.Proofs.Colour.Hex
import Widgetry.Proofs.Style.Merging
import Widgetry.Proofs.Markup.Activity
