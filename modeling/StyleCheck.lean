import StyleCheck.Bracket.Inside
import StyleCheck.Bracket.Match
import StyleCheck.Bracket.Scan
import StyleCheck.Category
import StyleCheck.Check.File
import StyleCheck.Check.Line
import StyleCheck.Check.Run
import StyleCheck.CommandLine.Run
import StyleCheck.CommandLine.Survey
import StyleCheck.CommandLine.Switch
import StyleCheck.CommandLine.Usage
import StyleCheck.Configuration
import StyleCheck.Failure
import StyleCheck.FileTree
import StyleCheck.Filter
import StyleCheck.Finding
import StyleCheck.FromEnd
import StyleCheck.HeaderGuard.Check
import StyleCheck.HeaderGuard.Name
import StyleCheck.Include.Kind
import StyleCheck.Include.Line
import StyleCheck.Include.Module
import StyleCheck.Include.OwnHeader
import StyleCheck.Include.Required
import StyleCheck.Include.Table
import StyleCheck.Main
import StyleCheck.Nesting.Block
import StyleCheck.Nesting.BlockEnd
import StyleCheck.Nesting.State
import StyleCheck.Nesting.Template
import StyleCheck.Nesting.Update
import StyleCheck.Path
import StyleCheck.Pattern.Basic
import StyleCheck.Pattern.CharSet
import StyleCheck.Pattern.Reader
import StyleCheck.Pattern.Run
import StyleCheck.Pattern.Search
import StyleCheck.Pattern.Token
import StyleCheck.Proofs.Bracket.Pairing
import StyleCheck.Proofs.Check.BadCharacters
import StyleCheck.Proofs.Check.Closing
import StyleCheck.Proofs.Check.Completion
import StyleCheck.Proofs.Check.Silenced
import StyleCheck.Proofs.Check.WellFormed
import StyleCheck.Proofs.CommandLine.Order
import StyleCheck.Proofs.Configuration.Override
import StyleCheck.Proofs.Include.Missing
import StyleCheck.Proofs.Include.Needed
import StyleCheck.Proofs.Nesting.Blocks
import StyleCheck.Proofs.Nesting.Conditional
import StyleCheck.Proofs.Nesting.Split
import StyleCheck.Proofs.Rule.TypeName
import StyleCheck.Proofs.Run.ExitCode
import StyleCheck.Proofs.Run.Independence
import StyleCheck.Proofs.Run.Tally
import StyleCheck.Proofs.Run.Transcript
import StyleCheck.Proofs.Source.IncludeView
import StyleCheck.Proofs.Source.StringLiteral
import StyleCheck.Repository
import StyleCheck.Rule.AltTokens
import StyleCheck.Rule.Assertion
import StyleCheck.Rule.BraceSpacing
import StyleCheck.Rule.Braces
import StyleCheck.Rule.CallSpacing
import StyleCheck.Rule.Casts
import StyleCheck.Rule.CommentStyle
import StyleCheck.Rule.EmptyBody
import StyleCheck.Rule.Features
import StyleCheck.Rule.FunctionLength
import StyleCheck.Rule.GlobalString
import StyleCheck.Rule.Inheritance
import StyleCheck.Rule.Language
import StyleCheck.Rule.LineShape
import StyleCheck.Rule.Misuse
import StyleCheck.Rule.Multiline
import StyleCheck.Rule.NamespaceIndent
import StyleCheck.Rule.Nonstandard
import StyleCheck.Rule.OperatorSpacing
import StyleCheck.Rule.ParenSpacing
import StyleCheck.Rule.Printf
import StyleCheck.Rule.References
import StyleCheck.Rule.SectionSpacing
import StyleCheck.Rule.Spacing
import StyleCheck.Rule.TrailingSemicolon
import StyleCheck.Rule.TypeName
import StyleCheck.Rule.WholeFile
import StyleCheck.Session
import StyleCheck.Settings
import StyleCheck.Source.Comment
import StyleCheck.Source.Directive
import StyleCheck.Source.Lines
import StyleCheck.Source.Literal
import StyleCheck.Source.RawString
import StyleCheck.Suppression
import StyleCheck.Text.Basic
import StyleCheck.Text.Blank
import StyleCheck.Text.CodePoints
import StyleCheck.Text.CombiningClass
import StyleCheck.Text.Composed
import StyleCheck.Text.Decomposition
import StyleCheck.Text.Digit
import StyleCheck.Text.Integer
import StyleCheck.Text.LineBreak
import StyleCheck.Text.Lowercase
import StyleCheck.Text.Printable
import StyleCheck.Text.Quoted
import StyleCheck.Text.Utf8
import StyleCheck.Text.Wide
import StyleCheck.Text.Width
import StyleCheck.Text.WordChar
import StyleCheck.Proofs.Source.RawBody
import StyleCheck.Proofs.Check.Surroundings
import StyleCheck.Proofs.Run.LineEndings
import StyleCheck.Proofs.Source.Collapsing
import StyleCheck.Proofs.Source.QuoteParity
import StyleCheck.Proofs.Source.LineComment
import StyleCheck.Proofs.Source.RawSettled
import StyleCheck.Proofs.Source.Unclosed
import StyleCheck.Proofs.Source.CommentEnd
import StyleCheck.Proofs.Check.UnclosedLine
import StyleCheck.Proofs.Bracket.Angle
import StyleCheck.Proofs.Bracket.Enclosed
import StyleCheck.Proofs.Bracket.Inside
import StyleCheck.Proofs.Include.Distinct
import StyleCheck.Proofs.Include.Sections
import StyleCheck.Proofs.Include.LastUse
import StyleCheck.Proofs.Path.Above
import StyleCheck.Proofs.Repository.Root
import StyleCheck.Proofs.HeaderGuard.Accepted
import StyleCheck.Proofs.HeaderGuard.CheckoutPlace
import StyleCheck.Proofs.Path.Components
import StyleCheck.Proofs.Repository.Climb
import StyleCheck.Proofs.HeaderGuard.BelowRoot
import StyleCheck.Proofs.Configuration.LineOrder
import StyleCheck.Proofs.Include.SharedName
import StyleCheck.Proofs.Filter.LeftBehind
import StyleCheck.Proofs.Pattern.Taken
import StyleCheck.Proofs.Rule.BareStatement
import StyleCheck.Proofs.Nesting.ClassEnd
import StyleCheck.Proofs.Source.CutLiteral
import StyleCheck.Proofs.Source.CutRawString
import StyleCheck.Proofs.Source.CutComment
import StyleCheck.Proofs.Source.ShownBracket
import StyleCheck.Proofs.Rule.IdleBody
import StyleCheck.Proofs.Nesting.TemplateRounds
import StyleCheck.Proofs.Rule.LengthLevels
import StyleCheck.Proofs.Pattern.Group
import StyleCheck.Proofs.Rule.AssertionTurns
import StyleCheck.Proofs.Rule.Masking
import StyleCheck.Proofs.Rule.SingleComparison
import StyleCheck.Proofs.Bracket.FromEnd
