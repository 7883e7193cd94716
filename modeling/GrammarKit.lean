import GrammarKit.CommandLine.Arguments
import GrammarKit.CommandLine.LogFilter
import GrammarKit.CommandLine.Outcome
import GrammarKit.Count
import GrammarKit.Count.Key
import GrammarKit.Decimal
import GrammarKit.Decimal.Binary64
import GrammarKit.Decimal.Shortest
import GrammarKit.Description
import GrammarKit.Description.Format
import GrammarKit.Description.Json
import GrammarKit.Description.Toml
import GrammarKit.Directory
import GrammarKit.Engine
import GrammarKit.Entry
import GrammarKit.Error
import GrammarKit.Grammar
import GrammarKit.GrammarFile
import GrammarKit.Json.Decoder
import GrammarKit.Json.Reader
import GrammarKit.Json.Value
import GrammarKit.Lexer
import GrammarKit.Log
import GrammarKit.Main
import GrammarKit.Matcher
import GrammarKit.Pattern.Assembly
import GrammarKit.Pattern.Bracket
import GrammarKit.Pattern.Escape
import GrammarKit.Pattern.Flags
import GrammarKit.Pattern.Look
import GrammarKit.Pattern.Program
import GrammarKit.Pattern.Regex
import GrammarKit.Pattern.Search
import GrammarKit.Pattern.Spacing
import GrammarKit.Pattern.Tree
import GrammarKit.Proofs.Rule.SmallestWindow
import GrammarKit.Proofs.Engine.Pass
import GrammarKit.Proofs.Engine.Yield
import GrammarKit.Proofs.Lexer.Tiling
import GrammarKit.Proofs.Text.Reading
import GrammarKit.Proofs.Text.Stretch
import GrammarKit.Report
import GrammarKit.Rule
import GrammarKit.Rule.Window
import GrammarKit.Span
import GrammarKit.Text.Blank
import GrammarKit.Text.ByteLength
import GrammarKit.Text.Padding
import GrammarKit.Text.Quoted
import GrammarKit.Text.Reader
import GrammarKit.Token
import GrammarKit.TokenMatcher
import GrammarKit.Toml.Document
import GrammarKit.Toml.Scalar
import GrammarKit.Toml.StringForm
import GrammarKit.Toml.StringReader
import GrammarKit.Toml.Value
import GrammarKit.Unicode.Age
import GrammarKit.Unicode.BinaryProperty
import GrammarKit.Unicode.CaseFolding
import GrammarKit.Unicode.CharSet
import GrammarKit.Unicode.GeneralCategory
import GrammarKit.Unicode.Property
import GrammarKit.Unicode.PropertyRow
import GrammarKit.Unicode.Script
import GrammarKit.Unicode.ScriptExtensions
import GrammarKit.Unicode.TextBreak
import GrammarKit.Proofs.Json.Reading
import GrammarKit.Proofs.Description.Json
import GrammarKit.Proofs.Toml.Lines
import GrammarKit.Proofs.Description.Toml
import GrammarKit.Proofs.Grammar.History
import GrammarKit.Proofs.Pattern.Anchoring
import GrammarKit.Proofs.Lexer.Cursor
import GrammarKit.Proofs.Pattern.EnclosedSigns
import GrammarKit.Proofs.Pattern.Wrapping
import GrammarKit.Proofs.Pattern.Numbering
import GrammarKit.Proofs.Pattern.Transparency
import GrammarKit.Proofs.Lexer.FirstMatch
import GrammarKit.Proofs.Grammar.Loading
import GrammarKit.Proofs.Engine.Placement
import GrammarKit.Proofs.Engine.Nesting
import GrammarKit.Proofs.Grammar.Provenance
import GrammarKit.Proofs.Block.Forest
import GrammarKit.Proofs.Block.Parsing
import GrammarKit.Proofs.Description.Stored
import GrammarKit.Proofs.CommandLine.Checking
import GrammarKit.Proofs.CommandLine.Converting
import GrammarKit.Proofs.CommandLine.Counting
import GrammarKit.Proofs.Files.Places
import GrammarKit.Proofs.Files.Keeping
import GrammarKit.Proofs.Engine.Calls
import GrammarKit.Proofs.Lexer.Resumption
import GrammarKit.Proofs.Engine.Lockstep
import GrammarKit.Proofs.Engine.Progress
import GrammarKit.Proofs.Engine.Repetition
import GrammarKit.Proofs.Engine.Size
import GrammarKit.Proofs.Lexer.Extension
import GrammarKit.Proofs.Json.Skipping
import GrammarKit.Proofs.Json.Written
import GrammarKit.Proofs.Token.Listing
import GrammarKit.Proofs.Json.Deciding
import GrammarKit.Proofs.Json.Fields
import GrammarKit.Proofs.Description.Spelling
import GrammarKit.Proofs.Pattern.Refusing
import GrammarKit.Proofs.Pattern.RefusedSigns
import GrammarKit.Proofs.Pattern.Acceptance
