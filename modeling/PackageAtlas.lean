import PackageAtlas.Decimal.Ratio
import PackageAtlas.Declaration.Cache
import PackageAtlas.Declaration.Extract
import PackageAtlas.Declaration.Index
import PackageAtlas.Declaration.Kind
import PackageAtlas.Declaration.Language
import PackageAtlas.Digest.Xxh3
import PackageAtlas.Docs.Replica
import PackageAtlas.FileSystem.Basic
import PackageAtlas.FileSystem.Canonical
import PackageAtlas.FileSystem.Change
import PackageAtlas.FileSystem.Filter
import PackageAtlas.FileSystem.Path
import PackageAtlas.FileSystem.Walk
import PackageAtlas.Package.Inside
import PackageAtlas.Package.Project
import PackageAtlas.Package.Registry
import PackageAtlas.Package.Value
import PackageAtlas.Pattern.Atom
import PackageAtlas.Pattern.CharTest
import PackageAtlas.Pattern.Error
import PackageAtlas.Pattern.Expr
import PackageAtlas.Pattern.Match
import PackageAtlas.Pattern.Plan
import PackageAtlas.Pattern.Reader
import PackageAtlas.Pattern.Regex
import PackageAtlas.Pattern.Source
import PackageAtlas.Search.Hit
import PackageAtlas.Search.Scan
import PackageAtlas.Server
import PackageAtlas.Settings
import PackageAtlas.Source.Window
import PackageAtlas.Syntax.Automaton
import PackageAtlas.Syntax.Compose
import PackageAtlas.Syntax.Grammar
import PackageAtlas.Syntax.Grammar.Declarations
import PackageAtlas.Syntax.Grammar.Elements
import PackageAtlas.Syntax.Grammar.Expressions
import PackageAtlas.Syntax.Grammar.Functions
import PackageAtlas.Syntax.Grammar.Literals
import PackageAtlas.Syntax.Grammar.Modules
import PackageAtlas.Syntax.Grammar.Operators
import PackageAtlas.Syntax.Grammar.Statements
import PackageAtlas.Syntax.Grammar.Types
import PackageAtlas.Syntax.Lexeme
import PackageAtlas.Syntax.LineEnd
import PackageAtlas.Syntax.Lookahead
import PackageAtlas.Syntax.Node
import PackageAtlas.Syntax.Piece
import PackageAtlas.Syntax.Production
import PackageAtlas.Syntax.Recovery
import PackageAtlas.Syntax.Rivals
import PackageAtlas.Syntax.Rule
import PackageAtlas.Syntax.Run
import PackageAtlas.Syntax.Scanner
import PackageAtlas.Syntax.Source
import PackageAtlas.Syntax.Stack
import PackageAtlas.Syntax.Tables
import PackageAtlas.Syntax.Tree
import PackageAtlas.Text.Case
import PackageAtlas.Text.Classes
import PackageAtlas.Text.CodePoints
import PackageAtlas.Text.Integer
import PackageAtlas.Text.Lines
import PackageAtlas.Text.Names
import PackageAtlas.Text.Names.Alphabets
import PackageAtlas.Text.Names.Ancient
import PackageAtlas.Text.Names.Notations
import PackageAtlas.Text.Names.Pictures
import PackageAtlas.Text.Names.Syllabaries
import PackageAtlas.Text.Names.Symbols
import PackageAtlas.Text.Quoted
import PackageAtlas.Text.Utf8
import PackageAtlas.Text.Wide
import PackageAtlas.Tool.Answer
import PackageAtlas.Tool.Argument
import PackageAtlas.Tool.Call
import PackageAtlas.Tool.Failure
import PackageAtlas.Tool.Range
import PackageAtlas.Tool.Run
import PackageAtlas.Tool.Session
import PackageAtlas.Tool.Signature
import PackageAtlas.Proofs.Path.Normal
import PackageAtlas.Proofs.Package.Inside
import PackageAtlas.Proofs.Tool.Action
import PackageAtlas.Proofs.Tool.Steps
import PackageAtlas.Proofs.Tool.Containment
import PackageAtlas.Proofs.FileSystem.Lookup
import PackageAtlas.Proofs.FileSystem.Canonical
import PackageAtlas.Proofs.Declaration.Index
import PackageAtlas.Proofs.Package.Registry
import PackageAtlas.Proofs.Tool.Transparency
import PackageAtlas.Proofs.Tool.IndexRuns
import PackageAtlas.Proofs.Source.Window
import PackageAtlas.Proofs.Tool.RoundTrip
import PackageAtlas.Proofs.FileSystem.Changes
import PackageAtlas.Proofs.Declaration.Preorder
import PackageAtlas.Proofs.FileSystem.Growth
import PackageAtlas.Proofs.Docs.Copies
import PackageAtlas.Proofs.FileSystem.Frame
import PackageAtlas.Proofs.FileSystem.Inside
import PackageAtlas.Proofs.Package.Frame
import PackageAtlas.Proofs.Docs.Reports
import PackageAtlas.Proofs.Docs.Fill
import PackageAtlas.Proofs.Tool.DocsTransparency
import PackageAtlas.Proofs.Search.Hits
import PackageAtlas.Proofs.Text.Case
import PackageAtlas.Proofs.Tool.ReadBack
import PackageAtlas.Proofs.Package.Catalogue
import PackageAtlas.Proofs.Tool.Naming
import PackageAtlas.Proofs.Tool.Addressing
import PackageAtlas.Proofs.Path.Parts
import PackageAtlas.Proofs.FileSystem.Ways
import PackageAtlas.Proofs.Docs.Places
import PackageAtlas.Proofs.Tool.ReadOnly
import PackageAtlas.Proofs.Settings
import PackageAtlas.Proofs.Text.Lines
import PackageAtlas.Proofs.Tool.Overlooks
import PackageAtlas.Proofs.Tool.Ceilings
import PackageAtlas.Proofs.Tool.IndexEffects
import PackageAtlas.Proofs.Tool.FailedBuilds
import PackageAtlas.Proofs.Package.Texts
import PackageAtlas.Proofs.Docs.Separation
import PackageAtlas.Proofs.FileSystem.Listing
import PackageAtlas.Proofs.FileSystem.WalkOrder
import PackageAtlas.Proofs.Declaration.Concatenation
import PackageAtlas.Proofs.Package.Discovery
import PackageAtlas.Proofs.Search.FullScan
import PackageAtlas.Proofs.Tool.Hidden
import PackageAtlas.Proofs.Tool.Excerpts
import PackageAtlas.Proofs.Tool.Listing
import PackageAtlas.Proofs.Path.Ancestors
import PackageAtlas.Proofs.Package.Root
import PackageAtlas.Proofs.FileSystem.Clean
import PackageAtlas.Proofs.Docs.Selection
import PackageAtlas.Proofs.FileSystem.Directories
import PackageAtlas.Proofs.Docs.Refill
import PackageAtlas.Proofs.Text.Utf8
import PackageAtlas.Proofs.Text.Rows
import PackageAtlas.Proofs.Declaration.Rows
import PackageAtlas.Proofs.Declaration.Selection
import PackageAtlas.Proofs.Tool.SettingsRuns
