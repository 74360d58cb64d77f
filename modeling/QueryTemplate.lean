import QueryTemplate.Bindings
import QueryTemplate.Clause
import QueryTemplate.Decimal.NumberFormat
import QueryTemplate.Decimal.Shortest
import QueryTemplate.Directive
import QueryTemplate.DocComment
import QueryTemplate.Host.CodeToken
import QueryTemplate.Host.Expr
import QueryTemplate.Host.Expr.Writing
import QueryTemplate.Host.Grammar
import QueryTemplate.Host.Grammar.Expr
import QueryTemplate.Host.Grammar.Pattern
import QueryTemplate.Host.Grammar.Type
import QueryTemplate.Host.Lexeme
import QueryTemplate.Host.Literal
import QueryTemplate.Host.Precedence
import QueryTemplate.Host.Reader
import QueryTemplate.Host.Syntax
import QueryTemplate.Instr
import QueryTemplate.Instr.Jumps
import QueryTemplate.LoopHeader
import QueryTemplate.Placeholder
import QueryTemplate.Program
import QueryTemplate.Render
import QueryTemplate.Report
import QueryTemplate.Settings
import QueryTemplate.SyntaxError
import QueryTemplate.Target.CodeError
import QueryTemplate.Target.GoMethod
import QueryTemplate.Target.GoSource
import QueryTemplate.Target.Layout
import QueryTemplate.Target.RustBlock
import QueryTemplate.Template
import QueryTemplate.Text.Blank
import QueryTemplate.Text.Category
import QueryTemplate.Text.CharClass
import QueryTemplate.Text.Escape
import QueryTemplate.Text.Split
import QueryTemplate.Token
import QueryTemplate.Tree
import QueryTemplate.Tree.Builder
import QueryTemplate.Value
import QueryTemplate.Proofs.Execution
import QueryTemplate.Proofs.Evaluation
import QueryTemplate.Proofs.Grammar
import QueryTemplate.Proofs.Alignment
import QueryTemplate.Proofs.Independence
import QueryTemplate.Proofs.BindOrder
import QueryTemplate.Proofs.Cutting
import QueryTemplate.Proofs.Scanning
import QueryTemplate.Proofs.Places
import QueryTemplate.Proofs.Joining
import QueryTemplate.Proofs.Printing
import QueryTemplate.Proofs.Sheets
import QueryTemplate.Proofs.Separation
import QueryTemplate.Proofs.Balance
import QueryTemplate.Proofs.Levels
import QueryTemplate.Proofs.Sessions
import QueryTemplate.Proofs.Machine
import QueryTemplate.Proofs.Lockstep
import QueryTemplate.Proofs.Translation
import QueryTemplate.Proofs.Indentation
import QueryTemplate.Proofs.Finishing
import QueryTemplate.Proofs.GoRun
import QueryTemplate.Proofs.Splicing
import QueryTemplate.Proofs.Filtering
import QueryTemplate.Proofs.Extraction
import QueryTemplate.Proofs.Estimates
import QueryTemplate.Proofs.Escaping
import QueryTemplate.Proofs.Tiling
import QueryTemplate.Proofs.Canonical
import QueryTemplate.Proofs.Sufficiency
import QueryTemplate.Proofs.Shadowing
import QueryTemplate.Proofs.Quoting
import QueryTemplate.Proofs.Pointing
import QueryTemplate.Proofs.Matching
import QueryTemplate.Proofs.Imports
import QueryTemplate.Proofs.Headers
import QueryTemplate.Proofs.Unquoting
