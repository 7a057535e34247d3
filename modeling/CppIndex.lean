import CppIndex.Command.Arguments
import CppIndex.Command.Run
import CppIndex.Config
import CppIndex.Cursor.Basic
import CppIndex.Cursor.Lexeme
import CppIndex.Declaration.Anchor
import CppIndex.Declaration.Basic
import CppIndex.Declaration.Parse
import CppIndex.Declaration.Render
import CppIndex.Declaration.RoundTrip
import CppIndex.Expr.Anchor
import CppIndex.Expr.Basic
import CppIndex.Expr.Parse
import CppIndex.Expr.Render
import CppIndex.Expr.Scope
import CppIndex.Index.Anchors
import CppIndex.Index.Basic
import CppIndex.Index.Context
import CppIndex.Index.Registry
import CppIndex.Index.Resolve
import CppIndex.Json.Basic
import CppIndex.Json.Report
import CppIndex.Link
import CppIndex.Main
import CppIndex.ParseError
import CppIndex.Project.Build
import CppIndex.Project.Manifest
import CppIndex.Project.Settings
import CppIndex.Signature
import CppIndex.Span
import CppIndex.Text.Blank
import CppIndex.Text.Leading
import CppIndex.Text.Printable
import CppIndex.Text.Quoted
import CppIndex.Text.WordChar
import CppIndex.Toml.Decode
import CppIndex.Toml.Document
import CppIndex.Toml.Moment
import CppIndex.Toml.Scalar
import CppIndex.Toml.Value
import CppIndex.Proofs.Cursor.Lexeme
import CppIndex.Proofs.Cursor.Operator
import CppIndex.Proofs.Cursor.Reading
import CppIndex.Proofs.Cursor.Repeated
import CppIndex.Proofs.Declaration.Exact
import CppIndex.Proofs.Declaration.Plain
import CppIndex.Proofs.Declaration.ReadBack
import CppIndex.Proofs.Declaration.Reads
import CppIndex.Proofs.Declaration.Stands
import CppIndex.Proofs.Declaration.Weight
import CppIndex.Proofs.Declaration.Words
import CppIndex.Proofs.Expr.Chars
import CppIndex.Proofs.Expr.Closing
import CppIndex.Proofs.Expr.Exact
import CppIndex.Proofs.Expr.ExactFront
import CppIndex.Proofs.Expr.ExactName
import CppIndex.Proofs.Expr.ExactPair
import CppIndex.Proofs.Expr.Form
import CppIndex.Proofs.Expr.Front
import CppIndex.Proofs.Expr.Named
import CppIndex.Proofs.Expr.Opening
import CppIndex.Proofs.Expr.Plain
import CppIndex.Proofs.Expr.ReadBack
import CppIndex.Proofs.Expr.Reads
import CppIndex.Proofs.Expr.Run
import CppIndex.Proofs.Expr.Stands
import CppIndex.Proofs.Expr.Step
import CppIndex.Proofs.Expr.Weight
import CppIndex.Proofs.Index.Balance
import CppIndex.Proofs.Index.History
import CppIndex.Proofs.Index.Log
import CppIndex.Proofs.Index.Ownership
import CppIndex.Proofs.Index.Registry
import CppIndex.Proofs.Index.Resolve
import CppIndex.Proofs.Index.Run
import CppIndex.Proofs.Link
import CppIndex.Proofs.Project.Reference
import CppIndex.Proofs.Project.Run
import CppIndex.Proofs.Project.Session
import CppIndex.Proofs.Text.Bound
import CppIndex.Proofs.Text.ByteOrder
import CppIndex.Proofs.Text.Default
import CppIndex.Proofs.Text.Seam
import CppIndex.Proofs.Text.Sign
import CppIndex.Proofs.Text.Weight
import CppIndex.Proofs.Index.Describing
import CppIndex.Proofs.Project.Document
import CppIndex.Proofs.Project.Rebuild
import CppIndex.Proofs.Project.Order
import CppIndex.Proofs.Expr.Qualify
import CppIndex.Proofs.Index.Candidates
import CppIndex.Proofs.Cursor.Leads
import CppIndex.Proofs.Expr.Leads
import CppIndex.Proofs.Expr.PlainText
import CppIndex.Proofs.Expr.Written
import CppIndex.Proofs.Index.Qualified
import CppIndex.Proofs.Cursor.Place
import CppIndex.Proofs.Expr.Advances
import CppIndex.Proofs.Index.Declared
import CppIndex.Proofs.Text.Trim
import CppIndex.Proofs.Expr.Outcome
import CppIndex.Proofs.Declaration.Outcome
import CppIndex.Proofs.Declaration.Requests
import CppIndex.Proofs.Text.Layout
import CppIndex.Proofs.Expr.Lossless
import CppIndex.Proofs.Cursor.Alike
import CppIndex.Proofs.Expr.Layout
import CppIndex.Proofs.Project.Appended
import CppIndex.Proofs.Command.Resolve
import CppIndex.Proofs.Project.Rejected
import CppIndex.Proofs.Expr.Bounds
import CppIndex.Proofs.Text.Pair
import CppIndex.Proofs.Declaration.Exprs
import CppIndex.Proofs.Declaration.Bounds
import CppIndex.Proofs.Text.Nesting
import CppIndex.Proofs.Declaration.Default
import CppIndex.Proofs.Declaration.WellFormed
import CppIndex.Proofs.Expr.LinkSafe
import CppIndex.Proofs.Expr.ScopeLaws
import CppIndex.Proofs.Index.LinkSafe
import CppIndex.Proofs.Signature
import CppIndex.Proofs.Link.Implicit
import CppIndex.Proofs.Project.Places
import CppIndex.Proofs.Project.Told
import CppIndex.Proofs.Project.Faults
import CppIndex.Proofs.Project.Accounting
import CppIndex.Proofs.Project.Refilled
import CppIndex.Proofs.Project.Checked
import CppIndex.Proofs.Expr.Ahead
import CppIndex.Proofs.Expr.ConstSide
import CppIndex.Proofs.Expr.ImplicitInt
