import TestDraft.Capture
import TestDraft.Declaration.Function
import TestDraft.Declaration.Item
import TestDraft.Draft
import TestDraft.Fragment
import TestDraft.Mocking.Facts
import TestDraft.Mocking.Ledger
import TestDraft.Mocking.Snippet
import TestDraft.Mocking.Symbol
import TestDraft.Mocking.Toolkit
import TestDraft.Mocking.Workbench
import TestDraft.Session.Basic
import TestDraft.Session.Run
import TestDraft.Settings.Basic
import TestDraft.Settings.Properties
import TestDraft.Settings.Run
import TestDraft.Settings.Word
import TestDraft.Signature.Fault
import TestDraft.Signature.Level
import TestDraft.Signature.Piece
import TestDraft.Signature.Read
import TestDraft.Table
import TestDraft.TestClass.Basic
import TestDraft.TestClass.Method
import TestDraft.TestClass.Output
import TestDraft.TestClass.Recipe
import TestDraft.Text.Blank
import TestDraft.Text.Commas
import TestDraft.Text.Line
import TestDraft.Text.Order
import TestDraft.Text.Printable
import TestDraft.Text.Quoted
import TestDraft.Text.Ranges
import TestDraft.Text.UpperCase
import TestDraft.TypeExpr.Basic
import TestDraft.TypeExpr.Text
import TestDraft.Value.Literal
import TestDraft.Value.Registry
import TestDraft.Proofs.Signature.Leads
import TestDraft.Proofs.Text.Order
import TestDraft.Proofs.Text.Trim
import TestDraft.Proofs.Signature.Blanks
import TestDraft.Proofs.Signature.Brackets
import TestDraft.Proofs.Signature.Names
import TestDraft.Proofs.Signature.Nesting
import TestDraft.Proofs.Signature.RoundTrip
import TestDraft.Proofs.Mocking.Notices
import TestDraft.Proofs.Session.Needs
import TestDraft.Proofs.TestClass.Layout
import TestDraft.Proofs.Session.Gathering
import TestDraft.Proofs.Session.History
import TestDraft.Proofs.Table
import TestDraft.Proofs.Session.Imports
import TestDraft.Proofs.Session.Leaks
import TestDraft.Proofs.Session.MockFields
import TestDraft.Proofs.Session.Abstracts
import TestDraft.Proofs.TestClass.Scopes
import TestDraft.Proofs.Text.Balance
import TestDraft.Proofs.Declaration.Balance
import TestDraft.Proofs.TestClass.Balance
import TestDraft.Proofs.Session.Balance
import TestDraft.Proofs.Signature.Forms
import TestDraft.Proofs.Signature.Losses
import TestDraft.Proofs.Signature.Unnamed
import TestDraft.Proofs.TypeExpr.Shown
import TestDraft.Proofs.TestClass.Columns
import TestDraft.Proofs.TestClass.Titles
import TestDraft.Proofs.Session.Backends
import TestDraft.Proofs.TestClass.Literals
import TestDraft.Proofs.Session.Resets
import TestDraft.Proofs.Mocking.Accumulation
import TestDraft.Proofs.Settings.LastWrite
import TestDraft.Proofs.TestClass.Locals
import TestDraft.Proofs.Session.ImportBlock
import TestDraft.Proofs.Signature.Cuts
import TestDraft.Proofs.Signature.Faults
import TestDraft.Proofs.TestClass.Entries
import TestDraft.Proofs.Session.Captures
import TestDraft.Proofs.Signature.Extents
import TestDraft.Proofs.Signature.Positions
import TestDraft.Proofs.Signature.Shapes
import TestDraft.Proofs.Session.Indentation
import TestDraft.Proofs.Signature.Grouping
