import TypedQuery.Connection
import TypedQuery.Cursor.Rows
import TypedQuery.Data.ColumnType
import TypedQuery.Data.Datum
import TypedQuery.Data.Error
import TypedQuery.Data.Sorted
import TypedQuery.Data.Value
import TypedQuery.Declaration.Arguments
import TypedQuery.Declaration.Entity
import TypedQuery.Declaration.Module
import TypedQuery.Declaration.Query
import TypedQuery.Number.Interchange
import TypedQuery.Program.Emit
import TypedQuery.Program.Function
import TypedQuery.Program.Print
import TypedQuery.Program.Run
import TypedQuery.Program.Scope
import TypedQuery.Program.Statement
import TypedQuery.Relation.Fetch
import TypedQuery.Relation.Query
import TypedQuery.Result.Recursion
import TypedQuery.Result.Row
import TypedQuery.Result.Solve
import TypedQuery.Source.Attribute
import TypedQuery.Source.Error
import TypedQuery.Source.Grammar
import TypedQuery.Source.Grammar.Expression
import TypedQuery.Source.Grammar.Item
import TypedQuery.Source.Grammar.Member
import TypedQuery.Source.Grammar.Path
import TypedQuery.Source.Grammar.Pattern
import TypedQuery.Source.Grammar.Signature
import TypedQuery.Source.Grammar.Statement
import TypedQuery.Source.Grammar.Type
import TypedQuery.Source.Item
import TypedQuery.Source.Parser
import TypedQuery.Source.Type
import TypedQuery.Text.Blank
import TypedQuery.Text.Bounds
import TypedQuery.Text.Identifier
import TypedQuery.Text.IdentifierTable
import TypedQuery.Text.PrintableTable
import TypedQuery.Text.Quoted
import TypedQuery.Text.Uppercase
import TypedQuery.Text.UppercaseTable
import TypedQuery.Token.Basic
import TypedQuery.Token.Display
import TypedQuery.Token.Lexer
import TypedQuery.Token.Literal
import TypedQuery.Token.Number
import TypedQuery.Tracker
import TypedQuery.Example.Authors
import TypedQuery.Proofs.Calls.Jobs
import TypedQuery.Proofs.Calls.Planned
import TypedQuery.Proofs.Cursor.Copies
import TypedQuery.Proofs.Cursor.Lines
import TypedQuery.Proofs.Cursor.Visits
import TypedQuery.Proofs.Cursor.Widths
import TypedQuery.Proofs.Data.Lossless
import TypedQuery.Proofs.Data.Order
import TypedQuery.Proofs.Data.Sorted
import TypedQuery.Proofs.Meaning.Entries
import TypedQuery.Proofs.Meaning.Join
import TypedQuery.Proofs.Meaning.Rows
import TypedQuery.Proofs.Program.Agreement
import TypedQuery.Proofs.Program.Constants
import TypedQuery.Proofs.Program.Copied
import TypedQuery.Proofs.Program.CursorUse
import TypedQuery.Proofs.Program.Declared
import TypedQuery.Proofs.Program.DistinctNames
import TypedQuery.Proofs.Program.Emission
import TypedQuery.Proofs.Program.Expansion
import TypedQuery.Proofs.Program.FieldReads
import TypedQuery.Proofs.Program.ForwardOnly
import TypedQuery.Proofs.Program.Hydration
import TypedQuery.Proofs.Program.Maps
import TypedQuery.Proofs.Program.Numbering
import TypedQuery.Proofs.Program.Occurrences
import TypedQuery.Proofs.Program.Passes
import TypedQuery.Proofs.Program.PlainStructs
import TypedQuery.Proofs.Program.Printing
import TypedQuery.Proofs.Program.Readings
import TypedQuery.Proofs.Program.Respelled
import TypedQuery.Proofs.Program.RuntimePath
import TypedQuery.Proofs.Program.Scopes
import TypedQuery.Proofs.Program.Spliced
import TypedQuery.Proofs.Program.Tables
import TypedQuery.Proofs.Program.Template
import TypedQuery.Proofs.Program.Temporaries
import TypedQuery.Proofs.Program.Totality
import TypedQuery.Proofs.Program.TypeParameter
import TypedQuery.Proofs.Program.Unqualified
import TypedQuery.Proofs.Program.Variables
import TypedQuery.Proofs.Program.Visibility
import TypedQuery.Proofs.Program.Written
import TypedQuery.Proofs.Relation.Answers
import TypedQuery.Proofs.Relation.Assembly
import TypedQuery.Proofs.Relation.Columns
import TypedQuery.Proofs.Relation.Fetch
import TypedQuery.Proofs.Relation.Grouping
import TypedQuery.Proofs.Relation.Sql
import TypedQuery.Proofs.Result.Acceptance
import TypedQuery.Proofs.Result.Elements
import TypedQuery.Proofs.Result.Locality
import TypedQuery.Proofs.Result.Mapping
import TypedQuery.Proofs.Result.Recursion
import TypedQuery.Proofs.Result.Respelling
import TypedQuery.Proofs.Run.Body
import TypedQuery.Proofs.Run.Control
import TypedQuery.Proofs.Run.Conversion
import TypedQuery.Proofs.Run.Frames
import TypedQuery.Proofs.Run.Preparation
import TypedQuery.Proofs.Run.Rows
import TypedQuery.Proofs.Run.Shapes
import TypedQuery.Proofs.Run.Simulation
import TypedQuery.Proofs.Run.Statements
import TypedQuery.Proofs.Session
import TypedQuery.Proofs.Source.Arguments
import TypedQuery.Proofs.Source.Lexing
import TypedQuery.Proofs.Source.Phrases
import TypedQuery.Proofs.Source.Reading
import TypedQuery.Proofs.Source.Settings
import TypedQuery.Proofs.Steps
import TypedQuery.Proofs.Text.Bounds
import TypedQuery.Proofs.Text.Identifier
import TypedQuery.Proofs.Text.Quoted
import TypedQuery.Proofs.Text.Uppercase
import TypedQuery.Proofs.Tracking.Staleness
