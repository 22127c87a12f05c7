import CypherLink.Main
import CypherLink.Filter.Chain
import CypherLink.Session.Program
import CypherLink.Proofs.Match.Acceptance
import CypherLink.Proofs.Match.Condition
import CypherLink.Proofs.Match.Arrangement
import CypherLink.Proofs.Match.Meaning
import CypherLink.Proofs.Match.Placement
import CypherLink.Proofs.Match.Allocation
import CypherLink.Proofs.Match.Connection
import CypherLink.Proofs.Match.Introduction
import CypherLink.Proofs.Match.Refusal
import CypherLink.Proofs.Session.Act
import CypherLink.Proofs.Session.Closing
import CypherLink.Proofs.Statement.Quoting
import CypherLink.Proofs.Statement.Lexer
import CypherLink.Proofs.Statement.Piece
import CypherLink.Proofs.Statement.Clause
import CypherLink.Proofs.Statement.Query
import CypherLink.Proofs.Statement.Parameter
import CypherLink.Proofs.Statement.Redaction
import CypherLink.Proofs.Statement.Path
import CypherLink.Proofs.Session.Exchange
import CypherLink.Proofs.Session.Operation
import CypherLink.Proofs.Session.Call
import CypherLink.Proofs.Session.Course
import CypherLink.Proofs.Session.Reading
import CypherLink.Proofs.Session.Shape
import CypherLink.Proofs.Session.Standing
import CypherLink.Proofs.Session.Withdrawal
import CypherLink.Proofs.Session.Once
import CypherLink.Proofs.Number.Digits
import CypherLink.Proofs.Number.Rounding
import CypherLink.Proofs.Number.Shortest
import CypherLink.Proofs.Json.Number
import CypherLink.Proofs.Json.Text
import CypherLink.Proofs.Json.RoundTrip
import CypherLink.Proofs.Json.Kinds
import CypherLink.Proofs.Session.Traffic
import CypherLink.Proofs.Session.Uniform
import CypherLink.Proofs.Reply.Table
import CypherLink.Proofs.Session.Leaving
import CypherLink.Proofs.Session.Classification
import CypherLink.Proofs.Statement.Assertion
import CypherLink.Proofs.Statement.Operand
import CypherLink.Proofs.Statement.Loading
import CypherLink.Proofs.Request.Rebuilding
import CypherLink.Proofs.Statement.Sorting
import CypherLink.Proofs.Session.Endpoint
import CypherLink.Proofs.Number.Hexadecimal
import CypherLink.Proofs.Session.Trail
import CypherLink.Proofs.Sample
