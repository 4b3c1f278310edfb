import BoundSql.Bindings
import BoundSql.Composer
import BoundSql.Engine
import BoundSql.Writer
import BoundSql.Dialect.Scalar
import BoundSql.Proofs.Outcome
import BoundSql.Proofs.Placeholder.Reading
import BoundSql.Proofs.Name.Reading
import BoundSql.Proofs.Phrase.Tidy
import BoundSql.Proofs.Form.Tidy
import BoundSql.Proofs.Request.Tidy
import BoundSql.Proofs.Predicate.Compiled
import BoundSql.Proofs.Phrase.Reading
import BoundSql.Proofs.Request.Faults
import BoundSql.Proofs.Statement.Placeholders
import BoundSql.Proofs.Engine.Writing
import BoundSql.Proofs.Engine.Statements
import BoundSql.Proofs.Engine.Agreement
import BoundSql.Proofs.Engine.Dialects
import BoundSql.Proofs.Request.Independence
import BoundSql.Proofs.Where.Reading
import BoundSql.Proofs.Where.Restriction
import BoundSql.Proofs.Phrase.Hygiene
import BoundSql.Proofs.Statement.Closure
import BoundSql.Proofs.Name.Language
import BoundSql.Proofs.Request.Names
import BoundSql.Proofs.Form.Values
import BoundSql.Proofs.Request.Values
import BoundSql.Proofs.Phrase.Pieces
import BoundSql.Proofs.Phrase.Neutral
import BoundSql.Proofs.Statement.Portability
import BoundSql.Proofs.Statement.Paging
import BoundSql.Proofs.Phrase.Lexemes
import BoundSql.Proofs.Page.Rows
import BoundSql.Proofs.Phrase.Outline
import BoundSql.Proofs.Statement.Guard
import BoundSql.Proofs.Statement.Layout
import BoundSql.Proofs.Where.Decoding
import BoundSql.Proofs.Where.Terms
import BoundSql.Proofs.Request.Omission
import BoundSql.Proofs.Statement.Totals
import BoundSql.Proofs.Text.Bytes
import BoundSql.Proofs.Registry.Key
import BoundSql.Proofs.Registry.Calls
import BoundSql.Proofs.Registry.Names
import BoundSql.Proofs.Registry.Instances
import BoundSql.Proofs.Page.Partition
import BoundSql.Proofs.Name.Quoting
import BoundSql.Proofs.Phrase.Readers
import BoundSql.Proofs.Statement.Upserts
import BoundSql.Proofs.Form.Upserts
import BoundSql.Proofs.Phrase.Spelling
import BoundSql.Proofs.Bindings.Writer
import BoundSql.Proofs.Statement.Insertions
import BoundSql.Proofs.Statement.Merges
import BoundSql.Proofs.Bindings.Items
import BoundSql.Proofs.Assignment.Decoding
import BoundSql.Proofs.Statement.Updates
import BoundSql.Proofs.Text.Expression
import BoundSql.Proofs.Fragment.Language
import BoundSql.Proofs.Calendar.Days
import BoundSql.Proofs.Dialect.Patterns
import BoundSql.Proofs.Number.Digits
import BoundSql.Proofs.Calendar.Timestamp
import BoundSql.Proofs.Name.Segments
import BoundSql.Proofs.Statement.Aggregates
import BoundSql.Proofs.Statement.References
import BoundSql.Proofs.Calendar.Range
import BoundSql.Proofs.Bindings.Sessions
import BoundSql.Proofs.Name.Scanning
import BoundSql.Proofs.Fragment.Joining
