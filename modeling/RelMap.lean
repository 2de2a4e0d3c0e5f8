import RelMap.Float.Binary
import RelMap.Float.Shortest
import RelMap.Float.Text
import RelMap.Float.JsonNumber
import RelMap.Decimal.Basic
import RelMap.Decimal.Text
import RelMap.Decimal.Convert
import RelMap.Calendar
import RelMap.Uuid
import RelMap.Text.Unicode
import RelMap.Text.Quoted
import RelMap.Text.Utf8
import RelMap.Value.Basic
import RelMap.Value.Render
import RelMap.Fault
import RelMap.Fields
import RelMap.Datum.Basic
import RelMap.Datum.Native
import RelMap.Mapper.Basic
import RelMap.Mapper.Registry
import RelMap.Record
import RelMap.Expr.Node
import RelMap.Schema.Composite
import RelMap.Schema.Column
import RelMap.Schema.Table
import RelMap.Schema.Catalog
import RelMap.Expr.Path
import RelMap.Expr.ColumnPath
import RelMap.Sql.Statement
import RelMap.Sql.Compile
import RelMap.Store.Executor
import RelMap.Store.Repository
import RelMap.Library
import RelMap.Session.Request
import RelMap.Session.Answer
import RelMap.Session.Run
import RelMap.Proofs.SuccessorWalk
import RelMap.Proofs.Postcondition
import RelMap.Proofs.PlaceholderNumbering
import RelMap.Proofs.ParameterOrder
import RelMap.Proofs.ReferencePaths
import RelMap.Proofs.MapperRoundTrip
import RelMap.Proofs.Outcomes
import RelMap.Proofs.TableBuild
import RelMap.Proofs.NamedFields
import RelMap.Proofs.RecordRows
import RelMap.Proofs.CompiledOutcomes
import RelMap.Proofs.SpelledPaths
import RelMap.Proofs.ReferenceJoins
import RelMap.Proofs.PathGrammar
import RelMap.Proofs.CompositeRoundTrip
import RelMap.Proofs.SendAfterValidation
import RelMap.Proofs.IntegerDecoding
import RelMap.Proofs.InsertWriteBack
import RelMap.Proofs.UpdateByIdentity
import RelMap.Proofs.FunctionAllowList
import RelMap.Proofs.ByteOffsets
import RelMap.Proofs.SqlLexer
import RelMap.Proofs.IdentifierQuoting
import RelMap.Proofs.StatementDisplay
import RelMap.Proofs.ElementTyping
import RelMap.Proofs.ConditionGrammar
import RelMap.Proofs.ConditionText
import RelMap.Proofs.ExecutionFold
import RelMap.Proofs.SeparatedLists
