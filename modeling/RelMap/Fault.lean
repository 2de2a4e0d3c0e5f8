import RelMap.Uuid

/-!
# Failures

A failure is a chain of problems: the root cause and the context layers put on it as it travels
outward. Its message is the layers from the outermost to the root, joined by `": "`.

Eight problems are faults of the mapping layer itself (`Fault`): a missing or cyclic type mapper,
a refused property path, a table without key, a forbidden function, a refused table definition,
an unknown table and a failed statement. The kind of a failure is its outermost fault, if any.
Every other problem is a plain error whose text is given by `Problem.message`.
-/

namespace RelMap

set_option autoImplicit false

/-- Why a property path, or a node used as a column path, is refused. -/
inductive PathProblem where
  | empty
  | noLeadingColumn
  | notAColumn (name table : String)
  | nameExpected (after : String)
  | referenceExpected (name : String)
  | unknownTarget (reference table : String)
  | virtualExpected (name : String)
  | undeclaredChild (column child : String)
  | indexNotNumber
  | indexUnterminated
  | indexTooLarge (digits : String)
  | virtualIndexed (column : String)
  /-- The value before `[n]` has no element type; the text says why. -/
  | notIndexable (reason : String)
  | unexpected (rest : String)
  | unknownColumn
  | notFollowable
  | noChildren
  | notColumnPath
  | wholeVirtualType
  | wholeVirtualValue
  | indexOutOfRange
  | notReference
  | assignOutsideTable
  | wholeVirtualAssigned
  deriving DecidableEq, Repr

namespace PathProblem

def message : PathProblem → String
  | .empty => "the path is empty"
  | .noLeadingColumn => "the path must start with a column name"
  | .notAColumn name table => "`" ++ name ++ "` is not a column of table `" ++ table ++ "`"
  | .nameExpected after => "expected a name after `" ++ after ++ "`"
  | .referenceExpected name => "`->" ++ name ++ "` follows a value that is not a reference column"
  | .unknownTarget reference table =>
      "the reference `" ++ reference ++ "` targets the unknown table `" ++ table ++ "`"
  | .virtualExpected name => "`." ++ name ++ "` follows a value that is not a virtual column"
  | .undeclaredChild column child =>
      "the virtual column `" ++ column ++ "` does not declare the child `" ++ child ++ "`"
  | .indexNotNumber => "the index must be a non negative integer"
  | .indexUnterminated => "the index is not terminated by `]`"
  | .indexTooLarge digits =>
      "invalid index `" ++ digits ++ "`: number too large to fit in target type"
  | .virtualIndexed column => "the virtual column `" ++ column ++ "` cannot be indexed"
  | .notIndexable reason => reason
  | .unexpected rest => "unexpected `" ++ rest ++ "`"
  | .unknownColumn => "unknown column"
  | .notFollowable => "only reference columns can be followed"
  | .noChildren => "only virtual columns have children"
  | .notColumnPath => "not a column path"
  | .wholeVirtualType => "a whole virtual column does not have a single type"
  | .wholeVirtualValue => "a whole virtual column cannot be used as a single value"
  | .indexOutOfRange => "the index is out of range"
  | .notReference => "not a reference column"
  | .assignOutsideTable => "only the columns of the table can be assigned"
  | .wholeVirtualAssigned => "a whole virtual column can only be assigned a value"

end PathProblem

/-- Why a table definition is refused. -/
inductive TableProblem where
  | noColumns
  | childOfPlainColumn (column child : String)
  | duplicateColumn (name : String)
  | virtualKey (name : String)
  | childless (name : String)
  | duplicateChild (child column : String)
  | autoincrement (name : String)
  | duplicatePhysical (name : String)
  | virtualKeyColumn
  deriving DecidableEq, Repr

namespace TableProblem

def message : TableProblem → String
  | .noColumns => "the table has no columns"
  | .childOfPlainColumn column child =>
      "column `" ++ column ++ "` is not virtual and cannot declare the child `" ++ child ++ "`"
  | .duplicateColumn name => "duplicate column `" ++ name ++ "`"
  | .virtualKey name => "virtual column `" ++ name ++ "` cannot be a key or autoincrement"
  | .childless name => "virtual column `" ++ name ++ "` does not declare any child"
  | .duplicateChild child column =>
      "duplicate child `" ++ child ++ "` in virtual column `" ++ column ++ "`"
  | .autoincrement name =>
      "autoincrement column `" ++ name ++ "` must be a key or have an integer type"
  | .duplicatePhysical name => "duplicate physical column `" ++ name ++ "`"
  | .virtualKeyColumn => "a key column cannot be virtual"

end TableProblem

/-- Failures of the mapping layer itself. -/
inductive Fault where
  | mapperNotFound (key : String)
  | cyclicMapper (key : String)
  | invalidPath (path : String) (reason : PathProblem)
  | missingKey (table : String)
  | functionNotAllowed (name : String)
  | invalidTable (table : String) (reason : TableProblem)
  | unknownTable (table : String)
  /-- Put over the error of a statement the executor could not run; holds the statement's text. -/
  | executor (statement : String)
  deriving DecidableEq, Repr

namespace Fault

def message : Fault → String
  | .mapperNotFound key => "No type mapper is registered for `" ++ key ++ "`"
  | .cyclicMapper key => "The type mapper chain of `" ++ key ++ "` is cyclic"
  | .invalidPath path reason => "Invalid property path `" ++ path ++ "`: " ++ reason.message
  | .missingKey table => "Table `" ++ table ++ "` has no key columns"
  | .functionNotAllowed name => "Function `" ++ name ++ "` is not in the allowed functions list"
  | .invalidTable table reason =>
      "Invalid definition of table `" ++ table ++ "`: " ++ reason.message
  | .unknownTable table => "Table `" ++ table ++ "` is not part of the schema"
  | .executor statement => "The executor failed to run the query:\n" ++ statement

end Fault

/-- Why a decimal text is not a 64-bit integer. -/
inductive IntTextError where
  | empty
  | invalidDigit
  | tooLarge
  | tooSmall
  deriving DecidableEq, Repr

def IntTextError.message : IntTextError → String
  | .empty => "cannot parse integer from empty string"
  | .invalidDigit => "invalid digit found in string"
  | .tooLarge => "number too large to fit in target type"
  | .tooSmall => "number too small to fit in target type"

/-- Why bytes are not UTF-8: the offset of the first bad sequence, and its length when it is
invalid rather than cut short by the end of the bytes. -/
structure Utf8Error where
  validUpTo : Nat
  errorLength : Option Nat
  deriving DecidableEq, Repr

def Utf8Error.message (e : Utf8Error) : String :=
  match e.errorLength with
  | some n => "invalid utf-8 sequence of " ++ toString n ++ " bytes from index " ++ toString e.validUpTo
  | none => "incomplete utf-8 byte sequence from index " ++ toString e.validUpTo

/-- One layer of a failure: a root cause or a context put over one. -/
inductive Problem where
  | fault (f : Fault)
  | typeMismatch (expected found : String)
  | cannotConvert (value target : String)
  | outOfRange (value : Int) (target : String)
  | decimalFit (value target : String)
  | notInteger
  | decimalConversion
  | uuid (e : UuidError)
  | intText (e : IntTextError)
  | utf8 (e : Utf8Error)
  | listExpected (element value : String)
  | notSequence (key : String)
  | noResultType (function : String)
  | nothingToUpdate (table : String)
  | noPhysicalStorage (column : String)
  | undeclaredChild (name : String)
  | missingChild (name : String)
  | partMissing (name : String)
  | keyWithoutValue (column table : String)
  | fieldMissing (name : String)
  | rowMissingColumn (name : String)
  | rowEmpty
  | rowMissingChild (name : String)
  | notGenerated (column : String)
  | countWithoutRow
  | countEmptyRow
  | deletedRows (count : Nat)
  /-- The message of an error reported by the executor. -/
  | executorError (message : String)
  | toNative (key : String)
  | fromNative (key : String)
  | resolvingVia (key : String)
  | registeringVia (key intermediate : String)
  | resolvingColumn (column table : String)
  | resolvingChild (column child : String)
  | encodingColumn (column : String)
  | decodingColumn (column : String)
  | decodingGenerated (column : String)
  /-- A broken invariant of a library: the whole run stops, and nothing on the way out may treat
  it as an ordinary failure. -/
  | abort (message : String)
  deriving DecidableEq, Repr

namespace Problem

def message : Problem → String
  | .fault f => f.message
  | .typeMismatch expected found => "Expected a value of type " ++ expected ++ " but found " ++ found
  | .cannotConvert value target => "Cannot convert " ++ value ++ " to " ++ target
  | .outOfRange value target => "Value " ++ toString value ++ " is out of range for " ++ target
  | .decimalFit value target => "Value " ++ value ++ ": Decimal does not fit into " ++ target
  | .notInteger => "The value is not a integer"
  | .decimalConversion => "Error while converting to Decimal"
  | .uuid e => e.message
  | .intText e => e.message
  | .utf8 e => e.message
  | .listExpected element value => "Expected a list of " ++ element ++ " but found " ++ value
  | .notSequence key => "The type `" ++ key ++ "` is not a sequence and cannot be indexed"
  | .noResultType function =>
      "Cannot determine the result type of `" ++ function ++
        "()`, it has no arguments and no explicit decode type"
  | .nothingToUpdate table => "Nothing to update in table `" ++ table ++ "`"
  | .noPhysicalStorage column => "Column `" ++ column ++ "` has no physical storage"
  | .undeclaredChild name => "The composite value has the undeclared child `" ++ name ++ "`"
  | .missingChild name => "The composite value is missing the child `" ++ name ++ "`"
  | .partMissing name => "Missing the part `" ++ name ++ "`"
  | .keyWithoutValue column table =>
      "The key column `" ++ column ++ "` of table `" ++ table ++ "` has no value"
  | .fieldMissing name => "The record does not have the field `" ++ name ++ "`"
  | .rowMissingColumn name => "The row does not contain the column `" ++ name ++ "`"
  | .rowEmpty => "The row is empty"
  | .rowMissingChild name => "The row is missing the child `" ++ name ++ "`"
  | .notGenerated column => "The column `" ++ column ++ "` cannot be generated"
  | .countWithoutRow => "The count query did not return any row"
  | .countEmptyRow => "The count query returned an empty row"
  | .deletedRows count =>
      "The query deleted " ++ toString count ++ " rows instead of the expected 1"
  | .executorError message => message
  | .toNative key => "While converting " ++ key ++ " to native"
  | .fromNative key => "While converting native to " ++ key
  | .resolvingVia key => "While resolving the intermediate type of `" ++ key ++ "`"
  | .registeringVia key intermediate =>
      "Cannot register `" ++ key ++ "` through the intermediate type `" ++ intermediate ++ "`"
  | .resolvingColumn column table =>
      "While resolving the column `" ++ column ++ "` of `" ++ table ++ "`"
  | .resolvingChild column child => "While resolving the child `" ++ column ++ "." ++ child ++ "`"
  | .encodingColumn column => "While encoding the column `" ++ column ++ "`"
  | .decodingColumn column => "While decoding the column `" ++ column ++ "`"
  | .decodingGenerated column => "While decoding the generated `" ++ column ++ "`"
  | .abort message => message

def fault? : Problem → Option Fault
  | .fault f => some f
  | _ => none

end Problem

/-- A chain of problems: the context layers, outermost first, over the root cause. -/
structure Failure where
  context : List Problem
  cause : Problem
  deriving DecidableEq, Repr

namespace Failure

/-- A failure with no context. -/
def of (p : Problem) : Failure := ⟨[], p⟩

/-- A failure whose cause is a fault of the mapping layer. -/
def ofFault (f : Fault) : Failure := of (.fault f)

/-- The layers, outermost first, ending with the cause. -/
def layers (e : Failure) : List Problem := e.context ++ [e.cause]

/-- The failure with one more context layer outside. -/
def within (layer : Problem) (e : Failure) : Failure := ⟨layer :: e.context, e.cause⟩

/-- The layers' messages from the outermost to the root, joined by `": "`. -/
def message (e : Failure) : String := ": ".intercalate (e.layers.map Problem.message)

/-- The outermost fault of the chain, which gives the failure its kind. -/
def fault? (e : Failure) : Option Fault := e.layers.findSome? Problem.fault?

/-- The message of the broken invariant behind a failure that stops the run. -/
def aborted? (e : Failure) : Option String :=
  match e.cause with
  | .abort message => some message
  | _ => none

end Failure

/-- Results that may fail. -/
abbrev Outcome (α : Type) := Except Failure α

namespace Outcome

/-- Puts a context layer over a failure, leaving a success as it is. -/
def within {α : Type} (layer : Problem) : Outcome α → Outcome α
  | .ok a => .ok a
  | .error e => .error (e.within layer)

/-- A failure whose cause is the given problem. -/
def fail {α : Type} (p : Problem) : Outcome α := .error (Failure.of p)

/-- A failure whose cause is a fault of the mapping layer. -/
def fault {α : Type} (f : Fault) : Outcome α := .error (Failure.ofFault f)

end Outcome

end RelMap
