import RelMap.Session.Request

/-!
# Answers of a session

Each request is answered by a value of its own shape, or by a failure. Record operations answer
with the statements the executor received as well, whether they succeed or fail. A failure that
reports a broken invariant (`Problem.abort`), wherever it sits in an answer, stops the run.
-/

namespace RelMap

set_option autoImplicit false

/-- What a native value says about itself, and about another value when given. -/
structure ValueFacts where
  isNull : Bool
  isUnset : Bool
  isIntegerType : Bool
  asNull : Value
  elementType : Option Value
  listOf : Value
  /-- Whether the other value has the same type, and whether it is equal. -/
  comparison : Option (Bool × Bool)
  deriving Inhabited

/-- A datum read as a type in the ways a datum offers. -/
structure DatumFacts where
  typeName : String
  isNull : Bool
  get : Outcome Datum
  getOpt : Outcome Datum
  /-- The items each read as the type, as a list datum. -/
  toVec : Outcome Datum
  fromOption : Outcome Datum
  equal : Option Bool
  deriving Inhabited

/-- A record's field read as a type. -/
structure RecordFacts where
  size : Nat
  isEmpty : Bool
  has : Bool
  datum : Option Datum
  value : Outcome Datum
  valueOpt : Outcome Datum
  deriving Inhabited

/-- A part read as a type. -/
structure PartsFacts where
  size : Nat
  isEmpty : Bool
  names : List String
  datum : Option Datum
  get : Outcome Datum
  deriving Inhabited

/-- A type key's names. -/
structure KeyFacts where
  display : String
  element : Option String
  list : String
  equal : Option Bool
  deriving Inhabited

/-- The result of a record operation. -/
inductive StoreAnswer where
  | record (r : Record)
  | records (items : List (Outcome Record))
  | values (items : List (Outcome Datum))
  | found (r : Option Record)
  | affected (a : Affected)
  | deleted
  | count (n : Nat)
  deriving Inhabited

/-- The answer of a request. -/
inductive Answer where
  | mapper (m : Mapper)
  | contains (b : Bool)
  | done
  | value (v : Value)
  | datum (d : Datum)
  | valueFacts (f : ValueFacts)
  | table (t : Table)
  | names (names : List String)
  | node (n : Node)
  | query (q : Query)
  /-- A select of one node, what each row yields, and the rows decoded when given. -/
  | selection (q : Query) (p : Projection) (decoded : Option (List (Outcome Datum)))
  | references (q : Query) (target : String)
  | encoded (row : EncodedRow)
  | record (r : Record)
  | datumFacts (f : DatumFacts)
  | recordFacts (f : RecordFacts)
  | partsFacts (f : PartsFacts)
  | keyFacts (f : KeyFacts)
  | equal (b : Bool)
  /-- A datum as a native value, the type's empty value, and the value read back. -/
  | conversion (value empty : Value) (back : Outcome Datum)
  /-- A record operation's result and the statements the executor received. -/
  | stored (result : Outcome StoreAnswer) (received : List Query)
  deriving Inhabited

/-- The broken invariant behind the first failure among outcomes, if any. -/
def firstAborted {α : Type} (items : List (Outcome α)) : Option String :=
  items.findSome? fun
    | .error e => e.aborted?
    | .ok _ => none

namespace StoreAnswer

/-- The broken invariant behind one of the items, if any. -/
def aborted? : StoreAnswer → Option String
  | .records items => firstAborted items
  | .values items => firstAborted items
  | _ => none

end StoreAnswer

namespace Answer

/-- The broken invariant behind a failure held inside an answer, if any. -/
def aborted? : Answer → Option String
  | .selection _ _ (some decoded) => firstAborted decoded
  | .datumFacts f => firstAborted [f.get, f.getOpt, f.toVec, f.fromOption]
  | .recordFacts f => firstAborted [f.value, f.valueOpt]
  | .partsFacts f => firstAborted [f.get]
  | .conversion _ _ back => firstAborted [back]
  | .stored (.error e) _ => e.aborted?
  | .stored (.ok a) _ => a.aborted?
  | _ => none

end Answer

/-- The broken invariant behind the outcome of a request, if any. -/
def abortOf (o : Outcome Answer) : Option String :=
  match o with
  | .error e => e.aborted?
  | .ok a => a.aborted?

end RelMap
