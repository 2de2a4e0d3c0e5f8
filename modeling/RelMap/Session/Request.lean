import RelMap.Store.Repository

/-!
# Requests of a session

A session answers a sequence of requests on one registry and one catalog. Requests name mappers,
nodes and conditions by specifications, which are turned into mappers, nodes and conditions when
the request runs, against the session's registry:

- a mapper is the registry's mapper of a type, the element mapper of another mapper, the list
  mapper over another mapper, a passthrough mapper of a native descriptor, or the default
  registry's mapper of a type;
- a literal node carries its mapper, or takes the mapper of its datum's type from the default
  registry or from the session's registry.
-/

namespace RelMap

set_option autoImplicit false

/-- How a request names a mapper. -/
inductive MapperSpec where
  /-- The session registry's mapper of a type. -/
  | named (key : TypeKey)
  /-- The element mapper of a sequence mapper. -/
  | elementOf (m : MapperSpec)
  /-- The list mapper over an element mapper. -/
  | listOf (m : MapperSpec)
  /-- Native values of the descriptor's type, held as they are. -/
  | passthrough (descriptor : Value)
  /-- The default registry's mapper of a type. -/
  | standard (key : TypeKey)
  deriving Inhabited

/-- How a request names a node. -/
inductive NodeSpec where
  | property (path : String)
  | literal (datum : Datum) (mapper : MapperSpec)
  /-- A literal converted by the default registry's mapper of its type. -/
  | standardLiteral (datum : Datum)
  /-- A literal converted by the session registry's mapper of its type. -/
  | registryLiteral (datum : Datum)
  | call (name : String) (args : List NodeSpec) (decode : Option MapperSpec)
  | concat (left right : NodeSpec)
  | index (base : NodeSpec) (position : Nat)
  | reference (base : NodeSpec) (column : String)
  | child (base : NodeSpec) (name : String)
  deriving Inhabited

/-- How a request names a condition. -/
inductive ConditionSpec where
  | compare (op : Comparison) (left right : NodeSpec)
  | between (value low high : NodeSpec)
  | isNull (node : NodeSpec)
  | and (left right : ConditionSpec)
  | or (left right : ConditionSpec)
  | not (inner : ConditionSpec)
  | raw (node : NodeSpec)
  deriving Inhabited

/-- Select options as a request gives them: filters joined with `AND` from the left. -/
structure OptionsSpec where
  filters : List ConditionSpec := []
  orderBy : List (NodeSpec × Direction) := []
  limit : Option Nat := none
  deriving Inhabited

/-- An assignment as a request gives it. -/
inductive AssignedSpec where
  | node (n : NodeSpec)
  | datum (d : Datum)
  deriving Inhabited

/-- The wrapper or book-number types that can be registered through another type. -/
inductive ViaType where
  | wrapper (w : Wrapper)
  | isbn
  deriving Inhabited

/-- The record operations run through a repository. -/
inductive StoreRequest where
  | insert (record : Record)
  | select (options : OptionsSpec)
  | selectValues (node : NodeSpec) (options : OptionsSpec)
  | selectReferences (node : NodeSpec) (options : OptionsSpec)
  | find (record : Record)
  | update (record : Record)
  | updateColumns (assignments : List (String × AssignedSpec)) (condition : ConditionSpec)
  | delete (condition : Option ConditionSpec)
  | deleteRecord (record : Record)
  | rowCount (condition : Option ConditionSpec)
  deriving Inhabited

/-- A request to a session. -/
inductive Request where
  | lookup (key : TypeKey)
  | contains (key : TypeKey)
  | registerPrimitive (p : Primitive)
  | registerVia (t : ViaType) (via : TypeKey)
  | registerCustom (c : Custom)
  | deriveArray (element : TypeKey)
  | mapper (m : MapperSpec)
  | toNative (m : MapperSpec) (d : Datum)
  | fromNative (m : MapperSpec) (v : Value)
  | value (v : Value) (other : Option Value)
  | addTable (spec : TableSpec)
  | tables
  | parse (table path : String)
  | compileNode (table : String) (node : NodeSpec)
  | compileWhere (table : String) (condition : ConditionSpec)
  | decodeMapper (table : String) (node : NodeSpec)
  | compileSelect (table : String) (options : OptionsSpec)
  | compileSelectNode (table : String) (node : NodeSpec) (options : OptionsSpec)
      (rows : Option (List Row))
  | compileSelectReferences (table : String) (node : NodeSpec) (options : OptionsSpec)
  | encodeRecord (table : String) (record : Record)
  | compileInsert (table : String) (record : Record)
  | compileUpdate (table : String) (assignments : List (String × AssignedSpec))
      (condition : ConditionSpec)
  | compileDelete (table : String) (condition : Option ConditionSpec)
  | compileCount (table : String) (condition : Option ConditionSpec)
  | identity (table : String) (record : Record)
  | decodeRow (table : String) (row : Row)
  | datumFacts (d : Datum) (t : DatumType) (other : Option Datum)
  | recordFacts (r : Record) (name : String) (t : DatumType)
  | partsFacts (p : Parts) (name : String) (t : DatumType)
  | keyFacts (key : TypeKey) (other : Option TypeKey)
  | mapperEq (m other : MapperSpec)
  | conversion (p : Primitive) (d : Datum)
  | store (table : String) (script : List (List Produced)) (request : StoreRequest)
  deriving Inhabited

end RelMap
