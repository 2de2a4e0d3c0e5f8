import RelMap.Session.Answer
import RelMap.Library

/-!
# Running a session

A session starts from the library catalog, or from an empty catalog over the default registry or
over an empty registry, and answers its requests in order. Requests share the session: types
registered, sequences derived and tables added by one request are seen by the later ones. A
request that fails leaves behind what it recorded before failing, and the next request still
runs; only a broken invariant (`Problem.abort`) stops the run, and then it is all the run yields.
-/

namespace RelMap

set_option autoImplicit false

/-- What a session starts from. -/
inductive Base where
  /-- The library catalog and its registry. -/
  | library
  /-- The default registry and an empty catalog. -/
  | defaults
  /-- An empty registry and an empty catalog. -/
  | empty
  deriving DecidableEq, Repr, Inhabited

/-- The state of a session. -/
structure Session where
  registry : Registry
  catalog : Catalog
  /-- How statements write their placeholders. -/
  style : Sql.Placeholders
  deriving Inhabited

namespace MapperSpec

/-- The mapper a specification names. -/
def build : MapperSpec → Resolve Mapper
  | .named key => Resolve.lookup key
  | .elementOf m => do Resolve.elementOf (← build m)
  | .listOf m => do pure (.list (← build m))
  | .passthrough descriptor => pure (.passthrough descriptor)
  | .standard key => Resolve.lift ((Registry.withDefaults.lookup key).map Prod.fst)

end MapperSpec

/-- The mapper of a datum's own type, from the default registry or from the session's. -/
def literalMapper (standard : Bool) (d : Datum) : Resolve Mapper :=
  match d.type? with
  | some t =>
      if standard then Resolve.lift ((Registry.withDefaults.lookup (.named t)).map Prod.fst)
      else Resolve.lookup (.named t)
  | none => Resolve.fault (.mapperNotFound d.typeName)

namespace NodeSpec

mutual

/-- The node a specification names. -/
def build : NodeSpec → Resolve Node
  | .property path => pure (.property path)
  | .literal d m => do pure (.literal d (← m.build))
  | .standardLiteral d => do pure (.literal d (← literalMapper true d))
  | .registryLiteral d => do pure (.literal d (← literalMapper false d))
  | .call name args decode => do
      let args ← buildArgs args
      match decode with
      | some m => pure (.call name args (some (← m.build)))
      | none => pure (.call name args none)
  | .concat l r => do
      let left ← build l
      pure (.concat left (← build r))
  | .index base i => do pure (.index (← build base) i)
  | .reference base column => do pure (.reference (← build base) column)
  | .child base name => do pure (.child (← build base) name)

/-- The nodes of a list of specifications. -/
def buildArgs : List NodeSpec → Resolve (List Node)
  | [] => pure []
  | a :: rest => do
      let first ← build a
      pure (first :: (← buildArgs rest))

end

end NodeSpec

namespace ConditionSpec

/-- The condition a specification names. -/
def build : ConditionSpec → Resolve Condition
  | .compare op l r => do
      let left ← l.build
      pure (.compare op left (← r.build))
  | .between v lo hi => do
      let value ← v.build
      let low ← lo.build
      pure (.between value low (← hi.build))
  | .isNull n => do pure (.isNull (← n.build))
  | .and l r => do
      let left ← build l
      pure (.and left (← build r))
  | .or l r => do
      let left ← build l
      pure (.or left (← build r))
  | .not inner => do pure (.not (← build inner))
  | .raw n => do pure (.raw (← n.build))

/-- The condition of an optional specification. -/
def buildOption : Option ConditionSpec → Resolve (Option Condition)
  | some w => do pure (some (← build w))
  | none => pure none

end ConditionSpec

/-- The select options of a specification, filters joined with `AND` from the left. -/
def OptionsSpec.build (o : OptionsSpec) : Resolve SelectOptions := do
  let filters ← o.filters.mapM ConditionSpec.build
  let keys ← o.orderBy.mapM fun (n, direction) => do
    pure ({ node := ← n.build, direction := direction } : SortKey)
  pure { (filters.foldl SelectOptions.addFilter {}) with orderBy := keys, limit := o.limit }

/-- The assignments of specifications. -/
def buildAssignments (assignments : List (String × AssignedSpec)) : Resolve (List Assignment) :=
  assignments.mapM fun (path, value) =>
    match value with
    | .node n => do pure ⟨path, .node (← n.build)⟩
    | .datum d => pure ⟨path, .datum d⟩

/-- What a native value says about itself and another value. -/
def ValueFacts.of (v : Value) (other : Option Value) : ValueFacts :=
  { isNull := v.isNull, isUnset := v.isUnset, isIntegerType := v.isIntegerType
    asNull := v.asNull, elementType := v.elementType?, listOf := Value.listOf v
    comparison := other.map fun o => (v.sameType o, v.beq o) }

/-- A datum read as a type in every way a datum offers. -/
def DatumFacts.of (d : Datum) (t : DatumType) (other : Option Datum) : DatumFacts :=
  { typeName := d.typeName, isNull := d.isNull, get := d.get t, getOpt := d.getOpt t
    toVec := (d.toVec t).map Datum.list, fromOption := d.getOpt t
    equal := other.map fun o => d == o }

/-- A record's field read as a type. -/
def RecordFacts.of (r : Record) (name : String) (t : DatumType) : RecordFacts :=
  { size := r.size, isEmpty := r.isEmpty, has := (r.get? name).isSome, datum := r.get? name
    value := r.value name t, valueOpt := r.valueOpt name t }

/-- A part read as a type. -/
def PartsFacts.of (p : Parts) (name : String) (t : DatumType) : PartsFacts :=
  { size := p.size, isEmpty := p.isEmpty, names := p.names, datum := p.find? name
    get := p.get name t }

/-- A type key's names. -/
def KeyFacts.of (k : TypeKey) (other : Option TypeKey) : KeyFacts :=
  { display := k.name, element := k.element?.map TypeKey.name, list := (TypeKey.list k).name
    equal := other.map fun o => decide (k = o) }

/-- A datum of a primitive type as a native value, and read back. -/
def Primitive.conversion (p : Primitive) (d : Datum) : Outcome Answer := do
  let value ← p.encode d
  .ok (.conversion value p.emptyValue (p.decode value))

namespace Session

/-- The session a base starts, with the placeholder style and, outside the library, the
accepted functions. -/
def start (base : Base) (style : Sql.Placeholders) (allowed : Option (List String)) : Session :=
  match base with
  | .library => ⟨Library.catalogAndRegistry.2, Library.catalog, style⟩
  | .defaults => ⟨Registry.withDefaults, { allowed := allowed }, style⟩
  | .empty => ⟨Registry.empty, { allowed := allowed }, style⟩

/-- Runs a computation on the session's registry. -/
def resolve {α : Type} (s : Session) (x : Resolve α) : Outcome α × Session :=
  let (result, registry) := (x.run).run s.registry
  (result, { s with registry := registry })

/-- A computation on the session's registry, answered by `answer` when it succeeds. -/
def answerWith {α : Type} (s : Session) (x : Resolve α) (answer : α → Answer) :
    Outcome Answer × Session :=
  let (result, s) := s.resolve x
  (result.map answer, s)

/-- Runs a computation on a table of the catalog. -/
def onTable {α : Type} (s : Session) (name : String) (x : Compiler → Resolve α)
    (answer : α → Answer) : Outcome Answer × Session :=
  match s.catalog.table name with
  | .ok t => s.answerWith (x ⟨s.catalog, t, false⟩) answer
  | .error e => (.error e, s)

/-- The statement of a text, written with the session's placeholders. -/
def query (s : Session) (t : Sql.Text) : Answer := .query (Sql.render s.style t)

/-- The record operation of a request. -/
def storeRequest (r : Repository) : StoreRequest → Store StoreAnswer
  | .insert record => do pure (.record (← r.insert record))
  | .select o => do
      let o ← Store.compile o.build
      pure (.records (← r.select o))
  | .selectValues n o => do
      let n ← Store.compile n.build
      let o ← Store.compile o.build
      pure (.values (← r.selectValues n o))
  | .selectReferences n o => do
      let n ← Store.compile n.build
      let o ← Store.compile o.build
      pure (.records (← r.selectReferences n o))
  | .find record => do pure (.found (← r.find record))
  | .update record => do pure (.affected (← r.update record))
  | .updateColumns assignments w => do
      let assignments ← Store.compile (buildAssignments assignments)
      let w ← Store.compile w.build
      pure (.affected (← r.updateColumns assignments w))
  | .delete w => do
      let w ← Store.compile (ConditionSpec.buildOption w)
      pure (.affected (← r.delete w))
  | .deleteRecord record => do
      r.deleteRecord record
      pure .deleted
  | .rowCount w => do
      let w ← Store.compile (ConditionSpec.buildOption w)
      pure (.count (← r.rowCount w))

/-- Runs a record operation on a table with a scripted executor. -/
def store (s : Session) (table : String) (script : List (List Produced))
    (request : StoreRequest) : Outcome Answer × Session :=
  match s.catalog.table table with
  | .error e => (.ok (.stored (.error e) []), s)
  | .ok t =>
      let start : StoreState := ⟨s.registry, { style := s.style, script := script }⟩
      let (result, state) := ((storeRequest ⟨s.catalog, t⟩ request).run).run start
      (.ok (.stored result state.executor.received), { s with registry := state.registry })

/-- The answer of a request, and the session after it. -/
def answer (s : Session) : Request → Outcome Answer × Session
  | .lookup key => s.answerWith (Resolve.lookup key) .mapper
  | .contains key => (.ok (.contains (s.registry.contains key)), s)
  | .registerPrimitive p => (.ok .done, { s with registry := s.registry.registerPrimitive p })
  | .registerVia t via =>
      let (key, step) : TypeKey × Step := match t with
        | .wrapper w => (.named (.wrapper w), .unwrap w)
        | .isbn => (.named .isbn, .isbnText)
      match s.registry.registerVia key via step with
      | .ok r => (.ok .done, { s with registry := r })
      | .error e => (.error e, s)
  | .registerCustom c => (.ok .done, { s with registry := s.registry.register (.custom c) })
  | .deriveArray element =>
      match s.registry.deriveArray element with
      | .ok (m, r) => (.ok (.mapper m), { s with registry := r })
      | .error e => (.error e, s)
  | .mapper m => s.answerWith m.build .mapper
  | .toNative m d => s.answerWith (do Resolve.lift ((← m.build).toNative d)) .value
  | .fromNative m v => s.answerWith (do Resolve.lift ((← m.build).fromNative v)) .datum
  | .value v other => (.ok (.valueFacts (ValueFacts.of v other)), s)
  | .addTable spec =>
      match s.resolve spec.build with
      | (.ok t, s) => (.ok (.table t), { s with catalog := s.catalog.add t })
      | (.error e, s) => (.error e, s)
  | .tables => (.ok (.names s.catalog.names), s)
  | .parse table path => s.onTable table (fun c => parsePath c.catalog c.table path) .node
  | .compileNode table n =>
      s.onTable table (fun c => do c.node (← n.build)) s.query
  | .compileWhere table w =>
      s.onTable table (fun c => do c.condition (← w.build)) s.query
  | .decodeMapper table n =>
      s.onTable table (fun c => do c.decodeMapper (← n.build)) .mapper
  | .compileSelect table o =>
      s.onTable table (fun c => do c.select (← o.build)) s.query
  | .compileSelectNode table n o rows =>
      s.onTable table (fun c => do
        let n ← n.build
        c.selectNode n (← o.build))
        fun (t, projection) =>
          .selection (Sql.render s.style t) projection (rows.map (·.map projection.decode))
  | .compileSelectReferences table n o =>
      s.onTable table (fun c => do
        let n ← n.build
        c.selectReferences n (← o.build))
        fun (t, reached) => .references (Sql.render s.style t) reached.name
  | .encodeRecord table record =>
      s.onTable table (fun c => Resolve.lift (c.table.encode record)) .encoded
  | .compileInsert table record =>
      s.onTable table (fun c => do
        let row ← Resolve.lift (c.table.encode record)
        pure (Compiler.insert c.table row)) s.query
  | .compileUpdate table assignments w =>
      s.onTable table (fun c => do
        let assignments ← buildAssignments assignments
        c.update assignments (← w.build)) s.query
  | .compileDelete table w =>
      s.onTable table (fun c => do c.delete (← ConditionSpec.buildOption w)) s.query
  | .compileCount table w =>
      s.onTable table (fun c => do c.count (← ConditionSpec.buildOption w)) s.query
  | .identity table record =>
      s.onTable table (fun c => do c.condition (← Resolve.lift (c.table.identity record))) s.query
  | .decodeRow table row =>
      s.onTable table (fun c => Resolve.lift (c.table.decode row)) .record
  | .datumFacts d t other => (.ok (.datumFacts (DatumFacts.of d t other)), s)
  | .recordFacts r name t => (.ok (.recordFacts (RecordFacts.of r name t)), s)
  | .partsFacts p name t => (.ok (.partsFacts (PartsFacts.of p name t)), s)
  | .keyFacts key other => (.ok (.keyFacts (KeyFacts.of key other)), s)
  | .mapperEq m other =>
      s.answerWith (do
        let a ← m.build
        let b ← other.build
        pure (a.sameAs b)) .equal
  | .conversion p d => (Primitive.conversion p d, s)
  | .store table script request => s.store table script request

/-- One request run on a session: its answer and the session after it, or the message of the
broken invariant that stops the run. -/
inductive Step where
  | answered (a : Outcome Answer) (s : Session)
  | aborted (message : String)
  deriving Inhabited

/-- Runs one request. -/
def step (s : Session) (r : Request) : Step :=
  let (a, s) := s.answer r
  match abortOf a with
  | some message => .aborted message
  | none => .answered a s

/-- What a run of requests yields: an answer to each, or only the message of the broken invariant
that stopped the run. -/
inductive Transcript where
  | answers (items : List (Outcome Answer))
  | aborted (message : String)
  deriving Inhabited

/-- The requests run in order on one session. -/
def answerAll (s : Session) : List Request → Transcript
  | [] => .answers []
  | r :: rest =>
      match s.step r with
      | .aborted message => .aborted message
      | .answered a s =>
          match answerAll s rest with
          | .answers items => .answers (a :: items)
          | .aborted message => .aborted message

end Session

end RelMap
