import RelMap.Session.Run
import RelMap.Proofs.Outcomes

/-!
# Record operations prepare first, then send one statement

A record request of a session first prepares its statement on the registry alone: it builds the
specifications it was given, encodes the record or builds its identity, and compiles. Only then
does it reach the executor, with that one statement written for the executor's placeholders, and
it reads one answer. A failure while preparing is the request's result, and the executor is left
as it was.

`SendsPrepared prep text exchange finish m` says this of a store program `m` by its run from every
state: `m` prepares a value as `prep` does, sends the statement `text` of it through `exchange`,
and finishes with `finish` of what came back, without the store. The rules `of_exchange`,
`prepares_bind` and `bind_stateless` assemble it for each operation from the run equations of the
store's primitives, and `storeRequest_sends_after_preparing` reads off what it means for every
record request.
-/

namespace RelMap

set_option autoImplicit false

namespace Resolve

variable {α β : Type}

theorem run_map (f : α → β) (x : Resolve α) (s : Registry) :
    (f <$> x).run.run s =
      match x.run.run s with
      | (.ok a, s') => (.ok (f a), s')
      | (.error e, s') => (.error e, s') := by
  rw [map_eq_pure_bind, run_bind]
  rcases x.run.run s with ⟨_ | a, s'⟩ <;> rfl

end Resolve

/-! ## The executor -/

namespace Produced

/-- The messages of the failures among the items, in order. -/
def failures (items : List Produced) : List String :=
  items.filterMap fun item =>
    match item with
    | .failure message => some message
    | _ => none

/-- Whether fetching keeps the item: rows and failures are kept, counts and generated rows are
not. -/
def isFetched : Produced → Bool
  | .row _ | .failure _ => true
  | _ => false

end Produced

/-- The fold of an answer ends with its first failure. -/
theorem Execution.collect_of_failures {message : String} {rest : List String}
    {items : List Produced} (first : Produced.failures items = message :: rest) (e : Execution) :
    Execution.collect e items = .error message := by
  induction items generalizing e with
  | nil => nomatch first
  | cons item items ih =>
    cases item with
    | failure m =>
      simp only [Produced.failures, List.filterMap_cons, List.cons.injEq] at first
      rw [first.1]
      rfl
    | row r | keys r | affected count lastId => exact ih first (e.add _)

namespace Executor

/-- Running a statement answers it with the next answer of the script (nothing once the script is
used up), keeps the statement, and uses that answer up. -/
theorem run_eq (e : Executor) (q : Query) :
    e.run q = (e.script.headD [],
      { e with received := e.received ++ [q], script := e.script.tail }) := by
  rcases e with ⟨style, received, _ | ⟨answer, rest⟩⟩ <;> rfl

/-- What executing a statement gives back. -/
def executed (e : Executor) (q : Query) : Outcome Execution := (e.execute q).1

/-- What fetching a statement gives back: it never fails, a failure of the database is an item. -/
def fetched (e : Executor) (q : Query) : Outcome (List (Outcome Row)) := .ok (e.fetch q).1

theorem execute_snd (e : Executor) (q : Query) : (e.execute q).2 = (e.run q).2 := by
  simp only [execute, run_eq]
  split <;> rfl

theorem fetch_snd (e : Executor) (q : Query) : (e.fetch q).2 = (e.run q).2 := rfl

/-- Executing fails with the answer's first failure, under the statement's context. -/
theorem executed_of_failures {e : Executor} {q : Query} {message : String} {rest : List String}
    (first : Produced.failures (e.script.headD []) = message :: rest) :
    e.executed q = .error (failure q message) := by
  have folded := Execution.collect_of_failures first .empty
  simp only [executed, execute, run_eq, folded]

/-- Every failure of the answer is an item of what fetching gives, under the statement's context. -/
theorem mem_fetch_of_failure {e : Executor} {q : Query} {message : String}
    (failed : message ∈ Produced.failures (e.script.headD [])) :
    .error (failure q message) ∈ (e.fetch q).1 := by
  obtain ⟨item, member, named⟩ := List.mem_filterMap.1 failed
  rw [fetch, run_eq]
  refine List.mem_filterMap.2 ⟨item, member, ?_⟩
  cases item <;> simp_all

/-- When the first row or failure of the answer is a failure, fetching gives it first. -/
theorem fetch_head_of_failure {e : Executor} {q : Query} {message : String}
    (found : (e.script.headD []).find? Produced.isFetched = some (.failure message)) :
    ∃ rest, (e.fetch q).1 = .error (failure q message) :: rest := by
  rw [fetch, run_eq]
  generalize e.script.headD [] = answer at found ⊢
  induction answer with
  | nil => nomatch found
  | cons item answer ih =>
    cases item with
    | row r => simp [Produced.isFetched] at found
    | failure m =>
      simp only [List.find?_cons, Produced.isFetched, Option.some.injEq] at found
      cases found
      exact ⟨_, rfl⟩
    | keys r | affected count lastId =>
      simp only [List.find?_cons, Produced.isFetched] at found
      simpa only [List.filterMap_cons] using ih found

/-- Whatever follows an executed statement, the answer's first failure is the result. -/
theorem executed_bind_of_failures {α : Type} {e : Executor} {q : Query} {message : String}
    {rest : List String} (first : Produced.failures (e.script.headD []) = message :: rest)
    (k : Execution → Outcome α) :
    (e.executed q >>= k) = .error (failure q message) := by
  rw [executed_of_failures first]
  rfl

/-- Reading each fetched row keeps every failure of the answer as an item. -/
theorem fetched_failures {δ : Type} (e : Executor) (q : Query) (read : Row → Outcome δ) :
    ∀ message ∈ Produced.failures (e.script.headD []),
      .error (failure q message) ∈ (e.fetch q).1.map fun row => row >>= read :=
  fun _ failed => List.mem_map.2 ⟨_, mem_fetch_of_failure failed, rfl⟩

/-- A finish that reads the first fetched item fails with it when it is a failure. -/
theorem fetched_bind_of_failure {α : Type} {e : Executor} {q : Query} {message : String}
    (found : (e.script.headD []).find? Produced.isFetched = some (.failure message))
    (k : List (Outcome Row) → Outcome α)
    (failsFirst : ∀ x rest, k (.error x :: rest) = .error x) :
    (e.fetched q >>= k) = .error (failure q message) := by
  obtain ⟨rest, rows⟩ := fetch_head_of_failure (q := q) found
  rw [fetched, rows]
  exact failsFirst _ rest

end Executor

/-! ## The store's primitives -/

namespace Store

variable {α β γ δ ε : Type}

theorem run_bind (x : Store α) (f : α → Store β) (s : StoreState) :
    (x >>= f).run.run s =
      match x.run.run s with
      | (.ok a, s') => (f a).run.run s'
      | (.error e, s') => (.error e, s') := by
  simp only [ExceptT.run_bind, StateT.run_bind]
  rcases x.run.run s with ⟨_ | a, s'⟩ <;> rfl

theorem run_lift (o : Outcome α) (s : StoreState) : (lift o).run.run s = (o, s) := by
  cases o <;> rfl

theorem run_compile (x : Resolve α) (s : StoreState) :
    (compile x).run.run s =
      ((x.run.run s.registry).1, { s with registry := (x.run.run s.registry).2 }) :=
  run_lift _ _

theorem run_render (t : Sql.Text) (s : StoreState) :
    (render t).run.run s = (.ok (Sql.render s.executor.style t), s) := rfl

theorem run_execute (q : Query) (s : StoreState) :
    (execute q).run.run s =
      ((s.executor.execute q).1, { s with executor := (s.executor.execute q).2 }) :=
  run_lift _ _

theorem run_fetch (q : Query) (s : StoreState) :
    (fetch q).run.run s =
      (.ok (s.executor.fetch q).1, { s with executor := (s.executor.fetch q).2 }) :=
  rfl

/-- `x` runs `prep` on the store's registry and touches nothing else. -/
def Prepares (prep : Resolve α) (x : Store α) : Prop :=
  ∀ s, x.run.run s =
    ((prep.run.run s.registry).1, { s with registry := (prep.run.run s.registry).2 })

theorem prepares_compile (prep : Resolve α) : Prepares prep (compile prep) := run_compile prep

theorem prepares_lift (o : Outcome α) : Prepares (Resolve.lift o) (lift o) := by
  intro s
  cases o <;> rfl

/-- `send q` gives `exchange` of the executor and `q`; the executor receives `q` and uses up one
answer, and nothing else changes. -/
def Exchanges (exchange : Executor → Query → Outcome γ) (send : Query → Store γ) : Prop :=
  ∀ q s, (send q).run.run s = (exchange s.executor q, { s with executor := (s.executor.run q).2 })

theorem exchanges_execute : Exchanges Executor.executed execute := by
  intro q s
  rw [run_execute, Executor.execute_snd]
  rfl

theorem exchanges_fetch : Exchanges Executor.fetched fetch := by
  intro q s
  rw [run_fetch, Executor.fetch_snd]
  rfl

/-- `k` gives `o` without reading or changing the store. -/
def Stateless (k : Store α) (o : Outcome α) : Prop := ∀ s, k.run.run s = (o, s)

theorem stateless_pure (a : α) : Stateless (pure a) (.ok a) := fun _ => rfl

theorem stateless_lift (o : Outcome α) : Stateless (lift o) o := run_lift o

theorem stateless_fail (p : Problem) : Stateless (fail p : Store α) (.error (Failure.of p)) :=
  fun _ => rfl

theorem Stateless.bind {x : Store α} {o : Outcome α} {f : α → Store β} {g : α → Outcome β}
    (first : Stateless x o) (rest : ∀ a, Stateless (f a) (g a)) :
    Stateless (x >>= f) (o >>= g) := by
  intro s
  rw [run_bind, first s]
  cases o with
  | error e => rfl
  | ok a => exact rest a s

/-- Run from any state, `m` first prepares a value `b` as `prep` does, on the registry alone; when
that fails, so does `m`, with the executor as it was. Otherwise it sends the one statement
`text b`, written for the executor's placeholders, through `exchange`, which uses up one answer,
and gives `finish b` of what came back. -/
def SendsPrepared (prep : Resolve β) (text : β → Sql.Text)
    (exchange : Executor → Query → Outcome γ) (finish : β → γ → Outcome α) (m : Store α) :
    Prop :=
  ∀ s, m.run.run s =
    match prep.run.run s.registry with
    | (.error e, registry) => (.error e, { s with registry := registry })
    | (.ok b, registry) =>
        let q := Sql.render s.executor.style (text b)
        (exchange s.executor q >>= finish b, ⟨registry, (s.executor.run q).2⟩)

namespace SendsPrepared

variable {prep : Resolve β} {text : β → Sql.Text} {exchange : Executor → Query → Outcome γ}
  {finish : β → γ → Outcome α} {m : Store α}

/-- The shape every operation ends with: prepare, write the statement for the executor's
placeholders, send it, and finish without the store. -/
theorem of_exchange {x : Store β} {send : Query → Store γ} {k : β → γ → Store α}
    (prepares : Prepares prep x) (sends : Exchanges exchange send)
    (finishes : ∀ b c, Stateless (k b c) (finish b c)) :
    SendsPrepared prep text exchange finish
      (x >>= fun b => render (text b) >>= fun q => send q >>= k b) := by
  intro s
  rw [run_bind, prepares s]
  rcases prep.run.run s.registry with ⟨_ | b, registry⟩
  · rfl
  · simp only [run_bind, run_render, sends _ _]
    rcases exchange s.executor (Sql.render s.executor.style (text b)) with _ | c
    · rfl
    · exact finishes b c _

/-- Preparing may begin with a step of its own, such as building a specification, encoding the
record or building its identity, on which the rest depends. -/
theorem prepares_bind {first : Resolve δ} {x : Store δ} {prep : δ → Resolve β}
    {rest : δ → Store α} (prepares : Prepares first x)
    (sends : ∀ d, SendsPrepared (prep d) text exchange finish (rest d)) :
    SendsPrepared (first >>= prep) text exchange finish (x >>= rest) := by
  intro s
  rw [run_bind, prepares s, Resolve.run_bind]
  rcases first.run.run s.registry with ⟨_ | d, registry⟩
  · rfl
  · exact sends d { s with registry := registry }

/-- What follows the exchange may go on without the store. -/
theorem bind_stateless {f : α → Store ε} {g : α → Outcome ε}
    (sends : SendsPrepared prep text exchange finish m) (finishes : ∀ a, Stateless (f a) (g a)) :
    SendsPrepared prep text exchange (fun b c => finish b c >>= g) (m >>= f) := by
  intro s
  rw [run_bind, sends s]
  rcases prep.run.run s.registry with ⟨_ | b, registry⟩
  · rfl
  · dsimp only
    rcases exchange s.executor (Sql.render s.executor.style (text b)) with _ | c
    · rfl
    · dsimp only [bind, Except.bind]
      rcases finish b c with _ | a
      · rfl
      · exact finishes a _

/-- What `SendsPrepared` says of a program whose statement `prepared` writes: a failure to prepare
is the result, and leaves the executor as it was; otherwise the executor receives that statement,
written for its placeholders, and uses up at most one answer, and the result satisfies `P` when
every exchange of a prepared statement does. -/
theorem sends_after (P : Query → List Produced → Outcome α → Prop)
    {prepared : Resolve Sql.Text}
    (sends : SendsPrepared prep text exchange finish m) (same : prepared = text <$> prep)
    (reports : ∀ b (e : Executor),
      P (Sql.render e.style (text b)) (e.script.headD [])
        (exchange e (Sql.render e.style (text b)) >>= finish b))
    (s : StoreState) :
    (∀ e registry, prepared.run.run s.registry = (.error e, registry) →
        m.run.run s = (.error e, { s with registry := registry })) ∧
    ∀ t registry, prepared.run.run s.registry = (.ok t, registry) →
        let q := Sql.render s.executor.style t
        (m.run.run s).2 =
            ⟨registry, { s.executor with
              received := s.executor.received ++ [q], script := s.executor.script.tail }⟩ ∧
          P q (s.executor.script.headD []) (m.run.run s).1 := by
  rw [same, Resolve.run_map, sends s]
  rcases prep.run.run s.registry with ⟨_ | b, registry⟩
  · refine ⟨fun e registry' failed => ?_, fun t registry' prepared => ?_⟩
    · cases failed
      rfl
    · cases prepared
  · refine ⟨fun e registry' failed => ?_, fun t registry' prepared => ?_⟩
    · cases failed
    · cases prepared
      exact ⟨by simp only [Executor.run_eq], reports b s.executor⟩

end SendsPrepared

end Store

/-! ## Each record operation -/

open Store

namespace Repository

variable (r : Repository)

/-- The assignments an update by identity makes: every column outside the key, to the record's
value. -/
def keylessAssignments (t : Table) (record : Record) : List Assignment :=
  (t.columns.filter fun c => !c.isKey).map fun c => ⟨c.name, .datum (record.datum c.name)⟩

/-- The first item of a select by identity, if any. -/
def firstFound {α : Type} : List (Outcome α) → Outcome (Option α)
  | [] => .ok none
  | first :: _ => first >>= fun a => .ok (some a)

/-- The number a count's rows give: the first value of the first row, read as an unsigned 64-bit
number. -/
def countOf (rows : List (Outcome Row)) : Outcome Nat :=
  match rows with
  | [] => Outcome.fail .countWithoutRow
  | first :: _ => do
      let row ← first
      match row.values with
      | [] => Outcome.fail .countEmptyRow
      | v :: _ => do
          match ← Primitive.u64.decode v with
          | .u64 n => pure n.toNat
          | _ => pure 0

theorem insert_sends (record : Record) :
    SendsPrepared (Resolve.lift (r.table.encode record)) (Compiler.insert r.table)
      Executor.executed (fun row result => completeInsert r.table row result record)
      (r.insert record) :=
  SendsPrepared.of_exchange (prepares_lift _) exchanges_execute fun _ _ => stateless_lift _

theorem select_sends (o : SelectOptions) :
    SendsPrepared (r.compiler.select o) id Executor.fetched
      (fun _ rows => .ok (rows.map fun row => row >>= r.table.decode)) (r.select o) :=
  SendsPrepared.of_exchange (prepares_compile _) exchanges_fetch fun _ _ => stateless_pure _

theorem selectValues_sends (n : Node) (o : SelectOptions) :
    SendsPrepared (r.compiler.selectNode n o) Prod.fst Executor.fetched
      (fun compiled rows => .ok (rows.map fun row => row >>= compiled.2.decode))
      (r.selectValues n o) :=
  SendsPrepared.of_exchange (prepares_compile _) exchanges_fetch fun _ _ => stateless_pure _

theorem selectReferences_sends (n : Node) (o : SelectOptions) :
    SendsPrepared (r.compiler.selectReferences n o) Prod.fst Executor.fetched
      (fun compiled rows => .ok (rows.map fun row => row >>= compiled.2.decode))
      (r.selectReferences n o) :=
  SendsPrepared.of_exchange (prepares_compile _) exchanges_fetch fun _ _ => stateless_pure _

theorem find_sends (record : Record) :
    SendsPrepared (Resolve.lift (r.table.identity record) >>= fun w =>
        r.compiler.select { SelectOptions.addFilter {} w with limit := some 1 })
      id Executor.fetched (fun _ rows => firstFound (rows.map fun row => row >>= r.table.decode))
      (r.find record) := by
  refine SendsPrepared.prepares_bind (prepares_lift _) fun w => ?_
  refine (r.select_sends _).bind_stateless (g := firstFound) fun items => ?_
  cases items with
  | nil => exact stateless_pure _
  | cons first _ => exact (stateless_lift first).bind fun _ => stateless_pure _

theorem updateColumns_sends (assignments : List Assignment) (w : Condition) :
    SendsPrepared (r.compiler.update assignments w) id Executor.executed
      (fun _ result => .ok result.affected) (r.updateColumns assignments w) :=
  SendsPrepared.of_exchange (prepares_compile _) exchanges_execute fun _ _ => stateless_pure _

theorem update_sends (record : Record) :
    SendsPrepared (Resolve.lift (r.table.identity record) >>= fun w =>
        r.compiler.update (keylessAssignments r.table record) w)
      id Executor.executed (fun _ result => .ok result.affected) (r.update record) :=
  SendsPrepared.prepares_bind (prepares_lift _) fun _ => r.updateColumns_sends _ _

theorem delete_sends (w : Option Condition) :
    SendsPrepared (r.compiler.delete w) id Executor.executed
      (fun _ result => .ok result.affected) (r.delete w) :=
  SendsPrepared.of_exchange (prepares_compile _) exchanges_execute fun _ _ => stateless_pure _

theorem deleteRecord_sends (record : Record) :
    SendsPrepared (Resolve.lift (r.table.identity record) >>= fun w => r.compiler.delete (some w))
      id Executor.executed
      (fun _ result => if result.affected.rows == 1 then .ok ()
        else .error (Failure.of (.deletedRows result.affected.rows)))
      (r.deleteRecord record) := by
  refine SendsPrepared.prepares_bind (prepares_lift _) fun w => ?_
  refine (r.delete_sends _).bind_stateless (g := fun affected => if affected.rows == 1 then .ok ()
    else .error (Failure.of (.deletedRows affected.rows))) fun affected => ?_
  split
  · exact stateless_pure _
  · exact stateless_fail _

theorem rowCount_sends (w : Option Condition) :
    SendsPrepared (r.compiler.count w) id Executor.fetched (fun _ rows => countOf rows)
      (r.rowCount w) := by
  refine SendsPrepared.of_exchange (prepares_compile _) exchanges_fetch fun _ rows => ?_
  cases rows with
  | nil => exact stateless_fail _
  | cons first _ =>
    refine (stateless_lift first).bind fun row => ?_
    cases row.values with
    | nil => exact stateless_fail _
    | cons v _ =>
      refine (stateless_lift _).bind fun decoded => ?_
      cases decoded <;> exact stateless_pure _

/-- The statement of a record request, as the request prepares it on the registry alone: the
specifications built, the record encoded or its identity built, and the statement compiled. -/
def prepare (r : Repository) : StoreRequest → Resolve Sql.Text
  | .insert record => Compiler.insert r.table <$> Resolve.lift (r.table.encode record)
  | .select o => do r.compiler.select (← o.build)
  | .selectValues n o => Prod.fst <$> do r.compiler.selectNode (← n.build) (← o.build)
  | .selectReferences n o => Prod.fst <$> do r.compiler.selectReferences (← n.build) (← o.build)
  | .find record => do
      let w ← Resolve.lift (r.table.identity record)
      r.compiler.select { SelectOptions.addFilter {} w with limit := some 1 }
  | .update record => do
      r.compiler.update (keylessAssignments r.table record)
        (← Resolve.lift (r.table.identity record))
  | .updateColumns assignments w => do
      r.compiler.update (← buildAssignments assignments) (← w.build)
  | .delete w => do r.compiler.delete (← ConditionSpec.buildOption w)
  | .deleteRecord record => do
      r.compiler.delete (some (← Resolve.lift (r.table.identity record)))
  | .rowCount w => do r.compiler.count (← ConditionSpec.buildOption w)

end Repository

/-- What the result of a record request says of the executor's answer `answer` to its statement
`q`. A failure of the database is reported under the context of the statement as failures show it,
with the database's message as the root cause. -/
def StoreRequest.Reports : StoreRequest → Query → List Produced → Outcome StoreAnswer → Prop
  -- a select keeps each failure as one item among the records or values
  | .select _, q, answer, result | .selectReferences _ _, q, answer, result =>
      ∃ items, result = .ok (.records items) ∧ ∀ m ∈ Produced.failures answer,
        .error (Failure.mk [.fault (.executor q.display)] (.executorError m)) ∈ items
  | .selectValues _ _, q, answer, result =>
      ∃ items, result = .ok (.values items) ∧ ∀ m ∈ Produced.failures answer,
        .error (Failure.mk [.fault (.executor q.display)] (.executorError m)) ∈ items
  -- a lookup by identity and a count read the first row, which may be a failure
  | .find _, q, answer, result | .rowCount _, q, answer, result =>
      ∀ m, answer.find? Produced.isFetched = some (.failure m) →
        result = .error (Failure.mk [.fault (.executor q.display)] (.executorError m))
  -- the other requests execute their statement, and its first failure is their result
  | .insert _, q, answer, result | .update _, q, answer, result
  | .updateColumns _ _, q, answer, result | .delete _, q, answer, result
  | .deleteRecord _, q, answer, result =>
      ∀ m rest, Produced.failures answer = m :: rest →
        result = .error (Failure.mk [.fault (.executor q.display)] (.executorError m))

/-- A record request of a session prepares its statement on the registry alone, and sends nothing
when that fails: the failure is its result, and the executor keeps the statements it had received
and the answers it had still to give. Once prepared, the executor receives that one statement,
written for its placeholders, and uses up at most one answer, and a failure of the database in
that answer is reported under the statement's context. -/
theorem storeRequest_sends_after_preparing (r : Repository) (request : StoreRequest)
    (s : StoreState) :
    (∀ e registry, (r.prepare request).run.run s.registry = (.error e, registry) →
        (Session.storeRequest r request).run.run s =
          (.error e, { s with registry := registry })) ∧
    ∀ t registry, (r.prepare request).run.run s.registry = (.ok t, registry) →
        let q := Sql.render s.executor.style t
        ((Session.storeRequest r request).run.run s).2 =
            ⟨registry, { s.executor with
              received := s.executor.received ++ [q], script := s.executor.script.tail }⟩ ∧
          request.Reports q (s.executor.script.headD [])
            ((Session.storeRequest r request).run.run s).1 := by
  -- each request runs as its operation does after building its specifications; what it reports
  -- depends only on whether the operation executes its statement or fetches rows
  cases request with
  | insert record =>
    have sends : SendsPrepared _ _ Executor.executed _ (Session.storeRequest r (.insert record)) :=
      (r.insert_sends record).bind_stateless fun inserted =>
        stateless_pure (StoreAnswer.record inserted)
    refine sends.sends_after _ rfl (fun _ _ => ?_) s
    simp only [StoreRequest.Reports]
    exact fun _ _ first => Executor.executed_bind_of_failures first _
  | select o =>
    have sends : SendsPrepared _ id Executor.fetched _ (Session.storeRequest r (.select o)) :=
      SendsPrepared.prepares_bind (prepares_compile _) fun o =>
        (r.select_sends o).bind_stateless fun items => stateless_pure (StoreAnswer.records items)
    refine sends.sends_after _ (id_map _).symm (fun _ e => ?_) s
    simp only [StoreRequest.Reports]
    exact ⟨_, rfl, e.fetched_failures _ _⟩
  | selectValues n o =>
    have sends : SendsPrepared _ Prod.fst Executor.fetched _
        (Session.storeRequest r (.selectValues n o)) :=
      SendsPrepared.prepares_bind (prepares_compile _) fun n =>
        SendsPrepared.prepares_bind (prepares_compile _) fun o =>
          (r.selectValues_sends n o).bind_stateless fun items =>
            stateless_pure (StoreAnswer.values items)
    refine sends.sends_after _ rfl (fun _ e => ?_) s
    simp only [StoreRequest.Reports]
    exact ⟨_, rfl, e.fetched_failures _ _⟩
  | selectReferences n o =>
    have sends : SendsPrepared _ Prod.fst Executor.fetched _
        (Session.storeRequest r (.selectReferences n o)) :=
      SendsPrepared.prepares_bind (prepares_compile _) fun n =>
        SendsPrepared.prepares_bind (prepares_compile _) fun o =>
          (r.selectReferences_sends n o).bind_stateless fun items =>
            stateless_pure (StoreAnswer.records items)
    refine sends.sends_after _ rfl (fun _ e => ?_) s
    simp only [StoreRequest.Reports]
    exact ⟨_, rfl, e.fetched_failures _ _⟩
  | find record =>
    have sends : SendsPrepared _ id Executor.fetched _ (Session.storeRequest r (.find record)) :=
      (r.find_sends record).bind_stateless fun found => stateless_pure (StoreAnswer.found found)
    refine sends.sends_after _ (id_map _).symm (fun _ _ => ?_) s
    simp only [StoreRequest.Reports]
    exact fun _ found => Executor.fetched_bind_of_failure found _ fun _ _ => rfl
  | update record =>
    have sends : SendsPrepared _ id Executor.executed _ (Session.storeRequest r (.update record)) :=
      (r.update_sends record).bind_stateless fun affected =>
        stateless_pure (StoreAnswer.affected affected)
    refine sends.sends_after _ (id_map _).symm (fun _ _ => ?_) s
    simp only [StoreRequest.Reports]
    exact fun _ _ first => Executor.executed_bind_of_failures first _
  | updateColumns assignments w =>
    have sends : SendsPrepared _ id Executor.executed _
        (Session.storeRequest r (.updateColumns assignments w)) :=
      SendsPrepared.prepares_bind (prepares_compile _) fun assignments =>
        SendsPrepared.prepares_bind (prepares_compile _) fun w =>
          (r.updateColumns_sends assignments w).bind_stateless fun affected =>
            stateless_pure (StoreAnswer.affected affected)
    refine sends.sends_after _ (id_map _).symm (fun _ _ => ?_) s
    simp only [StoreRequest.Reports]
    exact fun _ _ first => Executor.executed_bind_of_failures first _
  | delete w =>
    have sends : SendsPrepared _ id Executor.executed _ (Session.storeRequest r (.delete w)) :=
      SendsPrepared.prepares_bind (prepares_compile _) fun w =>
        (r.delete_sends w).bind_stateless fun affected =>
          stateless_pure (StoreAnswer.affected affected)
    refine sends.sends_after _ (id_map _).symm (fun _ _ => ?_) s
    simp only [StoreRequest.Reports]
    exact fun _ _ first => Executor.executed_bind_of_failures first _
  | deleteRecord record =>
    have sends : SendsPrepared _ id Executor.executed _
        (Session.storeRequest r (.deleteRecord record)) :=
      (r.deleteRecord_sends record).bind_stateless fun _ => stateless_pure StoreAnswer.deleted
    refine sends.sends_after _ (id_map _).symm (fun _ _ => ?_) s
    simp only [StoreRequest.Reports]
    exact fun _ _ first => Executor.executed_bind_of_failures first _
  | rowCount w =>
    have sends : SendsPrepared _ id Executor.fetched _ (Session.storeRequest r (.rowCount w)) :=
      SendsPrepared.prepares_bind (prepares_compile _) fun w =>
        (r.rowCount_sends w).bind_stateless fun n => stateless_pure (StoreAnswer.count n)
    refine sends.sends_after _ (id_map _).symm (fun _ _ => ?_) s
    simp only [StoreRequest.Reports]
    exact fun _ found => Executor.fetched_bind_of_failure found _ fun _ _ => rfl

end RelMap
