import ContentQuery.Binding.Bind
import ContentQuery.Config
import ContentQuery.Evaluation.Predicate
import ContentQuery.Execution.Join
import ContentQuery.Statement.Parser

/-!
# Running queries

A bound statement runs in steps: candidates and joins, the WHERE tree, the order, the page and its
columns. A row whose test or sort key fails is left out and counted; a score that fails is shown
as null and counted.
-/

set_option autoImplicit false

namespace ContentQuery

/-- What was looked at, what matched, what is on the page and what failed. -/
structure QueryStats where
  scanned : Nat
  matched : Nat
  returned : Nat
  errors : Nat
deriving DecidableEq, Repr

/-- A page of results. An absent cell is null. -/
structure QueryResult where
  columns : List String
  rows : List (List (Option PropertyValue))
  stats : QueryStats
  hasMoreItems : Bool
  numItems : Nat
deriving DecidableEq

/-! ## Columns -/

/-- Where the cells of a column come from. -/
inductive Projection
  | property (aliasName propertyId : String)
  | score
deriving DecidableEq, Repr

structure Column where
  heading : String
  projection : Projection
deriving DecidableEq, Repr

namespace Column

/-- The heading of a SELECT item: its alias, or what the query writes. -/
def headingOf (item : SelectItem) : String := item.aliasName.getD item.selector.toText

/-- The columns of all properties of the type under an alias. With more than one type the
headings name the alias. -/
def ofType (bound : BoundStatement) (aliasName : String) : Except QueryError (List Column) :=
  match bound.bindings.types.get? aliasName with
  | none => .error (.typeNotFound aliasName)
  | some t =>
    let qualify := 1 < bound.bindings.types.size
    .ok (t.properties.map fun p =>
      { heading := if qualify then aliasName ++ "." ++ p.queryName else p.queryName
        projection := .property aliasName p.id })

/-- The columns of a SELECT item. -/
def ofItem (bound : BoundStatement) (item : SelectItem) : Except QueryError (List Column) :=
  match bound.resolution? item.selector.id with
  | some (.wildcard aliases) => (aliases.mapM (ofType bound)).map List.flatten
  | some (.property aliasName _ p) => .ok [⟨headingOf item, .property aliasName p.id⟩]
  | some .score => .ok [⟨headingOf item, .score⟩]
  | none => .error (.execution (.unboundSelector item.selector.toText))

/-- The columns of the SELECT list. -/
def ofStatement (bound : BoundStatement) : Except QueryError (List Column) :=
  (bound.statement.select.mapM (ofItem bound)).map List.flatten

end Column

namespace Execution

/-! ## Steps -/

/-- The objects that each alias of the FROM list ranges over. -/
def candidates (catalog : Catalog) (repository : Repository) (config : Config)
    (bound : BoundStatement) : List (String × List ContentObject) :=
  bound.bindings.types.entries.map fun (aliasName, t) =>
    (aliasName, repository.objectsOfType catalog t.id config.includeSubtypes)

/-- The items of a list for which a computation succeeds, with its results, and the number of
those for which it fails. -/
def successes {α β : Type} (items : List α) (outcomes : List (Except QueryError β)) :
    List (α × β) × Nat :=
  let pairs := items.zip outcomes
  (pairs.filterMap fun (item, outcome) => outcome.toOption.map fun b => (item, b),
    pairs.countP fun (_, outcome) => !outcome.toBool)

variable {m : Type → Type} [Monad m]

/-- The rows that satisfy the WHERE tree, and the number of those for which it fails. -/
def filterRows (e : Evaluator m) (rows : List Row) : m (List Row × Nat) := do
  let outcomes ← rows.mapM fun row => (e.evaluateRow row).run
  let (tested, errors) := successes rows outcomes
  return ((tested.filter (·.2)).map (·.1), errors)

/-- The rows in the order of their sort keys, equal ones as before, and the number of those whose
key fails. -/
def sortRows (e : Evaluator m) (rows : List Row) : m (List Row × Nat) := do
  let outcomes ← rows.mapM fun row => (e.sortKey row).run
  let (keyed, errors) := successes rows outcomes
  let specs := directions e.bound.statement.orderBy
  let inOrder := keyed.mergeSort fun a b => SortKey.compare specs a.2 b.2 != .gt
  return (inOrder.map (·.1), errors)

/-- The size of a page. -/
def pageLimit (config : Config) : Nat :=
  if config.maxItems = 0 then maxUInt64 else config.maxItems.toNat

/-- The rows of the page. -/
def page (config : Config) (rows : List Row) : List Row :=
  (rows.drop config.skipCount.toNat).take (pageLimit config)

/-- Whether there are rows behind the page. -/
def hasMore (config : Config) (numItems : Nat) : Bool :=
  min (config.skipCount.toNat + pageLimit config) maxUInt64 < numItems

/-- A cell of the page, and whether it failed. -/
def cell (e : Evaluator m) (row : Row) (column : Column) : m (Option PropertyValue × Bool) :=
  match column.projection with
  | .property aliasName propertyId =>
    return ((row.get? aliasName).bind (·.property? propertyId), false)
  | .score => do
    match ← (e.score row).run with
    | .ok score => return (some (.single (.decimal score)), false)
    | .error _ => return (none, true)

/-- The cells of the page, row by row, and the number of those that failed. -/
def project (e : Evaluator m) (columns : List Column) (rows : List Row) :
    m (List (List (Option PropertyValue)) × Nat) := do
  let cells ← rows.mapM fun row => columns.mapM (cell e row)
  return (cells.map (·.map (·.1)), cells.flatten.countP (·.2))

/-! ## Queries -/

/-- Runs a bound statement. -/
def execute (catalog : Catalog) (repository : Repository) (index : Option (TextIndex m))
    (config : Config) (bound : BoundStatement) : ExceptT QueryError m QueryResult := do
  let candidates := candidates catalog repository config bound
  let rows ← liftExcept (Join.rows bound candidates)
  let e ← liftExcept (Evaluator.prepare bound repository.folders index config.caseSensitiveText)
  let (matching, testErrors) ← ExceptT.lift (filterRows e rows)
  let (matching, keyErrors) ←
    if bound.statement.orderBy.isEmpty then pure (matching, 0)
    else ExceptT.lift (sortRows e matching)
  let columns ← liftExcept (Column.ofStatement bound)
  let (cells, cellErrors) ← ExceptT.lift (project e columns (page config matching))
  return {
    columns := columns.map (·.heading)
    rows := cells
    stats := {
      scanned := total (candidates.map (·.2.length))
      matched := matching.length
      returned := cells.length
      errors := testErrors + keyErrors + cellErrors }
    hasMoreItems := hasMore config matching.length
    numItems := matching.length }
where
  liftExcept {α : Type} (x : Except QueryError α) : ExceptT QueryError m α :=
    ExceptT.mk (pure x)

/-- Reads, binds and runs a query. -/
def query (catalog : Catalog) (repository : Repository) (index : Option (TextIndex m))
    (config : Config) (text : String) : ExceptT QueryError m QueryResult := do
  match Statement.parse text with
  | .error fault => throw (.ofParse fault)
  | .ok statement =>
    match statement.bindNamed catalog with
    | .error fault => throw fault
    | .ok bound => execute catalog repository index config bound

end Execution

end ContentQuery
