import ContentQuery.Proofs.Evaluation.Faults
import ContentQuery.Proofs.Execution.Columns
import ContentQuery.Proofs.Execution.Joins
import Mathlib.Tactic.Choose

/-!
# Running bound statements

What binding has checked is enough for the steps of a query: a join condition has a value on both
sides, each SELECT item has columns (`Column.exists_ofStatement`), each ORDER BY item a value.
Without an index there is only one error left that a row can meet, and it does not depend on the
row. The main result is `query_fails_nowhere_or_everywhere`: a query counts no errors, or one for
every row.
-/

set_option autoImplicit false

namespace ContentQuery

open Binding

variable {catalog : Catalog} {bound : BoundStatement}

/-! ## Joins -/

namespace Join

/-- The rows can be extended by one type after the other. -/
theorem extendAll_ok {others : List (Source × String × List ContentObject)}
    (h : ∀ other ∈ others, ∀ j ∈ other.1.join, JoinChecked bound.bindings j) (rows : List Row) :
    ∃ extended, extendAll bound rows others = .ok extended := by
  induction others generalizing rows with
  | nil => exact ⟨rows, rfl⟩
  | cons other others ih =>
    obtain ⟨source, aliasName, objects⟩ := other
    have hextend := fun row (_ : row ∈ rows) =>
      extend_eq row aliasName (h _ List.mem_cons_self) objects
    rw [extendAll, mapM_eq_pure hextend, pure_bind]
    exact ih (fun other hother => h other (List.mem_cons_of_mem _ hother)) _

theorem rows_ok (h : ∀ j ∈ bound.statement.joins, JoinChecked bound.bindings j)
    (candidates : List (String × List ContentObject)) :
    ∃ joined, rows bound candidates = .ok joined := by
  cases candidates with
  | nil => exact ⟨[], rfl⟩
  | cons first others =>
    refine extendAll_ok (fun other hother j hj => h j ?_) _
    have hsource : other.1 ∈ bound.statement.sources :=
      List.mem_of_mem_drop (List.of_mem_zip (a := other.1) (b := other.2) hother).1
    exact List.mem_filterMap.2 ⟨other.1, hsource, hj⟩

end Join

/-! ## Values -/

namespace Evaluator

variable {m : Type → Type} [Monad m] [LawfulMonad m] {e : Evaluator m} {row : Row}

theorem score_ok {found : FullText.Match} (h : e.fullTextMatch row = pure found) :
    e.score row = pure found.score := by
  rw [score, h, pure_bind]

theorem selectorValue_ok {sel : Selector} (hs : SortChecked e.bound.bindings sel)
    {found : FullText.Match} (h : e.fullTextMatch row = pure found) :
    ∃ v, e.selectorValue sel.id row = pure v := by
  unfold selectorValue
  rcases hs with hr | ⟨side, typeId, p, hr, -⟩
  · have hr : e.bound.resolution? sel.id = some .score := hr
    rw [hr]
    exact ⟨_, by dsimp only; rw [score_ok h, pure_bind]⟩
  · have hr : e.bound.resolution? sel.id = some (.property side typeId p) := hr
    rw [hr]
    exact ⟨_, rfl⟩

theorem sortKey_ok (hs : ∀ spec ∈ e.bound.statement.orderBy,
    SortChecked e.bound.bindings spec.selector) {found : FullText.Match}
    (h : e.fullTextMatch row = pure found) : ∃ key, e.sortKey row = pure key := by
  refine exists_mapM_eq_pure fun spec hspec => ?_
  obtain ⟨v, hv⟩ := selectorValue_ok (hs spec hspec) h
  exact ⟨v.bind PropertyValue.single?, by rw [hv, pure_bind]⟩

end Evaluator

/-! ## Steps -/

namespace Execution

section
variable {α β : Type} (xs : List α)

theorem successes_map (f : α → Except QueryError β) :
    successes xs (xs.map f) =
      (xs.filterMap fun x => (f x).toOption.map fun b => (x, b),
        xs.countP fun x => !(f x).toBool) := by
  simp only [successes, ← List.map_prod_left_eq_zip, List.filterMap_map, List.countP_map]
  rfl

theorem successes_ok (f : α → β) :
    successes xs (xs.map fun x => (.ok (f x) : Except QueryError β)) =
      (xs.map fun x => (x, f x), 0) := by
  rw [successes_map]
  exact Prod.ext (congrFun List.filterMap_eq_map' xs) (List.countP_eq_zero.2 fun _ _ => nofun)

theorem successes_error (f : α → QueryError) :
    successes xs (xs.map fun x => (.error (f x) : Except QueryError β)) = ([], xs.length) := by
  rw [successes_map]
  refine Prod.ext (List.filterMap_eq_nil_iff.2 fun _ _ => rfl) ?_
  exact List.countP_eq_length.2 fun _ _ => rfl

end

variable {m : Type → Type} [Monad m] [LawfulMonad m] {e : Evaluator m}

/-- The outcomes of computations that all have a value. -/
theorem mapM_run_of_pure {α β : Type} {f : α → ExceptT QueryError m β} {g : α → β}
    (h : ∀ x, f x = pure (g x)) (xs : List α) :
    xs.mapM (fun x => (f x).run) = pure (xs.map fun x => .ok (g x)) := by
  simp only [h, ExceptT.run_pure]
  exact List.mapM_pure

/-- The outcomes of computations that all fail. -/
theorem mapM_run_of_throw {α β : Type} {f : α → ExceptT QueryError m β} {fault : α → QueryError}
    (h : ∀ x, f x = throw (fault x)) (xs : List α) :
    xs.mapM (fun x => (f x).run) = pure (xs.map fun x => .error (fault x)) := by
  simp only [h, ExceptT.run_throw]
  exact List.mapM_pure

/-- If every row has an answer, the rows that satisfy the WHERE tree are kept. -/
theorem filterRows_of_pure {verdict : Row → Bool}
    (h : ∀ row, e.evaluateRow row = pure (verdict row)) (rows : List Row) :
    filterRows e rows = pure (rows.filter verdict, 0) := by
  have hkept : ((rows.map fun row => (row, verdict row)).filter (·.2)).map (·.1) =
      rows.filter verdict := by
    rw [List.filter_map, List.map_map]
    exact List.map_id _
  rw [filterRows, mapM_run_of_pure h, pure_bind]
  simp only [successes_ok, hkept]

/-- If no row has an answer, none is kept and all are counted. -/
theorem filterRows_of_throw (h : ∀ row, ∃ fault, e.evaluateRow row = throw fault)
    (rows : List Row) : filterRows e rows = pure ([], rows.length) := by
  choose fault hfault using h
  rw [filterRows, mapM_run_of_throw hfault, pure_bind]
  simp only [successes_error]
  rfl

/-- Sorting leaves no row out. -/
theorem sortRows_of_pure (h : ∀ row, ∃ key, e.sortKey row = pure key) (rows : List Row) :
    ∃ sorted, sorted.length = rows.length ∧ sortRows e rows = pure (sorted, 0) := by
  choose key hkey using h
  rw [sortRows, mapM_run_of_pure hkey, pure_bind]
  simp only [successes_ok]
  exact ⟨_, by simp only [List.length_map, (List.mergeSort_perm _ _).length_eq], rfl⟩

/-- A page whose cells all have a value. -/
theorem project_of_pure (h : ∀ row, ∃ score, e.score row = pure score) (columns : List Column)
    (rows : List Row) :
    ∃ cells, cells.length = rows.length ∧ project e columns rows = pure (cells, 0) := by
  have hcell : ∀ row column, ∃ value, cell e row column = pure (value, false) := by
    rintro row ⟨heading, projection⟩
    cases projection with
    | property aliasName propertyId => exact ⟨_, rfl⟩
    | score =>
      obtain ⟨score, hscore⟩ := h row
      refine ⟨some (.single (.decimal score)), ?_⟩
      simp only [cell, hscore, ExceptT.run_pure, pure_bind]
  choose value hvalue using hcell
  have hrun : cell e = fun row column => pure (value row column, false) :=
    funext fun row => funext fun column => hvalue row column
  have hfailed : (rows.map fun row => columns.map fun column =>
      (value row column, false)).flatten.countP (·.2) = 0 := by
    refine List.countP_eq_zero.2 fun shown hshown => ?_
    obtain ⟨cells, hcells, hshown⟩ := List.mem_flatten.1 hshown
    obtain ⟨row, -, rfl⟩ := List.mem_map.1 hcells
    obtain ⟨column, -, rfl⟩ := List.mem_map.1 hshown
    exact Bool.false_ne_true
  unfold project
  rw [hrun]
  simp only [List.mapM_pure, pure_bind, hfailed]
  exact ⟨_, by rw [List.length_map, List.length_map], rfl⟩

/-! ## Queries -/

section
variable {α : Type}

omit [LawfulMonad m] in
theorem liftExcept_ok (a : α) : execute.liftExcept (m := m) (.ok a) = pure a := rfl

omit [LawfulMonad m] in
theorem liftExcept_error (fault : QueryError) :
    execute.liftExcept (m := m) (.error fault : Except QueryError α) = throw fault := rfl

end

variable {repository : Repository} {index : Option (TextIndex m)} {config : Config}

/-- The errors and matches of a query are those of its WHERE tree, if sort keys and scores have
values in every row. -/
theorem execute_of_filterRows {rows matching : List Row} {columns : List Column} {errors : Nat}
    (hrows : Join.rows bound (candidates catalog repository config bound) = .ok rows)
    (hprepare : Evaluator.prepare bound repository.folders index config.caseSensitiveText = .ok e)
    (hfilter : filterRows e rows = pure (matching, errors))
    (hkey : ∀ row, ∃ key, e.sortKey row = pure key)
    (hcolumns : Column.ofStatement bound = .ok columns)
    (hscore : ∀ row, ∃ score, e.score row = pure score) :
    ∃ result, execute catalog repository index config bound = pure result ∧
      result.stats.errors = errors ∧ result.stats.matched = matching.length ∧
      result.rows.length = (page config matching).length := by
  have hlift {α : Type} (a : α) : (ExceptT.lift (pure a) : ExceptT QueryError m α) = pure a :=
    map_pure Except.ok a
  simp only [execute, hrows, hprepare, hcolumns, hfilter, liftExcept_ok, hlift, pure_bind]
  split
  · obtain ⟨cells, hcells, hproject⟩ := project_of_pure hscore columns (page config matching)
    simp only [hproject, hlift, pure_bind]
    exact ⟨_, rfl, rfl, rfl, hcells⟩
  · obtain ⟨sorted, hlength, hsorted⟩ := sortRows_of_pure hkey matching
    obtain ⟨cells, hcells, hproject⟩ := project_of_pure hscore columns (page config sorted)
    simp only [hsorted, hproject, hlift, pure_bind]
    refine ⟨_, rfl, rfl, hlength, hcells.trans ?_⟩
    simp only [page, List.length_take, List.length_drop, hlength]

omit [LawfulMonad m] in
theorem query_of_bind {text : String} {s : Statement} (hparse : Statement.parse text = .ok s)
    (hbind : s.bind catalog = .ok bound) :
    query catalog repository index config text =
      execute catalog repository index config bound := by
  unfold query
  rw [hparse]
  dsimp only
  rw [Statement.bindNamed, hbind]
  rfl

/-- What a query shows, as it is evaluated. -/
theorem query_shows {α : Type} [DecidableEq α] {index : Option (TextIndex Id)} {text : String}
    (f : QueryResult → α) {shown : α}
    (h : ((Statement.parse text).toOption.any fun s => (s.bind catalog).toOption.any fun bound =>
      decide ((execute catalog repository index config bound).run.run.toOption.map f =
        some shown)) = true) :
    (query catalog repository index config text).run.run.toOption.map f = some shown := by
  obtain ⟨s, hs, h⟩ := exists_of_any_toOption h
  obtain ⟨bound, hbound, h⟩ := exists_of_any_toOption h
  rw [query_of_bind hs hbound]
  exact of_decide_eq_true h

/-- **A query fails on no row or on every row.** Without an index, a query that is parsed and bound
has a result, and sort keys and scores have values in every row. If the left side of every `= ANY`
is a literal, the WHERE tree has an answer in every row, no errors are counted, and what matches is
what satisfies the tree. Otherwise the tree has an answer in no row: all rows are counted as errors
and none is found. -/
theorem query_fails_nowhere_or_everywhere {text : String} {s : Statement}
    (hparse : Statement.parse text = .ok s) (hbind : s.bind catalog = .ok bound)
    (repository : Repository) (config : Config) :
    ∃ (e : Evaluator m) (rows : List Row) (result : QueryResult),
      Evaluator.prepare bound repository.folders none config.caseSensitiveText = .ok e ∧
      Join.rows bound (candidates catalog repository config bound) = .ok rows ∧
      query (m := m) catalog repository none config text = pure result ∧
      (∀ row, (∃ key, e.sortKey row = pure key) ∧ ∃ score, e.score row = pure score) ∧
      ((∀ p ∈ s.filter, p.LiteralBeforeAny) → ∃ verdict : Row → Bool,
        (∀ row, e.evaluateRow row = pure (verdict row)) ∧
        result.stats.errors = 0 ∧ result.stats.matched = rows.countP verdict) ∧
      ((¬∀ p ∈ s.filter, p.LiteralBeforeAny) →
        (∀ row, ∃ fault, e.evaluateRow row = throw fault) ∧
        result.stats.errors = rows.length ∧ result.stats.matched = 0 ∧ result.rows = []) := by
  rw [query_of_bind hparse hbind]
  obtain ⟨hcond, -⟩ := Statement.parse_ok hparse
  obtain ⟨rfl, hbound⟩ := bind_ok (Statement.selectors_ids_nodup hparse) hbind
  obtain ⟨rows, hrows⟩ := Join.rows_ok hbound.joins (candidates catalog repository config bound)
  obtain ⟨columns, hcolumns⟩ := Column.ofStatement_ok hbound
  obtain ⟨e, hprepare, rfl, -, hindex, -, hpattern⟩ := Evaluator.prepare_ok (m := m) hcond
    hbound.filter repository.folders none config.caseSensitiveText
  have hsearch := Evaluator.fullTextMatch_without_index hbound hcond hindex
  have hkey : ∀ row, ∃ key, e.sortKey row = pure key := by
    intro row
    obtain ⟨found, hfound⟩ := hsearch row
    exact Evaluator.sortKey_ok hbound.orderBy hfound
  have hscore : ∀ row, ∃ score, e.score row = pure score := by
    intro row
    obtain ⟨found, hfound⟩ := hsearch row
    exact ⟨_, Evaluator.score_ok hfound⟩
  have hvalues := fun row => And.intro (hkey row) (hscore row)
  by_cases hany : ∀ p ∈ e.bound.statement.filter, p.LiteralBeforeAny
  · have hanswer : ∀ row, ∃ answer, e.evaluateRow row = pure answer := by
      intro row
      obtain ⟨found, hfound⟩ := hsearch row
      exact Evaluator.evaluateRow_of_fullTextMatch hcond hbound.filter hany hpattern hfound
    choose verdict hverdict using hanswer
    obtain ⟨result, hresult, herrors, hmatched, -⟩ := execute_of_filterRows hrows hprepare
      (filterRows_of_pure hverdict rows) hkey hcolumns hscore
    refine ⟨e, rows, result, hprepare, hrows, hresult, hvalues, fun _ => ?_,
      fun hno => absurd hany hno⟩
    exact ⟨verdict, hverdict, herrors, hmatched.trans List.countP_eq_length_filter.symm⟩
  · have hfault : ∀ row, ∃ fault, e.evaluateRow row = throw fault := by
      intro row
      obtain ⟨found, hfound⟩ := hsearch row
      exact Evaluator.evaluateRow_faults hcond hbound.filter hany hpattern hfound
    obtain ⟨result, hresult, herrors, hmatched, hlength⟩ := execute_of_filterRows hrows hprepare
      (filterRows_of_throw hfault rows) hkey hcolumns hscore
    refine ⟨e, rows, result, hprepare, hrows, hresult, hvalues, fun hall => absurd hall hany,
      fun _ => ⟨hfault, herrors, hmatched, ?_⟩⟩
    rw [page, List.drop_nil, List.take_nil] at hlength
    exact List.eq_nil_of_length_eq_zero hlength

/-- An outer self-join with a score. -/
def sampleText : String :=
  "SELECT d.*, SCORE() AS points FROM cmis:document d " ++
    "LEFT JOIN cmis:document e ON d.cmis:objectId = e.cmis:objectId " ++
    "WHERE d.cmis:name LIKE 'a%' AND NOT 'x' = ANY d.cmis:secondaryObjectTypeIds " ++
    "ORDER BY points DESC, e.cmis:name"

theorem sampleText_bound : ∃ s bound,
    Statement.parse sampleText = .ok s ∧ s.bind .base = .ok bound ∧
    ∀ p ∈ s.filter, p.LiteralBeforeAny := by
  refine exists_bound (fun s _ => decide (∀ p ∈ s.filter, p.LiteralBeforeAny)) ?_
    fun _ _ _ _ hcheck => of_decide_eq_true hcheck
  delta sampleText
  rw [← String.ofList_append, ← String.ofList_append, ← String.ofList_append,
    Statement.parse_ofList]
  decide +kernel

theorem query_fails_nowhere_sample : ∃ s bound,
    Statement.parse sampleText = .ok s ∧ s.bind .base = .ok bound ∧
    (∀ p ∈ s.filter, p.LiteralBeforeAny) ∧
    ∃ result, query (m := Id) .base ⟨.ofList [("d", sampleDocument)], ⟨false⟩⟩ none {} sampleText =
      pure result ∧ result.stats.errors = 0 := by
  obtain ⟨s, bound, hs, hbound, hany⟩ := sampleText_bound
  obtain ⟨_, _, result, -, -, hresult, -, hnowhere, -⟩ :=
    query_fails_nowhere_or_everywhere (m := Id) hs hbound
      ⟨.ofList [("d", sampleDocument)], ⟨false⟩⟩ {}
  obtain ⟨_, -, herrors, -⟩ := hnowhere hany
  exact ⟨s, bound, hs, hbound, hany, result, hresult, herrors⟩

/-- A type with a property of one value and one of many. -/
def parcelType : TypeDefinition where
  id := "Parcel"
  parentId := some BaseType.document.id
  queryable := true
  fulltextIndexed := false
  properties := [.single "weight" .integer, .multi "limits" .integer]

/-- A repository of one parcel. -/
def parcels : Repository where
  objects := .ofList [("p", {
    id := "p"
    typeId := "Parcel"
    parentId := none
    properties := .ofList [("weight", .single (.integer 3))]
    content := none })]
  matcher := ⟨false⟩

/-- A column to the left of `= ANY` passes the binder, and then every row fails. -/
theorem column_before_any_fails : ∃ catalog stored,
    Catalog.base.register parcelType = .ok (catalog, stored) ∧ ∃ s bound,
    Statement.parse "SELECT weight FROM Parcel WHERE weight = ANY limits" = .ok s ∧
    s.bind catalog = .ok bound ∧ ∃ result,
    execute (m := Id) catalog parcels none {} bound = pure result ∧
      result.stats.scanned = 1 ∧ result.stats.errors = 1 ∧ result.rows = [] := by
  obtain ⟨⟨catalog, stored⟩, hregister, hcheck⟩ := exists_of_any_toOption
    (x := Catalog.base.register parcelType)
    (p := fun c =>
      (Statement.parse "SELECT weight FROM Parcel WHERE weight = ANY limits").toOption.any fun s =>
        (s.bind c.1).toOption.any fun bound =>
          (execute (m := Id) c.1 parcels none {} bound).run.toOption.any fun result => decide
            (result.stats.scanned = 1 ∧ result.stats.errors = 1 ∧ result.rows = []))
    (by rw [Statement.parse_ofList]; decide +kernel)
  refine ⟨catalog, stored, hregister, exists_bound _ hcheck fun _ bound _ _ hrun => ?_⟩
  obtain ⟨result, hresult, h⟩ := exists_of_any_toOption hrun
  exact ⟨result, hresult, of_decide_eq_true h⟩

end Execution

end ContentQuery
