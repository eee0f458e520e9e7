import ContentQuery.Proofs.Execution.Runs

/-!
# The outcome of a run

An index whose answers are a function of its arguments gives each row a verdict, a sort key and a
score of its own, or an error in place of one of them (`Evaluator.verdict`, `Evaluator.key`,
`Evaluator.points`). `Execution.found` lists the rows that a query finds in the order of its
results, and `found_eq` says how it comes from the joined rows. `run_execute` puts a run together:
joining, preparing and naming the columns may fail, and everything else is made of the outcomes of
the joined rows (`Execution.resultOf`).
-/

set_option autoImplicit false

namespace ContentQuery

/-- Whether there is an error in place of a value. -/
def fails {ε α : Type} (outcome : Except ε α) : Bool := !outcome.toBool

section
variable {ε α : Type}

@[simp] theorem fails_ok (a : α) : fails (.ok a : Except ε α) = false := rfl

@[simp] theorem fails_error (e : ε) : fails (.error e : Except ε α) = true := rfl

@[simp] theorem toOption_ok (a : α) : (.ok a : Except ε α).toOption = some a := rfl

@[simp] theorem toOption_error (e : ε) : (.error e : Except ε α).toOption = none := rfl

theorem fails_iff {outcome : Except ε α} : fails outcome = true ↔ ∃ e, outcome = .error e := by
  cases outcome <;> simp

end

/-! ## Outcomes of a row -/

namespace Evaluator

variable (e : Evaluator Id) (row : Row)

/-- What the WHERE tree says of a row. -/
def verdict : Except QueryError Bool := (e.evaluateRow row).run.run

/-- The sort key of a row. -/
def key : Except QueryError SortKey := (e.sortKey row).run.run

/-- The score of a row. -/
def points : Except QueryError Decimal := (e.score row).run.run

/-- Whether a row satisfies the WHERE tree, without an error. -/
def satisfied : Bool := (e.verdict row).toOption == some true

/-- Whether a row is among those that a query finds. -/
def isFound : Bool := e.satisfied row && !fails (e.key row)

/-- Whether a cell asks for a score that fails. -/
def cellFails (cell : Row × Column) : Bool :=
  cell.2.projection == .score && fails (e.points cell.1)

/-- What a cell shows: a stored property, or the score if it has not failed. -/
def shown (column : Column) : Option PropertyValue :=
  match column.projection with
  | .property aliasName propertyId => (row.get? aliasName).bind (·.property? propertyId)
  | .score => (e.points row).toOption.map fun score => .single (.decimal score)

variable {e row}

theorem satisfied_iff : e.satisfied row = true ↔ e.verdict row = .ok true := by
  rw [satisfied, beq_iff_eq]
  cases e.verdict row <;> simp

/-- A score that fails shows as null. -/
theorem shown_of_cellFails {column : Column} (h : e.cellFails (row, column) = true) :
    e.shown row column = none := by
  simp only [cellFails, Bool.and_eq_true, beq_iff_eq] at h
  obtain ⟨hscore, hfails⟩ := h
  obtain ⟨fault, hfault⟩ := fails_iff.1 hfails
  simp only [shown, hscore, hfault, toOption_error, Option.map_none]

theorem cell_eq (column : Column) :
    (Execution.cell e row column).run = (e.shown row column, e.cellFails (row, column)) := by
  obtain ⟨heading, projection⟩ := column
  cases projection with
  | property aliasName propertyId => rfl
  | score =>
    have hrun : (e.score row).run = (pure (e.points row) : Id _) := rfl
    simp only [Execution.cell, hrun, pure_bind, shown, cellFails]
    cases e.points row <;> rfl

end Evaluator

/-! ## The rows that are found -/

namespace Execution

variable {e : Evaluator Id}

/-- The rows that a query finds among the joined ones, in the order of its results. -/
def found (e : Evaluator Id) (rows : List Row) : List Row :=
  let matching := (filterRows e rows).run.1
  if e.bound.statement.orderBy.isEmpty then matching else (sortRows e matching).run.1

/-- The number of rows without a sort key among those that a query would otherwise find. -/
def keyErrors (e : Evaluator Id) (rows : List Row) : Nat :=
  if e.bound.statement.orderBy.isEmpty then 0
  else (sortRows e (filterRows e rows).run.1).run.2

/-- The rows that have a sort key, with their keys. -/
def keyed (e : Evaluator Id) (rows : List Row) : List (Row × SortKey) :=
  rows.filterMap fun row => (e.key row).toOption.map fun key => (row, key)

/-- The order of rows with their keys. -/
def keyLe (e : Evaluator Id) (a b : Row × SortKey) : Bool :=
  SortKey.compare (directions e.bound.statement.orderBy) a.2 b.2 != .gt

theorem filterRows_eq (e : Evaluator Id) (rows : List Row) :
    (filterRows e rows).run =
      (rows.filter e.satisfied, rows.countP fun row => fails (e.verdict row)) := by
  have hrun : rows.mapM (fun row => (e.evaluateRow row).run) = pure (rows.map e.verdict) :=
    mapM_eq_pure fun row _ => rfl
  have hkept : ((rows.filterMap fun row => (e.verdict row).toOption.map fun b => (row, b)).filter
      (·.2)).map (·.1) = rows.filter e.satisfied := by
    induction rows with
    | nil => rfl
    | cons row rows ih =>
      have ih := ih (mapM_eq_pure fun row _ => rfl)
      cases hv : e.verdict row with
      | error fault =>
        have hno : e.satisfied row = false := by simp [Evaluator.satisfied, hv]
        simp [hv, hno, ← ih]
      | ok answer =>
        have hanswer : e.satisfied row = answer := by simp [Evaluator.satisfied, hv]
        cases answer <;> simp [hv, hanswer, ← ih]
  rw [filterRows, hrun, pure_bind, successes_map]
  exact Prod.ext hkept rfl

theorem sortRows_eq (e : Evaluator Id) (rows : List Row) :
    (sortRows e rows).run = (((keyed e rows).mergeSort (keyLe e)).map (·.1),
      rows.countP fun row => fails (e.key row)) := by
  have hrun : rows.mapM (fun row => (e.sortKey row).run) = pure (rows.map e.key) :=
    mapM_eq_pure fun row _ => rfl
  rw [sortRows, hrun, pure_bind, successes_map]
  rfl

/-- Without ORDER BY all rows have the same empty key. -/
theorem key_of_isEmpty (h : e.bound.statement.orderBy.isEmpty = true) (row : Row) :
    e.key row = .ok [] := by
  rw [Evaluator.key, Evaluator.sortKey, List.isEmpty_iff.1 h]
  rfl

theorem map_fst_keyed (e : Evaluator Id) (rows : List Row) :
    (keyed e rows).map (·.1) = rows.filter fun row => !fails (e.key row) := by
  unfold keyed
  induction rows with
  | nil => rfl
  | cons row rows ih => cases hk : e.key row <;> simp [hk, ih]

/-- **The rows that a query finds**: those that satisfy the WHERE tree and have a sort key, sorted
by their keys. -/
theorem found_eq (e : Evaluator Id) (rows : List Row) :
    found e rows =
      ((keyed e (rows.filter e.satisfied)).mergeSort (keyLe e)).map (·.1) := by
  unfold found
  rw [filterRows_eq]
  split
  · rename_i hempty
    have hall : ∀ a ∈ keyed e (rows.filter e.satisfied), a.2 = [] := by
      intro a ha
      obtain ⟨row, -, hrow⟩ := List.mem_filterMap.1 ha
      rw [key_of_isEmpty hempty] at hrow
      cases hrow
      rfl
    have hsorted : (keyed e (rows.filter e.satisfied)).Pairwise fun a b => keyLe e a b = true := by
      refine List.pairwise_of_forall_mem_list fun a ha b hb => ?_
      rw [keyLe, List.isEmpty_iff.1 hempty, hall a ha, hall b hb]
      rfl
    have hkeys : ∀ row ∈ rows.filter e.satisfied, (!fails (e.key row)) = true := by
      intro row _
      rw [key_of_isEmpty hempty]
      rfl
    rw [List.mergeSort_of_pairwise hsorted, map_fst_keyed, List.filter_eq_self.2 hkeys]
  · dsimp only
    rw [sortRows_eq]

/-- No row is lost but those that fail, and none is repeated. -/
theorem found_perm (e : Evaluator Id) (rows : List Row) :
    (found e rows).Perm (rows.filter e.isFound) := by
  have hperm := (List.mergeSort_perm (keyed e (rows.filter e.satisfied)) (keyLe e)).map (·.1)
  rw [map_fst_keyed, List.filter_filter] at hperm
  rw [found_eq]
  refine hperm.trans (List.Perm.of_eq ?_)
  refine congrArg (fun p => rows.filter p) (funext fun row => ?_)
  rw [Evaluator.isFound, Bool.and_comm]

theorem keyErrors_eq (e : Evaluator Id) (rows : List Row) :
    keyErrors e rows = rows.countP fun row => e.satisfied row && fails (e.key row) := by
  unfold keyErrors
  rw [filterRows_eq]
  split
  · rename_i hempty
    refine (List.countP_eq_zero.2 fun row _ => ?_).symm
    simp [key_of_isEmpty hempty row]
  · rw [sortRows_eq]
    show (rows.filter e.satisfied).countP (fun row => fails (e.key row)) = _
    rw [List.countP_filter]
    refine List.countP_congr fun row _ => ?_
    rw [Bool.and_comm]

/-- The cells of a page and the number of those that fail. -/
theorem project_run (e : Evaluator Id) (columns : List Column) (rows : List Row) :
    (project e columns rows).run = (rows.map fun row => columns.map (e.shown row),
      (rows.product columns).countP e.cellFails) := by
  have hrow : ∀ row, columns.mapM (cell e row) =
      pure (columns.map fun column => (e.shown row column, e.cellFails (row, column))) :=
    fun row => mapM_eq_pure fun column _ => Evaluator.cell_eq column
  have hrows : rows.mapM (fun row => columns.mapM (cell e row)) =
      pure (rows.map fun row => columns.map fun column =>
        (e.shown row column, e.cellFails (row, column))) := mapM_eq_pure fun row _ => hrow row
  unfold project
  rw [hrows, pure_bind]
  refine Prod.ext ?_ ?_
  · show (rows.map fun row => columns.map fun column => _).map (List.map Prod.fst) = _
    rw [List.map_map]
    exact List.map_congr_left fun row _ => List.map_map
  · show (rows.map fun row => columns.map fun column =>
      (e.shown row column, e.cellFails (row, column))).flatten.countP (·.2) = _
    rw [← List.flatMap_def, List.product, List.countP_flatMap, List.countP_flatMap]
    refine congrArg List.sum (List.map_congr_left fun row _ => ?_)
    simp only [Function.comp_apply, List.countP_map]
    rfl

/-! ## Results -/

/-- The result that the joined rows lead to, given the number of objects that were looked at. -/
def resultOf (e : Evaluator Id) (config : Config) (columns : List Column) (scanned : Nat)
    (rows : List Row) : QueryResult where
  columns := columns.map (·.heading)
  rows := (page config (found e rows)).map fun row => columns.map (e.shown row)
  stats := {
    scanned
    matched := (found e rows).length
    returned := (page config (found e rows)).length
    errors := (rows.countP fun row => fails (e.verdict row)) + keyErrors e rows
      + ((page config (found e rows)).product columns).countP e.cellFails }
  hasMoreItems := hasMore config (found e rows).length
  numItems := (found e rows).length

variable {catalog : Catalog} {repository : Repository} {index : Option (TextIndex Id)}
  {config : Config} {bound : BoundStatement} {result : QueryResult}

theorem bound_of_prepare {folders : FolderHierarchy} {caseSensitiveText : Bool}
    (h : Evaluator.prepare bound folders index caseSensitiveText = .ok e) : e.bound = bound := by
  unfold Evaluator.prepare at h
  split at h
  · cases h
    rfl
  · cases h

variable (catalog repository index config bound) in
/-- **The steps of a run.** -/
theorem run_execute : (execute catalog repository index config bound).run.run = (do
    let rows ← Join.rows bound (candidates catalog repository config bound)
    let e ← Evaluator.prepare bound repository.folders index config.caseSensitiveText
    let columns ← Column.ofStatement bound
    pure (resultOf e config columns
      (total ((candidates catalog repository config bound).map (·.2.length))) rows)) := by
  have hlift {α : Type} (x : Id α) : (ExceptT.lift x : ExceptT QueryError Id α) = pure x.run := rfl
  cases hrows : Join.rows bound (candidates catalog repository config bound) with
  | error fault =>
    simp only [execute, hrows, liftExcept_error, ExceptT.bind_throw, error_bind]
    rfl
  | ok rows =>
  cases hprepare : Evaluator.prepare bound repository.folders index config.caseSensitiveText with
  | error fault =>
    simp only [execute, hrows, hprepare, liftExcept_ok, liftExcept_error, pure_bind,
      ExceptT.bind_throw, ok_bind, error_bind]
    rfl
  | ok e =>
  simp only [execute, hrows, hprepare, liftExcept_ok, hlift, pure_bind, ok_bind]
  cases hcolumns : Column.ofStatement bound with
  | error fault =>
    simp only [liftExcept_error, ExceptT.bind_throw, error_bind]
    split <;> rfl
  | ok columns =>
    simp only [liftExcept_ok, pure_bind, ok_bind, project_run, resultOf, found, keyErrors,
      bound_of_prepare hprepare, List.length_map]
    by_cases hempty : bound.statement.orderBy.isEmpty = true
    · simp only [if_pos hempty, filterRows_eq]
      rfl
    · simp only [if_neg hempty, filterRows_eq]
      rfl

/-- The steps of a run that has a result, and what the result is made of. -/
theorem execute_eq_ok
    (h : (execute catalog repository index config bound).run.run = .ok result) :
    ∃ rows e columns, Join.rows bound (candidates catalog repository config bound) = .ok rows ∧
      Evaluator.prepare bound repository.folders index config.caseSensitiveText = .ok e ∧
      Column.ofStatement bound = .ok columns ∧ result = resultOf e config columns
        (total ((candidates catalog repository config bound).map (·.2.length))) rows := by
  rw [run_execute] at h
  obtain ⟨rows, hrows, h⟩ := exists_of_bind_eq_ok h
  obtain ⟨e, hprepare, h⟩ := exists_of_bind_eq_ok h
  obtain ⟨columns, hcolumns, h⟩ := exists_of_bind_eq_ok h
  cases h
  exact ⟨rows, e, columns, hrows, hprepare, hcolumns, rfl⟩

end Execution

end ContentQuery
