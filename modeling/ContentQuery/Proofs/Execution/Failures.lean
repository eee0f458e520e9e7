import ContentQuery.Proofs.Execution.Paging

/-!
# Rows that fail

A row that fails is missing or has a null, is counted where it fails, and no other row takes notice
of it (`failing_rows_counted`): what a result tells of the rows is in `Execution.Accounts`.
-/

set_option autoImplicit false

namespace ContentQuery

namespace Execution

variable {catalog : Catalog} {repository : Repository} {index : Option (TextIndex Id)}
  {config : Config} {bound : BoundStatement} {result : QueryResult}

/-- What a result tells of the joined rows, of those that were found among them, and of the cells
that are shown. -/
structure Accounts (e : Evaluator Id) (config : Config) (columns : List Column)
    (rows inOrder : List Row) (result : QueryResult) : Prop where
  /-- Found are the rows that satisfy the WHERE tree and have a sort key, each as often as it was
  joined. -/
  perm : inOrder.Perm (rows.filter fun row => e.satisfied row && !fails (e.key row))
  matched : result.stats.matched = inOrder.length
  numItems : result.numItems = inOrder.length
  cells : result.rows = (page config inOrder).map fun row => columns.map (e.shown row)
  nulls : ∀ row ∈ page config inOrder, ∀ column ∈ columns, column.projection = .score →
    fails (e.points row) = true → e.shown row column = none
  errors : result.stats.errors = (rows.countP fun row => fails (e.verdict row))
    + (rows.countP fun row => e.satisfied row && fails (e.key row))
    + ((page config inOrder).product columns).countP fun cell =>
        cell.2.projection == .score && fails (e.points cell.1)

/-- A result accounts for the rows that it is made of. -/
theorem accounts_resultOf (e : Evaluator Id) (config : Config) (columns : List Column)
    (scanned : Nat) (rows : List Row) :
    Accounts e config columns rows (found e rows)
      (resultOf e config columns scanned rows) := by
  have hcells : (fun cell : Row × Column =>
      cell.2.projection == .score && fails (e.points cell.1)) = e.cellFails := rfl
  refine ⟨found_perm e rows, rfl, rfl, rfl, fun row _ column _ hscore hfails => ?_, ?_⟩
  · refine Evaluator.shown_of_cellFails ?_
    simp only [Evaluator.cellFails, hscore, hfails, beq_self_eq_true, Bool.and_self]
  · rw [hcells, ← keyErrors_eq]
    rfl

/-- **Rows that fail are isolated and counted.** Whenever a run has a result, the rows found are
those of the joined rows whose test is true and whose sort key has a value, and `numItems` and
`matched` say how many. The errors are the rows without a verdict, those that satisfy the WHERE
tree and have no key, and the scores of the page that fail, which are shown as null. -/
theorem failing_rows_counted
    (h : (execute catalog repository index config bound).run.run = .ok result) :
    ∃ rows e columns inOrder,
      Join.rows bound (candidates catalog repository config bound) = .ok rows ∧
      Evaluator.prepare bound repository.folders index config.caseSensitiveText = .ok e ∧
      Column.ofStatement bound = .ok columns ∧
      Accounts e config columns rows inOrder result := by
  obtain ⟨rows, e, columns, hrows, hprepare, hcolumns, rfl⟩ := execute_eq_ok h
  exact ⟨rows, e, columns, found e rows, hrows, hprepare, hcolumns, accounts_resultOf ..⟩

/-- An index that has lost the object `2` and finds every text in all others. -/
def losesSecond : TextIndex Id := fun _ objectId =>
  if objectId = "2" then throw (.execution (.indexFailure "lost")) else pure ⟨true, .zero⟩

/-- Of three documents one is lost, and the others are found. -/
theorem failing_rows_counted_lost : ∃ s bound,
    Statement.parse "SELECT SCORE() FROM cmis:document WHERE CONTAINS('x')" = .ok s ∧
    s.bind .base = .ok bound ∧ ∃ result,
    (execute .base threeDocuments (some losesSecond) {} bound).run.run = .ok result ∧
    ∃ rows e columns inOrder, Accounts e {} columns rows inOrder result ∧
      rows.length = 3 ∧ inOrder.length = 2 ∧ result.stats.errors = 1 := by
  refine exists_bound (fun _ bound =>
    (execute .base threeDocuments (some losesSecond) {} bound).run.run.toOption.any fun result =>
      (Join.rows bound (candidates .base threeDocuments {} bound)).toOption.any fun rows =>
        decide (rows.length = 3 ∧ result.numItems = 2 ∧ result.stats.errors = 1))
    (by rw [Statement.parse_ofList]; decide +kernel) ?_
  intro s bound _ _ hcheck
  obtain ⟨result, hresult, hcheck⟩ := exists_of_any_toOption hcheck
  obtain ⟨joined, hjoined, hcheck⟩ := exists_of_any_toOption hcheck
  obtain ⟨hlength, hnum, herrors⟩ := of_decide_eq_true hcheck
  obtain ⟨rows, e, columns, inOrder, hrows, -, -, haccounts⟩ := failing_rows_counted hresult
  obtain rfl : joined = rows := Except.ok.inj (hjoined.symm.trans hrows)
  exact ⟨result, hresult, joined, e, columns, inOrder, haccounts, hlength,
    haccounts.numItems.symm.trans hnum, herrors⟩

end Execution

end ContentQuery
