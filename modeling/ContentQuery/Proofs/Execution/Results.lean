import ContentQuery.Proofs.Execution.Runs
import ContentQuery.Proofs.Statement.Outcomes

/-!
# Queries that are bound have results

The steps of `execute` that can end a query without a result are the joins, the patterns of the
WHERE tree and the columns. None of them does where the binder has accepted the statement
(`hasResult_of_bind`): all that is left are the effects of the index, whatever they are. Every text
of a LIKE pattern has a pattern (`Like.Pattern.ofText`), so that patterns fail only as literals.
-/

set_option autoImplicit false

namespace ContentQuery

/-! ## Computations that cannot fail -/

/-- A computation that has effects, but no errors. -/
def HasResult {m : Type → Type} [Monad m] {ε α : Type} (x : ExceptT ε m α) : Prop :=
  ∃ run : m α, x = ExceptT.lift run

namespace HasResult

variable {m : Type → Type} [Monad m] {ε α β : Type}

theorem lift (run : m α) : HasResult (ExceptT.lift run : ExceptT ε m α) := ⟨run, rfl⟩

variable [LawfulMonad m]

theorem pure (a : α) : HasResult (Pure.pure a : ExceptT ε m α) :=
  ⟨Pure.pure a, (map_pure Except.ok a).symm⟩

theorem bind {x : ExceptT ε m α} {f : α → ExceptT ε m β} (hx : HasResult x)
    (hf : ∀ a, HasResult (f a)) : HasResult (x >>= f) := by
  choose run hrun using hf
  obtain ⟨first, rfl⟩ := hx
  have hf : f = fun a => ExceptT.lift (run a) := funext hrun
  refine ⟨first >>= run, ?_⟩
  rw [hf]
  refine ExceptT.ext ?_
  simp [ExceptT.run_bind, ExceptT.run_lift]

end HasResult

namespace Execution

variable {m : Type → Type} [Monad m] [LawfulMonad m] {catalog : Catalog} {repository : Repository}
  {index : Option (TextIndex m)} {config : Config} {bound : BoundStatement}

/-- The steps after the joins, the patterns and the columns all have results. -/
theorem hasResult_execute {rows : List Row} {e : Evaluator m} {columns : List Column}
    (hrows : Join.rows bound (candidates catalog repository config bound) = .ok rows)
    (hprepare : Evaluator.prepare bound repository.folders index config.caseSensitiveText = .ok e)
    (hcolumns : Column.ofStatement bound = .ok columns) :
    HasResult (execute catalog repository index config bound) := by
  unfold execute
  simp only [hrows, hprepare, hcolumns, liftExcept_ok, pure_bind]
  refine (HasResult.lift _).bind fun matching => ?_
  split
  · exact (HasResult.lift _).bind fun cells => .pure _
  · refine (HasResult.lift _).bind fun inOrder => ?_
    exact (HasResult.lift _).bind fun cells => .pure _

/-- A statement that is parsed and bound has rows, an evaluator and columns, and a result. -/
theorem hasResult_of_bind {text : String} {s : Statement} (hparse : Statement.parse text = .ok s)
    (hbind : s.bind catalog = .ok bound) (repository : Repository) (index : Option (TextIndex m))
    (config : Config) :
    (∃ rows, Join.rows bound (candidates catalog repository config bound) = .ok rows) ∧
    (∃ e, Evaluator.prepare bound repository.folders index config.caseSensitiveText = .ok e) ∧
    (∃ columns, Column.ofStatement bound = .ok columns) ∧
    HasResult (execute catalog repository index config bound) := by
  obtain ⟨hcond, -⟩ := Statement.parse_ok hparse
  obtain ⟨rfl, hbound⟩ := bind_ok (Statement.selectors_ids_nodup hparse) hbind
  obtain ⟨rows, hrows⟩ := Join.rows_ok hbound.joins (candidates catalog repository config bound)
  obtain ⟨columns, hcolumns⟩ := Column.ofStatement_ok hbound
  obtain ⟨e, hprepare, -⟩ := Evaluator.prepare_ok (m := m) hcond hbound.filter repository.folders
    index config.caseSensitiveText
  exact ⟨⟨rows, hrows⟩, ⟨e, hprepare⟩, ⟨columns, hcolumns⟩,
    hasResult_execute hrows hprepare hcolumns⟩

/-- **A query fails before it runs, or not at all.** A text that is no statement has a fault of the
grammar, and no literal of it fails to decode. A statement that is bound has rows, patterns and
columns, and running it has a result, whatever the index does; so has the query. -/
theorem query_fails_before_it_runs (catalog : Catalog) (repository : Repository)
    (index : Option (TextIndex m)) (config : Config) (text : String) :
    (∀ fault, Statement.parse text = .error fault → (∀ e, fault ≠ .literal e) ∧
      query catalog repository index config text = throw (.parse fault)) ∧
    ∀ s bound, Statement.parse text = .ok s → s.bind catalog = .ok bound →
      (∃ rows, Join.rows bound (candidates catalog repository config bound) = .ok rows) ∧
      (∃ e, Evaluator.prepare bound repository.folders index config.caseSensitiveText = .ok e) ∧
      (∃ columns, Column.ofStatement bound = .ok columns) ∧
      ∃ run : m QueryResult,
        execute catalog repository index config bound = ExceptT.lift run ∧
        query catalog repository index config text = ExceptT.lift run := by
  refine ⟨fun fault hfault => ?_, fun s bound hparse hbind => ?_⟩
  · have hgrammar : ∀ e, fault ≠ .literal e := by
      rintro e rfl
      exact (Statement.parse_outcome text).2 e hfault
    refine ⟨hgrammar, ?_⟩
    have hof : QueryError.ofParse fault = .parse fault := by
      cases fault with
      | literal e => exact absurd rfl (hgrammar e)
      | _ => rfl
    unfold query
    rw [hfault]
    dsimp only
    rw [hof]
  · obtain ⟨hrows, hprepare, hcolumns, run, hrun⟩ :=
      hasResult_of_bind hparse hbind repository index config
    exact ⟨hrows, hprepare, hcolumns, run, hrun, (query_of_bind hparse hbind).trans hrun⟩

/-- A statement with joins, patterns and a score over an index that finds nothing, and a text that
is no statement. -/
theorem query_fails_before_it_runs_sample :
    (∃ s bound, Statement.parse sampleText = .ok s ∧ s.bind .base = .ok bound ∧
      ∃ result, query (m := Id) .base ⟨.empty, ⟨false⟩⟩ (some fun _ _ => pure .miss) {}
        sampleText = pure result) ∧
    ∃ fault, Statement.parse "SELECT" = .error fault ∧
      query (m := Id) .base ⟨.empty, ⟨false⟩⟩ none {} "SELECT" = throw (.parse fault) := by
  constructor
  · obtain ⟨s, bound, hs, hbound, -⟩ := sampleText_bound
    obtain ⟨-, hruns⟩ := query_fails_before_it_runs (m := Id) .base ⟨.empty, ⟨false⟩⟩
      (some fun _ _ => pure .miss) {} sampleText
    obtain ⟨-, -, -, run, -, hquery⟩ := hruns s bound hs hbound
    exact ⟨s, bound, hs, hbound, run.run, hquery⟩
  · obtain ⟨fault, hfault⟩ : ∃ fault, error? (Statement.parse "SELECT") = some fault :=
      Option.isSome_iff_exists.1 rfl
    have hparse := eq_error_of_error? hfault
    obtain ⟨hfails, -⟩ := query_fails_before_it_runs (m := Id) .base ⟨.empty, ⟨false⟩⟩ none {}
      "SELECT"
    exact ⟨fault, hparse, (hfails fault hparse).2⟩

end Execution

end ContentQuery
