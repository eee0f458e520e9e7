import ContentQuery.Proofs.Execution.Outcome
import ContentQuery.Proofs.Repository.Keyed

/-!
# A repository as its own index

Without an index the text of an object is matched where the object is at hand, and a repository
that serves as an index looks its objects up by their ids. `execute_textIndex` says that both ways
lead to the same run. An evaluator asks its index only for the outcome of the search in a row
(`Evaluator.evaluateRow_withIndex` and the lemmas before it), a run takes notice of its evaluator
only in the joined rows (`Execution.resultOf_congr`), and these hold stored objects
(`Join.holds_of_mem_rows`).
-/

set_option autoImplicit false

namespace ContentQuery

/-- A repository as an index of its objects. -/
def Repository.textIndex (r : Repository) : TextIndex Id := fun search id =>
  ExceptT.mk (pure (r.matchText search id))

/-! ## Evaluators with another index -/

namespace Evaluator

variable {m : Type → Type}

/-- The evaluator with another index, or with none. -/
def withIndex (e : Evaluator m) (index : Option (TextIndex m)) : Evaluator m := { e with index }

theorem prepare_withIndex (bound : BoundStatement) (folders : FolderHierarchy)
    (index : Option (TextIndex m)) (caseSensitiveText : Bool) :
    prepare bound folders index caseSensitiveText =
      (prepare bound folders none caseSensitiveText).map (·.withIndex index) := by
  unfold prepare
  cases preparePatterns bound.statement <;> rfl

variable [Monad m] {e : Evaluator m} {index : Option (TextIndex m)} {row : Row}

section
variable (h : (e.withIndex index).fullTextMatch row = e.fullTextMatch row)
include h

theorem searchOnce_withIndex : (e.withIndex index).searchOnce row = e.searchOnce row := by
  unfold searchOnce
  rw [h]

theorem operandValue_withIndex (node : Predicate) :
    (e.withIndex index).operandValue row node = e.operandValue row node := by
  unfold operandValue
  rw [searchOnce_withIndex h]
  rfl

theorem testRelation_withIndex (r : Relation) (left right : Predicate) :
    (e.withIndex index).testRelation row r left right = e.testRelation row r left right := by
  unfold testRelation
  simp only [operandValue_withIndex h]
  rfl

theorem testVisit_withIndex (visit : Predicate.Visit) :
    (e.withIndex index).testVisit row visit = e.testVisit row visit := by
  unfold testVisit
  simp only [testRelation_withIndex h, searchOnce_withIndex h]
  rfl

/-- The index has no say in the test of a row but through the search. -/
theorem evaluateRow_withIndex : (e.withIndex index).evaluateRow row = e.evaluateRow row := by
  have hvisit : (e.withIndex index).testVisit row = e.testVisit row :=
    funext (testVisit_withIndex h)
  unfold evaluateRow testTrace
  rw [hvisit]
  rfl

theorem score_withIndex : (e.withIndex index).score row = e.score row := by
  unfold score
  rw [h]

theorem selectorValue_withIndex (id : SelectorId) :
    (e.withIndex index).selectorValue id row = e.selectorValue id row := by
  unfold selectorValue
  rw [score_withIndex h]
  rfl

theorem sortKey_withIndex : (e.withIndex index).sortKey row = e.sortKey row := by
  unfold sortKey
  simp only [selectorValue_withIndex h]
  rfl

end

end Evaluator

/-! ## Runs of evaluators that agree -/

namespace Execution

variable {e e' : Evaluator Id} {rows : List Row}

/-- Two evaluators of one statement have the same outcomes in every row of a list. -/
structure Agree (e e' : Evaluator Id) (rows : List Row) : Prop where
  bound : e.bound = e'.bound
  verdict : ∀ row ∈ rows, e.verdict row = e'.verdict row
  key : ∀ row ∈ rows, e.key row = e'.key row
  points : ∀ row ∈ rows, e.points row = e'.points row

/-- What is found is among the joined rows. -/
theorem mem_of_mem_found {row : Row} (h : row ∈ found e rows) : row ∈ rows :=
  (List.mem_filter.1 ((found_perm e rows).mem_iff.1 h)).1

theorem mem_of_mem_page {config : Config} {row : Row} (h : row ∈ page config rows) :
    row ∈ rows :=
  List.mem_of_mem_drop (List.mem_of_mem_take h)

namespace Agree

variable (h : Agree e e' rows)
include h

theorem satisfied : ∀ row ∈ rows, e.satisfied row = e'.satisfied row := by
  intro row hrow
  unfold Evaluator.satisfied
  rw [h.verdict row hrow]

theorem found_eq : found e rows = found e' rows := by
  have hfilter : rows.filter e.satisfied = rows.filter e'.satisfied :=
    List.filter_congr h.satisfied
  have hkeyed : keyed e (rows.filter e'.satisfied) = keyed e' (rows.filter e'.satisfied) := by
    refine List.filterMap_congr fun row hrow => ?_
    rw [h.key row (List.mem_filter.1 hrow).1]
  have hle : keyLe e = keyLe e' := by
    unfold keyLe
    rw [h.bound]
  rw [Execution.found_eq, Execution.found_eq, hfilter, hkeyed, hle]

theorem keyErrors_eq : keyErrors e rows = keyErrors e' rows := by
  rw [Execution.keyErrors_eq, Execution.keyErrors_eq]
  refine List.countP_congr fun row hrow => ?_
  rw [h.satisfied row hrow, h.key row hrow]

theorem shown : ∀ row ∈ rows, e.shown row = e'.shown row := by
  intro row hrow
  funext column
  unfold Evaluator.shown
  rw [h.points row hrow]

theorem cellFails (columns : List Column) {shown : List Row} (hshown : ∀ row ∈ shown, row ∈ rows) :
    (shown.product columns).countP e.cellFails = (shown.product columns).countP e'.cellFails := by
  refine List.countP_congr fun cell hcell => ?_
  have hrow : cell.1 ∈ rows := hshown _ (List.pair_mem_product.1 hcell).1
  unfold Evaluator.cellFails
  rw [h.points _ hrow]

/-- A result takes notice of its evaluator only in the joined rows. -/
theorem resultOf_eq (config : Config) (columns : List Column) (scanned : Nat) :
    resultOf e config columns scanned rows = resultOf e' config columns scanned rows := by
  have hpage : ∀ row ∈ page config (found e' rows), row ∈ rows :=
    fun row hrow => mem_of_mem_found (mem_of_mem_page hrow)
  have hcells : (page config (found e' rows)).map (fun row => columns.map (e.shown row)) =
      (page config (found e' rows)).map fun row => columns.map (e'.shown row) := by
    refine List.map_congr_left fun row hrow => ?_
    rw [h.shown row (hpage row hrow)]
  have hverdict : rows.countP (fun row => fails (e.verdict row)) =
      rows.countP fun row => fails (e'.verdict row) := by
    refine List.countP_congr fun row hrow => ?_
    rw [h.verdict row hrow]
  unfold resultOf
  rw [h.found_eq, hcells, hverdict, h.keyErrors_eq, h.cellFails columns hpage]

end Agree

end Execution

/-! ## The repository as its own index -/

/-- The object that is at hand is the one that the index finds. -/
theorem Evaluator.fullTextMatch_textIndex {e : Evaluator Id} {r : Repository} {row : Row}
    (hindex : e.index = none) (hmatcher : e.matcher = r.matcher)
    (hrow : row.Holds fun o => r.get? o.id = some o) :
    (e.withIndex (some r.textIndex)).fullTextMatch row = e.fullTextMatch row := by
  have hbound : (e.withIndex (some r.textIndex)).bound = e.bound := rfl
  have hsome : (e.withIndex (some r.textIndex)).index = some r.textIndex := rfl
  unfold fullTextMatch
  rw [hbound, hsome, hindex, hmatcher]
  cases e.bound.bindings.fullText with
  | none => rfl
  | some clause =>
    dsimp only
    cases hget : row.get? clause.aliasName with
    | none => rfl
    | some o =>
      dsimp only [Repository.textIndex, Repository.matchText]
      rw [hrow clause.aliasName o hget]

namespace Execution

variable (catalog : Catalog) {repository : Repository} (config : Config) (bound : BoundStatement)

/-- The evaluators of a run with and without the index agree in its rows. -/
theorem agree_textIndex (hkeyed : repository.Keyed)
    (hmatcher : repository.matcher = ⟨config.caseSensitiveText⟩) {e : Evaluator Id}
    {rows : List Row}
    (hprepare : Evaluator.prepare bound repository.folders none config.caseSensitiveText = .ok e)
    (hrows : Join.rows bound (candidates catalog repository config bound) = .ok rows) :
    Agree (e.withIndex (some repository.textIndex)) e rows := by
  have hstored : ∀ row ∈ rows, row.Holds fun o => repository.get? o.id = some o := by
    refine Join.holds_of_mem_rows (fun c hc o ho => ?_) hrows
    obtain ⟨entry, -, rfl⟩ := List.mem_map.1 hc
    exact hkeyed.get?_id (List.mem_filter.1 ho).1
  have he : e.index = none ∧ e.matcher = repository.matcher := by
    unfold Evaluator.prepare at hprepare
    split at hprepare
    · cases hprepare
      exact ⟨rfl, hmatcher.symm⟩
    · cases hprepare
  have hsearch : ∀ row ∈ rows, (e.withIndex (some repository.textIndex)).fullTextMatch row =
      e.fullTextMatch row :=
    fun row hrow => Evaluator.fullTextMatch_textIndex he.1 he.2 (hstored row hrow)
  refine ⟨rfl, fun row hrow => ?_, fun row hrow => ?_, fun row hrow => ?_⟩
  · rw [Evaluator.verdict, Evaluator.evaluateRow_withIndex (hsearch row hrow)]
    rfl
  · rw [Evaluator.key, Evaluator.sortKey_withIndex (hsearch row hrow)]
    rfl
  · rw [Evaluator.points, Evaluator.score_withIndex (hsearch row hrow)]
    rfl

/-- **A repository that is its own index changes nothing.** For every bound statement, catalog,
configuration and keyed repository that matches text with the case sensitivity of the
configuration, a run with the repository as its index has the result of one without an index, or
fails with the same error. -/
theorem execute_textIndex (hkeyed : repository.Keyed)
    (hmatcher : repository.matcher = ⟨config.caseSensitiveText⟩) :
    execute catalog repository (some repository.textIndex) config bound =
      execute catalog repository none config bound := by
  show (execute catalog repository (some repository.textIndex) config bound).run.run =
    (execute (m := Id) catalog repository none config bound).run.run
  rw [run_execute, run_execute, Evaluator.prepare_withIndex]
  cases hrows : Join.rows bound (candidates catalog repository config bound) with
  | error fault => simp only [error_bind]
  | ok rows =>
  cases hprepare : Evaluator.prepare bound repository.folders none config.caseSensitiveText with
  | error fault => simp only [Except.map, ok_bind, error_bind]
  | ok e =>
  have hagree := agree_textIndex catalog config bound hkeyed hmatcher hprepare hrows
  have hresult := fun columns => hagree.resultOf_eq config columns
    (total ((candidates catalog repository config bound).map (·.2.length)))
  simp only [Except.map, ok_bind, hresult]

/-- Three documents, of which the first was created by the second and that by the third, which has
no text. -/
def createdInTurn : Repository where
  objects := .ofList [
    ("1", (namedDocument "1" "a" "2").withSystemProperties),
    ("2", (namedDocument "2" "b" "3").withSystemProperties),
    ("3", { namedDocument "3" "" "" with properties := .empty }.withSystemProperties)]
  matcher := ⟨false⟩

/-- The search is in a text, in an object without one, and where an outer join found nothing. -/
theorem execute_textIndex_outer : createdInTurn.Keyed ∧ ∃ s bound,
    Statement.parse ("SELECT d.cmis:objectId, SCORE() FROM cmis:document d " ++
      "LEFT JOIN cmis:document e ON d.cmis:createdBy = e.cmis:objectId " ++
      "WHERE CONTAINS(e, 'b') OR e.cmis:name IS NULL") = .ok s ∧
    s.bind .base = .ok bound ∧ ∃ result,
    (execute .base createdInTurn (some createdInTurn.textIndex) {} bound).run.run = .ok result ∧
    result.rows = [[some (.single (.id "1")), some (.single (.decimal (.ofUInt32 1)))],
      [some (.single (.id "2")), some (.single (.decimal .zero))],
      [some (.single (.id "3")), some (.single (.decimal .zero))]] := by
  have hkeyed : createdInTurn.Keyed := ⟨by decide, by decide⟩
  refine ⟨hkeyed, ?_⟩
  refine exists_bound (fun _ bound =>
    (execute (m := Id) .base createdInTurn none {} bound).run.run.toOption.any fun result =>
      decide (result.rows = [[some (.single (.id "1")), some (.single (.decimal (.ofUInt32 1)))],
        [some (.single (.id "2")), some (.single (.decimal .zero))],
        [some (.single (.id "3")), some (.single (.decimal .zero))]])) ?_ ?_
  · rw [← String.ofList_append, ← String.ofList_append, Statement.parse_ofList]
    decide +kernel
  intro s bound _ _ hcheck
  obtain ⟨result, hresult, hcheck⟩ := exists_of_any_toOption hcheck
  refine ⟨result, ?_, of_decide_eq_true hcheck⟩
  rw [execute_textIndex .base {} bound hkeyed rfl]
  exact hresult

end Execution

end ContentQuery
