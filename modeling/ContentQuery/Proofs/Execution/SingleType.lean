import ContentQuery.Proofs.Catalog.Ancestry
import ContentQuery.Proofs.Execution.Failures
import ContentQuery.Proofs.Execution.Results

/-!
# Queries on one type

The joined rows of a query on one type have one object each (`rows_of_source`). Without a full-text
search all of them have a sort key, so that the rows are found which satisfy the WHERE tree
(`isFound_of_no_searches`). `run_of_reading` says what such a query finds by the reading of its
tree.
-/

set_option autoImplicit false

namespace ContentQuery.Execution

open Binding

variable {c : Catalog} {bound : BoundStatement} {source : Source}

/-! ## Rows -/

/-- A statement on one type that is bound has that type under its one alias. -/
theorem types_of_single (hc : c.Grounded) (h : Bound c bound.statement bound.bindings)
    (hsources : bound.statement.sources = [source]) :
    ∃ t, t.id = source.typeId ∧ bound.bindings.types.entries = [(source.bindingName, t)] := by
  have hentries := h.types
  unfold Statement.fromTypes at hentries
  rw [hsources, List.filterMap_cons, List.filterMap_nil] at hentries
  cases ht : c.lookup? source.typeId with
  | none =>
    have hkeys := h.keys
    rw [OrderedMap.keys, hentries, ht, hsources] at hkeys
    cases hkeys
  | some t =>
    rw [ht] at hentries
    exact ⟨t, hc.ids _ (OrderedMap.mem_entries_of_get? ht), hentries⟩

theorem aliases_of_single (h : Bound c bound.statement bound.bindings)
    (hsources : bound.statement.sources = [source]) : bound.aliases = [source.bindingName] := by
  rw [BoundStatement.aliases, h.keys, hsources]
  rfl

theorem single_eq_insert (haliases : bound.aliases = [source.bindingName]) (o : ContentObject) :
    Row.single bound o = Row.empty.insert source.bindingName (some o) := by
  rw [Row.single, haliases]
  rfl

theorem get?_single (haliases : bound.aliases = [source.bindingName]) (o : ContentObject)
    {aliasName : String} (hmem : aliasName ∈ bound.aliases) :
    (Row.single bound o).get? aliasName = some o := by
  rw [haliases] at hmem
  rw [single_eq_insert haliases, List.mem_singleton.1 hmem, Row.get?, Row.insert,
    OrderedMap.get?_insert, if_pos rfl]
  rfl

/-- The joined rows of a query on one type have one object each. -/
theorem rows_of_source (hc : c.Grounded) (h : Bound c bound.statement bound.bindings)
    (hsources : bound.statement.sources = [source]) (repository : Repository) (config : Config) :
    Join.rows bound (candidates c repository config bound) =
      .ok ((repository.objectsOfType c source.typeId config.includeSubtypes).map
        (Row.single bound)) := by
  obtain ⟨t, ht, hentries⟩ := types_of_single hc h hsources
  have hcandidates : candidates c repository config bound = [(source.bindingName,
      repository.objectsOfType c source.typeId config.includeSubtypes)] := by
    unfold candidates
    rw [hentries, ← ht]
    rfl
  have hsingle : (fun o => Row.empty.insert source.bindingName (some o)) = Row.single bound :=
    (funext (single_eq_insert (aliases_of_single h hsources))).symm
  rw [hcandidates, ← hsingle]
  dsimp only [Join.rows]
  rw [List.zip_nil_right]
  rfl

/-! ## Queries without a full-text search -/

section
variable {e : Evaluator Id} (h : Bound c e.bound.statement e.bound.bindings)
  (hsearches : e.bound.statement.searches = [])
include h hsearches

theorem fullTextMatch_of_no_searches (row : Row) : e.fullTextMatch row = pure .miss := by
  unfold Evaluator.fullTextMatch
  cases hclause : e.bound.bindings.fullText with
  | none => rfl
  | some clause => exact absurd hsearches (h.fullText (by rw [hclause]; rfl))

/-- Every row has a sort key. -/
theorem isFound_of_no_searches (row : Row) : e.isFound row = e.satisfied row := by
  obtain ⟨key, hkey⟩ := Evaluator.sortKey_ok h.orderBy (fullTextMatch_of_no_searches h hsearches row)
  have hkey : e.key row = .ok key := by
    rw [Evaluator.key, hkey]
    rfl
  rw [Evaluator.isFound, hkey, fails_ok, Bool.not_false, Bool.and_true]

end

/-- Without a WHERE tree every row is found. -/
theorem isFound_of_no_filter {e : Evaluator Id} (h : Bound c e.bound.statement e.bound.bindings)
    (hfilter : e.bound.statement.filter = none) (row : Row) : e.isFound row = true := by
  have hsearches : e.bound.statement.searches = [] := by
    rw [Statement.searches, hfilter]
  rw [isFound_of_no_searches h hsearches, Evaluator.satisfied_iff, Evaluator.verdict,
    Evaluator.evaluateRow, hfilter]
  rfl

/-- A query on one type finds the objects for which its WHERE tree reads as true. -/
theorem run_of_reading (hc : c.Grounded) {text : String} {s : Statement} {p : Predicate}
    (hparse : Statement.parse text = .ok s) (hbind : s.bind c = .ok bound)
    (hsources : s.sources = [source]) (hp : s.filter = some p) (hsearches : s.searches = [])
    (hany : p.LiteralBeforeAny) (repository : Repository) (index : Option (TextIndex Id))
    (config : Config) {accepts : ContentObject → Bool}
    (haccepts : ∀ o ∈ repository.objectsOfType c source.typeId config.includeSubtypes,
      (bound.reading repository.folders (Row.single bound o) .miss).Satisfies p ↔
        accepts o = true) :
    ∃ e columns inOrder result,
      Evaluator.prepare bound repository.folders index config.caseSensitiveText = .ok e ∧
      Column.ofStatement bound = .ok columns ∧
      (execute c repository index config bound).run.run = .ok result ∧
      Accounts e config columns ((repository.objectsOfType c source.typeId
        config.includeSubtypes).map (Row.single bound)) inOrder result ∧
      inOrder.Perm (((repository.objectsOfType c source.typeId config.includeSubtypes).filter
        accepts).map (Row.single bound)) := by
  obtain ⟨-, -, ⟨columns, hcolumns⟩, -⟩ := hasResult_of_bind hparse hbind repository index config
  obtain ⟨hcond, -⟩ := Statement.parse_ok hparse
  obtain ⟨rfl, hbound⟩ := bind_ok (Statement.selectors_ids_nodup hparse) hbind
  obtain ⟨e, hprepare, rfl, hfolders, -, -, hpattern⟩ := Evaluator.prepare_ok hcond hbound.filter
    repository.folders index config.caseSensitiveText
  have hrun := run_execute c repository index config e.bound
  rw [rows_of_source hc hbound hsources, hprepare, hcolumns] at hrun
  refine ⟨e, columns, found e _, _, hprepare, hcolumns, hrun, accounts_resultOf .., ?_⟩
  refine (found_perm e _).trans (List.Perm.of_eq ?_)
  rw [List.filter_map]
  refine congrArg (List.map _) (List.filter_congr fun o ho => ?_)
  obtain ⟨verdict, hv, hrow⟩ := Evaluator.evaluateRow_eq hp (hcond p hp) (hbound.filter p hp) hany
    hpattern (Row.single e.bound o)
  rw [fullTextMatch_of_no_searches hbound hsearches, ite_self, pure_bind] at hrow
  have hverdict : e.verdict (Row.single e.bound o) = .ok (verdict .miss) := by
    rw [Evaluator.verdict, hrow]
    rfl
  rw [Function.comp_apply, isFound_of_no_searches hbound hsearches, Bool.eq_iff_iff,
    Evaluator.satisfied_iff, hverdict, Except.ok.injEq, ← haccepts o ho, ← hfolders]
  exact hv .miss

end ContentQuery.Execution
