import ContentQuery.Proofs.Binding.Discipline
import ContentQuery.Proofs.Evaluation.Rows

/-!
# What evaluators answer

`evaluateRow_reads`: the result of a row under a statement that has been parsed and bound is the
reading of its WHERE tree, where the outcome of the full-text search is that of asking once
(`BoundStatement.searchRow`). Without an external index, asking always has an outcome
(`searchRow_without_index`).
-/

set_option autoImplicit false

namespace ContentQuery

open Binding

variable {m : Type → Type} [Monad m]

/-- The outcome of the full-text search of a statement in a row, of which there is at most one: the
answer of the index, or of the object's own text, on the object under the alias of the search. -/
def BoundStatement.searchRow (bound : BoundStatement) (index : Option (TextIndex m))
    (matcher : FullText.Matcher) (row : Row) : ExceptT QueryError m FullText.Match :=
  match bound.statement.searches with
  | [] => pure .miss
  | (qualifier, search) :: _ =>
    match row.get? (qualifier.getD bound.bindings.defaultAlias) with
    | none => pure .miss
    | some object =>
      match index with
      | some index => index search object.id
      | none => ExceptT.mk (pure ((Repository.matchObject matcher search object).mapError .literal))

variable {catalog : Catalog} {bound : BoundStatement}

theorem Evaluator.fullTextMatch_eq {e : Evaluator m} (he : e.bound = bound)
    (h : Bound catalog bound.statement bound.bindings)
    (hc : ∀ p ∈ bound.statement.filter, p.IsCondition) (row : Row) :
    e.fullTextMatch row = bound.searchRow e.index e.matcher row := by
  subst he
  unfold fullTextMatch BoundStatement.searchRow
  cases hs : e.bound.statement.searches with
  | nil =>
    cases hf : e.bound.bindings.fullText with
    | none => rfl
    | some clause => exact absurd hs (h.fullText (by rw [hf]; rfl))
  | cons first others =>
    obtain ⟨qualifier, search⟩ := first
    have hchecked := h.searchChecked hc (hs ▸ List.mem_cons_self)
    cases hrow : row.get? (qualifier.getD e.bound.bindings.defaultAlias) with
    | none => simp only [hchecked.recorded, hrow]
    | some object => cases e.index <;> simp only [hchecked.recorded, hrow]

omit [Monad m] in
theorem matchObject_of_check {search : FullText.Tree} (h : search.check = .ok ())
    (matcher : FullText.Matcher) (object : ContentObject) :
    ∃ found, Repository.matchObject matcher search object = .ok found := by
  unfold Repository.matchObject
  cases object.fullText with
  | none => exact ⟨_, rfl⟩
  | some text => exact FullText.evaluate_of_check matcher h text

/-- Without an index the search has an outcome in every row. -/
theorem BoundStatement.searchRow_without_index (h : Bound catalog bound.statement bound.bindings)
    (hc : ∀ p ∈ bound.statement.filter, p.IsCondition) (matcher : FullText.Matcher) (row : Row) :
    ∃ found, bound.searchRow (m := m) none matcher row = pure found := by
  unfold searchRow
  cases hs : bound.statement.searches with
  | nil => exact ⟨_, rfl⟩
  | cons first others =>
    obtain ⟨qualifier, search⟩ := first
    have hchecked := h.searchChecked hc (hs ▸ List.mem_cons_self)
    dsimp only
    cases row.get? (qualifier.getD bound.bindings.defaultAlias) with
    | none => exact ⟨_, rfl⟩
    | some object =>
      obtain ⟨found, hfound⟩ := matchObject_of_check hchecked.decodes matcher object
      refine ⟨found, ?_⟩
      dsimp only
      rw [hfound]
      rfl

theorem Evaluator.fullTextMatch_without_index {e : Evaluator m}
    (h : Bound catalog e.bound.statement e.bound.bindings)
    (hc : ∀ p ∈ e.bound.statement.filter, p.IsCondition) (hindex : e.index = none) (row : Row) :
    ∃ found, e.fullTextMatch row = pure found := by
  rw [fullTextMatch_eq rfl h hc, hindex]
  exact BoundStatement.searchRow_without_index h hc e.matcher row

variable {text : String} {s : Statement} [LawfulMonad m]

/-- **The result of a row is the reading of the WHERE tree.** For every statement that is parsed
and bound, in which the left side of every `= ANY` is a literal, there is an evaluator, and in
every row it asks for the full-text search at most once and answers whether the row satisfies the
tree. Without an index it always has an answer. -/
theorem evaluateRow_reads (hparse : Statement.parse text = .ok s)
    (hbind : s.bind catalog = .ok bound) (hany : ∀ p ∈ s.filter, p.LiteralBeforeAny)
    (folders : FolderHierarchy) (index : Option (TextIndex m)) (caseSensitiveText : Bool) :
    ∃ e, Evaluator.prepare bound folders index caseSensitiveText = .ok e ∧ ∀ row,
      (s.filter = none → e.evaluateRow row = pure true) ∧
      (∀ p ∈ s.filter, ∃ verdict : FullText.Match → Bool,
        (∀ found, verdict found = true ↔ (bound.reading folders row found).Satisfies p) ∧
        e.evaluateRow row = (do
          let found ← if p.asksSearch bound.resolution? then
            bound.searchRow index ⟨caseSensitiveText⟩ row else pure .miss
          pure (verdict found))) ∧
      (index = none → ∃ answer, e.evaluateRow row = pure answer) := by
  obtain ⟨hcond, -⟩ := Statement.parse_ok hparse
  obtain ⟨rfl, hbound⟩ := bind_ok (Statement.selectors_ids_nodup hparse) hbind
  obtain ⟨e, hprepare, rfl, rfl, rfl, hmatcher, hpattern⟩ :=
    Evaluator.prepare_ok hcond hbound.filter folders index caseSensitiveText
  refine ⟨e, hprepare, fun row => ⟨fun hnone => ?_, fun p hp => ?_, fun hindex => ?_⟩⟩
  · rw [Evaluator.evaluateRow, hnone]
  · obtain ⟨verdict, hv, hrow⟩ := Evaluator.evaluateRow_eq hp (hcond p hp) (hbound.filter p hp)
      (hany p hp) hpattern row
    rw [Evaluator.fullTextMatch_eq rfl hbound hcond, hmatcher] at hrow
    exact ⟨verdict, hv, hrow⟩
  · obtain ⟨found, hfound⟩ := Evaluator.fullTextMatch_without_index hbound hcond hindex row
    exact Evaluator.evaluateRow_of_fullTextMatch hcond hbound.filter hany hpattern hfound

/-- A document of some size. -/
def sampleDocument : ContentObject where
  id := "d"
  typeId := "cmis:document"
  parentId := none
  properties := .ofList [("cmis:name", .single (.string "abc")),
    ("cmis:contentStreamLength", .single (.integer 7))]
  content := none

def sampleRow : Row := Row.empty.insert "cmis:document" (some sampleDocument)

/-- A comparison, a pattern, a quantifier and a null test in a repository without folders. -/
theorem evaluateRow_reads_sample : ∃ s bound,
    Statement.parse ("SELECT * FROM cmis:document WHERE cmis:name LIKE 'a%' AND " ++
      "('x' = ANY cmis:secondaryObjectTypeIds OR cmis:contentStreamLength >= 5) AND " ++
      "cmis:createdBy IS NULL AND NOT IN_FOLDER('root')") = .ok s ∧
    s.bind .base = .ok bound ∧ ∃ p ∈ s.filter, ∃ found,
      (bound.reading ⟨fun _ => none, fun _ => []⟩ sampleRow found).Satisfies p := by
  refine exists_bound (fun s bound => s.filter.isSome &&
    decide (∀ p ∈ s.filter, p.LiteralBeforeAny) &&
    (Evaluator.prepare (m := Id) bound ⟨fun _ => none, fun _ => []⟩ none false).toOption.any
      fun e => (e.evaluateRow sampleRow).run.toOption.any id) ?_ ?_
  · rw [← String.ofList_append, ← String.ofList_append, Statement.parse_ofList]
    decide +kernel
  intro s bound hs hbound hcheck
  simp only [Bool.and_eq_true, decide_eq_true_eq, Option.isSome_iff_exists] at hcheck
  obtain ⟨⟨⟨p, hp⟩, hany⟩, hanswer⟩ := hcheck
  obtain ⟨e, he, hrows⟩ := evaluateRow_reads (m := Id) hs hbound hany
    ⟨fun _ => none, fun _ => []⟩ none false
  obtain ⟨verdict, hv, hrow⟩ := (hrows sampleRow).2.1 p hp
  refine ⟨p, hp, ?_⟩
  rw [he] at hanswer
  replace hanswer : (e.evaluateRow sampleRow).run.toOption.any id = true := hanswer
  rw [hrow] at hanswer
  cases hasks : p.asksSearch bound.resolution? with
  | false =>
    rw [hasks] at hanswer
    exact ⟨.miss, (hv .miss).1 hanswer⟩
  | true =>
    rw [hasks] at hanswer
    obtain ⟨hcond, -⟩ := Statement.parse_ok hs
    obtain ⟨rfl, hbound⟩ := bind_ok (Statement.selectors_ids_nodup hs) hbound
    obtain ⟨found, hfound⟩ := BoundStatement.searchRow_without_index (m := Id) hbound hcond
      ⟨false⟩ sampleRow
    rw [hfound] at hanswer
    exact ⟨found, (hv found).1 hanswer⟩

end ContentQuery
