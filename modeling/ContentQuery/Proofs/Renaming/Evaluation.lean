import ContentQuery.Evaluation.Predicate
import ContentQuery.Proofs.Renaming.Binding

/-!
# Evaluating renamed statements

A row of a renamed statement has the objects of the row under the new names (`Row.rename`). The
evaluators of two statements of which one is a renaming of the other (`Evaluator.RenamedTo`) run in
the same way on a row and on the renamed row: they make the same searches, give the same verdict
(`Evaluator.evaluateRow_rename`), and lead to the same score and sort key.
-/

set_option autoImplicit false

namespace ContentQuery

variable {ρ : Renaming}

/-! ## Rows -/

def Row.rename (ρ : Renaming) (row : Row) : Row := ⟨row.objects.mapEntries ρ.name id⟩

section
variable (hρ : ρ.Injective)
include hρ

theorem Row.get?_rename (row : Row) (name : String) :
    (row.rename ρ).get? (ρ.name name) = row.get? name := by
  rw [get?, rename, OrderedMap.get?_mapEntries hρ.name, Option.map_id_fun, get?, id]

theorem Row.insert_rename (row : Row) (name : String) (object : Option ContentObject) :
    (row.rename ρ).insert (ρ.name name) object = (row.insert name object).rename ρ :=
  congrArg Row.mk (OrderedMap.insert_mapEntries hρ.name id row.objects name object)

/-! ## Bound statements -/

namespace BoundStatement.RenamedTo

variable {bound bound' : BoundStatement} (h : bound.RenamedTo ρ bound')
include h

theorem resolution?_eq (id : SelectorId) :
    bound'.resolution? (ρ.id id) = (bound.resolution? id).map (Resolution.rename ρ) := by
  rw [resolution?, h.bindings, Bindings.get?_resolved_rename hρ, resolution?]

theorem property?_eq (id : SelectorId) :
    bound'.property? (ρ.id id) =
      (bound.property? id).map fun found => (ρ.name found.1, found.2) := by
  unfold property?
  rw [h.resolution?_eq hρ]
  cases bound.resolution? id with
  | none => rfl
  | some r => cases r <;> rfl

end BoundStatement.RenamedTo

end

namespace Evaluator

variable {m : Type → Type}

/-- Two evaluators that differ in their statements, of which one is a renaming of the other. -/
structure RenamedTo (ρ : Renaming) (e e' : Evaluator m) : Prop where
  bound : e.bound.RenamedTo ρ e'.bound
  folders : e'.folders = e.folders
  index : e'.index = e.index
  matcher : e'.matcher = e.matcher
  patterns : e'.patterns = e.patterns

variable {e e' : Evaluator m} (hρ : ρ.Injective) (h : e.RenamedTo ρ e') (row : Row)
include hρ h

/-! ## Values of a row -/

theorem storedProperty?_rename (id : SelectorId) :
    e'.storedProperty? (row.rename ρ) (ρ.id id) = e.storedProperty? row id := by
  unfold storedProperty?
  rw [h.bound.property?_eq hρ]
  cases e.bound.property? id with
  | none => rfl
  | some found =>
    dsimp only [Option.map_some, Option.bind_eq_bind, Option.bind_some]
    rw [row.get?_rename hρ]

theorem stored?_rename (node : Predicate) :
    e'.stored? (row.rename ρ) (node.rename ρ) = e.stored? row node := by
  unfold stored?
  rw [node.column?_rename]
  cases node.column? with
  | none => rfl
  | some c => exact storedProperty?_rename hρ h row c.id

theorem storedValues_rename (node : Predicate) :
    e'.storedValues (row.rename ρ) (node.rename ρ) = e.storedValues row node := by
  rw [storedValues, stored?_rename hρ h, storedValues]

theorem testNull_rename (negated : Bool) (operand : Predicate) :
    e'.testNull (row.rename ρ) negated (operand.rename ρ) = e.testNull row negated operand := by
  rw [testNull, stored?_rename hρ h, testNull]

omit hρ in
theorem folderAlias_rename (qualifier : Option Predicate) :
    e'.folderAlias (qualifier.map (Predicate.rename ρ)) = ρ.name (e.folderAlias qualifier) := by
  have hdefault : e'.bound.bindings.defaultAlias = ρ.name e.bound.bindings.defaultAlias := by
    rw [h.bound.bindings, Bindings.defaultAlias_rename h.bound.hasTypes]
  unfold folderAlias
  rw [hdefault]
  cases qualifier with
  | none => rfl
  | some node =>
    dsimp only [Option.map_some, Option.bind_some]
    rw [node.column?_rename]
    cases node.column? with
    | none => rfl
    | some c => exact Option.getD_map ρ.name _ c.qualifier

variable [Monad m]

/-! ## Operands -/

theorem fullTextMatch_rename : e'.fullTextMatch (row.rename ρ) = e.fullTextMatch row := by
  have hclause : e'.bound.bindings.fullText =
      e.bound.bindings.fullText.map (FullTextClause.rename ρ) := by
    rw [h.bound.bindings]
    rfl
  unfold fullTextMatch
  rw [hclause, h.index, h.matcher]
  cases e.bound.bindings.fullText with
  | none => rfl
  | some clause =>
    dsimp only [Option.map_some, FullTextClause.rename]
    rw [row.get?_rename hρ]

theorem score_rename : e'.score (row.rename ρ) = e.score row := by
  rw [score, fullTextMatch_rename hρ h, score]

theorem searchOnce_rename : e'.searchOnce (row.rename ρ) = e.searchOnce row := by
  unfold searchOnce
  rw [fullTextMatch_rename hρ h]

omit hρ h in
theorem literalOf_rename (node : Predicate) :
    (literalOf (node.rename ρ) : RowTest m Value) = literalOf node := by
  rw [literalOf, node.literalValue?_rename, literalOf]

omit hρ h in
theorem literalsOf_rename (node : Predicate) :
    (literalsOf (node.rename ρ) : RowTest m (List Value)) = literalsOf node := by
  rw [literalsOf, node.literalValues?_rename, literalsOf]

theorem operandValue_rename (node : Predicate) :
    e'.operandValue (row.rename ρ) (node.rename ρ) = e.operandValue row node := by
  cases node with
  | column c =>
    have hscore : (e'.bound.resolution? (c.rename ρ).id == some .score) =
        (e.bound.resolution? c.id == some .score) := by
      have hresolution := h.bound.resolution?_eq hρ c.id
      simp only [ColumnRef.rename] at hresolution ⊢
      rw [hresolution]
      cases e.bound.resolution? c.id with
      | none => rfl
      | some r => cases r <;> rfl
    have hstored := stored?_rename hρ h row (.column c)
    simp only [Predicate.rename, operandValue] at hstored ⊢
    rw [hscore, hstored, searchOnce_rename hρ h]
  | literal raw => rfl
  | score f =>
    simp only [Predicate.rename, operandValue]
    rw [searchOnce_rename hρ h]
  | _ => rfl

/-! ## Tests -/

theorem testRelation_rename (r : Relation) (left right : Predicate) :
    e'.testRelation (row.rename ρ) r (left.rename ρ) (right.rename ρ) =
      e.testRelation row r left right := by
  have hpattern : e'.pattern = e.pattern := funext fun text => by
    rw [pattern, h.patterns, pattern]
  unfold testRelation
  simp only [operandValue_rename hρ h, storedValues_rename hρ h, literalOf_rename,
    literalsOf_rename, hpattern]

theorem testFolder_rename (scope : FolderScope) (qualifier : Option Predicate)
    (folder : Predicate) :
    e'.testFolder (row.rename ρ) scope (qualifier.map (Predicate.rename ρ)) (folder.rename ρ) =
      e.testFolder row scope qualifier folder := by
  unfold testFolder
  simp only [literalOf_rename, folderAlias_rename h, row.get?_rename hρ, h.folders]

/-! ## Rows -/

theorem testVisit_rename (visit : Predicate.Visit) :
    e'.testVisit (row.rename ρ) (visit.rename ρ) = e.testVisit row visit := by
  cases visit with
  | on node =>
    cases node with
    | relation r left right =>
      exact congrArg (· >>= push) (testRelation_rename hρ h row r left right)
    | isNull negated operand => exact congrArg push (testNull_rename hρ h row negated operand)
    | contains qualifier search =>
      exact congrArg (· >>= fun found => push found.matched) (searchOnce_rename hρ h row)
    | inFolder scope folder =>
      exact congrArg (· >>= push) (testFolder_rename hρ h row scope none folder)
    | inFolderOf scope qualifier folder =>
      exact congrArg (· >>= push) (testFolder_rename hρ h row scope (some qualifier) folder)
    | _ => rfl
  | after node => cases node <;> rfl
  | _ => rfl

variable [LawfulMonad m]

theorem testTrace_rename (trace : List (Except LiteralError Predicate.Visit)) :
    e'.testTrace (row.rename ρ) (trace.map (Except.map (Predicate.Visit.rename ρ))) =
      e.testTrace row trace := by
  rw [testTrace, List.forM_eq_forM, List.forM_map]
  refine congrArg (forM trace) (funext fun step => ?_)
  cases step with
  | ok visit => exact testVisit_rename hρ h row visit
  | error fault => rfl

/-- The WHERE tree says of a renamed row what it says of the row. -/
theorem evaluateRow_rename : e'.evaluateRow (row.rename ρ) = e.evaluateRow row := by
  unfold evaluateRow
  rw [h.bound.statement.filter]
  cases e.bound.statement.filter with
  | none => rfl
  | some p =>
    dsimp only [Option.map_some]
    rw [p.trace_rename, testTrace_rename hρ h]

/-! ## Sort keys -/

/-- A reference without a value is an error that tells its id. -/
theorem selectorValue_rename (id : SelectorId) :
    CoupledT (fun _ _ => True) Eq (e.selectorValue id row)
      (e'.selectorValue (ρ.id id) (row.rename ρ)) := by
  unfold selectorValue
  rw [h.bound.resolution?_eq hρ]
  cases e.bound.resolution? id with
  | none => exact .throw trivial
  | some r =>
    cases r with
    | property aliasName typeId p =>
      refine .of_eq (fun _ => trivial) ?_
      dsimp only [Option.map_some, Resolution.rename]
      rw [row.get?_rename hρ]
    | wildcard aliases => exact .throw trivial
    | score =>
      refine .of_eq (fun _ => trivial) ?_
      dsimp only [Option.map_some, Resolution.rename]
      rw [score_rename hρ h]

theorem sortKey_rename :
    CoupledT (fun _ _ => True) Eq (e.sortKey row) (e'.sortKey (row.rename ρ)) := by
  have hspec : ∀ spec spec' : SortSpec, spec' = spec.rename ρ → CoupledT (fun _ _ => True) Eq
      (e.selectorValue spec.selector.id row >>= fun value =>
        pure (value.bind PropertyValue.single?))
      (e'.selectorValue spec'.selector.id (row.rename ρ) >>= fun value =>
        pure (value.bind PropertyValue.single?)) := by
    rintro spec _ rfl
    have hvalue := selectorValue_rename hρ h row spec.selector.id
    rw [← spec.selector.id_rename] at hvalue
    refine (CoupledT.lifting _).bind hvalue fun value _ hv => ?_
    subst hv
    exact (CoupledT.lifting _).pure rfl
  have hspecs := forall₂_eq_map_iff.2 h.bound.statement.orderBy
  have hkeys := (CoupledT.lifting _).mapM hspec hspecs
  rwa [List.forall₂_eq_eq_eq] at hkeys

end Evaluator

end ContentQuery
