import ContentQuery.Execution.Query
import ContentQuery.Proofs.Renaming.Evaluation

/-!
# Running renamed statements

The runs of two bound statements of which one is a renaming of the other have the same effects and
lead to the same result, but for the names in headings (`QueryResult.RenamedTo`), or to errors that
differ in the names they tell (`Execution.execute_renamedTo`). Their joined rows are the renamed
rows (`Join.rows_rename`), their columns read the same cells (`Column.RenamedTo`), and each step of
a run keeps this up. Two sort keys may fail with different errors, as these tell the id of a
reference, but a row without a key is left out all the same (`Execution.successes_map_left`).
-/

set_option autoImplicit false

namespace ContentQuery

variable {ρ : Renaming}

/-! ## Errors -/

/-- Two errors of one cause in runs of which one is a renaming of the other: they are the same, or
tell one name or one reference before and after. -/
inductive QueryError.RenamedTo (ρ : Renaming) : QueryError → QueryError → Prop
  | same (e : QueryError) : RenamedTo ρ e e
  | unboundJoinColumn (c : ColumnRef) :
      RenamedTo ρ (.execution (.unboundJoinColumn c.toText))
        (.execution (.unboundJoinColumn (c.rename ρ).toText))
  | unboundSelector (sel : Selector) :
      RenamedTo ρ (.execution (.unboundSelector sel.toText))
        (.execution (.unboundSelector (sel.rename ρ).toText))
  | typeNotFound (name : String) : RenamedTo ρ (.typeNotFound name) (.typeNotFound (ρ.name name))

/-! ## Patterns -/

namespace Evaluator

theorem patternLiterals_rename (p : Predicate) :
    patternLiterals (p.rename ρ) = patternLiterals p := by
  unfold patternLiterals
  rw [p.nodes_rename, List.filterMap_map]
  refine List.filterMap_congr fun node _ => ?_
  cases node with
  | relation r left right => cases r <;> cases right <;> rfl
  | _ => rfl

variable {m : Type → Type} {bound bound' : BoundStatement}

/-- No pattern depends on a name. -/
theorem prepare_rename (h : bound.RenamedTo ρ bound') (folders : FolderHierarchy)
    (index : Option (TextIndex m)) (caseSensitiveText : Bool) :
    Alike (QueryError.RenamedTo ρ) (RenamedTo ρ) (prepare bound folders index caseSensitiveText)
      (prepare bound' folders index caseSensitiveText) := by
  have hpatterns : preparePatterns bound'.statement = preparePatterns bound.statement := by
    unfold preparePatterns
    rw [h.statement.filter]
    cases bound.statement.filter with
    | none => rfl
    | some p =>
      dsimp only [Option.map_some]
      rw [patternLiterals_rename]
  unfold prepare
  rw [hpatterns]
  cases preparePatterns bound.statement with
  | error e => exact .error (.same _)
  | ok patterns => exact .ok ⟨h, rfl, rfl, rfl, rfl⟩

end Evaluator

/-! ## Joins -/

namespace Join

variable {bound bound' : BoundStatement} (hρ : ρ.Injective) (h : bound.RenamedTo ρ bound')
include hρ h

theorem sideValue_rename (row : Row) (name : String) (object : ContentObject) (c : ColumnRef) :
    Alike (QueryError.RenamedTo ρ) Eq (sideValue bound row name object c)
      (sideValue bound' (row.rename ρ) (ρ.name name) object (c.rename ρ)) := by
  have hid : (c.rename ρ).id = ρ.id c.id := rfl
  unfold sideValue
  rw [hid, h.property?_eq hρ]
  cases bound.property? c.id with
  | none => exact .error (.unboundJoinColumn c)
  | some found =>
    dsimp only [Option.map_some]
    simp only [hρ.name.eq_iff, row.get?_rename hρ]
    exact .ok rfl

theorem accepts_rename (join : Option JoinSpec) (row : Row) (name : String)
    (object : ContentObject) :
    Alike (QueryError.RenamedTo ρ) Eq (accepts bound join row name object)
      (accepts bound' (join.map (JoinSpec.rename ρ)) (row.rename ρ) (ρ.name name) object) := by
  cases join with
  | none => exact .ok rfl
  | some join =>
    refine (Alike.lifting _).bind (sideValue_rename hρ h row name object join.left) ?_
    intro left _ hleft
    refine (Alike.lifting _).bind (sideValue_rename hρ h row name object join.right) ?_
    intro right _ hright
    subst hleft hright
    exact .ok rfl

theorem extend_rename (join : Option JoinSpec) (name : String) (objects : List ContentObject)
    (row : Row) :
    Alike (QueryError.RenamedTo ρ) (fun rows rows' => rows' = rows.map (Row.rename ρ))
      (extend bound join name objects row)
      (extend bound' (join.map (JoinSpec.rename ρ)) (ρ.name name) objects (row.rename ρ)) := by
  have houter : isLeftOuter (join.map (JoinSpec.rename ρ)) = isLeftOuter join := by
    cases join <;> rfl
  unfold extend
  refine (Alike.lifting _).bind ((Alike.lifting _).filterM (accepts_rename hρ h join row name)
    objects) fun partners _ hpartners => ?_
  subst hpartners
  rw [houter]
  split
  · exact .ok (congrArg (fun row => [row]) (row.insert_rename hρ name none))
  · refine .ok ?_
    rw [List.map_map]
    exact List.map_congr_left fun object _ => row.insert_rename hρ name (some object)

theorem extendAll_rename {others others' : List (Source × String × List ContentObject)}
    (hothers : List.Forall₂ (fun other other' => other.1.RenamedTo ρ other'.1 ∧
      other'.2 = (ρ.name other.2.1, other.2.2)) others others') (rows : List Row) :
    Alike (QueryError.RenamedTo ρ) (fun rows rows' => rows' = rows.map (Row.rename ρ))
      (extendAll bound rows others) (extendAll bound' (rows.map (Row.rename ρ)) others') := by
  induction hothers generalizing rows with
  | nil => exact .ok rfl
  | @cons other other' _ _ hother _ ih =>
    obtain ⟨source, name, objects⟩ := other
    obtain ⟨source', name', objects'⟩ := other'
    obtain ⟨hsource, hrest⟩ := hother
    cases hrest
    have hextend : ∀ row row' : Row, row' = row.rename ρ → Alike (QueryError.RenamedTo ρ)
        (fun rows rows' => rows' = rows.map (Row.rename ρ))
        (extend bound source.join name objects row)
        (extend bound' source'.join (ρ.name name) objects row') := by
      rintro row _ rfl
      rw [hsource.join]
      exact extend_rename hρ h source.join name objects row
    refine (Alike.lifting _).bind ((Alike.lifting _).mapM hextend (forall₂_eq_map_iff.2 rfl)) ?_
    intro extended extended' hextended
    rw [forall₂_eq_map_iff.1 hextended, ← List.map_flatten]
    exact ih extended.flatten

/-- The rows of a renamed FROM list are the renamed rows. -/
theorem rows_rename {candidates candidates' : List (String × List ContentObject)}
    (hcandidates : candidates' = candidates.map fun c => (ρ.name c.1, c.2)) :
    Alike (QueryError.RenamedTo ρ) (fun rows rows' => rows' = rows.map (Row.rename ρ))
      (rows bound candidates) (rows bound' candidates') := by
  subst hcandidates
  cases candidates with
  | nil => exact .ok rfl
  | cons first others =>
    obtain ⟨name, objects⟩ := first
    have hfirst : objects.map (fun object => Row.empty.insert (ρ.name name) (some object)) =
        (objects.map fun object => Row.empty.insert name (some object)).map (Row.rename ρ) := by
      rw [List.map_map]
      exact List.map_congr_left fun object _ => Row.empty.insert_rename hρ name (some object)
    simp only [rows, List.map_cons]
    rw [hfirst]
    have hsources := List.forall₂_drop 1 h.statement.sources
    have hothers := forall₂_eq_map_iff.2 (rfl : others.map (fun c => (ρ.name c.1, c.2)) = _)
    exact extendAll_rename hρ h (forall₂_zip hsources hothers) _

end Join

/-! ## Columns -/

def Projection.rename (ρ : Renaming) : Projection → Projection
  | property aliasName propertyId => property (ρ.name aliasName) propertyId
  | score => score

/-- The headings of one column: they are the same, or name one alias before and after. -/
inductive HeadingRenamed (ρ : Renaming) : String → String → Prop
  | same (heading : String) : HeadingRenamed ρ heading heading
  | qualified (aliasName property : String) :
      HeadingRenamed ρ (aliasName ++ "." ++ property) (ρ.name aliasName ++ "." ++ property)

namespace Column

/-- The columns show the same cells. -/
structure RenamedTo (ρ : Renaming) (column column' : Column) : Prop where
  heading : HeadingRenamed ρ column.heading column'.heading
  projection : column'.projection = column.projection.rename ρ

theorem headingOf_rename (item : SelectItem) :
    HeadingRenamed ρ (headingOf item) (headingOf (item.rename ρ)) := by
  obtain ⟨sel, aliasName⟩ := item
  cases aliasName with
  | some aliasName => exact .same aliasName
  | none =>
    cases sel with
    | function f => exact .same f.toText
    | column c =>
      obtain ⟨i, q, property⟩ := c
      cases q with
      | none => exact .same property
      | some q => exact .qualified q property

variable {bound bound' : BoundStatement} (hρ : ρ.Injective) (h : bound.RenamedTo ρ bound')
include hρ h

theorem ofType_rename (name : String) :
    Alike (QueryError.RenamedTo ρ) (List.Forall₂ (RenamedTo ρ)) (ofType bound name)
      (ofType bound' (ρ.name name)) := by
  have hsize : bound'.bindings.types.size = bound.bindings.types.size := by
    rw [h.bindings]
    exact OrderedMap.size_mapEntries _ _ _
  unfold ofType
  rw [hsize, h.bindings, Bindings.get?_types_rename hρ]
  cases bound.bindings.types.get? name with
  | none => exact .error (.typeNotFound name)
  | some t =>
    refine .ok (List.forall₂_map_left_iff.2 (List.forall₂_map_right_iff.2 ?_))
    refine List.forall₂_same.2 fun p _ => ⟨?_, rfl⟩
    dsimp only
    split
    · exact .qualified name p.queryName
    · exact .same p.queryName

theorem ofItem_rename (item : SelectItem) :
    Alike (QueryError.RenamedTo ρ) (List.Forall₂ (RenamedTo ρ)) (ofItem bound item)
      (ofItem bound' (item.rename ρ)) := by
  have hid : (item.rename ρ).selector.id = ρ.id item.selector.id := item.selector.id_rename
  unfold ofItem
  rw [hid, h.resolution?_eq hρ]
  cases bound.resolution? item.selector.id with
  | none => exact .error (.unboundSelector item.selector)
  | some r =>
    cases r with
    | property aliasName typeId p => exact .ok (.cons ⟨headingOf_rename item, rfl⟩ .nil)
    | score => exact .ok (.cons ⟨headingOf_rename item, rfl⟩ .nil)
    | wildcard aliases =>
      have htypes := (Alike.lifting _).mapM (fun name _ hname => hname ▸ ofType_rename hρ h name)
        (forall₂_eq_map_iff.2 (rfl : aliases.map ρ.name = _))
      exact (Alike.lifting _).map htypes fun _ _ hcolumns => List.rel_flatten hcolumns

theorem ofStatement_rename :
    Alike (QueryError.RenamedTo ρ) (List.Forall₂ (RenamedTo ρ)) (ofStatement bound)
      (ofStatement bound') := by
  have hitems := (Alike.lifting _).mapM (fun item _ hitem => hitem ▸ ofItem_rename hρ h item)
    (forall₂_eq_map_iff.2 h.statement.select)
  exact (Alike.lifting _).map hitems fun _ _ hcolumns => List.rel_flatten hcolumns

end Column

/-! ## Runs -/

namespace Execution

theorem candidates_rename {bound bound' : BoundStatement} (h : bound.RenamedTo ρ bound')
    (catalog : Catalog) (repository : Repository) (config : Config) :
    candidates catalog repository config bound' =
      (candidates catalog repository config bound).map fun c => (ρ.name c.1, c.2) := by
  unfold candidates
  rw [h.bindings, List.map_map]
  exact List.map_map

/-- What succeeds depends on the values of the outcomes only. -/
theorem successes_map_left {α α' β : Type} (f : α → α')
    {outcomes outcomes' : List (Except QueryError β)}
    (h : List.Forall₂ (Alike (fun _ _ => True) Eq) outcomes outcomes') (items : List α) :
    successes (items.map f) outcomes' =
      ((successes items outcomes).1.map (Prod.map f id), (successes items outcomes).2) := by
  induction h generalizing items with
  | nil => simp [successes]
  | cons ho _ ih =>
    cases items with
    | nil => rfl
    | cons item items =>
      obtain ⟨hpairs, hcount⟩ := Prod.ext_iff.1 (ih items)
      simp only [successes] at hpairs hcount ⊢
      rw [List.map_cons, List.zip_cons_cons, List.zip_cons_cons, List.filterMap_cons,
        List.filterMap_cons, List.countP_cons, List.countP_cons, hpairs, hcount, ho.toOption_eq,
        ho.toBool_eq]
      cases ho <;> rfl

variable {m : Type → Type} [Monad m] [LawfulMonad m] {e e' : Evaluator m} (hρ : ρ.Injective)
  (h : e.RenamedTo ρ e')
include hρ h

theorem filterRows_rename (rows : List Row) :
    Coupled (fun found found' => found' = (found.1.map (Row.rename ρ), found.2))
      (filterRows e rows) (filterRows e' (rows.map (Row.rename ρ))) := by
  have houtcome : ∀ row row' : Row, row' = row.rename ρ →
      Coupled (Alike (fun _ _ => True) Eq) (e.evaluateRow row).run (e'.evaluateRow row').run := by
    rintro row _ rfl
    exact CoupledT.of_eq (fun _ => trivial) (e.evaluateRow_rename hρ h row).symm
  refine Coupled.lifting.bind (Coupled.lifting.mapM houtcome (forall₂_eq_map_iff.2 rfl)) ?_
  intro outcomes outcomes' houtcomes
  rw [successes_map_left _ houtcomes]
  refine .pure (Prod.ext ?_ rfl)
  dsimp only
  rw [List.filter_map, List.map_map, List.map_map]
  rfl

theorem sortRows_rename (rows : List Row) :
    Coupled (fun found found' => found' = (found.1.map (Row.rename ρ), found.2))
      (sortRows e rows) (sortRows e' (rows.map (Row.rename ρ))) := by
  have houtcome : ∀ row row' : Row, row' = row.rename ρ →
      Coupled (Alike (fun _ _ => True) Eq) (e.sortKey row).run (e'.sortKey row').run := by
    rintro row _ rfl
    exact e.sortKey_rename hρ h row
  have hdirections : directions e'.bound.statement.orderBy =
      directions e.bound.statement.orderBy := by
    rw [h.bound.statement.orderBy]
    exact List.map_map
  refine Coupled.lifting.bind (Coupled.lifting.mapM houtcome (forall₂_eq_map_iff.2 rfl)) ?_
  intro outcomes outcomes' houtcomes
  rw [successes_map_left _ houtcomes, hdirections]
  have hsort (le : SortKey → SortKey → Bool) (keyed : List (Row × SortKey)) :
      (keyed.map (Prod.map (Row.rename ρ) id)).mergeSort (fun a b => le a.2 b.2) =
        (keyed.mergeSort fun a b => le a.2 b.2).map (Prod.map (Row.rename ρ) id) :=
    (List.map_mergeSort (f := Prod.map (Row.rename ρ) id) fun _ _ _ _ => rfl).symm
  refine .pure (Prod.ext ?_ rfl)
  dsimp only
  rw [hsort fun a b => SortKey.compare (directions e.bound.statement.orderBy) a b != .gt,
    List.map_map, List.map_map]
  rfl

omit [LawfulMonad m] in
theorem cell_rename (row : Row) {column column' : Column} (hcolumn : column.RenamedTo ρ column') :
    cell e' (row.rename ρ) column' = cell e row column := by
  unfold cell
  rw [hcolumn.projection]
  cases column.projection with
  | property aliasName propertyId =>
    dsimp only [Projection.rename]
    rw [row.get?_rename hρ]
  | score =>
    dsimp only [Projection.rename]
    rw [e.score_rename hρ h]

theorem project_rename {columns columns' : List Column}
    (hcolumns : List.Forall₂ (Column.RenamedTo ρ) columns columns') (rows : List Row) :
    project e' columns' (rows.map (Row.rename ρ)) = project e columns rows := by
  have hcells : ∀ row row' : Row, row' = row.rename ρ →
      Coupled Eq (columns.mapM (cell e row)) (columns'.mapM (cell e' row')) := by
    rintro row _ rfl
    have hcell : ∀ column column', column.RenamedTo ρ column' →
        Coupled Eq (cell e row column) (cell e' (row.rename ρ) column') :=
      fun _ _ hcolumn => .of_eq (cell_rename hρ h row hcolumn).symm
    have hrow := Coupled.lifting.mapM hcell hcolumns
    rwa [List.forall₂_eq_eq_eq] at hrow
  have hrows := Coupled.lifting.mapM hcells (forall₂_eq_map_iff.2 (rfl : rows.map _ = _))
  rw [List.forall₂_eq_eq_eq] at hrows
  unfold project
  rw [hrows.eq]

end Execution

/-- The results of one query under other names: they differ in the aliases that headings name. -/
structure QueryResult.RenamedTo (ρ : Renaming) (result result' : QueryResult) : Prop where
  columns : List.Forall₂ (HeadingRenamed ρ) result.columns result'.columns
  rows : result'.rows = result.rows
  stats : result'.stats = result.stats
  hasMoreItems : result'.hasMoreItems = result.hasMoreItems
  numItems : result'.numItems = result.numItems

namespace Execution

variable {m : Type → Type} [Monad m] [LawfulMonad m]

/-- **Running knows no names.** With every index, whatever effects its answers have, both runs have
the same effects. -/
theorem execute_renamedTo (hρ : ρ.Injective) {bound bound' : BoundStatement}
    (h : bound.RenamedTo ρ bound') (catalog : Catalog) (repository : Repository)
    (index : Option (TextIndex m)) (config : Config) :
    CoupledT (QueryError.RenamedTo ρ) (QueryResult.RenamedTo ρ)
      (execute catalog repository index config bound)
      (execute catalog repository index config bound') := by
  have hlift {α : Type} {R : α → α → Prop} {x x' : Except QueryError α}
      (hx : Alike (QueryError.RenamedTo ρ) R x x') : CoupledT (QueryError.RenamedTo ρ) R
        (execute.liftExcept x : ExceptT QueryError m α) (execute.liftExcept x') := Coupled.pure hx
  have hcandidates := candidates_rename h catalog repository config
  have hscanned : total ((candidates catalog repository config bound').map (·.2.length)) =
      total ((candidates catalog repository config bound).map (·.2.length)) := by
    rw [hcandidates, List.map_map]
    rfl
  have hempty : bound'.statement.orderBy.isEmpty = bound.statement.orderBy.isEmpty := by
    rw [h.statement.orderBy, List.isEmpty_map]
  unfold execute
  refine (CoupledT.lifting _).bind (hlift (Join.rows_rename hρ h hcandidates)) ?_
  intro rows _ hrows
  subst hrows
  refine (CoupledT.lifting _).bind (hlift (Evaluator.prepare_rename h _ _ _)) ?_
  intro e e' he
  refine (CoupledT.lifting _).bind (.lift (filterRows_rename hρ he rows)) ?_
  rintro ⟨matching, testErrors⟩ _ rfl
  dsimp only
  rw [hempty, hscanned]
  refine (CoupledT.lifting _).ite_bind ((CoupledT.lifting _).pure rfl)
    (.lift (sortRows_rename hρ he matching)) ?_
  rintro ⟨sorted, keyErrors⟩ _ rfl
  dsimp only
  refine (CoupledT.lifting _).bind (hlift (Column.ofStatement_rename hρ h)) ?_
  intro columns columns' hcolumns
  have hpage : page config (sorted.map (Row.rename ρ)) =
      (page config sorted).map (Row.rename ρ) := by
    rw [page, page, List.map_take, List.map_drop]
  rw [hpage, project_rename hρ he hcolumns]
  refine (CoupledT.lifting _).bind (.lift (.refl (fun _ => rfl) _)) ?_
  rintro ⟨cells, cellErrors⟩ _ rfl
  dsimp only
  rw [List.length_map]
  refine (CoupledT.lifting _).pure ⟨?_, rfl, rfl, rfl, rfl⟩
  refine List.forall₂_map_left_iff.2 (List.forall₂_map_right_iff.2 ?_)
  exact hcolumns.imp fun _ _ hcolumn => hcolumn.heading

end Execution

end ContentQuery
