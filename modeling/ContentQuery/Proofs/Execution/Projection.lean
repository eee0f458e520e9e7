import ContentQuery.Proofs.Execution.Failures
import ContentQuery.Proofs.Execution.Ordering

/-!
# The cells of a result

Every row of a result has one cell for each column. The cell of a property shows what the object
under its alias stores (`Evaluator.Shows`), which is what WHERE and ORDER BY read for a reference to
the same property. With the columns that the SELECT list contributes, this is all that is shown
(`projection_complete`).
-/

set_option autoImplicit false

namespace ContentQuery

/-! ## Cells -/

namespace Evaluator

/-- A cell shows the stored property of a row. It is null exactly if there is no object under the
alias, or the object has no such property. A reference to the property reads the same in WHERE, and
in ORDER BY its only value if there is one. -/
structure Shows (e : Evaluator Id) (row : Row) (aliasName propertyId : String)
    (cell : Option PropertyValue) : Prop where
  stored : ∀ v, cell = some v ↔
    ∃ o, row.get? aliasName = some o ∧ o.property? propertyId = some v
  null : cell = none ↔ row.get? aliasName = none ∨
    ∃ o, row.get? aliasName = some o ∧ o.property? propertyId = none
  filter : ∀ c typeId p, e.bound.resolution? c.id = some (.property aliasName typeId p) →
    p.id = propertyId → e.stored? row (.column c) = cell ∧
      e.operandValue row (.column c) = pure (cell.bind PropertyValue.single?)
  orderBy : ∀ id typeId p, e.bound.resolution? id = some (.property aliasName typeId p) →
    p.id = propertyId → e.selectorValue id row = pure cell
  key : ∀ key, e.key row = .ok key → List.Forall₂ (fun spec value => ∀ typeId p,
    e.bound.resolution? spec.selector.id = some (.property aliasName typeId p) →
    p.id = propertyId → value = cell.bind PropertyValue.single?) e.bound.statement.orderBy key

theorem shows_stored (e : Evaluator Id) (row : Row) (aliasName propertyId : String) :
    e.Shows row aliasName propertyId
      ((row.get? aliasName).bind (·.property? propertyId)) where
  stored v := Option.bind_eq_some_iff
  null := by
    cases row.get? aliasName with
    | none => exact iff_of_true rfl (.inl rfl)
    | some o => simp
  filter c typeId p hr hp := by
    subst hp
    have hstored : e.stored? row (.column c) =
        (row.get? aliasName).bind (·.property? p.id) := by
      have hproperty := BoundStatement.property?_eq_some_iff.2 ⟨typeId, hr⟩
      simp only [stored?, Predicate.column?, storedProperty?, hproperty, Option.bind_eq_bind,
        Option.bind_some]
    exact ⟨hstored, by rw [operandValue_eq ⟨c, aliasName, typeId, rfl, hr⟩, hstored]⟩
  orderBy id typeId p hr hp := by
    subst hp
    rw [selectorValue, hr]
  key key hkey := by
    refine (Execution.values_of_key hkey).imp fun spec value hvalue typeId p hr hp => ?_
    subst hp
    obtain ⟨stored, hstored, hvalue⟩ := hvalue
    rw [selectorValue, hr] at hstored
    cases hstored
    refine Option.ext fun v => ?_
    simp only [hvalue, Option.bind_eq_some_iff, PropertyValue.single?_eq_some_iff]

/-- A row has one cell for each column, and those of properties show what is stored. -/
def ShowsRow (e : Evaluator Id) (columns : List Column) (row : Row)
    (cells : List (Option PropertyValue)) : Prop :=
  List.Forall₂ (fun column cell => ∀ aliasName propertyId,
    column.projection = .property aliasName propertyId → e.Shows row aliasName propertyId cell)
    columns cells

theorem showsRow_shown (e : Evaluator Id) (columns : List Column) (row : Row) :
    e.ShowsRow columns row (columns.map (e.shown row)) := by
  refine List.forall₂_map_right_iff.2 (List.forall₂_same.2 fun column _ => ?_)
  intro aliasName propertyId hprojection
  rw [shown, hprojection]
  exact e.shows_stored row aliasName propertyId

end Evaluator

/-! ## Results -/

namespace Execution

/-- **The projection is complete and consistent.** A text that is a statement and binds has a
result. Its columns are those that the items of the SELECT list contribute, in order, and each row
that is shown has one cell for each column. The cell of a property is what the object of the row
under the alias of the column stores, and what WHERE and ORDER BY read of it. -/
theorem projection_complete {catalog : Catalog} {text : String} {s : Statement}
    {bound : BoundStatement} (hparse : Statement.parse text = .ok s)
    (hbind : s.bind catalog = .ok bound) (repository : Repository)
    (index : Option (TextIndex Id)) (config : Config) :
    (s.fromTypes catalog).map (·.1) = s.sources.map Source.bindingName ∧
    ∃ rows e parts inOrder result,
      Join.rows bound (candidates catalog repository config bound) = .ok rows ∧
      Evaluator.prepare bound repository.folders index config.caseSensitiveText = .ok e ∧
      List.Forall₂ (Column.Contributes (s.fromTypes catalog) bound.resolution?) s.select parts ∧
      (execute catalog repository index config bound).run.run = .ok result ∧
      result.columns = parts.flatten.map (·.heading) ∧
      Accounts e config parts.flatten rows inOrder result ∧
      (∀ cells ∈ result.rows, cells.length = result.columns.length) ∧
      List.Forall₂ (e.ShowsRow parts.flatten) (page config inOrder) result.rows := by
  obtain ⟨⟨rows, hrows⟩, ⟨e, hprepare⟩, -, -⟩ :=
    hasResult_of_bind (m := Id) hparse hbind repository index config
  obtain ⟨rfl, hbound⟩ := bind_ok (Statement.selectors_ids_nodup hparse) hbind
  obtain ⟨parts, hcolumns, hparts⟩ := Column.exists_ofStatement hbound
  have hrun : (execute catalog repository index config bound).run.run = .ok (resultOf e config
      parts.flatten (total ((candidates catalog repository config bound).map (·.2.length)))
      rows) := by
    rw [run_execute, hrows, hprepare, hcolumns]
    rfl
  have haccounts := accounts_resultOf e config parts.flatten
    (total ((candidates catalog repository config bound).map (·.2.length))) rows
  refine ⟨?_, rows, e, parts, found e rows, _, hrows, hprepare, hparts, hrun, rfl, haccounts,
    fun cells hcells => ?_, ?_⟩
  · rw [← hbound.types, ← hbound.keys]
    rfl
  · obtain ⟨row, -, rfl⟩ := List.mem_map.1 (haccounts.cells ▸ hcells)
    rw [List.length_map]
    exact (List.length_map ..).symm
  · rw [haccounts.cells]
    exact List.forall₂_map_right_iff.2 (List.forall₂_same.2 fun row _ =>
      e.showsRow_shown parts.flatten row)

/-- An outer join in which a document has no folder. -/
def folderlessText : String :=
  "SELECT f.*, d.cmis:name AS n, SCORE() FROM cmis:document d " ++
    "LEFT JOIN cmis:folder f ON d.cmis:objectId = f.cmis:path"

/-- The wild card contributes a column for each of the eleven properties of a folder, and the two
other items one each. -/
theorem projection_complete_folderless : ∃ s bound,
    Statement.parse folderlessText = .ok s ∧ s.bind .base = .ok bound ∧ ∃ parts result,
    List.Forall₂ (Column.Contributes (s.fromTypes .base) bound.resolution?) s.select parts ∧
    (execute (m := Id) .base ⟨.ofList [("d", sampleDocument)], ⟨false⟩⟩ none {} bound).run.run =
      .ok result ∧
    result.columns = parts.flatten.map (·.heading) ∧
    (result.columns.head?, result.columns.drop 11) = (some "f.cmis:objectId", ["n", "SCORE()"]) ∧
    result.rows.length = 1 ∧ ∀ cells ∈ result.rows, cells.length = 13 := by
  refine exists_bound (fun _ bound =>
    (execute (m := Id) .base ⟨.ofList [("d", sampleDocument)], ⟨false⟩⟩ none {} bound
      ).run.run.toOption.any fun result => decide (result.columns.length = 13 ∧
        (result.columns.head?, result.columns.drop 11) =
          (some "f.cmis:objectId", ["n", "SCORE()"]) ∧ result.rows.length = 1))
    ?_ fun s bound hs hbound hcheck => ?_
  · delta folderlessText
    rw [← String.ofList_append, Statement.parse_ofList]
    decide +kernel
  obtain ⟨shown, hshown, hcheck⟩ := exists_of_any_toOption hcheck
  obtain ⟨hlength, hheadings, hrows⟩ := of_decide_eq_true hcheck
  obtain ⟨-, _, e, parts, inOrder, result, -, -, hparts, hrun, hcolumns, -, hcells, -⟩ :=
    projection_complete hs hbound ⟨.ofList [("d", sampleDocument)], ⟨false⟩⟩ none {}
  obtain rfl : shown = result := Except.ok.inj (hshown.symm.trans hrun)
  exact ⟨parts, shown, hparts, hrun, hcolumns, hheadings, hrows,
    fun cells hmem => (hcells cells hmem).trans hlength⟩

end Execution

end ContentQuery
