import ContentQuery.Proofs.Binding.Names
import ContentQuery.Proofs.Execution.SingleType
import ContentQuery.Proofs.Repository.Inserts

/-!
# Queries for the children of a folder

An object says twice what its parent is: in a field, of which the folder hierarchy is made, and in
a property, which queries compare. Insertion adds the property unless the object brings one of its
own, so that the two agree exactly if that one says the same (`tellsParent_stored_iff`). Where they
agree, a folder test and a comparison with the property find the same objects
(`children_selected`), and `own_property_misleads` shows what is found where they do not.
-/

set_option autoImplicit false

namespace ContentQuery

/-! ## The two parents -/

/-- The property of the parent says what the parent is: it is there if there is a parent, and holds
its id alone. -/
def ContentObject.TellsParent (o : ContentObject) : Prop :=
  o.property? parentIdProperty = o.parentId.map fun p => .single (.id p)

instance (o : ContentObject) : Decidable o.TellsParent :=
  inferInstanceAs (Decidable (o.property? parentIdProperty = _))

theorem ContentObject.tellsParent_stored_iff (o : ContentObject) :
    o.withSystemProperties.TellsParent ↔
      o.property? parentIdProperty = none ∨ o.TellsParent := by
  have hparent : o.withSystemProperties.parentId = o.parentId := rfl
  unfold TellsParent
  rw [property?_parentIdProperty, hparent]
  cases o.property? parentIdProperty with
  | none => exact iff_of_true (Option.none_or) (.inl rfl)
  | some own =>
    rw [Option.some_or]
    exact ⟨.inr, fun h => h.resolve_left (Option.some_ne_none own)⟩

/-! ## The two queries -/

/-- The folder that a literal names. -/
def Literal.folder? (raw : String) : Option String :=
  match value? raw with
  | .ok (.string folderId) => some folderId
  | _ => none

theorem Literal.folder?_eq_some {raw folderId : String} (h : folder? raw = some folderId) :
    value? raw = .ok (.string folderId) := by
  unfold folder? at h
  split at h
  · rename_i hvalue
    cases h
    exact hvalue
  · cases h

/-- The folder whose children a statement asks for, by a folder test or by a comparison with the
property of the parent. -/
def BoundStatement.childrenOf? (bound : BoundStatement) : Option String :=
  match bound.statement.filter with
  | some (.inFolder .children (.literal raw)) => Literal.folder? raw
  | some (.relation (.compare .eq) (.column column) (.literal raw)) =>
    match bound.property? column.id with
    | some (_, p) => if p.id = parentIdProperty then Literal.folder? raw else none
    | none => none
  | _ => none

namespace Execution

variable {c : Catalog} {bound : BoundStatement} {source : Source} {folderId raw : String}
  {r : Repository} {o : ContentObject}

/-- A folder test asks the hierarchy. -/
theorem satisfies_folderTest_iff (haliases : bound.aliases = [source.bindingName])
    (hraw : Literal.value? raw = .ok (.string folderId)) :
    (bound.reading r.folders (Row.single bound o) .miss).Satisfies
      (.inFolder .children (.literal raw)) ↔ r.parent? o.id = some folderId := by
  have hdefault : bound.bindings.defaultAlias ∈ bound.aliases := by
    rw [Bindings.defaultAlias, haliases, show bound.bindings.types.keys = _ from haliases]
    exact List.mem_singleton_self _
  have hrow := get?_single haliases o hdefault
  constructor
  · rintro ⟨folderId', o', hfolder, hget, hparent⟩
    cases hfolder.symm.trans hraw
    cases hget.symm.trans hrow
    exact hparent
  · exact fun hparent => ⟨folderId, o, hraw, hrow, hparent⟩

/-- The id of a parent equals that of a folder only if it is the same. -/
theorem compare?_id_string (p folderId : String) {order : Ordering} :
    (Value.id p).compare? (.string folderId) = some order ∧ Comparison.eq.accepts order = true ↔
      order = .eq ∧ p = folderId := by
  have hcompare : (Value.id p).compare? (.string folderId) = some (Ord.compare p folderId) := rfl
  rw [hcompare, Option.some.injEq, Comparison.accepts, beq_iff_eq]
  constructor
  · rintro ⟨rfl, heq⟩
    exact ⟨heq, Std.LawfulEqOrd.eq_of_compare heq⟩
  · rintro ⟨rfl, rfl⟩
    exact ⟨Std.ReflOrd.compare_self, rfl⟩

/-- A comparison asks for what is stored. -/
theorem satisfies_comparison_iff {column : ColumnRef} {aliasName typeId : String}
    {p : PropertyDefinition} (hraw : Literal.value? raw = .ok (.string folderId))
    (hcolumn : bound.resolution? column.id = some (.property aliasName typeId p))
    (hp : p.id = parentIdProperty) (hrow : (Row.single bound o).get? aliasName = some o)
    (htells : o.TellsParent) :
    (bound.reading r.folders (Row.single bound o) .miss).Satisfies
      (.relation (.compare .eq) (.column column) (.literal raw)) ↔ o.parentId = some folderId := by
  -- what the column stores is what the object has as its parent
  have hstores (stored : PropertyValue) :
      (bound.reading r.folders (Row.single bound o) .miss).Stores (.column column) stored ↔
        o.parentId.map (fun p => .single (.id p)) = some stored := by
    rw [← htells, ← hp]
    constructor
    · rintro ⟨_, _, _, _, o', ⟨⟩, hcolumn', hrow', hstored⟩
      cases hcolumn'.symm.trans hcolumn
      cases hrow'.symm.trans hrow
      exact hstored
    · exact fun hstored => ⟨column, aliasName, typeId, p, o, rfl, hcolumn, hrow, hstored⟩
  constructor
  · rintro ⟨a, b, order, ha, hb, hcompare, haccepts, -⟩
    cases (Reading.hasValue_literal_iff.1 hb).symm.trans hraw
    cases ha with
    | scoreAlias hscore => cases hscore.symm.trans hcolumn
    | property hs hvalues =>
      obtain ⟨parent, hparent, rfl⟩ := Option.map_eq_some_iff.1 ((hstores _).1 hs)
      cases hvalues
      rw [hparent, ((compare?_id_string parent folderId).1 ⟨hcompare, haccepts⟩).2]
  · intro hparent
    obtain ⟨hcompare, haccepts⟩ := (compare?_id_string folderId folderId).2 ⟨rfl, rfl⟩
    have hs := (hstores (.single (.id folderId))).2 (by rw [hparent, Option.map_some])
    exact ⟨_, _, _, .property hs rfl, .literal hraw, hcompare, haccepts, nofun⟩

/-- Either query finds the children of the folder. -/
theorem run_of_childrenOf? (hc : c.Grounded) {text : String} {s : Statement}
    (hparse : Statement.parse text = .ok s) (hbind : s.bind c = .ok bound)
    (hsources : s.sources = [source]) (hasks : bound.childrenOf? = some folderId) (hr : r.Keyed)
    (index : Option (TextIndex Id)) (config : Config)
    (htells : ∀ o ∈ r.objectsOfType c source.typeId config.includeSubtypes, o.TellsParent) :
    ∃ e columns inOrder result,
      Evaluator.prepare bound r.folders index config.caseSensitiveText = .ok e ∧
      Column.ofStatement bound = .ok columns ∧
      (execute c r index config bound).run.run = .ok result ∧
      Accounts e config columns
        ((r.objectsOfType c source.typeId config.includeSubtypes).map (Row.single bound))
        inOrder result ∧
      inOrder.Perm (((r.objectsOfType c source.typeId config.includeSubtypes).filter fun o =>
        r.parent? o.id == some folderId).map (Row.single bound)) := by
  obtain ⟨rfl, hbound⟩ := bind_ok (Statement.selectors_ids_nodup hparse) hbind
  have haliases := aliases_of_single hbound hsources
  unfold BoundStatement.childrenOf? at hasks
  split at hasks
  · rename_i raw hfilter
    refine run_of_reading hc hparse hbind hsources hfilter ?_ ?_ r index config fun o _ => ?_
    · rw [Statement.searches, hfilter]
      rfl
    · simp [Predicate.LiteralBeforeAny, Predicate.nodes]
    · rw [satisfies_folderTest_iff haliases (Literal.folder?_eq_some hasks), beq_iff_eq]
  · rename_i column raw hfilter
    cases hproperty : bound.property? column.id with
    | none =>
      rw [hproperty] at hasks
      cases hasks
    | some entry =>
    obtain ⟨aliasName, p⟩ := entry
    rw [hproperty] at hasks
    obtain ⟨hp, hraw⟩ := Option.ite_none_right_eq_some.1 hasks
    obtain ⟨typeId, hcolumn⟩ := BoundStatement.property?_eq_some_iff.1 hproperty
    have hmem : aliasName ∈ bound.aliases :=
      hbound.mem_keys_of_property (Statement.mem_references_filter hfilter List.mem_cons_self)
        hcolumn
    refine run_of_reading hc hparse hbind hsources hfilter ?_ ?_ r index config fun o ho => ?_
    · rw [Statement.searches, hfilter]
      rfl
    · simp [Predicate.LiteralBeforeAny, Predicate.nodes]
    · rw [satisfies_comparison_iff (Literal.folder?_eq_some hraw) hcolumn hp
        (get?_single haliases o hmem) (htells o ho), hr.parent?_id (List.mem_of_mem_filter ho),
        beq_iff_eq]
  · cases hasks

/-- **The property and the hierarchy agree, unless an object has brought a property of its own.**
After any insertions the hierarchy says of every stored object what its own parent is, and so does
the property if it was added by the insertion. If it was supplied with the object, it stays as it
is. On objects where the two agree, a folder test and a comparison with the property find the same
ones: the children of the folder. -/
theorem children_selected {caseSensitiveText : Bool} {supplied : List ContentObject}
    {outcomes : List (Except QueryError ContentObject)}
    (h : ((Repository.insertingEach supplied).run (.empty caseSensitiveText)).run = (outcomes, r)) :
    List.Forall₂ (fun o outcome => ∀ stored, outcome = .ok stored →
      r.parent? stored.id = o.parentId ∧
      stored.property? parentIdProperty =
        (o.property? parentIdProperty).or (o.parentId.map fun p => .single (.id p)) ∧
      (stored.TellsParent ↔ o.property? parentIdProperty = none ∨ o.TellsParent))
      supplied outcomes ∧
    ∀ (c : Catalog) (index : Option (TextIndex Id)) (config : Config) (text : String)
      (s : Statement) (bound : BoundStatement) (source : Source) (folderId : String),
      c.Reachable → Statement.parse text = .ok s → s.bind c = .ok bound → s.sources = [source] →
      bound.childrenOf? = some folderId →
      (∀ o ∈ r.objectsOfType c source.typeId config.includeSubtypes, o.TellsParent) →
      ∃ e columns inOrder result,
        Evaluator.prepare bound r.folders index config.caseSensitiveText = .ok e ∧
        Column.ofStatement bound = .ok columns ∧
        (execute c r index config bound).run.run = .ok result ∧
        Accounts e config columns
          ((r.objectsOfType c source.typeId config.includeSubtypes).map (Row.single bound))
          inOrder result ∧
        inOrder.Perm (((r.objectsOfType c source.typeId config.includeSubtypes).filter fun o =>
          r.parent? o.id == some folderId).map (Row.single bound)) := by
  obtain ⟨hkeyed, -, hstored⟩ := Repository.run_insertingEach (.empty caseSensitiveText) h
  constructor
  · refine hstored.imp fun o outcome houtcome stored hok => ?_
    obtain ⟨rfl, hmem⟩ := houtcome stored hok
    exact ⟨hkeyed.parent?_id hmem, o.property?_parentIdProperty, o.tellsParent_stored_iff⟩
  · intro c index config text s bound source folderId hc hparse hbind hsources hasks htells
    exact run_of_childrenOf? hc.grounded hparse hbind hsources hasks hkeyed index config htells

/-- Two folders in the folder `f`, one of which says so itself, and one without a parent. -/
def filedObjects : List ContentObject :=
  [⟨"a", "cmis:folder", some "f", .empty, none⟩,
    ⟨"b", "cmis:folder", some "f", .ofList [(parentIdProperty, .single (.id "f"))], none⟩,
    ⟨"c", "cmis:folder", none, .empty, none⟩]

/-- How their insertion ends, and the repository that it leaves. -/
def filed : List (Except QueryError ContentObject) × Repository :=
  ((Repository.insertingEach filedObjects).run (.empty false)).run

/-- All are stored, and both queries find the two. -/
theorem children_selected_filed : filed.2.size = 3 ∧
    ∀ text ∈ ["SELECT * FROM cmis:folder WHERE IN_FOLDER('f')",
      "SELECT * FROM cmis:folder WHERE cmis:parentId = 'f'"], ∃ s bound,
        Statement.parse text = .ok s ∧ s.bind .base = .ok bound ∧ ∃ result,
          (execute (m := Id) .base filed.2 none {} bound).run.run = .ok result ∧
          result.numItems = 2 := by
  refine ⟨by decide, fun text htext => ?_⟩
  have hcheck : ∀ text ∈ ["SELECT * FROM cmis:folder WHERE IN_FOLDER('f')",
      "SELECT * FROM cmis:folder WHERE cmis:parentId = 'f'"],
      ((Statement.parse text).toOption.any fun s => (s.bind .base).toOption.any fun bound =>
        decide (s.sources = [⟨"cmis:folder", none, none⟩] ∧ bound.childrenOf? = some "f")) =
        true := by
    rw [List.forall_mem_cons, List.forall_mem_singleton, Statement.parse_ofList,
      Statement.parse_ofList]
    decide +kernel
  refine exists_bound _ (hcheck text htext) fun s bound hs hbound hcheck => ?_
  obtain ⟨hsources, hasks⟩ := of_decide_eq_true hcheck
  obtain ⟨-, hqueries⟩ := children_selected (show
    ((Repository.insertingEach filedObjects).run (.empty false)).run = (filed.1, filed.2) from rfl)
  obtain ⟨e, columns, inOrder, result, -, -, hrun, haccounts, hall⟩ := hqueries .base none {} text
    s bound _ "f" .base hs hbound hsources hasks (by decide)
  refine ⟨result, hrun, ?_⟩
  rw [haccounts.numItems, hall.length_eq, List.length_map]
  decide

/-- A folder in the folder `p` and one without a parent, both of which claim to be in `f`. -/
def misfiledObjects : List ContentObject :=
  [⟨"a", "cmis:folder", some "p", .ofList [(parentIdProperty, .single (.id "f"))], none⟩,
    ⟨"b", "cmis:folder", none, .ofList [(parentIdProperty, .single (.id "f"))], none⟩]

def misfiled : List (Except QueryError ContentObject) × Repository :=
  ((Repository.insertingEach misfiledObjects).run (.empty false)).run

/-- **A property of the parent that is supplied is believed.** The two objects are stored with it,
and a comparison finds them in a folder in which the hierarchy has nothing. -/
theorem own_property_misleads :
    (misfiled.2.objects.values.map fun o => (o.id, o.parentId, o.property? parentIdProperty)) =
      [("a", some "p", some (.single (.id "f"))), ("b", none, some (.single (.id "f")))] ∧
    ((query (m := Id) .base misfiled.2 none {}
      "SELECT * FROM cmis:folder WHERE cmis:parentId = 'f'").run.run.toOption.map (·.numItems)) =
        some 2 ∧
    ((query (m := Id) .base misfiled.2 none {}
      "SELECT * FROM cmis:folder WHERE IN_FOLDER('f')").run.run.toOption.map (·.numItems)) =
        some 0 := by
  refine ⟨by decide +kernel, query_shows _ ?_, query_shows _ ?_⟩
  · rw [Statement.parse_ofList]
    decide +kernel
  · rw [Statement.parse_ofList]
    decide +kernel

end Execution

end ContentQuery
