import ContentQuery.Binding.Bind
import ContentQuery.Proofs.Couplings
import ContentQuery.Proofs.Renaming.Basic

/-!
# Binding renamed statements

Binding two statements of which one is a renaming of the other goes the same way step by step.
`Binding.Follows ρ R act act'` says so of one step: from any bindings, `act'` does to the renamed
bindings what `act` does to the bindings, and their values are related by `R`; or both fail, with
errors that differ in the names they tell (`BindError.RenamedTo`). One lemma for each step leads to
`Statement.bind_renamedTo`.
-/

set_option autoImplicit false

namespace ContentQuery

variable {ρ : Renaming}

/-! ## What binding has recorded -/

def Resolution.rename (ρ : Renaming) : Resolution → Resolution
  | property aliasName typeId p => property (ρ.name aliasName) typeId p
  | wildcard aliases => wildcard (aliases.map ρ.name)
  | score => score

def FullTextClause.rename (ρ : Renaming) (clause : FullTextClause) : FullTextClause :=
  { clause with aliasName := ρ.name clause.aliasName }

namespace Bindings

def rename (ρ : Renaming) (b : Bindings) : Bindings where
  types := b.types.mapEntries ρ.name id
  selectAliases := b.selectAliases.mapEntries id ρ.id
  resolved := b.resolved.mapEntries ρ.id (Resolution.rename ρ)
  joinReferences := b.joinReferences.map ρ.id
  fullText := b.fullText.map (FullTextClause.rename ρ)

/-- The FROM list has a type. Without one the default alias is no name of the statement. -/
def HasTypes (b : Bindings) : Prop := b.types.entries ≠ []

theorem defaultAlias_rename {b : Bindings} (h : b.HasTypes) :
    (b.rename ρ).defaultAlias = ρ.name b.defaultAlias := by
  obtain ⟨⟨types⟩, _, _, _, _⟩ := b
  cases types with
  | nil => exact absurd rfl h
  | cons e types => rfl

variable (hρ : ρ.Injective) (b : Bindings)
include hρ

theorem get?_types_rename (name : String) :
    (b.rename ρ).types.get? (ρ.name name) = b.types.get? name := by
  rw [rename, OrderedMap.get?_mapEntries hρ.name, Option.map_id_fun, id]

theorem contains_types_rename (name : String) :
    (b.rename ρ).types.contains (ρ.name name) = b.types.contains name :=
  OrderedMap.contains_mapEntries hρ.name id b.types name

theorem get?_resolved_rename (id : SelectorId) :
    (b.rename ρ).resolved.get? (ρ.id id) = (b.resolved.get? id).map (Resolution.rename ρ) :=
  OrderedMap.get?_mapEntries hρ.id (Resolution.rename ρ) b.resolved id

omit hρ in
theorem get?_selectAliases_rename (name : String) :
    (b.rename ρ).selectAliases.get? name = (b.selectAliases.get? name).map ρ.id :=
  OrderedMap.get?_mapEntries Function.injective_id ρ.id b.selectAliases name

end Bindings

/-! ## Errors -/

/-- Two errors of one cause in statements of which one is a renaming of the other: they are the
same, or tell one name or one column before and after. -/
inductive BindError.RenamedTo (ρ : Renaming) : BindError → BindError → Prop
  | same (e : BindError) : RenamedTo ρ e e
  | duplicateAlias (name : String) :
      RenamedTo ρ (.duplicateAlias .sources name) (.duplicateAlias .sources (ρ.name name))
  | unknownType (name : String) : RenamedTo ρ (.unknownType name) (.unknownType (ρ.name name))
  | ambiguousProperty (property : String) (aliases : List String) :
      RenamedTo ρ (.ambiguousProperty property aliases)
        (.ambiguousProperty property (aliases.map ρ.name))
  | invalidQuantifier (c : ColumnRef) :
      RenamedTo ρ (.invalidQuantifier c.toText) (.invalidQuantifier (c.rename ρ).toText)
  | quantifierRequired (c : ColumnRef) :
      RenamedTo ρ (.quantifierRequired c.toText) (.quantifierRequired (c.rename ρ).toText)
  | invalidComparison (operator : String) (c : ColumnRef) :
      RenamedTo ρ (.invalidComparison operator c.toText)
        (.invalidComparison operator (c.rename ρ).toText)
  | notQueryable (c : ColumnRef) :
      RenamedTo ρ (.notQueryable c.toText) (.notQueryable (c.rename ρ).toText)
  | notOrderable (c : ColumnRef) :
      RenamedTo ρ (.notOrderable c.toText) (.notOrderable (c.rename ρ).toText)
  | notAProperty (c : ColumnRef) :
      RenamedTo ρ (.invalidStatement (.notAProperty c.toText))
        (.invalidStatement (.notAProperty (c.rename ρ).toText))
  | wildcardOutsideSelect (c : ColumnRef) :
      RenamedTo ρ (.invalidStatement (.wildcardOutsideSelect c.toText))
        (.invalidStatement (.wildcardOutsideSelect (c.rename ρ).toText))
  | invalidColumnOperand (c : ColumnRef) (operator : String) :
      RenamedTo ρ (.invalidStatement (.invalidColumnOperand c.toText operator))
        (.invalidStatement (.invalidColumnOperand (c.rename ρ).toText operator))

namespace Binding

/-! ## Looking up -/

section
variable (hρ : ρ.Injective) (b : Bindings)
include hρ

theorem lookupWildcard_rename (c : ColumnRef) (k : Clause) :
    Alike (BindError.RenamedTo ρ) (fun r r' => r' = r.rename ρ) (lookupWildcard b c k)
      (lookupWildcard (b.rename ρ) (c.rename ρ) k) := by
  have hqualified : ∀ q, Alike (BindError.RenamedTo ρ) (fun r r' => r' = r.rename ρ)
      (lookupWildcard.qualified b q) (lookupWildcard.qualified (b.rename ρ) (ρ.name q)) := by
    intro q
    rw [lookupWildcard.qualified, lookupWildcard.qualified, b.contains_types_rename hρ]
    split
    · exact .ok rfl
    · exact .error (.unknownType q)
  have houtside : Alike (BindError.RenamedTo ρ) (fun r r' => r' = Resolution.rename ρ r)
      (.error (.invalidStatement (.wildcardOutsideSelect c.toText)))
      (.error (.invalidStatement (.wildcardOutsideSelect (c.rename ρ).toText))) :=
    .error (.wildcardOutsideSelect c)
  obtain ⟨i, q, property⟩ := c
  cases q <;> cases k <;> first | exact houtside | exact hqualified _ | skip
  refine .ok ?_
  rw [Resolution.rename, Bindings.rename, OrderedMap.keys_mapEntries]

omit hρ in
theorem definingTypes_rename (queryName : String) :
    definingTypes (b.rename ρ) queryName =
      (definingTypes b queryName).map fun found => (ρ.name found.1, found.2) := by
  simp only [definingTypes, Bindings.rename, OrderedMap.mapEntries, List.filterMap_map,
    List.map_filterMap]
  refine List.filterMap_congr fun e _ => ?_
  simp [Function.comp_def]

theorem lookupProperty_rename (c : ColumnRef) :
    Alike (BindError.RenamedTo ρ) (fun found found' => found' = (ρ.name found.1, found.2))
      (lookupProperty b c) (lookupProperty (b.rename ρ) (c.rename ρ)) := by
  obtain ⟨i, q, property⟩ := c
  cases q with
  | some q =>
    simp only [lookupProperty, ColumnRef.rename, Option.map_some, b.get?_types_rename hρ]
    cases b.types.get? q with
    | none => exact .error (.unknownType q)
    | some t =>
      dsimp only
      cases t.property? property with
      | none => exact .error (.same _)
      | some p => exact .ok rfl
  | none =>
    have hvalues : (b.rename ρ).types.values = b.types.values := by
      rw [Bindings.rename, OrderedMap.values_mapEntries, List.map_id]
    simp only [lookupProperty, ColumnRef.rename, Option.map_none, definingTypes_rename, hvalues]
    cases hfound : definingTypes b property with
    | nil => exact .error (.same _)
    | cons found others =>
      cases others with
      | nil => exact .ok rfl
      | cons other others =>
        have haliases : ((found :: other :: others).map fun found =>
            (ρ.name found.1, found.2)).map (·.1) =
              ((found :: other :: others).map (·.1)).map ρ.name := by
          simp
        simp only [List.map_cons] at haliases ⊢
        rw [haliases]
        exact .error (.ambiguousProperty property ((found :: other :: others).map (·.1)))

theorem lookupSelectAlias_rename (c : ColumnRef) (k : Clause) :
    lookupSelectAlias (b.rename ρ) (c.rename ρ) k =
      (lookupSelectAlias b c k).map (Resolution.rename ρ) := by
  have hnone : (c.rename ρ).qualifier.isNone = c.qualifier.isNone := Option.isNone_map
  simp only [lookupSelectAlias, hnone]
  split
  · show ((b.rename ρ).selectAliases.get? c.property).bind (b.rename ρ).resolved.get? = _
    rw [b.get?_selectAliases_rename]
    cases b.selectAliases.get? c.property with
    | none => rfl
    | some id => exact b.get?_resolved_rename hρ id
  · rfl

theorem lookupColumn_rename (c : ColumnRef) (k : Clause) :
    Alike (BindError.RenamedTo ρ) (fun r r' => r' = r.rename ρ) (lookupColumn b c k)
      (lookupColumn (b.rename ρ) (c.rename ρ) k) := by
  have hwildcard : (c.rename ρ).isWildcard = c.isWildcard := rfl
  simp only [lookupColumn, hwildcard, lookupSelectAlias_rename hρ]
  split
  · exact lookupWildcard_rename hρ b c k
  cases lookupSelectAlias b c k with
  | some r => exact .ok rfl
  | none =>
    refine (Alike.lifting _).bind (lookupProperty_rename hρ b c) fun found _ hfound => ?_
    subst hfound
    obtain ⟨aliasName, t, p⟩ := found
    dsimp only
    split
    · exact .error (.notQueryable c)
    · exact .ok rfl

end

/-! ## Steps that go the same way -/

/-- Values that `R` relates, with bindings that are the same but for the names. -/
structure Matches (ρ : Renaming) {α α' : Type} (R : α → α' → Prop) (out : α × Bindings)
    (out' : α' × Bindings) : Prop where
  value : R out.1 out'.1
  hasTypes : out.2.HasTypes
  bindings : out'.2 = out.2.rename ρ

/-- From any bindings with types, `act'` does to the renamed bindings what `act` does to the
bindings, with a value that is related to that of `act`. -/
def Follows (ρ : Renaming) {α α' : Type} (R : α → α' → Prop) (act : Binder α)
    (act' : Binder α') : Prop :=
  ∀ b : Bindings, b.HasTypes →
    Alike (BindError.RenamedTo ρ) (Matches ρ R) (act.run b) (act'.run (b.rename ρ))

namespace Follows

variable {α α' β β' : Type} {R : α → α' → Prop} {S : β → β' → Prop} {act : Binder α}
  {act' : Binder α'}

/-- A step that is taken after others, however these came about. -/
theorem after {b b' : Bindings} {f : α → Binder β} {f' : α' → Binder β'}
    (h : Alike (BindError.RenamedTo ρ) (Matches ρ R) (act.run b) (act'.run b'))
    (hf : ∀ a a', R a a' → Follows ρ S (f a) (f' a')) :
    Alike (BindError.RenamedTo ρ) (Matches ρ S) ((act >>= f).run b) ((act' >>= f').run b') := by
  refine (Alike.lifting _).bind h fun out out' hout => ?_
  obtain ⟨a, mid⟩ := out
  obtain ⟨a', mid'⟩ := out'
  obtain ⟨ha, hmid, rfl⟩ := hout
  exact hf a a' ha mid hmid

variable (ρ) in
theorem lifting : Lifting (m := Binder) (n := Binder) (Follows ρ) where
  pure h _ hb := .ok ⟨h, hb, rfl⟩
  bind hx hf _ hb := after (hx _ hb) hf

theorem bind {f : α → Binder β} {f' : α' → Binder β'} (h : Follows ρ R act act')
    (hf : ∀ a a', R a a' → Follows ρ S (f a) (f' a')) : Follows ρ S (act >>= f) (act' >>= f') :=
  (lifting ρ).bind h hf

theorem pure {a : α} {a' : α'} (h : R a a') : Follows ρ R (Pure.pure a) (Pure.pure a') :=
  (lifting ρ).pure h

theorem throw {e e' : BindError} (h : e.RenamedTo ρ e') :
    Follows ρ R (MonadExcept.throw e) (MonadExcept.throw e') :=
  fun _ _ => .error h

theorem throw_bind {e e' : BindError} (h : e.RenamedTo ρ e') {f : α → Binder β}
    {f' : α' → Binder β'} :
    Follows ρ S (MonadExcept.throw e >>= f) (MonadExcept.throw e' >>= f') :=
  fun _ _ => .error h

theorem ite {p : Prop} [Decidable p] {other : Binder α} {other' : Binder α'}
    (h : Follows ρ R act act') (h' : Follows ρ R other other') :
    Follows ρ R (if p then act else other) (if p then act' else other') := by
  split
  · exact h
  · exact h'

/-- What depends on the bindings at hand. -/
theorem get_bind {f : Bindings → Binder β} {f' : Bindings → Binder β'}
    (h : ∀ b, b.HasTypes → Follows ρ S (f b) (f' (b.rename ρ))) :
    Follows ρ S (get >>= f) (get >>= f') :=
  fun b hb => h b hb b hb

theorem set {b b' : Bindings} (hb : b.HasTypes) (h : b' = b.rename ρ) :
    Follows ρ Eq (MonadStateOf.set b : Binder PUnit) (MonadStateOf.set b') :=
  fun _ _ => .ok ⟨rfl, hb, h⟩

theorem modify {f f' : Bindings → Bindings} (hf : ∀ b, b.HasTypes → (f b).HasTypes)
    (h : ∀ b, f' (b.rename ρ) = (f b).rename ρ) :
    Follows ρ Eq (modify f : Binder PUnit) (modify f') :=
  fun b hb => .ok ⟨rfl, hf b hb, h b⟩

theorem monadLift {x : Except BindError α} {x' : Except BindError α'}
    (h : Alike (BindError.RenamedTo ρ) R x x') :
    Follows ρ R (liftM x : Binder α) (liftM x' : Binder α') := by
  intro b hb
  cases h with
  | ok ha => exact .ok ⟨ha, hb, rfl⟩
  | error he => exact .error he

end Follows

/-! ## References -/

section
variable (hρ : ρ.Injective)
include hρ

theorem record_follows (id : SelectorId) (r : Resolution) :
    Follows ρ Eq (record id r) (record (ρ.id id) (r.rename ρ)) := by
  refine .modify (fun _ hb => hb) fun b => ?_
  simp only [Bindings.rename, OrderedMap.insert_mapEntries hρ.id]

theorem resolveColumn_follows (c : ColumnRef) (k : Clause) :
    Follows ρ (fun r r' => r' = r.rename ρ) (resolveColumn c k)
      (resolveColumn (c.rename ρ) k) := by
  refine .get_bind fun b _ => ?_
  have hid : (c.rename ρ).id = ρ.id c.id := rfl
  rw [hid, b.get?_resolved_rename hρ]
  cases b.resolved.get? c.id with
  | some r => exact .pure rfl
  | none =>
    refine .bind (.monadLift (lookupColumn_rename hρ b c k)) fun r _ hr => ?_
    subst hr
    exact .bind (record_follows hρ c.id r) fun _ _ _ => .pure rfl

theorem resolveProperty_follows (c : ColumnRef) (k : Clause) :
    Follows ρ Eq (resolveProperty c k) (resolveProperty (c.rename ρ) k) := by
  refine .bind (resolveColumn_follows hρ c k) fun r _ hr => ?_
  subst hr
  cases r with
  | property aliasName typeId p => exact .pure rfl
  | wildcard aliases => exact .throw (.notAProperty c)
  | score => exact .throw (.notAProperty c)

theorem resolveFunction_follows (f : FunctionRef) :
    Follows ρ Eq (resolveFunction f) (resolveFunction (f.rename ρ)) := by
  exact .ite (.throw_bind (.same _)) (record_follows hρ f.id .score)

/-! ## FROM, SELECT, joins and ORDER BY -/

/-- A type is added whether there are types before it or not. -/
theorem bindSource_alike (catalog : Catalog) {source source' : Source}
    (h : source.RenamedTo ρ source') (b : Bindings) :
    Alike (BindError.RenamedTo ρ) (Matches ρ Eq) ((bindSource catalog source).run b)
      ((bindSource catalog source').run (b.rename ρ)) := by
  unfold bindSource
  rw [h.typeId, h.bindingName]
  simp only [StateT.run_bind, StateT.run_get, pure_bind, b.contains_types_rename hρ]
  by_cases hc : b.types.contains source.bindingName = true
  · rw [if_pos hc, if_pos hc]
    exact .error (.duplicateAlias _)
  rw [if_neg hc, if_neg hc]
  cases catalog.lookup? source.typeId with
  | none => exact .error (.same _)
  | some t =>
    dsimp only
    split
    · exact .error (.same _)
    · have hadded : (b.types.insert source.bindingName t).get? source.bindingName = some t := by
        simp
      refine .ok ⟨rfl, List.ne_nil_of_mem (OrderedMap.mem_entries_of_get? hadded), ?_⟩
      have hinsert := OrderedMap.insert_mapEntries hρ.name id b.types source.bindingName t
      simp only [Bindings.rename, id] at hinsert ⊢
      rw [hinsert]

theorem bindSources_alike (catalog : Catalog) {sources sources' : List Source}
    (h : List.Forall₂ (Source.RenamedTo ρ) sources sources') :
    Alike (BindError.RenamedTo ρ) (Matches ρ Eq) ((bindSources catalog sources).run .empty)
      ((bindSources catalog sources').run .empty) := by
  cases h with
  | nil => exact .error (.same _)
  | cons hsource hsources =>
    have hstep : ∀ source source', source.RenamedTo ρ source' →
        Follows ρ Eq (bindSource catalog source) (bindSource catalog source') :=
      fun _ _ hs b _ => bindSource_alike hρ catalog hs b
    exact Follows.after (bindSource_alike hρ catalog hsource .empty) fun _ _ _ =>
      (Follows.lifting ρ).forM hstep hsources

theorem bindSelector_follows (sel : Selector) :
    Follows ρ Eq (bindSelector sel) (bindSelector (sel.rename ρ)) := by
  cases sel with
  | column c => exact .bind (resolveColumn_follows hρ c .select) fun _ _ _ => .pure rfl
  | function f => exact resolveFunction_follows hρ f

omit hρ in
theorem bindSelectAlias_follows (id : SelectorId) (aliasName : Option String) :
    Follows ρ Eq (bindSelectAlias id aliasName) (bindSelectAlias (ρ.id id) aliasName) := by
  cases aliasName with
  | none => exact .pure rfl
  | some aliasName =>
    refine .get_bind fun b hb => ?_
    have hcontains : (b.rename ρ).selectAliases.contains aliasName =
        b.selectAliases.contains aliasName :=
      OrderedMap.contains_mapEntries Function.injective_id ρ.id b.selectAliases aliasName
    have hinsert := OrderedMap.insert_mapEntries Function.injective_id ρ.id b.selectAliases
      aliasName id
    rw [hcontains]
    refine .ite (.throw_bind (.same _)) (.set hb ?_)
    simp only [Bindings.rename]
    rw [← hinsert]
    rfl

theorem bindSelectItem_follows (item : SelectItem) :
    Follows ρ Eq (bindSelectItem item) (bindSelectItem (item.rename ρ)) := by
  refine .bind (bindSelector_follows hρ item.selector) fun _ _ _ => ?_
  have hid : (item.rename ρ).selector.id = ρ.id item.selector.id := item.selector.id_rename
  rw [hid]
  exact bindSelectAlias_follows item.selector.id item.aliasName

theorem bindJoinColumn_follows (c : ColumnRef) :
    Follows ρ Eq (bindJoinColumn c) (bindJoinColumn (c.rename ρ)) := by
  refine .bind (resolveProperty_follows hρ c .join) fun _ _ _ => ?_
  refine .modify (fun _ hb => hb) fun b => ?_
  simp only [Bindings.rename, List.map_append, List.map_singleton]
  rfl

theorem bindJoin_follows (join : JoinSpec) :
    Follows ρ Eq (bindJoin join) (bindJoin (join.rename ρ)) :=
  .bind (bindJoinColumn_follows hρ join.left) fun _ _ _ => bindJoinColumn_follows hρ join.right

theorem bindSortSpec_follows (spec : SortSpec) :
    Follows ρ Eq (bindSortSpec spec) (bindSortSpec (spec.rename ρ)) := by
  obtain ⟨sel, ascending⟩ := spec
  cases sel with
  | function f => exact resolveFunction_follows hρ f
  | column c =>
    refine .bind (resolveColumn_follows hρ c .orderBy) fun r _ hr => ?_
    subst hr
    cases r with
    | property aliasName typeId p => exact .ite (.throw (.notOrderable c)) (.pure rfl)
    | score => exact .pure rfl
    | wildcard aliases => exact .throw (.notOrderable c)

end

/-! ## Operands -/

theorem literalOf_follows (node : Predicate) :
    Follows ρ Eq (literalOf node) (literalOf (node.rename ρ)) := by
  unfold literalOf
  rw [node.literalValue?_rename]
  cases node.literalValue? with
  | ok v => exact .pure rfl
  | error e => exact .throw (.same _)

theorem checkFolderId_follows (scope : FolderScope) (folder : Predicate) :
    Follows ρ Eq (checkFolderId scope folder) (checkFolderId scope (folder.rename ρ)) := by
  refine .bind (literalOf_follows folder) fun v _ hv => ?_
  subst hv
  exact .ite (.throw (.same _)) (.pure rfl)

theorem checkFolderQualifier_follows (scope : FolderScope) (qualifier : Predicate) :
    Follows ρ Eq (checkFolderQualifier scope qualifier)
      (checkFolderQualifier scope (qualifier.rename ρ)) := by
  unfold checkFolderQualifier
  rw [qualifier.column?_rename]
  cases qualifier.column? with
  | none => exact .throw (.same _)
  | some c =>
    have hsome : (c.rename ρ).qualifier.isSome = c.qualifier.isSome := Option.isSome_map
    have hwildcard : (c.rename ρ).isWildcard = c.isWildcard := rfl
    dsimp only [Option.map_some]
    rw [hsome, hwildcard]
    exact .ite (.throw (.same _)) (.pure rfl)

theorem implicitAlias_follows (function : String) :
    Follows ρ (fun name name' => name' = ρ.name name) (implicitAlias function)
      (implicitAlias function) := by
  refine .get_bind fun b hb => ?_
  have hsize : (b.rename ρ).types.size = b.types.size := OrderedMap.size_mapEntries _ _ _
  rw [hsize]
  refine .ite (.throw_bind (.same _)) (.pure ?_)
  exact Bindings.defaultAlias_rename hb

theorem searchedAlias_follows (qualifier : Option String) :
    Follows ρ (fun name name' => name' = ρ.name name) (searchedAlias qualifier)
      (searchedAlias (qualifier.map ρ.name)) := by
  cases qualifier with
  | none => exact implicitAlias_follows "CONTAINS"
  | some q => exact .pure rfl

section
variable (hρ : ρ.Injective)
include hρ

theorem checkOperand_follows (op : Comparison) (operand : Predicate) :
    Follows ρ Eq (checkOperand op operand) (checkOperand op (operand.rename ρ)) := by
  cases operand with
  | column c =>
    refine .bind (resolveColumn_follows hρ c .filter) fun r _ hr => ?_
    subst hr
    cases r with
    | property aliasName typeId p =>
      refine .ite (.throw_bind (.quantifierRequired c)) ?_
      exact .ite (.throw (.invalidComparison _ c)) (.pure rfl)
    | score => exact .pure rfl
    | wildcard aliases => exact .throw (.invalidColumnOperand c _)
  | literal raw =>
    refine .ite ?_ (.pure rfl)
    refine .bind (literalOf_follows (.literal raw)) fun v _ hv => ?_
    subst hv
    exact .ite (.throw (.same _)) (.pure rfl)
  | score f => exact resolveFunction_follows hρ f
  | _ => exact .throw (.same _)

theorem checkColumn_follows (operator : String) (operand : Predicate) :
    Follows ρ (fun found found' => found' = (found.1.rename ρ, found.2))
      (checkColumn operator operand) (checkColumn operator (operand.rename ρ)) := by
  unfold checkColumn
  rw [operand.column?_rename]
  cases operand.column? with
  | none => exact .throw (.same _)
  | some c =>
    refine .bind (resolveProperty_follows hρ c .filter) fun p _ hp => ?_
    subst hp
    exact .pure rfl

theorem checkSingleValued_follows (operator : String) (operand : Predicate) :
    Follows ρ Eq (checkSingleValued operator operand)
      (checkSingleValued operator (operand.rename ρ)) := by
  refine .bind (checkColumn_follows hρ operator operand) fun found _ hfound => ?_
  subst hfound
  exact .ite (.throw_bind (.quantifierRequired found.1)) (.pure rfl)

theorem checkMultiValued_follows (operator : String) (operand : Predicate) :
    Follows ρ Eq (checkMultiValued operator operand)
      (checkMultiValued operator (operand.rename ρ)) := by
  refine .bind (checkColumn_follows hρ operator operand) fun found _ hfound => ?_
  subst hfound
  exact .ite (.throw (.invalidQuantifier found.1)) (.pure rfl)

theorem checkLike_follows (column pattern : Predicate) :
    Follows ρ Eq (checkLike column pattern) (checkLike (column.rename ρ) (pattern.rename ρ)) := by
  refine .bind (checkSingleValued_follows hρ "LIKE" column) fun p _ hp => ?_
  subst hp
  refine .ite (.throw_bind (.same _)) ?_
  refine .bind (literalOf_follows pattern) fun v _ hv => ?_
  subst hv
  exact .ite (.throw (.same _)) (.pure rfl)

theorem checkRelation_follows (r : Relation) (left right : Predicate) :
    Follows ρ Eq (checkRelation r left right)
      (checkRelation r (left.rename ρ) (right.rename ρ)) := by
  cases r with
  | compare op =>
    exact .bind (checkOperand_follows hρ op left) fun _ _ _ => checkOperand_follows hρ op right
  | isIn negated => exact .bind (checkSingleValued_follows hρ _ left) fun _ _ _ => .pure rfl
  | anyIn negated => exact checkMultiValued_follows hρ _ left
  | equalsAny => exact checkMultiValued_follows hρ _ right
  | like negated => exact checkLike_follows hρ left right

theorem bindContains_follows (qualifier : Option String) (search : FullText.Tree) :
    Follows ρ Eq (bindContains qualifier search)
      (bindContains (qualifier.map ρ.name) search) := by
  refine .get_bind fun b _ => ?_
  have hsome : (b.rename ρ).fullText.isSome = b.fullText.isSome := Option.isSome_map
  rw [hsome]
  refine .ite (.throw_bind (.same _)) ?_
  refine .bind (searchedAlias_follows qualifier) fun aliasName _ hname => ?_
  subst hname
  refine .get_bind fun b hb => ?_
  rw [b.get?_types_rename hρ]
  cases b.types.get? aliasName with
  | none => exact .throw (.unknownType aliasName)
  | some t =>
    refine .ite (.throw_bind (.same _)) ?_
    cases search.check with
    | error e => exact .throw (.same _)
    | ok _ => exact .set hb rfl

/-! ## WHERE -/

theorem bindVisit_follows (visit : Predicate.Visit) :
    Follows ρ Eq (bindVisit visit) (bindVisit (visit.rename ρ)) := by
  cases visit with
  | on node =>
    cases node with
    | relation r left right => exact checkRelation_follows hρ r left right
    | isNull negated operand =>
      exact .bind (checkColumn_follows hρ _ operand) fun _ _ _ => .pure rfl
    | contains qualifier search => exact bindContains_follows hρ qualifier search
    | inFolder scope folder =>
      exact .bind (implicitAlias_follows scope.kindName) fun _ _ _ =>
        checkFolderId_follows scope folder
    | inFolderOf scope qualifier folder =>
      exact .bind (checkFolderQualifier_follows scope qualifier) fun _ _ _ =>
        checkFolderId_follows scope folder
    | score f => exact resolveFunction_follows hρ f
    | column c => exact .bind (resolveColumn_follows hρ c .filter) fun _ _ _ => .pure rfl
    | _ => exact .pure rfl
  | _ => exact .pure rfl

theorem bindFilter_follows (filter : Option Predicate) :
    Follows ρ Eq (bindFilter filter) (bindFilter (filter.map (Predicate.rename ρ))) := by
  cases filter with
  | none => exact .pure rfl
  | some p =>
    refine (Follows.lifting ρ).forM (fun step _ hstep => ?_) (forall₂_eq_map_iff.2 p.trace_rename)
    subst hstep
    cases step with
    | ok visit => exact bindVisit_follows hρ visit
    | error e => exact .throw (.same _)

/-! ## Statements -/

theorem bindClauses_alike (catalog : Catalog) {s s' : Statement} (h : s.RenamedTo ρ s') :
    Alike (BindError.RenamedTo ρ) (Matches ρ Eq) ((bindClauses catalog s).run .empty)
      ((bindClauses catalog s').run .empty) := by
  have hmap {α : Type} {f : α → Binder PUnit} {g : α → α} (xs : List α)
      (hf : ∀ x, Follows ρ Eq (f x) (f (g x))) : Follows ρ Eq (xs.forM f) ((xs.map g).forM f) := by
    exact (Follows.lifting ρ).forM (fun x _ hx => hx ▸ hf x) (forall₂_eq_map_iff.2 rfl)
  have hselect := hmap s.select (bindSelectItem_follows hρ)
  have hjoins := hmap s.joins (bindJoin_follows hρ)
  have horder := hmap s.orderBy (bindSortSpec_follows hρ)
  rw [← h.select] at hselect
  rw [← h.joins] at hjoins
  rw [← h.orderBy] at horder
  have hfilter := bindFilter_follows hρ s.filter
  rw [← h.filter] at hfilter
  exact Follows.after (bindSources_alike hρ catalog h.sources) fun _ _ _ =>
    hselect.bind fun _ _ _ => hjoins.bind fun _ _ _ => hfilter.bind fun _ _ _ => horder

end

end Binding

/-- Two statements of which one is a renaming of the other, with the meaning of their names. -/
structure BoundStatement.RenamedTo (ρ : Renaming) (bound bound' : BoundStatement) : Prop where
  statement : bound.statement.RenamedTo ρ bound'.statement
  bindings : bound'.bindings = bound.bindings.rename ρ
  hasTypes : bound.bindings.HasTypes

/-- **Binding knows no names.** A renamed statement binds if the statement does, to the same with
other names, and fails with an error of the same cause otherwise. -/
theorem Statement.bind_renamedTo (hρ : ρ.Injective) {s s' : Statement} (h : s.RenamedTo ρ s')
    (catalog : Catalog) :
    Alike (BindError.RenamedTo ρ) (BoundStatement.RenamedTo ρ) (s.bind catalog)
      (s'.bind catalog) := by
  refine (Alike.lifting _).map (Binding.bindClauses_alike hρ catalog h) fun out out' hout => ?_
  exact ⟨h, hout.bindings, hout.hasTypes⟩

end ContentQuery
