import ContentQuery.Execution.Query
import ContentQuery.Proofs.Binding.Names

/-!
# The columns of a statement

The SELECT list says item by item which columns a result has (`Column.Contributes`): one for each
property that a wild card lists, and one for every other item. Where the binder has accepted the
statement, all items have their columns, and the columns of the statement are these in order
(`Column.exists_ofStatement`).
-/

set_option autoImplicit false

namespace ContentQuery

open Binding

/-- A list of computations that succeed, with what is known of each result. -/
theorem exists_forall₂_of_mapM {ε α β : Type} {f : α → Except ε β} {R : α → β → Prop}
    {xs : List α} (h : ∀ x ∈ xs, ∃ y, f x = .ok y ∧ R x y) :
    ∃ ys, xs.mapM f = .ok ys ∧ List.Forall₂ R xs ys := by
  induction xs with
  | nil => exact ⟨[], rfl, .nil⟩
  | cons x xs ih =>
    obtain ⟨y, hy, hR⟩ := h x List.mem_cons_self
    obtain ⟨ys, hys, hall⟩ := ih fun z hz => h z (List.mem_cons_of_mem _ hz)
    refine ⟨y :: ys, ?_, .cons hR hall⟩
    rw [List.mapM_cons, hy, ok_bind, hys]
    rfl

namespace Column

/-! ## What the items contribute -/

/-- The heading of a property that a wild card lists: its query name, behind the alias if more than
one type is queried. -/
def listedHeading (types : List (String × TypeDefinition)) (aliasName : String)
    (p : PropertyDefinition) : String :=
  if 1 < types.length then aliasName ++ "." ++ p.queryName else p.queryName

/-- The columns of all properties of a type, in the order of its definition. -/
def listed (types : List (String × TypeDefinition)) (source : String × TypeDefinition) :
    List Column :=
  source.2.properties.map fun p => ⟨listedHeading types source.1 p, .property source.1 p.id⟩

/-- The columns that an item of a SELECT list contributes, given the types of the FROM list and
what the references stand for. A wild card lists the types in the order of the FROM list: all of
them, or the one that it names. -/
inductive Contributes (types : List (String × TypeDefinition))
    (table : SelectorId → Option Resolution) : SelectItem → List Column → Prop
  | wildcard {item : SelectItem} {c : ColumnRef} :
      item.selector = .column c → c.isWildcard = true →
      (∀ q ∈ c.qualifier, q ∈ types.map (·.1)) →
      Contributes types table item
        ((types.filter fun source => c.qualifier.all (source.1 == ·)).flatMap (listed types))
  | property {item : SelectItem} {aliasName typeId : String} {p : PropertyDefinition} :
      table item.selector.id = some (.property aliasName typeId p) →
      aliasName ∈ types.map (·.1) →
      Contributes types table item
        [⟨item.aliasName.getD item.selector.toText, .property aliasName p.id⟩]
  | score {item : SelectItem} :
      table item.selector.id = some .score →
      Contributes types table item [⟨item.aliasName.getD item.selector.toText, .score⟩]

variable {catalog : Catalog} {bound : BoundStatement}

/-- The columns of types of the FROM list, looked up by their aliases. -/
theorem mapM_ofType (h : Bound catalog bound.statement bound.bindings)
    {sources : List (String × TypeDefinition)}
    (hsources : ∀ source ∈ sources, source ∈ bound.statement.fromTypes catalog) :
    (sources.map (·.1)).mapM (ofType bound) =
      .ok (sources.map (listed (bound.statement.fromTypes catalog))) := by
  rw [List.mapM_map]
  refine mapM_eq_pure fun source hsource => ?_
  have hmem := hsources source hsource
  rw [← h.types] at hmem
  have hget : bound.bindings.types.get? source.1 = some source.2 :=
    OrderedMap.get?_of_mem_entries h.nodup hmem
  rw [Function.comp_apply, ofType, hget]
  rw [← h.types]
  rfl

/-- The types that a wild card lists are those under the aliases that it stands for. -/
theorem listed_aliases {types : List (String × TypeDefinition)} (hnodup : (types.map (·.1)).Nodup)
    {c : ColumnRef} {aliases : String → Option SelectorId} {table : SelectorId → Option Resolution}
    {names : List String}
    (h : StandsFor types aliases table .select (.column c) (.wildcard names)) :
    c.isWildcard = true ∧ (∀ q ∈ c.qualifier, q ∈ types.map (·.1)) ∧
      names = (types.filter fun source => c.qualifier.all (source.1 == ·)).map (·.1) := by
  cases h with
  | all hw hq =>
    refine ⟨hw, by simp [hq], ?_⟩
    rw [hq]
    exact congrArg _ (List.filter_eq_self.2 fun _ _ => rfl).symm
  | @allOf _ _ q t hw hq hk ht =>
    have hmem : q ∈ types.map (·.1) := List.mem_map_of_mem ht
    refine ⟨hw, by simpa [hq] using hmem, ?_⟩
    have hfilter : (types.map (·.1)).filter (· == q) = [q] := by
      rw [List.filter_beq, List.count_eq_one_of_mem hnodup hmem]
      rfl
    rw [hq, ← hfilter, List.filter_map]
    rfl
  | selected hw hq hk => exact absurd rfl hk

/-- Every item has its columns. -/
theorem ofItem_contributes (h : Bound catalog bound.statement bound.bindings) {item : SelectItem}
    (hitem : item ∈ bound.statement.select) : ∃ columns, ofItem bound item = .ok columns ∧
      Contributes (bound.statement.fromTypes catalog) bound.resolution? item columns := by
  obtain ⟨r, hr⟩ := h.select item hitem
  have hselect := Statement.mem_references_select hitem
  have hfor := h.standsFor _ hselect r hr
  have hnodup : ((bound.statement.fromTypes catalog).map (·.1)).Nodup := by
    rw [← h.types]
    exact h.nodup
  have hr : bound.resolution? item.selector.id = some r := hr
  unfold ofItem
  rw [hr]
  cases r with
  | score => exact ⟨_, rfl, .score hr⟩
  | property aliasName typeId p =>
    have hmem : aliasName ∈ bound.bindings.types.keys := h.mem_keys_of_property hselect hr
    rw [OrderedMap.keys, h.types] at hmem
    exact ⟨_, rfl, .property hr hmem⟩
  | wildcard names =>
    cases hsel : item.selector with
    | function f =>
      rw [hsel] at hfor
      cases hfor
    | column c =>
      rw [hsel] at hfor
      obtain ⟨hw, hq, hnames⟩ := listed_aliases hnodup hfor
      refine ⟨_, ?_, .wildcard hsel hw hq⟩
      dsimp only
      rw [hnames, mapM_ofType h fun source hsource => List.mem_of_mem_filter hsource, List.flatMap]
      rfl

/-- The columns of a statement are those of its items, one item after the other. -/
theorem exists_ofStatement (h : Bound catalog bound.statement bound.bindings) :
    ∃ parts, ofStatement bound = .ok parts.flatten ∧
      List.Forall₂ (Contributes (bound.statement.fromTypes catalog) bound.resolution?)
        bound.statement.select parts := by
  obtain ⟨parts, hparts, hall⟩ :=
    exists_forall₂_of_mapM fun item hitem => ofItem_contributes h hitem
  refine ⟨parts, ?_, hall⟩
  rw [ofStatement, hparts]
  rfl

theorem ofStatement_ok (h : Bound catalog bound.statement bound.bindings) :
    ∃ columns, ofStatement bound = .ok columns := by
  obtain ⟨parts, hparts, -⟩ := exists_ofStatement h
  exact ⟨parts.flatten, hparts⟩

end Column

end ContentQuery
