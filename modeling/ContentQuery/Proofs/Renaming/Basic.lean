import ContentQuery.OrderedMap
import ContentQuery.Proofs.Statement.Shape
import Mathlib.Data.List.Forall2
import Mathlib.SetTheory.Cardinal.Arithmetic

/-!
# Renaming a statement

A `Renaming` gives the references of a statement new ids and its aliases new names. `rename` carries
it through a statement: to every reference, to the aliases of the FROM list and to the qualifiers of
columns and full-text searches, but neither to SELECT aliases nor to types and properties.
`Statement.RenamedTo` says the same of two statements, whose FROM lists need only agree in the names
under which the types go. Literals do not change, and the trace of a renamed tree is the trace of
the tree with every node renamed (`Predicate.trace_rename`).
-/

set_option autoImplicit false

namespace ContentQuery

/-- New ids for references and new names for aliases. -/
structure Renaming where
  id : SelectorId → SelectorId
  name : String → String

/-- No two ids and no two names become the same. -/
structure Renaming.Injective (ρ : Renaming) : Prop where
  id : Function.Injective ρ.id
  name : Function.Injective ρ.name

variable {ρ : Renaming}

/-! ## Maps -/

namespace OrderedMap

variable {κ κ' α β : Type}

/-- The map with other keys and other values. -/
def mapEntries (f : κ → κ') (g : α → β) (m : OrderedMap κ α) : OrderedMap κ' β :=
  ⟨m.entries.map fun e => (f e.1, g e.2)⟩

@[simp] theorem keys_mapEntries (f : κ → κ') (g : α → β) (m : OrderedMap κ α) :
    (m.mapEntries f g).keys = m.keys.map f := by
  simp [mapEntries, keys]

@[simp] theorem values_mapEntries (f : κ → κ') (g : α → β) (m : OrderedMap κ α) :
    (m.mapEntries f g).values = m.values.map g := by
  simp [mapEntries, values]

@[simp] theorem size_mapEntries (f : κ → κ') (g : α → β) (m : OrderedMap κ α) :
    (m.mapEntries f g).size = m.size :=
  List.length_map _

variable [DecidableEq κ] [DecidableEq κ'] {f : κ → κ'} (hf : Function.Injective f) (g : α → β)
include hf

theorem get?_mapEntries (m : OrderedMap κ α) (key : κ) :
    (m.mapEntries f g).get? (f key) = (m.get? key).map g := by
  have hkey : (fun e : κ' × β => decide (e.1 = f key)) ∘ (fun e : κ × α => (f e.1, g e.2)) =
      fun e => decide (e.1 = key) := funext fun e => by simp [hf.eq_iff]
  rw [get?, mapEntries, List.find?_map, hkey, get?, Option.map_map, Option.map_map]
  rfl

theorem contains_mapEntries (m : OrderedMap κ α) (key : κ) :
    (m.mapEntries f g).contains (f key) = m.contains key := by
  rw [contains_eq_isSome, contains_eq_isSome, get?_mapEntries hf, Option.isSome_map]

theorem insert_mapEntries (m : OrderedMap κ α) (key : κ) (value : α) :
    (m.mapEntries f g).insert (f key) (g value) = (m.insert key value).mapEntries f g := by
  simp only [mapEntries, insert, mk.injEq]
  induction m.entries with
  | nil => rfl
  | cons e rest ih => by_cases h : e.1 = key <;> simp [insertEntry, h, hf.eq_iff, ih]

end OrderedMap

/-! ## References -/

def ColumnRef.rename (ρ : Renaming) (c : ColumnRef) : ColumnRef :=
  { c with id := ρ.id c.id, qualifier := c.qualifier.map ρ.name }

def FunctionRef.rename (ρ : Renaming) (f : FunctionRef) : FunctionRef :=
  { f with id := ρ.id f.id }

def Selector.rename (ρ : Renaming) : Selector → Selector
  | column c => column (c.rename ρ)
  | function f => function (f.rename ρ)

def SelectItem.rename (ρ : Renaming) (item : SelectItem) : SelectItem :=
  { item with selector := item.selector.rename ρ }

def SortSpec.rename (ρ : Renaming) (spec : SortSpec) : SortSpec :=
  { spec with selector := spec.selector.rename ρ }

def JoinSpec.rename (ρ : Renaming) (join : JoinSpec) : JoinSpec :=
  { join with left := join.left.rename ρ, right := join.right.rename ρ }

def Source.rename (ρ : Renaming) (source : Source) : Source :=
  { source with
    aliasName := source.aliasName.map ρ.name
    join := source.join.map (JoinSpec.rename ρ) }

theorem Selector.id_rename (sel : Selector) : (sel.rename ρ).id = ρ.id sel.id := by
  cases sel <;> rfl

/-! ## Trees -/

namespace Predicate

mutual

def rename (ρ : Renaming) : Predicate → Predicate
  | relation r left right => relation r (left.rename ρ) (right.rename ρ)
  | and left right => and (left.rename ρ) (right.rename ρ)
  | or left right => or (left.rename ρ) (right.rename ρ)
  | not operand => not (operand.rename ρ)
  | isNull negated operand => isNull negated (operand.rename ρ)
  | contains qualifier search => contains (qualifier.map ρ.name) search
  | inFolder scope folder => inFolder scope (folder.rename ρ)
  | inFolderOf scope qualifier folder => inFolderOf scope (qualifier.rename ρ) (folder.rename ρ)
  | score f => score (f.rename ρ)
  | column c => column (c.rename ρ)
  | literal raw => literal raw
  | literalList items => literalList (renameAll ρ items)

def renameAll (ρ : Renaming) : List Predicate → List Predicate
  | [] => []
  | p :: ps => p.rename ρ :: renameAll ρ ps

end

theorem renameAll_eq_map (ρ : Renaming) (ps : List Predicate) :
    renameAll ρ ps = ps.map (rename ρ) := by
  induction ps with
  | nil => rfl
  | cons p ps ih => rw [renameAll, ih, List.map_cons]

theorem column?_rename (p : Predicate) :
    (p.rename ρ).column? = p.column?.map (ColumnRef.rename ρ) := by
  cases p <;> rfl

theorem literalValue?_rename (p : Predicate) : (p.rename ρ).literalValue? = p.literalValue? := by
  cases p <;> rfl

theorem literalValues?_rename (p : Predicate) :
    (p.rename ρ).literalValues? = p.literalValues? := by
  cases p with
  | literalList items =>
    have hvalue : literalValue? ∘ rename ρ = literalValue? := funext literalValue?_rename
    rw [rename, renameAll_eq_map, literalValues?, literalValues?, List.mapM_map, hvalue]
  | _ => rfl

mutual

theorem nodes_rename : ∀ p : Predicate, (p.rename ρ).nodes = p.nodes.map (rename ρ)
  | relation r left right | and left right | or left right | inFolderOf scope left right => by
    simp only [rename, nodes, nodes_rename left, nodes_rename right, List.map_cons, List.map_append]
  | not operand | isNull negated operand | inFolder scope operand => by
    simp only [rename, nodes, nodes_rename operand, List.map_cons]
  | contains qualifier search | score f | column c | literal raw => rfl
  | literalList items => by
    simp only [rename, nodes, nodesOfAll_rename items, List.map_cons]

theorem nodesOfAll_rename : ∀ ps : List Predicate,
    nodesOfAll (renameAll ρ ps) = (nodesOfAll ps).map (rename ρ)
  | [] => rfl
  | p :: ps => by
    rw [renameAll, nodesOfAll, nodes_rename p, nodesOfAll_rename ps, nodesOfAll, List.map_append]

end

def Visit.rename (ρ : Renaming) : Visit → Visit
  | before node => before (node.rename ρ)
  | on node => on (node.rename ρ)
  | after node => after (node.rename ρ)
  | value node v => value (node.rename ρ) v
  | values node vs => values (node.rename ρ) vs

/-- A renamed tree is visited as the tree is. -/
theorem trace_rename (p : Predicate) :
    (p.rename ρ).trace = p.trace.map (Except.map (Visit.rename ρ)) := by
  have hmap {α : Type} {f : α → Visit} (x : Except LiteralError α) :
      (x.map f).map (Visit.rename ρ) = x.map (Visit.rename ρ ∘ f) := by
    cases x <;> rfl
  fun_induction trace p with
  | case11 raw => rw [List.map_singleton, hmap]; rfl
  | case12 items =>
    have hvalues := literalValues?_rename (ρ := ρ) (literalList items)
    rw [rename] at hvalues ⊢
    rw [trace, hvalues, List.map_singleton, hmap]
    rfl
  | _ => simp_all [rename, trace, Except.map, Visit.rename]

end Predicate

/-! ## Statements -/

/-- The statement under other names, with a text of its own. -/
def Statement.rename (ρ : Renaming) (text : String) (s : Statement) : Statement where
  text
  select := s.select.map (SelectItem.rename ρ)
  sources := s.sources.map (Source.rename ρ)
  filter := s.filter.map (Predicate.rename ρ)
  orderBy := s.orderBy.map (SortSpec.rename ρ)

/-- The same type goes under the new name, however it comes by it, and is joined on the renamed
columns. -/
structure Source.RenamedTo (ρ : Renaming) (source source' : Source) : Prop where
  typeId : source'.typeId = source.typeId
  bindingName : source'.bindingName = ρ.name source.bindingName
  join : source'.join = source.join.map (JoinSpec.rename ρ)

/-- Two statements that are the same but for the ids of references and the names of types. -/
structure Statement.RenamedTo (ρ : Renaming) (s s' : Statement) : Prop where
  select : s'.select = s.select.map (SelectItem.rename ρ)
  sources : List.Forall₂ (Source.RenamedTo ρ) s.sources s'.sources
  filter : s'.filter = s.filter.map (Predicate.rename ρ)
  orderBy : s'.orderBy = s.orderBy.map (SortSpec.rename ρ)

theorem filterMap_join_of_renamedTo {sources sources' : List Source}
    (h : List.Forall₂ (Source.RenamedTo ρ) sources sources') :
    sources'.filterMap Source.join = (sources.filterMap Source.join).map (JoinSpec.rename ρ) := by
  induction h with
  | nil => rfl
  | cons hsource _ ih =>
    rw [List.filterMap_cons, List.filterMap_cons, hsource.join, ih]
    rename_i source _ _ _ _
    cases source.join <;> rfl

theorem Statement.RenamedTo.joins {s s' : Statement} (h : s.RenamedTo ρ s') :
    s'.joins = s.joins.map (JoinSpec.rename ρ) :=
  filterMap_join_of_renamedTo h.sources

/-- A type has a new name if its alias has one, or if the names do not change. -/
theorem Source.renamedTo_rename {source : Source}
    (h : source.aliasName = none → ρ.name source.typeId = source.typeId) :
    source.RenamedTo ρ (source.rename ρ) where
  typeId := rfl
  bindingName := by
    unfold bindingName rename
    cases haliasName : source.aliasName with
    | none => exact (h haliasName).symm
    | some name => rfl
  join := rfl

theorem Statement.renamedTo_rename {s : Statement} (text : String)
    (h : ∀ source ∈ s.sources, source.aliasName = none → ρ.name source.typeId = source.typeId) :
    s.RenamedTo ρ (s.rename ρ text) where
  select := rfl
  sources := by
    refine List.forall₂_map_right_iff.2 ((List.forall₂_same).2 fun source hsource => ?_)
    exact Source.renamedTo_rename (h source hsource)
  filter := rfl
  orderBy := rfl

/-! ## The renaming that changes nothing -/

/-- Old ids and old names. -/
def Renaming.identity : Renaming where
  id i := i
  name n := n

theorem Renaming.injective_identity : identity.Injective :=
  ⟨fun _ _ h => h, fun _ _ h => h⟩

@[simp] theorem ColumnRef.rename_identity (c : ColumnRef) : c.rename .identity = c := by
  obtain ⟨i, q, property⟩ := c
  cases q <;> rfl

@[simp] theorem FunctionRef.rename_identity (f : FunctionRef) : f.rename .identity = f := rfl

@[simp] theorem Selector.rename_identity (sel : Selector) : sel.rename .identity = sel := by
  cases sel <;> simp [rename]

namespace Predicate

mutual

@[simp] theorem rename_identity : ∀ p : Predicate, p.rename .identity = p
  | relation r left right | and left right | or left right | inFolderOf scope left right => by
    rw [rename, rename_identity left, rename_identity right]
  | not operand | isNull negated operand | inFolder scope operand => by
    rw [rename, rename_identity operand]
  | contains qualifier search => by cases qualifier <;> rfl
  | score f => rfl
  | column c => by rw [rename, c.rename_identity]
  | literal raw => rfl
  | literalList items => by rw [rename, renameAll_identity items]

theorem renameAll_identity : ∀ ps : List Predicate, renameAll .identity ps = ps
  | [] => rfl
  | p :: ps => by rw [renameAll, rename_identity p, renameAll_identity ps]

end

end Predicate

/-- Types may go under their names for other reasons. -/
theorem Statement.renamedTo_identity (s : Statement) (text : String) {sources : List Source}
    (h : List.Forall₂ (Source.RenamedTo .identity) s.sources sources) :
    s.RenamedTo .identity { s with text, sources } where
  select := by
    have hitem : SelectItem.rename .identity = id := funext fun item => by simp [SelectItem.rename]
    rw [hitem, List.map_id]
  sources := h
  filter := by
    have hnode : Predicate.rename .identity = id := funext Predicate.rename_identity
    rw [hnode, Option.map_id, id]
  orderBy := by
    have hspec : SortSpec.rename .identity = id := funext fun spec => by simp [SortSpec.rename]
    rw [hspec, List.map_id]

/-! ## Names in use -/

/-- The name that a reference uses. -/
def Selector.qualifier? : Selector → Option String
  | column c => c.qualifier
  | function _ => none

/-- The names that the FROM list of a statement gives and that its references and full-text searches
use. -/
def Statement.names (s : Statement) : List String :=
  s.sources.filterMap Source.aliasName ++ s.selectors.filterMap Selector.qualifier?
    ++ s.searches.filterMap Prod.fst

variable {ρ' : Renaming} {s : Statement}

theorem Selector.rename_congr {sel : Selector} (hid : ρ.id sel.id = ρ'.id sel.id)
    (hname : ∀ q, sel.qualifier? = some q → ρ.name q = ρ'.name q) :
    sel.rename ρ = sel.rename ρ' := by
  cases sel with
  | column c =>
    have hqualifier : c.qualifier.map ρ.name = c.qualifier.map ρ'.name := by
      cases hq : c.qualifier with
      | none => rfl
      | some q => exact congrArg some (hname q hq)
    have hid : ρ.id c.id = ρ'.id c.id := hid
    simp only [rename, ColumnRef.rename, hid, hqualifier]
  | function f =>
    have hid : ρ.id f.id = ρ'.id f.id := hid
    simp only [rename, FunctionRef.rename, hid]

namespace Predicate

/-- Two renamings do the same to the names that stand in a node itself. -/
def SameNames (ρ ρ' : Renaming) (node : Predicate) : Prop :=
  (∀ sel, node.selector? = some sel → sel.rename ρ = sel.rename ρ') ∧
    ∀ search, node.search? = some search → search.1.map ρ.name = search.1.map ρ'.name

mutual

theorem rename_congr : ∀ p : Predicate, (∀ node ∈ p.nodes, node.SameNames ρ ρ') →
    p.rename ρ = p.rename ρ'
  | relation r left right, h | and left right, h | or left right, h
  | inFolderOf scope left right, h => by
    have hleft := rename_congr left fun node hn => h node (by simp [nodes, hn])
    have hright := rename_congr right fun node hn => h node (by simp [nodes, hn])
    simp only [rename, hleft, hright]
  | not operand, h | isNull negated operand, h | inFolder scope operand, h => by
    have hoperand := rename_congr operand fun node hn => h node (by simp [nodes, hn])
    simp only [rename, hoperand]
  | contains qualifier search, h => by
    have hqualifier := (h _ (List.mem_singleton_self _)).2 _ rfl
    simp only [rename, hqualifier]
  | score f, h => by
    have hf := (h _ (List.mem_singleton_self _)).1 _ rfl
    rw [rename, rename, Selector.function.inj hf]
  | column c, h => by
    have hc := (h _ (List.mem_singleton_self _)).1 _ rfl
    rw [rename, rename, Selector.column.inj hc]
  | literal raw, _ => rfl
  | literalList items, h => by
    have hitems := renameAll_congr items fun node hn => h node (by simp [nodes, hn])
    rw [rename, rename, hitems]

theorem renameAll_congr : ∀ ps : List Predicate, (∀ node ∈ nodesOfAll ps, node.SameNames ρ ρ') →
    renameAll ρ ps = renameAll ρ' ps
  | [], _ => rfl
  | p :: ps, h => by
    have hp := rename_congr p fun node hn => h node (by simp [nodesOfAll, hn])
    have hps := renameAll_congr ps fun node hn => h node (by simp [nodesOfAll, hn])
    rw [renameAll, renameAll, hp, hps]

end

end Predicate

section
variable (hsel : ∀ sel ∈ s.selectors, sel.rename ρ = sel.rename ρ')
include hsel

theorem Source.rename_congr {source : Source} (hsource : source ∈ s.sources)
    (hname : ∀ n ∈ s.names, ρ.name n = ρ'.name n) : source.rename ρ = source.rename ρ' := by
  have halias : source.aliasName.map ρ.name = source.aliasName.map ρ'.name := by
    refine Option.map_congr fun n hn => hname n ?_
    have hmem : n ∈ s.sources.filterMap Source.aliasName :=
      List.mem_filterMap.2 ⟨source, hsource, hn⟩
    exact List.mem_append_left _ (List.mem_append_left _ hmem)
  have hjoin : source.join.map (JoinSpec.rename ρ) = source.join.map (JoinSpec.rename ρ') := by
    refine Option.map_congr fun join hj => ?_
    have hmem : join ∈ s.joins := List.mem_filterMap.2 ⟨source, hsource, hj⟩
    have hcolumn : ∀ sel ∈ join.selectors, sel.rename ρ = sel.rename ρ' := by
      refine fun sel h => hsel sel ?_
      simp only [Statement.selectors, List.mem_append, List.mem_flatMap]
      exact .inl (.inl (.inr ⟨join, hmem, h⟩))
    have hleft := Selector.column.inj (hcolumn (.column join.left) (by simp [JoinSpec.selectors]))
    have hright := Selector.column.inj (hcolumn (.column join.right) (by simp [JoinSpec.selectors]))
    rw [JoinSpec.rename, JoinSpec.rename, hleft, hright]
  rw [rename, rename, halias, hjoin]

theorem Predicate.rename_congr_of_filter {p : Predicate} (hp : s.filter = some p)
    (hname : ∀ n ∈ s.names, ρ.name n = ρ'.name n) : p.rename ρ = p.rename ρ' := by
  refine rename_congr p fun node hn => ⟨fun sel h => hsel sel ?_, fun search h => ?_⟩
  · have hmem : sel ∈ p.selectors := List.mem_filterMap.2 ⟨node, hn, h⟩
    simp only [Statement.selectors, hp, filterSelectors, List.mem_append]
    exact .inl (.inr hmem)
  · refine Option.map_congr fun q hq => hname q ?_
    have hmem : search ∈ s.searches := by
      rw [Statement.searches, hp]
      exact List.mem_filterMap.2 ⟨node, hn, h⟩
    exact List.mem_append_right _ (List.mem_filterMap.2 ⟨search, hmem, hq⟩)

end

/-- Two renamings that agree on the ids and names of a statement lead to the same statement. -/
theorem Statement.rename_congr (text : String)
    (hid : ∀ sel ∈ s.selectors, ρ.id sel.id = ρ'.id sel.id)
    (hname : ∀ n ∈ s.names, ρ.name n = ρ'.name n) : s.rename ρ text = s.rename ρ' text := by
  have hsel : ∀ sel ∈ s.selectors, sel.rename ρ = sel.rename ρ' := by
    refine fun sel hsel => Selector.rename_congr (hid sel hsel) fun q hq => hname q ?_
    exact List.mem_append_left _ (List.mem_append_right _ (List.mem_filterMap.2 ⟨sel, hsel, hq⟩))
  have hselect : s.select.map (SelectItem.rename ρ) = s.select.map (SelectItem.rename ρ') := by
    refine List.map_congr_left fun item hitem => ?_
    have hmem : item.selector ∈ s.selectors := by
      simp only [Statement.selectors, List.mem_append]
      exact .inl (.inl (.inl (List.mem_map_of_mem hitem)))
    rw [SelectItem.rename, SelectItem.rename, hsel _ hmem]
  have hsources : s.sources.map (Source.rename ρ) = s.sources.map (Source.rename ρ') :=
    List.map_congr_left fun source hsource => Source.rename_congr hsel hsource hname
  have hfilter : s.filter.map (Predicate.rename ρ) = s.filter.map (Predicate.rename ρ') :=
    Option.map_congr fun p hp => Predicate.rename_congr_of_filter hsel hp hname
  have horder : s.orderBy.map (SortSpec.rename ρ) = s.orderBy.map (SortSpec.rename ρ') := by
    refine List.map_congr_left fun spec hspec => ?_
    have hmem : spec.selector ∈ s.selectors :=
      List.mem_append_right _ (List.mem_map_of_mem hspec)
    rw [SortSpec.rename, SortSpec.rename, hsel _ hmem]
  rw [rename, rename, hselect, hsources, hfilter, horder]

/-- What keeps finitely many things apart does so for all, once it is changed elsewhere. -/
theorem exists_injective_of_injOn {α : Type} [Infinite α] {f : α → α} {S : Set α} (hS : S.Finite)
    (hf : S.InjOn f) : ∃ g : α → α, Function.Injective g ∧ ∀ x ∈ S, g x = f x := by
  have hlt : Cardinal.mk S < Cardinal.mk α :=
    (Cardinal.lt_aleph0_iff_set_finite.2 hS).trans_le (Cardinal.aleph0_le_mk α)
  obtain ⟨g, hg⟩ := Cardinal.extend_function_of_lt ⟨S.domRestrict f, hf.injective⟩ hlt ⟨.refl α⟩
  exact ⟨g, g.injective, fun x hx => hg ⟨x, hx⟩⟩

end ContentQuery
