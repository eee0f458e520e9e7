import ContentQuery.Binding.Bind
import ContentQuery.Proofs.Statement.Shape

/-!
# What the references of a statement stand for

`Statement.references` lists the references of a statement with their clauses. `StandsFor` is the
rule by which a reference stands for a property, for all properties or for the score: it looks at
the types of the FROM list under their aliases (`Statement.fromTypes`), the aliases of the SELECT
list (`Statement.aliasedId?`) and, for a name that is such an alias, at what the item of that alias
stands for.
-/

set_option autoImplicit false

namespace ContentQuery

open Binding (Clause)

/-! ## References -/

/-- All references of a statement with their clauses, in the order of the text. -/
def Statement.references (s : Statement) : List (Clause × Selector) :=
  s.select.map (fun i => (.select, i.selector))
    ++ (s.joins.flatMap JoinSpec.selectors).map (fun c => (.join, c))
    ++ (filterSelectors s.filter).map (fun c => (.filter, c))
    ++ s.orderBy.map (fun o => (.orderBy, o.selector))

theorem Statement.references_selectors (s : Statement) :
    s.references.map Prod.snd = s.selectors := by
  simp [references, selectors, Function.comp_def]

theorem Statement.mem_references_select {s : Statement} {item : SelectItem} (h : item ∈ s.select) :
    (.select, item.selector) ∈ s.references := by
  simp only [references, List.mem_append]
  exact .inl (.inl (.inl (List.mem_map_of_mem h)))

theorem Statement.mem_references_join {s : Statement} {join : JoinSpec} {sel : Selector}
    (h : join ∈ s.joins) (hsel : sel ∈ join.selectors) : (.join, sel) ∈ s.references := by
  simp only [references, List.mem_append]
  exact .inl (.inl (.inr (List.mem_map_of_mem (List.mem_flatMap.2 ⟨join, h, hsel⟩))))

theorem Statement.mem_references_filter {s : Statement} {p : Predicate} {sel : Selector}
    (h : p ∈ s.filter) (hsel : sel ∈ p.selectors) : (.filter, sel) ∈ s.references := by
  simp only [references, List.mem_append, Option.mem_def.1 h]
  exact .inl (.inr (List.mem_map_of_mem hsel))

theorem Statement.mem_references_orderBy {s : Statement} {spec : SortSpec} (h : spec ∈ s.orderBy) :
    (.orderBy, spec.selector) ∈ s.references := by
  simp only [references, List.mem_append]
  exact .inr (List.mem_map_of_mem h)

/-! ## The names that a statement brings in -/

/-- The types of the FROM list under their aliases. -/
def Statement.fromTypes (s : Statement) (catalog : Catalog) : List (String × TypeDefinition) :=
  s.sources.filterMap fun source =>
    (catalog.lookup? source.typeId).map fun t => (source.bindingName, t)

/-- The id of the first item of an alias in a SELECT list. -/
def aliasedIn (items : List SelectItem) (name : String) : Option SelectorId :=
  (items.find? fun item => item.aliasName == some name).map (·.selector.id)

def Statement.aliasedId? (s : Statement) : String → Option SelectorId := aliasedIn s.select

/-- The types that have a property of a query name. -/
def definers (types : List (String × TypeDefinition)) (queryName : String) :
    List (String × TypeDefinition) :=
  types.filter fun e => (e.2.property? queryName).isSome

/-! ## The rule -/

/-- What a reference in a clause stands for, by the kinds of reference:

- a function is the score;
- `*` in the SELECT list stands for all properties of all types, and `q.*` for those of the type
  under `q`;
- outside the SELECT list, a name without qualifier that is an alias of the SELECT list stands for
  what the item of that alias stands for;
- a name with a qualifier is the first property of that name of the type under the qualifier;
- any other name is the property of the only type that has one of that name.

Where a clause searches, properties that are named as such are queryable. -/
inductive StandsFor (types : List (String × TypeDefinition))
    (aliases : String → Option SelectorId) (table : SelectorId → Option Resolution) :
    Clause → Selector → Resolution → Prop
  | score {k : Clause} {f : FunctionRef} :
      Literal.isWord "SCORE" f.name.toList = true →
      StandsFor types aliases table k (.function f) .score
  | all {c : ColumnRef} :
      c.isWildcard = true → c.qualifier = none →
      StandsFor types aliases table .select (.column c) (.wildcard (types.map (·.1)))
  | allOf {k : Clause} {c : ColumnRef} {q : String} {t : TypeDefinition} :
      c.isWildcard = true → c.qualifier = some q → k = .select ∨ k = .filter → (q, t) ∈ types →
      StandsFor types aliases table k (.column c) (.wildcard [q])
  | selected {k : Clause} {c : ColumnRef} {id : SelectorId} {r : Resolution} :
      c.isWildcard = false → c.qualifier = none → k ≠ .select →
      aliases c.property = some id → table id = some r →
      StandsFor types aliases table k (.column c) r
  | qualified {k : Clause} {c : ColumnRef} {q : String} {t : TypeDefinition}
      {p : PropertyDefinition} :
      c.isWildcard = false → c.qualifier = some q → (q, t) ∈ types →
      t.property? c.property = some p → (k.searches = true → p.queryable = true) →
      StandsFor types aliases table k (.column c) (.property q t.id p)
  | unqualified {k : Clause} {c : ColumnRef} {aliasName : String} {t : TypeDefinition}
      {p : PropertyDefinition} :
      c.isWildcard = false → c.qualifier = none → k = .select ∨ aliases c.property = none →
      definers types c.property = [(aliasName, t)] → t.property? c.property = some p →
      (k.searches = true → p.queryable = true) →
      StandsFor types aliases table k (.column c) (.property aliasName t.id p)

namespace StandsFor

variable {types : List (String × TypeDefinition)} {aliases aliases' : String → Option SelectorId}
  {table table' : SelectorId → Option Resolution} {k : Clause} {sel : Selector} {r : Resolution}

/-- More entries of the table change nothing. -/
theorem mono (h : StandsFor types aliases table k sel r)
    (hle : ∀ id r, table id = some r → table' id = some r) :
    StandsFor types aliases table' k sel r := by
  cases h with
  | score hf => exact .score hf
  | all hw hq => exact .all hw hq
  | allOf hw hq hk ht => exact .allOf hw hq hk ht
  | selected hw hq hk ha ht => exact .selected hw hq hk ha (hle _ _ ht)
  | qualified hw hq ht hp hs => exact .qualified hw hq ht hp hs
  | unqualified hw hq hk hd hp hs => exact .unqualified hw hq hk hd hp hs

/-- In the SELECT list, its aliases play no part. -/
theorem of_select (h : StandsFor types aliases table .select sel r) :
    StandsFor types aliases' table .select sel r := by
  cases h with
  | score hf => exact .score hf
  | all hw hq => exact .all hw hq
  | allOf hw hq hk ht => exact .allOf hw hq hk ht
  | selected hw hq hk => exact absurd rfl hk
  | qualified hw hq ht hp hs => exact .qualified hw hq ht hp hs
  | unqualified hw hq hk hd hp hs => exact .unqualified hw hq (.inl rfl) hd hp hs

end StandsFor

end ContentQuery
