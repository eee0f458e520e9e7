import ContentQuery.Proofs.Binding.Bound
import ContentQuery.Proofs.Statement.Parsed

/-!
# Names in bound statements

`references_resolve`: every reference of a statement that binds has an entry in the table, and the
entry is what the reference stands for. `searched_queryable_iff` says when all properties that a
statement searches are queryable: the binder checks those that are named as such, and an alias of
the SELECT list passes by that check.
-/

set_option autoImplicit false

namespace ContentQuery

open Binding

variable {catalog : Catalog} {text : String} {s : Statement} {bound : BoundStatement}

/-! ## Every reference -/

/-- No reference is left without an entry. -/
theorem Bound.resolved {B : Bindings} (h : Bound catalog s B) :
    ∀ ref ∈ s.references, ∃ r, B.resolved.get? ref.2.id = some r := by
  intro ref href
  simp only [Statement.references, List.mem_append, List.mem_map] at href
  rcases href with ((⟨item, hitem, rfl⟩ | ⟨sel, hsel, rfl⟩) | ⟨sel, hsel, rfl⟩) | ⟨spec, hspec, rfl⟩
  · exact h.select item hitem
  · obtain ⟨join, hjoin, hsel⟩ := List.mem_flatMap.1 hsel
    obtain ⟨c, hc, rfl⟩ : ∃ c ∈ [join.left, join.right], sel = .column c := by
      simpa [JoinSpec.selectors] using hsel
    obtain ⟨_, _, _, hr⟩ := h.joins join hjoin c hc
    exact ⟨_, hr⟩
  · cases hf : s.filter with
    | none => rw [hf] at hsel; cases hsel
    | some p =>
      rw [hf] at hsel
      exact (h.filter p hf).resolved sel hsel
  · rcases h.orderBy spec hspec with hr | ⟨_, _, _, hr, -⟩
    · exact ⟨_, hr⟩
    · exact ⟨_, hr⟩

/-- A property stands under the alias of its type, or an alias of the SELECT list stands for it. -/
theorem StandsFor.mem_or_selected {types : List (String × TypeDefinition)}
    {aliases : String → Option SelectorId} {table : SelectorId → Option Resolution} {k : Clause}
    {sel : Selector} {aliasName typeId : String} {p : PropertyDefinition}
    (h : StandsFor types aliases table k sel (.property aliasName typeId p)) :
    aliasName ∈ types.map (·.1) ∨
      k ≠ .select ∧ ∃ name id, aliases name = some id ∧
        table id = some (.property aliasName typeId p) := by
  cases h with
  | selected _ _ hk halias htable => exact .inr ⟨hk, _, _, halias, htable⟩
  | qualified _ _ ht => exact .inl (List.mem_map_of_mem ht)
  | @unqualified _ _ _ t _ _ _ _ hdef =>
    have hmem : (aliasName, t) ∈ definers types _ := hdef ▸ List.mem_singleton_self _
    exact .inl (List.mem_map_of_mem (List.mem_of_mem_filter hmem))

/-- A property belongs to a type of the FROM list. -/
theorem Bound.mem_keys_of_property {B : Bindings} (h : Bound catalog s B) {k : Clause}
    {sel : Selector} (href : (k, sel) ∈ s.references) {aliasName typeId : String}
    {p : PropertyDefinition} (hr : B.resolved.get? sel.id = some (.property aliasName typeId p)) :
    aliasName ∈ B.types.keys := by
  rw [OrderedMap.keys, h.types]
  rcases (h.standsFor _ href _ hr).mem_or_selected with hmem | ⟨-, name, id, halias, htable⟩
  · exact hmem
  · obtain ⟨item, hitem, rfl⟩ := Option.map_eq_some_iff.1 halias
    have hselect := Statement.mem_references_select (List.mem_of_find?_eq_some hitem)
    rcases (h.standsFor _ hselect _ htable).mem_or_selected with hmem | ⟨hk, -⟩
    · exact hmem
    · exact absurd rfl hk

/-- **Names resolve as they should, and none is missed.** Every reference of a statement that binds
has an entry in the table, which is what the reference stands for, and no two types have the same
alias. Looking up a name without qualifier that no alias of the SELECT list captures fails as
ambiguous if two or more types define it, with their aliases in FROM order, and as unknown if none
does, and only then. -/
theorem references_resolve (hparse : Statement.parse text = .ok s) (catalog : Catalog) :
    (∀ bound, s.bind catalog = .ok bound →
      (s.fromTypes catalog).map (·.1) = s.sources.map Source.bindingName ∧
      (s.sources.map Source.bindingName).Nodup ∧
      ∀ ref ∈ s.references, ∃ r, bound.resolution? ref.2.id = some r ∧
        StandsFor (s.fromTypes catalog) s.aliasedId? bound.resolution? ref.1 ref.2 r) ∧
    ∀ (b : Bindings) (c : ColumnRef) (k : Clause), b.types.entries = s.fromTypes catalog →
      c.qualifier = none → c.isWildcard = false → lookupSelectAlias b c k = none →
      (∀ name aliases, lookupColumn b c k = .error (.ambiguousProperty name aliases) ↔
        name = c.property ∧ aliases = (definers (s.fromTypes catalog) c.property).map (·.1) ∧
          2 ≤ (definers (s.fromTypes catalog) c.property).length) ∧
      ∀ name looked, lookupColumn b c k = .error (.unknownProperty name looked) ↔
        name = c.property ∧ looked = .types ((s.fromTypes catalog).map (·.2.id)) ∧
          definers (s.fromTypes catalog) c.property = [] := by
  constructor
  · intro bound hbind
    obtain ⟨-, h⟩ := bind_ok (Statement.selectors_ids_nodup hparse) hbind
    refine ⟨?_, h.keys ▸ h.nodup, fun ref href => ?_⟩
    · rw [← h.types, ← h.keys]
      rfl
    · obtain ⟨r, hr⟩ := h.resolved ref href
      exact ⟨r, hr, h.standsFor ref href r hr⟩
  · intro b c k htypes hq hw ha
    rw [← htypes]
    exact lookupColumn_unqualified hq hw ha

/-- A join in which `cmis:name` alone is ambiguous. -/
theorem references_resolve_join : ∃ s bound,
    Statement.parse ("SELECT d.cmis:name AS n FROM cmis:document d JOIN cmis:folder f " ++
      "ON d.cmis:objectId = cmis:path WHERE n = 'x' AND IN_FOLDER(d, 'root') " ++
      "AND cmis:versionLabel IS NULL ORDER BY n") = .ok s ∧
    s.bind .base = .ok bound ∧ s.references.length = 7 ∧
    (∀ ref ∈ s.references, ∃ r, bound.resolution? ref.2.id = some r ∧
      StandsFor (s.fromTypes .base) s.aliasedId? bound.resolution? ref.1 ref.2 r) ∧
    lookupColumn bound.bindings ⟨7, none, "cmis:name"⟩ .filter
      = .error (.ambiguousProperty "cmis:name" ["d", "f"]) := by
  refine exists_bound (fun s bound => decide (s.references.length = 7 ∧
    bound.bindings.types.entries = s.fromTypes .base ∧
    lookupSelectAlias bound.bindings ⟨7, none, "cmis:name"⟩ .filter = none ∧
    (definers (s.fromTypes .base) "cmis:name").map (·.1) = ["d", "f"])) ?_ ?_
  · rw [← String.ofList_append, ← String.ofList_append, Statement.parse_ofList]
    decide +kernel
  intro s bound hs hbound hcheck
  obtain ⟨hlength, htypes, halias, hdef⟩ := of_decide_eq_true hcheck
  obtain ⟨hall, hlookup⟩ := references_resolve hs .base
  refine ⟨hlength, (hall bound hbound).2.2, ((hlookup _ _ _ htypes rfl rfl halias).1 _ _).2 ?_⟩
  refine ⟨rfl, hdef.symm, ?_⟩
  rw [← List.length_map (f := (·.1)), hdef]
  decide

/-! ## Queryable properties -/

/-- A property that a search may ask for. -/
def Resolution.queryable : Resolution → Bool
  | .property _ _ p => p.queryable
  | .wildcard _ => true
  | .score => true

/-- The SELECT item whose alias a reference is. -/
def Statement.aliasOf? (s : Statement) : Selector → Option SelectorId
  | .column c => if c.isWildcard = false ∧ c.qualifier = none then s.aliasedId? c.property else none
  | .function _ => none

/-- All properties that WHERE and the join conditions ask for are queryable. -/
def BoundStatement.SearchesQueryable (b : BoundStatement) : Prop :=
  ∀ ref ∈ b.statement.references, ref.1.searches = true →
    ∀ r ∈ b.resolution? ref.2.id, r.queryable = true

instance (b : BoundStatement) : Decidable b.SearchesQueryable :=
  inferInstanceAs (Decidable (∀ ref ∈ b.statement.references, ref.1.searches = true →
    ∀ r ∈ b.resolution? ref.2.id, r.queryable = true))

/-- **When a statement searches queryable properties only**: the aliases of its SELECT list that
it searches stand for such. All other names have been checked. -/
theorem searched_queryable_iff (hparse : Statement.parse text = .ok s)
    (hbind : s.bind catalog = .ok bound) :
    bound.SearchesQueryable ↔ ∀ ref ∈ s.references, ref.1.searches = true →
      ∀ id ∈ s.aliasOf? ref.2, ∀ r ∈ bound.resolution? id, r.queryable = true := by
  obtain ⟨rfl, h⟩ := bind_ok (Statement.selectors_ids_nodup hparse) hbind
  constructor
  · intro hall ref href hsearch id hid r hr
    obtain ⟨k, sel⟩ := ref
    obtain ⟨r', hr'⟩ := h.resolved _ href
    have hqueryable := hall _ href hsearch r' hr'
    cases h.standsFor _ href r' hr' with
    | score hf => simp [Statement.aliasOf?] at hid
    | all hw hq => simp [Statement.aliasOf?, hw] at hid
    | allOf hw hq hk ht => simp [Statement.aliasOf?, hw] at hid
    | selected hw hq hk ha ht =>
      obtain rfl : _ = id := by simpa [Statement.aliasOf?, hw, hq, ha] using hid
      cases ht.symm.trans hr
      exact hqueryable
    | qualified hw hq ht hp hs => simp [Statement.aliasOf?, hq] at hid
    | unqualified hw hq hk hd hp hs =>
      rcases hk with rfl | hk
      · cases hsearch
      · simp [Statement.aliasOf?, hw, hq, hk] at hid
  · intro hall ref href hsearch r hr
    obtain ⟨k, sel⟩ := ref
    cases h.standsFor _ href r hr with
    | score hf => rfl
    | all hw hq => rfl
    | allOf hw hq hk ht => rfl
    | selected hw hq hk ha ht =>
      exact hall _ href hsearch _ (by simp [Statement.aliasOf?, hw, hq, ha]) r ht
    | qualified hw hq ht hp hs => exact hs hsearch
    | unqualified hw hq hk hd hp hs => exact hs hsearch

theorem searched_queryable_iff_renamed : ∃ s bound,
    Statement.parse ("SELECT cmis:name AS n FROM cmis:document " ++
      "WHERE n = 'x' AND cmis:versionLabel IS NOT NULL") = .ok s ∧
    s.bind .base = .ok bound ∧ bound.SearchesQueryable := by
  refine exists_bound (fun s bound => decide (∀ ref ∈ s.references, ref.1.searches = true →
    ∀ id ∈ s.aliasOf? ref.2, ∀ r ∈ bound.resolution? id, r.queryable = true)) ?_ ?_
  · rw [← String.ofList_append, Statement.parse_ofList]
    decide +kernel
  intro s bound hs hbound hcheck
  exact (searched_queryable_iff hs hbound).2 (of_decide_eq_true hcheck)

/-- A type with a property that must not be searched for. -/
def bookType : TypeDefinition where
  id := "Book"
  parentId := some BaseType.document.id
  queryable := true
  fulltextIndexed := true
  properties := [{ PropertyDefinition.single "blurb" .string with queryable := false }]

/-- Under an alias of the SELECT list, a property that is not queryable can be searched for; under
its own name it cannot. -/
theorem alias_passes_queryable_check : ∃ catalog stored,
    Catalog.base.register bookType = .ok (catalog, stored) ∧
    (∃ s bound, Statement.parse "SELECT blurb AS b FROM Book WHERE b = 'x'" = .ok s ∧
      s.bind catalog = .ok bound ∧ ¬bound.SearchesQueryable) ∧
    ∃ s, Statement.parse "SELECT blurb AS b FROM Book WHERE blurb = 'x'" = .ok s ∧
      s.bind catalog = .error (.notQueryable "blurb") := by
  obtain ⟨⟨catalog, stored⟩, hregister, hcheck⟩ := exists_of_any_toOption
    (x := Catalog.base.register bookType)
    (p := fun c => ((Statement.parse "SELECT blurb AS b FROM Book WHERE b = 'x'").toOption.any
        fun s => (s.bind c.1).toOption.any fun bound => decide ¬bound.SearchesQueryable) &&
      (Statement.parse "SELECT blurb AS b FROM Book WHERE blurb = 'x'").toOption.any fun s =>
        decide (error? (s.bind c.1) = some (BindError.notQueryable "blurb")))
    (by rw [Statement.parse_ofList, Statement.parse_ofList]; decide +kernel)
  rw [Bool.and_eq_true] at hcheck
  refine ⟨catalog, stored, hregister, exists_bound _ hcheck.1 fun _ _ _ _ h => ?_, ?_⟩
  · exact of_decide_eq_true h
  · obtain ⟨s, hs, herror⟩ := exists_of_any_toOption hcheck.2
    exact ⟨s, hs, eq_error_of_error? (of_decide_eq_true herror)⟩

end ContentQuery
