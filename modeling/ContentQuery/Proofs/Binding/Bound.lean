import ContentQuery.Proofs.Binding.Filter
import ContentQuery.Statement.Parser

/-!
# Bound statements

`Bound catalog s B` collects what is known of the bindings `B` of a statement `s`, clause by
clause. `bind_ok` says that binding a statement whose references have distinct ids gives this, and
`Bound.resolves` that every reference then has an entry, which is what it stands for.
-/

set_option autoImplicit false

namespace ContentQuery

open Binding

/-! ## FROM -/

theorem Binding.bindSource_eq_ok {catalog : Catalog} {source : Source} {b b' : Bindings}
    (h : (bindSource catalog source).run b = .ok ((), b')) :
    ∃ t, catalog.lookup? source.typeId = some t ∧ b.types.contains source.bindingName = false ∧
      b' = { b with types := b.types.insert source.bindingName t } := by
  unfold bindSource at h
  obtain ⟨_, _, hget, htype⟩ := run_bind_eq_ok.1 h
  cases hget
  by_cases hc : b.types.contains source.bindingName = true
  · rw [if_pos hc] at htype
    cases htype
  rw [if_neg hc] at htype
  cases ht : catalog.lookup? source.typeId with
  | none => rw [ht] at htype; cases htype
  | some t =>
  rw [ht] at htype
  by_cases hq : (!t.queryable) = true
  · simp only [hq] at htype
    cases htype
  simp only [hq] at htype
  cases htype
  exact ⟨t, rfl, by simpa using hc, rfl⟩

/-- The types that a FROM list adds, and their aliases, of which there are no two the same. -/
theorem Binding.bindSources_eq_ok {catalog : Catalog} {sources : List Source} {b b' : Bindings}
    (h : (sources.forM (bindSource catalog)).run b = .ok ((), b')) (hb : b.types.keys.Nodup) :
    b' = { b with types := b'.types } ∧ b'.types.keys.Nodup ∧
      b'.types.keys = b.types.keys ++ sources.map Source.bindingName ∧
      b'.types.entries = b.types.entries ++ sources.filterMap fun source =>
        (catalog.lookup? source.typeId).map fun t => (source.bindingName, t) := by
  induction sources generalizing b with
  | nil =>
    cases h
    simpa using hb
  | cons source sources ih =>
    obtain ⟨_, mid, hsource, hrest⟩ := run_bind_eq_ok.1 h
    obtain ⟨t, ht, hnew, rfl⟩ := bindSource_eq_ok hsource
    have hentries := OrderedMap.entries_insert_of_contains_eq_false hnew t
    have hkeys := OrderedMap.keys_insert_of_contains_eq_false hnew t
    have hnodup := OrderedMap.nodup_keys_insert hnew hb t
    obtain ⟨hb', hnodup, hkeys', hentries'⟩ := ih hrest hnodup
    refine ⟨hb', hnodup, ?_, ?_⟩
    · simp [hkeys', hkeys]
    · simp [hentries', hentries, ht]

/-! ## SELECT -/

namespace Binding

variable {scope : Scope} {types : List (String × TypeDefinition)}

/-- The scope of a SELECT list in which the aliases of `done` have been recorded. -/
def selectScope (types : List (String × TypeDefinition)) (s : Statement)
    (h : (s.references.map (·.2.id)).Nodup) (done : List SelectItem) : Scope where
  types
  aliases := aliasedIn done
  references := s.select.map fun item => (.select, item.selector)
  searches := s.searches
  distinct := by
    refine h.sublist (List.Sublist.map _ ?_)
    simp only [Statement.references, List.append_assoc]
    exact List.sublist_append_left _ _

theorem bindSelector_ensures {sel : Selector} (hm : (.select, sel) ∈ scope.references) :
    Ensures scope (bindSelector sel) fun _ B => ∃ r, B.resolved.get? sel.id = some r := by
  unfold bindSelector
  cases sel with
  | column c => exact (resolveColumn_ensures hm).bind fun r => .pure fun B hr => ⟨r, hr⟩
  | function f => exact (resolveFunction_ensures hm).mono fun _ B hr => ⟨_, hr⟩

theorem aliasedIn_append (done : List SelectItem) (item : SelectItem) (name : String) :
    aliasedIn (done ++ [item]) name = (aliasedIn done name).or
      (if item.aliasName = some name then some item.selector.id else none) := by
  simp only [aliasedIn, List.find?_append, List.find?_singleton, Option.map_or, beq_iff_eq]
  by_cases h : item.aliasName = some name <;> simp [h]

section
variable {s : Statement} {h : (s.references.map (·.2.id)).Nodup} {done : List SelectItem}
  {item : SelectItem} {b b' : Bindings}

/-- The references of a SELECT list do not depend on its aliases, so that these may change. -/
theorem Sound.withAliases {done' : List SelectItem} {aliases : OrderedMap String SelectorId}
    (hs : Sound (selectScope types s h done) b)
    (ha : ∀ name, aliases.get? name = aliasedIn done' name)
    (hi : ∀ {name id}, aliasedIn done' name = some id → ∃ r, b.resolved.get? id = some r) :
    Sound (selectScope types s h done') { b with selectAliases := aliases } where
  types := hs.types
  aliases := ha
  items := hi
  entries hr := by
    obtain ⟨ref, href, hid, hfor⟩ := hs.entries hr
    obtain ⟨item, -, rfl⟩ := List.mem_map.1 href
    exact ⟨_, href, hid, hfor.of_select⟩
  fullText := hs.fullText

theorem bindSelectAlias_eq_ok (hs : Sound (selectScope types s h done) b)
    (hr : ∃ r, b.resolved.get? item.selector.id = some r)
    (hrun : (bindSelectAlias item.selector.id item.aliasName).run b = .ok ((), b')) :
    Sound (selectScope types s h (done ++ [item])) b' ∧ b.Grows b' := by
  cases ha : item.aliasName with
  | none =>
    have hsame : ∀ name, aliasedIn (done ++ [item]) name = aliasedIn done name := by
      simp [aliasedIn_append, ha]
    rw [ha] at hrun
    cases hrun
    exact ⟨hs.withAliases (fun name => by rw [hsame, hs.aliases]; rfl)
      fun hid => hs.items ((hsame _).symm.trans hid), .refl _⟩
  | some aliasName =>
  rw [ha] at hrun
  obtain ⟨_, _, hget, hset⟩ := run_bind_eq_ok.1 hrun
  cases hget
  by_cases hc : b.selectAliases.contains aliasName = true
  · rw [if_pos hc] at hset
    cases hset
  rw [if_neg hc] at hset
  cases hset
  have hnew : aliasedIn done aliasName = none := by
    rw [OrderedMap.contains_eq_isSome, hs.aliases] at hc
    exact Option.not_isSome_iff_eq_none.1 hc
  have hnext : ∀ name, aliasedIn (done ++ [item]) name =
      if aliasName = name then some item.selector.id else aliasedIn done name := by
    intro name
    rw [aliasedIn_append, ha]
    by_cases hname : aliasName = name
    · subst hname
      simp [hnew]
    · simp [hname]
  refine ⟨hs.withAliases (fun name => ?_) fun {name id} hid => ?_, ⟨rfl, id, id⟩⟩
  · rw [OrderedMap.get?_insert, hnext, hs.aliases]
    rfl
  · rw [hnext] at hid
    split at hid
    · cases hid
      exact hr
    · exact hs.items hid

/-- Every item of a SELECT list gets an entry, and its aliases are recorded. -/
theorem bindSelectItems_eq_ok {items : List SelectItem}
    (hm : ∀ item ∈ items, item ∈ s.select) (hs : Sound (selectScope types s h done) b)
    (hrun : (items.forM bindSelectItem).run b = .ok ((), b')) :
    Sound (selectScope types s h (done ++ items)) b' ∧ b.Grows b' ∧
      ∀ item ∈ items, ∃ r, b'.resolved.get? item.selector.id = some r := by
  induction items generalizing done b with
  | nil =>
    cases hrun
    exact ⟨by simpa using hs, .refl _, fun _ hi => nomatch hi⟩
  | cons item items ih =>
    obtain ⟨_, mid, hitem, hrest⟩ := run_bind_eq_ok.1 hrun
    obtain ⟨_, u, hsel, halias⟩ := run_bind_eq_ok.1 hitem
    have href : (.select, item.selector) ∈ (selectScope types s h done).references :=
      List.mem_map_of_mem (hm item List.mem_cons_self)
    obtain ⟨hu, hgrows, hall⟩ := bindSelector_ensures href b () u hs hsel
    have hr := hall u (.refl u)
    obtain ⟨hmid, hgrows'⟩ := bindSelectAlias_eq_ok hu hr halias
    obtain ⟨hs', hgrows'', hrest⟩ := ih (fun i hi => hm i (List.mem_cons_of_mem _ hi)) hmid hrest
    refine ⟨by simpa using hs', (hgrows.trans hgrows').trans hgrows'', fun i hi => ?_⟩
    rcases List.mem_cons.1 hi with rfl | hi
    · obtain ⟨r, hr⟩ := hr
      exact ⟨r, hgrows''.resolved (hgrows'.resolved hr)⟩
    · exact hrest i hi

end

/-! ## Joins and ORDER BY -/

/-- The columns of a join condition stand for properties. -/
def JoinChecked (B : Bindings) (join : JoinSpec) : Prop :=
  ∀ c ∈ [join.left, join.right],
    ∃ aliasName typeId p, B.resolved.get? c.id = some (.property aliasName typeId p)

/-- Results are ordered by the score and by orderable properties with one value. -/
def SortChecked (B : Bindings) (sel : Selector) : Prop :=
  B.resolved.get? sel.id = some .score ∨ ∃ aliasName typeId p,
    B.resolved.get? sel.id = some (.property aliasName typeId p) ∧
      p.isMultiValued = false ∧ p.orderable = true

theorem bindJoinColumn_ensures {c : ColumnRef} (hm : (.join, .column c) ∈ scope.references) :
    Ensures scope (bindJoinColumn c) fun _ B =>
      ∃ aliasName typeId p, B.resolved.get? c.id = some (.property aliasName typeId p) := by
  refine (resolveProperty_ensures hm).bind fun p b _ b' hs hr => ?_
  cases hr
  refine ⟨⟨hs.types, hs.aliases, hs.items, hs.entries, hs.fullText⟩, ⟨rfl, id, id⟩, ?_⟩
  intro B _ hp
  obtain ⟨aliasName, typeId, hp⟩ := hp
  exact ⟨aliasName, typeId, p, hp⟩

theorem bindJoin_ensures {join : JoinSpec}
    (hm : ∀ sel ∈ join.selectors, (.join, sel) ∈ scope.references) :
    Ensures scope (bindJoin join) fun _ B => JoinChecked B join := by
  refine (bindJoinColumn_ensures (hm _ List.mem_cons_self)).bind fun _ => ?_
  have hright : .column join.right ∈ join.selectors := by simp [JoinSpec.selectors]
  refine (bindJoinColumn_ensures (hm _ hright)).mono fun _ B hr hl c hc => ?_
  simp only [List.mem_cons, List.not_mem_nil, or_false] at hc
  rcases hc with rfl | rfl
  · exact hl
  · exact hr

theorem bindSortSpec_ensures {spec : SortSpec} (hm : (.orderBy, spec.selector) ∈ scope.references) :
    Ensures scope (bindSortSpec spec) fun _ B => SortChecked B spec.selector := by
  unfold bindSortSpec
  cases hsel : spec.selector with
  | function f =>
    rw [hsel] at hm
    exact (resolveFunction_ensures hm).mono fun _ B hr => .inl hr
  | column c =>
    rw [hsel] at hm
    refine (resolveColumn_ensures hm).bind fun r => ?_
    cases r with
    | property aliasName typeId p =>
      refine .ite (fun _ => .throw _) fun h => .pure fun B hr => .inr ⟨aliasName, typeId, p, hr, ?_⟩
      simpa using h
    | score => exact .pure fun B hr => .inl hr
    | wildcard aliases => exact .throw _

/-! ## Statements -/

/-- The scope of a whole statement. -/
def statementScope (types : List (String × TypeDefinition)) (s : Statement)
    (h : (s.references.map (·.2.id)).Nodup) : Scope where
  types
  aliases := s.aliasedId?
  references := s.references
  searches := s.searches
  distinct := h

/-- The bindings of a FROM list have nothing wrong in them, as they have nothing else. -/
theorem sources_sound {s : Statement} (h : (s.references.map (·.2.id)).Nodup) {b : Bindings}
    (hb : b = { Bindings.empty with types := b.types }) :
    Sound (selectScope b.types.entries s h []) b := by
  rw [hb]
  exact {
    types := rfl
    aliases := fun _ => rfl
    items := fun h => nomatch h
    entries := fun h => nomatch h
    fullText := fun h => nomatch h }

/-- Once all of the SELECT list is bound, the bindings are sound for the other clauses. -/
theorem Sound.afterSelect {s : Statement} {h : (s.references.map (·.2.id)).Nodup} {b : Bindings}
    (hs : Sound (selectScope types s h s.select) b) : Sound (statementScope types s h) b where
  types := hs.types
  aliases := hs.aliases
  items := hs.items
  entries hr := by
    obtain ⟨ref, href, hid, hfor⟩ := hs.entries hr
    obtain ⟨item, hitem, rfl⟩ := List.mem_map.1 href
    exact ⟨_, Statement.mem_references_select hitem, hid, hfor⟩
  fullText := hs.fullText

section
variable {s : Statement} (h : (s.references.map (·.2.id)).Nodup)

theorem bindJoins_ensures : Ensures (statementScope types s h) (s.joins.forM bindJoin) fun _ B =>
    ∀ join ∈ s.joins, JoinChecked B join :=
  .forM fun _ hj => bindJoin_ensures fun _ hsel => Statement.mem_references_join hj hsel

/-- The WHERE tree of a statement is in its scope. -/
theorem covers_filter {p : Predicate} (hp : p ∈ s.filter) :
    Covers (statementScope types s h) p := by
  refine ⟨fun _ hsel => Statement.mem_references_filter hp hsel, fun search hsearch => ?_⟩
  simpa [statementScope, Statement.searches, Option.mem_def.1 hp] using hsearch

/-- What the clauses after the SELECT list ensure together. -/
theorem bindRest_ensures :
    Ensures (statementScope types s h)
      (do s.joins.forM bindJoin; bindFilter s.filter; s.orderBy.forM bindSortSpec) fun _ B =>
        (∀ join ∈ s.joins, JoinChecked B join) ∧ (∀ p ∈ s.filter, TraceChecked B p.trace) ∧
          ∀ spec ∈ s.orderBy, SortChecked B spec.selector := by
  have hfilter : Ensures (statementScope types s h) (bindFilter s.filter) fun _ B =>
      ∀ p ∈ s.filter, TraceChecked B p.trace := bindFilter_ensures fun _ hp => covers_filter h hp
  have horder : Ensures (statementScope types s h) (s.orderBy.forM bindSortSpec) fun _ B =>
      ∀ spec ∈ s.orderBy, SortChecked B spec.selector := by
    exact .forM fun _ hspec => bindSortSpec_ensures (Statement.mem_references_orderBy hspec)
  refine (bindJoins_ensures h).bind fun _ => hfilter.bind fun _ => ?_
  exact horder.mono fun _ B ho hf hj => ⟨hj, hf, ho⟩

end

end Binding

/-- What is known of the bindings of a statement, from the names that it uses to the clauses in
which it uses them. -/
structure Bound (catalog : Catalog) (s : Statement) (B : Bindings) : Prop where
  types : B.types.entries = s.fromTypes catalog
  keys : B.types.keys = s.sources.map Source.bindingName
  nodup : B.types.keys.Nodup
  standsFor : ∀ ref ∈ s.references, ∀ r, B.resolved.get? ref.2.id = some r →
    StandsFor (s.fromTypes catalog) s.aliasedId? B.resolved.get? ref.1 ref.2 r
  select : ∀ item ∈ s.select, ∃ r, B.resolved.get? item.selector.id = some r
  joins : ∀ join ∈ s.joins, JoinChecked B join
  filter : ∀ p ∈ s.filter, TraceChecked B p.trace
  orderBy : ∀ spec ∈ s.orderBy, SortChecked B spec.selector
  fullText : B.fullText.isSome = true → s.searches ≠ []

theorem Statement.nodup_references {s : Statement} (h : (s.selectors.map Selector.id).Nodup) :
    (s.references.map (·.2.id)).Nodup := by
  rwa [← Statement.references_selectors, List.map_map] at h

/-- Binding a statement leads over the bindings of its FROM and SELECT lists, with which the other
clauses start. -/
theorem bind_eq_ok {catalog : Catalog} {s : Statement} {bound : BoundStatement}
    (hids : (s.references.map (·.2.id)).Nodup) (h : s.bind catalog = .ok bound) :
    bound.statement = s ∧ ∃ b, Sound (statementScope (s.fromTypes catalog) s hids) b ∧
      b.types.keys = s.sources.map Source.bindingName ∧ b.types.keys.Nodup ∧
      (∀ item ∈ s.select, ∃ r, b.resolved.get? item.selector.id = some r) ∧
      (do s.joins.forM bindJoin; bindFilter s.filter; s.orderBy.forM bindSortSpec : Binder Unit).run
        b = .ok ((), bound.bindings) := by
  unfold Statement.bind at h
  cases hrun : (bindClauses catalog s).run .empty with
  | error e => rw [hrun] at h; cases h
  | ok out =>
  rw [hrun] at h
  cases h
  obtain ⟨_, b₀, hsources, hrun⟩ := run_bind_eq_ok.1 hrun
  obtain ⟨_, b₁, hselect, hrest⟩ := run_bind_eq_ok.1 hrun
  obtain ⟨hb₀, hnodup, hkeys, htypes⟩ : b₀ = { Bindings.empty with types := b₀.types } ∧
      b₀.types.keys.Nodup ∧ b₀.types.keys = s.sources.map Source.bindingName ∧
      b₀.types.entries = s.fromTypes catalog := by
    unfold bindSources at hsources
    split at hsources
    · cases hsources
    · exact bindSources_eq_ok hsources .nil
  obtain ⟨hs₁, hgrows₁, hitems⟩ := bindSelectItems_eq_ok (fun _ hi => hi)
    (sources_sound hids hb₀) hselect
  have hs₁ := hs₁.afterSelect
  rw [htypes] at hs₁
  have hsame : b₁.types = b₀.types := hgrows₁.types
  exact ⟨rfl, b₁, hs₁, hsame ▸ hkeys, hsame ▸ hnodup, hitems, hrest⟩

/-- **Binding a statement** whose references have distinct ids. -/
theorem bind_ok {catalog : Catalog} {s : Statement} {bound : BoundStatement}
    (hids : (s.selectors.map Selector.id).Nodup) (h : s.bind catalog = .ok bound) :
    bound.statement = s ∧ Bound catalog s bound.bindings := by
  have hids := Statement.nodup_references hids
  obtain ⟨hstatement, b, hs, hkeys, hnodup, hitems, hrest⟩ := bind_eq_ok hids h
  refine ⟨hstatement, ?_⟩
  obtain ⟨hs', hgrows, hall⟩ := bindRest_ensures hids b _ _ hs hrest
  obtain ⟨hjoins, hfilter, horder⟩ := hall _ (.refl _)
  exact {
    types := hs'.types
    keys := hgrows.types ▸ hkeys
    nodup := hgrows.types ▸ hnodup
    standsFor := fun _ href _ hr => hs'.standsFor href hr
    select := fun item hi => by
      obtain ⟨r, hr⟩ := hitems item hi
      exact ⟨r, hgrows.resolved hr⟩
    joins := hjoins
    filter := hfilter
    orderBy := horder
    fullText := hs'.fullText }

theorem BoundStatement.property?_eq_some_iff {bound : BoundStatement} {id : SelectorId}
    {aliasName : String} {p : PropertyDefinition} :
    bound.property? id = some (aliasName, p) ↔
      ∃ typeId, bound.resolution? id = some (.property aliasName typeId p) := by
  unfold BoundStatement.property?
  split
  · rename_i hr
    simp [hr]
  · rename_i hno
    exact ⟨fun h => (nomatch h), fun ⟨typeId, hr⟩ => absurd hr (hno aliasName typeId p)⟩

/-- What holds of the meaning of a text, given a test on it that can be evaluated. -/
theorem exists_bound {text : String} {catalog : Catalog} {Q : Statement → BoundStatement → Prop}
    (p : Statement → BoundStatement → Bool)
    (h : ((Statement.parse text).toOption.any fun s => (s.bind catalog).toOption.any (p s)) = true)
    (hQ : ∀ s bound, Statement.parse text = .ok s → s.bind catalog = .ok bound →
      p s bound = true → Q s bound) :
    ∃ s bound, Statement.parse text = .ok s ∧ s.bind catalog = .ok bound ∧ Q s bound := by
  obtain ⟨s, hs, h⟩ := exists_of_any_toOption h
  obtain ⟨bound, hbound, h⟩ := exists_of_any_toOption h
  exact ⟨s, bound, hs, hbound, hQ s bound hs hbound h⟩

end ContentQuery
