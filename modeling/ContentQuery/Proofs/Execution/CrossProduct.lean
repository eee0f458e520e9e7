import ContentQuery.Proofs.Execution.Runs
import ContentQuery.Proofs.Repository.Keyed

/-!
# Inner joins and the cross product

Inner joins choose from the cross product of the candidates those tuples in which all ON conditions
hold, if each condition is about types that have been joined by then (`BoundStatement.InOrder`).
A condition about a type that comes later is bound as well, but no row satisfies it at the place
where it stands, and there are no rows at all. `inner_joins_select` states both.
-/

set_option autoImplicit false

namespace ContentQuery

open Binding

/-! ## Products -/

/-- All lists of one member from each list, in lexicographic order. -/
def crossProduct {α : Type} : List (List α) → List (List α)
  | [] => [[]]
  | xs :: rest => xs.flatMap fun x => (crossProduct rest).map fun tuple => x :: tuple

section
variable {α β γ : Type}

theorem crossProduct_concat (lists : List (List α)) (xs : List α) :
    crossProduct (lists ++ [xs]) =
      (crossProduct lists).flatMap fun tuple => xs.map fun x => tuple ++ [x] := by
  induction lists with
  | nil => simp [crossProduct, List.map_eq_flatMap]
  | cons ys rest ih =>
    rw [List.cons_append, crossProduct, ih, crossProduct, List.flatMap_assoc]
    refine List.flatMap_congr fun y _ => ?_
    rw [List.map_flatMap, List.flatMap_map]
    refine List.flatMap_congr fun tuple _ => ?_
    rw [List.map_map]
    rfl

/-- A product has each choice of one member from each list, and nothing else. -/
theorem mem_crossProduct {lists : List (List α)} {tuple : List α} :
    tuple ∈ crossProduct lists ↔ List.Forall₂ (fun x xs => x ∈ xs) tuple lists := by
  induction lists generalizing tuple with
  | nil => simp [crossProduct]
  | cons xs rest ih =>
    rw [crossProduct, List.forall₂_cons_right_iff]
    simp only [List.mem_flatMap, List.mem_map, ih]
    constructor
    · rintro ⟨x, hx, others, hothers, rfl⟩
      exact ⟨x, others, hx, hothers, rfl⟩
    · rintro ⟨x, others, hx, hothers, rfl⟩
      exact ⟨x, hx, others, hothers, rfl⟩

theorem nodup_crossProduct {lists : List (List α)} (h : ∀ xs ∈ lists, xs.Nodup) :
    (crossProduct lists).Nodup := by
  induction lists with
  | nil => exact List.nodup_singleton []
  | cons xs rest ih =>
    have hrest := ih fun ys hys => h ys (List.mem_cons_of_mem _ hys)
    rw [crossProduct, List.nodup_flatMap]
    refine ⟨fun x _ => hrest.map fun a b hab => (List.cons.inj hab).2, ?_⟩
    refine (h xs List.mem_cons_self).imp fun {x y} hne => ?_
    intro tuple hx hy
    obtain ⟨a, -, rfl⟩ := List.mem_map.1 hx
    obtain ⟨b, -, hb⟩ := List.mem_map.1 hy
    exact hne (List.cons.inj hb).1.symm

/-- To choose first and to choose last comes to the same. -/
theorem flatMap_filter_map {p : α → Bool} {q : α → β → Bool} {r : γ → Bool} {f : α → β → γ}
    {tuples : List α} {xs : List β} (h : ∀ t ∈ tuples, ∀ x ∈ xs, r (f t x) = (p t && q t x)) :
    ((tuples.filter p).flatMap fun t => (xs.filter (q t)).map (f t)) =
      (tuples.flatMap fun t => xs.map (f t)).filter r := by
  induction tuples with
  | nil => rfl
  | cons t tuples ih =>
    have hrest := ih fun u hu => h u (List.mem_cons_of_mem _ hu)
    have hmap : (xs.map (f t)).filter r = if p t then (xs.filter (q t)).map (f t) else [] := by
      rw [List.filter_map]
      cases hp : p t with
      | false =>
        rw [if_neg Bool.false_ne_true, List.map_eq_nil_iff, List.filter_eq_nil_iff]
        intro x hx
        simp [h t List.mem_cons_self x hx, hp]
      | true =>
        rw [if_pos rfl]
        refine congrArg _ (List.filter_congr fun x hx => ?_)
        simp [h t List.mem_cons_self x hx, hp]
    rw [List.flatMap_cons, List.filter_append, hmap, ← hrest]
    cases hp : p t <;> simp [hp]

end

/-! ## Conditions and the types that they are about -/

namespace BoundStatement

variable (bound : BoundStatement)

/-- The columns of a join condition belong to some of the aliases. -/
def IsAbout (join : JoinSpec) (aliases : List String) : Prop :=
  ∀ c ∈ [join.left, join.right], ∀ found ∈ bound.property? c.id, found.1 ∈ aliases

/-- Each join condition is about its own type and the types before it. -/
def InOrder : Prop :=
  ∀ entry ∈ bound.statement.sources.zipIdx, ∀ join ∈ entry.1.join,
    bound.IsAbout join (bound.aliases.take (entry.2 + 1))

instance (join : JoinSpec) (aliases : List String) : Decidable (bound.IsAbout join aliases) :=
  inferInstanceAs (Decidable (∀ c ∈ [join.left, join.right], ∀ found ∈ bound.property? c.id,
    found.1 ∈ aliases))

instance : Decidable bound.InOrder :=
  inferInstanceAs (Decidable (∀ entry ∈ bound.statement.sources.zipIdx, ∀ join ∈ entry.1.join,
    bound.IsAbout join (bound.aliases.take (entry.2 + 1))))

variable {bound} {tuple : Tuple} {join : JoinSpec} {aliasName : String}

theorem keys_rowOf (tuple : Tuple) :
    (bound.aliases.zip tuple).map (·.1) = bound.aliases.take tuple.length := by
  generalize bound.aliases = names
  induction tuple generalizing names with
  | nil => simp
  | cons object tuple ih => cases names <;> simp [ih]

theorem entries_rowOf_append (tuple others : Tuple) :
    bound.aliases.zip (tuple ++ others) =
      bound.aliases.zip tuple ++ (bound.aliases.drop tuple.length).zip others := by
  generalize bound.aliases = names
  induction tuple generalizing names with
  | nil => simp
  | cons object tuple ih => cases names <;> simp [ih]

/-- A tuple has nothing under the aliases after its own. -/
theorem rowOf_get?_of_not_mem (h : aliasName ∉ bound.aliases.take tuple.length) :
    (bound.rowOf tuple).get? aliasName = none := by
  have hnone : (bound.aliases.zip tuple).find? (fun e => e.1 = aliasName) = none := by
    rw [List.find?_eq_none]
    rintro ⟨name, object⟩ he hname
    rw [decide_eq_true_eq] at hname
    subst hname
    rw [← keys_rowOf] at h
    exact h (List.mem_map_of_mem he)
  rw [rowOf, Row.get?, OrderedMap.get?, hnone]
  rfl

/-- The objects of a tuple are not touched by those that come after them. -/
theorem rowOf_get?_append (h : aliasName ∈ bound.aliases.take tuple.length)
    (others : Tuple) :
    (bound.rowOf (tuple ++ others)).get? aliasName = (bound.rowOf tuple).get? aliasName := by
  have hfound : ((bound.aliases.zip tuple).find? fun e => e.1 = aliasName).isSome = true := by
    rw [← keys_rowOf] at h
    obtain ⟨e, he, hname⟩ := List.mem_map.1 h
    exact List.find?_isSome.2 ⟨e, he, decide_eq_true hname⟩
  simp only [rowOf, Row.get?, OrderedMap.get?, entries_rowOf_append, List.find?_append]
  rw [Option.or_of_isSome hfound]

theorem joinValue?_append {c : ColumnRef}
    (h : ∀ found ∈ bound.property? c.id, found.1 ∈ bound.aliases.take tuple.length)
    (others : Tuple) :
    bound.joinValue? (bound.rowOf (tuple ++ others)) c =
      bound.joinValue? (bound.rowOf tuple) c := by
  unfold joinValue?
  cases hfound : bound.property? c.id with
  | none => rfl
  | some found =>
    simp only [Option.bind_eq_bind, Option.bind_some, rowOf_get?_append (h found hfound)]

theorem onHolds_append (h : bound.IsAbout join (bound.aliases.take tuple.length))
    (others : Tuple) :
    bound.OnHolds (bound.rowOf (tuple ++ others)) join ↔
      bound.OnHolds (bound.rowOf tuple) join := by
  have hleft := joinValue?_append (h join.left (by simp)) others
  have hright := joinValue?_append (h join.right (by simp)) others
  rw [OnHolds, OnHolds, hleft, hright]

/-- A condition about a type that comes later holds in no tuple. -/
theorem not_onHolds (h : ¬bound.IsAbout join (bound.aliases.take tuple.length)) :
    ¬bound.OnHolds (bound.rowOf tuple) join := by
  simp only [IsAbout, not_forall] at h
  obtain ⟨c, hc, found, hfound, hlater⟩ := h
  have hnone : bound.joinValue? (bound.rowOf tuple) c = none := by
    unfold joinValue?
    rw [Option.mem_def.1 hfound]
    simp only [Option.bind_eq_bind, Option.bind_some, rowOf_get?_of_not_mem hlater,
      Option.bind_none]
  rintro ⟨left, hleft, right, hright, -⟩
  simp only [List.mem_cons, List.not_mem_nil, or_false] at hc
  rcases hc with rfl | rfl
  · rw [hnone] at hleft
    cases hleft
  · rw [hnone] at hright
    cases hright

end BoundStatement

/-! ## Inner joins -/

namespace BoundStatement

variable (bound : BoundStatement)

/-- The tuples of a part of a FROM list, chosen from the product by its join conditions. -/
def chosen (objects : String → List ContentObject) (sources : List Source) : List Tuple :=
  (crossProduct (sources.map fun source => (objects source.bindingName).map some)).filter
    fun tuple => ∀ join ∈ sources.filterMap Source.join, bound.OnHolds (bound.rowOf tuple) join

variable {bound} {objects : String → List ContentObject} {source : Source}
  {sources done others : List Source}

theorem length_of_mem_crossProduct {tuple : Tuple}
    (h : tuple ∈ crossProduct (sources.map fun source =>
      (objects source.bindingName).map some)) : tuple.length = sources.length := by
  rw [(mem_crossProduct.1 h).length_eq, List.length_map]

theorem extensions_inner (hinner : Join.isLeftOuter source.join = false)
    (candidates : List ContentObject) (tuple : Tuple) :
    bound.extensions source candidates tuple =
      (bound.partners source candidates tuple).map fun object => tuple ++ [some object] := by
  simp [extensions, Join.orAbsent, hinner]

/-- In order, the conditions of the first types are about these types. -/
theorem InOrder.isAbout (h : bound.InOrder) (hsources : bound.statement.sources = done ++ others)
    {join : JoinSpec} (hjoin : join ∈ done.filterMap Source.join) :
    bound.IsAbout join (bound.aliases.take done.length) := by
  obtain ⟨source, hsource, hj⟩ := List.mem_filterMap.1 hjoin
  obtain ⟨k, hk, rfl⟩ := List.getElem_of_mem hsource
  have hentry : (done[k], k) ∈ bound.statement.sources.zipIdx := by
    rw [List.mem_zipIdx_iff_getElem?, hsources, List.getElem?_append_left hk]
    exact List.getElem?_eq_getElem hk
  have hle : k + 1 ≤ done.length := hk
  intro c hc found hfound
  exact (List.take_subset_take_left _ hle) (h _ hentry join hj c hc found hfound)

/-- An inner join goes on choosing from the product. -/
theorem joinNext_chosen (h : bound.InOrder)
    (hsources : bound.statement.sources = done ++ source :: others)
    (hinner : Join.isLeftOuter source.join = false) :
    bound.joinNext objects (bound.chosen objects done) source =
      bound.chosen objects (done ++ [source]) := by
  have hproduct : crossProduct ((done ++ [source]).map fun source =>
      (objects source.bindingName).map some) =
        (crossProduct (done.map fun source => (objects source.bindingName).map some)).flatMap
          fun tuple => (objects source.bindingName).map fun object => tuple ++ [some object] := by
    rw [List.map_append, List.map_singleton, crossProduct_concat]
    simp only [List.map_map]
    rfl
  unfold joinNext chosen
  rw [hproduct, funext (extensions_inner hinner _)]
  refine flatMap_filter_map fun tuple htuple object _ => ?_
  have hbefore : ∀ join ∈ done.filterMap Source.join,
      (bound.OnHolds (bound.rowOf (tuple ++ [some object])) join ↔
        bound.OnHolds (bound.rowOf tuple) join) := by
    intro join hjoin
    refine onHolds_append ?_ _
    rw [length_of_mem_crossProduct htuple]
    exact h.isAbout hsources hjoin
  rw [Bool.eq_iff_iff, Bool.and_eq_true, decide_eq_true_eq, decide_eq_true_eq, decide_eq_true_eq,
    List.filterMap_append, List.forall_mem_append, forall₂_congr hbefore]
  refine and_congr_right fun _ => ?_
  cases hjoin : source.join <;> simp [hjoin]

theorem foldl_joinNext_chosen (h : bound.InOrder)
    (hsources : bound.statement.sources = done ++ others)
    (hinner : ∀ source ∈ others, Join.isLeftOuter source.join = false) :
    others.foldl (bound.joinNext objects) (bound.chosen objects done) =
      bound.chosen objects (done ++ others) := by
  induction others generalizing done with
  | nil => rw [List.append_nil, List.foldl_nil]
  | cons source others ih =>
    rw [List.append_cons] at hsources
    rw [List.foldl_cons, joinNext_chosen h (by rw [hsources, ← List.append_cons])
      (hinner source List.mem_cons_self), List.append_cons done source others]
    exact ih hsources fun s hs => hinner s (List.mem_cons_of_mem _ hs)

theorem foldl_joinNext_nil : others.foldl (bound.joinNext objects) [] = [] := by
  induction others with
  | nil => rfl
  | cons source others ih => exact ih

/-- No tuple is extended by a join whose condition is about a type that comes later. -/
theorem joinNext_of_not_isAbout {join : JoinSpec} (hjoin : join ∈ source.join) {n : Nat}
    (hlater : ¬bound.IsAbout join (bound.aliases.take (n + 1)))
    (hinner : Join.isLeftOuter source.join = false) {tuples : List Tuple}
    (hlength : ∀ tuple ∈ tuples, tuple.length = n) :
    bound.joinNext objects tuples source = [] := by
  refine List.flatMap_eq_nil_iff.2 fun tuple htuple => ?_
  rw [extensions_inner hinner, List.map_eq_nil_iff, partners, List.filter_eq_nil_iff]
  intro object _ hholds
  rw [decide_eq_true_eq] at hholds
  refine not_onHolds ?_ (hholds join hjoin)
  rw [List.length_append, List.length_singleton, hlength tuple htuple]
  exact hlater

/-- After a join whose condition is about a type that comes later there is nothing left. -/
theorem foldl_joinNext_of_not_isAbout {join : JoinSpec} {k n : Nat} (hk : k < others.length)
    (hjoin : join ∈ others[k].join)
    (hlater : ¬bound.IsAbout join (bound.aliases.take (n + k + 1)))
    (hinner : ∀ source ∈ others, Join.isLeftOuter source.join = false) {tuples : List Tuple}
    (hlength : ∀ tuple ∈ tuples, tuple.length = n) :
    others.foldl (bound.joinNext objects) tuples = [] := by
  have hsplit : others = others.take k ++ others[k] :: others.drop (k + 1) := by simp
  have hbefore : ∀ tuple ∈ (others.take k).foldl (bound.joinNext objects) tuples,
      tuple.length = n + k := by
    intro tuple htuple
    rw [length_of_mem_foldl_joinNext hlength tuple htuple, List.length_take]
    omega
  rw [hsplit, List.foldl_append, List.foldl_cons, joinNext_of_not_isAbout hjoin hlater
    (hinner _ (List.getElem_mem hk)) hbefore, foldl_joinNext_nil]

/-- The tuples of inner joins are chosen from the product if the joins are in order, and otherwise
there are none. -/
theorem joined_inner {first : Source} (hsources : bound.statement.sources = first :: others)
    (hfirst : first.join = none)
    (hinner : ∀ source ∈ others, Join.isLeftOuter source.join = false) :
    bound.joined objects =
      if bound.InOrder then bound.chosen objects bound.statement.sources else [] := by
  rw [joined_eq hsources]
  by_cases horder : bound.InOrder
  · have hstart : (objects first.bindingName).map (fun object => [some object]) =
        bound.chosen objects [first] := by
      simp [chosen, crossProduct, hfirst, List.map_eq_flatMap, List.flatMap_assoc]
    rw [if_pos horder, hstart, foldl_joinNext_chosen horder hsources hinner, hsources]
    rfl
  · rw [if_neg horder]
    simp only [InOrder, not_forall] at horder
    obtain ⟨⟨source, k⟩, hentry, join, hjoin, hlater⟩ := horder
    rw [List.mem_zipIdx_iff_getElem?, hsources] at hentry
    -- The first type has no condition, so that the misplaced one is at a later join.
    cases k with
    | zero =>
      cases hentry
      rw [hfirst] at hjoin
      cases hjoin
    | succ k =>
      simp only [List.getElem?_cons_succ] at hentry hjoin hlater
      obtain ⟨hk, rfl⟩ := List.getElem?_eq_some_iff.1 hentry
      have hlater : ¬bound.IsAbout join (bound.aliases.take (1 + k + 1)) := by
        rwa [Nat.add_comm 1 k]
      exact foldl_joinNext_of_not_isAbout hk hjoin hlater hinner (by simp)

end BoundStatement

/-! ## Candidates -/

/-- The objects that an alias ranges over. -/
def BoundStatement.objectsUnder (bound : BoundStatement) (catalog : Catalog)
    (repository : Repository) (config : Config) (aliasName : String) : List ContentObject :=
  match bound.bindings.types.get? aliasName with
  | some t => repository.objectsOfType catalog t.id config.includeSubtypes
  | none => []

variable {catalog : Catalog} {bound : BoundStatement}

theorem candidates_eq (hnodup : bound.aliases.Nodup) (repository : Repository) (config : Config) :
    Execution.candidates catalog repository config bound = bound.aliases.map fun aliasName =>
      (aliasName, bound.objectsUnder catalog repository config aliasName) := by
  unfold Execution.candidates BoundStatement.aliases OrderedMap.keys
  rw [List.map_map]
  refine List.map_congr_left fun entry hentry => ?_
  have hget : bound.bindings.types.get? entry.1 = some entry.2 :=
    OrderedMap.get?_of_mem_entries hnodup hentry
  simp only [Function.comp_apply, BoundStatement.objectsUnder, hget]

/-- **Inner joins choose from the cross product.** For every statement that is parsed and bound and
has no outer join, and every repository, the rows before the WHERE tree are the tuples of one
candidate for each alias in which all join conditions hold, in lexicographic order, provided that
no condition is about a type that comes later. If one is, there are no rows. As objects are stored
once, no tuple is there twice. -/
theorem inner_joins_select {text : String} {s : Statement} (hparse : Statement.parse text = .ok s)
    (hbind : s.bind catalog = .ok bound) (hinner : ∀ join ∈ s.joins, join.kind = .inner)
    (repository : Repository) (config : Config) :
    (bound.InOrder → Join.rows bound (Execution.candidates catalog repository config bound) =
      .ok ((bound.chosen (bound.objectsUnder catalog repository config) s.sources).map
        bound.rowOf)) ∧
    (¬bound.InOrder →
      Join.rows bound (Execution.candidates catalog repository config bound) = .ok []) ∧
    (repository.Keyed →
      (bound.chosen (bound.objectsUnder catalog repository config) s.sources).Nodup) := by
  obtain ⟨first, others, hsources, hfirst, -⟩ := Statement.isFromList_sources hparse
  obtain ⟨hrows, -, -⟩ := rows_eq_joined hparse hbind (bound.objectsUnder catalog repository config)
  obtain ⟨rfl, h⟩ := bind_ok (Statement.selectors_ids_nodup hparse) hbind
  have hnotOuter : ∀ source ∈ others, Join.isLeftOuter source.join = false := by
    intro source hsource
    cases hjoin : source.join with
    | none => rfl
    | some join =>
      have hmem : join ∈ bound.statement.joins := by
        refine List.mem_filterMap.2 ⟨source, ?_, hjoin⟩
        rw [hsources]
        exact List.mem_cons_of_mem _ hsource
      rw [Join.isLeftOuter, hinner join hmem]
      rfl
  rw [candidates_eq h.nodup, hrows, BoundStatement.joined_inner hsources hfirst hnotOuter]
  refine ⟨fun horder => ?_, fun horder => ?_, fun hkeyed => ?_⟩
  · rw [if_pos horder]
  · rw [if_neg horder]
    rfl
  · refine (nodup_crossProduct fun candidates hcandidates => ?_).filter _
    obtain ⟨source, -, rfl⟩ := List.mem_map.1 hcandidates
    refine List.Nodup.map (fun _ _ => Option.some.inj) ?_
    unfold BoundStatement.objectsUnder
    split
    · exact hkeyed.nodup_objectsOfType _ _ _
    · exact List.nodup_nil

/-- Two documents, both created by one of the name of the second. -/
def twoDocuments : Repository where
  objects := .ofList [("1", namedDocument "1" "a" "b"), ("2", namedDocument "2" "b" "b")]
  matcher := ⟨false⟩

theorem inner_joins_select_two : ∃ s bound,
    Statement.parse ("SELECT a.cmis:name FROM cmis:document a JOIN cmis:document b " ++
      "ON a.cmis:createdBy = b.cmis:name") = .ok s ∧ s.bind .base = .ok bound ∧
    (∀ join ∈ s.joins, join.kind = .inner) ∧ bound.InOrder ∧
    Join.rows bound (Execution.candidates .base twoDocuments {} bound) =
      .ok ([[some (namedDocument "1" "a" "b"), some (namedDocument "2" "b" "b")],
        [some (namedDocument "2" "b" "b"), some (namedDocument "2" "b" "b")]].map bound.rowOf) := by
  refine exists_bound (fun s bound => decide ((∀ join ∈ s.joins, join.kind = .inner) ∧
    bound.InOrder ∧ bound.chosen (bound.objectsUnder .base twoDocuments {}) s.sources =
      [[some (namedDocument "1" "a" "b"), some (namedDocument "2" "b" "b")],
        [some (namedDocument "2" "b" "b"), some (namedDocument "2" "b" "b")]])) ?_ ?_
  · rw [← String.ofList_append, Statement.parse_ofList]
    decide +kernel
  intro s bound hs hbound hcheck
  obtain ⟨hinner, horder, hchosen⟩ := of_decide_eq_true hcheck
  obtain ⟨hrows, -, -⟩ := inner_joins_select hs hbound hinner twoDocuments {}
  exact ⟨hinner, horder, by rw [hrows horder, hchosen]⟩

/-- A condition about a type that comes later is bound and holds in two tuples of the product
together with the other one, and yet there are no rows. There are two if the conditions change
places. -/
theorem condition_on_later_type_drops_rows :
    (∃ s bound, Statement.parse ("SELECT a.cmis:name FROM cmis:document a " ++
        "JOIN cmis:document b ON b.cmis:name = c.cmis:name " ++
        "JOIN cmis:document c ON a.cmis:name = b.cmis:name") = .ok s ∧
      s.bind .base = .ok bound ∧ (∀ join ∈ s.joins, join.kind = .inner) ∧
      Join.rows bound (Execution.candidates .base twoDocuments {} bound) = .ok [] ∧
      (bound.chosen (bound.objectsUnder .base twoDocuments {}) s.sources).length = 2) ∧
    ∃ s bound, Statement.parse ("SELECT a.cmis:name FROM cmis:document a " ++
        "JOIN cmis:document b ON a.cmis:name = b.cmis:name " ++
        "JOIN cmis:document c ON b.cmis:name = c.cmis:name") = .ok s ∧
      s.bind .base = .ok bound ∧ ∃ rows,
      Join.rows bound (Execution.candidates .base twoDocuments {} bound) = .ok rows ∧
        rows.length = 2 := by
  constructor
  · refine exists_bound (fun s bound => decide (∀ join ∈ s.joins, join.kind = .inner) &&
      (Join.rows bound (Execution.candidates .base twoDocuments {} bound)).toOption.any
        List.isEmpty &&
      decide ((bound.chosen (bound.objectsUnder .base twoDocuments {}) s.sources).length = 2))
      ?_ ?_
    · rw [← String.ofList_append, ← String.ofList_append, Statement.parse_ofList]
      decide +kernel
    intro s bound _ _ hcheck
    simp only [Bool.and_eq_true, decide_eq_true_eq] at hcheck
    obtain ⟨⟨hinner, hrows⟩, hchosen⟩ := hcheck
    obtain ⟨rows, hrows, hempty⟩ := exists_of_any_toOption hrows
    rw [List.isEmpty_iff] at hempty
    subst hempty
    exact ⟨hinner, hrows, hchosen⟩
  · refine exists_bound (fun _ bound =>
      (Join.rows bound (Execution.candidates .base twoDocuments {} bound)).toOption.any
        fun rows => decide (rows.length = 2)) ?_ ?_
    · rw [← String.ofList_append, ← String.ofList_append, Statement.parse_ofList]
      decide +kernel
    intro s bound _ _ hcheck
    obtain ⟨rows, hrows, hlength⟩ := exists_of_any_toOption hcheck
    exact ⟨rows, hrows, of_decide_eq_true hlength⟩

end ContentQuery
