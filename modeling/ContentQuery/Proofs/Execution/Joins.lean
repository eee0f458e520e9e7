import ContentQuery.Execution.Join
import ContentQuery.Proofs.Binding.Bound
import ContentQuery.Proofs.Run
import ContentQuery.Proofs.Statement.Parsed

/-!
# What joins find

A row has its objects under names, in the order in which they were added. Here a row is a `Tuple`:
the objects of the first types of the FROM list in their order (`BoundStatement.rowOf`), so that a
join is a matter of putting one more object at the end. `BoundStatement.joined` reads a FROM list in
this way, and `rows_eq_joined` says that the rows of a statement that is parsed and bound are those
tuples in the same order. Whatever the statement, the objects of a row come from the candidates
(`Join.holds_of_mem_rows`).
-/

set_option autoImplicit false

namespace ContentQuery

open Binding

/-- An object, or nothing, for each type of a FROM list from the first one on. -/
abbrev Tuple := List (Option ContentObject)

/-- The extensions that a join has found. An outer join that has found none takes the one without
an object. -/
def Join.orAbsent {α : Type} (join : Option JoinSpec) (absent : α) (found : List α) : List α :=
  if found.isEmpty && isLeftOuter join then [absent] else found

/-! ## Conditions -/

namespace BoundStatement

variable (bound : BoundStatement)

/-- The value of a column in a row, if it is there and is the only one. -/
def joinValue? (row : Row) (c : ColumnRef) : Option Value := do
  let (aliasName, property) ← bound.property? c.id
  let object ← row.get? aliasName
  let stored ← object.property? property.id
  stored.single?

/-- Both columns of a join condition have a value in a row, and the two are equal. -/
def OnHolds (row : Row) (join : JoinSpec) : Prop :=
  ∃ left ∈ bound.joinValue? row join.left, ∃ right ∈ bound.joinValue? row join.right,
    left.compare? right = some .eq

instance (row : Row) (join : JoinSpec) : Decidable (bound.OnHolds row join) :=
  inferInstanceAs (Decidable (∃ left ∈ bound.joinValue? row join.left,
    ∃ right ∈ bound.joinValue? row join.right, left.compare? right = some .eq))

/-! ## Tuples -/

/-- The row of the objects, or of the lack of one, under the first aliases of a statement. -/
def rowOf (tuple : Tuple) : Row := ⟨⟨bound.aliases.zip tuple⟩⟩

/-- The objects of a type that a tuple can be extended by. -/
def partners (source : Source) (objects : List ContentObject) (tuple : Tuple) :
    List ContentObject :=
  objects.filter fun object => ∀ join ∈ source.join,
    bound.OnHolds (bound.rowOf (tuple ++ [some object])) join

/-- The extensions of a tuple by the objects of a type. -/
def extensions (source : Source) (objects : List ContentObject) (tuple : Tuple) : List Tuple :=
  Join.orAbsent source.join (tuple ++ [none])
    ((bound.partners source objects tuple).map fun object => tuple ++ [some object])

/-- The tuples that one more type makes of those there are. -/
def joinNext (objects : String → List ContentObject) (tuples : List Tuple) (source : Source) :
    List Tuple :=
  tuples.flatMap (bound.extensions source (objects source.bindingName))

/-- The tuples of a FROM list, given the objects that its aliases range over. -/
def joined (objects : String → List ContentObject) : List Tuple :=
  match bound.statement.sources with
  | [] => []
  | first :: others =>
    others.foldl (bound.joinNext objects)
      ((objects first.bindingName).map fun object => [some object])

end BoundStatement

theorem Row.get?_insert (row : Row) (aliasName other : String) (object : Option ContentObject) :
    (row.insert aliasName object).get? other =
      if aliasName = other then object else row.get? other := by
  simp only [Row.get?, Row.insert, OrderedMap.get?_insert]
  split <;> rfl

/-! ## What rows hold -/

/-- Every object of a row has a property. -/
def Row.Holds (P : ContentObject → Prop) (row : Row) : Prop :=
  ∀ aliasName object, row.get? aliasName = some object → P object

theorem Row.Holds.insert {P : ContentObject → Prop} {row : Row} (h : row.Holds P)
    (aliasName : String) {object : Option ContentObject} (hobject : ∀ o ∈ object, P o) :
    (row.insert aliasName object).Holds P := by
  intro other o ho
  rw [Row.get?_insert] at ho
  by_cases hname : aliasName = other
  · rw [if_pos hname] at ho
    exact hobject o ho
  · rw [if_neg hname] at ho
    exact h other o ho

namespace Join

variable {P : ContentObject → Prop} {bound : BoundStatement}

theorem holds_of_mem_extend {join : Option JoinSpec} {aliasName : String}
    {objects : List ContentObject} {row : Row} {extended : List Row} (hrow : row.Holds P)
    (hobjects : ∀ o ∈ objects, P o)
    (h : extend bound join aliasName objects row = .ok extended) :
    ∀ row' ∈ extended, row'.Holds P := by
  obtain ⟨partners, hpartners, h⟩ := exists_of_bind_eq_ok h
  intro row' hrow'
  split at h
  · cases h
    rw [List.mem_singleton.1 hrow']
    exact hrow.insert aliasName nofun
  · cases h
    obtain ⟨o, ho, rfl⟩ := List.mem_map.1 hrow'
    refine hrow.insert aliasName fun o' ho' => ?_
    rw [← Option.mem_some.1 ho']
    exact hobjects o (mem_of_mem_filterM hpartners o ho)

theorem holds_of_mem_extendAll {others : List (Source × String × List ContentObject)}
    {rows extended : List Row} (hrows : ∀ row ∈ rows, row.Holds P)
    (hothers : ∀ other ∈ others, ∀ o ∈ other.2.2, P o)
    (h : extendAll bound rows others = .ok extended) : ∀ row ∈ extended, row.Holds P := by
  induction others generalizing rows with
  | nil =>
    cases h
    exact hrows
  | cons other others ih =>
    obtain ⟨next, hnext, h⟩ := exists_of_bind_eq_ok h
    refine ih (fun row hrow => ?_) (fun o ho => hothers o (List.mem_cons_of_mem _ ho)) h
    obtain ⟨part, hpart, hrow⟩ := List.mem_flatten.1 hrow
    obtain ⟨before, hbefore, hextend⟩ := exists_of_mem_mapM hnext part hpart
    exact holds_of_mem_extend (hrows before hbefore) (hothers other List.mem_cons_self) hextend
      row hrow

/-- What holds of all candidates holds of the objects of every joined row. -/
theorem holds_of_mem_rows {candidates : List (String × List ContentObject)} {joined : List Row}
    (hcandidates : ∀ c ∈ candidates, ∀ o ∈ c.2, P o) (h : rows bound candidates = .ok joined) :
    ∀ row ∈ joined, row.Holds P := by
  cases candidates with
  | nil =>
    cases h
    exact List.forall_mem_nil _
  | cons first others =>
    refine holds_of_mem_extendAll (fun row hrow => ?_) (fun other hother => ?_) h
    · obtain ⟨o, ho, rfl⟩ := List.mem_map.1 hrow
      refine Row.Holds.insert (fun aliasName object hget => ?_) _ fun o' ho' => ?_
      · cases hget
      · rw [← Option.mem_some.1 ho']
        exact hcandidates first List.mem_cons_self o ho
    · have hmem := (List.of_mem_zip (a := other.1) (b := other.2) hother).2
      exact hcandidates other.2 (List.mem_cons_of_mem _ hmem)

end Join

/-! ## Steps of a join -/

namespace Join

variable {bound : BoundStatement} {join : Option JoinSpec} (row : Row) (aliasName : String)

theorem sidesAgree_eq_true {left right : Option Value} :
    sidesAgree left right = true ↔
      ∃ l ∈ left, ∃ r ∈ right, l.compare? r = some .eq := by
  cases left <;> cases right <;> simp [sidesAgree, Value.equal]

/-- The value of a side is its value in the row that has the object. -/
theorem sideValue_eq {c : ColumnRef} (object : ContentObject)
    (h : ∃ side typeId p, bound.bindings.resolved.get? c.id = some (.property side typeId p)) :
    sideValue bound row aliasName object c =
      .ok (bound.joinValue? (row.insert aliasName (some object)) c) := by
  obtain ⟨side, typeId, p, hr⟩ := h
  have hp : bound.property? c.id = some (side, p) :=
    BoundStatement.property?_eq_some_iff.2 ⟨typeId, hr⟩
  unfold sideValue BoundStatement.joinValue?
  simp only [hp, Row.get?_insert]
  by_cases hside : side = aliasName
  · simp [hside]
  · have hside' : ¬aliasName = side := fun h => hside h.symm
    simp only [hside, hside', if_false, Option.bind_eq_bind, Option.bind_some, Option.bind_assoc]

/-- Which objects can be added is a matter of the condition alone. -/
theorem accepts_eq (h : ∀ j ∈ join, JoinChecked bound.bindings j) (object : ContentObject) :
    accepts bound join row aliasName object =
      pure (decide (∀ j ∈ join, bound.OnHolds (row.insert aliasName (some object)) j)) := by
  cases join with
  | none => simp [accepts]; rfl
  | some j =>
    have hleft := sideValue_eq row aliasName object (h j rfl j.left (by simp))
    have hright := sideValue_eq row aliasName object (h j rfl j.right (by simp))
    have hagree {left right : Option Value} : sidesAgree left right =
        decide (∃ l ∈ left, ∃ r ∈ right, l.compare? r = some .eq) := by
      rw [Bool.eq_iff_iff, decide_eq_true_eq, sidesAgree_eq_true]
    rw [accepts, hleft, hright]
    simp only [Option.mem_some_iff, forall_eq']
    exact congrArg Except.ok hagree

/-- The extensions of a row. -/
theorem extend_eq (h : ∀ j ∈ join, JoinChecked bound.bindings j) (objects : List ContentObject) :
    extend bound join aliasName objects row = pure (orAbsent join (row.insert aliasName none)
      ((objects.filter fun object =>
        ∀ j ∈ join, bound.OnHolds (row.insert aliasName (some object)) j).map fun object =>
          row.insert aliasName (some object))) := by
  unfold extend orAbsent
  rw [filterM_eq_pure (accepts_eq row aliasName h), pure_bind, List.isEmpty_map]
  split <;> rfl

theorem map_orAbsent {α β : Type} (f : α → β) (absent : α) (found : List α) :
    (orAbsent join absent found).map f = orAbsent join (f absent) (found.map f) := by
  unfold orAbsent
  rw [List.isEmpty_map]
  split <;> rfl

end Join

/-! ## Rows and tuples -/

variable {catalog : Catalog} {bound : BoundStatement}

/-- What is added to a row under the next alias is the next object of the tuple. -/
theorem BoundStatement.rowOf_insert {seen rest : List String} {aliasName : String}
    (haliases : bound.aliases = seen ++ aliasName :: rest) (hnodup : bound.aliases.Nodup)
    {tuple : Tuple} (hlength : tuple.length = seen.length)
    (object : Option ContentObject) :
    (bound.rowOf tuple).insert aliasName object = bound.rowOf (tuple ++ [object]) := by
  have hzip : bound.aliases.zip tuple = seen.zip tuple := by
    rw [haliases, ← List.append_nil tuple, List.zip_append hlength.symm]
    simp
  have hzip' : bound.aliases.zip (tuple ++ [object]) = seen.zip tuple ++ [(aliasName, object)] := by
    rw [haliases, List.zip_append hlength.symm]
    simp
  have hnew : (⟨seen.zip tuple⟩ : OrderedMap String (Option ContentObject)).contains aliasName
      = false := by
    rw [OrderedMap.contains_eq_false_iff]
    intro hmem
    obtain ⟨⟨name, o⟩, hentry, rfl⟩ := List.mem_map.1 hmem
    rw [haliases, List.nodup_append] at hnodup
    exact hnodup.2.2 name (List.of_mem_zip hentry).1 name List.mem_cons_self rfl
  unfold rowOf Row.insert
  rw [hzip, hzip']
  exact congrArg Row.mk (congrArg OrderedMap.mk (OrderedMap.entries_insert_of_contains_eq_false
    hnew object))

/-- The tuples of the first type. -/
theorem BoundStatement.insert_empty {aliasName : String} {rest : List String}
    (haliases : bound.aliases = aliasName :: rest) (hnodup : bound.aliases.Nodup)
    (object : Option ContentObject) :
    Row.empty.insert aliasName object = bound.rowOf [object] := by
  have hempty : bound.rowOf [] = Row.empty := by
    rw [rowOf, List.zip_nil_right]
    rfl
  have hsplit : bound.aliases = [] ++ aliasName :: rest := haliases
  rw [← hempty]
  exact bound.rowOf_insert hsplit hnodup rfl object

/-- A row is extended as its tuple is. -/
theorem Join.extend_rowOf {source : Source} {seen rest : List String}
    (h : ∀ j ∈ source.join, JoinChecked bound.bindings j)
    (haliases : bound.aliases = seen ++ source.bindingName :: rest) (hnodup : bound.aliases.Nodup)
    {tuple : Tuple} (hlength : tuple.length = seen.length)
    (objects : List ContentObject) :
    extend bound source.join source.bindingName objects (bound.rowOf tuple) =
      pure ((bound.extensions source objects tuple).map bound.rowOf) := by
  have hinsert := bound.rowOf_insert haliases hnodup hlength
  rw [extend_eq _ _ h, BoundStatement.extensions, map_orAbsent, List.map_map]
  simp only [hinsert]
  rfl

/-! ## Joining -/

namespace BoundStatement

variable (source : Source) (objects : List ContentObject) (tuple : Tuple)

theorem length_of_mem_extensions {extended : Tuple}
    (h : extended ∈ bound.extensions source objects tuple) :
    extended.length = tuple.length + 1 := by
  unfold extensions Join.orAbsent at h
  split at h
  · rw [List.mem_singleton.1 h, List.length_append, List.length_singleton]
  · obtain ⟨object, -, rfl⟩ := List.mem_map.1 h
    rw [List.length_append, List.length_singleton]

/-- A tuple has an extension for each of its partners, and an outer join leaves none without. -/
theorem dropLast_extensions :
    (bound.extensions source objects tuple).map List.dropLast =
      List.replicate (if Join.isLeftOuter source.join then
        max 1 (bound.partners source objects tuple).length
      else (bound.partners source objects tuple).length) tuple := by
  unfold extensions
  generalize bound.partners source objects tuple = found
  have hdrop : (found.map fun object => tuple ++ [some object]).map List.dropLast =
      List.replicate found.length tuple := by
    rw [List.map_map, ← List.map_const']
    exact List.map_congr_left fun object _ => List.dropLast_concat
  cases houter : Join.isLeftOuter source.join with
  | false => simpa [Join.orAbsent, houter] using hdrop
  | true =>
    cases found with
    | nil => simp [Join.orAbsent, houter]
    | cons object found =>
      have hmax : max 1 (object :: found).length = (object :: found).length := by
        rw [List.length_cons]
        omega
      simpa [Join.orAbsent, houter, hmax] using hdrop

end BoundStatement

section
variable {objects : String → List ContentObject} {tuples : List Tuple} {n : Nat}

theorem BoundStatement.length_of_mem_joinNext {source : Source}
    (hlength : ∀ tuple ∈ tuples, tuple.length = n) {extended : Tuple}
    (h : extended ∈ bound.joinNext objects tuples source) : extended.length = n + 1 := by
  obtain ⟨tuple, htuple, hmem⟩ := List.mem_flatMap.1 h
  rw [bound.length_of_mem_extensions _ _ _ hmem, hlength tuple htuple]

/-- Every join adds one to the length of the tuples. -/
theorem BoundStatement.length_of_mem_foldl_joinNext {others : List Source}
    (hlength : ∀ tuple ∈ tuples, tuple.length = n) :
    ∀ tuple ∈ others.foldl (bound.joinNext objects) tuples, tuple.length = n + others.length := by
  induction others generalizing tuples n with
  | nil => exact hlength
  | cons source others ih =>
    intro tuple htuple
    have hnext := ih (fun _ h => length_of_mem_joinNext hlength h) tuple htuple
    rw [hnext, List.length_cons]
    omega

variable (objects) in
/-- Rows are extended by one type after the other as their tuples are. -/
theorem Join.extendAll_rowOf {seen : List String} {others : List Source}
    (h : ∀ source ∈ others, ∀ j ∈ source.join, JoinChecked bound.bindings j)
    (haliases : bound.aliases = seen ++ others.map Source.bindingName)
    (hnodup : bound.aliases.Nodup) (hlength : ∀ tuple ∈ tuples, tuple.length = seen.length) :
    extendAll bound (tuples.map bound.rowOf)
        (others.map fun source => (source, source.bindingName, objects source.bindingName)) =
      .ok ((others.foldl (bound.joinNext objects) tuples).map bound.rowOf) := by
  induction others generalizing seen tuples with
  | nil => rfl
  | cons source others ih =>
    rw [List.map_cons] at haliases
    have hextend : ∀ tuple ∈ tuples,
        (extend bound source.join source.bindingName (objects source.bindingName) ∘ bound.rowOf)
          tuple = pure ((bound.extensions source (objects source.bindingName) tuple).map
            bound.rowOf) := by
      intro tuple htuple
      exact extend_rowOf (h source List.mem_cons_self) haliases hnodup (hlength tuple htuple) _
    have hflat : (tuples.map fun tuple => (bound.extensions source (objects source.bindingName)
        tuple).map bound.rowOf).flatten =
          (bound.joinNext objects tuples source).map bound.rowOf := by
      rw [BoundStatement.joinNext, List.map_flatMap, List.flatMap_def]
    rw [List.map_cons, extendAll, List.mapM_map, mapM_eq_pure hextend, pure_bind, hflat,
      List.foldl_cons]
    have hnext : ∀ tuple ∈ bound.joinNext objects tuples source,
        tuple.length = (seen ++ [source.bindingName]).length := by
      intro tuple htuple
      rw [BoundStatement.length_of_mem_joinNext hlength htuple, List.length_append,
        List.length_singleton]
    refine ih (fun s hs => h s (List.mem_cons_of_mem _ hs)) ?_ hnext
    rw [haliases, List.append_assoc, List.singleton_append]

end

section
variable {first : Source} {others : List Source}
  (hsources : bound.statement.sources = first :: others)

include hsources

/-- The names of a FROM list are the aliases of the types. -/
theorem Bound.aliases_eq (h : Bound catalog bound.statement bound.bindings) :
    bound.aliases = first.bindingName :: others.map Source.bindingName := by
  rw [BoundStatement.aliases, h.keys, hsources]
  rfl

theorem Bound.joinChecked (h : Bound catalog bound.statement bound.bindings) :
    ∀ source ∈ others, ∀ join ∈ source.join, JoinChecked bound.bindings join := by
  intro source hsource join hjoin
  refine h.joins join (List.mem_filterMap.2 ⟨source, ?_, hjoin⟩)
  rw [hsources]
  exact List.mem_cons_of_mem _ hsource

theorem BoundStatement.joined_eq (objects : String → List ContentObject) :
    bound.joined objects = others.foldl (bound.joinNext objects)
      ((objects first.bindingName).map fun object => [some object]) := by
  rw [joined, hsources]

end

/-- **The rows of a FROM list are the tuples of its joins**, in the same order. For every statement
that is parsed and bound and all objects under its aliases, the rows are those tuples, each with
something for every type. A tuple comes back from a join as often as it has partners, and from an
outer join at least once. -/
theorem rows_eq_joined {text : String} {s : Statement} (hparse : Statement.parse text = .ok s)
    (hbind : s.bind catalog = .ok bound) (objects : String → List ContentObject) :
    Join.rows bound (bound.aliases.map fun aliasName => (aliasName, objects aliasName)) =
      .ok ((bound.joined objects).map bound.rowOf) ∧
    (∀ tuple ∈ bound.joined objects, tuple.length = s.sources.length) ∧
    ∀ source ∈ s.sources.tail, ∀ tuples,
      (bound.joinNext objects tuples source).map List.dropLast = tuples.flatMap fun tuple =>
        List.replicate (if Join.isLeftOuter source.join then
          max 1 (bound.partners source (objects source.bindingName) tuple).length
        else (bound.partners source (objects source.bindingName) tuple).length) tuple := by
  obtain ⟨first, others, hsources, -, -⟩ := Statement.isFromList_sources hparse
  obtain ⟨rfl, h⟩ := bind_ok (Statement.selectors_ids_nodup hparse) hbind
  have haliases := h.aliases_eq hsources
  have hfirst : (objects first.bindingName).map (fun object =>
      Row.empty.insert first.bindingName (some object)) =
        ((objects first.bindingName).map fun object => [some object]).map bound.rowOf := by
    rw [List.map_map]
    exact List.map_congr_left fun object _ => bound.insert_empty haliases h.nodup _
  have hlength : ∀ tuple ∈ (objects first.bindingName).map fun object => [some object],
      tuple.length = [first.bindingName].length := by
    intro tuple htuple
    obtain ⟨object, -, rfl⟩ := List.mem_map.1 htuple
    rfl
  have hrows := Join.extendAll_rowOf objects (h.joinChecked hsources) haliases h.nodup hlength
  have hall : ∀ tuple ∈ others.foldl (bound.joinNext objects)
      ((objects first.bindingName).map fun object => [some object]),
      tuple.length = [first.bindingName].length + others.length :=
    BoundStatement.length_of_mem_foldl_joinNext hlength
  rw [BoundStatement.joined_eq hsources]
  refine ⟨?_, fun tuple htuple => ?_, fun source _ tuples => ?_⟩
  · rw [haliases, List.map_cons, Join.rows, hsources, List.drop_one, List.tail_cons,
      List.map_map, hfirst, ← hrows, List.map_prod_left_eq_zip]
    rfl
  · rw [hall tuple htuple, hsources]
    simp only [List.length_cons, List.length_nil]
    omega
  · rw [BoundStatement.joinNext, List.map_flatMap]
    exact List.flatMap_congr fun tuple _ => bound.dropLast_extensions _ _ tuple

/-- A document with a name and a creator. -/
def namedDocument (id name createdBy : String) : ContentObject where
  id
  typeId := "cmis:document"
  parentId := none
  properties := .ofList [("cmis:name", .single (.string name)),
    ("cmis:createdBy", .single (.string createdBy))]
  content := none

/-- Of two documents the first has a partner, and the second is kept without one. -/
theorem rows_eq_joined_outer : ∃ s bound,
    Statement.parse ("SELECT * FROM cmis:document d LEFT JOIN cmis:document e " ++
      "ON d.cmis:createdBy = e.cmis:name") = .ok s ∧ s.bind .base = .ok bound ∧
    Join.rows bound (bound.aliases.map fun aliasName =>
        (aliasName, [namedDocument "1" "a" "b", namedDocument "2" "b" "c"])) =
      .ok ([[some (namedDocument "1" "a" "b"), some (namedDocument "2" "b" "c")],
        [some (namedDocument "2" "b" "c"), none]].map bound.rowOf) := by
  refine exists_bound (fun _ bound => decide (
    bound.joined (fun _ => [namedDocument "1" "a" "b", namedDocument "2" "b" "c"]) =
      [[some (namedDocument "1" "a" "b"), some (namedDocument "2" "b" "c")],
        [some (namedDocument "2" "b" "c"), none]])) ?_ ?_
  · rw [← String.ofList_append, Statement.parse_ofList]
    decide +kernel
  intro s bound hs hbound hcheck
  obtain ⟨hrows, -⟩ := rows_eq_joined hs hbound
    (fun _ => [namedDocument "1" "a" "b", namedDocument "2" "b" "c"])
  rw [hrows, of_decide_eq_true hcheck]

end ContentQuery
