import ContentQuery.Calls
import ContentQuery.Proofs.Calls
import ContentQuery.Proofs.Repository.Keyed

/-!
# Repositories after insertions

What a repository holds after any insertions, whether they succeed or fail. Insertion stores an
object with the properties that say its id and its type, and otherwise as it is
(`ContentObject.StoredAs`). It puts the new object behind the old ones (`values_insert`), or fails
and changes nothing. `insertions_keep` puts together what follows for a run of insertions.
-/

set_option autoImplicit false

namespace ContentQuery

/-! ## One object -/

/-- What is stored of an object. -/
structure ContentObject.StoredAs (o stored : ContentObject) : Prop where
  id : stored.id = o.id
  typeId : stored.typeId = o.typeId
  parentId : stored.parentId = o.parentId
  content : stored.content = o.content
  objectIdProperty : stored.property? objectIdProperty = some (.single (.id o.id))
  objectTypeIdProperty : stored.property? objectTypeIdProperty = some (.single (.id o.typeId))
  /-- No other property but that of the parent is touched. -/
  others : ∀ key, key ≠ ContentQuery.objectIdProperty → key ≠ ContentQuery.objectTypeIdProperty →
    key ≠ parentIdProperty → stored.property? key = o.property? key
  /-- The properties keep their order, in front of those that are added. -/
  keys : o.properties.keys <+: stored.properties.keys

namespace ContentObject

variable {o : ContentObject}

/-- The properties with those of the id and the type. -/
def identified (o : ContentObject) : OrderedMap String PropertyValue :=
  (o.properties.insert objectIdProperty (.single (.id o.id))).insert objectTypeIdProperty
    (.single (.id o.typeId))

theorem get?_identified (o : ContentObject) (key : String) : o.identified.get? key =
    if objectTypeIdProperty = key then some (.single (.id o.typeId))
    else if objectIdProperty = key then some (.single (.id o.id)) else o.property? key := by
  rw [identified, OrderedMap.get?_insert, OrderedMap.get?_insert]
  rfl

/-- A property of the parent is added if there is a parent and no such property yet. -/
theorem properties_withSystemProperties (o : ContentObject) :
    o.withSystemProperties.properties = o.identified ∧
        (o.parentId = none ∨ o.identified.contains parentIdProperty = true) ∨
      ∃ parent, o.parentId = some parent ∧ o.identified.contains parentIdProperty = false ∧
        o.withSystemProperties.properties =
          o.identified.insert parentIdProperty (.single (.id parent)) := by
  obtain ⟨id, typeId, parentId, properties, content⟩ := o
  cases parentId with
  | none => exact .inl ⟨rfl, .inl rfl⟩
  | some parent =>
    cases hown : identified ⟨id, typeId, some parent, properties, content⟩ |>.contains
        parentIdProperty with
    | true => exact .inl ⟨if_pos hown, .inr rfl⟩
    | false => exact .inr ⟨parent, rfl, rfl, if_neg (Bool.eq_false_iff.1 hown)⟩

/-- The property of the parent is the object's own one, or else it is made from the parent. -/
theorem property?_parentIdProperty (o : ContentObject) :
    o.withSystemProperties.property? parentIdProperty =
      (o.property? parentIdProperty).or (o.parentId.map fun p => .single (.id p)) := by
  have hget : o.identified.get? parentIdProperty = o.property? parentIdProperty :=
    get?_identified o _
  unfold property? at hget ⊢
  rw [← hget]
  rcases o.properties_withSystemProperties with ⟨hsame, hnone | hown⟩ | ⟨p, hp, hnew, hadded⟩
  · rw [hsame, hnone, Option.map_none, Option.or_none]
  · rw [OrderedMap.contains_eq_isSome] at hown
    obtain ⟨value, hvalue⟩ := Option.isSome_iff_exists.1 hown
    rw [hsame, hvalue, Option.some_or]
  · rw [OrderedMap.contains_eq_isSome, Option.isSome_eq_false_iff, Option.isNone_iff_eq_none] at hnew
    rw [hadded, OrderedMap.get?_insert, if_pos rfl, hnew, hp, Option.none_or, Option.map_some]

theorem property?_of_ne {key : String} (h : key ≠ parentIdProperty) (o : ContentObject) :
    o.withSystemProperties.property? key = o.identified.get? key := by
  unfold property?
  rcases o.properties_withSystemProperties with ⟨hsame, -⟩ | ⟨p, -, -, hadded⟩
  · rw [hsame]
  · rw [hadded, OrderedMap.get?_insert, if_neg h.symm]

theorem storedAs_withSystemProperties (o : ContentObject) : o.StoredAs o.withSystemProperties where
  id := rfl
  typeId := rfl
  parentId := rfl
  content := rfl
  objectIdProperty := by
    rw [property?_of_ne (by decide), get?_identified, if_neg (by decide), if_pos rfl]
  objectTypeIdProperty := by
    rw [property?_of_ne (by decide), get?_identified, if_pos rfl]
  others key hid htype hparent := by
    rw [property?_of_ne hparent, get?_identified, if_neg htype.symm, if_neg hid.symm]
  keys := by
    have hidentified : o.properties.keys <+: o.identified.keys :=
      (OrderedMap.keys_isPrefix_insert ..).trans (OrderedMap.keys_isPrefix_insert ..)
    rcases o.properties_withSystemProperties with ⟨hsame, -⟩ | ⟨p, -, -, hadded⟩
    · rwa [hsame]
    · rw [hadded]
      exact hidentified.trans (OrderedMap.keys_isPrefix_insert ..)

end ContentObject

namespace Repository

open Call

variable {r r' : Repository} {o stored : ContentObject} {fault : QueryError}

/-! ## One insertion -/

theorem insert_eq_ok_iff : r.insert o = .ok (r', stored) ↔ r.objects.contains o.id = false ∧
    stored = o.withSystemProperties ∧ r' = { r with objects := r.objects.insert o.id stored } := by
  unfold insert
  cases hnew : r.objects.contains o.id with
  | true => simp
  | false =>
    simp only [Bool.false_eq_true, if_false, Except.ok.injEq, Prod.mk.injEq, true_and]
    constructor
    · rintro ⟨rfl, rfl⟩
      exact ⟨rfl, rfl⟩
    · rintro ⟨rfl, rfl⟩
      exact ⟨rfl, rfl⟩

/-- The new object stands behind the old ones. -/
theorem values_insert (h : r.insert o = .ok (r', stored)) :
    r'.objects.values = r.objects.values ++ [stored] := by
  obtain ⟨hnew, -, rfl⟩ := insert_eq_ok_iff.1 h
  rw [OrderedMap.values, OrderedMap.entries_insert_of_contains_eq_false hnew, List.map_append]
  rfl

theorem inserting_does (o : ContentObject) : Does (inserting o) (·.insert o) where
  ok {r r' stored} h := by
    obtain ⟨hnew, rfl, rfl⟩ := insert_eq_ok_iff.1 h
    rw [inserting, on_bind_of_ok (on_get r)]
    simp only [hnew, Bool.false_eq_true, if_false]
    exact on_bind_of_ok (on_set r _) _
  error {r fault} h := by
    unfold insert at h
    split at h
    · rename_i hold
      cases h
      rw [inserting, on_bind_of_ok (on_get r)]
      simp only [hold, if_true]
      exact on_throw _ r
    · cases h

/-! ## Runs of insertions -/

theorem run_insertingEach_cons {objects : List ContentObject}
    {outcomes : List (Except QueryError ContentObject)}
    (h : ((insertingEach (o :: objects)).run r).run = (outcomes, r')) :
    ∃ rest, outcomes = (inserting o).outcome r :: rest ∧
      ((insertingEach objects).run ((inserting o).after r)).run = (rest, r') := by
  have hsplit : ((insertingEach (o :: objects)).run r).run =
      ((inserting o).outcome r ::
        ((insertingEach objects).run ((inserting o).after r)).run.1,
        ((insertingEach objects).run ((inserting o).after r)).run.2) := by
    simp only [insertingEach, List.mapM_cons]
    rfl
  obtain ⟨rfl, rfl⟩ := Prod.mk.inj (hsplit.symm.trans h)
  exact ⟨_, rfl, rfl⟩

/-- A run puts the objects whose insertion succeeds behind the old ones, with their system
properties. -/
theorem run_insertingEach {supplied : List ContentObject}
    {outcomes : List (Except QueryError ContentObject)} (hr : r.Keyed)
    (h : ((insertingEach supplied).run r).run = (outcomes, r')) :
    r'.Keyed ∧ r'.objects.values = r.objects.values ++ outcomes.filterMap Except.toOption ∧
      List.Forall₂ (fun o outcome => ∀ stored, outcome = .ok stored →
        stored = o.withSystemProperties ∧ stored ∈ r'.objects.values) supplied outcomes := by
  -- the others are inserted into what the first insertion leaves, be it changed or not
  induction supplied generalizing r outcomes with
  | nil =>
    obtain ⟨rfl, rfl⟩ := Prod.mk.inj h
    exact ⟨hr, (List.append_nil _).symm, .nil⟩
  | cons o supplied ih =>
    obtain ⟨rest, rfl, hrest⟩ := run_insertingEach_cons h
    cases hinsert : r.insert o with
    | error fault =>
      have hon := (inserting_does o).error hinsert
      rw [after, hon] at hrest
      obtain ⟨hkeyed, hvalues, hstored⟩ := ih hr hrest
      rw [outcome, hon]
      refine ⟨hkeyed, hvalues, .cons (fun stored hok => ?_) hstored⟩
      cases hok
    | ok inserted =>
      obtain ⟨next, stored⟩ := inserted
      have hon := (inserting_does o).ok hinsert
      rw [after, hon] at hrest
      obtain ⟨hkeyed, hvalues, hstored⟩ := ih (hr.insert hinsert) hrest
      rw [values_insert hinsert, List.append_assoc] at hvalues
      rw [outcome, hon]
      refine ⟨hkeyed, hvalues, .cons (fun stored' hok => ?_) hstored⟩
      cases hok
      obtain ⟨-, hsystem, -⟩ := insert_eq_ok_iff.1 hinsert
      refine ⟨hsystem, ?_⟩
      rw [hvalues]
      exact List.mem_append_right _ List.mem_cons_self

/-- An insertion fails exactly if the id is taken. -/
theorem exists_outcome_inserting_eq_error_iff (h : r.Keyed) (o : ContentObject) :
    (∃ fault, (inserting o).outcome r = .error fault) ↔
      ∃ old ∈ r.objects.values, old.id = o.id := by
  rw [← List.mem_map, h.map_id_values]
  cases hnew : r.objects.contains o.id with
  | true =>
    have hmem : o.id ∈ r.objects.keys := by
      rw [← Classical.not_not (a := o.id ∈ _), ← OrderedMap.contains_eq_false_iff, hnew]
      exact Bool.noConfusion
    refine iff_of_true ⟨.execution (.objectExists o.id), ?_⟩ hmem
    rw [(inserting_does o).outcome_eq, insert, if_pos hnew]
    rfl
  | false =>
    refine iff_of_false ?_ (OrderedMap.contains_eq_false_iff.1 hnew)
    rw [(inserting_does o).outcome_eq, insert, if_neg (Bool.eq_false_iff.1 hnew)]
    rintro ⟨fault, hfault⟩
    cases hfault

/-- What a run of insertions has stored, and what is found of it. -/
structure Holds (r : Repository) (supplied : List ContentObject)
    (outcomes : List (Except QueryError ContentObject)) : Prop where
  stored : List.Forall₂ (fun o outcome => ∀ stored, outcome = .ok stored → o.StoredAs stored)
    supplied outcomes
  values : r.objects.values = outcomes.filterMap Except.toOption
  size : r.size = r.objects.values.length
  nodup : (r.objects.values.map ContentObject.id).Nodup
  get? : ∀ o ∈ r.objects.values, r.get? o.id = some o
  /-- A further insertion fails exactly if its id is taken. -/
  fails : ∀ o, (∃ fault, (inserting o).outcome r = .error fault) ↔
    ∃ old ∈ r.objects.values, old.id = o.id
  unchanged : ∀ o fault, (inserting o).outcome r = .error fault → (inserting o).after r = r
  /-- The objects of a type stand in the same order, and none of them twice. -/
  sublist : ∀ catalog typeId includeSubtypes,
    (r.objectsOfType catalog typeId includeSubtypes).Sublist r.objects.values ∧
      (r.objectsOfType catalog typeId includeSubtypes).Nodup
  ofType : ∀ catalog typeId includeSubtypes o,
    o ∈ r.objectsOfType catalog typeId includeSubtypes ↔ o ∈ r.objects.values ∧
      (o.typeId = typeId ∨ includeSubtypes = true ∧ catalog.isSubtypeOf o.typeId typeId = true)

/-- **After any insertions into an empty repository** it holds the objects whose insertion has
succeeded, in this order, each as it is stored and found under its id. -/
theorem holds_of_insertions {caseSensitiveText : Bool} {supplied : List ContentObject}
    {outcomes : List (Except QueryError ContentObject)}
    (h : ((insertingEach supplied).run (.empty caseSensitiveText)).run = (outcomes, r)) :
    r.Holds supplied outcomes := by
  obtain ⟨hkeyed, hvalues, hstored⟩ := run_insertingEach (.empty caseSensitiveText) h
  have hstoredAs : List.Forall₂ (fun o outcome => ∀ stored, outcome = .ok stored →
      o.StoredAs stored) supplied outcomes := by
    refine hstored.imp fun o outcome h stored hok => ?_
    rw [(h stored hok).1]
    exact o.storedAs_withSystemProperties
  refine ⟨hstoredAs, hvalues, (List.length_map _).symm, ?_, fun o => hkeyed.get?_id,
    exists_outcome_inserting_eq_error_iff hkeyed, fun o fault => (inserting_does o).after_of_error, ?_, ?_⟩
  · rw [hkeyed.map_id_values]
    exact hkeyed.nodup
  · exact fun catalog typeId includeSubtypes =>
      ⟨List.filter_sublist, hkeyed.nodup_objectsOfType catalog typeId includeSubtypes⟩
  · intro catalog typeId includeSubtypes o
    simp only [objectsOfType, List.mem_filter, Bool.or_eq_true, Bool.and_eq_true, beq_iff_eq]

/-- A folder that claims another id, a document in it, and a second object with the first id. -/
def suppliedObjects : List ContentObject :=
  [⟨"a", "cmis:folder", none, .ofList [(objectIdProperty, .single (.id "z"))], none⟩,
    ⟨"b", "cmis:document", some "a", .empty, some "text"⟩,
    ⟨"a", "cmis:document", none, .empty, none⟩]

/-- The first two are stored. -/
theorem holds_of_insertions_twice : ∃ outcomes r,
    ((insertingEach suppliedObjects).run (.empty false)).run = (outcomes, r) ∧
      r.Holds suppliedObjects outcomes ∧ r.objects.values.map ContentObject.id = ["a", "b"] ∧
      r.objects.values.map (·.property? objectIdProperty) =
        [some (.single (.id "a")), some (.single (.id "b"))] :=
  ⟨_, _, rfl, holds_of_insertions rfl, by decide, by decide⟩

end Repository

end ContentQuery
