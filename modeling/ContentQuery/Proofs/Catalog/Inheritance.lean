import ContentQuery.Proofs.Catalog.Ancestry

/-!
# What types inherit

A type that is registered has all query names that its parent has, and it is full-text indexed if
its parent is (`TypeDefinition.Extends`). Inheriting from a type that is extended already changes
nothing (`inherit_eq_self`), nor does naming properties that have names (`named_eq_self`). In a
catalog that registration has built this is so for every type and its parent
(`Reachable.inherits`), so that completing a registered type once more gives it back
(`complete_stored`).
-/

set_option autoImplicit false

namespace ContentQuery

/-! ## Query names -/

/-- The query name is empty only if the id is. -/
def PropertyDefinition.IsNamed (p : PropertyDefinition) : Prop := p.queryName = "" → p.id = ""

instance (p : PropertyDefinition) : Decidable p.IsNamed :=
  inferInstanceAs (Decidable (p.queryName = "" → p.id = ""))

theorem PropertyDefinition.isNamed_named (p : PropertyDefinition) : p.named.IsNamed := by
  unfold named
  split
  · exact fun hempty => hempty
  · rename_i hname
    exact fun hempty => absurd (String.isEmpty_iff.2 hempty) hname

theorem PropertyDefinition.named_eq_self {p : PropertyDefinition} (h : p.IsNamed) :
    p.named = p := by
  obtain ⟨id, queryName, kind, cardinality, queryable, orderable⟩ := p
  unfold named
  split
  · rename_i hname
    obtain rfl : queryName = "" := String.isEmpty_iff.1 hname
    obtain rfl : id = "" := h rfl
    rfl
  · rfl

namespace TypeDefinition

variable {t parent : TypeDefinition}

/-- All properties of the type have a query name, unless their id is empty. -/
def IsNamed (t : TypeDefinition) : Prop := ∀ p ∈ t.properties, p.IsNamed

/-- The type with query names for its properties. -/
def named (t : TypeDefinition) : TypeDefinition :=
  { t with properties := t.properties.map .named }

theorem isNamed_named (t : TypeDefinition) : t.named.IsNamed := by
  intro p hp
  obtain ⟨own, -, rfl⟩ := List.mem_map.1 hp
  exact own.isNamed_named

theorem named_eq_self (h : t.IsNamed) : t.named = t := by
  have hmap : t.properties.map .named = t.properties :=
    (List.map_congr_left fun p hp => PropertyDefinition.named_eq_self (h p hp)).trans
      (List.map_id _)
  rw [named, hmap]

/-! ## Inheriting -/

theorem isSome_property?_iff {queryName : String} :
    (t.property? queryName).isSome = true ↔ ∃ p ∈ t.properties, p.queryName = queryName := by
  simp only [property?, List.find?_isSome, beq_iff_eq]

/-- The type has the query names of its parent, and its full-text index. -/
structure Extends (t parent : TypeDefinition) : Prop where
  names : ∀ queryName, (parent.property? queryName).isSome = true →
    (t.property? queryName).isSome = true
  fulltextIndexed : parent.fulltextIndexed = true → t.fulltextIndexed = true

theorem mem_properties_inherit {p : PropertyDefinition} :
    p ∈ (t.inherit parent).properties ↔
      (p ∈ parent.properties ∧ ∀ own ∈ t.properties, own.queryName ≠ p.queryName) ∨
        p ∈ t.properties := by
  simp only [inherit, List.mem_append, List.mem_filter, Bool.not_eq_true', List.any_eq_false,
    beq_iff_eq]

theorem extends_inherit (t parent : TypeDefinition) : (t.inherit parent).Extends parent where
  names queryName h := by
    obtain ⟨p, hp, rfl⟩ := isSome_property?_iff.1 h
    rw [isSome_property?_iff]
    by_cases hown : ∃ own ∈ t.properties, own.queryName = p.queryName
    · obtain ⟨own, hmem, hname⟩ := hown
      exact ⟨own, mem_properties_inherit.2 (.inr hmem), hname⟩
    · refine ⟨p, mem_properties_inherit.2 (.inl ⟨hp, fun own hmem hname => ?_⟩), rfl⟩
      exact hown ⟨own, hmem, hname⟩
  fulltextIndexed h := by simp only [inherit, h, Bool.or_true]

theorem inherit_eq_self (h : t.Extends parent) : t.inherit parent = t := by
  have hnone : (parent.properties.filter fun p =>
      !t.properties.any (·.queryName == p.queryName)) = [] := by
    refine List.filter_eq_nil_iff.2 fun p hp => ?_
    obtain ⟨own, hmem, hname⟩ := isSome_property?_iff.1
      (h.names p.queryName (isSome_property?_iff.2 ⟨p, hp, rfl⟩))
    have hany : t.properties.any (·.queryName == p.queryName) = true :=
      List.any_eq_true.2 ⟨own, hmem, beq_iff_eq.2 hname⟩
    rw [hany]
    exact Bool.false_ne_true
  have hindexed : (t.fulltextIndexed || parent.fulltextIndexed) = t.fulltextIndexed := by
    cases hparent : parent.fulltextIndexed with
    | false => exact Bool.or_false _
    | true => rw [h.fulltextIndexed hparent, Bool.or_true]
  simp only [inherit, hnone, List.nil_append, hindexed]

theorem isNamed_inherit (ht : t.IsNamed) (hparent : parent.IsNamed) :
    (t.inherit parent).IsNamed := by
  intro p hp
  rcases mem_properties_inherit.1 hp with ⟨hp, -⟩ | hp
  · exact hparent p hp
  · exact ht p hp

end TypeDefinition

/-! ## Catalogs -/

namespace Catalog

variable {c c' : Catalog} {t stored : TypeDefinition} {types : List TypeDefinition}

/-- A type is stored as it is if it has no parent, and with what it inherits otherwise. -/
theorem complete_eq_ok_iff : c.complete t = .ok stored ↔
    (t.parentId = none ∧ stored = t.named) ∨ ∃ p parent, t.parentId = some p ∧
      c.lookup? p = some parent ∧ stored = t.named.inherit parent := by
  obtain ⟨id, parentId, queryable, fulltextIndexed, properties⟩ := t
  cases parentId with
  | none => simp [complete, TypeDefinition.named, eq_comm]
  | some p => cases hp : c.lookup? p <;> simp [complete, hp, TypeDefinition.named, eq_comm]

theorem register_eq_ok_iff : c.register t = .ok (c', stored) ↔ c.types.contains t.id = false ∧
    c.complete t = .ok stored ∧ c' = ⟨c.types.insert t.id stored⟩ := by
  unfold register
  cases hnew : c.types.contains t.id with
  | true => simp
  | false =>
    cases hstored : c.complete t with
    | error fault => simp [Except.map]
    | ok d =>
      simp only [Except.map, Except.ok.injEq, Prod.mk.injEq, true_and, Bool.false_eq_true, if_false]
      constructor
      · rintro ⟨rfl, rfl⟩
        exact ⟨rfl, rfl⟩
      · rintro ⟨rfl, rfl⟩
        exact ⟨rfl, rfl⟩

/-- A type can be registered if its id is new and its parent is registered. -/
theorem exists_register_eq_ok_iff : (∃ registered, c.register t = .ok registered) ↔
    t.id ∉ c.typeIds ∧ ∀ p ∈ t.parentId, p ∈ c.typeIds := by
  constructor
  · rintro ⟨⟨c', stored⟩, h⟩
    obtain ⟨hnew, -, -, -, hknown⟩ := register_eq_ok h
    exact ⟨OrderedMap.contains_eq_false_iff.1 hnew, hknown⟩
  · rintro ⟨hnew, hknown⟩
    obtain ⟨stored, hstored⟩ : ∃ stored, c.complete t = .ok stored := by
      cases hp : t.parentId with
      | none => exact ⟨_, complete_eq_ok_iff.2 (.inl ⟨hp, rfl⟩)⟩
      | some p =>
        obtain ⟨parent, hparent⟩ := mem_typeIds_iff.1 (hknown p hp)
        exact ⟨_, complete_eq_ok_iff.2 (.inr ⟨p, parent, hp, hparent, rfl⟩)⟩
    exact ⟨(_, stored), register_eq_ok_iff.2
      ⟨OrderedMap.contains_eq_false_iff.2 hnew, hstored, rfl⟩⟩

theorem lookup?_register (h : c.register t = .ok (c', stored)) (id : String) :
    c'.lookup? id = if t.id = id then some stored else c.lookup? id := by
  obtain ⟨-, -, rfl⟩ := register_eq_ok_iff.1 h
  exact OrderedMap.get?_insert ..

/-- A type that is registered stays as it is. -/
theorem lookup?_of_register (h : c.register t = .ok (c', stored)) {id : String}
    {d : TypeDefinition} (hd : c.lookup? id = some d) : c'.lookup? id = some d := by
  obtain ⟨hnew, -, -⟩ := register_eq_ok_iff.1 h
  have hne : t.id ≠ id := by
    rintro rfl
    exact OrderedMap.contains_eq_false_iff.1 hnew (mem_typeIds_iff.2 ⟨d, hd⟩)
  rw [lookup?_register h, if_neg hne, hd]

/-- The types that are there stay as they are, in front of the new one. -/
theorem entries_isPrefix_register (h : c.register t = .ok (c', stored)) :
    c.types.entries <+: c'.types.entries := by
  obtain ⟨hnew, -, rfl⟩ := register_eq_ok_iff.1 h
  rw [OrderedMap.entries_insert_of_contains_eq_false hnew]
  exact List.prefix_append _ _

theorem registerAll_cons_of_base (h : (BaseType.ofId? t.id).isSome = true) :
    c.registerAll (t :: types) = c.registerAll types := by
  simp only [registerAll, List.foldlM_cons, h, if_true]
  rfl

theorem registerAll_cons (h : (BaseType.ofId? t.id).isSome = false) :
    c.registerAll (t :: types) = (c.register t).bind fun r => r.1.registerAll types := by
  simp only [registerAll, List.foldlM_cons, h, Bool.false_eq_true, if_false]
  cases c.register t <;> rfl

theorem registerAll_append (before after : List TypeDefinition) :
    c.registerAll (before ++ after) =
      (c.registerAll before).bind fun c' => c'.registerAll after := List.foldlM_append

/-- All types have names for their properties, and extend their parents. -/
structure Inherits (c : Catalog) : Prop where
  named : ∀ id t, c.lookup? id = some t → t.IsNamed
  parents : ∀ id t p parent, c.lookup? id = some t → t.parentId = some p →
    c.lookup? p = some parent → t.Extends parent

theorem inherits_base : base.Inherits where
  named id t h := by
    have hnamed : ∀ entry ∈ base.types.entries, ∀ p ∈ entry.2.properties, p.IsNamed := by decide
    exact hnamed _ (OrderedMap.mem_entries_of_get? h)
  parents id t p _ h hp := by
    have hroots : ∀ entry ∈ base.types.entries, entry.2.parentId = none := by decide
    rw [hroots _ (OrderedMap.mem_entries_of_get? h)] at hp
    cases hp

/-- What is stored of a type is named, and extends the parent. -/
theorem Inherits.complete (h : c.Inherits) (hstored : c.complete t = .ok stored) :
    stored.IsNamed ∧ ∀ p parent, stored.parentId = some p → c.lookup? p = some parent →
      stored.Extends parent := by
  obtain ⟨hroot, rfl⟩ | ⟨p, parent, hp, hparent, rfl⟩ := complete_eq_ok_iff.1 hstored
  · refine ⟨t.isNamed_named, fun p parent hp => ?_⟩
    exact absurd (hroot.symm.trans hp) nofun
  · refine ⟨TypeDefinition.isNamed_inherit t.isNamed_named (h.named p parent hparent), ?_⟩
    intro p' parent' hp' hparent'
    obtain rfl : p = p' := Option.some.inj (hp.symm.trans hp')
    obtain rfl : parent = parent' := Option.some.inj (hparent.symm.trans hparent')
    exact TypeDefinition.extends_inherit ..

theorem Inherits.register (hc : c.Grounded) (h : c.Inherits)
    (hreg : c.register t = .ok (c', stored)) : c'.Inherits := by
  obtain ⟨-, hstored, -⟩ := register_eq_ok_iff.1 hreg
  obtain ⟨hnew, -, -, hparent, hknown⟩ := register_eq_ok hreg
  obtain ⟨hnamed, hextends⟩ := h.complete hstored
  refine ⟨fun id d hd => ?_, fun id d p parent hd hp hlookup => ?_⟩
  · rw [lookup?_register hreg] at hd
    split at hd
    · cases hd
      exact hnamed
    · exact h.named id d hd
  · rw [lookup?_register hreg] at hd
    -- the parent of a type that is registered is not the new one
    have hold : ∀ {id : String}, id ∈ c.typeIds → c'.lookup? id = c.lookup? id := by
      intro id hid
      obtain ⟨d, hd⟩ := mem_typeIds_iff.1 hid
      rw [lookup?_of_register hreg hd, hd]
    split at hd
    · cases hd
      rw [hold (hknown p (hparent ▸ hp))] at hlookup
      exact hextends p parent hp hlookup
    · have hstands : c.parent? id = some p := by
        rw [parent?, hd, Option.bind_some, hp]
      rw [hold (hc.mem_typeIds_of_parent? hstands)] at hlookup
      exact h.parents id d p parent hd hp hlookup

theorem Reachable.inherits (h : c.Reachable) : c.Inherits := by
  induction h with
  | base => exact inherits_base
  | register hc hreg ih => exact ih.register hc.grounded hreg

theorem Reachable.nodup_typeIds (h : c.Reachable) : c.typeIds.Nodup := by
  induction h with
  | base => decide
  | register _ hreg ih =>
    obtain ⟨hnew, -, rfl⟩ := register_eq_ok_iff.1 hreg
    exact OrderedMap.nodup_keys_insert hnew ih _

/-- A type that is stored would be stored as it is. -/
theorem Inherits.complete_stored (h : c.Inherits) (hstored : c.complete t = .ok stored) :
    c.complete stored = .ok stored := by
  obtain ⟨hnamed, hextends⟩ := h.complete hstored
  rw [complete_eq_ok_iff, TypeDefinition.named_eq_self hnamed]
  obtain ⟨hroot, rfl⟩ | ⟨p, parent, hp, hparent, rfl⟩ := complete_eq_ok_iff.1 hstored
  · exact .inl ⟨hroot, rfl⟩
  · exact .inr ⟨p, parent, hp, hparent,
      (TypeDefinition.inherit_eq_self (hextends p parent hp hparent)).symm⟩

end Catalog

end ContentQuery
