import ContentQuery.Proofs.Catalog.Inheritance
import Mathlib.Data.List.Nodup

/-!
# The definition that a query name has in a type

A type is stored with all that it inherits, and a query name is looked up in this one list.
`Catalog.BuiltFrom` says with which definitions the types of a catalog were registered.
`BuiltFrom.property?_eq`: a lookup in a type goes through the properties of its own, and then on to
the parent. So what it finds is the definition of the nearest type on the way up that has one
(`nearest_definition_wins`).
-/

set_option autoImplicit false

namespace ContentQuery

/-- The properties of a type are looked up before those that it inherits. -/
theorem TypeDefinition.property?_inherit (t parent : TypeDefinition) (queryName : String) :
    (t.inherit parent).property? queryName =
      (t.property? queryName).or (parent.property? queryName) := by
  have hproperties : (t.inherit parent).properties =
      (parent.properties.filter fun p => !t.properties.any (·.queryName == p.queryName)) ++
        t.properties := rfl
  rw [property?, hproperties, List.find?_append]
  cases hown : t.property? queryName with
  | none =>
    have hkeeps : (parent.properties.filter fun p =>
        !t.properties.any (·.queryName == p.queryName)).find? (·.queryName == queryName) =
        parent.property? queryName := by
      rw [List.find?_filter, property?]
      congr 1
      funext p
      by_cases hp : p.queryName = queryName
      · subst hp
        have hany : t.properties.any (·.queryName == p.queryName) = false :=
          List.any_eq_false.2 (List.find?_eq_none.1 hown)
        simp [hany]
      · simp [hp]
    rw [hkeeps]
    exact (congrArg _ hown).trans Option.or_none
  | some own =>
    -- the inherited ones stand in front, but those of the name are left out
    have hhides : (parent.properties.filter fun p =>
        !t.properties.any (·.queryName == p.queryName)).find? (·.queryName == queryName) =
        none := by
      refine List.find?_eq_none.2 fun p hp hname => ?_
      obtain ⟨-, hnot⟩ := List.mem_filter.1 hp
      rw [beq_iff_eq.1 hname, Bool.not_eq_true', List.any_eq_false] at hnot
      have hfound : t.properties.find? (·.queryName == queryName) = some own := hown
      exact hnot own (List.mem_of_find?_eq_some hfound) (by simpa using List.find?_some hfound)
    rw [hhides]
    exact hown

namespace Catalog

variable {c c' : Catalog} {registered : List TypeDefinition} {t d stored : TypeDefinition}
  {queryName : String} {p : PropertyDefinition}

/-- The property that a query name stands for in a registered type. -/
def property? (c : Catalog) (id queryName : String) : Option PropertyDefinition :=
  (c.lookup? id).bind (·.property? queryName)

/-- A catalog with the definitions that its types were registered with, in this order. The base
types are there from the start. -/
inductive BuiltFrom : Catalog → List TypeDefinition → Prop
  | base : BuiltFrom base (BaseType.all.map (·.definition))
  | register {c c' : Catalog} {registered : List TypeDefinition} {t stored : TypeDefinition} :
      BuiltFrom c registered → c.register t = .ok (c', stored) → BuiltFrom c' (registered ++ [t])

theorem Reachable.exists_builtFrom (h : c.Reachable) : ∃ registered, c.BuiltFrom registered := by
  induction h with
  | base => exact ⟨_, .base⟩
  | register _ hreg ih =>
    obtain ⟨registered, hbuilt⟩ := ih
    exact ⟨_, hbuilt.register hreg⟩

/-- Registrations do not change what a type is stored as. -/
theorem complete_of_register (h : c.register t = .ok (c', stored)) {definition : TypeDefinition}
    (hd : c.complete definition = .ok d) : c'.complete definition = .ok d := by
  obtain hroot | ⟨p, parent, hp, hparent, rfl⟩ := complete_eq_ok_iff.1 hd
  · exact complete_eq_ok_iff.2 (.inl hroot)
  · exact complete_eq_ok_iff.2 (.inr ⟨p, parent, hp, lookup?_of_register h hparent, rfl⟩)

namespace BuiltFrom

theorem reachable (h : c.BuiltFrom registered) : c.Reachable := by
  induction h with
  | base => exact .base
  | register _ hreg ih => exact ih.register hreg

theorem typeIds_eq (h : c.BuiltFrom registered) : c.typeIds = registered.map (·.id) := by
  induction h with
  | base => decide
  | register _ hreg ih =>
    obtain ⟨hnew, -, rfl⟩ := register_eq_ok_iff.1 hreg
    rw [List.map_append, ← ih]
    exact OrderedMap.keys_insert_of_contains_eq_false hnew _

theorem registerAll {types : List TypeDefinition} (h : c.BuiltFrom registered)
    (hnew : ∀ t ∈ types, (BaseType.ofId? t.id).isSome = false)
    (hrun : c.registerAll types = .ok c') : c'.BuiltFrom (registered ++ types) := by
  induction types generalizing c registered with
  | nil =>
    cases hrun
    rwa [List.append_nil]
  | cons t types ih =>
    rw [registerAll_cons (hnew t List.mem_cons_self)] at hrun
    cases hreg : c.register t with
    | error fault =>
      rw [hreg] at hrun
      cases hrun
    | ok r =>
      rw [hreg] at hrun
      rw [List.append_cons]
      exact ih (h.register hreg) (fun t ht => hnew t (List.mem_cons_of_mem _ ht)) hrun

/-- Every type is stored as its definition is completed. -/
theorem exists_lookup? (h : c.BuiltFrom registered) (ht : t ∈ registered) :
    ∃ stored, c.complete t = .ok stored ∧ c.lookup? t.id = some stored := by
  induction h with
  | base =>
    have hbase : ∀ t ∈ BaseType.all.map (·.definition),
        t.parentId = none ∧ Catalog.base.lookup? t.id = some t.named := by decide
    obtain ⟨hroot, hlookup⟩ := hbase t ht
    exact ⟨_, complete_eq_ok_iff.2 (.inl ⟨hroot, rfl⟩), hlookup⟩
  | register hbuilt hreg ih =>
    rcases List.mem_append.1 ht with ht | ht
    · obtain ⟨stored, hstored, hlookup⟩ := ih ht
      exact ⟨stored, complete_of_register hreg hstored, lookup?_of_register hreg hlookup⟩
    · obtain rfl := List.mem_singleton.1 ht
      obtain ⟨-, hstored, -⟩ := register_eq_ok_iff.1 hreg
      refine ⟨_, complete_of_register hreg hstored, ?_⟩
      rw [lookup?_register hreg, if_pos rfl]

variable (h : c.BuiltFrom registered) (ht : t ∈ registered)
include h ht

theorem parent?_eq : c.parent? t.id = t.parentId := by
  obtain ⟨stored, hstored, hlookup⟩ := h.exists_lookup? ht
  rw [parent?, hlookup, Option.bind_some]
  obtain ⟨-, rfl⟩ | ⟨-, -, -, -, rfl⟩ := complete_eq_ok_iff.1 hstored
  · rfl
  · rfl

/-- **A lookup goes through the properties of a type, and then on to the parent.** -/
theorem property?_eq (queryName : String) : c.property? t.id queryName =
    (t.named.property? queryName).or (t.parentId.bind (c.property? · queryName)) := by
  obtain ⟨stored, hstored, hlookup⟩ := h.exists_lookup? ht
  rw [property?, hlookup, Option.bind_some]
  obtain ⟨hroot, rfl⟩ | ⟨parentId, parent, hp, hparent, rfl⟩ := complete_eq_ok_iff.1 hstored
  · rw [hroot, Option.bind_none, Option.or_none]
  · rw [TypeDefinition.property?_inherit, hp, Option.bind_some, property?, hparent,
      Option.bind_some]

theorem eq_of_id_eq {other : TypeDefinition} (hother : other ∈ registered)
    (hid : other.id = t.id) : other = t := by
  have hnodup := h.reachable.nodup_typeIds
  rw [h.typeIds_eq] at hnodup
  exact List.inj_on_of_nodup_map hnodup hother ht hid

end BuiltFrom

/-! ## The nearest definition -/

/-- A type that is above another one defines a query name, and no type on the way up to it does. -/
def NearestDefinition (c : Catalog) (registered : List TypeDefinition) (id queryName : String)
    (p : PropertyDefinition) : Prop :=
  ∃ n, ∃ own ∈ registered, c.above n id = some own.id ∧ own.named.property? queryName = some p ∧
    ∀ m < n, ∀ nearer ∈ registered, c.above m id = some nearer.id →
      nearer.named.property? queryName = none

namespace BuiltFrom

variable (h : c.BuiltFrom registered) (ht : t ∈ registered)
include h ht

/-- The parent of a type is registered, before the type. -/
theorem exists_parent {parentId : String} (hp : t.parentId = some parentId) :
    ∃ parent ∈ registered, parent.id = parentId ∧
      c.typeIds.idxOf parentId < c.typeIds.idxOf t.id := by
  have hparent : c.parent? t.id = some parentId := (h.parent?_eq ht).trans hp
  have hgrounded := h.reachable.grounded
  have hmem := hgrounded.mem_typeIds_of_parent? hparent
  rw [h.typeIds_eq] at hmem
  obtain ⟨parent, hmem, hid⟩ := List.mem_map.1 hmem
  exact ⟨parent, hmem, hid, hgrounded.parents _ _ hparent⟩

/-- The nearest definition is one of the type itself, or else the nearest one to its parent. -/
theorem nearestDefinition_iff : c.NearestDefinition registered t.id queryName p ↔
    t.named.property? queryName = some p ∨ t.named.property? queryName = none ∧
      ∃ parentId, t.parentId = some parentId ∧
        c.NearestDefinition registered parentId queryName p := by
  have hparent? := h.parent?_eq ht
  constructor
  · rintro ⟨n, own, hmem, habove, hown, hnearer⟩
    cases n with
    | zero =>
      obtain rfl := h.eq_of_id_eq ht hmem (Option.some.inj habove).symm
      exact .inl hown
    | succ n =>
      refine .inr ⟨hnearer 0 (Nat.succ_pos n) t ht rfl, ?_⟩
      obtain ⟨parentId, hparent, habove⟩ := above_succ.1 habove
      refine ⟨parentId, hparent?.symm.trans hparent, n, own, hmem, habove, hown, ?_⟩
      intro m hm nearer hnear hway
      exact hnearer (m + 1) (Nat.succ_lt_succ hm) nearer hnear (above_succ.2 ⟨_, hparent, hway⟩)
  · rintro (hown | ⟨hnone, parentId, hp, n, own, hmem, habove, hown, hnearer⟩)
    · exact ⟨0, t, ht, rfl, hown, fun m hm => absurd hm (Nat.not_lt_zero m)⟩
    · have hparent := hparent?.trans hp
      refine ⟨n + 1, own, hmem, above_succ.2 ⟨parentId, hparent, habove⟩, hown, ?_⟩
      intro m hm nearer hnear hway
      cases m with
      | zero =>
        obtain rfl := h.eq_of_id_eq ht hnear (Option.some.inj hway).symm
        exact hnone
      | succ m =>
        obtain ⟨_, hparent', hway⟩ := above_succ.1 hway
        cases hparent.symm.trans hparent'
        exact hnearer m (Nat.lt_of_succ_lt_succ hm) nearer hnear hway

/-- A lookup finds the nearest definition. -/
theorem property?_eq_some_iff : c.property? t.id queryName = some p ↔
    c.NearestDefinition registered t.id queryName p := by
  -- by induction on the place of the type in the catalog, which is behind that of its parent
  induction hk : c.typeIds.idxOf t.id using Nat.strongRecOn generalizing t with
  | _ k ih =>
  rw [h.property?_eq ht, h.nearestDefinition_iff ht, Option.or_eq_some_iff,
    Option.bind_eq_some_iff]
  refine or_congr_right (and_congr_right fun _ => exists_congr fun parentId =>
    and_congr_right fun hp => ?_)
  obtain ⟨parent, hmem, rfl, hbefore⟩ := h.exists_parent ht hp
  exact ih _ (hk ▸ hbefore) hmem rfl

end BuiltFrom

/-- **The nearest definition wins.** In every catalog that registrations build, whatever they have
registered, a query name in a type stands for the first property of this name that the type was
registered with, where a property without a name has its id for one. If there is none, it stands
for the same as in the parent, and for nothing in a type without a parent. So it stands for what
the nearest type above defines, and for nothing else. -/
theorem nearest_definition_wins (h : c.Reachable) :
    (∃ registered, c.BuiltFrom registered) ∧
    ∀ registered, c.BuiltFrom registered → c.typeIds = registered.map (·.id) ∧
      ∀ t ∈ registered, c.parent? t.id = t.parentId ∧ ∀ queryName,
        c.property? t.id queryName =
          ((t.properties.map PropertyDefinition.named).find? (·.queryName == queryName)).or
            (t.parentId.bind (c.property? · queryName)) ∧
        ∀ p, c.property? t.id queryName = some p ↔
          c.NearestDefinition registered t.id queryName p := by
  refine ⟨h.exists_builtFrom, fun registered hbuilt => ⟨hbuilt.typeIds_eq, fun t ht => ?_⟩⟩
  refine ⟨hbuilt.parent?_eq ht, fun queryName => ⟨hbuilt.property?_eq ht queryName, fun p => ?_⟩⟩
  exact hbuilt.property?_eq_some_iff ht

/-- A type with two properties of one query name, and with one that has none. -/
def work : TypeDefinition :=
  { TypeDefinition.bare "Work" "cmis:document" with
    properties := [{ PropertyDefinition.single "work:title" .string with queryName := "title" },
      { PropertyDefinition.single "work:subtitle" .string with queryName := "title" },
      { PropertyDefinition.single "work:pages" .integer with queryName := "" }] }

/-- A type that defines one of them again. -/
def novel : TypeDefinition :=
  { TypeDefinition.bare "Novel" "Book" with
    properties := [{ PropertyDefinition.single "novel:title" .string with queryName := "title" }] }

/-- The two with a type between them. -/
def works : List TypeDefinition := [work, .bare "Book" "Work", novel]

/-- A novel has its own title, and the property that has its id for a query name from two
generations above. -/
theorem nearest_definition_wins_works : ∃ c, base.registerAll works = .ok c ∧ c.Reachable ∧
    (c.property? "Novel" "title").map (·.id) = some "novel:title" ∧
    (c.property? "Novel" "work:pages").map (·.id) = some "work:pages" := by
  have hcheck : ((base.registerAll works).toOption.any fun c =>
      decide (c.above 1 "Novel" = some "Book" ∧ c.above 2 "Novel" = some "Work")) = true := by
    decide
  obtain ⟨c, hc, hcheck⟩ := exists_of_any_toOption hcheck
  obtain ⟨hbook, hwork⟩ := of_decide_eq_true hcheck
  have hbuilt := BuiltFrom.base.registerAll (by decide) hc
  have hmem : ∀ t ∈ works, t ∈ BaseType.all.map (·.definition) ++ works :=
    fun t => List.mem_append_right _
  refine ⟨c, hc, hbuilt.reachable, ?_⟩
  obtain ⟨-, htypes⟩ := nearest_definition_wins hbuilt.reachable
  obtain ⟨-, htypes⟩ := htypes _ hbuilt
  obtain ⟨-, hnovel⟩ := htypes novel (hmem _ (by decide))
  obtain ⟨htitle, -⟩ := hnovel "title"
  obtain ⟨-, hpages⟩ := hnovel "work:pages"
  constructor
  · exact congrArg _ htitle
  · refine congrArg _ ((hpages (.single "work:pages" .integer)).2
      ⟨2, work, hmem _ (by decide), hwork, by decide, fun m hm => ?_⟩)
    have hnone : ∀ id ∈ ["Novel", "Book"], ∀ nearer ∈ BaseType.all.map (·.definition) ++ works,
        some id = some nearer.id → nearer.named.property? "work:pages" = none := by decide
    obtain rfl | rfl : m = 0 ∨ m = 1 := by omega
    · exact hnone "Novel" List.mem_cons_self
    · have hway : c.above 1 novel.id = some "Book" := hbook
      rw [hway]
      exact hnone "Book" (List.mem_cons_of_mem _ List.mem_cons_self)

end Catalog

end ContentQuery
