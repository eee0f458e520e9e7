import ContentQuery.Catalog.File
import ContentQuery.Proofs.Catalog.Inheritance
import ContentQuery.Proofs.Json.RoundTrip
import Mathlib.Data.List.Nodup

/-!
# Catalog files give back what is written

A catalog file holds the types as they are stored, with what they inherit, and reading it registers
them once more. `ofText_toText`: what is read from the text of a catalog is the catalog itself. Each
type is read again from its JSON value (`TypeDefinition.ofJson?_toJson`), and a registered type is
registered again as it is (`registerAll_userTypes`).
-/

set_option autoImplicit false

namespace ContentQuery

/-! ## Records -/

/-- An object with all fields of a record is read as the record. -/
theorem Json.record?_object {members : List (String × Json)} {names : List String}
    (hnames : members.map (·.1) = names) (h : names.Nodup) :
    (Json.object members).record? names = some ⟨members⟩ := by
  subst hnames
  have hknown : (members.filter fun m => (members.map (·.1)).contains m.1) = members :=
    List.filter_eq_self.2 fun m hm => List.contains_iff_mem.2 (List.mem_map_of_mem hm)
  have honce : ((members.map (·.1)).any fun name =>
      decide (1 < (members.filter (·.1 == name)).length)) = false := by
    refine List.any_eq_false.2 fun name _ => ?_
    have hcount := List.nodup_iff_count_le_one.1 h name
    rw [List.count, List.countP_map, List.countP_eq_length_filter] at hcount
    simpa [Function.comp_def] using hcount
  simp only [record?, hknown, honce, Bool.false_eq_true, if_false]

theorem Json.list?_map {α : Type} {read : Json → Option α} {write : α → Json}
    (h : ∀ a, read (write a) = some a) (xs : List α) :
    Json.list? read (.array (xs.map write)) = some xs := by
  have hread : (xs.map write).mapM read = some (xs.map id) := by
    rw [List.mapM_map]
    exact mapM_eq_pure fun a _ => h a
  rwa [List.map_id] at hread

theorem ValueKind.ofJson?_name (k : ValueKind) : ofJson? (.string k.name) = some k := by
  cases k <;> rfl

theorem Cardinality.ofJson?_name (c : Cardinality) : ofJson? (.string c.name) = some c := by
  cases c <;> rfl

theorem PropertyDefinition.ofJson?_toJson (p : PropertyDefinition) :
    ofJson? p.toJson = some p := by
  have hrecord : p.toJson.record? ["id", "query_name", "property_type", "cardinality", "queryable",
      "orderable"] = some ⟨_⟩ := Json.record?_object rfl (by decide)
  obtain ⟨id, queryName, kind, cardinality, queryable, orderable⟩ := p
  simp [ofJson?, hrecord, Json.Record.required?, Json.Record.optional?, Json.Record.get?,
    Json.string?, Json.bool?, ValueKind.ofJson?_name, Cardinality.ofJson?_name]

theorem TypeDefinition.ofJson?_toJson (t : TypeDefinition) : ofJson? t.toJson = some t := by
  have hrecord : t.toJson.record? ["id", "parent", "queryable", "fulltext_indexed",
      "properties"] = some ⟨_⟩ := Json.record?_object rfl (by decide)
  obtain ⟨id, parentId, queryable, fulltextIndexed, properties⟩ := t
  cases parentId <;>
    simp [ofJson?, hrecord, Json.Record.required?, Json.Record.optional?, Json.Record.get?,
      Json.string?, Json.bool?, Json.stringOrNull?,
      Json.list?_map PropertyDefinition.ofJson?_toJson]

theorem PropertyDefinition.isPlain_toJson (p : PropertyDefinition) : p.toJson.IsPlain := by
  refine .object ?_
  simp [Json.IsPlain.string, Json.IsPlain.bool]

theorem TypeDefinition.isPlain_toJson (t : TypeDefinition) : t.toJson.IsPlain := by
  refine .object ?_
  have hproperties : (Json.array (t.properties.map PropertyDefinition.toJson)).IsPlain :=
    .array (List.forall_mem_map.2 fun p _ => p.isPlain_toJson)
  obtain ⟨id, parentId, queryable, fulltextIndexed, properties⟩ := t
  cases parentId <;> simp [Json.IsPlain.null, Json.IsPlain.string, Json.IsPlain.bool, hproperties]

namespace Catalog

variable {c : Catalog}

/-- The types that a catalog file holds. -/
def userTypes (c : Catalog) : List TypeDefinition :=
  c.types.values.filter fun t => (BaseType.ofId? t.id).isNone

def toJson (c : Catalog) : Json :=
  .object [("types", .array (c.userTypes.map TypeDefinition.toJson))]

theorem toText_eq (c : Catalog) : c.toText = c.toJson.toPrettyText := rfl

theorem isPlain_toJson (c : Catalog) : c.toJson.IsPlain := by
  refine .object (List.forall_mem_singleton.2 (.array ?_))
  exact List.forall_mem_map.2 fun t _ => t.isPlain_toJson

theorem typesOfJson?_toJson (c : Catalog) : typesOfJson? c.toJson = some c.userTypes := by
  have hrecord : c.toJson.record? ["types"] = some ⟨_⟩ := Json.record?_object rfl (by decide)
  simp [typesOfJson?, hrecord, Json.Record.required?, Json.Record.get?,
    Json.list?_map TypeDefinition.ofJson?_toJson]

/-! ## Registering once more -/

theorem Reachable.base_isPrefix (h : c.Reachable) :
    Catalog.base.types.entries <+: c.types.entries := by
  induction h with
  | base => exact List.prefix_refl _
  | register _ hreg ih => exact ih.trans (entries_isPrefix_register hreg)

/-- The base types are registered. -/
theorem Reachable.mem_typeIds_of_base (h : c.Reachable) {id : String}
    (hbase : (BaseType.ofId? id).isSome = true) : id ∈ c.typeIds := by
  obtain ⟨b, hb⟩ := Option.isSome_iff_exists.1 hbase
  obtain rfl : b.id = id := by simpa using List.find?_some hb
  have hmem : b.id ∈ Catalog.base.typeIds := by cases b <;> decide
  exact (h.base_isPrefix.map (·.1)).subset hmem

theorem userTypes_base : base.userTypes = [] := by decide

/-- The types of a catalog that are not base types build it once more. -/
theorem registerAll_userTypes (h : c.Reachable) : base.registerAll c.userTypes = .ok c := by
  induction h with
  | base => rw [userTypes_base]; rfl
  | @register c c' t stored hc hreg ih =>
    obtain ⟨hnew, hstored, rfl⟩ := register_eq_ok_iff.1 hreg
    obtain ⟨-, -, hid, -⟩ := register_eq_ok hreg
    -- the type that comes last in the file is not passed over, and is completed to itself
    have hbase : (BaseType.ofId? stored.id).isSome = false := by
      rw [← Bool.not_eq_true]
      intro hbase
      exact OrderedMap.contains_eq_false_iff.1 hnew (hid ▸ hc.mem_typeIds_of_base hbase)
    have hagain : c.register stored = .ok (⟨c.types.insert t.id stored⟩, stored) := by
      rw [register_eq_ok_iff, hid]
      exact ⟨hnew, hc.inherits.complete_stored hstored, rfl⟩
    have htypes : userTypes ⟨c.types.insert t.id stored⟩ = c.userTypes ++ [stored] := by
      simp [userTypes, OrderedMap.values, OrderedMap.entries_insert_of_contains_eq_false hnew,
        Option.isSome_eq_false_iff.1 hbase]
    rw [htypes, registerAll_append, ih, Except.bind, registerAll_cons hbase, hagain]
    rfl

/-- **A catalog is read again from its text**, with all its types as they are and in their order,
whatever registrations have built it. -/
theorem ofText_toText (h : c.Reachable) : ofText c.toText = .ok c := by
  rw [toText_eq, ofText, Json.parse?_toPrettyText c.isPlain_toJson]
  dsimp only
  rw [ofJson, typesOfJson?_toJson]
  exact registerAll_userTypes h

/-- Types with quotes and control characters in their names, and one without a name. -/
def strangeTypes : List TypeDefinition :=
  [{ TypeDefinition.bare "a \"book\"" BaseType.document.id with
      properties := [{ PropertyDefinition.single "two\nlines" .string with queryName := "" },
        { PropertyDefinition.single "\x01" .integer with queryName := "cmis:name" }] },
    .bare "" "a \"book\""]

theorem ofText_toText_strange : ∃ c, base.registerAll strangeTypes = .ok c ∧ c.Reachable ∧
    c.typeIds = ["cmis:document", "cmis:folder", "a \"book\"", ""] ∧
    ofText c.toText = .ok c := by
  have hcheck : ((base.registerAll strangeTypes).toOption.any fun c =>
      c.typeIds = ["cmis:document", "cmis:folder", "a \"book\"", ""]) = true := by decide
  obtain ⟨c, hc, hcheck⟩ := exists_of_any_toOption hcheck
  have hreachable := Reachable.base.registerAll hc
  exact ⟨c, hc, hreachable, of_decide_eq_true hcheck, ofText_toText hreachable⟩

end Catalog

end ContentQuery
