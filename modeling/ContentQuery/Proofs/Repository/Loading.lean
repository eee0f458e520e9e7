import ContentQuery.Proofs.Couplings
import ContentQuery.Proofs.Execution.Outcome
import ContentQuery.Proofs.Repository.Inserts

/-!
# What a fixture loads

Every entry of a fixture becomes one object, in the order of the entries (`loads_of_ofJson`). The
object stores what the entry gives under the very names that the entry uses, converted to the kind
that its type declares for the name, and besides what insertion adds (`Entry.stored?`). Queries read
a property under its id (`columns_read_by_id`), so that a value that is given under a query name
other than the id is not seen (`value_under_query_name_unseen`). `loaded_kinds` says of what kind
the values are, and `redefinition_leaves_kind` why this need not be the kind of each definition.
-/

set_option autoImplicit false

namespace ContentQuery

/-! ## Entries -/

/-- A map whose values are computed one after another has the results under the same keys. -/
theorem OrderedMap.get?_of_mapM {ε κ α β : Type} [DecidableEq κ] {f : κ → α → Except ε β}
    {entries : List (κ × α)} {results : List (κ × β)}
    (h : (entries.mapM fun (key, a) => do pure (key, ← f key a)) = .ok results) (key : κ) :
    (⟨results⟩ : OrderedMap κ β).get? key =
      ((⟨entries⟩ : OrderedMap κ α).get? key).bind fun a => (f key a).toOption := by
  induction entries generalizing results with
  | nil =>
    cases h
    rfl
  | cons entry entries ih =>
    rw [List.mapM_cons] at h
    obtain ⟨result, hresult, h⟩ := exists_of_bind_eq_ok h
    obtain ⟨rest, hrest, h⟩ := exists_of_bind_eq_ok h
    obtain ⟨b, hb, hresult⟩ := exists_of_bind_eq_ok hresult
    cases h
    cases hresult
    by_cases hkey : entry.1 = key
    · subst hkey
      simp [get?, hb]
    · have hnext := ih hrest
      simp only [get?] at hnext ⊢
      simpa [hkey] using hnext

namespace Fixture

/-- What an entry gives under a name, converted to the kind that a type declares for the name. -/
def Entry.given? (entry : Entry) (t : TypeDefinition) (name : String) : Option PropertyValue :=
  (entry.properties.get? name).bind fun j =>
    (propertyOfJson name (declaredKind? t name) j).toOption

/-- What the object of an entry stores: the ids of the object and its type, what the entry gives,
and the id of the parent unless the entry gives something in its place. -/
def Entry.stored? (entry : Entry) (t : TypeDefinition) (key : String) : Option PropertyValue :=
  if key = objectIdProperty then some (.single (.id entry.id))
  else if key = objectTypeIdProperty then some (.single (.id entry.typeId))
  else if key = parentIdProperty then
    (entry.given? t key).or (entry.parentId.map fun p => .single (.id p))
  else entry.given? t key

/-- The object that is stored for an entry. All that the entry gives can be converted. -/
structure Entry.LoadedAs (entry : Entry) (t : TypeDefinition) (o : ContentObject) : Prop where
  id : o.id = entry.id
  typeId : o.typeId = entry.typeId
  parentId : o.parentId = entry.parentId
  content : o.content = entry.content
  property? : ∀ key, o.property? key = entry.stored? t key
  converts : ∀ name j, (name, j) ∈ entry.properties.entries →
    ∃ value, propertyOfJson name (declaredKind? t name) j = .ok value

variable {catalog : Catalog} {repository : Repository} {entry : Entry} {o : ContentObject}

theorem loadedAs_of_objectOf (h : objectOf catalog entry = .ok o) :
    ∃ t, catalog.lookup? entry.typeId = some t ∧ entry.LoadedAs t o.withSystemProperties := by
  unfold objectOf at h
  cases ht : catalog.lookup? entry.typeId with
  | none =>
    rw [ht] at h
    cases h
  | some t =>
    rw [ht] at h
    obtain ⟨properties, hproperties, h⟩ := exists_of_bind_eq_ok h
    cases h
    have hgiven : ∀ key, (⟨properties⟩ : OrderedMap String PropertyValue).get? key =
        entry.given? t key := OrderedMap.get?_of_mapM hproperties
    refine ⟨t, rfl, rfl, rfl, rfl, rfl, fun key => ?_, fun name j hmem => ?_⟩
    · have hstored := ContentObject.storedAs_withSystemProperties
        ⟨entry.id, entry.typeId, entry.parentId, ⟨properties⟩, entry.content⟩
      unfold Entry.stored?
      split
      · rename_i hkey
        rw [hkey]
        exact hstored.objectIdProperty
      split
      · rename_i hkey
        rw [hkey]
        exact hstored.objectTypeIdProperty
      split
      · rename_i hkey
        rw [hkey, ContentObject.property?_parentIdProperty, ← hgiven]
        rfl
      · rename_i hid htype hparent
        rw [hstored.others key hid htype hparent, ← hgiven]
        rfl
    · obtain ⟨result, hresult⟩ := mapM_eq_ok hproperties _ hmem
      obtain ⟨value, hvalue, -⟩ := exists_of_bind_eq_ok hresult
      exact ⟨value, hvalue⟩

/-! ## Files -/

/-- The step by which a fixture adds the object of an entry. -/
def addEntry (catalog : Catalog) (r : Repository) (entry : Entry) :
    Except QueryError Repository := do
  let (r, _) ← r.insert (← objectOf catalog entry)
  pure r

/-- One object of each entry is put behind those that are there. -/
theorem loads_entries {entries : List Entry} {r : Repository}
    (h : entries.foldlM (addEntry catalog) r = .ok repository) :
    ∃ loaded, repository.objects.values = r.objects.values ++ loaded ∧
      List.Forall₂ (fun entry o => ∃ t, catalog.lookup? entry.typeId = some t ∧
        entry.LoadedAs t o) entries loaded := by
  induction entries generalizing r with
  | nil =>
    cases h
    exact ⟨[], (List.append_nil _).symm, .nil⟩
  | cons entry entries ih =>
    rw [List.foldlM_cons] at h
    obtain ⟨next, hstep, hrest⟩ := exists_of_bind_eq_ok h
    obtain ⟨o, ho, hstep⟩ := exists_of_bind_eq_ok hstep
    obtain ⟨⟨r', stored⟩, hinsert, hstep⟩ := exists_of_bind_eq_ok hstep
    cases hstep
    obtain ⟨loaded, hvalues, hloaded⟩ := ih hrest
    refine ⟨stored :: loaded, ?_, .cons ?_ hloaded⟩
    · rw [hvalues, Repository.values_insert hinsert, List.append_assoc, List.singleton_append]
    · obtain ⟨-, rfl, -⟩ := Repository.insert_eq_ok_iff.1 hinsert
      exact loadedAs_of_objectOf ho

/-- A fixture that loads has a file, whose types make the catalog and whose entries are stored one
after another, each as one object under its id. -/
theorem loads_of_ofJson {caseSensitiveText : Bool} {j : Json}
    (h : ofJson caseSensitiveText j = .ok (catalog, repository)) :
    ∃ file, File.ofJson? j = some file ∧ Catalog.base.registerAll file.types = .ok catalog ∧
      List.Forall₂ (fun entry o => ∃ t, catalog.lookup? entry.typeId = some t ∧
        repository.get? entry.id = some o ∧ entry.LoadedAs t o)
        file.entries repository.objects.values := by
  have hkeyed := keyed_of_ofJson h
  unfold ofJson at h
  cases hfile : File.ofJson? j with
  | none =>
    rw [hfile] at h
    cases h
  | some file =>
    rw [hfile] at h
    obtain ⟨loaded, hcatalog, h⟩ := exists_of_bind_eq_ok h
    obtain ⟨r, hrun, h⟩ := exists_of_bind_eq_ok h
    cases h
    obtain ⟨objects, hvalues, hobjects⟩ := loads_entries hrun
    obtain rfl : objects = _ := hvalues.symm
    -- each object is found under its own id, which is that of its entry
    have hfound := (List.forall₂_and_left _ _).2
      ⟨fun o (ho : o ∈ repository.objects.values) => hkeyed.get?_id ho, hobjects.flip⟩
    refine ⟨file, rfl, hcatalog, hfound.flip.imp fun entry o ⟨hget, t, ht, hloaded⟩ => ?_⟩
    exact ⟨t, ht, hloaded.id ▸ hget, hloaded⟩

/-! ## Columns -/

/-- The properties that insertion fills in. -/
def filledIn : List String := [objectIdProperty, objectTypeIdProperty, parentIdProperty]

theorem Entry.stored?_of_not_filledIn {key : String} (h : key ∉ filledIn) (entry : Entry)
    (t : TypeDefinition) : entry.stored? t key = entry.given? t key := by
  simp only [filledIn, List.mem_cons, List.not_mem_nil, or_false, not_or] at h
  rw [Entry.stored?, if_neg h.1, if_neg h.2.1, if_neg h.2.2]

/-- **What a column reads of a loaded object.** For every fixture that loads and each of its
entries, a column that stands for a property reads, in WHERE, in ORDER BY and in the SELECT list,
what the object of the entry stores under the id of the property. Insertion apart, this is what the
entry gives under the id: nothing if it gives nothing there, even if it gives a value under the
query name, and the converted value if the query name is the id. -/
theorem columns_read_by_id {caseSensitiveText : Bool} {j : Json}
    (h : ofJson caseSensitiveText j = .ok (catalog, repository)) :
    ∃ file, File.ofJson? j = some file ∧ ∀ entry ∈ file.entries, ∃ t o,
      catalog.lookup? entry.typeId = some t ∧ repository.get? entry.id = some o ∧
      ∀ (m : Type → Type) [Monad m] (e : Evaluator m) (row : Row) (id : SelectorId)
        (aliasName : String) (p : PropertyDefinition),
        e.bound.property? id = some (aliasName, p) → row.get? aliasName = some o →
        (e.storedProperty? row id = entry.stored? t p.id ∧
          e.selectorValue id row = pure (entry.stored? t p.id) ∧
          ∀ heading, Execution.cell e row ⟨heading, .property aliasName p.id⟩ =
            pure (entry.stored? t p.id, false)) ∧
        (p.id ∉ filledIn → entry.properties.get? p.id = none → e.storedProperty? row id = none) ∧
        (p.id ∉ filledIn → p.queryName = p.id → ∀ given,
          entry.properties.get? p.queryName = some given →
          ∃ value, propertyOfJson p.queryName (declaredKind? t p.queryName) given = .ok value ∧
            e.storedProperty? row id = some value) := by
  obtain ⟨file, hfile, -, hloaded⟩ := loads_of_ofJson h
  refine ⟨file, hfile, fun entry hentry => ?_⟩
  obtain ⟨o, -, t, ht, hget, hstored⟩ := exists_of_forall₂ hloaded entry hentry
  refine ⟨t, o, ht, hget, fun m _ e row id aliasName p hcolumn hrow => ?_⟩
  have hread : e.storedProperty? row id = entry.stored? t p.id := by
    rw [← hstored.property? p.id]
    simp [Evaluator.storedProperty?, hcolumn, hrow]
  refine ⟨⟨hread, ?_, fun heading => ?_⟩, fun hown hnone => ?_, fun hown hname given hgiven => ?_⟩
  · obtain ⟨typeId, hresolved⟩ := BoundStatement.property?_eq_some_iff.1 hcolumn
    rw [Evaluator.selectorValue, hresolved]
    simp only [hrow, Option.bind_some, hstored.property?]
  · simp only [Execution.cell, hrow, Option.bind_some, hstored.property?]
  · rw [hread, Entry.stored?_of_not_filledIn hown, Entry.given?, hnone, Option.bind_none]
  · obtain ⟨value, hvalue⟩ := hstored.converts _ _ (OrderedMap.mem_entries_of_get? hgiven)
    refine ⟨value, hvalue, ?_⟩
    rw [hread, Entry.stored?_of_not_filledIn hown, Entry.given?, ← hname, hgiven,
      Option.bind_some, hvalue]
    rfl

/-- A type with a property that has a query name of its own, and two objects to which a value is
given, to `x` under the query name and to `y` under the id. -/
def titled : Json :=
  .object [
    ("types", .array [.object [("id", .string "Book"), ("parent", .string "cmis:document"),
      ("properties", .array [.object [("id", .string "b1"), ("query_name", .string "title"),
        ("property_type", .string "string")]])]]),
    ("objects", .array [
      .object [("id", .string "x"), ("type", .string "Book"),
        ("properties", .object [("title", .string "Emma")])],
      .object [("id", .string "y"), ("type", .string "Book"),
        ("properties", .object [("b1", .string "Emma")])]])]

/-- Its entries. -/
def titledX : Entry := ⟨"x", "Book", none, .ofList [("title", .string "Emma")], none⟩
def titledY : Entry := ⟨"y", "Book", none, .ofList [("b1", .string "Emma")], none⟩

/-- The column reads nothing of `x`, and the value of `y`. -/
theorem columns_read_by_id_titled : ∃ catalog repository,
    ofJson false titled = .ok (catalog, repository) ∧ ∃ s bound,
    Statement.parse "SELECT title FROM Book" = .ok s ∧ s.bind catalog = .ok bound ∧
    ∃ x y, repository.get? "x" = some x ∧ repository.get? "y" = some y ∧
      ∀ e : Evaluator Id, e.bound = bound → e.storedProperty? (.single bound x) 0 = none ∧
        e.storedProperty? (.single bound y) 0 = some (.single (.string "Emma")) := by
  obtain ⟨⟨catalog, repository⟩, hload, hcheck⟩ :
      ∃ loaded, ofJson false titled = .ok loaded ∧
        ((Statement.parse "SELECT title FROM Book").toOption.any fun s =>
          (s.bind loaded.1).toOption.any fun bound => decide (bound.aliases = ["Book"] ∧
            bound.property? 0 = some ("Book", ⟨"b1", "title", .string, .single, true, true⟩) ∧
            (loaded.1.lookup? "Book").map (titledY.stored? · "b1") =
              some (some (.single (.string "Emma"))))) = true :=
    exists_of_any_toOption (by rw [Statement.parse_ofList]; decide +kernel)
  refine ⟨catalog, repository, hload, ?_⟩
  refine exists_bound _ hcheck fun s bound _ _ hcheck => ?_
  obtain ⟨haliases, hcolumn, hstored⟩ := of_decide_eq_true hcheck
  obtain ⟨file, hfile, hall⟩ := columns_read_by_id hload
  have hentries : file.entries = [titledX, titledY] := by
    have hread : (File.ofJson? titled).map (·.entries) = some [titledX, titledY] := rfl
    rw [hfile] at hread
    exact Option.some.inj hread
  rw [hentries] at hall
  obtain ⟨t, x, ht, hx, hreadX⟩ := hall titledX List.mem_cons_self
  obtain ⟨t', y, ht', hy, hreadY⟩ := hall titledY (by simp)
  refine ⟨x, y, hx, hy, fun e he => ?_⟩
  subst he
  have hrow : ∀ o, (Row.single e.bound o).get? "Book" = some o := by
    intro o
    rw [Row.single, haliases]
    rfl
  obtain ⟨-, hnone, -⟩ := hreadX Id e _ 0 "Book" _ hcolumn (hrow x)
  obtain ⟨⟨hvalue, -⟩, -⟩ := hreadY Id e _ 0 "Book" _ hcolumn (hrow y)
  rw [show catalog.lookup? "Book" = some t' from ht'] at hstored
  exact ⟨hnone (by decide) rfl, hvalue.trans (Option.some.inj hstored)⟩

/-- **A value under a query name is not seen.** The two objects are given the same value, and a
query shows it of one of them alone. -/
theorem value_under_query_name_unseen :
    ((ofJson false titled).toOption.bind fun loaded =>
      (Execution.query (m := Id) loaded.1 loaded.2 none {}
        "SELECT cmis:objectId, title FROM Book").run.run.toOption.map (·.rows)) =
      some [[some (.single (.id "x")), none],
        [some (.single (.id "y")), some (.single (.string "Emma"))]] := by
  have hcheck : ((ofJson false titled).toOption.any fun loaded =>
      (Statement.parse "SELECT cmis:objectId, title FROM Book").toOption.any fun s =>
        (s.bind loaded.1).toOption.any fun bound => decide
          ((Execution.execute (m := Id) loaded.1 loaded.2 none {} bound).run.run.toOption.map
            (·.rows) = some [[some (.single (.id "x")), none],
              [some (.single (.id "y")), some (.single (.string "Emma"))]])) = true := by
    rw [Statement.parse_ofList]
    decide +kernel
  obtain ⟨loaded, hload, hcheck⟩ := exists_of_any_toOption hcheck
  rw [hload, toOption_ok, Option.bind_some]
  exact Execution.query_shows _ hcheck

/-! ## Kinds -/

theorem kind_of_declaredValue? {kind : ValueKind} {j : Json} {v : Value}
    (h : declaredValue? kind j = some v) : v.kind = kind := by
  unfold declaredValue? at h
  split at h
  · cases h
    rfl
  · obtain ⟨n, -, rfl⟩ := Option.map_eq_some_iff.1 h
    rfl
  · obtain ⟨d, -, rfl⟩ := Option.map_eq_some_iff.1 h
    rfl
  · obtain ⟨d, -, rfl⟩ := Option.map_eq_some_iff.1 h
    rfl
  · cases h
    rfl
  · cases h
    rfl
  · obtain ⟨time, -, rfl⟩ := Option.map_eq_some_iff.1 h
    rfl
  · cases h

theorem kind_of_valueOfJson {name : String} {kind : ValueKind} {j : Json} {v : Value}
    (h : valueOfJson name (some kind) j = .ok v) : v.kind = kind := by
  unfold valueOfJson at h
  dsimp only at h
  split at h
  · rename_i hvalue
    cases h
    exact kind_of_declaredValue? hvalue
  · cases h

/-- Whatever is converted to a declared kind has it. -/
theorem kind_of_propertyOfJson {name : String} {kind : ValueKind} {j : Json}
    {stored : PropertyValue} (h : propertyOfJson name (some kind) j = .ok stored) :
    ∀ v ∈ stored.values, v.kind = kind := by
  intro v hv
  unfold propertyOfJson at h
  split at h
  · rename_i items
    cases hitems : items.mapM (valueOfJson name (some kind)) with
    | error fault =>
      rw [hitems] at h
      cases h
    | ok values =>
      rw [hitems] at h
      cases h
      obtain ⟨item, -, hitem⟩ := exists_of_mem_mapM hitems v hv
      exact kind_of_valueOfJson hitem
  · cases hvalue : valueOfJson name (some kind) j with
    | error fault =>
      rw [hvalue] at h
      cases h
    | ok value =>
      rw [hvalue] at h
      cases h
      obtain rfl := List.mem_singleton.1 hv
      exact kind_of_valueOfJson hvalue

theorem Entry.kind_of_given? {t : TypeDefinition} {name : String} {kind : ValueKind}
    {stored : PropertyValue} (hkind : declaredKind? t name = some kind)
    (h : entry.given? t name = some stored) : ∀ v ∈ stored.values, v.kind = kind := by
  obtain ⟨j, -, hj⟩ := Option.bind_eq_some_iff.1 h
  rw [hkind] at hj
  cases hvalue : propertyOfJson name (some kind) j with
  | error fault =>
    rw [hvalue] at hj
    cases hj
  | ok value =>
    rw [hvalue] at hj
    cases hj
    exact kind_of_propertyOfJson hvalue

/-- **The kinds of loaded values.** For every fixture that loads, each of its objects and each
property of the object's type: what is stored under the id of the property has the declared kind,
provided that the first property of the type with this id as its id or query name declares this
kind too. The ids of the object and of its type are stored in any case, and so is that of the
parent where the entry gives nothing in its place, whatever kinds the type declares for them. -/
theorem loaded_kinds {caseSensitiveText : Bool} {j : Json}
    (h : ofJson caseSensitiveText j = .ok (catalog, repository)) :
    ∃ file, File.ofJson? j = some file ∧ ∀ o ∈ repository.objects.values,
      ∃ entry ∈ file.entries, ∃ t, catalog.lookup? o.typeId = some t ∧
      ∀ p ∈ t.properties, ∀ stored, o.property? p.id = some stored →
        (p.id = objectIdProperty → stored = .single (.id o.id)) ∧
        (p.id = objectTypeIdProperty → stored = .single (.id o.typeId)) ∧
        (p.id ≠ objectIdProperty → p.id ≠ objectTypeIdProperty →
          declaredKind? t p.id = some p.kind →
          (∀ v ∈ stored.values, v.kind = p.kind) ∨
            p.id = parentIdProperty ∧ entry.properties.get? p.id = none ∧
              ∃ parent, o.parentId = some parent ∧ stored = .single (.id parent)) := by
  obtain ⟨file, hfile, -, hloaded⟩ := loads_of_ofJson h
  refine ⟨file, hfile, fun o ho => ?_⟩
  obtain ⟨entry, hentry, t, ht, -, hstoredAs⟩ := exists_of_forall₂ hloaded.flip o ho
  refine ⟨entry, hentry, t, hstoredAs.typeId ▸ ht, fun p _ stored hstored => ?_⟩
  rw [hstoredAs.property?] at hstored
  refine ⟨fun hid => ?_, fun htype => ?_, fun hid htype hkind => ?_⟩
  · rw [Entry.stored?, if_pos hid] at hstored
    rw [← Option.some.inj hstored, hstoredAs.id]
  · rw [Entry.stored?, htype, if_neg (by decide), if_pos rfl] at hstored
    rw [← Option.some.inj hstored, hstoredAs.typeId]
  · rw [Entry.stored?, if_neg hid, if_neg htype] at hstored
    cases hgiven : entry.given? t p.id with
    | some given =>
      have hsame : given = stored := by
        split at hstored <;> simpa [hgiven] using hstored
      subst hsame
      exact .inl (Entry.kind_of_given? hkind hgiven)
    | none =>
      -- nothing is given, so that it is the parent which insertion adds
      rw [hgiven, Option.none_or] at hstored
      obtain ⟨hparent, hstored⟩ := Option.ite_none_right_eq_some.1 hstored
      obtain ⟨parent, hid, rfl⟩ := Option.map_eq_some_iff.1 hstored
      refine .inr ⟨hparent, ?_, parent, hstoredAs.parentId.trans hid, rfl⟩
      cases hj : entry.properties.get? p.id with
      | none => rfl
      | some j =>
        obtain ⟨value, hvalue⟩ := hstoredAs.converts _ _ (OrderedMap.mem_entries_of_get? hj)
        rw [Entry.given?, hj, Option.bind_some, hvalue] at hgiven
        cases hgiven

/-- A list of integers for an object with a parent. -/
def parcels : Json :=
  .object [
    ("types", .array [.object [("id", .string "Parcel"), ("parent", .string "cmis:folder"),
      ("properties", .array [.object [("id", .string "weights"),
        ("property_type", .string "integer"), ("cardinality", .string "multi")]])]]),
    ("objects", .array [.object [("id", .string "p"), ("type", .string "Parcel"),
      ("parent", .string "f"), ("properties", .object [("weights", .array [
        .number (.integer 3), .number (.integer 4)])])]])]

/-- All items of the list are stored as integers. -/
theorem loaded_kinds_parcels : ∃ catalog repository,
    ofJson false parcels = .ok (catalog, repository) ∧ ∃ o ∈ repository.objects.values,
      ∃ stored, o.property? "weights" = some stored ∧ stored.values.length = 2 ∧
        ∀ v ∈ stored.values, v.kind = .integer := by
  obtain ⟨⟨catalog, repository⟩, hload, hcheck⟩ :
      ∃ loaded, ofJson false parcels = .ok loaded ∧ (loaded.2.objects.values.any fun o =>
        (loaded.1.lookup? o.typeId).any fun t => (o.property? "weights").any fun stored =>
          decide (stored.values.length = 2 ∧ declaredKind? t "weights" = some .integer ∧
            ⟨"weights", "weights", .integer, .multi, true, true⟩ ∈ t.properties)) = true :=
    exists_of_any_toOption (by decide)
  simp only [List.any_eq_true, Option.any_eq_true, decide_eq_true_eq] at hcheck
  obtain ⟨o, ho, t, ht, stored, hstored, hlength, hkind, hmem⟩ := hcheck
  refine ⟨catalog, repository, hload, o, ho, stored, hstored, hlength, ?_⟩
  obtain ⟨file, -, hall⟩ := loaded_kinds hload
  obtain ⟨entry, -, t', ht', hkinds⟩ := hall o ho
  obtain rfl : t' = t := Option.some.inj (ht'.symm.trans ht)
  obtain ⟨-, -, hkinds⟩ := hkinds _ hmem stored hstored
  exact (hkinds (by decide) (by decide) hkind).resolve_right fun h => absurd h.1 (by decide)

/-- A type that declares the id of its objects to be a string, and two numbers under one id. -/
def memos : Json :=
  .object [
    ("types", .array [.object [("id", .string "Memo"), ("parent", .string "cmis:document"),
      ("properties", .array [
        .object [("id", .string "cmis:objectId"), ("property_type", .string "string")],
        .object [("id", .string "size"), ("query_name", .string "pages"),
          ("property_type", .string "integer")],
        .object [("id", .string "size"), ("query_name", .string "length"),
          ("property_type", .string "decimal")]])]]),
    ("objects", .array [.object [("id", .string "m"), ("type", .string "Memo"),
      ("properties", .object [("size", .number (.integer 3))])]])]

/-- **A value need not have the kind that a definition says.** The id of the object is stored as an
id although its type says string, and of the two properties with one id only the first has its
kind. -/
theorem redefinition_leaves_kind : ∃ catalog repository,
    ofJson false memos = .ok (catalog, repository) ∧
    ∀ key ∈ ["cmis:objectId", "size"], ∃ o ∈ repository.objects.values, ∃ t,
      catalog.lookup? o.typeId = some t ∧ ∃ p ∈ t.properties, p.id = key ∧
        ∃ stored, o.property? p.id = some stored ∧ ∃ v ∈ stored.values, v.kind ≠ p.kind := by
  obtain ⟨⟨catalog, repository⟩, hload, hcheck⟩ :
      ∃ loaded, ofJson false memos = .ok loaded ∧ (["cmis:objectId", "size"].all fun key =>
        loaded.2.objects.values.any fun o => (loaded.1.lookup? o.typeId).any fun t =>
          t.properties.any fun p => decide (p.id = key) && (o.property? p.id).any fun stored =>
            stored.values.any fun v => decide (v.kind ≠ p.kind)) = true :=
    exists_of_any_toOption (by decide)
  simp only [List.all_eq_true, List.any_eq_true, Option.any_eq_true, Bool.and_eq_true,
    decide_eq_true_eq] at hcheck
  exact ⟨catalog, repository, hload, hcheck⟩

end Fixture

end ContentQuery
