import ContentQuery.Proofs.Run
import ContentQuery.Repository.Fixture
import Mathlib.Data.List.Nodup

/-!
# Keyed repositories

A repository stores its objects under their ids. The empty repository does so trivially, insertion
keeps it so (`Repository.Keyed.insert`), and what a fixture loads is built by insertions
(`Fixture.keyed_of_ofJson`). In a keyed repository no object is found twice.
-/

set_option autoImplicit false

namespace ContentQuery

/-- Objects are stored under their ids, of which no two are the same. -/
structure Repository.Keyed (r : Repository) : Prop where
  nodup : r.objects.keys.Nodup
  ids : ∀ entry ∈ r.objects.entries, entry.2.id = entry.1

namespace Repository.Keyed

variable {r : Repository}

theorem empty (caseSensitiveText : Bool) : (Repository.empty caseSensitiveText).Keyed :=
  ⟨List.nodup_nil, fun _ h => nomatch h⟩

theorem insert {o stored : ContentObject} {r' : Repository} (h : r.Keyed)
    (hinsert : r.insert o = .ok (r', stored)) : r'.Keyed := by
  unfold Repository.insert at hinsert
  cases hnew : r.objects.contains o.id with
  | true =>
    rw [hnew] at hinsert
    cases hinsert
  | false =>
    rw [hnew] at hinsert
    cases hinsert
    refine ⟨OrderedMap.nodup_keys_insert hnew h.nodup _, fun entry hentry => ?_⟩
    rw [OrderedMap.entries_insert_of_contains_eq_false hnew] at hentry
    rcases List.mem_append.1 hentry with hentry | hentry
    · exact h.ids entry hentry
    · obtain rfl := List.mem_singleton.1 hentry
      rfl

theorem map_id_values (h : r.Keyed) : r.objects.values.map ContentObject.id = r.objects.keys := by
  rw [OrderedMap.values, OrderedMap.keys, List.map_map]
  exact List.map_congr_left h.ids

theorem nodup_values (h : r.Keyed) : r.objects.values.Nodup := by
  refine List.Nodup.of_map ContentObject.id ?_
  rw [h.map_id_values]
  exact h.nodup

/-- A keyed repository has its objects under their ids. -/
theorem get?_id (h : r.Keyed) {o : ContentObject} (ho : o ∈ r.objects.values) :
    r.get? o.id = some o := by
  obtain ⟨entry, hentry, rfl⟩ := List.mem_map.1 ho
  rw [h.ids entry hentry]
  exact OrderedMap.get?_of_mem_entries h.nodup hentry

theorem nodup_objectsOfType (h : r.Keyed) (catalog : Catalog) (typeId : String)
    (includeSubtypes : Bool) : (r.objectsOfType catalog typeId includeSubtypes).Nodup :=
  h.nodup_values.filter _

/-- The hierarchy has the parent of an object as the object has it. -/
theorem parent?_id (h : r.Keyed) {o : ContentObject} (ho : o ∈ r.objects.values) :
    r.parent? o.id = o.parentId := by
  rw [Repository.parent?, h.get?_id ho, Option.bind_some]

end Repository.Keyed

/-- The repository of a fixture is keyed. -/
theorem Fixture.keyed_of_ofJson {caseSensitiveText : Bool} {j : Json} {catalog : Catalog}
    {repository : Repository} (h : Fixture.ofJson caseSensitiveText j = .ok (catalog, repository)) :
    repository.Keyed := by
  unfold Fixture.ofJson at h
  cases hfile : File.ofJson? j with
  | none =>
    rw [hfile] at h
    cases h
  | some file =>
    rw [hfile] at h
    obtain ⟨loaded, -, h⟩ := exists_of_bind_eq_ok h
    obtain ⟨r, hrun, h⟩ := exists_of_bind_eq_ok h
    cases h
    refine foldlM_keeps (P := Repository.Keyed) (fun r entry r' hr hstep => ?_) (.empty _) hrun
    obtain ⟨object, -, hstep⟩ := exists_of_bind_eq_ok hstep
    obtain ⟨⟨next, stored⟩, hinsert, hstep⟩ := exists_of_bind_eq_ok hstep
    cases hstep
    exact hr.insert hinsert

end ContentQuery
