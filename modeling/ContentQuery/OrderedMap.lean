/-!
# Maps in order of insertion

An `OrderedMap` lists its entries in the order in which their keys came first. Inserting under a
key that is there replaces the value in its place.
-/

set_option autoImplicit false

namespace ContentQuery

structure OrderedMap (κ α : Type) where
  entries : List (κ × α)
deriving DecidableEq, Repr

namespace OrderedMap

variable {κ α : Type}

def empty : OrderedMap κ α := ⟨[]⟩

instance : Inhabited (OrderedMap κ α) := ⟨empty⟩

def keys (m : OrderedMap κ α) : List κ := m.entries.map (·.1)

def values (m : OrderedMap κ α) : List α := m.entries.map (·.2)

def size (m : OrderedMap κ α) : Nat := m.entries.length

variable [DecidableEq κ]

def get? (m : OrderedMap κ α) (key : κ) : Option α :=
  (m.entries.find? fun e => e.1 = key).map (·.2)

def contains (m : OrderedMap κ α) (key : κ) : Bool := m.entries.any fun e => e.1 = key

/-- Replaces the first entry of a key, or adds an entry at the end. -/
def insertEntry (key : κ) (value : α) : List (κ × α) → List (κ × α)
  | [] => [(key, value)]
  | e :: rest => if e.1 = key then (key, value) :: rest else e :: insertEntry key value rest

def insert (m : OrderedMap κ α) (key : κ) (value : α) : OrderedMap κ α :=
  ⟨insertEntry key value m.entries⟩

/-- The map of a list of entries, in which later values of a key replace earlier ones. -/
def ofList (entries : List (κ × α)) : OrderedMap κ α :=
  entries.foldl (fun m e => m.insert e.1 e.2) empty

@[simp] theorem get?_empty (key : κ) : (empty : OrderedMap κ α).get? key = none := rfl

@[simp] theorem get?_insert (m : OrderedMap κ α) (key other : κ) (value : α) :
    (m.insert key value).get? other = if key = other then some value else m.get? other := by
  simp only [get?, insert]
  induction m.entries with
  | nil => by_cases h : key = other <;> simp [insertEntry, h]
  | cons e rest ih =>
    simp only [insertEntry]
    split
    · rename_i hk
      by_cases h : key = other <;> simp [hk, h]
    · rename_i hk
      by_cases ho : e.1 = other
      · have : key ≠ other := fun h => hk (ho.trans h.symm)
        simp [ho, this]
      · simpa [ho] using ih

theorem get?_foldl_insert (f : κ → α) (keys : List κ) (m : OrderedMap κ α) (key : κ) :
    ((keys.map fun k => (k, f k)).foldl (fun m e => m.insert e.1 e.2) m).get? key =
      if key ∈ keys then some (f key) else m.get? key := by
  induction keys generalizing m with
  | nil => rfl
  | cons k keys ih =>
    rw [List.map_cons, List.foldl_cons, ih, get?_insert]
    by_cases hkey : k = key
    · subst hkey
      simp
    · simp [hkey, Ne.symm hkey]

/-- A map of keys to what a function makes of them. -/
theorem get?_ofList (f : κ → α) (keys : List κ) (key : κ) :
    (ofList (keys.map fun k => (k, f k))).get? key = if key ∈ keys then some (f key) else none :=
  get?_foldl_insert f keys empty key

theorem mem_entries_of_get? {m : OrderedMap κ α} {key : κ} {value : α}
    (h : m.get? key = some value) : (key, value) ∈ m.entries := by
  obtain ⟨e, he, rfl⟩ := Option.map_eq_some_iff.1 h
  have hk : e.1 = key := by simpa using List.find?_some he
  exact hk ▸ List.mem_of_find?_eq_some he

/-- If no key is there twice, each entry is the one of its key. -/
theorem get?_of_mem_entries {m : OrderedMap κ α} (hnodup : m.keys.Nodup) {key : κ} {value : α}
    (h : (key, value) ∈ m.entries) : m.get? key = some value := by
  obtain ⟨entries⟩ := m
  simp only [keys, get?] at hnodup h ⊢
  induction entries with
  | nil => cases h
  | cons e rest ih =>
    rw [List.map_cons, List.nodup_cons] at hnodup
    rcases List.mem_cons.1 h with rfl | h
    · simp
    · have hne : ¬e.1 = key := fun he => hnodup.1 (he ▸ List.mem_map_of_mem h)
      simpa [hne] using ih hnodup.2 h

/-- A new key goes to the end. -/
theorem entries_insert_of_contains_eq_false {m : OrderedMap κ α} {key : κ}
    (h : m.contains key = false) (value : α) :
    (m.insert key value).entries = m.entries ++ [(key, value)] := by
  obtain ⟨entries⟩ := m
  simp only [contains, insert] at h ⊢
  induction entries with
  | nil => rfl
  | cons e rest ih =>
    simp only [List.any_cons, Bool.or_eq_false_iff, decide_eq_false_iff_not] at h
    simp [insertEntry, h.1, ih h.2]

theorem contains_eq_false_iff {m : OrderedMap κ α} {key : κ} :
    m.contains key = false ↔ key ∉ m.keys := by
  simp only [contains, keys, List.any_eq_false, decide_eq_true_eq, List.mem_map, not_exists,
    not_and]

theorem keys_insert_of_contains_eq_false {m : OrderedMap κ α} {key : κ}
    (h : m.contains key = false) (value : α) : (m.insert key value).keys = m.keys ++ [key] := by
  rw [keys, entries_insert_of_contains_eq_false h, List.map_append]
  rfl

theorem nodup_keys_insert {m : OrderedMap κ α} {key : κ} (h : m.contains key = false)
    (hnodup : m.keys.Nodup) (value : α) : (m.insert key value).keys.Nodup := by
  rw [keys_insert_of_contains_eq_false h, List.nodup_append]
  refine ⟨hnodup, by simp, fun x hx y hy => ?_⟩
  rintro rfl
  obtain rfl := List.mem_singleton.1 hy
  exact contains_eq_false_iff.1 h hx

/-- Keys that are there keep their place. -/
theorem keys_isPrefix_insert (m : OrderedMap κ α) (key : κ) (value : α) :
    m.keys <+: (m.insert key value).keys := by
  obtain ⟨entries⟩ := m
  simp only [keys, insert]
  induction entries with
  | nil => exact List.nil_prefix
  | cons e rest ih =>
    simp only [insertEntry]
    split
    · rename_i hkey
      subst hkey
      exact List.prefix_refl (e.1 :: rest.map (·.1))
    · exact (List.prefix_cons_inj e.1).2 ih

theorem contains_eq_isSome (m : OrderedMap κ α) (key : κ) :
    m.contains key = (m.get? key).isSome := by
  simp only [contains, get?, Option.isSome_map]
  induction m.entries with
  | nil => rfl
  | cons e rest ih => by_cases h : e.1 = key <;> simp [h, ih]

end OrderedMap

end ContentQuery
