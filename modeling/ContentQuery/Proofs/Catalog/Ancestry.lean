import ContentQuery.Catalog.Basic
import ContentQuery.Proofs.Run
import Mathlib.Data.List.Basic
import Mathlib.Tactic.WLOG

/-!
# The ancestry of types

`Catalog.above n` is what stands `n` parents above a type, and the bounded climb finds an ancestor
exactly if it is that near (`climbs_iff`). In a catalog that registration has built
(`Catalog.Reachable`) every parent stands before the types that derive from it
(`Reachable.grounded`). So each parent on the way brings a climb nearer to the start of the list of
types (`Grounded.idxOf_above`), no type is above itself, and there is one way to an ancestor.
-/

set_option autoImplicit false

namespace ContentQuery.Catalog

/-! ## Chains of parents -/

/-- The id that is `n` parents above a type. -/
def above (c : Catalog) : (n : Nat) → String → Option String
  | 0, id => some id
  | n + 1, id => (c.parent? id).bind (c.above n)

variable {c c' : Catalog} {t a b : String} {n k : Nat}

@[simp] theorem above_zero : c.above 0 t = some t := rfl

theorem above_succ : c.above (n + 1) t = some a ↔
    ∃ p, c.parent? t = some p ∧ c.above n p = some a :=
  Option.bind_eq_some_iff

/-- A way up can be made in two parts. -/
theorem above_add (h : c.above n t = some b) : c.above (n + k) t = c.above k b := by
  induction n generalizing t with
  | zero =>
    cases h
    rw [Nat.zero_add]
  | succ n ih =>
    obtain ⟨p, hp, h⟩ := above_succ.1 h
    rw [Nat.add_right_comm, above, hp, Option.bind_some, ih h]

/-- A climb finds what is above a type by fewer parents than it may take steps. -/
theorem climbs_iff : c.climbs a n t = true ↔ ∃ m < n, c.above m t = some a := by
  induction n generalizing t with
  | zero => simp [climbs]
  | succ n ih =>
    unfold climbs
    by_cases hta : t = a
    · rw [if_pos hta]
      refine iff_of_true rfl ⟨0, Nat.succ_pos n, ?_⟩
      rw [above_zero, hta]
    · rw [if_neg hta]
      constructor
      · intro h
        cases hp : c.parent? t with
        | none =>
          rw [hp] at h
          cases h
        | some p =>
          rw [hp] at h
          obtain ⟨m, hm, h⟩ := ih.1 h
          exact ⟨m + 1, Nat.succ_lt_succ hm, above_succ.2 ⟨p, hp, h⟩⟩
      · rintro ⟨m, hm, h⟩
        cases m with
        | zero => exact absurd (Option.some.inj h) hta
        | succ m =>
          obtain ⟨p, hp, h⟩ := above_succ.1 h
          rw [hp]
          exact ih.2 ⟨m, Nat.lt_of_succ_lt_succ hm, h⟩

/-- At most `limit` parents lead from a type to an ancestor. -/
def IsWithin (c : Catalog) (limit : Nat) (t a : String) : Prop := ∃ n ≤ limit, c.above n t = some a

theorem climbs_succ_iff : c.climbs a (n + 1) t = true ↔ c.IsWithin n t a := by
  rw [climbs_iff]
  simp only [Nat.lt_succ_iff, IsWithin]

instance : Decidable (c.IsWithin n t a) := decidable_of_iff _ climbs_succ_iff

theorem isSubtypeOf_iff : c.isSubtypeOf t a = true ↔ c.IsWithin 63 t a := climbs_succ_iff

theorem isSubtypeOf_refl (t : String) : c.isSubtypeOf t t = true :=
  isSubtypeOf_iff.2 ⟨0, Nat.zero_le _, rfl⟩

/-! ## Registration -/

/-- The catalogs that registrations build from the base types. -/
inductive Reachable : Catalog → Prop
  | base : Reachable base
  | register {c c' : Catalog} {t stored : TypeDefinition} :
      Reachable c → c.register t = .ok (c', stored) → Reachable c'

/-- Types have ids of their own, and parents that were there before them. -/
structure Grounded (c : Catalog) : Prop where
  ids : ∀ entry ∈ c.types.entries, entry.2.id = entry.1
  parents : ∀ t p, c.parent? t = some p → c.typeIds.idxOf p < c.typeIds.idxOf t

theorem Grounded.mem_typeIds_of_parent? (h : c.Grounded) {p : String} (hp : c.parent? t = some p) :
    p ∈ c.typeIds :=
  List.idxOf_lt_length_iff.1 (Nat.lt_of_lt_of_le (h.parents t p hp) List.idxOf_le_length)

theorem mem_typeIds_iff : t ∈ c.typeIds ↔ ∃ d, c.lookup? t = some d := by
  rw [← Option.isSome_iff_exists, lookup?, ← OrderedMap.contains_eq_isSome,
    ← Bool.not_eq_false, OrderedMap.contains_eq_false_iff, Classical.not_not]
  rfl

theorem parent?_insert (t : TypeDefinition) (key id : String) :
    parent? ⟨c.types.insert key t⟩ id = if key = id then t.parentId else c.parent? id := by
  unfold parent? lookup?
  rw [OrderedMap.get?_insert]
  split <;> rfl

/-- What a registration that succeeds has found and adds. -/
theorem register_eq_ok {t stored : TypeDefinition} (h : c.register t = .ok (c', stored)) :
    c.types.contains t.id = false ∧ c' = ⟨c.types.insert t.id stored⟩ ∧ stored.id = t.id ∧
      stored.parentId = t.parentId ∧ ∀ p ∈ t.parentId, p ∈ c.typeIds := by
  unfold register at h
  cases hnew : c.types.contains t.id with
  | true =>
    rw [hnew] at h
    cases h
  | false =>
  rw [hnew] at h
  unfold complete at h
  cases hparent : t.parentId with
  | none =>
    simp only [hparent] at h
    cases h
    exact ⟨rfl, rfl, rfl, rfl, nofun⟩
  | some p =>
    simp only [hparent] at h
    cases hp : c.lookup? p with
    | none =>
      simp only [hp] at h
      cases h
    | some parent =>
      simp only [hp] at h
      cases h
      refine ⟨rfl, rfl, rfl, rfl, ?_⟩
      rintro _ ⟨⟩
      exact mem_typeIds_iff.2 ⟨parent, hp⟩

theorem grounded_base : base.Grounded where
  ids := by decide
  parents t p h := by
    have hroots : ∀ entry ∈ base.types.entries, entry.2.parentId = none := by decide
    obtain ⟨d, hd, hp⟩ := Option.bind_eq_some_iff.1 h
    rw [hroots _ (OrderedMap.mem_entries_of_get? hd)] at hp
    cases hp

theorem Grounded.register (h : c.Grounded) {t stored : TypeDefinition}
    (hreg : c.register t = .ok (c', stored)) : c'.Grounded := by
  obtain ⟨hnew, rfl, hid, hparent, hknown⟩ := register_eq_ok hreg
  have hnot : t.id ∉ c.typeIds := OrderedMap.contains_eq_false_iff.1 hnew
  have hentries := OrderedMap.entries_insert_of_contains_eq_false hnew stored
  have hkeys : typeIds ⟨c.types.insert t.id stored⟩ = c.typeIds ++ [t.id] :=
    OrderedMap.keys_insert_of_contains_eq_false hnew stored
  refine ⟨fun entry hentry => ?_, fun id p hp => ?_⟩
  · rw [hentries] at hentry
    rcases List.mem_append.1 hentry with hentry | hentry
    · exact h.ids entry hentry
    · obtain rfl := List.mem_singleton.1 hentry
      exact hid
  · rw [parent?_insert] at hp
    rw [hkeys]
    by_cases hsame : t.id = id
    · -- the new type stands last, behind its parent
      rw [if_pos hsame, hparent] at hp
      have hmem := hknown p hp
      subst hsame
      rw [List.idxOf_append_of_mem hmem, List.idxOf_append_of_notMem hnot]
      have := List.idxOf_lt_length_iff.2 hmem
      omega
    · rw [if_neg hsame] at hp
      have hlt := h.parents id p hp
      obtain ⟨d, hd, -⟩ := Option.bind_eq_some_iff.1 hp
      rw [List.idxOf_append_of_mem (h.mem_typeIds_of_parent? hp), List.idxOf_append_of_mem (mem_typeIds_iff.2 ⟨d, hd⟩)]
      exact hlt

theorem Reachable.grounded (h : c.Reachable) : c.Grounded := by
  induction h with
  | base => exact grounded_base
  | register _ hreg ih => exact ih.register hreg

/-- What a list of types builds is built by registrations. -/
theorem Reachable.registerAll {types : List TypeDefinition} (h : c.Reachable)
    (hrun : c.registerAll types = .ok c') : c'.Reachable := by
  refine foldlM_keeps (P := Reachable) (fun c t c' hc hstep => ?_) h hrun
  split at hstep
  · cases hstep
    exact hc
  · cases hreg : c.register t with
    | error fault =>
      rw [hreg] at hstep
      cases hstep
    | ok registered =>
      rw [hreg] at hstep
      cases hstep
      exact hc.register hreg

/-! ## The order of ancestors -/

namespace Grounded

variable (h : c.Grounded)
include h

/-- Every parent on the way up stands further to the front. -/
theorem idxOf_above (habove : c.above n t = some a) :
    c.typeIds.idxOf a + n ≤ c.typeIds.idxOf t := by
  induction n generalizing t with
  | zero =>
    cases habove
    exact Nat.le_refl _
  | succ n ih =>
    obtain ⟨p, hp, habove⟩ := above_succ.1 habove
    have hlt := h.parents t p hp
    have hle := ih habove
    omega

/-- Types that are above each other are the same. -/
theorem eq_of_above (hn : c.above n t = some a) (hk : c.above k a = some t) : t = a := by
  have hup := h.idxOf_above hn
  have hdown := h.idxOf_above hk
  obtain rfl : n = 0 := by omega
  exact Option.some.inj hn

/-- There is one way to an ancestor. -/
theorem above_unique (hn : c.above n t = some a) (hk : c.above k t = some a) : n = k := by
  wlog hle : n ≤ k generalizing n k
  · exact (this hk hn (Nat.le_of_not_le hle)).symm
  obtain ⟨d, rfl⟩ := Nat.exists_eq_add_of_le hle
  rw [above_add hn] at hk
  have hself := h.idxOf_above hk
  omega

theorem isSubtypeOf_antisymm (hta : c.isSubtypeOf t a = true) (hat : c.isSubtypeOf a t = true) :
    t = a := by
  obtain ⟨n, -, hn⟩ := isSubtypeOf_iff.1 hta
  obtain ⟨k, -, hk⟩ := isSubtypeOf_iff.1 hat
  exact h.eq_of_above hn hk

/-- A subtype of a subtype is one if the way to it is short enough. -/
theorem isSubtypeOf_iff_add_le (hn : c.above n t = some b) (hk : c.above k b = some a) :
    c.isSubtypeOf t a = true ↔ n + k ≤ 63 := by
  have hway : c.above (n + k) t = some a := (above_add hn).trans hk
  rw [isSubtypeOf_iff]
  constructor
  · rintro ⟨m, hm, hway'⟩
    rwa [h.above_unique hway hway']
  · exact fun hle => ⟨n + k, hle, hway⟩

end Grounded

end ContentQuery.Catalog
