import ContentQuery.Calls
import Mathlib.Data.List.Chain
import Mathlib.Data.List.Nodup
import Mathlib.Data.List.Perm.Subperm
import Mathlib.Logic.Relation

/-!
# Ancestors

Objects name their parents freely: a parent may be missing, it may be the object itself, and
parents may run in a circle. `Repository.Climbs` is the way up without a bound on its length, and
`climbs_ancestors` says that it comes to its end within the bound of `Repository.ancestors`. So the
ancestors of an object are its lineage, the chain of parents up to the first repetition
(`climbs_iff_isLineage`), and no ancestor is missed (`mem_ancestors_iff`).
-/

set_option autoImplicit false

namespace ContentQuery.Repository

variable {r : Repository} {id o p x : String} {met chain chain' : List String}

/-! ## The way up -/

def HasParent (r : Repository) (id p : String) : Prop := r.parent? id = some p

/-- A way up that comes to its end: where there is no parent, or where the parent was met before. -/
inductive Climbs (r : Repository) : List String → String → List String → Prop
  | top {met : List String} {id : String} : r.parent? id = none → Climbs r met id []
  | again {met : List String} {id p : String} :
      r.HasParent id p → p ∈ met → Climbs r met id []
  | up {met chain : List String} {id p : String} :
      r.HasParent id p → p ∉ met → Climbs r (p :: met) p chain → Climbs r met id (p :: chain)

theorem mem_keys_of_hasParent (h : r.HasParent id p) : id ∈ r.objects.keys := by
  obtain ⟨object, hget, -⟩ := Option.bind_eq_some_iff.1 h
  exact List.mem_map_of_mem (OrderedMap.mem_entries_of_get? hget)

/-- There are more steps left than objects that have not been left behind. -/
theorem climbs_parentsAbove {left : List String} {fuel : Nat} (hnodup : (id :: left).Nodup)
    (hleft : left ⊆ r.objects.keys) (hfuel : r.size < fuel + left.length) :
    r.Climbs (id :: left) id (r.parentsAbove (id :: left) fuel id) := by
  induction fuel generalizing id left with
  | zero =>
    have hle := ((List.nodup_cons.1 hnodup).2.subperm hleft).length_le
    rw [OrderedMap.keys, List.length_map] at hle
    rw [Nat.zero_add] at hfuel
    exact absurd hfuel (Nat.not_lt_of_le hle)
  | succ fuel ih =>
    unfold parentsAbove
    cases hp : r.parent? id with
    | none => exact .top hp
    | some p =>
      by_cases hmet : p ∈ id :: left
      · simp only [if_pos hmet]
        exact .again hp hmet
      · simp only [if_neg hmet]
        refine .up hp hmet (ih (hnodup.cons hmet) ?_ ?_)
        · exact List.cons_subset.2 ⟨mem_keys_of_hasParent hp, hleft⟩
        · rw [List.length_cons]
          omega

/-- The way up from an object ends within the bound. -/
theorem climbs_ancestors (r : Repository) (o : String) : r.Climbs [o] o (r.ancestors o) :=
  climbs_parentsAbove (List.nodup_singleton o) (List.nil_subset _) (Nat.lt_succ_self _)

namespace Climbs

/-- There is one way up. -/
theorem unique (h : r.Climbs met id chain) (h' : r.Climbs met id chain') : chain = chain' := by
  induction h generalizing chain' with
  | top hnone =>
    cases h' with
    | top => rfl
    | again => rfl
    | up hp => exact absurd (hnone.symm.trans hp) nofun
  | again hp hmet =>
    cases h' with
    | top => rfl
    | again => rfl
    | up hp' hnew =>
      cases hp.symm.trans hp'
      exact absurd hmet hnew
  | up hp hnew _ ih =>
    cases h' with
    | top hnone => exact absurd (hnone.symm.trans hp) nofun
    | again hp' hmet =>
      cases hp.symm.trans hp'
      exact absurd hmet hnew
    | up hp' _ h' =>
      cases hp.symm.trans hp'
      rw [ih h']

theorem isChain (h : r.Climbs met id chain) : List.IsChain r.HasParent (id :: chain) := by
  induction h with
  | top => exact .singleton _
  | again => exact .singleton _
  | up hp _ _ ih => exact .cons_cons hp ih

/-- Nothing is met twice. -/
theorem nodup (h : r.Climbs met id chain) : chain.Nodup ∧ ∀ x ∈ chain, x ∉ met := by
  induction h with
  | top => exact ⟨.nil, List.forall_mem_nil _⟩
  | again => exact ⟨.nil, List.forall_mem_nil _⟩
  | up hp hnew _ ih =>
    obtain ⟨hnodup, hfresh⟩ := ih
    refine ⟨hnodup.cons fun hmem => hfresh _ hmem List.mem_cons_self, fun x hx => ?_⟩
    rcases List.mem_cons.1 hx with rfl | hx
    · exact hnew
    · exact fun hmet => hfresh x hx (List.mem_cons_of_mem _ hmet)

/-- Every parent of what is met has been met. -/
theorem closed (h : r.Climbs met id chain) (hx : x ∈ id :: chain) (hp : r.HasParent x p) :
    p ∈ met ∨ p ∈ chain := by
  induction h with
  | top hnone =>
    obtain rfl := List.mem_singleton.1 hx
    exact absurd (hnone.symm.trans hp) nofun
  | again hp' hmet =>
    obtain rfl := List.mem_singleton.1 hx
    cases hp'.symm.trans hp
    exact .inl hmet
  | up hp' _ _ ih =>
    rcases List.mem_cons.1 hx with rfl | hx
    · cases hp'.symm.trans hp
      exact .inr List.mem_cons_self
    · rcases ih hx with hmet | hmem
      · rcases List.mem_cons.1 hmet with rfl | hmet
        · exact .inr List.mem_cons_self
        · exact .inl hmet
      · exact .inr (List.mem_cons_of_mem _ hmem)

theorem reaches (h : r.Climbs met id chain) (hx : x ∈ chain) :
    Relation.TransGen r.HasParent id x := by
  induction h with
  | top => cases hx
  | again => cases hx
  | up hp _ _ ih =>
    rcases List.mem_cons.1 hx with rfl | hx
    · exact .single hp
    · exact .head hp (ih hx)

end Climbs

/-! ## Lineages -/

/-- The parents above an object, nearest first, up to the first repetition. -/
structure IsLineage (r : Repository) (o : String) (chain : List String) : Prop where
  links : List.IsChain r.HasParent (o :: chain)
  nodup : (o :: chain).Nodup
  /-- The last one has no parent, or one that was met before. -/
  ends : ∀ p, r.HasParent (chain.getLastD o) p → p ∈ o :: chain

/-- A chain of new parents is a way up if there is nothing new above it. -/
theorem climbs_of_isChain (hlinks : List.IsChain r.HasParent (id :: chain)) (hnodup : chain.Nodup)
    (hfresh : ∀ x ∈ chain, x ∉ met)
    (hends : ∀ p, r.HasParent (chain.getLastD id) p → p ∈ met ∨ p ∈ chain) :
    r.Climbs met id chain := by
  induction chain generalizing met id with
  | nil =>
    cases hp : r.parent? id with
    | none => exact .top hp
    | some p => exact .again hp ((hends p hp).resolve_right List.not_mem_nil)
  | cons p chain ih =>
    rw [List.isChain_cons_cons] at hlinks
    rw [List.nodup_cons] at hnodup
    refine .up hlinks.1 (hfresh p List.mem_cons_self) (ih hlinks.2 hnodup.2 ?_ ?_)
    · intro x hx hmet
      rcases List.mem_cons.1 hmet with rfl | hmet
      · exact hnodup.1 hx
      · exact hfresh x (List.mem_cons_of_mem _ hx) hmet
    · intro q hq
      rw [List.getLastD_cons] at hends
      rcases hends q hq with hmet | hmem
      · exact .inl (List.mem_cons_of_mem _ hmet)
      · rcases List.mem_cons.1 hmem with rfl | hmem
        · exact .inl List.mem_cons_self
        · exact .inr hmem

theorem climbs_iff_isLineage : r.Climbs [o] o chain ↔ r.IsLineage o chain := by
  constructor
  · intro h
    obtain ⟨hnodup, hfresh⟩ := h.nodup
    refine ⟨h.isChain, hnodup.cons fun ho => hfresh o ho (List.mem_singleton_self o), ?_⟩
    intro p hp
    have hlast : chain.getLastD o ∈ o :: chain := List.getLastD_mem_cons ..
    rcases h.closed hlast hp with ho | hmem
    · exact List.mem_cons.2 (.inl (List.mem_singleton.1 ho))
    · exact List.mem_cons_of_mem _ hmem
  · rintro ⟨hlinks, hnodup, hends⟩
    rw [List.nodup_cons] at hnodup
    refine climbs_of_isChain hlinks hnodup.2 (fun x hx ho => ?_) fun p hp => ?_
    · obtain rfl := List.mem_singleton.1 ho
      exact hnodup.1 hx
    · rcases List.mem_cons.1 (hends p hp) with rfl | hmem
      · exact .inl (List.mem_singleton_self p)
      · exact .inr hmem

/-- The ancestors of an object are what its parents lead to, but for the object itself. -/
theorem mem_ancestors_iff :
    x ∈ r.ancestors o ↔ x ≠ o ∧ Relation.TransGen r.HasParent o x := by
  have hclimbs := climbs_ancestors r o
  constructor
  · intro hx
    refine ⟨?_, hclimbs.reaches hx⟩
    rintro rfl
    exact hclimbs.nodup.2 x hx (List.mem_singleton_self x)
  · rintro ⟨hne, hreaches⟩
    -- on the way to `x` nothing but the object and its ancestors is met
    have hmet : ∀ {y}, Relation.TransGen r.HasParent o y → y ∈ o :: r.ancestors o := by
      intro y hy
      have hstep : ∀ {a b}, a ∈ o :: r.ancestors o → r.HasParent a b → b ∈ o :: r.ancestors o :=
        fun ha hb => (hclimbs.closed ha hb).elim
          (fun h => List.mem_cons.2 (.inl (List.mem_singleton.1 h))) (List.mem_cons_of_mem _)
      induction hy with
      | single hp => exact hstep List.mem_cons_self hp
      | tail _ hp ih => exact hstep ih hp
    exact (List.mem_cons.1 (hmet hreaches)).resolve_left hne

/-- The parent of an object is one of its ancestors, unless the object is its own parent. -/
theorem parent_mem_ancestors_iff (h : r.HasParent o p) : p ∈ r.ancestors o ↔ p ≠ o := by
  rw [mem_ancestors_iff]
  exact and_iff_left (.single h)

/-- **Ancestors are the chain of parents up to the first repetition**, in every repository and for
every id, stored or not. The way up comes to its end, and it finds the one list that leads from
parent to parent, nearest first, until there is no parent or one that was met before. It has no id
twice and not that of the object, and it has everything else that parents lead to. -/
theorem ancestors_follow_parents (r : Repository) (o : String) :
    r.Climbs [o] o (r.ancestors o) ∧
    (∀ chain, r.ancestors o = chain ↔ r.IsLineage o chain) ∧
    (r.ancestors o).Nodup ∧ o ∉ r.ancestors o ∧
    ∀ x, x ∈ r.ancestors o ↔ x ≠ o ∧ Relation.TransGen r.HasParent o x := by
  have hclimbs := climbs_ancestors r o
  have hlineage := climbs_iff_isLineage.1 hclimbs
  obtain ⟨ho, hnodup⟩ := List.nodup_cons.1 hlineage.nodup
  refine ⟨hclimbs, fun chain => ?_, hnodup, ho, fun x => mem_ancestors_iff⟩
  rw [← climbs_iff_isLineage]
  constructor
  · rintro rfl
    exact hclimbs
  · exact hclimbs.unique

/-- Two folders that are in each other, one that is in itself, and one in a folder that is
missing. -/
def tangledObjects : List ContentObject :=
  [⟨"a", "cmis:folder", some "b", .empty, none⟩, ⟨"b", "cmis:folder", some "a", .empty, none⟩,
    ⟨"c", "cmis:folder", some "c", .empty, none⟩, ⟨"d", "cmis:folder", some "x", .empty, none⟩]

/-- The repository that their insertion leaves. -/
def tangled : Repository := ((insertingEach tangledObjects).run (.empty false)).run.2

example : ["a", "b", "c", "d", "x"].map tangled.ancestors = [["b"], ["a"], [], ["x"], []] := by
  decide

end ContentQuery.Repository
