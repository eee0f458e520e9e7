import ContentQuery.Proofs.Calls
import ContentQuery.Proofs.Catalog.Inheritance

/-!
# Catalogs after calls

What holds of a catalog after any calls that register types, whether they succeed or fail. A call
on one type does what `Catalog.register` does (`registering_does`), and a call on a list of types
what `Catalog.registerAll` does, except that it leaves the types before the one that fails
(`registeringAll_of_ok`, `registeringAll_of_error`). So everything that registration
keeps is kept by calls (`keeps_call`), and `consistent_after_calls` puts together what this is.
-/

set_option autoImplicit false

namespace ContentQuery.Catalog

open Call

variable {c c' : Catalog} {t stored : TypeDefinition} {types : List TypeDefinition}
  {fault : QueryError} {P : Catalog → Prop}

/-! ## One type -/

theorem registering_does (t : TypeDefinition) : Does (registering t) (·.register t) where
  ok {c c' stored} h := by
    obtain ⟨hnew, hstored, rfl⟩ := register_eq_ok_iff.1 h
    rw [registering, on_bind_of_ok (on_get c)]
    simp only [hnew, Bool.false_eq_true, if_false, hstored]
    exact on_bind_of_ok (on_set c _) _
  error {c fault} h := by
    rw [registering, on_bind_of_ok (on_get c)]
    unfold register at h
    split at h
    · rename_i hold
      cases h
      simp only [hold, if_true]
      exact on_throw _ c
    · rename_i hnew
      simp only [hnew]
      cases hstored : c.complete t with
      | ok stored =>
        rw [hstored] at h
        cases h
      | error fault' =>
        rw [hstored] at h
        cases h
        exact on_throw _ c

/-! ## Lists of types -/

theorem registeringAll_cons_of_base (h : (BaseType.ofId? t.id).isSome = true) :
    registeringAll (t :: types) = registeringAll types := by
  simp [registeringAll, h]

theorem registeringAll_cons (h : (BaseType.ofId? t.id).isSome = false) :
    registeringAll (t :: types) = registering t >>= fun _ => registeringAll types := by
  simp [registeringAll, h]

theorem registeringAll_of_ok (h : c.registerAll types = .ok c') :
    (registeringAll types).on c = (.ok (), c') := by
  induction types generalizing c with
  | nil =>
    cases h
    exact on_pure () _
  | cons t types ih =>
    cases hbase : (BaseType.ofId? t.id).isSome with
    | true =>
      rw [registerAll_cons_of_base hbase] at h
      rw [registeringAll_cons_of_base hbase, ih h]
    | false =>
      rw [registerAll_cons hbase] at h
      obtain ⟨⟨c₁, stored⟩, hreg, hrest⟩ := exists_of_bind_eq_ok h
      rw [registeringAll_cons hbase, on_bind_of_ok ((registering_does t).ok hreg), ih hrest]

/-- A list that fails leaves what the types before the one that fails build. -/
theorem registeringAll_of_error (h : c.registerAll types = .error fault) :
    ∃ before t after c', types = before ++ t :: after ∧ c.registerAll before = .ok c' ∧
      c'.register t = .error fault ∧ (registeringAll types).on c = (.error fault, c') := by
  induction types generalizing c with
  | nil => cases h
  | cons t types ih =>
    cases hbase : (BaseType.ofId? t.id).isSome with
    | true =>
      rw [registerAll_cons_of_base hbase] at h
      obtain ⟨before, t', after, c', rfl, hbefore, hfails, hon⟩ := ih h
      refine ⟨t :: before, t', after, c', rfl, ?_, hfails, ?_⟩
      · rw [registerAll_cons_of_base hbase, hbefore]
      · rw [registeringAll_cons_of_base hbase, hon]
    | false =>
      rw [registerAll_cons hbase] at h
      cases hreg : c.register t with
      | error fault' =>
        rw [hreg] at h
        cases h
        refine ⟨[], t, types, c, rfl, rfl, hreg, ?_⟩
        rw [registeringAll_cons hbase, on_bind_of_error ((registering_does t).error hreg)]
      | ok registered =>
        rw [hreg] at h
        -- the type is registered for good, whatever becomes of the others
        obtain ⟨before, t', after, c', rfl, hbefore, hfails, hon⟩ := ih h
        refine ⟨t :: before, t', after, c', rfl, ?_, hfails, ?_⟩
        · rw [registerAll_cons hbase, hreg]
          exact hbefore
        · rw [registeringAll_cons hbase, on_bind_of_ok ((registering_does t).ok hreg), hon]

/-! ## Any calls -/

section
variable (hP : ∀ {c c' t stored}, P c → c.register t = .ok (c', stored) → P c')
include hP

theorem keeps_registeringAll (types : List TypeDefinition) : Keeps P (registeringAll types) := by
  refine .forM fun t _ => ?_
  split
  · exact .pure ()
  · exact ((registering_does t).keeps hP).bind fun _ => .pure ()

/-- What registration keeps is kept by calls, whether they succeed or fail. -/
theorem keeps_call (r : Registration) : Keeps P r.call := by
  cases r with
  | one t => exact ((registering_does t).keeps hP).bind fun _ => .pure ()
  | all types => exact keeps_registeringAll hP types

theorem keeps_afterCalls (hc : P c) (calls : List Registration) : P (c.afterCalls calls) := by
  induction calls generalizing c with
  | nil => exact hc
  | cons r calls ih => exact ih (keeps_call hP r c hc)

end

theorem Reachable.afterCalls (h : c.Reachable) (calls : List Registration) :
    (c.afterCalls calls).Reachable := keeps_afterCalls .register h calls

/-- The types that are there stay as they are, in front of the ones that are added. -/
theorem entries_isPrefix_afterCalls (c : Catalog) (calls : List Registration) :
    c.types.entries <+: (c.afterCalls calls).types.entries :=
  keeps_afterCalls (P := fun c' => c.types.entries <+: c'.types.entries)
    (fun hprefix hreg => hprefix.trans (entries_isPrefix_register hreg)) (List.prefix_refl _) calls

/-- The ids, the hierarchy and the properties of the types go together. -/
structure Consistent (c : Catalog) : Prop where
  nodup : c.typeIds.Nodup
  ids : ∀ entry ∈ c.types.entries, entry.2.id = entry.1
  /-- Parents are registered, before their children. -/
  parents : ∀ id p, c.parent? id = some p →
    p ∈ c.typeIds ∧ c.typeIds.idxOf p < c.typeIds.idxOf id
  /-- There are no more ancestors than types before. -/
  finite : ∀ n id a, c.above n id = some a → n ≤ c.typeIds.idxOf id
  acyclic : ∀ n id, c.above n id = some id → n = 0
  inherited : ∀ id t p parent, c.lookup? id = some t → t.parentId = some p →
    c.lookup? p = some parent → t.Extends parent
  named : ∀ id t, c.lookup? id = some t → t.IsNamed

theorem Reachable.consistent (h : c.Reachable) : c.Consistent where
  nodup := h.nodup_typeIds
  ids := h.grounded.ids
  parents id p hp := ⟨h.grounded.mem_typeIds_of_parent? hp, h.grounded.parents id p hp⟩
  finite _ _ _ habove := Nat.le_of_add_left_le (h.grounded.idxOf_above habove)
  acyclic _ _ habove := h.grounded.above_unique habove above_zero
  inherited := h.inherits.parents
  named := h.inherits.named

/-- **After any calls on a new catalog** its types are consistent, and no further calls change
those that are registered. A type is registered if its id is new and its parent is registered, and
a call that fails to do so leaves all as it was. -/
theorem consistent_after_calls (calls : List Registration) :
    (base.afterCalls calls).Consistent ∧
      (∀ more, (base.afterCalls calls).types.entries <+:
        (base.afterCalls (calls ++ more)).types.entries) ∧
      (∀ t, (∃ stored, (registering t).outcome (base.afterCalls calls) = .ok stored) ↔
        t.id ∉ (base.afterCalls calls).typeIds ∧
          ∀ p ∈ t.parentId, p ∈ (base.afterCalls calls).typeIds) ∧
      ∀ t fault, (registering t).outcome (base.afterCalls calls) = .error fault →
        (registering t).after (base.afterCalls calls) = base.afterCalls calls := by
  refine ⟨(Reachable.base.afterCalls calls).consistent, fun more => ?_, fun t => ?_,
    fun t fault h => ?_⟩
  · have happend : base.afterCalls (calls ++ more) = (base.afterCalls calls).afterCalls more :=
      List.foldl_append
    rw [happend]
    exact entries_isPrefix_afterCalls _ more
  · exact ((registering_does t).exists_outcome_eq_ok_iff _).trans exists_register_eq_ok_iff
  · exact (registering_does t).after_of_error h

/-- A type without a registered parent. -/
def orphan : TypeDefinition := .bare "orphan" "nowhere"

/-- A book whose title hides the name of documents. -/
def book : TypeDefinition :=
  { TypeDefinition.bare "book" BaseType.document.id with
    properties := [{ PropertyDefinition.single "title" .string with queryName := "cmis:name" },
      { PropertyDefinition.single "isbn" .string with queryName := "" }] }

/-- Calls of which the last two fail, one of them half way. -/
def bookCalls : List Registration :=
  [.one book, .all [.bare "novel" "book", orphan, .bare "atlas" "book"], .one orphan]

/-- A book, and a novel below it, are registered, and no second book is. -/
theorem consistent_after_calls_failing :
    (base.afterCalls bookCalls).typeIds = ["cmis:document", "cmis:folder", "book", "novel"] ∧
      (base.afterCalls bookCalls).Consistent ∧
      (registering book).outcome (base.afterCalls bookCalls) =
        .error (.execution (.typeExists "book")) ∧
      (registering book).after (base.afterCalls bookCalls) = base.afterCalls bookCalls := by
  obtain ⟨hconsistent, -, -, hfails⟩ := consistent_after_calls bookCalls
  have houtcome : (registering book).outcome (base.afterCalls bookCalls) =
      .error (.execution (.typeExists "book")) := by
    rw [(registering_does book).outcome_eq]
    decide
  exact ⟨by decide, hconsistent, houtcome, hfails _ _ houtcome⟩

end ContentQuery.Catalog
