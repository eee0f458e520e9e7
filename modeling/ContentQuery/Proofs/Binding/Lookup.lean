import ContentQuery.Proofs.Binding.Meaning

/-!
# Looking up one name

`lookupColumn_standsFor`: what a look-up finds is what the column stands for, given that the table
has the items of all SELECT aliases. `lookupColumn_unqualified` says what becomes of a name without
qualifier that no alias captures, by the number of types that define it.
-/

set_option autoImplicit false

namespace ContentQuery.Binding

variable {b : Bindings} {c : ColumnRef} {k : Clause}

/-! ## Defining types -/

theorem definingTypes_eq_definers (b : Bindings) (queryName : String) :
    (definingTypes b queryName).map (fun d => (d.1, d.2.1)) =
      definers b.types.entries queryName := by
  simp only [definingTypes, definers]
  induction b.types.entries with
  | nil => rfl
  | cons e rest ih =>
    cases hp : e.2.property? queryName with
    | none => simp [hp, ih]
    | some p => simp [hp, ih]

theorem property?_of_mem_definingTypes {queryName aliasName : String} {t : TypeDefinition}
    {p : PropertyDefinition} (h : (aliasName, t, p) ∈ definingTypes b queryName) :
    t.property? queryName = some p := by
  obtain ⟨e, -, he⟩ := List.mem_filterMap.1 h
  obtain ⟨p', hp', he⟩ := Option.map_eq_some_iff.1 he
  cases he
  exact hp'

/-- The look-up of a name without qualifier, by the types that define it. -/
theorem lookupProperty_unqualified (hq : c.qualifier = none) :
    (∃ aliasName t p, definers b.types.entries c.property = [(aliasName, t)] ∧
      t.property? c.property = some p ∧ lookupProperty b c = .ok (aliasName, t, p)) ∨
    (definers b.types.entries c.property = [] ∧
      lookupProperty b c
        = .error (.unknownProperty c.property (.types (b.types.values.map (·.id))))) ∨
    (2 ≤ (definers b.types.entries c.property).length ∧
      lookupProperty b c = .error
        (.ambiguousProperty c.property ((definers b.types.entries c.property).map (·.1)))) := by
  have hd := definingTypes_eq_definers b c.property
  unfold lookupProperty
  rw [hq]
  match hs : definingTypes b c.property with
  | [] =>
    rw [hs] at hd
    exact .inr (.inl ⟨hd.symm, rfl⟩)
  | [(aliasName, t, p)] =>
    have hmem : (aliasName, t, p) ∈ definingTypes b c.property := by simp [hs]
    rw [hs] at hd
    exact .inl ⟨aliasName, t, p, hd.symm, property?_of_mem_definingTypes hmem, rfl⟩
  | d :: d' :: rest =>
    rw [hs] at hd
    refine .inr (.inr ⟨by simp [← hd], ?_⟩)
    rw [← hd]
    simp [Function.comp_def]

/-! ## Columns -/

theorem lookupWildcard_standsFor {aliases : String → Option SelectorId} {r : Resolution}
    (hw : c.isWildcard = true) (h : lookupWildcard b c k = .ok r) :
    StandsFor b.types.entries aliases b.resolved.get? k (.column c) r := by
  have hqual {q : String} (hq : c.qualifier = some q) (hk : k = .select ∨ k = .filter)
      (h : lookupWildcard.qualified b q = .ok r) :
      StandsFor b.types.entries aliases b.resolved.get? k (.column c) r := by
    unfold lookupWildcard.qualified at h
    split at h
    · rename_i hc
      cases h
      rw [OrderedMap.contains_eq_isSome, Option.isSome_iff_exists] at hc
      obtain ⟨t, ht⟩ := hc
      exact .allOf hw hq hk (OrderedMap.mem_entries_of_get? ht)
    · cases h
  unfold lookupWildcard at h
  split at h
  · rename_i hq
    cases h
    exact .all hw hq
  · rename_i hq
    exact hqual hq (.inl rfl) h
  · rename_i hq
    exact hqual hq (.inr rfl) h
  · cases h

theorem lookupProperty_standsFor {aliases : String → Option SelectorId} {aliasName : String}
    {t : TypeDefinition} {p : PropertyDefinition} (hw : c.isWildcard = false)
    (hk : c.qualifier = none → k = .select ∨ aliases c.property = none)
    (h : lookupProperty b c = .ok (aliasName, t, p))
    (hs : k.searches = true → p.queryable = true) :
    StandsFor b.types.entries aliases b.resolved.get? k (.column c)
      (.property aliasName t.id p) := by
  cases hq : c.qualifier with
  | none =>
    rcases lookupProperty_unqualified (b := b) hq with
      ⟨a, t', p', hd, hp, hl⟩ | ⟨-, hl⟩ | ⟨-, hl⟩ <;> rw [hl] at h <;> cases h
    exact .unqualified hw hq (hk hq) hd hp hs
  | some q =>
    unfold lookupProperty at h
    rw [hq] at h
    simp only at h
    split at h
    · cases h
    · rename_i t' ht
      split at h
      · rename_i p' hp
        cases h
        exact .qualified hw hq (OrderedMap.mem_entries_of_get? ht) hp hs
      · cases h

/-- A column that is no wild card and no SELECT alias is looked up among the properties. -/
theorem lookupColumn_property (hw : c.isWildcard = false) (ha : lookupSelectAlias b c k = none) :
    lookupColumn b c k = match lookupProperty b c with
      | .error e => .error e
      | .ok (aliasName, t, p) =>
        if k.searches && !p.queryable then .error (.notQueryable c.toText)
        else .ok (.property aliasName t.id p) := by
  unfold lookupColumn
  simp only [hw, Bool.false_eq_true, if_false, ha]
  cases lookupProperty b c with
  | error e => rfl
  | ok found =>
    obtain ⟨aliasName, t, p⟩ := found
    cases hs : k.searches && !p.queryable with
    | true => simp [hs, bind, Except.bind, throw, throwThe, MonadExceptOf.throw]
    | false => simp [hs, bind, Except.bind, pure, Except.pure]

/-- The errors of a look-up without qualifier, by the types that define the name. -/
theorem lookupColumn_unqualified (hq : c.qualifier = none) (hw : c.isWildcard = false)
    (ha : lookupSelectAlias b c k = none) :
    (∀ name aliases, lookupColumn b c k = .error (.ambiguousProperty name aliases) ↔
      name = c.property ∧ aliases = (definers b.types.entries c.property).map (·.1) ∧
        2 ≤ (definers b.types.entries c.property).length) ∧
    ∀ name looked, lookupColumn b c k = .error (.unknownProperty name looked) ↔
      name = c.property ∧ looked = .types (b.types.entries.map (·.2.id)) ∧
        definers b.types.entries c.property = [] := by
  rw [lookupColumn_property hw ha]
  rcases lookupProperty_unqualified (b := b) hq with
    ⟨aliasName, t, p, hd, -, hl⟩ | ⟨hd, hl⟩ | ⟨hd, hl⟩
  · -- With one type the only error there can be is that its property is not queryable.
    rw [hl, hd]
    cases hs : k.searches && !p.queryable <;> simp [hs]
  · rw [hl, hd]
    simp [OrderedMap.values, Function.comp_def, eq_comm]
  · rw [hl]
    have hne : definers b.types.entries c.property ≠ [] := by
      intro h
      rw [h] at hd
      cases hd
    simp [hd, hne, eq_comm]

/-- **A look-up finds what the column stands for**, if the items of all SELECT aliases have been
resolved. -/
theorem lookupColumn_standsFor {r : Resolution}
    (hitems : ∀ {name id}, b.selectAliases.get? name = some id → ∃ r, b.resolved.get? id = some r)
    (h : lookupColumn b c k = .ok r) :
    StandsFor b.types.entries b.selectAliases.get? b.resolved.get? k (.column c) r := by
  cases hw : c.isWildcard with
  | true => exact lookupWildcard_standsFor hw (by simpa [lookupColumn, hw] using h)
  | false =>
  cases hnone : lookupSelectAlias b c k with
  | some r' =>
    obtain rfl : r' = r := by simpa [lookupColumn, hw, hnone] using h
    have hr := hnone
    unfold lookupSelectAlias at hr
    split at hr
    · rename_i hcond
      simp only [Bool.and_eq_true, Option.isNone_iff_eq_none, bne_iff_ne, ne_eq] at hcond
      obtain ⟨id, hid, hr⟩ := Option.bind_eq_some_iff.1 hr
      exact .selected hw hcond.1 hcond.2 hid hr
    · cases hr
  | none =>
    have hk : c.qualifier = none → k = .select ∨ b.selectAliases.get? c.property = none := by
      intro hq
      by_cases hsel : k = .select
      · exact .inl hsel
      right
      cases ha : b.selectAliases.get? c.property with
      | none => rfl
      | some id =>
        obtain ⟨r', hr'⟩ := hitems ha
        simp [lookupSelectAlias, hq, hsel, ha, hr'] at hnone
    rw [lookupColumn_property hw hnone] at h
    split at h
    · cases h
    · rename_i aliasName t p hl
      split at h
      · cases h
      · rename_i hs
        cases h
        exact lookupProperty_standsFor hw hk hl fun hk => by simpa [hk] using hs

end ContentQuery.Binding
