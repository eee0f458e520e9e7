import ContentQuery.Proofs.FullText.RoundTrip

/-!
# The shape of a full-text search

A search that has been read has at most three levels: alternatives between `OR`s, each of them a
single term or a conjunction of terms, and terms that are leaves or negated leaves (`Tree.IsTerm`,
`Tree.IsAlternative`, `Tree.IsSearch`). A connective has at least two children, because a single
one stands for itself (`collapse_cases`). The main statement is `parse_isSearch`.
-/

set_option autoImplicit false

namespace ContentQuery.FullText

namespace Tree

/-- A word or a phrase. -/
inductive IsLeaf : Tree → Prop
  | word (raw : String) : IsLeaf (.word raw)
  | phrase (raw : String) : IsLeaf (.phrase raw)

/-- A leaf, or one with a minus sign directly over it. -/
inductive IsTerm : Tree → Prop
  | leaf {t : Tree} : t.IsLeaf → IsTerm t
  | negation {t : Tree} : t.IsLeaf → IsTerm (.negation t)

/-- A term, or a conjunction of two or more. -/
inductive IsAlternative : Tree → Prop
  | term {t : Tree} : t.IsTerm → IsAlternative t
  | conjunction {ts : List Tree} :
      2 ≤ ts.length → (∀ t ∈ ts, t.IsTerm) → IsAlternative (.conjunction ts)

/-- An alternative, or a disjunction of two or more. -/
inductive IsSearch : Tree → Prop
  | alternative {t : Tree} : t.IsAlternative → IsSearch t
  | disjunction {ts : List Tree} :
      2 ≤ ts.length → (∀ t ∈ ts, t.IsAlternative) → IsSearch (.disjunction ts)

end Tree

variable {cs rest : List Char}

/-! ## Terms -/

theorem takeLeaf_isLeaf {leaf : Tree} (h : takeLeaf cs = .ok (leaf, rest)) : leaf.IsLeaf := by
  unfold takeLeaf at h
  split at h
  · split at h
    · cases h
      exact .phrase _
    · cases h
  · cases h
    exact .word _

theorem takeTerm_isTerm {term : Tree} (h : takeTerm cs = .ok (term, rest)) : term.IsTerm := by
  rcases takeTerm_cases cs with ⟨tail, -, -, hterm⟩ | ⟨-, hterm⟩
  · rw [hterm] at h
    cases hleaf : takeLeaf tail with
    | error e =>
      rw [hleaf] at h
      cases h
    | ok found =>
      rw [hleaf] at h
      cases h
      exact .negation (takeLeaf_isLeaf hleaf)
  · rw [hterm] at h
    exact .leaf (takeLeaf_isLeaf h)

theorem takeTerms_isTerm {fuel : Nat} {terms : List Tree}
    (h : takeTerms fuel cs = .ok (terms, rest)) : ∀ t ∈ terms, t.IsTerm := by
  induction fuel generalizing cs terms with
  | zero =>
    cases h
    exact List.forall_mem_nil _
  | succ fuel ih =>
    rcases takeTerms_cases h with rfl | ⟨-, less, term, others, mid, hless, hterm, hothers, rfl⟩
    · exact List.forall_mem_nil _
    · obtain rfl := Nat.succ.inj hless
      exact List.forall_mem_cons.2 ⟨takeTerm_isTerm hterm, ih hothers⟩

/-! ## Connectives -/

/-- A connective is left out over a single tree. -/
theorem collapse_cases (node : List Tree → Tree) {ts : List Tree} (h : ts ≠ []) :
    (∃ t, ts = [t] ∧ collapse node ts = t) ∨ 2 ≤ ts.length ∧ collapse node ts = node ts := by
  match ts, h with
  | [t], _ => exact .inl ⟨t, rfl, rfl⟩
  | t :: u :: ts, _ => exact .inr ⟨by simp, rfl⟩

theorem collapse_isAlternative {terms : List Tree} (hne : terms ≠ [])
    (h : ∀ t ∈ terms, t.IsTerm) : (collapse .conjunction terms).IsAlternative := by
  rcases collapse_cases .conjunction hne with ⟨t, rfl, hcollapse⟩ | ⟨hlength, hcollapse⟩
  · rw [hcollapse]
    exact .term (h t List.mem_cons_self)
  · rw [hcollapse]
    exact .conjunction hlength h

theorem takeAlternatives_isAlternative {fuel : Nat} {alternatives : List Tree}
    (h : takeAlternatives fuel cs = .ok alternatives) : ∀ t ∈ alternatives, t.IsAlternative := by
  induction fuel generalizing cs alternatives with
  | zero => cases h
  | succ fuel ih =>
    obtain ⟨less, terms, rest, hless, hterms, hne, hrest⟩ := takeAlternatives_cases h
    obtain rfl := Nat.succ.inj hless
    have hfirst := collapse_isAlternative hne (takeTerms_isTerm hterms)
    rcases hrest with ⟨-, rfl⟩ | ⟨-, others, hothers, rfl⟩
    · exact List.forall_mem_cons.2 ⟨hfirst, List.forall_mem_nil _⟩
    · exact List.forall_mem_cons.2 ⟨hfirst, ih hothers⟩

/-- **What a search looks like**: no disjunction below another node, no conjunction inside a
conjunction, at least two trees under each of them, and minus signs over leaves only. -/
theorem parse_isSearch {text : String} {t : Tree} (h : parse text = .ok t) : t.IsSearch := by
  obtain ⟨alternatives, halternatives, rfl⟩ := exists_of_parse h
  obtain ⟨hne, -⟩ := takeAlternatives_starts halternatives
  have hall := takeAlternatives_isAlternative halternatives
  rcases collapse_cases .disjunction hne with ⟨t, rfl, hcollapse⟩ | ⟨hlength, hcollapse⟩
  · rw [hcollapse]
    exact .alternative (hall t List.mem_cons_self)
  · rw [hcollapse]
    exact .disjunction hlength hall

end ContentQuery.FullText
