import ContentQuery.Proofs.Statement.Parsed

/-!
# Well-formed statements

The types of statements and trees allow more than the grammar does. `Statement.WellFormed` is what
binding and evaluation can rely on for a statement that has been parsed, one field for each part of
it (`parse_wellFormed`), and `references_numbered` says that the ids of its references are their
positions in the text, so that a table by id has one entry for each reference.
-/

set_option autoImplicit false

namespace ContentQuery

theorem Predicate.contains_mem_nodes {p : Predicate} {qualifier : Option String}
    {search : FullText.Tree} (h : (qualifier, search) ∈ p.searches) :
    .contains qualifier search ∈ p.nodes := by
  obtain ⟨node, hnode, hsearch⟩ := List.mem_filterMap.1 h
  cases node with
  | contains q t =>
    cases hsearch
    exact hnode
  | _ => cases hsearch

namespace Statement

/-- What the parser promises of a statement. -/
structure WellFormed (s : Statement) : Prop where
  /-- Something is selected. -/
  select : s.select ≠ []
  /-- There is a first type, which has no join, and all others have one. -/
  sources : IsFromList s.sources
  /-- The WHERE tree has tests with operands, literals and columns in their places under AND, OR
  and NOT, and nothing else. -/
  filter : ∀ p ∈ s.filter, p.IsCondition
  /-- Every full-text search has alternatives of terms, two or more under each connective. -/
  searches : ∀ found ∈ s.searches, found.2.IsSearch

variable {text : String} {s : Statement}

/-- **Everything that the parser returns is well formed.** -/
theorem parse_wellFormed (h : Statement.parse text = .ok s) : s.WellFormed := by
  obtain ⟨hwritten, -⟩ := (parse_outcome text).1 s h
  obtain ⟨hselect, -, hfrom, hfilter, -⟩ := hwritten
  refine ⟨hselect, hfrom.isFromList, hfilter.isCondition, ?_⟩
  rintro ⟨qualifier, search⟩ hfound
  unfold Statement.searches at hfound
  cases hf : s.filter with
  | none =>
    rw [hf] at hfound
    cases hfound
  | some p =>
    rw [hf] at hfound hfilter
    obtain _ | hp := hfilter
    exact hp.isSearch (Predicate.contains_mem_nodes hfound)

/-- A join, a search with all three levels, and a list of literals. -/
theorem parse_wellFormed_levels : ∃ s,
    Statement.parse "SELECT * FROM t JOIN u ON a=b WHERE CONTAINS('x -y OR z')AND ANY m IN(1)" =
      .ok s ∧ s.WellFormed ∧ s.sources.length = 2 ∧ s.searches.length = 1 := by
  obtain ⟨s, hs, hcheck⟩ := exists_of_any_toOption
    (x := Statement.parse "SELECT * FROM t JOIN u ON a=b WHERE CONTAINS('x -y OR z')AND ANY m IN(1)")
    (p := fun s => decide (s.sources.length = 2 ∧ s.searches.length = 1))
    (by rw [parse_ofList]; decide +kernel)
  exact ⟨s, hs, parse_wellFormed hs, of_decide_eq_true hcheck⟩

/-- **The id of a reference is its place in the text.** The ids of all references, from the SELECT
list over the join conditions and the WHERE tree to the ORDER BY list, are `0, 1, 2, …`, and each of
them leads back to its reference. -/
theorem references_numbered (h : Statement.parse text = .ok s) :
    s.selectors.map Selector.id = List.range s.selectors.length ∧
      ∀ sel ∈ s.selectors, s.selectors[sel.id]? = some sel := by
  obtain ⟨hwritten, -⟩ := (parse_outcome text).1 s h
  have hids := hwritten.ids_eq
  refine ⟨hids, fun sel hsel => ?_⟩
  obtain ⟨i, hi, rfl⟩ := List.mem_iff_getElem.1 hsel
  have hid : (s.selectors[i]).id = i := by
    have hat := List.getElem_of_eq hids (i := i) (by simpa using hi)
    simpa using hat
  rw [hid, List.getElem?_eq_getElem hi]

/-- Functions, columns and the qualifier of a folder test in all four clauses. -/
theorem references_numbered_clauses : ∃ s,
    Statement.parse "SELECT S(),a FROM t JOIN u ON a=b WHERE IN_TREE(d,'r')AND NOT c=F()ORDER BY b" =
      .ok s ∧ s.selectors.map Selector.id = [0, 1, 2, 3, 4, 5, 6, 7] ∧
      s.selectors[4]? = some (.column ⟨4, some "d", wildcard⟩) := by
  obtain ⟨s, hs, hcheck⟩ := exists_of_any_toOption
    (x := Statement.parse
      "SELECT S(),a FROM t JOIN u ON a=b WHERE IN_TREE(d,'r')AND NOT c=F()ORDER BY b")
    (p := fun s => decide (s.selectors.length = 8 ∧
      Selector.column ⟨4, some "d", wildcard⟩ ∈ s.selectors))
    (by rw [parse_ofList]; decide +kernel)
  obtain ⟨hlength, hmem⟩ := of_decide_eq_true hcheck
  obtain ⟨hids, hplaces⟩ := references_numbered hs
  refine ⟨s, hs, ?_, hplaces _ hmem⟩
  rw [hids, hlength]
  rfl

end Statement

end ContentQuery
