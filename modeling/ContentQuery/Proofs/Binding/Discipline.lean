import ContentQuery.Proofs.Binding.Bound
import ContentQuery.Proofs.FullText.Matching
import ContentQuery.Proofs.Statement.Parsed

/-!
# Operands of bound statements

`BoundStatement.Disciplined` says of a bound statement that all its operators have operands which
they can take, one field for each kind of promise. The main statement is `operands_disciplined`:
every statement that is parsed and bound is disciplined.

Most of it is what binding checks at the visits to the WHERE tree, carried over to all nodes
(`TraceChecked.of_mem_nodes`, `TraceChecked.decodes`). That there is no second CONTAINS
is not a fact about one visit: a search that has been recorded stays, and the next one is refused
(`bindTrace_searches`).
-/

set_option autoImplicit false

namespace ContentQuery

open Binding

/-! ## Literals -/

/-- A literal has a value, and so has each item of a list of literals. -/
def Predicate.Decodes : Predicate → Prop
  | .literal raw => ∃ v, Literal.value? raw = .ok v
  | .literalList items => ∀ i ∈ items, ∃ v, i.literalValue? = .ok v
  | _ => True

namespace Binding

/-- A tree whose visits are checked has no malformed literal anywhere. -/
theorem TraceChecked.decodes {B : Bindings} {p : Predicate} (h : TraceChecked B p.trace) :
    ∀ node ∈ p.nodes, node.Decodes := by
  intro node hnode
  have hvisits := h.of_mem hnode
  cases node with
  | literal raw => exact hvisits.literalValue?
  | literalList items =>
    obtain ⟨vs, hvs⟩ := hvisits.literalValues?
    exact mapM_eq_ok hvs
  | _ => exact trivial

/-! ## Full-text searches -/

/-- The search that a visit is about. -/
def searchOf? : Except LiteralError Predicate.Visit → Option (Option String × FullText.Tree)
  | .ok (.on node) => node.search?
  | _ => none

theorem filterMap_searchOf?_literal (raw : String) :
    (Predicate.literal raw).trace.filterMap searchOf? = [] := by
  cases hv : (Predicate.literal raw).literalValue? <;>
    simp [Predicate.trace, hv, Except.map, searchOf?]

/-- There are no searches in a tree, nor are any visited. -/
def WithoutSearch (p : Predicate) : Prop := p.trace.filterMap searchOf? = [] ∧ p.searches = []

theorem WithoutSearch.of_isOperand {p : Predicate} (h : p.IsOperand) : WithoutSearch p := by
  cases h with
  | literal raw => exact ⟨filterMap_searchOf?_literal raw, rfl⟩
  | column c => exact ⟨rfl, rfl⟩
  | score f => exact ⟨rfl, rfl⟩

theorem WithoutSearch.literalList {items : List Predicate} (h : ∀ i ∈ items, i.IsLiteral) :
    WithoutSearch (.literalList items) := by
  constructor
  · cases hv : (Predicate.literalList items).literalValues? <;>
      simp [Predicate.trace, hv, Except.map, searchOf?]
  · rw [Predicate.searches, Predicate.nodes, Predicate.nodesOfAll_literals h,
      List.filterMap_eq_nil_iff]
    intro i hi
    rcases List.mem_cons.1 hi with rfl | hi
    · rfl
    · obtain ⟨raw, rfl⟩ := h i hi
      rfl

theorem WithoutSearch.relation {left right : Predicate} (hl : WithoutSearch left)
    (hr : WithoutSearch right) (r : Relation) : WithoutSearch (.relation r left right) := by
  obtain ⟨hl, hleft⟩ := hl
  obtain ⟨hr, hright⟩ := hr
  unfold WithoutSearch Predicate.searches at *
  rw [Predicate.trace, Predicate.nodes, List.filterMap_append, List.filterMap_cons_none rfl,
    List.filterMap_cons_none rfl, List.filterMap_append, hl, hr, hleft, hright]
  exact ⟨rfl, rfl⟩

/-- A condition has its searches visited once each, in their order. -/
theorem filterMap_searchOf?_trace {p : Predicate} (hc : p.IsCondition) :
    p.trace.filterMap searchOf? = p.searches := by
  have hnone {q : Predicate} (h : WithoutSearch q) : q.trace.filterMap searchOf? = q.searches :=
    h.1.trans h.2.symm
  induction hc with
  | compare op hl hr => exact hnone (.relation (.of_isOperand hl) (.of_isOperand hr) _)
  | isIn negated hl hne hall => exact hnone (.relation (.of_isOperand hl) (.literalList hall) _)
  | anyIn negated c hne hall =>
    exact hnone (.relation (.of_isOperand (.column c)) (.literalList hall) _)
  | equalsAny c hl => exact hnone (.relation (.of_isOperand hl) (.of_isOperand (.column c)) _)
  | like negated hl ht =>
    exact hnone (.relation (.of_isOperand hl) (.of_isOperand (.literal _)) _)
  | isNull negated hl => cases hl <;> rfl
  | contains qualifier search => rfl
  | inFolder which raw =>
    rw [Predicate.trace, List.filterMap_cons_none rfl, filterMap_searchOf?_literal]
    rfl
  | inFolderOf which id q raw =>
    rw [Predicate.trace, List.filterMap_append, List.filterMap_cons_none rfl,
      filterMap_searchOf?_literal]
    rfl
  | and _ _ ihl ihr | or _ _ ihl ihr =>
    unfold Predicate.searches at ihl ihr ⊢
    simp [Predicate.trace, Predicate.nodes, List.filterMap_cons, ihl, ihr, searchOf?,
      Predicate.search?]
  | not _ ih =>
    unfold Predicate.searches at ih ⊢
    simp [Predicate.trace, Predicate.nodes, List.filterMap_cons, ih, searchOf?,
      Predicate.search?]

variable {scope : Scope}

/-- A search is bound only where none has been. -/
theorem bindContains_fresh {qualifier : Option String} {search : FullText.Tree} {b b' : Bindings}
    (h : (bindContains qualifier search).run b = .ok ((), b')) : b.fullText = none := by
  unfold bindContains at h
  obtain ⟨_, _, hget, hrest⟩ := run_bind_eq_ok.1 h
  cases hget
  by_cases hsome : b.fullText.isSome = true
  · rw [if_pos hsome] at hrest
    cases hrest
  · exact Option.not_isSome_iff_eq_none.1 hsome

/-- **There is one search at most.** Binding a trace leaves a recorded search where it is, so that
none may follow, and the first search is the only one. -/
theorem bindTrace_searches {trace : List (Except LiteralError Predicate.Visit)} {b b' : Bindings}
    (hcovers : ∀ node, .ok (.on node) ∈ trace → Covers scope node) (hs : Sound scope b)
    (hrun : (bindTrace trace).run b = .ok ((), b')) :
    (b.fullText.isSome = true → trace.filterMap searchOf? = []) ∧
      (trace.filterMap searchOf?).length ≤ 1 := by
  induction trace generalizing b with
  | nil => exact ⟨fun _ => rfl, Nat.zero_le _⟩
  | cons entry trace ih =>
    obtain ⟨_, mid, hentry, hrest⟩ := run_bind_eq_ok.1 hrun
    cases entry with
    | error fault => cases hentry
    | ok visit =>
    have hvisit : Ensures scope (bindVisit visit) fun _ B => Checked B visit := by
      refine bindVisit_ensures fun node hn => hcovers node ?_
      rw [hn]
      exact List.mem_cons_self
    obtain ⟨hmid, hgrows, hchecked⟩ := hvisit b () mid hs hentry
    obtain ⟨hnone, hone⟩ := ih (fun node hn => hcovers node (List.mem_cons_of_mem _ hn)) hmid hrest
    cases hsearch : searchOf? (.ok visit) with
    | none =>
      rw [List.filterMap_cons_none hsearch]
      refine ⟨fun hsome => hnone ?_, hone⟩
      obtain ⟨clause, hclause⟩ := Option.isSome_iff_exists.1 hsome
      rw [hgrows.fullText hclause]
      rfl
    | some found =>
      -- Only CONTAINS has a search, and it records it.
      obtain ⟨qualifier, search, rfl⟩ : ∃ qualifier search,
          visit = .on (.contains qualifier search) := by
        cases visit with
        | on node =>
          cases node with
          | contains qualifier search => exact ⟨qualifier, search, rfl⟩
          | _ => cases hsearch
        | _ => cases hsearch
      have hfresh : b.fullText = none := bindContains_fresh hentry
      have hrecorded : mid.fullText.isSome = true := by
        rw [(hchecked mid (.refl mid)).recorded]
        rfl
      rw [List.filterMap_cons_some hsearch, hnone hrecorded]
      refine ⟨fun hsome => ?_, Nat.le_refl _⟩
      rw [hfresh] at hsome
      cases hsome

end Binding

/-! ## Bound statements -/

/-- A search or folder test that does not say which of the types it is about. -/
def Predicate.IsUnqualified : Predicate → Prop
  | .contains none _ => True
  | .inFolder _ _ => True
  | _ => False

/-- All operators of a bound statement have operands that they can take. -/
structure BoundStatement.Disciplined (bound : BoundStatement) : Prop where
  /-- Comparisons, lists and patterns are about properties with one value or the score, and
  quantified tests about properties with many. What stands before `= ANY` is free. -/
  relations : ∀ p ∈ bound.statement.filter, ∀ r left right, .relation r left right ∈ p.nodes →
    RelationChecked bound.bindings r left right
  literals : ∀ p ∈ bound.statement.filter, ∀ node ∈ p.nodes, node.Decodes
  terms : ∀ found ∈ bound.statement.searches, found.2.Decodes
  orderBy : ∀ spec ∈ bound.statement.orderBy, SortChecked bound.bindings spec.selector
  oneSearch : bound.statement.searches.length ≤ 1
  /-- The clause that is recorded is that of the search in the tree, if there is one. -/
  fullText : bound.bindings.fullText = bound.statement.searches.head?.map fun found =>
    ⟨found.1.getD bound.bindings.defaultAlias, found.2⟩
  indexed : ∀ clause ∈ bound.bindings.fullText, ∃ t,
    bound.bindings.types.get? clause.aliasName = some t ∧ t.fulltextIndexed = true
  onlyType : ∀ p ∈ bound.statement.filter, ∀ node ∈ p.nodes, node.IsUnqualified →
    bound.statement.sources.length = 1

section
variable {catalog : Catalog} {bound : BoundStatement}
  (h : Bound catalog bound.statement bound.bindings)

include h

/-- The nodes of a WHERE tree that are no operands have been visited and checked. -/
theorem Bound.checked {p node : Predicate} (hp : p ∈ bound.statement.filter)
    (hc : p.IsCondition) (hnode : node ∈ p.nodes) (hop : ¬node.IsOperand)
    (hlist : ∀ items, node ≠ .literalList items) : Checked bound.bindings (.on node) := by
  obtain ⟨-, hvisit⟩ := hc.of_mem_nodes hnode hop hlist
  obtain ⟨_, hvisit, hchecked⟩ := h.filter p hp _ hvisit
  cases hvisit
  exact hchecked

/-- The searches of a bound statement have been checked and recorded. -/
theorem Bound.searchChecked (hc : ∀ p ∈ bound.statement.filter, p.IsCondition)
    {qualifier : Option String} {search : FullText.Tree}
    (hm : (qualifier, search) ∈ bound.statement.searches) :
    SearchChecked bound.bindings qualifier search := by
  unfold Statement.searches at hm
  split at hm
  · rename_i p hp
    obtain ⟨node, hnode, hsearch⟩ := List.mem_filterMap.1 hm
    cases node with
    | contains q t =>
      cases hsearch
      exact h.checked hp (hc p hp) hnode nofun nofun
    | _ => cases hsearch
  · cases hm

/-- A FROM list of no more than one type is one type. -/
theorem Bound.sources_length (hfrom : Statement.IsFromList bound.statement.sources)
    (hsize : bound.bindings.types.size ≤ 1) : bound.statement.sources.length = 1 := by
  have hkeys : bound.bindings.types.keys.length = bound.statement.sources.length := by
    rw [h.keys, List.length_map]
  have hcount : bound.bindings.types.keys.length = bound.bindings.types.size := List.length_map _
  obtain ⟨first, others, hsources, -, -⟩ := hfrom
  have hpos : 0 < bound.statement.sources.length := by simp [hsources]
  omega

theorem Bound.onlyType {p node : Predicate} (hp : p ∈ bound.statement.filter) (hc : p.IsCondition)
    (hfrom : Statement.IsFromList bound.statement.sources) (hnode : node ∈ p.nodes)
    (hun : node.IsUnqualified) : bound.statement.sources.length = 1 := by
  cases node with
  | contains qualifier search =>
    cases qualifier with
    | some q => exact hun.elim
    | none =>
      have hchecked : SearchChecked bound.bindings none search := h.checked hp hc hnode nofun nofun
      exact h.sources_length hfrom (hchecked.onlyType rfl)
  | inFolder which folder =>
    have hchecked : Checked bound.bindings (.on (.inFolder which folder)) :=
      h.checked hp hc hnode nofun nofun
    exact h.sources_length hfrom hchecked.1
  | _ => exact hun.elim

end

/-- No statement is bound in which there is a second search. -/
theorem searches_length_le_one {catalog : Catalog} {s : Statement} {bound : BoundStatement}
    (hids : (s.selectors.map Selector.id).Nodup) (hc : ∀ p ∈ s.filter, p.IsCondition)
    (h : s.bind catalog = .ok bound) : s.searches.length ≤ 1 := by
  have hids := Statement.nodup_references hids
  obtain ⟨-, b, hs, -, -, -, hrest⟩ := bind_eq_ok hids h
  obtain ⟨_, mid, hjoins, hrest⟩ := run_bind_eq_ok.1 hrest
  obtain ⟨_, after, hfilter, -⟩ := run_bind_eq_ok.1 hrest
  obtain ⟨hmid, -, -⟩ := bindJoins_ensures hids b () mid hs hjoins
  unfold Statement.searches
  split
  · rename_i p hp
    rw [hp] at hfilter
    rw [← filterMap_searchOf?_trace (hc p hp)]
    refine (bindTrace_searches (fun node hn => ?_) hmid hfilter).2
    exact (covers_filter hids hp).of_subset (Predicate.nodes_subset_of_mem_trace hn)
  · exact Nat.zero_le _

/-- **Operators have operands that they can take**, in every statement that is parsed and bound. -/
theorem operands_disciplined {catalog : Catalog} {text : String} {s : Statement}
    {bound : BoundStatement} (hparse : Statement.parse text = .ok s)
    (hbind : s.bind catalog = .ok bound) : bound.statement = s ∧ bound.Disciplined := by
  obtain ⟨hc, hfrom, -⟩ := Statement.parse_issues hparse
  have hids := Statement.selectors_ids_nodup hparse
  have hone : s.searches.length ≤ 1 := searches_length_le_one hids hc hbind
  obtain ⟨rfl, h⟩ := bind_ok hids hbind
  have hrecorded : bound.bindings.fullText = bound.statement.searches.head?.map fun found =>
      ⟨found.1.getD bound.bindings.defaultAlias, found.2⟩ := by
    cases hs : bound.statement.searches with
    | nil =>
      rw [List.head?_nil, Option.map_none, ← Option.not_isSome_iff_eq_none]
      exact fun hsome => h.fullText hsome hs
    | cons found others => exact (h.searchChecked hc (hs ▸ List.mem_cons_self)).recorded
  refine ⟨rfl, ?_⟩
  exact {
    relations := fun p hp r left right hnode => h.checked hp (hc p hp) hnode nofun nofun
    literals := fun p hp => (h.filter p hp).decodes
    terms := fun found hfound => FullText.Tree.decodes_of_check (h.searchChecked hc hfound).decodes
    orderBy := h.orderBy
    oneSearch := hone
    fullText := hrecorded
    indexed := fun clause hclause => by
      rw [hrecorded] at hclause
      obtain ⟨found, hfound, rfl⟩ := Option.map_eq_some_iff.1 hclause
      exact (h.searchChecked hc (List.mem_of_mem_head? hfound)).indexed
    onlyType := fun p hp node hnode => h.onlyType hp (hc p hp) hfrom hnode }

/-- A search, a list, a pattern, a comparison and a folder test, with a column under its alias. -/
theorem operands_disciplined_sample : ∃ s bound,
    Statement.parse ("SELECT cmis:name AS n FROM cmis:document WHERE CONTAINS('a -b') AND " ++
      "n LIKE 'a%' AND (cmis:contentStreamLength >= 5 OR " ++
      "ANY cmis:secondaryObjectTypeIds IN ('x')) AND IN_TREE('r') ORDER BY n") = .ok s ∧
    s.bind .base = .ok bound ∧ s.searches.length = 1 ∧ bound.statement = s ∧
      bound.Disciplined := by
  refine exists_bound (fun s _ => decide (s.searches.length = 1)) ?_ ?_
  · rw [← String.ofList_append, ← String.ofList_append, Statement.parse_ofList]
    decide +kernel
  intro s bound hs hbound hcheck
  exact ⟨of_decide_eq_true hcheck, operands_disciplined hs hbound⟩

end ContentQuery
