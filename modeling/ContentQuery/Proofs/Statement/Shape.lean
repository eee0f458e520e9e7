import ContentQuery.Proofs.Literal
import ContentQuery.Statement.Predicate

/-!
# The shape of a statement

`Predicate.IsCondition` says which trees a WHERE clause may hold: tests with operands, literals and
lists of literals in their places, under AND, OR and NOT. `Statement.selectors` lists the columns
and functions that a statement refers to in the order of its text, the qualifiers of folder tests
among them, and `Statement.searches` its full-text searches.
-/

set_option autoImplicit false

namespace ContentQuery

@[simp] theorem Selector.id_column (c : ColumnRef) : (Selector.column c).id = c.id := rfl

@[simp] theorem Selector.id_function (f : FunctionRef) : (Selector.function f).id = f.id := rfl

namespace Predicate

/-! ## Conditions -/

/-- A literal token. -/
def IsLiteral (p : Predicate) : Prop := ∃ raw, p = .literal raw

/-- What may stand beside an operator. -/
inductive IsOperand : Predicate → Prop
  | column (c : ColumnRef) : IsOperand (.column c)
  | literal (raw : String) : IsOperand (.literal raw)
  | score (f : FunctionRef) : IsOperand (.score f)

/-- A tree that says something true or false of a row. -/
inductive IsCondition : Predicate → Prop
  | compare (op : Comparison) {l r : Predicate} :
      l.IsOperand → r.IsOperand → IsCondition (.relation (.compare op) l r)
  | isIn (negated : Bool) {l : Predicate} {items : List Predicate} :
      l.IsOperand → items ≠ [] → (∀ i ∈ items, i.IsLiteral) →
      IsCondition (.relation (.isIn negated) l (.literalList items))
  | anyIn (negated : Bool) (c : ColumnRef) {items : List Predicate} :
      items ≠ [] → (∀ i ∈ items, i.IsLiteral) →
      IsCondition (.relation (.anyIn negated) (.column c) (.literalList items))
  | equalsAny {l : Predicate} (c : ColumnRef) :
      l.IsOperand → IsCondition (.relation .equalsAny l (.column c))
  | like (negated : Bool) {l : Predicate} {raw : String} :
      l.IsOperand → Literal.IsToken raw → IsCondition (.relation (.like negated) l (.literal raw))
  | isNull (negated : Bool) {l : Predicate} : l.IsOperand → IsCondition (.isNull negated l)
  | contains (qualifier : Option String) (search : FullText.Tree) :
      IsCondition (.contains qualifier search)
  | inFolder (scope : FolderScope) (raw : String) : IsCondition (.inFolder scope (.literal raw))
  | inFolderOf (scope : FolderScope) (id : SelectorId) (q raw : String) :
      IsCondition (.inFolderOf scope (.column ⟨id, some q, wildcard⟩) (.literal raw))
  | and {l r : Predicate} : l.IsCondition → r.IsCondition → IsCondition (.and l r)
  | or {l r : Predicate} : l.IsCondition → r.IsCondition → IsCondition (.or l r)
  | not {p : Predicate} : p.IsCondition → IsCondition (.not p)

/-! ## References -/

/-- The reference that a node is. -/
def selector? : Predicate → Option Selector
  | column c => some (.column c)
  | score f => some (.function f)
  | _ => none

/-- The columns and functions of a tree from left to right. -/
def selectors (p : Predicate) : List Selector := p.nodes.filterMap selector?

attribute [local simp] nodes selector? selectors List.filterMap_cons

@[simp] theorem selectors_relation (r : Relation) (l rt : Predicate) :
    (relation r l rt).selectors = l.selectors ++ rt.selectors := by
  simp

@[simp] theorem selectors_and (l r : Predicate) :
    (and l r).selectors = l.selectors ++ r.selectors := by
  simp

@[simp] theorem selectors_or (l r : Predicate) :
    (or l r).selectors = l.selectors ++ r.selectors := by
  simp

@[simp] theorem selectors_not (p : Predicate) : (not p).selectors = p.selectors := by
  simp

@[simp] theorem selectors_isNull (negated : Bool) (p : Predicate) :
    (isNull negated p).selectors = p.selectors := by
  simp

@[simp] theorem selectors_contains (q : Option String) (search : FullText.Tree) :
    (contains q search).selectors = [] := rfl

@[simp] theorem selectors_inFolder (scope : FolderScope) (folder : Predicate) :
    (inFolder scope folder).selectors = folder.selectors := by
  simp

@[simp] theorem selectors_inFolderOf (scope : FolderScope) (q folder : Predicate) :
    (inFolderOf scope q folder).selectors = q.selectors ++ folder.selectors := by
  simp

@[simp] theorem selectors_score (f : FunctionRef) : (score f).selectors = [.function f] := rfl

@[simp] theorem selectors_column (c : ColumnRef) : (column c).selectors = [.column c] := rfl

@[simp] theorem selectors_literal (raw : String) : (literal raw).selectors = [] := rfl

theorem nodesOfAll_literals {items : List Predicate} (h : ∀ i ∈ items, i.IsLiteral) :
    nodesOfAll items = items := by
  induction items with
  | nil => rfl
  | cons i items ih =>
    obtain ⟨raw, rfl⟩ := h i List.mem_cons_self
    simp [nodesOfAll, nodes, ih fun j hj => h j (List.mem_cons_of_mem _ hj)]

/-- A list of literals refers to nothing. -/
theorem selectors_literalList {items : List Predicate} (h : ∀ i ∈ items, i.IsLiteral) :
    (literalList items).selectors = [] := by
  simp only [selectors, nodes, nodesOfAll_literals h, List.filterMap_eq_nil_iff]
  intro p hp
  rcases List.mem_cons.1 hp with rfl | hp
  · rfl
  · obtain ⟨raw, rfl⟩ := h p hp
    rfl

/-! ## Full-text searches -/

/-- The search of a CONTAINS node, with its qualifier. -/
def search? : Predicate → Option (Option String × FullText.Tree)
  | contains qualifier search => some (qualifier, search)
  | _ => none

/-- The full-text searches of a tree from left to right. -/
def searches (p : Predicate) : List (Option String × FullText.Tree) := p.nodes.filterMap search?

/-! ## Visits -/

theorem IsOperand.nodes_eq {p : Predicate} (h : p.IsOperand) : p.nodes = [p] := by
  cases h <;> rfl

/-- Below a relation there are operands and lists only. -/
theorem IsCondition.eq_of_mem_relation {r : Relation} {left right node : Predicate}
    (hc : (relation r left right).IsCondition) (h : node ∈ (relation r left right).nodes)
    (hop : ¬node.IsOperand) (hlist : ∀ items, node ≠ literalList items) :
    node = relation r left right := by
  have hoperand {q : Predicate} (hq : q.IsOperand) : node ∉ q.nodes := by
    rw [hq.nodes_eq, List.mem_singleton]
    rintro rfl
    exact hop hq
  have hitems {items : List Predicate} (hall : ∀ i ∈ items, i.IsLiteral) :
      node ∉ (literalList items).nodes := by
    rw [nodes, nodesOfAll_literals hall]
    intro hmem
    rcases List.mem_cons.1 hmem with rfl | hmem
    · exact hlist items rfl
    · obtain ⟨raw, rfl⟩ := hall _ hmem
      exact hop (.literal raw)
  have hbelow : node ∉ left.nodes ∧ node ∉ right.nodes := by
    cases hc with
    | compare op hl hr => exact ⟨hoperand hl, hoperand hr⟩
    | isIn negated hl hne hall => exact ⟨hoperand hl, hitems hall⟩
    | anyIn negated c hne hall => exact ⟨hoperand (.column c), hitems hall⟩
    | equalsAny c hl => exact ⟨hoperand hl, hoperand (.column c)⟩
    | @like negated _ raw hl ht => exact ⟨hoperand hl, hoperand (.literal raw)⟩
  rw [nodes, List.mem_cons, List.mem_append] at h
  exact h.resolve_right (not_or.2 hbelow)

/-- The nodes of a condition other than its operands and lists are conditions, and are visited. -/
theorem IsCondition.of_mem_nodes {p node : Predicate} (hc : p.IsCondition) (h : node ∈ p.nodes)
    (hop : ¬node.IsOperand) (hlist : ∀ items, node ≠ literalList items) :
    node.IsCondition ∧ .ok (.on node) ∈ p.trace := by
  have hoperand {q : Predicate} (hq : q.IsOperand) : node ∉ q.nodes := by
    rw [hq.nodes_eq, List.mem_singleton]
    rintro rfl
    exact hop hq
  have hrelation {r : Relation} {left right : Predicate} (hc : (relation r left right).IsCondition)
      (h : node ∈ (relation r left right).nodes) :
      node.IsCondition ∧ .ok (.on node) ∈ (relation r left right).trace := by
    obtain rfl := hc.eq_of_mem_relation h hop hlist
    exact ⟨hc, by simp [trace]⟩
  induction hc with
  | compare op hl hr => exact hrelation (.compare op hl hr) h
  | isIn negated hl hne hall => exact hrelation (.isIn negated hl hne hall) h
  | anyIn negated c hne hall => exact hrelation (.anyIn negated c hne hall) h
  | equalsAny c hl => exact hrelation (.equalsAny c hl) h
  | like negated hl ht => exact hrelation (.like negated hl ht) h
  | isNull negated hl =>
    rcases List.mem_cons.1 h with rfl | h
    · exact ⟨.isNull negated hl, List.mem_singleton_self _⟩
    · exact absurd h (hoperand hl)
  | contains qualifier search =>
    obtain rfl := List.mem_singleton.1 h
    exact ⟨.contains qualifier search, List.mem_singleton_self _⟩
  | inFolder which raw =>
    rcases List.mem_cons.1 h with rfl | h
    · exact ⟨.inFolder which raw, by simp [trace]⟩
    · exact absurd h (hoperand (.literal raw))
  | inFolderOf which id q raw =>
    rcases List.mem_cons.1 h with rfl | h
    · exact ⟨.inFolderOf which id q raw, by simp [trace]⟩
    · rcases List.mem_append.1 h with h | h
      · exact absurd h (hoperand (.column _))
      · exact absurd h (hoperand (.literal raw))
  | and hl hr ihl ihr =>
    rw [nodes, List.mem_cons, List.mem_append] at h
    rcases h with rfl | h | h
    · exact ⟨.and hl hr, by simp [trace]⟩
    · exact ⟨(ihl h).1, by simp [trace, (ihl h).2]⟩
    · exact ⟨(ihr h).1, by simp [trace, (ihr h).2]⟩
  | or hl hr ihl ihr =>
    rw [nodes, List.mem_cons, List.mem_append] at h
    rcases h with rfl | h | h
    · exact ⟨.or hl hr, by simp [trace]⟩
    · exact ⟨(ihl h).1, by simp [trace, (ihl h).2]⟩
    · exact ⟨(ihr h).1, by simp [trace, (ihr h).2]⟩
  | not hp ih =>
    rw [nodes, List.mem_cons] at h
    rcases h with rfl | h
    · exact ⟨.not hp, by simp [trace]⟩
    · exact ⟨(ih h).1, by simp [trace, (ih h).2]⟩

/-- A trace visits the nodes of its tree. -/
theorem nodes_subset_of_mem_trace {p node : Predicate} (h : .ok (.on node) ∈ p.trace) :
    node.nodes ⊆ p.nodes := by
  fun_induction trace p with
  | case1 r left right ihl ihr | case8 which left right ihl ihr =>
    simp only [List.mem_append, List.mem_cons, Except.ok.injEq, Visit.on.injEq] at h
    rcases h with h | rfl | h
    · exact List.Subset.trans (ihl h) (by simp [nodes])
    · exact List.Subset.refl _
    · exact List.Subset.trans (ihr h) (by simp [nodes])
  | case2 left right ihl ihr | case3 left right ihl ihr =>
    simp only [List.cons_append, List.mem_append, List.mem_cons, Except.ok.injEq, reduceCtorEq,
      Visit.on.injEq, List.not_mem_nil, or_false, false_or] at h
    rcases h with h | rfl | h
    · exact List.Subset.trans (ihl h) (by simp [nodes])
    · exact List.Subset.refl _
    · exact List.Subset.trans (ihr h) (by simp [nodes])
  | case4 operand ih =>
    simp only [List.cons_append, List.mem_append, List.mem_cons, Except.ok.injEq, reduceCtorEq,
      Visit.on.injEq, List.not_mem_nil, or_false, false_or] at h
    rcases h with rfl | h
    · exact List.Subset.refl _
    · exact List.Subset.trans (ih h) (by simp [nodes])
  | case7 which folder ih =>
    simp only [List.mem_cons, Except.ok.injEq, Visit.on.injEq] at h
    rcases h with rfl | h
    · exact List.Subset.refl _
    · exact List.Subset.trans (ih h) (by simp [nodes])
  | case11 raw => cases hv : (literal raw).literalValue? <;> simp [hv, Except.map] at h
  | case12 items => cases hv : (literalList items).literalValues? <;> simp [hv, Except.map] at h
  | _ =>
    simp only [List.mem_singleton, Except.ok.injEq, Visit.on.injEq] at h
    subst h
    exact List.Subset.refl _

end Predicate

/-- The columns of a join condition. -/
def JoinSpec.selectors (j : JoinSpec) : List Selector := [.column j.left, .column j.right]

/-- The references of a WHERE clause. -/
def filterSelectors : Option Predicate → List Selector
  | some p => p.selectors
  | none => []

/-- The full-text searches of a statement. -/
def Statement.searches (s : Statement) : List (Option String × FullText.Tree) :=
  match s.filter with
  | some p => p.searches
  | none => []

/-- All references of a statement in the order of its text. -/
def Statement.selectors (s : Statement) : List Selector :=
  s.select.map SelectItem.selector ++ s.joins.flatMap JoinSpec.selectors
    ++ filterSelectors s.filter ++ s.orderBy.map SortSpec.selector

end ContentQuery
