import ContentQuery.Proofs.Binding.Steps
import Mathlib.Tactic.Tauto

/-!
# What binding checks in a WHERE tree

`Checked B visit` is what the binder has made sure of once it is past a visit, in terms of the
bindings `B` at the end: the operands of a relation are properties of the right cardinality and
kind, patterns and folders are strings, a full-text search is the recorded one. `bindFilter_ensures`
says that all visits to a WHERE tree are checked, and that none of its literals is malformed.
-/

set_option autoImplicit false

namespace ContentQuery.Binding

/-! ## Checked operands -/

/-- A node is a column that stands for a property. -/
def Names (B : Bindings) (node : Predicate) (p : PropertyDefinition) : Prop :=
  ∃ c aliasName typeId,
    node = .column c ∧ B.resolved.get? c.id = some (.property aliasName typeId p)

/-- A node is a string literal. -/
def IsText (node : Predicate) : Prop := ∃ text, node.literalValue? = .ok (.string text)

/-- The operands of comparisons. Booleans have no order. -/
inductive Comparable (B : Bindings) (op : Comparison) : Predicate → Prop
  | property {node : Predicate} {p : PropertyDefinition} :
      Names B node p → p.isMultiValued = false →
      (op.isOrdering = true → p.kind ≠ .boolean) → Comparable B op node
  | scoreAlias {c : ColumnRef} : B.resolved.get? c.id = some .score → Comparable B op (.column c)
  | literal {raw : String} :
      (op.isOrdering = true → ∃ v, Literal.value? raw = .ok v ∧ v.kind ≠ .boolean) →
      Comparable B op (.literal raw)
  | score {f : FunctionRef} : B.resolved.get? f.id = some .score → Comparable B op (.score f)

/-- The operands of a relation are such as it takes. -/
def RelationChecked (B : Bindings) (r : Relation) (left right : Predicate) : Prop :=
  match r with
  | .compare op => Comparable B op left ∧ Comparable B op right
  | .isIn _ => ∃ p, Names B left p ∧ p.isMultiValued = false
  | .anyIn _ => ∃ p, Names B left p ∧ p.isMultiValued = true
  | .equalsAny => ∃ p, Names B right p ∧ p.isMultiValued = true
  | .like _ =>
    (∃ p, Names B left p ∧ p.isMultiValued = false ∧ (p.kind = .string ∨ p.kind = .id)) ∧
      IsText right

/-- The full-text search is the recorded one. The type that it is about is indexed, and is the
only one if the search does not say which. All terms decode. -/
structure SearchChecked (B : Bindings) (qualifier : Option String) (search : FullText.Tree) :
    Prop where
  recorded : B.fullText = some ⟨qualifier.getD B.defaultAlias, search⟩
  indexed : ∃ t, B.types.get? (qualifier.getD B.defaultAlias) = some t ∧ t.fulltextIndexed = true
  decodes : search.check = .ok ()
  onlyType : qualifier = none → B.types.size ≤ 1

/-- What is known of a visit that has been bound. -/
def Checked (B : Bindings) : Predicate.Visit → Prop
  | .on (.relation r left right) => RelationChecked B r left right
  | .on (.isNull _ operand) => ∃ p, Names B operand p
  | .on (.contains qualifier search) => SearchChecked B qualifier search
  | .on (.inFolder _ folder) => B.types.size ≤ 1 ∧ IsText folder
  | .on (.inFolderOf _ qualifier folder) =>
    (∃ c q, qualifier = .column c ∧ c.isWildcard = true ∧ c.qualifier = some q) ∧ IsText folder
  | .on (.score f) => B.resolved.get? f.id = some .score
  | .on (.column c) => ∃ r, B.resolved.get? c.id = some r
  | _ => True

/-- All visits of a trace are checked, and there is no error among them. -/
def TraceChecked (B : Bindings) (trace : List (Except LiteralError Predicate.Visit)) : Prop :=
  ∀ entry ∈ trace, ∃ visit, entry = .ok visit ∧ Checked B visit

@[simp] theorem traceChecked_append {B : Bindings}
    {t t' : List (Except LiteralError Predicate.Visit)} :
    TraceChecked B (t ++ t') ↔ TraceChecked B t ∧ TraceChecked B t' :=
  List.forall_mem_append

@[simp] theorem traceChecked_cons {B : Bindings} {visit : Predicate.Visit}
    {t : List (Except LiteralError Predicate.Visit)} :
    TraceChecked B (.ok visit :: t) ↔ Checked B visit ∧ TraceChecked B t := by
  refine List.forall_mem_cons.trans (and_congr_left fun _ => ?_)
  exact ⟨fun ⟨_, he, h⟩ => by cases he; exact h, fun h => ⟨visit, rfl, h⟩⟩

/-- The visit to a literal makes sure that it decodes. -/
theorem TraceChecked.literalValue? {B : Bindings} {raw : String}
    (h : TraceChecked B (Predicate.literal raw).trace) :
    ∃ v, (Predicate.literal raw).literalValue? = .ok v := by
  obtain ⟨visit, hv, -⟩ := h _ (List.mem_singleton_self _)
  cases hl : (Predicate.literal raw).literalValue? with
  | error fault => rw [hl] at hv; cases hv
  | ok v => exact ⟨v, rfl⟩

/-- The visit to a list of literals makes sure that all of them decode. -/
theorem TraceChecked.literalValues? {B : Bindings} {items : List Predicate}
    (h : TraceChecked B (Predicate.literalList items).trace) :
    ∃ vs, (Predicate.literalList items).literalValues? = .ok vs := by
  obtain ⟨visit, hv, -⟩ := h _ (List.mem_singleton_self _)
  cases hl : (Predicate.literalList items).literalValues? with
  | error fault => rw [hl] at hv; cases hv
  | ok vs => exact ⟨vs, rfl⟩

/-! ## Operands -/

variable {scope : Scope} {node left right folder : Predicate}

/-- The references and searches of a tree belong to the WHERE clause of the scope. -/
structure Covers (scope : Scope) (node : Predicate) : Prop where
  references : ∀ sel ∈ node.selectors, (.filter, sel) ∈ scope.references
  searches : ∀ search ∈ node.searches, search ∈ scope.searches

theorem Covers.of_subset {p : Predicate} (h : Covers scope p) (hs : node.nodes ⊆ p.nodes) :
    Covers scope node :=
  ⟨fun _ hsel => h.references _ (List.filterMap_subset _ hs hsel),
    fun _ hsearch => h.searches _ (List.filterMap_subset _ hs hsearch)⟩

theorem literalOf_ensures (node : Predicate) :
    Ensures scope (literalOf node) fun v _ => node.literalValue? = .ok v := by
  unfold literalOf
  split
  · rename_i v hv
    exact .pure fun _ => hv
  · exact .throw _

theorem checkColumn_ensures (operator : String) (h : Covers scope node) :
    Ensures scope (checkColumn operator node) fun found B => Names B node found.2 := by
  unfold checkColumn
  cases node with
  | column c =>
    refine (resolveProperty_ensures (h.references _ (by simp))).bind fun p => .pure fun B hp => ?_
    obtain ⟨aliasName, typeId, hr⟩ := hp
    exact ⟨c, aliasName, typeId, rfl, hr⟩
  | _ => exact .throw _

theorem checkSingleValued_ensures (operator : String) (h : Covers scope node) :
    Ensures scope (checkSingleValued operator node) fun p B =>
      Names B node p ∧ p.isMultiValued = false := by
  refine (checkColumn_ensures operator h).bind fun found => ?_
  exact .ite (fun _ => .throw_bind _) fun hsingle =>
    .pure fun B hp => ⟨hp, by simpa using hsingle⟩

theorem checkMultiValued_ensures (operator : String) (h : Covers scope node) :
    Ensures scope (checkMultiValued operator node) fun _ B =>
      ∃ p, Names B node p ∧ p.isMultiValued = true := by
  refine (checkColumn_ensures operator h).bind fun found => ?_
  exact .ite (fun _ => .throw _) fun hmulti => .pure fun B hp => ⟨_, hp, by simpa using hmulti⟩

/-- A literal that has been found to be a string. -/
theorem isText_of_kind {v : Value} (hv : node.literalValue? = .ok v)
    (hk : ¬(v.kind != .string) = true) : IsText node := by
  cases v with
  | string text => exact ⟨text, hv⟩
  | _ => exact absurd rfl hk

theorem checkLike_ensures (h : Covers scope left) :
    Ensures scope (checkLike left right) fun _ B => RelationChecked B (.like false) left right := by
  refine (checkSingleValued_ensures _ h).bind fun p => ?_
  refine .ite (fun _ => .throw_bind _) fun hkind => (literalOf_ensures _).bind fun v => ?_
  refine .ite (fun _ => .throw _) fun htext => .pure fun B hv hp => ?_
  refine ⟨⟨p, hp.1, hp.2, ?_⟩, isText_of_kind hv htext⟩
  by_cases hs : p.kind = .string
  · exact .inl hs
  · exact .inr (by simpa [hs] using hkind)

theorem checkOperand_ensures (op : Comparison) (h : Covers scope node) :
    Ensures scope (checkOperand op node) fun _ B => Comparable B op node := by
  unfold checkOperand
  cases node with
  | column c =>
    refine (resolveColumn_ensures (h.references _ (by simp))).bind fun r => ?_
    cases r with
    | property aliasName typeId p =>
      refine .ite (fun _ => .throw_bind _) fun hsingle => ?_
      refine .ite (fun _ => .throw _) fun hkind => .pure fun B hr => ?_
      refine .property ⟨c, aliasName, typeId, rfl, hr⟩ (by simpa using hsingle) fun ho hb => ?_
      simp [ho, hb] at hkind
    | score => exact .pure fun B hr => .scoreAlias hr
    | wildcard aliases => exact .throw _
  | literal raw =>
    refine .ite (fun _ => ?_) fun hop => .pure fun B => .literal fun ho => absurd ho hop
    refine (literalOf_ensures _).bind fun v => .ite (fun _ => .throw _) fun hkind => ?_
    exact .pure fun B hv => .literal fun _ => ⟨v, hv, by simpa using hkind⟩
  | score f =>
    exact (resolveFunction_ensures (h.references _ (by simp))).mono fun _ B hr => .score hr
  | _ => exact .throw _

theorem checkRelation_ensures (r : Relation) (hl : Covers scope left) (hr : Covers scope right) :
    Ensures scope (checkRelation r left right) fun _ B => RelationChecked B r left right := by
  unfold checkRelation
  cases r with
  | compare op =>
    refine (checkOperand_ensures op hl).bind fun _ => ?_
    exact (checkOperand_ensures op hr).mono fun _ B hright hleft => ⟨hleft, hright⟩
  | isIn negated =>
    exact (checkSingleValued_ensures _ hl).bind fun p => .pure fun B hp => ⟨p, hp⟩
  | anyIn negated => exact checkMultiValued_ensures _ hl
  | equalsAny => exact checkMultiValued_ensures _ hr
  | like negated => exact checkLike_ensures hl

/-! ## Visits -/

theorem checkFolderId_ensures (which : FolderScope) (folder : Predicate) :
    Ensures scope (checkFolderId which folder) fun _ _ => IsText folder := by
  refine (literalOf_ensures folder).bind fun v => ?_
  exact .ite (fun _ => .throw _) fun htext => .pure fun B hv => isText_of_kind hv htext

theorem checkFolderQualifier_ensures (which : FolderScope) (node : Predicate) :
    Ensures scope (checkFolderQualifier which node) fun _ _ =>
      ∃ c q, node = .column c ∧ c.isWildcard = true ∧ c.qualifier = some q := by
  unfold checkFolderQualifier
  cases node with
  | column c =>
    refine .ite (fun _ => .throw _) fun h => .pure fun B => ?_
    obtain ⟨hw, hq⟩ : c.isWildcard = true ∧ ¬c.qualifier = none := by simpa using h
    obtain ⟨q, hq⟩ := Option.ne_none_iff_exists'.1 hq
    exact ⟨c, q, rfl, hw, hq⟩
  | _ => exact .throw _

/-- Binding a visit makes sure of what `Checked` says of it. -/
theorem bindVisit_ensures {visit : Predicate.Visit}
    (h : ∀ node, visit = .on node → Covers scope node) :
    Ensures scope (bindVisit visit) fun _ B => Checked B visit := by
  cases visit with
  | before | after | value | values => exact .pure fun _ => trivial
  | on node =>
  have hc := h node rfl
  cases node with
  | relation r left right =>
    exact checkRelation_ensures r (hc.of_subset (by simp [Predicate.nodes]))
      (hc.of_subset (by simp [Predicate.nodes]))
  | isNull negated operand =>
    refine (checkColumn_ensures _ (hc.of_subset (by simp [Predicate.nodes]))).bind fun found => ?_
    exact .pure fun B hp => ⟨_, hp⟩
  | contains qualifier search =>
    have hm : (qualifier, search) ∈ (Predicate.contains qualifier search).searches :=
      List.mem_singleton_self _
    exact (bindContains_ensures (hc.searches _ hm)).mono fun _ B h => ⟨h.1, h.2.1, h.2.2.1, h.2.2.2⟩
  | inFolder which folder =>
    refine (implicitAlias_ensures _).bind fun _ => ?_
    exact (checkFolderId_ensures which folder).mono fun _ B htext hsize => ⟨hsize, htext⟩
  | inFolderOf which qualifier folder =>
    refine (checkFolderQualifier_ensures which qualifier).bind fun _ => ?_
    exact (checkFolderId_ensures which folder).mono fun _ B htext hq => ⟨hq, htext⟩
  | score f => exact resolveFunction_ensures (hc.references _ (by simp))
  | column c =>
    refine (resolveColumn_ensures (hc.references _ (by simp))).bind fun r => ?_
    exact .pure fun B hr => ⟨r, hr⟩
  | and | or | not | literal | literalList => exact .pure fun _ => trivial

/-- Binding a trace makes sure of all its visits. -/
theorem bindTrace_ensures {trace : List (Except LiteralError Predicate.Visit)}
    (h : ∀ node, .ok (.on node) ∈ trace → Covers scope node) :
    Ensures scope (bindTrace trace) fun _ B => TraceChecked B trace := by
  refine .forM fun entry hentry => ?_
  cases entry with
  | error e => exact .throw _
  | ok visit =>
    exact (bindVisit_ensures fun node hn => h node (hn ▸ hentry)).mono fun _ B hc =>
      ⟨visit, rfl, hc⟩

/-- **Binding a WHERE tree** makes sure of all visits to it. -/
theorem bindFilter_ensures {filter : Option Predicate} (h : ∀ p ∈ filter, Covers scope p) :
    Ensures scope (bindFilter filter) fun _ B => ∀ p ∈ filter, TraceChecked B p.trace := by
  cases filter with
  | none => exact .pure fun _ => nofun
  | some p =>
    have hp := h p rfl
    refine (bindTrace_ensures fun node hn => ?_).mono fun _ B hB => by simpa using hB
    exact hp.of_subset (Predicate.nodes_subset_of_mem_trace hn)

/-! ## Whole trees -/

/-- Only literals have values. -/
theorem isLiteral_of_mapM {items : List Predicate} {vs : List Value}
    (h : items.mapM Predicate.literalValue? = .ok vs) : ∀ i ∈ items, i.IsLiteral := by
  intro i hi
  obtain ⟨v, hv⟩ := mapM_eq_ok h i hi
  cases i with
  | literal raw => exact ⟨raw, rfl⟩
  | _ => cases hv

/-- The visits to a tree below are checked with those to the tree, also where the visits do not
reach it, which is at the operands of null tests and at the items of lists. -/
theorem TraceChecked.of_mem {B : Bindings} {p node : Predicate} (h : TraceChecked B p.trace)
    (hnode : node ∈ p.nodes) : TraceChecked B node.trace := by
  fun_induction Predicate.trace p with
  | case1 r left right ihl ihr | case2 left right ihl ihr | case3 left right ihl ihr
  | case8 which left right ihl ihr =>
    have hvisits := h
    simp only [List.cons_append, traceChecked_append, traceChecked_cons] at hvisits
    rw [Predicate.nodes, List.mem_cons, List.mem_append] at hnode
    rcases hnode with rfl | hnode | hnode
    · exact h
    · exact ihl (by tauto) hnode
    · exact ihr (by tauto) hnode
  | case4 operand ih | case7 which operand ih =>
    have hvisits := h
    simp only [List.cons_append, traceChecked_append, traceChecked_cons] at hvisits
    rw [Predicate.nodes, List.mem_cons] at hnode
    rcases hnode with rfl | hnode
    · exact h
    · exact ih (by tauto) hnode
  | case5 negated operand =>
    -- the operand is not visited, but the test itself makes sure that it is a column
    obtain ⟨⟨p, c, aliasName, typeId, rfl, hr⟩, -⟩ := traceChecked_cons.1 h
    simp only [Predicate.nodes, List.mem_cons, List.not_mem_nil, or_false] at hnode
    rcases hnode with rfl | rfl
    · exact h
    · exact traceChecked_cons.2 ⟨⟨_, hr⟩, List.forall_mem_nil _⟩
  | case6 | case9 | case10 | case11 =>
    obtain rfl := List.mem_singleton.1 hnode
    exact h
  | case12 items =>
    obtain ⟨vs, hvs⟩ := h.literalValues?
    rw [Predicate.nodes, Predicate.nodesOfAll_literals (isLiteral_of_mapM hvs),
      List.mem_cons] at hnode
    rcases hnode with rfl | hnode
    · exact h
    · obtain ⟨raw, rfl⟩ := isLiteral_of_mapM hvs node hnode
      obtain ⟨v, hv⟩ := mapM_eq_ok hvs _ hnode
      rw [Predicate.trace, hv]
      exact traceChecked_cons.2 ⟨trivial, List.forall_mem_nil _⟩

/-- A relation in such a tree has operands that are checked on their own and as those of the
relation. -/
theorem TraceChecked.relation_of_mem {B : Bindings} {p left right : Predicate} {r : Relation}
    (h : TraceChecked B p.trace) (hnode : .relation r left right ∈ p.nodes) :
    TraceChecked B left.trace ∧ RelationChecked B r left right ∧ TraceChecked B right.trace := by
  have hvisits := h.of_mem hnode
  rw [Predicate.trace, traceChecked_append, traceChecked_cons] at hvisits
  exact hvisits

/-- **Every node of a tree whose visits are checked** is checked. -/
theorem TraceChecked.of_mem_nodes {B : Bindings} {p node : Predicate} (h : TraceChecked B p.trace)
    (hnode : node ∈ p.nodes) : Checked B (.on node) := by
  have hvisits := h.of_mem hnode
  cases node with
  | literal | literalList => exact trivial
  | _ =>
    simp only [Predicate.trace, List.cons_append, traceChecked_append, traceChecked_cons]
      at hvisits
    tauto

/-- Every reference in such a tree has an entry. -/
theorem TraceChecked.resolved {B : Bindings} {p : Predicate} (h : TraceChecked B p.trace) :
    ∀ sel ∈ p.selectors, ∃ r, B.resolved.get? sel.id = some r := by
  intro sel hsel
  obtain ⟨node, hnode, hsel⟩ := List.mem_filterMap.1 hsel
  have hchecked := h.of_mem_nodes hnode
  cases node with
  | column c =>
    cases hsel
    exact hchecked
  | score f =>
    cases hsel
    exact ⟨_, hchecked⟩
  | _ => cases hsel

end ContentQuery.Binding
