import ContentQuery.Proofs.Binding.Filter
import ContentQuery.Proofs.Walks.Trees

/-!
# The nodes that a walk visits

A walk and the list of all nodes go through a WHERE tree in different orders, and a walk does not
look below a null test. `Predicate.marked` says of each node whether it is at or below the operand
of a null test. A walk that runs to its end visits those that are not, each once, apart from the
members of lists of literals: leaves come in the order of the list, and other nodes before or
between the nodes below them (`Reordered`).
-/

set_option autoImplicit false

namespace ContentQuery

/-! ## Null tests -/

namespace Predicate

mutual

/-- The nodes of a tree in the order of `nodes`, each with whether it is at or below the operand of
a null test. -/
def marked : Predicate → List (Bool × Predicate)
  | relation r left right => (false, relation r left right) :: (left.marked ++ right.marked)
  | and left right => (false, and left right) :: (left.marked ++ right.marked)
  | or left right => (false, or left right) :: (left.marked ++ right.marked)
  | not p => (false, not p) :: p.marked
  | isNull negated operand => (false, isNull negated operand) :: operand.nodes.map (Prod.mk true)
  | contains qualifier search => [(false, contains qualifier search)]
  | inFolder scope folder => (false, inFolder scope folder) :: folder.marked
  | inFolderOf scope qualifier folder =>
    (false, inFolderOf scope qualifier folder) :: (qualifier.marked ++ folder.marked)
  | score f => [(false, score f)]
  | column c => [(false, column c)]
  | literal raw => [(false, literal raw)]
  | literalList items => (false, literalList items) :: markedAll items

/-- The marked nodes of a list of trees, one tree after the other. -/
def markedAll : List Predicate → List (Bool × Predicate)
  | [] => []
  | p :: ps => p.marked ++ markedAll ps

end

mutual

theorem map_snd_marked : ∀ p : Predicate, p.marked.map Prod.snd = p.nodes
  | relation _ left right => by simp [marked, nodes, map_snd_marked left, map_snd_marked right]
  | and left right => by simp [marked, nodes, map_snd_marked left, map_snd_marked right]
  | or left right => by simp [marked, nodes, map_snd_marked left, map_snd_marked right]
  | not p => by simp [marked, nodes, map_snd_marked p]
  | isNull _ _ => by simp [marked, nodes, Function.comp_def]
  | contains _ _ => rfl
  | inFolder _ folder => by simp [marked, nodes, map_snd_marked folder]
  | inFolderOf _ qualifier folder => by
    simp [marked, nodes, map_snd_marked qualifier, map_snd_marked folder]
  | score _ => rfl
  | column _ => rfl
  | literal _ => rfl
  | literalList items => by simp [marked, nodes, map_snd_markedAll items]

theorem map_snd_markedAll : ∀ ps : List Predicate, (markedAll ps).map Prod.snd = nodesOfAll ps
  | [] => rfl
  | p :: ps => by simp [markedAll, nodesOfAll, map_snd_marked p, map_snd_markedAll ps]

end

/-- The nodes of a tree that are neither at nor below the operand of a null test, in the order of
`nodes`. -/
def outside (p : Predicate) : List Predicate := (p.marked.filter (!·.1)).map Prod.snd

section
variable (left right p operand folder qualifier : Predicate)

theorem outside_relation (r : Relation) :
    (relation r left right).outside = relation r left right :: (left.outside ++ right.outside) := by
  simp [outside, marked]

theorem outside_and :
    (and left right).outside = and left right :: (left.outside ++ right.outside) := by
  simp [outside, marked]

theorem outside_or :
    (or left right).outside = or left right :: (left.outside ++ right.outside) := by
  simp [outside, marked]

theorem outside_not : (not p).outside = not p :: p.outside := by simp [outside, marked]

theorem outside_isNull (negated : Bool) :
    (isNull negated operand).outside = [isNull negated operand] := by
  simp [outside, marked]

theorem outside_inFolder (scope : FolderScope) :
    (inFolder scope folder).outside = inFolder scope folder :: folder.outside := by
  simp [outside, marked]

theorem outside_inFolderOf (scope : FolderScope) : (inFolderOf scope qualifier folder).outside =
    inFolderOf scope qualifier folder :: (qualifier.outside ++ folder.outside) := by
  simp [outside, marked]

theorem markedAll_literals {items : List Predicate} (h : ∀ i ∈ items, i.IsLiteral) :
    markedAll items = items.map (Prod.mk false) := by
  induction items with
  | nil => rfl
  | cons i items ih =>
    obtain ⟨⟨raw, rfl⟩, hitems⟩ := List.forall_mem_cons.1 h
    simp [markedAll, marked, ih hitems]

theorem outside_literalList {items : List Predicate} (h : ∀ i ∈ items, i.IsLiteral) :
    (literalList items).outside = literalList items :: items := by
  simp [outside, marked, markedAll_literals h, List.filter_map, Function.comp_def]

end

/-! ## Orders -/

/-- The nodes of one kind. -/
def ofKind (kind : String) (ps : List Predicate) : List Predicate := ps.filter (·.kindName = kind)

section
variable {kind : String}

theorem ofKind_append (ps qs : List Predicate) :
    ofKind kind (ps ++ qs) = ofKind kind ps ++ ofKind kind qs := List.filter_append ps qs

theorem ofKind_of_ne {p : Predicate} (h : p.kindName ≠ kind) : ofKind kind [p] = [] :=
  List.filter_cons_of_neg (by simpa using h)

theorem ofKind_literals {items : List Predicate} (h : ∀ i ∈ items, i.IsLiteral)
    (hkind : kind ≠ "LITERAL") : ofKind kind items = [] := by
  refine List.filter_eq_nil_iff.2 fun i hi => ?_
  obtain ⟨raw, rfl⟩ := h i hi
  exact fun hsame => hkind (of_decide_eq_true hsame).symm

end

/-- Kinds of nodes with no node below them that is a reference or a search. -/
def leafKinds : List String := ["COLUMN", "SCORE", "CONTAINS"]

/-- The same nodes in the order of a walk and in that of `nodes`, apart from the members of lists of
literals. -/
inductive Reordered : List Predicate → List Predicate → Prop
  | nil : Reordered [] []
  | leaf (node : Predicate) : Reordered [node] [node]
  | list (node : Predicate) {items : List Predicate} (hitems : ∀ i ∈ items, i.IsLiteral) :
    Reordered [node] ([node] ++ items)
  | inner {node : Predicate} {left left' right right' : List Predicate}
    (hnode : node.kindName ∉ leafKinds) (hleft : Reordered left left')
    (hright : Reordered right right') :
    Reordered (left ++ ([node] ++ right)) ([node] ++ (left' ++ right'))

namespace Reordered

variable {called listed : List Predicate} {kind : String}

/-- The nodes of a kind are the same up to their order. -/
theorem perm (h : Reordered called listed) (hkind : kind ≠ "LITERAL") :
    (ofKind kind called).Perm (ofKind kind listed) := by
  induction h with
  | nil => exact .refl _
  | leaf node => exact .refl _
  | list node hitems =>
    rw [ofKind_append, ofKind_literals hitems hkind, List.append_nil]
  | @inner node left left' right right' _ _ _ ihleft ihright =>
    have hfront : (left ++ ([node] ++ right)).Perm ([node] ++ (left ++ right)) :=
      List.perm_append_comm_assoc left [node] right
    refine (hfront.filter _).trans ?_
    show (ofKind kind ([node] ++ (left ++ right))).Perm _
    simp only [ofKind_append]
    exact (ihleft.append ihright).append_left _

/-- The nodes of a kind of leaves come in the same order. -/
theorem ofKind_eq (h : Reordered called listed) (hkind : kind ∈ leafKinds) :
    ofKind kind called = ofKind kind listed := by
  induction h with
  | nil => rfl
  | leaf node => rfl
  | list node hitems =>
    have hliteral : kind ≠ "LITERAL" := by
      rintro rfl
      exact absurd hkind (by decide)
    rw [ofKind_append, ofKind_literals hitems hliteral, List.append_nil]
  | @inner node left left' right right' hnode _ _ ihleft ihright =>
    have hother : node.kindName ≠ kind := by
      rintro rfl
      exact hnode hkind
    simp only [ofKind_append, ofKind_of_ne hother, ihleft, ihright, List.nil_append]

end Reordered

/-! ## Calls on nodes -/

/-- The node of a step that calls the hook on it. -/
def calledOn : Except LiteralError Visit → Option Predicate
  | .ok visit => if visit.phase = .on then some visit.node else none
  | .error _ => none

section
variable (node : Predicate)

@[simp] theorem calledOn_before : calledOn (.ok (.before node)) = none := rfl

@[simp] theorem calledOn_on : calledOn (.ok (.on node)) = some node := rfl

@[simp] theorem calledOn_after : calledOn (.ok (.after node)) = none := rfl

@[simp] theorem calledOn_value (v : Value) : calledOn (.ok (.value node v)) = some node := rfl

@[simp] theorem calledOn_values (vs : List Value) : calledOn (.ok (.values node vs)) = some node :=
  rfl

end

theorem kindName_relation_notMem (r : Relation) : r.kindName ∉ leafKinds := by
  rcases r with op | (_ | _) | (_ | _) | _ | (_ | _)
  · cases op <;> decide
  all_goals decide

theorem kindName_scope_notMem (scope : FolderScope) : scope.kindName ∉ leafKinds := by
  cases scope <;> decide

/-- **A walk without a fault** calls the hooks on the nodes outside of null tests. -/
theorem reordered {p : Predicate} (h : ∀ e, .error e ∉ p.trace) :
    Reordered (p.trace.filterMap calledOn) p.outside := by
  fun_induction trace p with
  | case1 r left right ihl ihr =>
    simp only [List.mem_append, List.mem_cons, not_or] at h
    rw [outside_relation, List.filterMap_append, List.filterMap_cons, calledOn_on]
    exact .inner (kindName_relation_notMem r) (ihl fun e => (h e).1) (ihr fun e => (h e).2.2)
  | case2 left right ihl ihr =>
    simp only [List.mem_append, List.mem_cons, not_or] at h
    have hkind : (and left right).kindName ∉ leafKinds := (by decide : "AND" ∉ leafKinds)
    have hinner := Reordered.inner hkind (ihl fun e => (h e).1.1.2) (ihr fun e => (h e).1.2.2)
    simpa [outside_and, List.filterMap_cons] using hinner
  | case3 left right ihl ihr =>
    simp only [List.mem_append, List.mem_cons, not_or] at h
    have hkind : (or left right).kindName ∉ leafKinds := (by decide : "OR" ∉ leafKinds)
    have hinner := Reordered.inner hkind (ihl fun e => (h e).1.1.2) (ihr fun e => (h e).1.2.2)
    simpa [outside_or, List.filterMap_cons] using hinner
  | case4 operand ih =>
    simp only [List.mem_append, List.mem_cons, not_or] at h
    have hkind : (not operand).kindName ∉ leafKinds := (by decide : "NOT" ∉ leafKinds)
    have hinner := Reordered.inner hkind .nil (ih fun e => (h e).1.2.2)
    simpa [outside_not, List.filterMap_cons] using hinner
  | case5 negated operand =>
    rw [outside_isNull]
    exact .leaf _
  | case7 scope folder ih =>
    simp only [List.mem_cons, not_or] at h
    have hkind : (inFolder scope folder).kindName ∉ leafKinds := kindName_scope_notMem scope
    rw [outside_inFolder]
    exact .inner hkind .nil (ih fun e => (h e).2)
  | case8 scope qualifier folder ihq ihf =>
    simp only [List.mem_append, List.mem_cons, not_or] at h
    rw [outside_inFolderOf, List.filterMap_append, List.filterMap_cons, calledOn_on]
    exact .inner (kindName_scope_notMem scope) (ihq fun e => (h e).1) (ihf fun e => (h e).2.2)
  | case11 raw =>
    cases hvalue : (literal raw).literalValue? with
    | error e =>
      rw [hvalue] at h
      exact absurd List.mem_cons_self (h e)
    | ok v => exact .leaf _
  | case12 items =>
    cases hvalues : (literalList items).literalValues? with
    | error e =>
      rw [hvalues] at h
      exact absurd List.mem_cons_self (h e)
    | ok vs =>
      have hitems := Binding.isLiteral_of_mapM hvalues
      rw [outside_literalList hitems]
      exact .list _ hitems
  | _ => exact .leaf _

/-- Each visit is one to a node of the tree. -/
theorem node_mem_nodes {p : Predicate} {visit : Visit} (h : .ok visit ∈ p.trace) :
    visit.node ∈ p.nodes := by
  fun_induction trace p with
  | case11 raw =>
    cases hv : (literal raw).literalValue? <;> simp_all [Except.map, Visit.node, nodes]
  | case12 items =>
    cases hv : (literalList items).literalValues? <;> simp_all [Except.map, Visit.node, nodes]
  | _ =>
    simp only [List.mem_append, List.mem_cons, nodes, Except.ok.injEq] at *
    grind [Visit.node]

/-! ## Main result -/

/-- The walk of a recorder over a tree: how it ends, and the visits. -/
def recordVisits {ε : Type} (stop : List Visit → Option ε) (ofLiteral : LiteralError → ε)
    (p : Predicate) : Except ε Unit × List Visit :=
  Recording.onto [] (p.walk (recorder id stop ofLiteral))

/-- The nodes on which the hook for a kind is called, in the order of the calls. -/
def calledNodes (kind : String) (calls : List Visit) : List Predicate :=
  (calls.filter (·.hook = ⟨.on, kind⟩)).map Visit.node

theorem calledNodes_eq (kind : String) (calls : List Visit) :
    calledNodes kind calls = ofKind kind ((calls.map .ok).filterMap calledOn) := by
  induction calls with
  | nil => rfl
  | cons visit calls ih =>
    cases visit <;> simp_all [calledNodes, ofKind, Visit.hook, Visit.phase, Visit.node,
      List.filter_cons, List.filterMap_cons, apply_ite]

/-- **A walk and the list of all nodes see the same nodes.** A walk that ends without a failure
calls the hooks for columns, functions and full-text searches on all nodes of these kinds that are
neither at nor below the operand of a null test, in the order of the list; for any other kind but
literals it does so in some order. No call is for anything but a node of the list. -/
theorem walk_visits_nodes {ε : Type} {p : Predicate} {stop : List Visit → Option ε}
    {ofLiteral : LiteralError → ε} {calls : List Visit}
    (h : recordVisits stop ofLiteral p = (.ok (), calls)) :
    p.marked.map Prod.snd = p.nodes ∧
    (∀ kind ∈ ["COLUMN", "SCORE", "CONTAINS"],
      calledNodes kind calls = ofKind kind p.outside) ∧
    (∀ kind, kind ≠ "LITERAL" → (calledNodes kind calls).Perm (ofKind kind p.outside)) ∧
    ∀ visit ∈ calls, visit.node ∈ p.nodes := by
  rw [recordVisits, walk_eq_forM] at h
  obtain ⟨seen, htrace, hcalls⟩ := exists_of_onto_forM_eq_ok h
  obtain rfl : calls = seen := by simpa using hcalls
  have hclean : ∀ e, .error e ∉ p.trace := by simp [htrace]
  have hreordered := reordered hclean
  rw [htrace] at hreordered
  refine ⟨map_snd_marked p, fun kind hkind => ?_, fun kind hkind => ?_, fun visit hvisit => ?_⟩
  · rw [calledNodes_eq]
    exact hreordered.ofKind_eq hkind
  · rw [calledNodes_eq]
    exact hreordered.perm hkind
  · refine node_mem_nodes (?_ : .ok visit ∈ p.trace)
    rw [htrace]
    exact List.mem_map_of_mem hvisit

/-- A filter with a pattern below another one and with a null test. -/
def nestedPatterns : Predicate :=
  .relation (.like false)
    (.relation (.like true) (.column ⟨0, none, "a"⟩) (.literal "'x%'"))
    (.or (.isNull false (.column ⟨1, none, "b"⟩)) (.column ⟨2, some "t", "c"⟩))

theorem walk_visits_nodes_nestedPatterns : ∃ calls,
    recordVisits (ε := LiteralError) (fun _ => none) id nestedPatterns = (.ok (), calls) ∧
    calledNodes "COLUMN" calls = [.column ⟨0, none, "a"⟩, .column ⟨2, some "t", "c"⟩] ∧
    (calledNodes "LIKE" calls).length = 1 ∧ (ofKind "COLUMN" nestedPatterns.nodes).length = 3 := by
  have hrun : recordVisits (ε := LiteralError) (fun _ => none) id nestedPatterns =
    (.ok (), (recordVisits (ε := LiteralError) (fun _ => none) id nestedPatterns).2) := rfl
  obtain ⟨-, hleaves, hall, -⟩ := walk_visits_nodes hrun
  exact ⟨_, hrun, hleaves "COLUMN" (by decide), (hall "LIKE" (by decide)).length_eq, rfl⟩

end Predicate

end ContentQuery
