import ContentQuery.Binding.Bind
import ContentQuery.Evaluation.Predicate
import ContentQuery.Proofs.FullText.Walks
import ContentQuery.Proofs.Walks.Nesting

/-!
# Walks over WHERE trees and search trees

Both walks meet the steps of the trace of a tree, one after the other (`Predicate.walk_eq_forM`,
`FullText.Tree.walk_eq_forM`); binding, the test of a row and the test of a text are such walks.
They nest and stop at the first failure, whatever the tree (`Predicate.lawful`,
`FullText.Tree.lawful`).
-/

set_option autoImplicit false

namespace ContentQuery

/-! ## WHERE trees -/

namespace Predicate

/-- A node with a gap in place of one of the trees below it that are walked. -/
inductive Frame
  | relationLeft (r : Relation) (right : Predicate)
  | relationRight (r : Relation) (left : Predicate)
  | andLeft (right : Predicate)
  | andRight (left : Predicate)
  | orLeft (right : Predicate)
  | orRight (left : Predicate)
  | not
  | folderIn (scope : FolderScope)
  | qualifierOf (scope : FolderScope) (folder : Predicate)
  | folderOf (scope : FolderScope) (qualifier : Predicate)

def Frame.fill : Frame → Predicate → Predicate
  | relationLeft r right, p => relation r p right
  | relationRight r left, p => relation r left p
  | andLeft right, p => and p right
  | andRight left, p => and left p
  | orLeft right, p => or p right
  | orRight left, p => or left p
  | not, p => p.not
  | folderIn scope, p => inFolder scope p
  | qualifierOf scope folder, p => inFolderOf scope p folder
  | folderOf scope qualifier, p => inFolderOf scope qualifier p

/-- Whether a node has a hook before the nodes below it and one after them. -/
def encloses : Predicate → Prop
  | and _ _ => True
  | or _ _ => True
  | not _ => True
  | _ => False

/-- Whether a literal or a list of literals decodes. -/
def decode : Predicate → Option (Except LiteralError Unit)
  | literal raw => some ((literal raw).literalValue?.map fun _ => ())
  | literalList items => some ((literalList items).literalValues?.map fun _ => ())
  | _ => none

/-- The walk over a WHERE tree. -/
def treeWalk : TreeWalk Predicate Visit Frame where
  walk := walk
  hook := Visit.hook
  kind := kindName
  encloses := encloses
  decode := decode
  fill := Frame.fill

/-- A walk meets the steps of the trace. -/
theorem walk_eq_forM {m : Type → Type} [Monad m] [LawfulMonad m] (v : Visitor m Visit)
    (p : Predicate) : p.walk v = p.trace.forM v.meet := by
  induction p using Predicate.walk.induct with
  | _ => simp_all [walk, trace, List.forM_append, Visitor.meet]

/-! ### Steps -/

/-- The steps of a walk. -/
abbrev steps (p : Predicate) : List (Except LiteralError Hook) := treeWalk.steps trace p

section
variable (left right p folder : Predicate)

theorem steps_relation (r : Relation) : (relation r left right).steps =
    left.steps ++ .ok ⟨.on, r.kindName⟩ :: right.steps := by
  simp only [TreeWalk.steps, trace, List.map_append, List.map_cons]
  rfl

theorem steps_and : (and left right).steps = .ok ⟨.before, "AND"⟩ ::
    (left.steps ++ .ok ⟨.on, "AND"⟩ :: right.steps) ++ [Except.ok ⟨.after, "AND"⟩] := by
  simp only [TreeWalk.steps, trace, List.map_append, List.map_cons, List.cons_append]
  rfl

theorem steps_or : (or left right).steps = .ok ⟨.before, "OR"⟩ ::
    (left.steps ++ .ok ⟨.on, "OR"⟩ :: right.steps) ++ [Except.ok ⟨.after, "OR"⟩] := by
  simp only [TreeWalk.steps, trace, List.map_append, List.map_cons, List.cons_append]
  rfl

theorem steps_not : (not p).steps =
    .ok ⟨.before, "NOT"⟩ :: (.ok ⟨.on, "NOT"⟩ :: p.steps) ++ [Except.ok ⟨.after, "NOT"⟩] := by
  simp only [TreeWalk.steps, trace, List.map_append, List.map_cons]
  rfl

theorem steps_inFolder (scope : FolderScope) :
    (inFolder scope folder).steps = .ok ⟨.on, scope.kindName⟩ :: folder.steps := rfl

theorem steps_inFolderOf (scope : FolderScope) : (inFolderOf scope p folder).steps =
    p.steps ++ .ok ⟨.on, scope.kindName⟩ :: folder.steps := by
  simp only [TreeWalk.steps, trace, List.map_append, List.map_cons]
  rfl

theorem steps_literal (raw : String) : (literal raw).steps =
    [(literal raw).literalValue?.map fun _ => ⟨.on, "LITERAL"⟩] := by
  rw [steps, TreeWalk.steps, trace]
  cases (literal raw).literalValue? <;> rfl

theorem steps_literalList (items : List Predicate) : (literalList items).steps =
    [(literalList items).literalValues?.map fun _ => ⟨.on, "LITERAL_LIST"⟩] := by
  rw [steps, TreeWalk.steps, trace]
  cases (literalList items).literalValues? <;> rfl

end

/-! ### What is around a gap -/

/-- The steps before a gap. -/
def Frame.before : Frame → List (Except LiteralError Hook)
  | relationLeft _ _ => []
  | relationRight r left => left.steps ++ [.ok ⟨.on, r.kindName⟩]
  | andLeft _ => [.ok ⟨.before, "AND"⟩]
  | andRight left => [.ok ⟨.before, "AND"⟩] ++ left.steps ++ [.ok ⟨.on, "AND"⟩]
  | orLeft _ => [.ok ⟨.before, "OR"⟩]
  | orRight left => [.ok ⟨.before, "OR"⟩] ++ left.steps ++ [.ok ⟨.on, "OR"⟩]
  | not => [.ok ⟨.before, "NOT"⟩, .ok ⟨.on, "NOT"⟩]
  | folderIn scope => [.ok ⟨.on, scope.kindName⟩]
  | qualifierOf _ _ => []
  | folderOf scope qualifier => qualifier.steps ++ [.ok ⟨.on, scope.kindName⟩]

/-- The steps after a gap. -/
def Frame.after : Frame → List (Except LiteralError Hook)
  | relationLeft r right => .ok ⟨.on, r.kindName⟩ :: right.steps
  | relationRight _ _ => []
  | andLeft right => .ok ⟨.on, "AND"⟩ :: right.steps ++ [.ok ⟨.after, "AND"⟩]
  | andRight _ => [.ok ⟨.after, "AND"⟩]
  | orLeft right => .ok ⟨.on, "OR"⟩ :: right.steps ++ [.ok ⟨.after, "OR"⟩]
  | orRight _ => [.ok ⟨.after, "OR"⟩]
  | not => [.ok ⟨.after, "NOT"⟩]
  | folderIn _ => []
  | qualifierOf scope folder => .ok ⟨.on, scope.kindName⟩ :: folder.steps
  | folderOf _ _ => []

theorem around_frame (frame : Frame) : treeWalk.Around trace [frame] frame.before frame.after := by
  intro p
  show (frame.fill p).steps = frame.before ++ p.steps ++ frame.after
  cases frame <;>
    simp [Frame.fill, Frame.before, Frame.after, steps_relation, steps_and, steps_or, steps_not,
      steps_inFolder, steps_inFolderOf]

/-! ### All trees -/

theorem nests_steps : ∀ p : Predicate, Nests p.steps
  | relation r left right => by
    rw [steps_relation]
    exact (nests_steps left).inOrder _ (nests_steps right)
  | and left right => by
    rw [steps_and]
    exact ((nests_steps left).inOrder _ (nests_steps right)).enclose _
  | or left right => by
    rw [steps_or]
    exact ((nests_steps left).inOrder _ (nests_steps right)).enclose _
  | not p => by
    rw [steps_not]
    exact (nests_nil.inOrder _ (nests_steps p)).enclose _
  | isNull negated _ => nests_on _
  | contains _ _ => nests_on _
  | inFolder scope folder => nests_nil.inOrder _ (nests_steps folder)
  | inFolderOf scope qualifier folder => by
    rw [steps_inFolderOf]
    exact (nests_steps qualifier).inOrder _ (nests_steps folder)
  | score _ => nests_on _
  | column _ => nests_on _
  | literal raw => by
    rw [steps_literal]
    exact nests_leaf _ _
  | literalList items => by
    rw [steps_literalList]
    exact nests_leaf _ _

/-- A node that is visited once, and nothing below it. -/
theorem locatedIn_on {p : Predicate} {kind : String} (h : p.steps = [.ok ⟨.on, kind⟩]) :
    treeWalk.LocatedIn trace p [] p.steps [] := by
  have hown : treeWalk.LocatedIn trace p [] [_] [] :=
    TreeWalk.locatedIn_own h (TreeWalk.owns_on p [] [] kind)
  rwa [← h] at hown

theorem locatedIn_steps : ∀ p : Predicate, treeWalk.LocatedIn trace p [] p.steps []
  | relation r left right => by
    have hleft := (locatedIn_steps left).fill (around_frame (.relationLeft r right))
    have hright := (locatedIn_steps right).fill (around_frame (.relationRight r left))
    exact TreeWalk.locatedIn_inOrder (steps_relation left right r) hleft hright
  | and left right => by
    have hleft := (locatedIn_steps left).fill (around_frame (.andLeft right))
    have hright := (locatedIn_steps right).fill (around_frame (.andRight left))
    exact .enclose trivial (steps_and left right) (.inOrder (steps_and left right) hleft hright)
  | or left right => by
    have hleft := (locatedIn_steps left).fill (around_frame (.orLeft right))
    have hright := (locatedIn_steps right).fill (around_frame (.orRight left))
    exact .enclose trivial (steps_or left right) (.inOrder (steps_or left right) hleft hright)
  | not p => by
    have hbelow := (locatedIn_steps p).fill (around_frame .not)
    exact .enclose trivial (steps_not p) (.inOrder (steps_not p) TreeWalk.locatedIn_nil hbelow)
  | isNull negated _ => locatedIn_on rfl
  | contains _ _ => locatedIn_on rfl
  | inFolder scope folder => by
    have hbelow := (locatedIn_steps folder).fill (around_frame (.folderIn scope))
    exact TreeWalk.locatedIn_preOrder (steps_inFolder folder scope) hbelow
  | inFolderOf scope qualifier folder => by
    have hleft := (locatedIn_steps qualifier).fill (around_frame (.qualifierOf scope folder))
    have hright := (locatedIn_steps folder).fill (around_frame (.folderOf scope qualifier))
    exact TreeWalk.locatedIn_inOrder (steps_inFolderOf qualifier folder scope) hleft hright
  | score _ => locatedIn_on rfl
  | column _ => locatedIn_on rfl
  | literal raw => TreeWalk.locatedIn_leaf (steps_literal raw) rfl
  | literalList items => TreeWalk.locatedIn_leaf (steps_literalList items) rfl

theorem exists_inner : ∀ {p : Predicate}, p.encloses → ∃ inner, Nests inner ∧
    p.steps = .ok ⟨.before, p.kindName⟩ :: inner ++ [Except.ok ⟨.after, p.kindName⟩]
  | and left right, _ => ⟨_, (nests_steps left).inOrder _ (nests_steps right), steps_and left right⟩
  | or left right, _ => ⟨_, (nests_steps left).inOrder _ (nests_steps right), steps_or left right⟩
  | not p, _ => ⟨_, nests_nil.inOrder _ (nests_steps p), steps_not p⟩

/-- A leaf that decodes has one call. -/
theorem steps_of_decode : ∀ {p : Predicate}, p.decode = some (.ok ()) →
    p.steps = [.ok ⟨.on, p.kindName⟩]
  | literal raw, h => (steps_literal raw).trans (TreeWalk.leaf_of_decode h)
  | literalList items, h => (steps_literalList items).trans (TreeWalk.leaf_of_decode h)

theorem lawful : treeWalk.Lawful trace where
  walk_eq := walk_eq_forM
  nests := nests_steps
  around frame := ⟨frame.before, frame.after, around_frame frame⟩
  encloses := exists_inner
  decodes := steps_of_decode
  located := locatedIn_steps

end Predicate

/-! ## Search trees -/

namespace FullText.Tree

/-- A node with a gap in place of one of the trees below it that are walked. -/
inductive Frame
  | conjunction (left right : List Tree)
  | disjunction (left right : List Tree)

def Frame.fill : Frame → Tree → Tree
  | conjunction left right, t => .conjunction (left ++ t :: right)
  | disjunction left right, t => .disjunction (left ++ t :: right)

/-- Whether a node has a hook before the nodes below it and one after them. -/
def encloses : Tree → Prop
  | conjunction _ => True
  | disjunction _ => True
  | _ => False

/-- Whether a word or phrase decodes. -/
def decode : Tree → Option (Except LiteralError Unit)
  | word raw => some ((word raw).term?.map fun _ => ())
  | phrase raw => some ((phrase raw).term?.map fun _ => ())
  | _ => none

/-- The walk over a search tree. -/
def treeWalk : TreeWalk Tree Visit Frame where
  walk := walk
  hook := Visit.hook
  kind := kindName
  encloses := encloses
  decode := decode
  fill := Frame.fill

section
variable {m : Type → Type} [Monad m] [LawfulMonad m] (v : Visitor m Visit)

mutual

/-- A walk meets the steps of the trace. -/
theorem walk_eq_forM : ∀ t : Tree, t.walk v = t.trace.forM v.meet
  | conjunction cs => by
    simp [walk, trace, enclose, walkAll_eq_forM cs, List.forM_append, Visitor.meet]
  | disjunction cs => by
    simp [walk, trace, enclose, walkAll_eq_forM cs, List.forM_append, Visitor.meet]
  | negation c => by simp [walk, trace, Visitor.meet]
  | word raw => by simp [walk, trace]
  | phrase raw => by simp [walk, trace]

theorem walkAll_eq_forM : ∀ cs : List Tree, walkAll v cs = (traceAll cs).forM v.meet
  | [] => rfl
  | c :: cs => by
    rw [walkAll, walk_eq_forM c, walkAll_eq_forM cs, traceAll]
    exact List.forM_append.symm

end

end

/-! ### Steps -/

/-- The steps of a walk. -/
abbrev steps (t : Tree) : List (Except LiteralError Hook) := treeWalk.steps trace t

/-- The steps of the walks over a list of trees. -/
def stepsAll (cs : List Tree) : List (Except LiteralError Hook) := cs.flatMap steps

theorem map_traceAll (cs : List Tree) :
    (traceAll cs).map (Except.map treeWalk.hook) = stepsAll cs := by
  induction cs with
  | nil => rfl
  | cons c cs ih =>
    rw [traceAll, List.map_append, ih]
    rfl

theorem map_enclose (node : Tree) (inner : List (Except LiteralError Visit)) :
    (enclose node inner).map (Except.map treeWalk.hook) = Except.ok ⟨.before, node.kindName⟩ ::
      (inner.map (Except.map treeWalk.hook) ++ [Except.ok ⟨.on, node.kindName⟩]) ++
        [Except.ok ⟨.after, node.kindName⟩] := by
  simp only [enclose, List.map_append, List.map_cons, List.cons_append, List.append_assoc]
  rfl

theorem steps_conjunction (cs : List Tree) : (conjunction cs).steps =
    Except.ok ⟨.before, "AND"⟩ :: (stepsAll cs ++ [Except.ok ⟨.on, "AND"⟩]) ++
      [Except.ok ⟨.after, "AND"⟩] := by
  rw [steps, TreeWalk.steps, trace, map_enclose, map_traceAll]
  rfl

theorem steps_disjunction (cs : List Tree) : (disjunction cs).steps =
    Except.ok ⟨.before, "OR"⟩ :: (stepsAll cs ++ [Except.ok ⟨.on, "OR"⟩]) ++
      [Except.ok ⟨.after, "OR"⟩] := by
  rw [steps, TreeWalk.steps, trace, map_enclose, map_traceAll]
  rfl

theorem steps_word (raw : String) :
    (word raw).steps = [(word raw).term?.map fun _ => ⟨.on, "WORD"⟩] := by
  rw [steps, TreeWalk.steps, trace, leafVisit]
  cases (word raw).term? <;> rfl

theorem steps_phrase (raw : String) :
    (phrase raw).steps = [(phrase raw).term?.map fun _ => ⟨.on, "PHRASE"⟩] := by
  rw [steps, TreeWalk.steps, trace, leafVisit]
  cases (phrase raw).term? <;> rfl

@[simp] theorem stepsAll_nil : stepsAll [] = [] := rfl

@[simp] theorem stepsAll_append (cs ds : List Tree) :
    stepsAll (cs ++ ds) = stepsAll cs ++ stepsAll ds := List.flatMap_append

@[simp] theorem stepsAll_cons (c : Tree) (cs : List Tree) :
    stepsAll (c :: cs) = c.steps ++ stepsAll cs := List.flatMap_cons

/-! ### Connectives -/

/-- A connective is walked around its children, one after the other. -/
structure IsConnective (node : List Tree → Tree) (frame : List Tree → List Tree → Frame)
    (kind : String) : Prop where
  fill : ∀ left t right, (frame left right).fill t = node (left ++ t :: right)
  encloses : ∀ cs, (node cs).encloses
  kindName : ∀ cs, (node cs).kindName = kind
  steps : ∀ cs, (node cs).steps =
    Except.ok ⟨.before, kind⟩ :: (stepsAll cs ++ [Except.ok ⟨.on, kind⟩]) ++
      [Except.ok ⟨.after, kind⟩]

theorem isConnective_conjunction : IsConnective conjunction .conjunction "AND" where
  fill _ _ _ := rfl
  encloses _ := trivial
  kindName _ := rfl
  steps := steps_conjunction

theorem isConnective_disjunction : IsConnective disjunction .disjunction "OR" where
  fill _ _ _ := rfl
  encloses _ := trivial
  kindName _ := rfl
  steps := steps_disjunction

namespace IsConnective

variable {node : List Tree → Tree} {frame : List Tree → List Tree → Frame} {kind : String}
  (h : IsConnective node frame kind)
include h

theorem around (left right : List Tree) :
    treeWalk.Around trace [frame left right] (.ok ⟨.before, kind⟩ :: stepsAll left)
      (stepsAll right ++ [Except.ok ⟨.on, kind⟩, .ok ⟨.after, kind⟩]) := by
  intro t
  show ((frame left right).fill t).steps = _
  rw [h.fill, h.steps]
  simp

theorem nests {cs : List Tree} (hcs : Nests (stepsAll cs)) : Nests (node cs).steps := by
  rw [h.steps]
  exact (hcs.append (nests_on kind)).enclose kind

theorem locatedIn_all {right : List Tree} (left : List Tree)
    (hright : ∀ c ∈ right, treeWalk.LocatedIn trace c [] c.steps []) :
    treeWalk.LocatedIn trace (node (left ++ right)) (.ok ⟨.before, kind⟩ :: stepsAll left)
      (stepsAll right) [.ok ⟨.on, kind⟩, .ok ⟨.after, kind⟩] := by
  induction right generalizing left with
  | nil => exact TreeWalk.locatedIn_nil
  | cons c right ih =>
    have hc := (hright c List.mem_cons_self).fill (h.around left right)
    have hrest := ih (left ++ [c]) fun c' hc' => hright c' (List.mem_cons_of_mem c hc')
    have hfill : treeWalk.fill (frame left right) c = node (left ++ c :: right) :=
      h.fill left c right
    rw [hfill] at hc
    rw [List.append_assoc, stepsAll_append] at hrest
    rw [stepsAll_cons]
    refine hc.append ?_
    simpa using hrest

theorem locatedIn {cs : List Tree}
    (hcs : ∀ c ∈ cs, treeWalk.LocatedIn trace c [] c.steps []) :
    treeWalk.LocatedIn trace (node cs) [] (node cs).steps [] := by
  have hall := h.locatedIn_all [] hcs
  have hon : treeWalk.LocatedIn trace (node cs) (.ok ⟨.before, kind⟩ :: stepsAll cs)
      [.ok ⟨.on, kind⟩] [.ok ⟨.after, kind⟩] :=
    TreeWalk.locatedIn_own (by simp [h.steps]) (TreeWalk.owns_on (node cs) _ _ kind)
  obtain rfl := h.kindName cs
  exact .enclose (h.encloses cs) (h.steps cs) (hall.append hon)

end IsConnective

/-! ### All trees -/

mutual

theorem nests_steps : ∀ t : Tree, Nests t.steps
  | conjunction cs => isConnective_conjunction.nests (nests_stepsAll cs)
  | disjunction cs => isConnective_disjunction.nests (nests_stepsAll cs)
  | negation _ => nests_on _
  | word raw => by
    rw [steps_word]
    exact nests_leaf _ _
  | phrase raw => by
    rw [steps_phrase]
    exact nests_leaf _ _

theorem nests_stepsAll : ∀ cs : List Tree, Nests (stepsAll cs)
  | [] => nests_nil
  | c :: cs => by
    rw [stepsAll_cons]
    exact (nests_steps c).append (nests_stepsAll cs)

end

mutual

theorem locatedIn_steps : ∀ t : Tree, treeWalk.LocatedIn trace t [] t.steps []
  | conjunction cs => isConnective_conjunction.locatedIn (locatedIn_stepsAll cs)
  | disjunction cs => isConnective_disjunction.locatedIn (locatedIn_stepsAll cs)
  | negation c => by
    have hown : treeWalk.LocatedIn trace (negation c) [] [_] [] :=
      TreeWalk.locatedIn_own rfl (TreeWalk.owns_on _ [] [] "MINUS")
    exact hown
  | word raw => TreeWalk.locatedIn_leaf (steps_word raw) rfl
  | phrase raw => TreeWalk.locatedIn_leaf (steps_phrase raw) rfl

theorem locatedIn_stepsAll : ∀ cs : List Tree, ∀ c ∈ cs,
    treeWalk.LocatedIn trace c [] c.steps []
  | [] => List.forall_mem_nil _
  | c :: cs => List.forall_mem_cons.2 ⟨locatedIn_steps c, locatedIn_stepsAll cs⟩

end

theorem exists_inner : ∀ {t : Tree}, t.encloses → ∃ inner, Nests inner ∧
    t.steps = .ok ⟨.before, t.kindName⟩ :: inner ++ [Except.ok ⟨.after, t.kindName⟩]
  | conjunction cs, _ =>
    ⟨_, (nests_stepsAll cs).append (nests_on "AND"), steps_conjunction cs⟩
  | disjunction cs, _ =>
    ⟨_, (nests_stepsAll cs).append (nests_on "OR"), steps_disjunction cs⟩

/-- A leaf that decodes has one call. -/
theorem steps_of_decode : ∀ {t : Tree}, t.decode = some (.ok ()) →
    t.steps = [.ok ⟨.on, t.kindName⟩]
  | word raw, h => (steps_word raw).trans (TreeWalk.leaf_of_decode h)
  | phrase raw, h => (steps_phrase raw).trans (TreeWalk.leaf_of_decode h)

theorem exists_around : ∀ frame : Frame, ∃ before after,
    treeWalk.Around trace [frame] before after
  | .conjunction left right => ⟨_, _, isConnective_conjunction.around left right⟩
  | .disjunction left right => ⟨_, _, isConnective_disjunction.around left right⟩

theorem lawful : treeWalk.Lawful trace where
  walk_eq := walk_eq_forM
  nests := nests_steps
  around := exists_around
  encloses := exists_inner
  decodes := steps_of_decode
  located := locatedIn_steps

end FullText.Tree

/-! ## Visitors -/

/-- Goes along on the walk that binds a WHERE tree. -/
def Binding.visitor : Visitor Binding.Binder Predicate.Visit :=
  ⟨Binding.bindVisit, fun e => throw (.malformedLiteral e)⟩

/-- Goes along on the walk that tests a row. -/
def Evaluator.visitor {m : Type → Type} [Monad m] (e : Evaluator m) (row : Row) :
    Visitor (RowTest m) Predicate.Visit :=
  ⟨e.testVisit row, fun fault => throw (.literal fault)⟩

/-- Goes along on the walk that tests a text. -/
def FullText.Matcher.visitor (m : Matcher) (tokens : List String) : Visitor TreeTest Tree.Visit :=
  ⟨m.visit tokens, throw⟩

theorem Binding.bindFilter_eq_walk (p : Predicate) : bindFilter (some p) = p.walk visitor := by
  rw [p.walk_eq_forM, bindFilter, bindTrace]
  congr 1
  funext step
  cases step <;> rfl

theorem Evaluator.testTrace_eq_walk {m : Type → Type} [Monad m] [LawfulMonad m] (e : Evaluator m)
    (row : Row) (p : Predicate) : e.testTrace row p.trace = p.walk (e.visitor row) := by
  rw [p.walk_eq_forM, testTrace]
  congr 1
  funext step
  cases step <;> rfl

theorem FullText.Matcher.test_eq_walk (m : Matcher) (tokens : List String) (t : Tree) :
    m.test tokens t = t.walk (m.visitor tokens) := by
  rw [t.walk_eq_forM, test_eq_runTrace, runTrace]
  congr 1
  funext step
  cases step <;> rfl

/-! ## Main result -/

/-- **Walks nest and stop at the first failure**, over any WHERE tree and over any search tree. The
same walks bind a WHERE tree, test a row and test a text, each with a visitor of its own. -/
theorem walks_nest_and_stop :
    (Predicate.treeWalk.WellBehaved ∧ FullText.Tree.treeWalk.WellBehaved) ∧
    (∀ p : Predicate, Binding.bindFilter (some p) = p.walk Binding.visitor) ∧
    (∀ {m : Type → Type} [Monad m] [LawfulMonad m] (e : Evaluator m) (row : Row) (p : Predicate),
      e.testTrace row p.trace = p.walk (e.visitor row)) ∧
    ∀ (m : FullText.Matcher) (tokens : List String) (t : FullText.Tree),
      m.test tokens t = t.walk (m.visitor tokens) :=
  ⟨⟨Predicate.lawful.wellBehaved, FullText.Tree.lawful.wellBehaved⟩, Binding.bindFilter_eq_walk,
    Evaluator.testTrace_eq_walk, FullText.Matcher.test_eq_walk⟩

/-- A filter with a literal below a negation. -/
def negatedLiteral (raw : String) : Predicate :=
  .and (.column ⟨0, none, "a"⟩) (.not (.literal raw))

/-- The third call fails, and what is no literal is not called at all. -/
theorem walks_nest_and_stop_negatedLiteral :
    Predicate.treeWalk.record (fun calls => if calls.length = 3 then some "stop" else none)
      (fun _ => "literal") (negatedLiteral "5") =
        (.error "stop", [⟨.before, "AND"⟩, ⟨.on, "COLUMN"⟩, ⟨.on, "AND"⟩]) ∧
    (∃ e, Predicate.treeWalk.run (negatedLiteral "") =
      (.error e, [⟨.before, "AND"⟩, ⟨.on, "COLUMN"⟩, ⟨.on, "AND"⟩, ⟨.before, "NOT"⟩,
        ⟨.on, "NOT"⟩])) ∧
    ∃ calls, Predicate.treeWalk.run (negatedLiteral "5") = (.ok (), calls) ∧ Nested calls ∧
      calls.length = 8 := by
  have hpredicates := walks_nest_and_stop.1.1
  have hrun : Predicate.treeWalk.run (negatedLiteral "5") =
    (.ok (), (Predicate.treeWalk.run (negatedLiteral "5")).2) := rfl
  refine ⟨?_, ⟨_, rfl⟩, _, hrun, hpredicates.nested hrun, rfl⟩
  refine hpredicates.stopped (n := 3) (fun _ => "literal") ⟨by decide, ?_, ?_, ?_⟩
  · exact Nat.le_add_left 3 5
  · intro k _ hk
    rcases k with _ | _ | _ | k
    · rfl
    · rfl
    · rfl
    · omega
  · rfl

end ContentQuery
