import ContentQuery.Statement.Predicate

/-!
# Walks

A walk takes a visitor through a WHERE tree or a search tree (`Predicate.walk`,
`FullText.Tree.walk`). It hands over one visit after the other in the order that belongs to the kind
of each node, and literals with their values. A literal that does not decode is refused, which is
up to the visitor as well. Each visit calls one hook of the visitor; its name says for what kind of
node it is called, and whether before, on or after the node.
-/

set_option autoImplicit false

namespace ContentQuery

/-! ## Hooks -/

/-- When a hook is called: before the nodes below a node, on the node, or after them. -/
inductive Phase
  | before
  | on
  | after
deriving DecidableEq, Repr

/-- The name of a hook, by the kind of node that it is for. -/
structure Hook where
  phase : Phase
  kind : String
deriving DecidableEq, Repr

namespace Predicate.Visit

def node : Visit → Predicate
  | before node => node
  | on node => node
  | after node => node
  | value node _ => node
  | values node _ => node

def phase : Visit → Phase
  | before _ => .before
  | after _ => .after
  | _ => .on

/-- The hook that a visit calls. -/
def hook (visit : Visit) : Hook := ⟨visit.phase, visit.node.kindName⟩

end Predicate.Visit

namespace FullText.Tree.Visit

def node : Visit → Tree
  | before node => node
  | on node => node
  | after node => node
  | leaf node _ => node

def phase : Visit → Phase
  | before _ => .before
  | after _ => .after
  | _ => .on

/-- The hook that a visit calls. -/
def hook (visit : Visit) : Hook := ⟨visit.phase, visit.node.kindName⟩

end FullText.Tree.Visit

/-! ## Visitors -/

/-- Goes along on a walk: what it does on a visit, and at a literal that does not decode. -/
structure Visitor (m : Type → Type) (V : Type) where
  visit : V → m Unit
  refuse : LiteralError → m Unit

/-- A visit to a leaf, if its literal decodes. -/
def Visitor.meet {m : Type → Type} {V : Type} (v : Visitor m V) : Except LiteralError V → m Unit
  | .ok visit => v.visit visit
  | .error e => v.refuse e

/-! ## Walks -/

section
variable {m : Type → Type} [Monad m]

/-- Walks a WHERE tree. The operand of a null test and the tree of a full-text search are not
walked. -/
def Predicate.walk (v : Visitor m Predicate.Visit) : Predicate → m Unit
  | relation r left right => do
    left.walk v
    v.visit (.on (relation r left right))
    right.walk v
  | and left right => do
    v.visit (.before (and left right))
    left.walk v
    v.visit (.on (and left right))
    right.walk v
    v.visit (.after (and left right))
  | or left right => do
    v.visit (.before (or left right))
    left.walk v
    v.visit (.on (or left right))
    right.walk v
    v.visit (.after (or left right))
  | not operand => do
    v.visit (.before (not operand))
    v.visit (.on (not operand))
    operand.walk v
    v.visit (.after (not operand))
  | isNull negated operand => v.visit (.on (isNull negated operand))
  | contains qualifier search => v.visit (.on (contains qualifier search))
  | inFolder scope folder => do
    v.visit (.on (inFolder scope folder))
    folder.walk v
  | inFolderOf scope qualifier folder => do
    qualifier.walk v
    v.visit (.on (inFolderOf scope qualifier folder))
    folder.walk v
  | score f => v.visit (.on (score f))
  | column c => v.visit (.on (column c))
  | literal raw => v.meet ((literal raw).literalValue?.map (.value (literal raw)))
  | literalList items =>
    v.meet ((literalList items).literalValues?.map (.values (literalList items)))

namespace FullText.Tree

mutual

/-- Walks a search tree. What is below a minus sign is not walked. -/
def walk (v : Visitor m Tree.Visit) : Tree → m Unit
  | conjunction cs => do
    v.visit (.before (conjunction cs))
    walkAll v cs
    v.visit (.on (conjunction cs))
    v.visit (.after (conjunction cs))
  | disjunction cs => do
    v.visit (.before (disjunction cs))
    walkAll v cs
    v.visit (.on (disjunction cs))
    v.visit (.after (disjunction cs))
  | negation c => v.visit (.on (negation c))
  | word raw => v.meet (leafVisit (word raw))
  | phrase raw => v.meet (leafVisit (phrase raw))

/-- Walks a list of trees, one after the other. -/
def walkAll (v : Visitor m Tree.Visit) : List Tree → m Unit
  | [] => pure ()
  | c :: cs => do
    c.walk v
    walkAll v cs

end

end FullText.Tree

end

/-! ## Recorders -/

/-- A computation that keeps the calls so far, also when it fails. -/
abbrev Recording (ε β : Type) := ExceptT ε (StateM (List β))

/-- How a recording ends that goes on from these calls, and the calls that it then has. -/
def Recording.onto {ε β : Type} (calls : List β) (x : Recording ε β Unit) :
    Except ε Unit × List β :=
  (x.run.run calls).run

/-- A visitor that records every call under a name. It fails at a call if `stop` has an error for
the calls up to this one, and at a literal that does not decode with an error for that. -/
def recorder {V ε β : Type} (name : V → β) (stop : List β → Option ε)
    (ofLiteral : LiteralError → ε) : Visitor (Recording ε β) V where
  visit visit := do
    modify (· ++ [name visit])
    (stop (← get)).forM throw
  refuse e := throw (ofLiteral e)

end ContentQuery
