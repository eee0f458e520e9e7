import ContentQuery.Literal

/-!
# Search trees

The tree of a full-text search, and the order in which its nodes are visited (`Tree.trace`). A
trace is a list of visits; a leaf that does not decode is an error in its place, and whoever
consumes the trace stops there.
-/

set_option autoImplicit false

namespace ContentQuery.FullText

/-- A full-text search. Leaves hold their tokens as written. -/
inductive Tree
  | conjunction (children : List Tree)
  | disjunction (children : List Tree)
  | negation (child : Tree)
  | word (raw : String)
  | phrase (raw : String)

namespace Tree

instance : Inhabited Tree := ⟨.word ""⟩

def kindName : Tree → String
  | conjunction _ => "AND"
  | disjunction _ => "OR"
  | negation _ => "MINUS"
  | word _ => "WORD"
  | phrase _ => "PHRASE"

def children : Tree → List Tree
  | conjunction cs => cs
  | disjunction cs => cs
  | negation c => [c]
  | word _ => []
  | phrase _ => []

/-- The text of a word or phrase. -/
def term? : Tree → Except LiteralError String
  | word raw => Literal.searchTerm? raw
  | phrase raw => Literal.searchTerm? raw
  | node => .error ⟨node.kindName, .expectedTerm⟩

mutual

/-- The words and phrases of a tree from left to right, negated ones too. -/
def leaves : Tree → List Tree
  | conjunction cs => leavesOfAll cs
  | disjunction cs => leavesOfAll cs
  | negation c => c.leaves
  | word raw => [.word raw]
  | phrase raw => [.phrase raw]

/-- The leaves of a list of trees, one tree after the other. -/
def leavesOfAll : List Tree → List Tree
  | [] => []
  | c :: cs => c.leaves ++ leavesOfAll cs

end

/-- Succeeds if all leaves decode; otherwise the first that does not is the error. -/
def check (t : Tree) : Except LiteralError Unit :=
  t.leaves.forM fun leaf => leaf.term?.map fun _ => ()

/-- One visit to a node. -/
inductive Visit
  | before (node : Tree)
  | on (node : Tree)
  | after (node : Tree)
  | leaf (node : Tree) (text : String)

/-- The visit to a leaf, with its decoded text. -/
def leafVisit (node : Tree) : Except LiteralError Visit :=
  node.term?.map (.leaf node)

/-- One child after the other, with a node around them. -/
def enclose (node : Tree) (inner : List (Except LiteralError Visit)) :
    List (Except LiteralError Visit) :=
  .ok (.before node) :: inner ++ [.ok (.on node), .ok (.after node)]

mutual

/-- The visits to a tree in order: a conjunction or disjunction comes before its children and
twice after them, and a negation is visited without its child. -/
def trace : Tree → List (Except LiteralError Visit)
  | conjunction cs => enclose (.conjunction cs) (traceAll cs)
  | disjunction cs => enclose (.disjunction cs) (traceAll cs)
  | negation c => [.ok (.on (.negation c))]
  | word raw => [leafVisit (.word raw)]
  | phrase raw => [leafVisit (.phrase raw)]

/-- The visits to a list of trees, one tree after the other. -/
def traceAll : List Tree → List (Except LiteralError Visit)
  | [] => []
  | c :: cs => c.trace ++ traceAll cs

end

end Tree

end ContentQuery.FullText
