import ContentQuery.Statement.Basic

/-!
# Visiting a WHERE tree

`Predicate.nodes` lists every node of a tree, parents first. `Predicate.trace` lists the visits in
the order in which binding and evaluation see them:

- a relation between its operands;
- a conjunction or disjunction before its left operand, between the two, and after the right one;
- a negation before its operand (twice) and after it;
- a folder test between its qualifier, if there is one, and its folder;
- a null test, a full-text search and a function on their own, without a look below;
- a literal or a list of literals with the decoded values.

A literal that does not decode is an error in its place in the trace. Whoever consumes a trace
stops at the first error or at the first visit that fails.
-/

set_option autoImplicit false

namespace ContentQuery

def Comparison.kindName : Comparison → String
  | eq => "EQ"
  | neq => "NEQ"
  | gt => "GT"
  | ge => "GE"
  | lt => "LT"
  | le => "LE"

def Relation.kindName : Relation → String
  | compare op => op.kindName
  | isIn false => "IN"
  | isIn true => "NOT_IN"
  | anyIn false => "IN_ANY"
  | anyIn true => "NOT_IN_ANY"
  | equalsAny => "EQ_ANY"
  | like false => "LIKE"
  | like true => "NOT_LIKE"

def FolderScope.kindName : FolderScope → String
  | children => "IN_FOLDER"
  | descendants => "IN_TREE"

namespace Predicate

/-- The name by which messages call a kind of node. -/
def kindName : Predicate → String
  | relation r _ _ => r.kindName
  | and _ _ => "AND"
  | or _ _ => "OR"
  | not _ => "NOT"
  | isNull negated _ => if negated then "IS_NOT_NULL" else "IS_NULL"
  | contains _ _ => "CONTAINS"
  | inFolder scope _ => scope.kindName
  | inFolderOf scope _ _ => scope.kindName
  | score _ => "SCORE"
  | column _ => "COLUMN"
  | literal _ => "LITERAL"
  | literalList _ => "LITERAL_LIST"

def column? : Predicate → Option ColumnRef
  | column c => some c
  | _ => none

/-- The value of a literal. -/
def literalValue? : Predicate → Except LiteralError Value
  | literal raw => Literal.value? raw
  | node => .error ⟨node.kindName, .expectedLiteral⟩

/-- The values of a list of literals; a single literal is a list of one. -/
def literalValues? : Predicate → Except LiteralError (List Value)
  | literalList items => items.mapM literalValue?
  | node => node.literalValue?.map fun v => [v]

/-! ## All nodes -/

mutual

/-- A tree and all trees below it, parents first and left before right. -/
def nodes : Predicate → List Predicate
  | relation r l rt => relation r l rt :: (l.nodes ++ rt.nodes)
  | and l r => and l r :: (l.nodes ++ r.nodes)
  | or l r => or l r :: (l.nodes ++ r.nodes)
  | not p => not p :: p.nodes
  | isNull negated p => isNull negated p :: p.nodes
  | contains q search => [contains q search]
  | inFolder scope folder => inFolder scope folder :: folder.nodes
  | inFolderOf scope q folder => inFolderOf scope q folder :: (q.nodes ++ folder.nodes)
  | score f => [score f]
  | column c => [column c]
  | literal raw => [literal raw]
  | literalList items => literalList items :: nodesOfAll items

/-- The nodes of a list of trees, one tree after the other. -/
def nodesOfAll : List Predicate → List Predicate
  | [] => []
  | p :: ps => p.nodes ++ nodesOfAll ps

end

/-! ## Visits -/

/-- One visit to a node. -/
inductive Visit
  | before (node : Predicate)
  | on (node : Predicate)
  | after (node : Predicate)
  | value (node : Predicate) (v : Value)
  | values (node : Predicate) (vs : List Value)

/-- The visits to a tree in order. -/
def trace : Predicate → List (Except LiteralError Visit)
  | relation r l rt => l.trace ++ .ok (.on (relation r l rt)) :: rt.trace
  | and l r =>
    .ok (.before (and l r)) :: l.trace ++ .ok (.on (and l r)) :: r.trace
      ++ [.ok (.after (and l r))]
  | or l r =>
    .ok (.before (or l r)) :: l.trace ++ .ok (.on (or l r)) :: r.trace ++ [.ok (.after (or l r))]
  | not p => .ok (.before (not p)) :: .ok (.on (not p)) :: p.trace ++ [.ok (.after (not p))]
  | isNull negated p => [.ok (.on (isNull negated p))]
  | contains q search => [.ok (.on (contains q search))]
  | inFolder scope folder => .ok (.on (inFolder scope folder)) :: folder.trace
  | inFolderOf scope q folder => q.trace ++ .ok (.on (inFolderOf scope q folder)) :: folder.trace
  | score f => [.ok (.on (score f))]
  | column c => [.ok (.on (column c))]
  | literal raw => [(literal raw).literalValue?.map (.value (literal raw))]
  | literalList items => [(literalList items).literalValues?.map (.values (literalList items))]

end Predicate

end ContentQuery
