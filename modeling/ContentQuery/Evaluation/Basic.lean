import ContentQuery.Binding.Basic
import ContentQuery.Evaluation.SortKey
import ContentQuery.Like
import ContentQuery.Repository.Basic

/-!
# Evaluators

A row has one object, or nothing, under each alias. An `Evaluator` reads the values that the
references of a bound statement have in a row, the outcome of its full-text search and its sort
key. The full-text search is asked of an index if there is one, and of the object's own text
otherwise. An index is a function in a monad of its own, so that it may remember what it was asked.
-/

set_option autoImplicit false

namespace ContentQuery

/-- An external full-text search by object id. -/
abbrev TextIndex (m : Type → Type) :=
  FullText.Tree → String → ExceptT QueryError m FullText.Match

/-- A candidate of a query: an object under each alias, or nothing where an outer join found
none. -/
structure Row where
  objects : OrderedMap String (Option ContentObject)

namespace Row

def empty : Row := ⟨.empty⟩

def insert (row : Row) (aliasName : String) (object : Option ContentObject) : Row :=
  ⟨row.objects.insert aliasName object⟩

def get? (row : Row) (aliasName : String) : Option ContentObject :=
  (row.objects.get? aliasName).join

/-- The row of one object under each alias of a statement. -/
def single (bound : BoundStatement) (object : ContentObject) : Row :=
  ⟨.ofList (bound.aliases.map fun aliasName => (aliasName, some object))⟩

end Row

/-- What it takes to evaluate a bound statement. -/
structure Evaluator (m : Type → Type) where
  bound : BoundStatement
  folders : FolderHierarchy
  index : Option (TextIndex m)
  matcher : FullText.Matcher
  patterns : OrderedMap String Like.Pattern

namespace Evaluator

/-! ## LIKE patterns -/

/-- The pattern literals of the LIKE tests of a tree, as written. -/
def patternLiterals (p : Predicate) : List String :=
  p.nodes.filterMap fun
    | .relation (.like _) _ (.literal raw) => some raw
    | _ => none

/-- The patterns of a statement by their text. -/
def preparePatterns (s : Statement) : Except LiteralError (OrderedMap String Like.Pattern) := do
  let literals := match s.filter with
    | some p => patternLiterals p
    | none => []
  let texts ← literals.mapM Literal.unquote?
  pure (.ofList (texts.map fun text => (text, .ofText text)))

variable {m : Type → Type}

/-- The evaluator of a bound statement. -/
def prepare (bound : BoundStatement) (folders : FolderHierarchy) (index : Option (TextIndex m))
    (caseSensitiveText : Bool) : Except QueryError (Evaluator m) :=
  match preparePatterns bound.statement with
  | .ok patterns => .ok { bound, folders, index, matcher := ⟨caseSensitiveText⟩, patterns }
  | .error e => .error (.literal e)

/-- The pattern of a text: the one that was prepared, or a new one. -/
def pattern (e : Evaluator m) (text : String) : Like.Pattern :=
  (e.patterns.get? text).getD (.ofText text)

variable [Monad m]

/-! ## Values of a row -/

/-- What an object stores under the property that a reference stands for. -/
def storedProperty? (e : Evaluator m) (row : Row) (id : SelectorId) : Option PropertyValue := do
  let (aliasName, property) ← e.bound.property? id
  let object ← row.get? aliasName
  object.property? property.id

/-- The outcome of the full-text search in a row; a miss if there is no search or no object. -/
def fullTextMatch (e : Evaluator m) (row : Row) : ExceptT QueryError m FullText.Match :=
  match e.bound.bindings.fullText with
  | none => return .miss
  | some clause =>
    match row.get? clause.aliasName with
    | none => return .miss
    | some object =>
      match e.index with
      | some index => index clause.search object.id
      | none =>
        ExceptT.mk (pure ((Repository.matchObject e.matcher clause.search object).mapError
          .literal))

def score (e : Evaluator m) (row : Row) : ExceptT QueryError m Decimal := do
  return (← e.fullTextMatch row).score

/-- The value of a property or of the score in a row. -/
def selectorValue (e : Evaluator m) (id : SelectorId) (row : Row) :
    ExceptT QueryError m (Option PropertyValue) :=
  match e.bound.resolution? id with
  | some (.property aliasName _ property) =>
    return (row.get? aliasName).bind (·.property? property.id)
  | some .score => do return some (.single (.decimal (← e.score row)))
  | some (.wildcard _) => throw (.execution (.noSingleValue id))
  | none => throw (.execution (.noSingleValue id))

/-- The sort key of a row. -/
def sortKey (e : Evaluator m) (row : Row) : ExceptT QueryError m SortKey :=
  e.bound.statement.orderBy.mapM fun spec => do
    return (← e.selectorValue spec.selector.id row).bind PropertyValue.single?

end Evaluator

end ContentQuery
