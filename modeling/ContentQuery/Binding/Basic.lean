import ContentQuery.Binding.Error
import ContentQuery.Catalog.Basic
import ContentQuery.Statement.Predicate

/-!
# Bound statements

What the references of a statement stand for. The statement itself is left as it is, and the
resolutions stand beside it in a table by reference id.
-/

set_option autoImplicit false

namespace ContentQuery

/-- What a reference stands for: a property of the type under an alias, all properties of the
types under some aliases, or the score of the full-text search. -/
inductive Resolution
  | property (aliasName typeId : String) (property : PropertyDefinition)
  | wildcard (aliases : List String)
  | score
deriving DecidableEq, Repr

/-- The full-text search of a statement and the alias whose objects it searches. -/
structure FullTextClause where
  aliasName : String
  search : FullText.Tree

/-- What is known about the names of a statement: the types under their aliases in FROM order, the
aliases of the SELECT list, the resolutions by reference id, the references of the join conditions
in order, and the full-text search. -/
structure Bindings where
  types : OrderedMap String TypeDefinition
  selectAliases : OrderedMap String SelectorId
  resolved : OrderedMap SelectorId Resolution
  joinReferences : List SelectorId
  fullText : Option FullTextClause

def Bindings.empty : Bindings := ⟨.empty, .empty, .empty, [], none⟩

/-- The alias of the first type. -/
def Bindings.defaultAlias (b : Bindings) : String := b.types.keys.head?.getD ""

/-- A statement with the meaning of its names. -/
structure BoundStatement where
  statement : Statement
  bindings : Bindings

namespace BoundStatement

def aliases (b : BoundStatement) : List String := b.bindings.types.keys

def resolution? (b : BoundStatement) (id : SelectorId) : Option Resolution :=
  b.bindings.resolved.get? id

/-- The alias and the property that a reference stands for. -/
def property? (b : BoundStatement) (id : SelectorId) : Option (String × PropertyDefinition) :=
  match b.resolution? id with
  | some (.property aliasName _ property) => some (aliasName, property)
  | _ => none

end BoundStatement

end ContentQuery
