import ContentQuery.FullText.Tree

/-!
# Statements

What a query says: the SELECT list, the FROM list with its joins, the WHERE tree and the ORDER BY
list. Every reference to a column or a function has an id of its own, and nothing is stored in the
tree about what it stands for; that is the business of binding.
-/

set_option autoImplicit false

namespace ContentQuery

/-! ## References -/

/-- Identifies a reference within its statement. -/
abbrev SelectorId := Nat

/-- A reference to a property, with the alias or type it belongs to if the query names one. -/
structure ColumnRef where
  id : SelectorId
  qualifier : Option String
  property : String
deriving DecidableEq, Repr

/-- The property name that stands for all properties. -/
def wildcard : String := "*"

def ColumnRef.isWildcard (c : ColumnRef) : Bool := c.property == wildcard

/-- A reference as a query writes it. -/
def ColumnRef.toText (c : ColumnRef) : String :=
  match c.qualifier with
  | some q => q ++ "." ++ c.property
  | none => c.property

/-- A reference to a function without arguments. -/
structure FunctionRef where
  id : SelectorId
  name : String
deriving DecidableEq, Repr

def FunctionRef.toText (f : FunctionRef) : String := f.name ++ "()"

/-- What SELECT and ORDER BY list. -/
inductive Selector
  | column (c : ColumnRef)
  | function (f : FunctionRef)
deriving DecidableEq, Repr

def Selector.id : Selector → SelectorId
  | column c => c.id
  | function f => f.id

def Selector.toText : Selector → String
  | column c => c.toText
  | function f => f.toText

structure SelectItem where
  selector : Selector
  aliasName : Option String
deriving DecidableEq, Repr

structure SortSpec where
  selector : Selector
  ascending : Bool
deriving DecidableEq, Repr

/-! ## FROM -/

inductive JoinKind
  | inner
  | leftOuter
deriving DecidableEq, Repr

def JoinKind.toText : JoinKind → String
  | inner => "INNER JOIN"
  | leftOuter => "LEFT OUTER JOIN"

/-- A join with the two columns that have to be equal. -/
structure JoinSpec where
  kind : JoinKind
  left : ColumnRef
  right : ColumnRef
deriving DecidableEq, Repr

/-- A type in the FROM list, with the join that adds it to the types before it. -/
structure Source where
  typeId : String
  aliasName : Option String
  join : Option JoinSpec
deriving DecidableEq, Repr

/-- The name under which the statement refers to the type. -/
def Source.bindingName (source : Source) : String :=
  source.aliasName.getD source.typeId

/-! ## WHERE -/

/-- The six comparison operators. -/
inductive Comparison
  | eq | neq | gt | ge | lt | le
deriving DecidableEq, Repr

/-- Whether values in this order satisfy the operator. -/
def Comparison.accepts : Comparison → Ordering → Bool
  | eq, o => o == .eq
  | neq, o => o != .eq
  | gt, o => o == .gt
  | ge, o => o != .lt
  | lt, o => o == .lt
  | le, o => o != .gt

/-- Whether the operator asks for an order and not only for equality. -/
def Comparison.isOrdering : Comparison → Bool
  | eq => false
  | neq => false
  | _ => true

/-- The operators between two operands. `isIn`, `anyIn` and `like` have negative forms; `equalsAny`
has its literal on the left and its column on the right. -/
inductive Relation
  | compare (op : Comparison)
  | isIn (negated : Bool)
  | anyIn (negated : Bool)
  | equalsAny
  | like (negated : Bool)
deriving DecidableEq, Repr

/-- What a folder test asks of an object: to be a child of the folder or a descendant. -/
inductive FolderScope
  | children
  | descendants
deriving DecidableEq, Repr

/-- A node of the WHERE tree. A folder test names its folder by a literal, and `inFolderOf` also
the alias of the object by a wild-card column. Literals hold their tokens as written. -/
inductive Predicate
  | relation (r : Relation) (left right : Predicate)
  | and (left right : Predicate)
  | or (left right : Predicate)
  | not (operand : Predicate)
  | isNull (negated : Bool) (operand : Predicate)
  | contains (qualifier : Option String) (search : FullText.Tree)
  | inFolder (scope : FolderScope) (folder : Predicate)
  | inFolderOf (scope : FolderScope) (qualifier folder : Predicate)
  | score (f : FunctionRef)
  | column (c : ColumnRef)
  | literal (raw : String)
  | literalList (items : List Predicate)

instance : Inhabited Predicate := ⟨.literal ""⟩

/-! ## Statements -/

/-- A query, with its own text. -/
structure Statement where
  text : String
  select : List SelectItem
  sources : List Source
  filter : Option Predicate
  orderBy : List SortSpec

/-- The joins of the FROM list in order. -/
def Statement.joins (s : Statement) : List JoinSpec :=
  s.sources.filterMap Source.join

end ContentQuery
