import ContentQuery.FullText.Printer
import ContentQuery.Statement.Predicate

/-!
# Writing statements

`Statement.toText` writes a statement in one fixed form: with `AS` before every alias, the kind of
every join and the direction of every sort, literals as their tokens, and only the parentheses that
`NOT`, `AND` and `OR` need, which bind in this order and associate to the left.
-/

set_option autoImplicit false

namespace ContentQuery

namespace Statement

/-- The items of a list with a comma and a blank between them. -/
def commaChars {α : Type} (chars : α → List Char) (items : List α) : List Char :=
  List.intercalate [',', ' '] (items.map chars)

def aliasChars : Option String → List Char
  | some name => " AS ".toList ++ name.toList
  | none => []

end Statement

open Statement

/-! ## SELECT, FROM and ORDER BY -/

def SelectItem.chars (item : SelectItem) : List Char :=
  item.selector.toText.toList ++ aliasChars item.aliasName

/-- A type with its alias and, if it is joined to others, its condition. -/
def Source.chars (source : Source) : List Char :=
  let type := source.typeId.toList ++ aliasChars source.aliasName
  match source.join with
  | none => type
  | some join =>
    ' ' :: join.kind.toText.toList ++ ' ' :: type ++ " ON ".toList ++ join.left.toText.toList
      ++ " = ".toList ++ join.right.toText.toList

def SortSpec.chars (spec : SortSpec) : List Char :=
  spec.selector.toText.toList ++ (if spec.ascending then " ASC" else " DESC").toList

/-! ## WHERE -/

namespace Predicate

def enclose (cs : List Char) : List Char := '(' :: cs ++ [')']

/-- Puts parentheses around a connective that binds less than its place asks for. -/
def encloseIf (condition : Bool) (cs : List Char) : List Char :=
  if condition then enclose cs else cs

def negationChars (negated : Bool) : List Char := if negated then "NOT ".toList else []

def comparisonChars : Comparison → List Char
  | .eq => "=".toList
  | .neq => "<>".toList
  | .gt => ">".toList
  | .ge => ">=".toList
  | .lt => "<".toList
  | .le => "<=".toList

/-- A relation between its written operands. -/
def relationChars (r : Relation) (left right : List Char) : List Char :=
  match r with
  | .compare op => left ++ ' ' :: comparisonChars op ++ ' ' :: right
  | .isIn negated => left ++ ' ' :: negationChars negated ++ "IN ".toList ++ right
  | .anyIn negated => "ANY ".toList ++ left ++ ' ' :: negationChars negated ++ "IN ".toList ++ right
  | .equalsAny => left ++ " = ANY ".toList ++ right
  | .like negated => left ++ ' ' :: negationChars negated ++ "LIKE ".toList ++ right

section
variable (negated : Bool) (left right : List Char)

theorem relationChars_compare (op : Comparison) : relationChars (.compare op) left right =
    left ++ ' ' :: comparisonChars op ++ ' ' :: right := rfl

theorem relationChars_isIn : relationChars (.isIn negated) left right =
    left ++ ' ' :: negationChars negated ++ "IN ".toList ++ right := rfl

theorem relationChars_anyIn : relationChars (.anyIn negated) left right =
    "ANY ".toList ++ left ++ ' ' :: negationChars negated ++ "IN ".toList ++ right := rfl

theorem relationChars_equalsAny : relationChars .equalsAny left right =
    left ++ " = ANY ".toList ++ right := rfl

theorem relationChars_like : relationChars (.like negated) left right =
    left ++ ' ' :: negationChars negated ++ "LIKE ".toList ++ right := rfl

end

/-- The alias that qualifies a folder test. -/
def qualifierChars : Predicate → List Char
  | column c => (c.qualifier.getD c.property).toList
  | _ => []

mutual

/-- A tree in a place that asks for a binding strength: 0 for any tree, 1 for all but `OR`, 2 for
all but `OR` and `AND`, and 3 for a test alone. -/
def chars (strength : Nat) : Predicate → List Char
  | relation r l rt => relationChars r (l.chars 3) (rt.chars 3)
  | and l r => encloseIf (1 < strength) (l.chars 1 ++ " AND ".toList ++ r.chars 2)
  | or l r => encloseIf (0 < strength) (l.chars 0 ++ " OR ".toList ++ r.chars 1)
  | not p => encloseIf (2 < strength) ("NOT ".toList ++ p.chars 2)
  | isNull negated p => p.chars 3 ++ " IS ".toList ++ negationChars negated ++ "NULL".toList
  | contains q search =>
    let text := (Literal.quote search.toText).toList
    "CONTAINS".toList ++ enclose (match q with
      | some q => q.toList ++ ',' :: ' ' :: text
      | none => text)
  | inFolder scope folder => scope.kindName.toList ++ enclose (folder.chars 3)
  | inFolderOf scope q folder =>
    scope.kindName.toList ++ enclose (q.qualifierChars ++ ',' :: ' ' :: folder.chars 3)
  | score f => f.toText.toList
  | column c => c.toText.toList
  | literal raw => raw.toList
  | literalList items => enclose (charsOfAll items)

/-- The trees of a list with a comma and a blank between them. -/
def charsOfAll : List Predicate → List Char
  | [] => []
  | p :: ps =>
    match ps with
    | [] => p.chars 3
    | _ :: _ => p.chars 3 ++ ',' :: ' ' :: charsOfAll ps

end

section
variable (strength : Nat)

@[simp] theorem chars_relation (r : Relation) (left right : Predicate) :
    (relation r left right).chars strength = relationChars r (left.chars 3) (right.chars 3) := rfl

theorem chars_and (l r : Predicate) : (and l r).chars strength =
    encloseIf (1 < strength) (l.chars 1 ++ " AND ".toList ++ r.chars 2) := rfl

theorem chars_or (l r : Predicate) : (or l r).chars strength =
    encloseIf (0 < strength) (l.chars 0 ++ " OR ".toList ++ r.chars 1) := rfl

theorem chars_not (p : Predicate) : (not p).chars strength =
    encloseIf (2 < strength) ("NOT ".toList ++ p.chars 2) := rfl

@[simp] theorem chars_isNull (negated : Bool) (p : Predicate) : (isNull negated p).chars strength =
    p.chars 3 ++ " IS ".toList ++ negationChars negated ++ "NULL".toList := rfl

@[simp] theorem chars_contains_none (search : FullText.Tree) :
    (contains none search).chars strength =
      "CONTAINS".toList ++ enclose (Literal.quote search.toText).toList := rfl

@[simp] theorem chars_contains_some (q : String) (search : FullText.Tree) :
    (contains (some q) search).chars strength = "CONTAINS".toList ++
      enclose (q.toList ++ ',' :: ' ' :: (Literal.quote search.toText).toList) := rfl

@[simp] theorem chars_inFolder (scope : FolderScope) (folder : Predicate) :
    (inFolder scope folder).chars strength =
      scope.kindName.toList ++ enclose (folder.chars 3) := rfl

@[simp] theorem chars_inFolderOf (scope : FolderScope) (q folder : Predicate) :
    (inFolderOf scope q folder).chars strength = scope.kindName.toList ++
      enclose (q.qualifierChars ++ ',' :: ' ' :: folder.chars 3) := rfl

@[simp] theorem chars_score (f : FunctionRef) : (score f).chars strength = f.toText.toList := rfl

@[simp] theorem chars_column (c : ColumnRef) : (column c).chars strength = c.toText.toList := rfl

@[simp] theorem chars_literal (raw : String) : (literal raw).chars strength = raw.toList := rfl

@[simp] theorem chars_literalList (items : List Predicate) :
    (literalList items).chars strength = enclose (charsOfAll items) := rfl

/-- The trees of a list are written as those of any list are. -/
theorem charsOfAll_eq (items : List Predicate) :
    charsOfAll items = commaChars (·.chars 3) items := by
  induction items with
  | nil => rfl
  | cons p ps ih =>
    cases ps with
    | nil => exact (List.append_nil _).symm
    | cons q qs =>
      show p.chars 3 ++ ',' :: ' ' :: charsOfAll (q :: qs) = _
      rw [ih]
      rfl

end

end Predicate

/-! ## Statements -/

namespace Statement

def chars (s : Statement) : List Char :=
  let filter := match s.filter with
    | some p => " WHERE ".toList ++ p.chars 0
    | none => []
  let orderBy :=
    if s.orderBy.isEmpty then [] else " ORDER BY ".toList ++ commaChars SortSpec.chars s.orderBy
  "SELECT ".toList ++ commaChars SelectItem.chars s.select ++ " FROM ".toList
    ++ s.sources.flatMap Source.chars ++ filter ++ orderBy

def toText (s : Statement) : String := String.ofList s.chars

end Statement

end ContentQuery
