import ContentQuery.Evaluation.Basic

/-!
# Joins

The rows of a FROM list: one for each object of the first type, extended by the objects of each
joined type in turn. A left outer join keeps a row for which there is no object.
-/

set_option autoImplicit false

namespace ContentQuery

namespace Join

/-- The value of a column of a join condition, while `object` is tried under `alias`. -/
def sideValue (bound : BoundStatement) (row : Row) (aliasName : String) (object : ContentObject)
    (column : ColumnRef) : Except QueryError (Option Value) :=
  match bound.property? column.id with
  | none => .error (.execution (.unboundJoinColumn column.toText))
  | some (side, property) =>
    let source := if side = aliasName then some object else row.get? side
    .ok ((source.bind (·.property? property.id)).bind PropertyValue.single?)

/-- Whether both sides of a join condition have a value and are equal. -/
def sidesAgree : Option Value → Option Value → Bool
  | some a, some b => a.equal b
  | _, _ => false

/-- Whether an object can be added to a row under an alias. -/
def accepts (bound : BoundStatement) (join : Option JoinSpec) (row : Row) (aliasName : String)
    (object : ContentObject) : Except QueryError Bool :=
  match join with
  | none => .ok true
  | some join => do
    let left ← sideValue bound row aliasName object join.left
    let right ← sideValue bound row aliasName object join.right
    pure (sidesAgree left right)

def isLeftOuter (join : Option JoinSpec) : Bool :=
  match join with
  | some join => join.kind == .leftOuter
  | none => false

/-- The extensions of a row by the objects of one more alias. -/
def extend (bound : BoundStatement) (join : Option JoinSpec) (aliasName : String)
    (objects : List ContentObject) (row : Row) : Except QueryError (List Row) := do
  let partners ← objects.filterM (accepts bound join row aliasName)
  if partners.isEmpty && isLeftOuter join then pure [row.insert aliasName none]
  else pure (partners.map fun object => row.insert aliasName (some object))

/-- The rows of the joined types after the first one. -/
def extendAll (bound : BoundStatement) (rows : List Row) :
    List (Source × String × List ContentObject) → Except QueryError (List Row)
  | [] => .ok rows
  | (source, aliasName, objects) :: others => do
    let extended ← rows.mapM (extend bound source.join aliasName objects)
    extendAll bound extended.flatten others

/-- The rows of all candidates under their aliases. -/
def rows (bound : BoundStatement) :
    List (String × List ContentObject) → Except QueryError (List Row)
  | [] => .ok []
  | (aliasName, objects) :: others =>
    let first := objects.map fun object => Row.empty.insert aliasName (some object)
    extendAll bound first ((bound.statement.sources.drop 1).zip others)

end Join

end ContentQuery
