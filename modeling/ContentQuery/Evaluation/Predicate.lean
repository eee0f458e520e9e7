import ContentQuery.Evaluation.Basic

/-!
# Evaluating a WHERE tree

A row is tested by running through the trace of the WHERE tree with a stack of truth values. Every
test pushes its result, and a connective replaces the results of its operands by its own once they
have been visited. A property that is absent fails every test but `IS NULL`.
-/

set_option autoImplicit false

namespace ContentQuery.Evaluator

/-- The results so far, last first, and the outcome of the full-text search once it is known. -/
structure Progress where
  stack : List Bool
  fullText : Option FullText.Match

abbrev RowTest (m : Type → Type) := StateT Progress (ExceptT QueryError m)

variable {m : Type → Type} [Monad m]

/-! ## The stack -/

def push (result : Bool) : RowTest m Unit :=
  modify fun p => { p with stack := result :: p.stack }

def pop : RowTest m Bool := do
  let p ← get
  match p.stack with
  | result :: stack =>
    set { p with stack }
    return result
  | [] => throw (.execution .stackUnderflow)

/-! ## Operands -/

/-- The full-text search of the row, which is made at most once. -/
def searchOnce (e : Evaluator m) (row : Row) : RowTest m FullText.Match := do
  match (← get).fullText with
  | some found => return found
  | none =>
    let found ← liftM (e.fullTextMatch row)
    modify fun p => { p with fullText := some found }
    return found

def literalOf (node : Predicate) : RowTest m Value :=
  match node.literalValue? with
  | .ok v => return v
  | .error fault => throw (.literal fault)

def literalsOf (node : Predicate) : RowTest m (List Value) :=
  match node.literalValues? with
  | .ok vs => return vs
  | .error fault => throw (.literal fault)

/-- What is stored under the property of a column node. -/
def stored? (e : Evaluator m) (row : Row) (node : Predicate) : Option PropertyValue :=
  node.column?.bind fun c => e.storedProperty? row c.id

def storedValues (e : Evaluator m) (row : Row) (node : Predicate) : List Value :=
  match e.stored? row node with
  | some p => p.values
  | none => []

/-- The value of an operand: of a column, if it has exactly one, of a literal or of the score. -/
def operandValue (e : Evaluator m) (row : Row) (node : Predicate) : RowTest m (Option Value) := do
  match node with
  | .column c =>
    if e.bound.resolution? c.id == some .score then
      return some (.decimal (← e.searchOnce row).score)
    else return (e.stored? row node).bind PropertyValue.single?
  | .literal _ => return some (← literalOf node)
  | .score _ => return some (.decimal (← e.searchOnce row).score)
  | _ => throw (.execution (.notAValue node.kindName))

/-! ## Tests -/

/-- Whether two operand values satisfy a comparison. Booleans have no order. -/
def compareOperands (op : Comparison) : Option Value → Option Value → Bool
  | some a, some b =>
    if op.isOrdering && (a.kind == .boolean || b.kind == .boolean) then false
    else
      match a.compare? b with
      | some o => op.accepts o
      | none => false
  | _, _ => false

/-- Whether a value equals some value of a list. -/
def isAmong (v : Value) (list : List Value) : Bool := list.any v.equal

/-- The result of a relation in a row. -/
def testRelation (e : Evaluator m) (row : Row) (r : Relation) (left right : Predicate) :
    RowTest m Bool := do
  match r with
  | .compare op =>
    let a ← e.operandValue row left
    let b ← e.operandValue row right
    return compareOperands op a b
  | .isIn negated =>
    let list ← literalsOf right
    match ← e.operandValue row left with
    | some v => return isAmong v list != negated
    | none => return false
  | .anyIn negated =>
    let list ← literalsOf right
    return (e.storedValues row left).any fun v => isAmong v list != negated
  | .equalsAny =>
    let v ← literalOf left
    return (e.storedValues row right).any fun w => w.equal v
  | .like negated =>
    match ← literalOf right with
    | .string text =>
      let pattern := e.pattern text
      match (← e.operandValue row left).bind Value.text? with
      | some s => return pattern.accepts s != negated
      | none => return false
    | other => throw (.execution (.likePatternKind other.kind))

/-- Whether a null test holds: an absent property and an empty list of values are null. -/
def testNull (e : Evaluator m) (row : Row) (negated : Bool) (operand : Predicate) : Bool :=
  match e.stored? row operand with
  | some p => p.isEmpty != negated
  | none => !negated

/-- The alias whose object a folder test is about. -/
def folderAlias (e : Evaluator m) (qualifier : Option Predicate) : String :=
  ((qualifier.bind Predicate.column?).bind (·.qualifier)).getD e.bound.bindings.defaultAlias

/-- The result of a folder test in a row; there is none without an object. -/
def testFolder (e : Evaluator m) (row : Row) (scope : FolderScope) (qualifier : Option Predicate)
    (folder : Predicate) : RowTest m Bool := do
  let v ← literalOf folder
  match v.text? with
  | none => throw (.execution (.folderIdKind v.kind))
  | some folderId =>
    match row.get? (e.folderAlias qualifier) with
    | none => return false
    | some object =>
      match scope with
      | .children => return e.folders.parent? object.id == some folderId
      | .descendants => return (e.folders.ancestors object.id).contains folderId

/-! ## Rows -/

/-- Runs one visit of the trace. -/
def testVisit (e : Evaluator m) (row : Row) (visit : Predicate.Visit) : RowTest m Unit := do
  match visit with
  | .on (.relation r left right) => push (← e.testRelation row r left right)
  | .on (.isNull negated operand) => push (e.testNull row negated operand)
  | .on (.contains _ _) => push (← e.searchOnce row).matched
  | .on (.inFolder scope folder) => push (← e.testFolder row scope none folder)
  | .on (.inFolderOf scope qualifier folder) =>
    push (← e.testFolder row scope (some qualifier) folder)
  | .after (.and _ _) =>
    let right ← pop
    let left ← pop
    push (left && right)
  | .after (.or _ _) =>
    let right ← pop
    let left ← pop
    push (left || right)
  | .after (.not _) => push (!(← pop))
  | _ => return

/-- Runs a trace up to the first error. -/
def testTrace (e : Evaluator m) (row : Row)
    (trace : List (Except LiteralError Predicate.Visit)) : RowTest m Unit :=
  trace.forM fun
    | .ok visit => e.testVisit row visit
    | .error fault => throw (.literal fault)

/-- Whether a row satisfies the WHERE tree of the statement; a statement without one accepts
every row. -/
def evaluateRow (e : Evaluator m) (row : Row) : ExceptT QueryError m Bool :=
  match e.bound.statement.filter with
  | none => return true
  | some p => do
    let ((), progress) ← (e.testTrace row p.trace).run ⟨[], none⟩
    match progress.stack with
    | result :: _ => return result
    | [] => throw (.execution .noResult)

/-- Whether one object satisfies the WHERE tree of a statement on a single type. -/
def evaluate (e : Evaluator m) (object : ContentObject) : ExceptT QueryError m Bool :=
  e.evaluateRow (.single e.bound object)

end ContentQuery.Evaluator
