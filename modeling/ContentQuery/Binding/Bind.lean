import ContentQuery.Binding.Basic

/-!
# Binding

`Statement.bind` gives every reference of a statement its meaning under a catalog and checks that
every operator has operands that it can take. The clauses are bound in the order FROM, SELECT,
joins, WHERE and ORDER BY, and the first error ends binding.

A reference is resolved once: later uses of its id find the resolution in the table. Outside the
SELECT list, a name without qualifier that is an alias of the SELECT list stands for what that
item stands for.
-/

set_option autoImplicit false

namespace ContentQuery

namespace Binding

abbrev Binder := StateT Bindings (Except BindError)

/-- The part of a statement in which a reference stands. -/
inductive Clause
  | select
  | join
  | filter
  | orderBy
deriving DecidableEq, Repr

def invalid {α : Type} (fault : StatementFault) : Binder α :=
  throw (.invalidStatement fault)

/-- The value of a literal node. -/
def literalOf (node : Predicate) : Binder Value :=
  match node.literalValue? with
  | .ok v => return v
  | .error e => throw (.malformedLiteral e)

/-! ## References -/

/-- What a wild card stands for. It stands in the SELECT list, or as the qualifier of a folder
test. -/
def lookupWildcard (b : Bindings) (column : ColumnRef) (clause : Clause) :
    Except BindError Resolution :=
  match column.qualifier, clause with
  | none, .select => .ok (.wildcard b.types.keys)
  | some q, .select => qualified q
  | some q, .filter => qualified q
  | _, _ => .error (.invalidStatement (.wildcardOutsideSelect column.toText))
where
  qualified (q : String) : Except BindError Resolution :=
    if b.types.contains q then .ok (.wildcard [q]) else .error (.unknownType q)

/-- The types under their aliases that have a property of this query name, with the property. -/
def definingTypes (b : Bindings) (queryName : String) :
    List (String × TypeDefinition × PropertyDefinition) :=
  b.types.entries.filterMap fun (aliasName, t) =>
    (t.property? queryName).map fun p => (aliasName, t, p)

/-- The alias, the type and the property of a name: of the type that qualifies it, or of the only
type that has such a property. -/
def lookupProperty (b : Bindings) (column : ColumnRef) :
    Except BindError (String × TypeDefinition × PropertyDefinition) :=
  match column.qualifier with
  | some q =>
    match b.types.get? q with
    | none => .error (.unknownType q)
    | some t =>
      match t.property? column.property with
      | some p => .ok (q, t, p)
      | none => .error (.unknownProperty column.property (.oneType t.id))
  | none =>
    match definingTypes b column.property with
    | [found] => .ok found
    | [] => .error (.unknownProperty column.property (.types (b.types.values.map (·.id))))
    | found => .error (.ambiguousProperty column.property (found.map (·.1)))

/-- What the SELECT item of this alias stands for. -/
def lookupSelectAlias (b : Bindings) (column : ColumnRef) (clause : Clause) : Option Resolution :=
  if column.qualifier.isNone && clause != .select then
    (b.selectAliases.get? column.property).bind b.resolved.get?
  else none

/-- Whether properties in a clause have to be queryable. -/
def Clause.searches : Clause → Bool
  | join => true
  | filter => true
  | select => false
  | orderBy => false

/-- What a column stands for. -/
def lookupColumn (b : Bindings) (column : ColumnRef) (clause : Clause) :
    Except BindError Resolution :=
  if column.isWildcard then lookupWildcard b column clause
  else
    match lookupSelectAlias b column clause with
    | some r => .ok r
    | none => do
      let (aliasName, t, p) ← lookupProperty b column
      if clause.searches && !p.queryable then throw (.notQueryable column.toText)
      pure (.property aliasName t.id p)

def record (id : SelectorId) (r : Resolution) : Binder Unit :=
  modify fun b => { b with resolved := b.resolved.insert id r }

/-- Resolves a column that is not resolved yet. -/
def resolveColumn (column : ColumnRef) (clause : Clause) : Binder Resolution := do
  let b ← get
  match b.resolved.get? column.id with
  | some r => return r
  | none =>
    let r ← lookupColumn b column clause
    record column.id r
    return r

/-- Resolves a column that has to stand for a property. -/
def resolveProperty (column : ColumnRef) (clause : Clause) : Binder PropertyDefinition := do
  match ← resolveColumn column clause with
  | .property _ _ p => return p
  | _ => invalid (.notAProperty column.toText)

/-- Resolves a function; the score is the only one. -/
def resolveFunction (f : FunctionRef) : Binder Unit := do
  if !Literal.isWord "SCORE" f.name.toList then throw (.unsupportedFunction f.toText)
  record f.id .score

/-! ## FROM, SELECT, joins and ORDER BY -/

def bindSource (catalog : Catalog) (source : Source) : Binder Unit := do
  let b ← get
  let aliasName := source.bindingName
  if b.types.contains aliasName then throw (.duplicateAlias .sources aliasName)
  match catalog.lookup? source.typeId with
  | none => throw (.unknownType source.typeId)
  | some t =>
    if !t.queryable then invalid (.typeNotQueryable source.typeId)
    set { b with types := b.types.insert aliasName t }

def bindSources (catalog : Catalog) (sources : List Source) : Binder Unit := do
  if sources.isEmpty then invalid .noSources
  sources.forM (bindSource catalog)

def bindSelector : Selector → Binder Unit
  | .column c => do let _ ← resolveColumn c .select
  | .function f => resolveFunction f

/-- Records an alias of the SELECT list, which has it once. -/
def bindSelectAlias (id : SelectorId) : Option String → Binder Unit
  | none => return
  | some aliasName => do
    let b ← get
    if b.selectAliases.contains aliasName then throw (.duplicateAlias .select aliasName)
    set { b with selectAliases := b.selectAliases.insert aliasName id }

def bindSelectItem (item : SelectItem) : Binder Unit := do
  bindSelector item.selector
  bindSelectAlias item.selector.id item.aliasName

/-- Resolves a column of a join condition. -/
def bindJoinColumn (column : ColumnRef) : Binder Unit := do
  let _ ← resolveProperty column .join
  modify fun b => { b with joinReferences := b.joinReferences ++ [column.id] }

def bindJoin (join : JoinSpec) : Binder Unit := do
  bindJoinColumn join.left
  bindJoinColumn join.right

/-- Results are ordered by the score and by orderable properties with one value. -/
def bindSortSpec (spec : SortSpec) : Binder Unit := do
  match spec.selector with
  | .function f => resolveFunction f
  | .column c =>
    match ← resolveColumn c .orderBy with
    | .property _ _ p =>
      if p.isMultiValued || !p.orderable then throw (.notOrderable c.toText)
    | .score => return
    | .wildcard _ => throw (.notOrderable c.toText)

/-! ## Operands -/

def comparisonText : Comparison → String
  | .eq => "="
  | .neq => "<>"
  | .gt => ">"
  | .ge => ">="
  | .lt => "<"
  | .le => "<="

/-- An operand of a comparison: a property with one value, a literal or the score. Booleans have
no order. -/
def checkOperand (op : Comparison) (operand : Predicate) : Binder Unit := do
  match operand with
  | .column c =>
    match ← resolveColumn c .filter with
    | .property _ _ p =>
      if p.isMultiValued then throw (.quantifierRequired c.toText)
      if op.isOrdering && p.kind == .boolean then
        throw (.invalidComparison (comparisonText op) c.toText)
    | .score => return
    | .wildcard _ => invalid (.invalidColumnOperand c.toText (comparisonText op))
  | .literal raw =>
    if op.isOrdering then
      if (← literalOf operand).kind == .boolean then
        throw (.invalidComparison (comparisonText op) raw)
  | .score f => resolveFunction f
  | _ => invalid (.invalidOperand operand.kindName (comparisonText op))

/-- An operand that has to be a column of a property. -/
def checkColumn (operator : String) (operand : Predicate) :
    Binder (ColumnRef × PropertyDefinition) := do
  match operand.column? with
  | some c => return (c, ← resolveProperty c .filter)
  | none => invalid (.propertyRequired operator)

/-- An operand that has to be a property with one value. -/
def checkSingleValued (operator : String) (operand : Predicate) : Binder PropertyDefinition := do
  let (c, p) ← checkColumn operator operand
  if p.isMultiValued then throw (.quantifierRequired c.toText)
  return p

/-- An operand that has to be a property with many values. -/
def checkMultiValued (operator : String) (operand : Predicate) : Binder Unit := do
  let (c, p) ← checkColumn operator operand
  if !p.isMultiValued then throw (.invalidQuantifier c.toText)

/-- Patterns are strings and match strings and ids. -/
def checkLike (column pattern : Predicate) : Binder Unit := do
  let p ← checkSingleValued "LIKE" column
  if p.kind != .string && p.kind != .id then invalid (.likeNeedsText p.queryName p.kind)
  let v ← literalOf pattern
  if v.kind != .string then invalid (.likePatternKind v.kind)

/-- Checks the operands of a relation. -/
def checkRelation (r : Relation) (left right : Predicate) : Binder Unit := do
  match r with
  | .compare op =>
    checkOperand op left
    checkOperand op right
  | .isIn negated => let _ ← checkSingleValued (if negated then "NOT IN" else "IN") left
  | .anyIn negated => checkMultiValued (if negated then "ANY ... NOT IN" else "ANY ... IN") left
  | .equalsAny => checkMultiValued "= ANY" right
  | .like _ => checkLike left right

/-- The alias that a search or folder test applies to without a qualifier: there must not be a
choice. -/
def implicitAlias (function : String) : Binder String := do
  let b ← get
  if 1 < b.types.size then invalid (.aliasMissing function)
  return b.defaultAlias

/-- A folder is named by a string. -/
def checkFolderId (scope : FolderScope) (folder : Predicate) : Binder Unit := do
  let v ← literalOf folder
  if v.kind != .string then invalid (.folderIdKind scope.kindName v.kind)

/-- The qualifier of a folder test is the wild card of an alias. -/
def checkFolderQualifier (scope : FolderScope) (qualifier : Predicate) : Binder Unit := do
  match qualifier.column? with
  | some c =>
    if !(c.isWildcard && c.qualifier.isSome) then invalid (.qualifierNotAlias scope.kindName)
  | none => invalid (.qualifierNotAlias scope.kindName)

/-- The alias that a full-text search applies to. -/
def searchedAlias : Option String → Binder String
  | some q => return q
  | none => implicitAlias "CONTAINS"

/-- Records the full-text search of a statement, which has at most one. All its terms have to
decode. -/
def bindContains (qualifier : Option String) (search : FullText.Tree) : Binder Unit := do
  if (← get).fullText.isSome then invalid .secondContains
  let aliasName ← searchedAlias qualifier
  let b ← get
  match b.types.get? aliasName with
  | none => throw (.unknownType aliasName)
  | some t =>
    if !t.fulltextIndexed then invalid (.notFullTextIndexed t.id)
    match search.check with
    | .error e => throw (.malformedLiteral e)
    | .ok () => set { b with fullText := some ⟨aliasName, search⟩ }

/-! ## WHERE -/

/-- Binds one visit to a WHERE tree. -/
def bindVisit (visit : Predicate.Visit) : Binder Unit := do
  match visit with
  | .on (.relation r left right) => checkRelation r left right
  | .on (.isNull negated operand) =>
    let _ ← checkColumn (if negated then "IS NOT NULL" else "IS NULL") operand
  | .on (.contains qualifier search) => bindContains qualifier search
  | .on (.inFolder scope folder) =>
    let _ ← implicitAlias scope.kindName
    checkFolderId scope folder
  | .on (.inFolderOf scope qualifier folder) =>
    checkFolderQualifier scope qualifier
    checkFolderId scope folder
  | .on (.score f) => resolveFunction f
  | .on (.column c) => let _ ← resolveColumn c .filter
  | _ => return

/-- Binds a trace of visits up to the first error. -/
def bindTrace (trace : List (Except LiteralError Predicate.Visit)) : Binder Unit :=
  trace.forM fun
    | .ok visit => bindVisit visit
    | .error e => throw (.malformedLiteral e)

def bindFilter : Option Predicate → Binder Unit
  | some p => bindTrace p.trace
  | none => return

/-- Binds all clauses of a statement. -/
def bindClauses (catalog : Catalog) (s : Statement) : Binder Unit := do
  bindSources catalog s.sources
  s.select.forM bindSelectItem
  s.joins.forM bindJoin
  bindFilter s.filter
  s.orderBy.forM bindSortSpec

end Binding

/-- Gives the names of a statement their meaning under a catalog. -/
def Statement.bind (s : Statement) (catalog : Catalog) : Except BindError BoundStatement :=
  ((Binding.bindClauses catalog s).run .empty).map fun ((), bindings) => ⟨s, bindings⟩

/-- Binds a statement; an error quotes it. -/
def Statement.bindNamed (s : Statement) (catalog : Catalog) : Except QueryError BoundStatement :=
  (s.bind catalog).mapError (.bind s.text)

end ContentQuery
