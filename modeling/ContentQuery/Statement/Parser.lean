import ContentQuery.Statement.Lexer

/-!
# Reading statements

`Statement.parse` reads a whole statement:

- SELECT: columns, functions and wild cards, each with an alias if one follows;
- FROM: a type and the types joined to it, with an equality of two columns for each join;
- WHERE: comparisons, membership, patterns, null tests, full-text search and folder tests under
  `NOT`, `AND` and `OR`, which bind in this order;
- ORDER BY: columns and functions.

Literals stay as they are written. References get their ids in the order in which they end. The
recursion of the WHERE grammar is bounded by a fuel that grows with the text: every parenthesis
and every `NOT`, `AND` and `OR` on the way down takes at least one character.
-/

set_option autoImplicit false

namespace ContentQuery.Statement

/-! ## Lists -/

/-- One or more items between commas. Every item takes at least one character, so `fuel` above
the length of the text is never used up. -/
def separated {α : Type} (item : Parser α) : (fuel : Nat) → Parser (List α)
  | 0 => throw (.expectedLiteral none)
  | fuel + 1 => do
    let first ← item
    if ← tryChar ',' then
      let others ← separated item fuel
      return first :: others
    else return [first]

/-- One or more items between commas. -/
def commaSeparated {α : Type} (item : Parser α) : Parser (List α) := do
  separated item ((← get).rest.length + 1)

/-! ## References -/

/-- The rest of a column reference after its first identifier. Behind a point that touches it
stands the property, or a wild card that touches the point. -/
def columnAfter (first : String) : Parser ColumnRef := do
  match (← get).rest with
  | '.' :: '*' :: rest =>
    setRest rest
    return ⟨← freshId, some first, wildcard⟩
  | '.' :: rest =>
    setRest rest
    let property ← identifier
    return ⟨← freshId, some first, property⟩
  | _ => return ⟨← freshId, none, first⟩

def columnRef : Parser ColumnRef := do
  columnAfter (← identifier)

/-- A function without arguments, or a column. -/
def selector : Parser Selector := do
  let first ← identifier
  if ← tryChar '(' then
    expectChar ')'
    return .function ⟨← freshId, first⟩
  else return .column (← columnAfter first)

/-! ## SELECT, FROM and ORDER BY -/

/-- An alias, with or without `AS`. -/
def aliasOpt : Parser (Option String) := do
  if ← tryKeyword "AS" then return some (← identifier) else tryAlias

def selectItem : Parser SelectItem := do
  let selector ←
    if ← tryChar '*' then pure (.column ⟨← freshId, none, wildcard⟩) else selector
  return ⟨selector, ← aliasOpt⟩

/-- The kind of join that follows, if one does. -/
def joinKind : Parser (Option JoinKind) := do
  if ← tryKeyword "INNER" then
    expectKeyword "JOIN"
    return some .inner
  else if ← tryKeyword "LEFT" then
    let _ ← tryKeyword "OUTER"
    expectKeyword "JOIN"
    return some .leftOuter
  else if ← tryKeyword "JOIN" then return some .inner
  else return none

/-- A type with its alias. -/
def typeRef (join : Option JoinSpec) : Parser Source := do
  let typeId ← identifier
  return ⟨typeId, ← aliasOpt, join⟩

/-- A joined type behind its kind of join. -/
def joinedType (kind : JoinKind) : Parser Source := do
  let source ← typeRef none
  expectKeyword "ON"
  let left ← columnRef
  expectChar '='
  let right ← columnRef
  return { source with join := some ⟨kind, left, right⟩ }

/-- The joined types up to the end of the FROM list. -/
def joinedTypes : (fuel : Nat) → Parser (List Source)
  | 0 => return []
  | fuel + 1 => do
    match ← joinKind with
    | none => return []
    | some kind =>
      let source ← joinedType kind
      let others ← joinedTypes fuel
      return source :: others

def sourceList : Parser (List Source) := do
  let first ← typeRef none
  let others ← joinedTypes ((← get).rest.length + 1)
  return first :: others

def sortSpec : Parser SortSpec := do
  let selector ← selector
  if ← tryKeyword "DESC" then return ⟨selector, false⟩
  let _ ← tryKeyword "ASC"
  return ⟨selector, true⟩

/-! ## Operands -/

/-- A literal. Booleans and the word `TIMESTAMP` are written in capitals. -/
def literalToken : Parser Predicate := do
  skipBlanks
  if (← peek) == some '\'' then return .literal (← quoted)
  else if ← tryKeyword "TIMESTAMP" then
    skipBlanks
    return .literal ("TIMESTAMP " ++ (← quoted))
  else if ← tryKeyword "TRUE" then return .literal "TRUE"
  else if ← tryKeyword "FALSE" then return .literal "FALSE"
  else return .literal (← number)

def literalList : Parser Predicate := do
  expectChar '('
  let items ← commaSeparated literalToken
  expectChar ')'
  return .literalList items

/-- A literal, a function or a column. -/
def operand : Parser Predicate := do
  skipBlanks
  if literalAt (← get).rest then literalToken
  else
    let first ← identifier
    if ← tryChar '(' then
      expectChar ')'
      return .score ⟨← freshId, first⟩
    else return .column (← columnAfter first)

/-! ## Tests -/

/-- The alias before the comma of a full-text search or folder test, if there is one. -/
def qualifier : Parser (Option String) := do
  expectChar '('
  skipBlanks
  if (← peek) == some '\'' then return none
  else
    let name ← identifier
    expectChar ','
    return some name

/-- The arguments of a full-text search. -/
def containsArguments : Parser Predicate := do
  let aliasName ← qualifier
  skipBlanks
  let raw ← quoted
  expectChar ')'
  match Literal.unquote? raw with
  | .error e => throw (.literal e)
  | .ok text =>
    match FullText.parse text with
    | .error e => throw (.search e)
    | .ok search => return .contains aliasName search

/-- The arguments of a folder test. -/
def folderArguments (scope : FolderScope) : Parser Predicate := do
  match ← qualifier with
  | none =>
    let folder ← literalToken
    expectChar ')'
    return .inFolder scope folder
  | some aliasName =>
    let aliasName := .column ⟨← freshId, some aliasName, wildcard⟩
    let folder ← literalToken
    expectChar ')'
    return .inFolderOf scope aliasName folder

/-- Membership of the values of a column, behind the word `ANY`. -/
def anyMembership : Parser Predicate := do
  let column ← columnRef
  let negated ← tryKeyword "NOT"
  expectKeyword "IN"
  return .relation (.anyIn negated) (.column column) (← literalList)

/-- The comparison operators, longest first. -/
def comparisons : List (List Char × Comparison) :=
  [(['<', '='], .le), (['>', '='], .ge), (['<', '>'], .neq), (['<'], .lt), (['>'], .gt),
    (['='], .eq)]

/-- Takes the first operator of a list that is there. -/
def tryComparison : List (List Char × Comparison) → Parser (Option Comparison)
  | [] => return none
  | (text, op) :: others => do
    if ← tryOperator text then return some op else tryComparison others

/-- A comparison behind its left operand. -/
def comparisonAfter (left : Predicate) : Parser Predicate := do
  match ← tryComparison comparisons with
  | none => throw (.expectedComparison (← peek))
  | some .eq =>
    if ← tryKeyword "ANY" then return .relation .equalsAny left (.column (← columnRef))
    else return .relation (.compare .eq) left (← operand)
  | some op => return .relation (.compare op) left (← operand)

/-- A test behind its left operand. -/
def testAfter (left : Predicate) : Parser Predicate := do
  if ← tryKeyword "IS" then
    let negated ← tryKeyword "NOT"
    expectKeyword "NULL"
    return .isNull negated left
  let negated ← tryKeyword "NOT"
  if ← tryKeyword "IN" then return .relation (.isIn negated) left (← literalList)
  if ← tryKeyword "LIKE" then return .relation (.like negated) left (← literalToken)
  if negated then throw .expectedInOrLike
  comparisonAfter left

/-- A test without connectives and parentheses. -/
def test : Parser Predicate := do
  if ← tryKeyword "CONTAINS" then containsArguments
  else if ← tryKeyword "IN_FOLDER" then folderArguments .children
  else if ← tryKeyword "IN_TREE" then folderArguments .descendants
  else if ← tryKeyword "ANY" then anyMembership
  else testAfter (← operand)

/-! ## Connectives -/

mutual

/-- Conjunctions between `OR`s, from the left. -/
def disjunction : (fuel : Nat) → Parser Predicate
  | 0 => throw (.expectedLiteral none)
  | fuel + 1 => do disjunctionAfter fuel (← conjunction fuel)

def disjunctionAfter : (fuel : Nat) → Predicate → Parser Predicate
  | 0, left => return left
  | fuel + 1, left => do
    if ← tryKeyword "OR" then disjunctionAfter fuel (.or left (← conjunction fuel))
    else return left

/-- Negations between `AND`s, from the left. -/
def conjunction : (fuel : Nat) → Parser Predicate
  | 0 => throw (.expectedLiteral none)
  | fuel + 1 => do conjunctionAfter fuel (← negation fuel)

def conjunctionAfter : (fuel : Nat) → Predicate → Parser Predicate
  | 0, left => return left
  | fuel + 1, left => do
    if ← tryKeyword "AND" then conjunctionAfter fuel (.and left (← negation fuel))
    else return left

/-- A test behind any number of `NOT`s. -/
def negation : (fuel : Nat) → Parser Predicate
  | 0 => throw (.expectedLiteral none)
  | fuel + 1 => do
    if ← tryKeyword "NOT" then return .not (← negation fuel) else primary fuel

/-- A test, or a whole predicate in parentheses. -/
def primary : (fuel : Nat) → Parser Predicate
  | 0 => throw (.expectedLiteral none)
  | fuel + 1 => do
    if ← tryChar '(' then
      let inner ← disjunction fuel
      expectChar ')'
      return inner
    else test

end

/-- A WHERE tree. -/
def predicate : Parser Predicate := do
  disjunction (4 * (← get).rest.length + 4)

/-! ## Statements -/

/-- What comes after the FROM list. -/
def filterOpt : Parser (Option Predicate) := do
  if ← tryKeyword "WHERE" then return some (← predicate) else return none

def orderByOpt : Parser (List SortSpec) := do
  if ← tryKeyword "ORDER" then
    expectKeyword "BY"
    commaSeparated sortSpec
  else return []

/-- The end of the text, after at most one semicolon. -/
def endOfText : Parser Unit := do
  let _ ← tryChar ';'
  skipBlanks
  let c ← get
  unless c.rest.isEmpty do throw (.unexpectedInput c.position (String.ofList c.rest))

/-- A whole statement; `text` is what it reports as its own text. -/
def statement (text : String) : Parser Statement := do
  expectKeyword "SELECT"
  let select ← commaSeparated selectItem
  expectKeyword "FROM"
  let sources ← sourceList
  let filter ← filterOpt
  let orderBy ← orderByOpt
  endOfText
  return { text, select, sources, filter, orderBy }

/-- Reads a statement. Its own text is the input without the white space around it. -/
def parse (text : String) : Except ParseError Statement :=
  let cs := text.toList
  (statement (String.ofList (Text.trim cs))).run' (.ofText cs)

/-- A text that is given by its characters is read without decoding it. -/
theorem parse_ofList (cs : List Char) :
    parse (String.ofList cs) = (statement (String.ofList (Text.trim cs))).run' (.ofText cs) := by
  rw [parse, String.toList_ofList]

end ContentQuery.Statement
