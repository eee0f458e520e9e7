import ContentQuery.FullText.Parser
import ContentQuery.Statement.Basic
import ContentQuery.Text.Quoted

/-!
# Tokens of a statement

The cursor of the statement parser and the tokens it takes: characters, operators, keywords in any
case, identifiers, quoted strings and numbers. Every one of them passes over white space first,
but `quoted`, which takes a string literal exactly where the cursor stands.
-/

set_option autoImplicit false

namespace ContentQuery

/-! ## Errors -/

/-- Why a text is no statement. Positions count bytes of UTF-8. -/
inductive ParseError
  | expectedKeyword (word : String)
  | expectedChar (c : Char) (got : Option Char)
  | expectedIdentifier (position : Nat)
  | expectedComparison (got : Option Char)
  | expectedInOrLike
  | expectedLiteral (got : Option Char)
  | expectedString
  | unclosedString
  | unexpectedInput (position : Nat) (rest : String)
  | search (e : FullText.ParseError)
  | literal (e : LiteralError)
deriving DecidableEq, Repr

def ParseError.message : ParseError → String
  | expectedKeyword word => "Expected keyword '" ++ word ++ "'"
  | expectedChar c got => "Expected '" ++ String.singleton c ++ "', got " ++ Text.quoteNext got
  | expectedIdentifier position => "Expected identifier at position " ++ toString position
  | expectedComparison got => "Expected comparison operator, got " ++ Text.quoteNext got
  | expectedInOrLike => "Expected IN or LIKE after NOT"
  | expectedLiteral got => "Expected literal, got " ++ Text.quoteNext got
  | expectedString => "Expected string literal"
  | unclosedString => "Unclosed string"
  | unexpectedInput position rest =>
    "Unexpected input at position " ++ toString position ++ ": '" ++ rest ++ "'"
  | search e => e.message
  | literal e => e.message

namespace Statement

/-! ## The cursor -/

/-- What is left of an input of `total` bytes, and the id of the next reference. -/
structure Cursor where
  rest : List Char
  total : Nat
  nextId : SelectorId

/-- The number of bytes of a text. -/
def byteLength (cs : List Char) : Nat := total (cs.map Char.utf8Size)

def Cursor.ofText (cs : List Char) : Cursor := ⟨cs, byteLength cs, 0⟩

/-- The number of bytes before the cursor. -/
def Cursor.position (c : Cursor) : Nat := c.total - byteLength c.rest

abbrev Parser := StateT Cursor (Except ParseError)

/-- The id of a new reference. -/
def freshId : Parser SelectorId :=
  modifyGet fun c => (c.nextId, { c with nextId := c.nextId + 1 })

def setRest (rest : List Char) : Parser Unit :=
  modify fun c => { c with rest }

def skipBlanks : Parser Unit :=
  modify fun c => { c with rest := c.rest.dropWhile Text.isBlank }

/-- The character at the cursor. -/
def peek : Parser (Option Char) := do
  return (← get).rest.head?

/-! ## Characters and operators -/

/-- Takes a character after any white space, if it is there. -/
def tryChar (c : Char) : Parser Bool := do
  skipBlanks
  match (← get).rest with
  | d :: rest => if d == c then setRest rest; return true else return false
  | [] => return false

def expectChar (c : Char) : Parser Unit := do
  unless ← tryChar c do throw (.expectedChar c (← peek))

/-- Takes an operator after any white space, if it is there. -/
def tryOperator (op : List Char) : Parser Bool := do
  skipBlanks
  let rest := (← get).rest
  if op.isPrefixOf rest then setRest (rest.drop op.length); return true else return false

/-! ## Words -/

def startsIdentifier (c : Char) : Bool := Text.isAlphabetic c || c == '_'

def continuesIdentifier (c : Char) : Bool := Text.isAlphanumeric c || c == '_' || c == ':'

/-- The identifier that a text starts with, or nothing. -/
def wordAt : List Char → List Char
  | c :: cs => if startsIdentifier c then c :: cs.takeWhile continuesIdentifier else []
  | [] => []

/-- Whether a text starts with exactly this keyword, in any case. -/
def keywordAt (word : String) (cs : List Char) : Bool :=
  let found := wordAt cs
  !found.isEmpty && Literal.isWord word found

/-- Takes a keyword after any white space, if it is there. -/
def tryKeyword (word : String) : Parser Bool := do
  skipBlanks
  let rest := (← get).rest
  if keywordAt word rest then setRest (rest.drop (wordAt rest).length); return true
  else return false

def expectKeyword (word : String) : Parser Unit := do
  unless ← tryKeyword word do throw (.expectedKeyword word)

def identifier : Parser String := do
  skipBlanks
  let c ← get
  let word := wordAt c.rest
  if word.isEmpty then throw (.expectedIdentifier c.position)
  setRest (c.rest.drop word.length)
  return String.ofList word

/-- The words that are never taken for an alias without `AS`. -/
def reservedWords : List String :=
  ["SELECT", "FROM", "WHERE", "ORDER", "BY", "AS", "JOIN", "INNER", "LEFT", "OUTER", "ON",
    "AND", "OR", "NOT", "IN", "LIKE", "IS", "NULL", "ANY", "ASC", "DESC"]

/-- An alias without `AS`: an identifier that is not a reserved word. -/
def tryAlias : Parser (Option String) := do
  skipBlanks
  let rest := (← get).rest
  let word := wordAt rest
  if word.isEmpty || reservedWords.any (Literal.isWord · word) then return none
  setRest (rest.drop word.length)
  return some (String.ofList word)

/-! ## Literals -/

/-- Splits a text after the first single quote that is not escaped. -/
def splitQuoted? : List Char → Option (List Char × List Char)
  | [] => none
  | '\\' :: c :: rest => (splitQuoted? rest).map fun (body, rest) => ('\\' :: c :: body, rest)
  | c :: rest =>
    if c == '\'' then some ([c], rest)
    else (splitQuoted? rest).map fun (body, rest) => (c :: body, rest)

/-- Takes a string literal as it is written, with its quotes. -/
def quoted : Parser String := do
  match (← get).rest with
  | '\'' :: body =>
    match splitQuoted? body with
    | some (token, rest) =>
      setRest rest
      return String.ofList ('\'' :: token)
    | none => throw .unclosedString
  | _ => throw .expectedString

/-- Splits a text after its digits, points and exponent marks; a sign may follow a mark. -/
def splitNumber : List Char → List Char × List Char
  | [] => ([], [])
  | c :: cs =>
    if c.isDigit || c == '.' then
      let (number, rest) := splitNumber cs
      (c :: number, rest)
    else if c == 'e' || c == 'E' then
      match cs with
      | [] => ([c], [])
      | s :: rest =>
        if s == '+' || s == '-' then
          let (number, rest) := splitNumber rest
          (c :: s :: number, rest)
        else
          let (number, rest) := splitNumber (s :: rest)
          (c :: number, rest)
    else ([], c :: cs)

/-- Splits a text after the number that it starts with, sign included. -/
def splitSignedNumber : List Char → List Char × List Char
  | [] => ([], [])
  | c :: cs =>
    if c == '+' || c == '-' then
      let (number, rest) := splitNumber cs
      (c :: number, rest)
    else splitNumber (c :: cs)

/-- Takes a number as it is written. -/
def number : Parser String := do
  skipBlanks
  let (token, rest) := splitSignedNumber (← get).rest
  if token.isEmpty then throw (.expectedLiteral (← peek))
  setRest rest
  return String.ofList token

/-- Whether a literal stands at the cursor, and not an identifier. -/
def literalAt (cs : List Char) : Bool :=
  match cs with
  | [] => false
  | c :: _ =>
    c == '\'' || c == '+' || c == '-' || c == '.' || c.isDigit || keywordAt "TIMESTAMP" cs
      || keywordAt "TRUE" cs || keywordAt "FALSE" cs

end Statement

end ContentQuery
