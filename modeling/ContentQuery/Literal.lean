import ContentQuery.Value

/-!
# Literals

The typed value of a literal token (`Literal.value?`), the text of a quoted string
(`Literal.unquote?`) and the text of a word or phrase of a full-text search
(`Literal.searchTerm?`). The kind of a value comes from the form of its token alone.
-/

set_option autoImplicit false

namespace ContentQuery

/-- Why a token is no literal. -/
inductive LiteralFault
  | empty
  | notQuoted
  | danglingEscape
  | unescapedQuote
  | invalidTimestamp
  | unrecognized
  | unterminatedPhrase
  | emptyTerm
  | expectedLiteral
  | expectedTerm
deriving DecidableEq, Repr

def LiteralFault.reason : LiteralFault → String
  | empty => "empty literal"
  | notQuoted => "string literal must be enclosed in single quotes"
  | danglingEscape => "dangling escape character"
  | unescapedQuote => "unescaped quote inside string literal"
  | invalidTimestamp => "invalid timestamp"
  | unrecognized => "not a boolean, number, string or timestamp"
  | unterminatedPhrase => "unterminated phrase"
  | emptyTerm => "empty full-text term"
  | expectedLiteral => "expected a literal"
  | expectedTerm => "expected a word or phrase"

/-- A text that was read as a literal in vain. -/
structure LiteralError where
  text : String
  fault : LiteralFault
deriving DecidableEq, Repr

def LiteralError.message (e : LiteralError) : String :=
  e.text ++ " (" ++ e.fault.reason ++ ")"

namespace Literal

/-! ## Quoted text -/

/-- What stands between two quote characters. -/
def enclosed? (quote : Char) : List Char → Option (List Char)
  | c :: rest =>
    if c == quote && rest.getLast? == some quote then some rest.dropLast else none
  | [] => none

/-- Resolves the escapes of a quoted string: a backslash escapes a quote or a backslash and
otherwise stands for itself. -/
def unescapeQuoted : List Char → Except LiteralFault (List Char)
  | [] => .ok []
  | ['\\'] => .error .danglingEscape
  | '\\' :: c :: rest =>
    (unescapeQuoted rest).map fun out =>
      if c == '\'' || c == '\\' then c :: out else '\\' :: c :: out
  | c :: rest =>
    if c == '\'' then .error .unescapedQuote else (unescapeQuoted rest).map (c :: ·)

/-- The text of a string literal in single quotes. -/
def unquote? (s : String) : Except LiteralError String :=
  match enclosed? '\'' s.toList with
  | none => .error ⟨s, .notQuoted⟩
  | some body =>
    match unescapeQuoted body with
    | .ok cs => .ok (String.ofList cs)
    | .error fault => .error ⟨s, fault⟩

/-- A text with a backslash before every backslash and every single quote. -/
def escapeQuoted (cs : List Char) : List Char :=
  cs.flatMap fun c => if c == '\\' || c == '\'' then ['\\', c] else [c]

/-- The string literal of a text. -/
def quote (s : String) : String := String.ofList ('\'' :: escapeQuoted s.toList ++ ['\''])

/-! ## Terms of a full-text search -/

/-- Resolves the escapes of a search term: a backslash escapes quotes, a backslash and the minus
sign, and otherwise stands for itself. -/
def unescapeTerm : List Char → Except LiteralFault (List Char)
  | [] => .ok []
  | ['\\'] => .error .danglingEscape
  | '\\' :: c :: rest =>
    (unescapeTerm rest).map fun out =>
      if c == '\\' || c == '\'' || c == '"' || c == '-' then c :: out else '\\' :: c :: out
  | c :: rest => (unescapeTerm rest).map (c :: ·)

/-- The text of a word, or of a phrase in double quotes. -/
def searchTerm? (s : String) : Except LiteralError String :=
  let cs := s.toList
  let body := if cs.head? == some '"' then enclosed? '"' cs else some cs
  match body with
  | none => .error ⟨s, .unterminatedPhrase⟩
  | some body =>
    match unescapeTerm body with
    | .error fault => .error ⟨s, fault⟩
    | .ok cs => if cs.all Text.isBlank then .error ⟨s, .emptyTerm⟩ else .ok (String.ofList cs)

/-! ## Typed literals -/

/-- Whether a text is a word, up to the case of ASCII letters. -/
def isWord (word : String) (cs : List Char) : Bool :=
  cs.map Char.toLower == word.toList.map Char.toLower

/-- The signed integer of 64 bits that a row of digits denotes. -/
def int64OfDigits? (negative : Bool) (digits : List Char) : Option Int64 :=
  (Text.natOfDigits? digits).bind fun n =>
    int64? (if negative then -(n : Int) else n)

/-- A number without its sign starts with a digit or a point and has digits, points and exponents
only. -/
def looksNumeric (cs : List Char) : Bool :=
  let starts := match cs with
    | c :: _ => c.isDigit || c == '.'
    | [] => false
  starts && cs.all fun c =>
    c.isDigit || c == '.' || c == 'e' || c == 'E' || c == '+' || c == '-'

/-- A number: an integer, or a decimal if there is a point or an exponent. -/
def number? (token : List Char) : Option Value :=
  let (sign, body) := match token with
    | '+' :: rest => (some '+', rest)
    | '-' :: rest => (some '-', rest)
    | _ => (none, token)
  if !looksNumeric body then none
  else if !body.any (fun c => c == '.' || c == 'e' || c == 'E') then
    (int64OfDigits? (sign == some '-') body).map .integer
  else
    let unsigned := if sign == some '-' then token else body
    if body.any (fun c => c == 'e' || c == 'E') then
      (Decimal.ofScientific? unsigned).map .decimal
    else (Decimal.ofPlain? unsigned).map .decimal

/-- What follows the word `TIMESTAMP` in any case, if white space or a quote does. -/
def afterTimestampWord? (token : List Char) : Option (List Char) :=
  let rest := token.drop 9
  let separated := match rest with
    | c :: _ => Text.isBlank c || c == '\''
    | [] => false
  if isWord "TIMESTAMP" (token.take 9) && separated then some rest else none

/-- The typed value of a literal token. -/
def value? (s : String) : Except LiteralError Value :=
  let token := Text.trim s.toList
  if token.isEmpty then .error ⟨s, .empty⟩
  else if isWord "TRUE" token then .ok (.boolean true)
  else if isWord "FALSE" token then .ok (.boolean false)
  else if token.head? == some '\'' then (unquote? (String.ofList token)).map .string
  else match afterTimestampWord? token with
    | some rest => do
      let body ← unquote? (String.ofList (rest.dropWhile Text.isBlank))
      match Timestamp.ofText? body with
      | some t => pure (.datetime t)
      | none => .error ⟨s, .invalidTimestamp⟩
    | none =>
      match number? token with
      | some v => .ok v
      | none => .error ⟨s, .unrecognized⟩

end Literal

end ContentQuery
