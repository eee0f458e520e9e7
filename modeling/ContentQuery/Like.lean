/-!
# LIKE patterns

A pattern is read as a list of tokens (`Like.tokens`), shown in the notation of regular
expressions (`Like.regexText`) and matched against a whole value (`Like.Pattern.accepts`).
Matching works on the row of all suffixes of the value at once, so its cost is bounded by the
product of both lengths.
-/

set_option autoImplicit false

namespace ContentQuery.Like

/-- One element of a pattern. -/
inductive Token
  | sequence
  | one
  | escaped (c : Char)
  | plain (c : Char)
deriving DecidableEq, Repr

/-- Reads a pattern: `%` and `_` are wild cards unless a backslash stands before them. -/
def tokens : List Char → List Token
  | [] => []
  | '\\' :: '%' :: rest => .escaped '%' :: tokens rest
  | '\\' :: '_' :: rest => .escaped '_' :: tokens rest
  | '%' :: rest => .sequence :: tokens rest
  | '_' :: rest => .one :: tokens rest
  | c :: rest => .plain c :: tokens rest

theorem tokens_nil : tokens [] = [] := rfl

theorem tokens_sequence (rest : List Char) : tokens ('%' :: rest) = .sequence :: tokens rest := rfl

theorem tokens_one (rest : List Char) : tokens ('_' :: rest) = .one :: tokens rest := rfl

theorem tokens_escaped_sequence (rest : List Char) :
    tokens ('\\' :: '%' :: rest) = .escaped '%' :: tokens rest := rfl

theorem tokens_escaped_one (rest : List Char) :
    tokens ('\\' :: '_' :: rest) = .escaped '_' :: tokens rest := rfl

/-- The form in which a token is shown. -/
def Token.text : Token → List Char
  | sequence => ['.', '*']
  | one => ['.']
  | escaped c => ['\\', c]
  | plain c => [c]

/-- The pattern with its wild cards written as those of a regular expression, and all other
characters as they are. -/
def regexText (pattern : String) : String :=
  String.ofList ((tokens pattern.toList).flatMap Token.text)

/-- A text with a backslash before every wild card, as a pattern that matches this text alone. -/
def escape (value : List Char) : List Char :=
  value.flatMap fun c => if c == '%' || c == '_' then ['\\', c] else [c]

/-! ## Matching

A row holds one truth value for each suffix of a value, the whole value first and the empty
suffix last. -/

/-- The row of a pattern without tokens: it matches the empty suffix alone. -/
def emptyRow (value : List Char) : List Bool :=
  value.map (fun _ => false) ++ [true]

/-- The row of one character of a class and then what `row` matches. -/
def characterRow (accepts : Char → Bool) : List Char → List Bool → List Bool
  | c :: cs, _ :: b :: row => (accepts c && b) :: characterRow accepts cs (b :: row)
  | _, _ => [false]

/-- The row of any characters and then what `row` matches. -/
def sequenceRow : List Bool → List Bool
  | [] => []
  | b :: row => (b || row.any id) :: sequenceRow row

/-- The row of a token and then what `row` matches. -/
def Token.row (value : List Char) (row : List Bool) : Token → List Bool
  | sequence => sequenceRow row
  | one => characterRow (fun _ => true) value row
  | escaped c => characterRow (· == c) value row
  | plain c => characterRow (· == c) value row

/-- The row of a list of tokens. -/
def matchRow (value : List Char) (tokens : List Token) : List Bool :=
  tokens.foldr (fun token row => token.row value row) (emptyRow value)

/-- A pattern ready for matching. -/
structure Pattern where
  source : String
  tokens : List Token
deriving DecidableEq, Repr

def Pattern.ofText (source : String) : Pattern := ⟨source, Like.tokens source.toList⟩

/-- Whether the whole value matches the pattern. -/
def Pattern.accepts (pattern : Pattern) (value : String) : Bool :=
  (matchRow value.toList pattern.tokens).head?.getD false

end ContentQuery.Like
