import ContentQuery.FullText.Tree

/-!
# Reading a full-text search

Terms side by side form a conjunction, the word `OR` separates alternatives, a minus sign directly
before a term negates it, and double quotes enclose a phrase. A backslash keeps the next character
from ending a term. `FullText.parse` fails only on an empty alternative or an open phrase.
-/

set_option autoImplicit false

namespace ContentQuery.FullText

/-- Why a text is no full-text search. -/
inductive ParseError
  | emptyExpression
  | unterminatedPhrase (rest : String)
deriving DecidableEq, Repr

def ParseError.message : ParseError → String
  | emptyExpression => "Empty full-text expression"
  | unterminatedPhrase rest => "Unterminated phrase: " ++ rest

/-! ## Terms -/

/-- Splits a text after the word that it starts with: up to white space that is not escaped. -/
def splitWord : List Char → List Char × List Char
  | [] => ([], [])
  | '\\' :: c :: rest =>
    let (word, rest) := splitWord rest
    ('\\' :: c :: word, rest)
  | c :: rest =>
    if Text.isBlank c then ([], c :: rest)
    else
      let (word, rest) := splitWord rest
      (c :: word, rest)

/-- Splits a text after the first double quote that is not escaped. -/
def splitPhrase? : List Char → Option (List Char × List Char)
  | [] => none
  | '\\' :: c :: rest => (splitPhrase? rest).map fun (phrase, rest) => ('\\' :: c :: phrase, rest)
  | c :: rest =>
    if c == '"' then some ([c], rest)
    else (splitPhrase? rest).map fun (phrase, rest) => (c :: phrase, rest)

/-- Takes a word or phrase off the front. -/
def takeLeaf (cs : List Char) : Except ParseError (Tree × List Char) :=
  match cs with
  | '"' :: rest =>
    match splitPhrase? rest with
    | some (phrase, rest) => .ok (.phrase (String.ofList ('"' :: phrase)), rest)
    | none => .error (.unterminatedPhrase (String.ofList cs))
  | _ =>
    let (word, rest) := splitWord cs
    .ok (.word (String.ofList word), rest)

/-- Takes a term off the front: a word or phrase, negated by a minus sign that touches it. -/
def takeTerm (cs : List Char) : Except ParseError (Tree × List Char) :=
  match cs with
  | '-' :: c :: rest =>
    if Text.isBlank c then takeLeaf cs
    else (takeLeaf (c :: rest)).map fun (leaf, rest) => (.negation leaf, rest)
  | _ => takeLeaf cs

/-- Whether a text starts with the word `OR`. -/
def startsWithOr : List Char → Bool
  | 'O' :: 'R' :: c :: _ => Text.isBlank c
  | ['O', 'R'] => true
  | _ => false

/-! ## Expressions -/

/-- A single term stands for itself. -/
def collapse (node : List Tree → Tree) : List Tree → Tree
  | [t] => t
  | ts => node ts

/-- The terms up to the next `OR` or the end, with what follows. Every term takes at least one
character, so `fuel` above the length of the text is never used up. -/
def takeTerms : (fuel : Nat) → List Char → Except ParseError (List Tree × List Char)
  | 0, cs => .ok ([], cs)
  | fuel + 1, cs => do
    let cs := cs.dropWhile Text.isBlank
    if cs.isEmpty || startsWithOr cs then pure ([], cs)
    else
      let (term, rest) ← takeTerm cs
      let (terms, rest) ← takeTerms fuel rest
      pure (term :: terms, rest)

/-- The alternatives of an expression; none is empty. -/
def takeAlternatives : (fuel : Nat) → List Char → Except ParseError (List Tree)
  | 0, _ => .error .emptyExpression
  | fuel + 1, cs => do
    let (terms, rest) ← takeTerms (cs.length + 1) cs
    if terms.isEmpty then throw .emptyExpression
    let alternative := collapse .conjunction terms
    if rest.isEmpty then pure [alternative]
    else
      let alternatives ← takeAlternatives fuel (rest.drop 2)
      pure (alternative :: alternatives)

/-- Reads a full-text search. -/
def parse (text : String) : Except ParseError Tree :=
  let cs := text.toList
  (takeAlternatives (cs.length + 1) cs).map (collapse .disjunction)

end ContentQuery.FullText
