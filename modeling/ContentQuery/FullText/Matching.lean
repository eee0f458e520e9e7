import ContentQuery.FullText.Tree
import ContentQuery.Text.Lowercase

/-!
# Matching a search tree against a text

A text is split into its runs of letters and numbers. A word or phrase occurs in a text if its own
runs are a contiguous part of the runs of the text. `Matcher.evaluate` walks over a tree with a stack
of truth values, and counts the leaves that occur and are not negated.
-/

set_option autoImplicit false

namespace ContentQuery.FullText

/-- The outcome of a full-text search on one object. -/
structure Match where
  matched : Bool
  score : Decimal
deriving DecidableEq

instance : Inhabited Match := ⟨false, .zero⟩

/-- The outcome where there is nothing to search. -/
def Match.miss : Match := ⟨false, .zero⟩

/-- Text matching, with or without regard to case. -/
structure Matcher where
  caseSensitive : Bool
deriving DecidableEq, Repr

/-! ## Tokens -/

/-- The maximal runs of characters of a class. -/
def runs (p : Char → Bool) : List Char → List (List Char)
  | [] => []
  | c :: cs =>
    if p c then
      match cs, runs p cs with
      | d :: _, run :: rest => if p d then (c :: run) :: rest else [c] :: run :: rest
      | _, rest => [c] :: rest
    else runs p cs

/-- The tokens of a text. -/
def Matcher.tokens (m : Matcher) (text : String) : List String :=
  (runs Text.isAlphanumeric text.toList).map fun run =>
    let token := String.ofList run
    if m.caseSensitive then token else Text.lowercase token

/-- Whether `needle` is a contiguous part of `haystack`. -/
def occursIn (needle : List String) : List String → Bool
  | [] => needle.isEmpty
  | token :: rest => needle.isPrefixOf (token :: rest) || occursIn needle rest

/-- Whether a term has tokens and they occur among those of a text. -/
def Matcher.contains (m : Matcher) (tokens : List String) (term : String) : Bool :=
  let needle := m.tokens term
  !needle.isEmpty && occursIn needle tokens

/-! ## Trees

Every leaf and every negation pushes its result, and a connective puts its own in the place of the
results of its children. The tree below a minus sign is tested on its own, with a stack and a score
that are given up afterwards. -/

/-- The results so far, last first, and how many leaves have occurred, counted in 32 bits. -/
structure Progress where
  stack : List Bool
  score : UInt32
deriving DecidableEq, Repr

def Progress.start : Progress := ⟨[], 0⟩

/-- The last result; without one there is no match. -/
def Progress.result (p : Progress) : Bool := p.stack.head?.getD false

abbrev TreeTest := StateT Progress (Except LiteralError)

def push (result : Bool) : TreeTest Unit :=
  modify fun p => { p with stack := result :: p.stack }

/-- Takes the last `count` results off the stack, or all of them if there are fewer. -/
def popResults (count : Nat) : TreeTest (List Bool) := do
  let p ← get
  set { p with stack := p.stack.drop count }
  return p.stack.take count

/-- Tests a leaf, which counts if it occurs. -/
def Matcher.testTerm (m : Matcher) (tokens : List String) (term : String) : TreeTest Unit := do
  let occurs := m.contains tokens term
  if occurs then modify fun p => { p with score := p.score + 1 }
  push occurs

mutual

/-- Tests a tree on the tokens of a text. The leaves are read from left to right, and the first that
does not decode is the error. -/
def Matcher.test (m : Matcher) (tokens : List String) : Tree → TreeTest Unit
  | .conjunction cs => do
    m.testAll tokens cs
    push ((← popResults cs.length).all id)
  | .disjunction cs => do
    m.testAll tokens cs
    push ((← popResults cs.length).any id)
  | .negation c => do
    let ((), inner) ← (m.test tokens c).run .start
    push (!inner.result)
  | .word raw => do m.testTerm tokens (← Literal.searchTerm? raw)
  | .phrase raw => do m.testTerm tokens (← Literal.searchTerm? raw)

/-- Tests a list of trees, one after the other. -/
def Matcher.testAll (m : Matcher) (tokens : List String) : List Tree → TreeTest Unit
  | [] => pure ()
  | c :: cs => do
    m.test tokens c
    m.testAll tokens cs

end

/-- The outcome of a search on a text. -/
def Matcher.evaluate (m : Matcher) (search : Tree) (text : String) : Except LiteralError Match := do
  let ((), p) ← (m.test (m.tokens text) search).run .start
  pure ⟨p.result, .ofUInt32 p.score⟩

end ContentQuery.FullText
