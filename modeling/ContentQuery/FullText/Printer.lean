import ContentQuery.FullText.Tree

/-!
# Writing a full-text search

`Tree.toText` writes words and phrases as their tokens, a minus sign directly before a negated
term, one blank between the terms of a conjunction and the word `OR` between alternatives.
-/

set_option autoImplicit false

namespace ContentQuery.FullText.Tree

mutual

def chars : Tree → List Char
  | conjunction cs => charsOfAll [' '] cs
  | disjunction cs => charsOfAll [' ', 'O', 'R', ' '] cs
  | negation c => '-' :: c.chars
  | word raw => raw.toList
  | phrase raw => raw.toList

/-- The trees of a list with a separator between them. -/
def charsOfAll (separator : List Char) : List Tree → List Char
  | [] => []
  | c :: cs =>
    match cs with
    | [] => c.chars
    | _ :: _ => c.chars ++ separator ++ charsOfAll separator cs

end

@[simp] theorem chars_conjunction (cs : List Tree) :
    (conjunction cs).chars = charsOfAll [' '] cs := rfl

@[simp] theorem chars_disjunction (cs : List Tree) :
    (disjunction cs).chars = charsOfAll [' ', 'O', 'R', ' '] cs := rfl

@[simp] theorem chars_negation (c : Tree) : (negation c).chars = '-' :: c.chars := rfl

@[simp] theorem chars_word (raw : String) : (word raw).chars = raw.toList := rfl

@[simp] theorem chars_phrase (raw : String) : (phrase raw).chars = raw.toList := rfl

section
variable (separator : List Char)

@[simp] theorem charsOfAll_single (c : Tree) : charsOfAll separator [c] = c.chars := rfl

theorem charsOfAll_cons (c : Tree) {cs : List Tree} (h : cs ≠ []) :
    charsOfAll separator (c :: cs) = c.chars ++ separator ++ charsOfAll separator cs := by
  cases cs with
  | nil => exact absurd rfl h
  | cons => rfl

end

def toText (t : Tree) : String := String.ofList t.chars

end ContentQuery.FullText.Tree
