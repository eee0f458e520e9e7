/-!
# Lines

The lines of a text. A line ends at a line feed, with or without a carriage return before it.
-/

set_option autoImplicit false

namespace ContentQuery.Text

/-- The pieces of a text between line feeds; there is always at least one. -/
def pieces : List Char → List (List Char)
  | [] => [[]]
  | c :: cs =>
    if c == '\n' then [] :: pieces cs
    else
      match pieces cs with
      | [] => [[c]]
      | piece :: others => (c :: piece) :: others

def dropReturn (line : List Char) : List Char :=
  if line.getLast? == some '\r' then line.dropLast else line

/-- The lines of a text without their ends. Behind the last line feed there is a line only if
there is text. -/
def lines (cs : List Char) : List (List Char) :=
  let all := pieces cs
  let last := (all.getLast?.toList).filter fun line => !line.isEmpty
  all.dropLast.map dropReturn ++ last

end ContentQuery.Text
