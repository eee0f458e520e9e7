import ContentQuery.Statement.Basic
import ContentQuery.Value

/-!
# Sort keys

The order of rows under an ORDER BY list: the first pair of values that differ decides. Absent
values come first, incomparable values count as equal, and a descending position is reversed.
-/

set_option autoImplicit false

namespace ContentQuery

/-- The values of a row in the positions of the ORDER BY list. -/
abbrev SortKey := List (Option Value)

namespace SortKey

/-- The ascending order in one position. -/
def compareValues : Option Value → Option Value → Ordering
  | none, none => .eq
  | none, some _ => .lt
  | some _, none => .gt
  | some a, some b => (a.compare? b).getD .eq

/-- The order in one position. -/
def comparePosition (ascending : Bool) (a b : Option Value) : Ordering :=
  if ascending then compareValues a b else (compareValues a b).swap

/-- The order of two keys; `directions` says which positions are ascending. -/
def compare : (directions : List Bool) → SortKey → SortKey → Ordering
  | ascending :: directions, a :: as, b :: bs =>
    (comparePosition ascending a b).then (compare directions as bs)
  | _, _, _ => .eq

end SortKey

/-- The directions of an ORDER BY list. -/
def directions (specs : List SortSpec) : List Bool := specs.map (·.ascending)

end ContentQuery
