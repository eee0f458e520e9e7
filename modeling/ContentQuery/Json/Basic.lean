import ContentQuery.Binary64

/-!
# JSON values

The members of an object keep their order, and a repeated name stays as often as it is written.
-/

set_option autoImplicit false

namespace ContentQuery

namespace Json

/-- A JSON number: an integer of 64 bits, signed or unsigned, stays an integer, and any other
number is rounded to a binary one. -/
inductive Number
  | integer (n : Int)
  | float (x : Binary64)
deriving DecidableEq, Repr

/-- The integer of a number in the signed range of 64 bits. -/
def Number.int64? : Number → Option Int64
  | integer n => ContentQuery.int64? n
  | _ => none

def Number.toText : Number → String
  | integer n => toString n
  | float x => x.toText

end Json

/-- A value. One that is well formed but holds nothing can be skipped and not be read: it is
`unreadable`. Such are a number too large to round, a string with half of a surrogate pair, and an
object with such a string as a name. -/
inductive Json
  | null
  | bool (b : Bool)
  | number (n : Json.Number)
  | string (s : String)
  | array (items : List Json)
  | object (members : List (String × Json))
  | unreadable

namespace Json

instance : Inhabited Json := ⟨.null⟩

def ofNat (n : Nat) : Json := .number (.integer n)

/-- The member of a name, for objects without repeated names. -/
def member? (name : String) : Json → Option Json
  | object members => (members.find? (·.1 == name)).map (·.2)
  | _ => none

mutual

/-- Whether a value is readable throughout and its brackets nest at most `levels` deep. -/
def fits (levels : Nat) : Json → Bool
  | unreadable => false
  | array items => 0 < levels && allFit (levels - 1) items
  | object members => 0 < levels && membersFit (levels - 1) members
  | _ => true

def allFit (levels : Nat) : List Json → Bool
  | [] => true
  | j :: js => j.fits levels && allFit levels js

def membersFit (levels : Nat) : List (String × Json) → Bool
  | [] => true
  | (_, j) :: js => j.fits levels && membersFit levels js

end

end Json

end ContentQuery
