import ContentQuery.Decimal
import ContentQuery.Timestamp

/-!
# Property values

`Value` is one typed value and `PropertyValue` what an object stores under a property: one value
or a list of them. `Value.compare?` orders values of compatible kinds: integers and decimals by
number, strings and ids by code points, timestamps by time, booleans with false first. All other
pairs are incomparable.
-/

set_option autoImplicit false

namespace ContentQuery

/-- The kinds of value that a property can be declared with. -/
inductive ValueKind
  | boolean | integer | decimal | string | datetime | id
deriving DecidableEq, Repr

namespace ValueKind

def name : ValueKind → String
  | boolean => "boolean"
  | integer => "integer"
  | decimal => "decimal"
  | string => "string"
  | datetime => "datetime"
  | id => "id"

def all : List ValueKind := [boolean, integer, decimal, string, datetime, id]

def ofName? (name : String) : Option ValueKind := all.find? (·.name == name)

end ValueKind

/-- A single typed value. -/
inductive Value
  | boolean (b : Bool)
  | integer (n : Int64)
  | decimal (d : Decimal)
  | string (s : String)
  | datetime (t : Timestamp)
  | id (s : String)
deriving DecidableEq

namespace Value

instance : Inhabited Value := ⟨.boolean false⟩

def kind : Value → ValueKind
  | boolean _ => .boolean
  | integer _ => .integer
  | decimal _ => .decimal
  | string _ => .string
  | datetime _ => .datetime
  | id _ => .id

/-- The text of a string or an id. -/
def text? : Value → Option String
  | string s => some s
  | id s => some s
  | _ => none

def bool? : Value → Option Bool
  | boolean b => some b
  | _ => none

/-- The number of an integer or a decimal. -/
def number? : Value → Option Decimal
  | integer n => some (.ofInt64 n)
  | decimal d => some d
  | _ => none

/-- The written form of a value; strings and ids are written as they are. -/
def toText : Value → String
  | boolean b => if b then "true" else "false"
  | integer n => toString n.toInt
  | decimal d => d.toText
  | string s => s
  | datetime t => t.toText .offset
  | id s => s

/-- The order of two values of compatible kinds. -/
def compare? : Value → Value → Option Ordering
  | integer a, integer b => some (Ord.compare a.toInt b.toInt)
  | boolean a, boolean b => some (Ord.compare a b)
  | datetime a, datetime b => some (a.compare b)
  | a, b =>
    match a.number?, b.number? with
    | some m, some n => some (m.compare n)
    | _, _ =>
      match a.text?, b.text? with
      | some s, some t => some (Ord.compare s t)
      | _, _ => none

/-- Whether two values are comparable and equal. -/
def equal (a b : Value) : Bool := a.compare? b == some .eq

end Value

/-- What an object stores under a property. -/
inductive PropertyValue
  | single (value : Value)
  | multi (values : List Value)
deriving DecidableEq

namespace PropertyValue

/-- All stored values in order. -/
def values : PropertyValue → List Value
  | single v => [v]
  | multi vs => vs

/-- The only stored value, if there is exactly one. -/
def single? : PropertyValue → Option Value
  | single v => some v
  | multi [v] => some v
  | multi _ => none

/-- Whether this is a list without values. -/
def isEmpty : PropertyValue → Bool
  | single _ => false
  | multi vs => vs.isEmpty

def toText : PropertyValue → String
  | single v => v.toText
  | multi vs => "[" ++ ", ".intercalate (vs.map Value.toText) ++ "]"

theorem single?_eq_some_iff {p : PropertyValue} {v : Value} :
    p.single? = some v ↔ p.values = [v] := by
  cases p with
  | single w => simp [single?, values]
  | multi vs =>
    match vs with
    | [] => simp [single?, values]
    | [w] => simp [single?, values]
    | _ :: _ :: _ => simp [single?, values]

end PropertyValue

end ContentQuery
