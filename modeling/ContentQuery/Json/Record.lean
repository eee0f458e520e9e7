import ContentQuery.Json.Basic

/-!
# Records in JSON

A record is written as an object, or as an array of its fields in their order. In an object,
fields may be left out if they have a default, unknown names are ignored, and no field may stand
twice. In an array only fields at the end may be left out, and there are no more items than fields.
-/

set_option autoImplicit false

namespace ContentQuery.Json

/-- The fields of a record by name, as far as they are given. -/
structure Record where
  fields : List (String × Json)

/-- The fields of a record with these field names. -/
def record? (names : List String) : Json → Option Record
  | array items =>
    if items.length ≤ names.length then some ⟨names.zip items⟩ else none
  | object members =>
    let known := members.filter fun m => names.contains m.1
    if names.any fun name => 1 < (known.filter (·.1 == name)).length then none else some ⟨known⟩
  | _ => none

namespace Record

def get? (r : Record) (name : String) : Option Json :=
  (r.fields.find? (·.1 == name)).map (·.2)

/-- A field that has to be there. -/
def required? {α : Type} (r : Record) (name : String) (read : Json → Option α) : Option α :=
  (r.get? name).bind read

/-- A field that may be left out. -/
def optional? {α : Type} (r : Record) (name : String) (default : α) (read : Json → Option α) :
    Option α :=
  match r.get? name with
  | some j => read j
  | none => some default

end Record

/-! ## Field types -/

def bool? : Json → Option Bool
  | bool b => some b
  | _ => none

def string? : Json → Option String
  | string s => some s
  | _ => none

/-- A string or null. -/
def stringOrNull? : Json → Option (Option String)
  | null => some none
  | string s => some (some s)
  | _ => none

/-- A natural number of 64 bits. -/
def uint64? : Json → Option UInt64
  | number (.integer n) => if 0 ≤ n then ContentQuery.uint64? n.toNat else none
  | _ => none

def list? {α : Type} (read : Json → Option α) : Json → Option (List α)
  | array items => items.mapM read
  | _ => none

/-- One of several fixed words, as a string or as the name of a member with null. -/
def word? : Json → Option String
  | string s => some s
  | object [(name, .null)] => some name
  | _ => none

end ContentQuery.Json
