import ContentQuery.Error
import ContentQuery.Json.Parser
import ContentQuery.Json.Record

/-!
# Configuration

How large a page of results is, where it starts, and two choices about what matches.
-/

set_option autoImplicit false

namespace ContentQuery

/-- `maxItems` is the size of a page, and zero means no limit. -/
structure Config where
  maxItems : UInt64 := 100
  skipCount : UInt64 := 0
  includeSubtypes : Bool := true
  caseSensitiveText : Bool := false
deriving DecidableEq, Repr

namespace Config

instance : Inhabited Config := ⟨{}⟩

def ofJson? (json : Json) : Option Config := do
  let r ← json.record? ["max_items", "skip_count", "include_subtypes", "case_sensitive_text"]
  let config : Config := {}
  pure {
    maxItems := ← r.optional? "max_items" config.maxItems Json.uint64?
    skipCount := ← r.optional? "skip_count" config.skipCount Json.uint64?
    includeSubtypes := ← r.optional? "include_subtypes" config.includeSubtypes Json.bool?
    caseSensitiveText := ← r.optional? "case_sensitive_text" config.caseSensitiveText Json.bool? }

/-- The configuration of a JSON value; missing fields have their defaults. -/
def ofJson (j : Json) : Except QueryError Config :=
  match ofJson? j with
  | some config => .ok config
  | none => .error (.file .malformed)

/-- The configuration of the text of a file. -/
def ofText (text : String) : Except QueryError Config :=
  match Json.parse? text with
  | some j => ofJson j
  | none => .error (.file .malformed)

end Config

end ContentQuery
