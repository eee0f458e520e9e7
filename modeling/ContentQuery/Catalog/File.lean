import ContentQuery.Catalog.Basic
import ContentQuery.Json.Parser
import ContentQuery.Json.Printer
import ContentQuery.Json.Record

/-!
# Catalog files

The types of a catalog other than the base types, as JSON: `Catalog.toText` writes them and
`Catalog.ofText` registers what it reads, parents before their children.
-/

set_option autoImplicit false

namespace ContentQuery

/-! ## Reading -/

def ValueKind.ofJson? (j : Json) : Option ValueKind := j.word?.bind ValueKind.ofName?

def Cardinality.ofJson? (j : Json) : Option Cardinality := j.word?.bind Cardinality.ofName?

def PropertyDefinition.ofJson? (j : Json) : Option PropertyDefinition := do
  let r ← j.record? ["id", "query_name", "property_type", "cardinality", "queryable", "orderable"]
  pure {
    id := ← r.required? "id" Json.string?
    queryName := ← r.optional? "query_name" "" Json.string?
    kind := ← r.required? "property_type" ValueKind.ofJson?
    cardinality := ← r.optional? "cardinality" .single Cardinality.ofJson?
    queryable := ← r.optional? "queryable" true Json.bool?
    orderable := ← r.optional? "orderable" true Json.bool? }

def TypeDefinition.ofJson? (j : Json) : Option TypeDefinition := do
  let r ← j.record? ["id", "parent", "queryable", "fulltext_indexed", "properties"]
  pure {
    id := ← r.required? "id" Json.string?
    parentId := ← r.optional? "parent" none Json.stringOrNull?
    queryable := ← r.optional? "queryable" true Json.bool?
    fulltextIndexed := ← r.optional? "fulltext_indexed" false Json.bool?
    properties := ← r.optional? "properties" [] (Json.list? PropertyDefinition.ofJson?) }

namespace Catalog

/-- The types that a catalog file lists. -/
def typesOfJson? (j : Json) : Option (List TypeDefinition) := do
  let r ← j.record? ["types"]
  r.required? "types" (Json.list? TypeDefinition.ofJson?)

/-- The base types and the types that the JSON value of a catalog lists. -/
def ofJson (j : Json) : Except QueryError Catalog :=
  match typesOfJson? j with
  | some types => base.registerAll types
  | none => .error (.file .malformed)

/-- The base types and the types that the text of a catalog lists. -/
def ofText (text : String) : Except QueryError Catalog :=
  match Json.parse? text with
  | some j => ofJson j
  | none => .error (.file .malformed)

end Catalog

/-! ## Writing -/

def PropertyDefinition.toJson (p : PropertyDefinition) : Json :=
  .object [("id", .string p.id), ("query_name", .string p.queryName),
    ("property_type", .string p.kind.name), ("cardinality", .string p.cardinality.name),
    ("queryable", .bool p.queryable), ("orderable", .bool p.orderable)]

def TypeDefinition.toJson (t : TypeDefinition) : Json :=
  .object [("id", .string t.id),
    ("parent", match t.parentId with
      | some id => .string id
      | none => .null),
    ("queryable", .bool t.queryable), ("fulltext_indexed", .bool t.fulltextIndexed),
    ("properties", .array (t.properties.map PropertyDefinition.toJson))]

namespace Catalog

/-- The text of the catalog file of all types but the base types. -/
def toText (c : Catalog) : String :=
  let types := c.types.values.filter fun t => (BaseType.ofId? t.id).isNone
  (Json.object [("types", .array (types.map TypeDefinition.toJson))]).toPrettyText

end Catalog

end ContentQuery
