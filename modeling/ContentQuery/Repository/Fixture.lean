import ContentQuery.Catalog.File
import ContentQuery.Repository.Basic

/-!
# Fixtures

A fixture is a JSON file of types and objects. Property values are converted to the kind that the
object's type declares for the name they stand under; a name that the type does not know keeps the
kind that the JSON value suggests.
-/

set_option autoImplicit false

namespace ContentQuery.Fixture

/-- An object as a fixture lists it. -/
structure Entry where
  id : String
  typeId : String
  parentId : Option String
  properties : OrderedMap String Json
  content : Option String

/-- The contents of a fixture file. -/
structure File where
  types : List TypeDefinition
  entries : List Entry

/-- How deep the brackets of a property may nest: a file has 127 levels, and the file itself, the
list of objects, the object and its properties are the first four. -/
def propertyLevels : Nat := 123

def propertiesOfJson? : Json → Option (OrderedMap String Json)
  | .object members =>
    if members.all fun m => m.2.fits propertyLevels then some (.ofList members) else none
  | _ => none

def Entry.ofJson? (j : Json) : Option Entry := do
  let r ← j.record? ["id", "type", "parent", "properties", "content"]
  pure {
    id := ← r.required? "id" Json.string?
    typeId := ← r.required? "type" Json.string?
    parentId := ← r.optional? "parent" none Json.stringOrNull?
    properties := ← r.optional? "properties" .empty propertiesOfJson?
    content := ← r.optional? "content" none Json.stringOrNull? }

def File.ofJson? (j : Json) : Option File := do
  let r ← j.record? ["types", "objects"]
  pure {
    types := ← r.optional? "types" [] (Json.list? TypeDefinition.ofJson?)
    entries := ← r.optional? "objects" [] (Json.list? Entry.ofJson?) }

/-! ## Values -/

/-- The decimal of a JSON number, read from its text. -/
def decimalOfNumber? (n : Json.Number) : Option Value :=
  (Decimal.ofText? n.toText).map .decimal

/-- The value of a declared kind that a JSON value stands for. -/
def declaredValue? : ValueKind → Json → Option Value
  | .boolean, .bool b => some (.boolean b)
  | .integer, .number n => n.int64?.map .integer
  | .decimal, .number n => decimalOfNumber? n
  | .decimal, .string s => (Decimal.ofText? s).map .decimal
  | .string, .string s => some (.string s)
  | .id, .string s => some (.id s)
  | .datetime, .string s => (Timestamp.ofText? s).map .datetime
  | _, _ => none

/-- The value that a JSON value suggests by itself. -/
def suggestedValue? : Json → Option Value
  | .bool b => some (.boolean b)
  | .string s => some (.string s)
  | .number n =>
    match n.int64? with
    | some i => some (.integer i)
    | none => decimalOfNumber? n
  | _ => none

/-- The value of one JSON value under a name. -/
def valueOfJson (name : String) (kind : Option ValueKind) (j : Json) :
    Except QueryError Value :=
  let value := match kind with
    | some k => declaredValue? k j
    | none => suggestedValue? j
  match value with
  | some v => .ok v
  | none =>
    let wanted := match kind with
      | some k => k.name
      | none => "a value"
    .error (.file (.inconvertible name j.toCompactText wanted))

/-- The property value of a JSON value under a name; an array is a list of values. -/
def propertyOfJson (name : String) (kind : Option ValueKind) :
    Json → Except QueryError PropertyValue
  | .array items => (items.mapM (valueOfJson name kind)).map .multi
  | j => (valueOfJson name kind j).map .single

/-! ## Loading -/

/-- The kind that a type declares for a name, which is an id or a query name. -/
def declaredKind? (t : TypeDefinition) (name : String) : Option ValueKind :=
  (t.properties.find? fun p => p.id == name || p.queryName == name).map (·.kind)

/-- The object of an entry, under the types of a catalog. -/
def objectOf (catalog : Catalog) (entry : Entry) : Except QueryError ContentObject :=
  match catalog.lookup? entry.typeId with
  | none => .error (.typeNotFound entry.typeId)
  | some t => do
    let properties ← entry.properties.entries.mapM fun (name, j) => do
      pure (name, ← propertyOfJson name (declaredKind? t name) j)
    pure {
      id := entry.id
      typeId := entry.typeId
      parentId := entry.parentId
      properties := ⟨properties⟩
      content := entry.content }

/-- The catalog and the repository of the JSON value of a fixture. -/
def ofJson (caseSensitiveText : Bool) (j : Json) : Except QueryError (Catalog × Repository) :=
  match File.ofJson? j with
  | none => .error (.file .malformed)
  | some file => do
    let catalog ← Catalog.base.registerAll file.types
    let repository ← file.entries.foldlM (fun (r : Repository) entry => do
      let (r, _) ← r.insert (← objectOf catalog entry)
      pure r) (.empty caseSensitiveText)
    pure (catalog, repository)

/-- The catalog and the repository of the text of a fixture. -/
def ofText (caseSensitiveText : Bool) (text : String) : Except QueryError (Catalog × Repository) :=
  match Json.parse? text with
  | some j => ofJson caseSensitiveText j
  | none => .error (.file .malformed)

end ContentQuery.Fixture
