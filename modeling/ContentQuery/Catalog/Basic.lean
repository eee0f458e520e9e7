import ContentQuery.Error
import ContentQuery.OrderedMap

/-!
# The type catalog

Types with their properties. A type inherits the properties of its parent when it is registered
(`Catalog.register`), so that looking up a property is a search in one list. A catalog starts with
the two base types.
-/

set_option autoImplicit false

namespace ContentQuery

/-! ## Definitions -/

inductive Cardinality
  | single
  | multi
deriving DecidableEq, Repr

def Cardinality.name : Cardinality → String
  | single => "single"
  | multi => "multi"

def Cardinality.ofName? (name : String) : Option Cardinality :=
  [single, multi].find? (·.name == name)

/-- A property of a type. Queries know it by `queryName`, objects store it under `id`. -/
structure PropertyDefinition where
  id : String
  queryName : String
  kind : ValueKind
  cardinality : Cardinality
  queryable : Bool
  orderable : Bool
deriving DecidableEq, Repr

namespace PropertyDefinition

/-- A property with one value, queryable and orderable under its own id. -/
def single (id : String) (kind : ValueKind) : PropertyDefinition :=
  { id, queryName := id, kind, cardinality := .single, queryable := true, orderable := true }

/-- A property with many values, which is not orderable. -/
def multi (id : String) (kind : ValueKind) : PropertyDefinition :=
  { single id kind with cardinality := .multi, orderable := false }

def isMultiValued (p : PropertyDefinition) : Bool := p.cardinality == .multi

/-- An empty query name stands for the id. -/
def named (p : PropertyDefinition) : PropertyDefinition :=
  if p.queryName.isEmpty then { p with queryName := p.id } else p

end PropertyDefinition

structure TypeDefinition where
  id : String
  parentId : Option String
  queryable : Bool
  fulltextIndexed : Bool
  properties : List PropertyDefinition
deriving DecidableEq, Repr

namespace TypeDefinition

/-- A queryable type without properties of its own. -/
def bare (id : String) (parentId : Option String) : TypeDefinition :=
  { id, parentId, queryable := true, fulltextIndexed := false, properties := [] }

/-- The property of a query name. -/
def property? (t : TypeDefinition) (queryName : String) : Option PropertyDefinition :=
  t.properties.find? (·.queryName == queryName)

/-- The type with the inherited properties in front of its own. One of its own properties hides
the inherited one of the same query name. -/
def inherit (t parent : TypeDefinition) : TypeDefinition :=
  let inherited := parent.properties.filter fun p =>
    !t.properties.any (·.queryName == p.queryName)
  { t with
    properties := inherited ++ t.properties
    fulltextIndexed := t.fulltextIndexed || parent.fulltextIndexed }

end TypeDefinition

/-! ## Base types -/

def objectIdProperty : String := "cmis:objectId"
def objectTypeIdProperty : String := "cmis:objectTypeId"
def parentIdProperty : String := "cmis:parentId"

/-- The types that every catalog has. -/
inductive BaseType
  | document
  | folder
deriving DecidableEq, Repr

namespace BaseType

def all : List BaseType := [document, folder]

def id : BaseType → String
  | document => "cmis:document"
  | folder => "cmis:folder"

def ofId? (id : String) : Option BaseType := all.find? (·.id == id)

/-- The properties of both base types. -/
def sharedProperties : List PropertyDefinition :=
  [.single objectIdProperty .id, .single objectTypeIdProperty .id, .single "cmis:baseTypeId" .id,
    .single "cmis:name" .string, .single "cmis:createdBy" .string,
    .single "cmis:creationDate" .datetime, .single "cmis:lastModifiedBy" .string,
    .single "cmis:lastModificationDate" .datetime, .multi "cmis:secondaryObjectTypeIds" .id]

def ownProperties : BaseType → List PropertyDefinition
  | document =>
    [.single "cmis:isLatestVersion" .boolean, .single "cmis:versionLabel" .string,
      .single "cmis:contentStreamLength" .integer, .single "cmis:contentStreamMimeType" .string,
      .single "cmis:contentStreamFileName" .string]
  | folder => [.single parentIdProperty .id, .single "cmis:path" .string]

def definition (b : BaseType) : TypeDefinition :=
  { id := b.id
    parentId := none
    queryable := true
    fulltextIndexed := b == .document
    properties := sharedProperties ++ b.ownProperties }

end BaseType

/-! ## Catalogs -/

/-- The registered types by id, in order of registration. -/
structure Catalog where
  types : OrderedMap String TypeDefinition
deriving DecidableEq, Repr

namespace Catalog

/-- The catalog of the base types alone. -/
def base : Catalog := ⟨.ofList (BaseType.all.map fun b => (b.id, b.definition))⟩

instance : Inhabited Catalog := ⟨base⟩

def lookup? (c : Catalog) (id : String) : Option TypeDefinition := c.types.get? id

def typeIds (c : Catalog) : List String := c.types.keys

/-- The parent of a type. -/
def parent? (c : Catalog) (id : String) : Option String :=
  (c.lookup? id).bind (·.parentId)

/-- The type as it is stored: with all query names and with what it inherits. -/
def complete (c : Catalog) (t : TypeDefinition) : Except QueryError TypeDefinition :=
  let named := { t with properties := t.properties.map PropertyDefinition.named }
  match t.parentId with
  | none => .ok named
  | some parentId =>
    match c.lookup? parentId with
    | some parent => .ok (named.inherit parent)
    | none => .error (.typeNotFound parentId)

/-- Adds a type whose parent is registered. -/
def register (c : Catalog) (t : TypeDefinition) : Except QueryError (Catalog × TypeDefinition) :=
  if c.types.contains t.id then .error (.execution (.typeExists t.id))
  else (c.complete t).map fun stored => (⟨c.types.insert t.id stored⟩, stored)

/-- Adds types in order; base types are passed over. -/
def registerAll (c : Catalog) (types : List TypeDefinition) : Except QueryError Catalog :=
  types.foldlM (fun c t =>
    if (BaseType.ofId? t.id).isSome then .ok c else (c.register t).map (·.1)) c

/-- Whether a chain of fewer than `steps` parents leads from a type to an ancestor. -/
def climbs (c : Catalog) (ancestor : String) : (steps : Nat) → String → Bool
  | 0, _ => false
  | steps + 1, id =>
    if id = ancestor then true
    else
      match c.parent? id with
      | some parent => c.climbs ancestor steps parent
      | none => false

/-- Whether a type is the ancestor or derives from it, over at most 63 generations. -/
def isSubtypeOf (c : Catalog) (id ancestor : String) : Bool := c.climbs ancestor 64 id

end Catalog

end ContentQuery
