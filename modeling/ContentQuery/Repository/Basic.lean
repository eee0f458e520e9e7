import ContentQuery.Catalog.Basic
import ContentQuery.FullText.Matching

/-!
# The content repository

Objects in order of insertion, the folder hierarchy that their parents form, and their free text.
Parents need not be stored, and the chain of parents may run in a circle; `Repository.ancestors`
ends where it would repeat an id.
-/

set_option autoImplicit false

namespace ContentQuery

/-- A document, a folder or an object of a derived type. -/
structure ContentObject where
  id : String
  typeId : String
  parentId : Option String
  properties : OrderedMap String PropertyValue
  content : Option String
deriving DecidableEq

namespace ContentObject

def property? (o : ContentObject) (propertyId : String) : Option PropertyValue :=
  o.properties.get? propertyId

/-- The strings among the stored values, in order. -/
def storedStrings (o : ContentObject) : List String :=
  o.properties.values.flatMap fun p => p.values.filterMap fun
    | .string s => some s
    | _ => none

/-- The content followed by every stored string, on lines of their own. -/
def fullText (o : ContentObject) : Option String :=
  match o.content.toList ++ o.storedStrings with
  | [] => none
  | parts => some ("\n".intercalate parts)

/-- The object with the properties that say its id, its type and, unless it has one of its own,
its parent. -/
def withSystemProperties (o : ContentObject) : ContentObject :=
  let named := (o.properties.insert objectIdProperty (.single (.id o.id))).insert
    objectTypeIdProperty (.single (.id o.typeId))
  let properties := match o.parentId with
    | some parent =>
      if named.contains parentIdProperty then named
      else named.insert parentIdProperty (.single (.id parent))
    | none => named
  { o with properties }

end ContentObject

/-- Where objects stand: the parent of an object, and all folders above it, nearest first. -/
structure FolderHierarchy where
  parent? : String → Option String
  ancestors : String → List String

/-- The stored objects by id, and how their text is matched. -/
structure Repository where
  objects : OrderedMap String ContentObject
  matcher : FullText.Matcher
deriving DecidableEq

namespace Repository

def empty (caseSensitiveText : Bool) : Repository := ⟨.empty, ⟨caseSensitiveText⟩⟩

instance : Inhabited Repository := ⟨empty false⟩

def get? (r : Repository) (id : String) : Option ContentObject := r.objects.get? id

def size (r : Repository) : Nat := r.objects.size

/-- Stores an object under an id that is not taken. -/
def insert (r : Repository) (o : ContentObject) :
    Except QueryError (Repository × ContentObject) :=
  if r.objects.contains o.id then .error (.execution (.objectExists o.id))
  else
    let stored := o.withSystemProperties
    .ok ({ r with objects := r.objects.insert o.id stored }, stored)

/-- The objects of a type, and on request of the types that derive from it. -/
def objectsOfType (r : Repository) (catalog : Catalog) (typeId : String)
    (includeSubtypes : Bool) : List ContentObject :=
  r.objects.values.filter fun o =>
    o.typeId == typeId || (includeSubtypes && catalog.isSubtypeOf o.typeId typeId)

/-! ## Folders -/

/-- The parent of a stored object. -/
def parent? (r : Repository) (id : String) : Option String :=
  (r.get? id).bind (·.parentId)

/-- The chain of parents above an object up to the first id that was met before. -/
def parentsAbove (r : Repository) (met : List String) : (fuel : Nat) → String → List String
  | 0, _ => []
  | fuel + 1, id =>
    match r.parent? id with
    | none => []
    | some parent =>
      if parent ∈ met then [] else parent :: r.parentsAbove (parent :: met) fuel parent

/-- The ancestors of an object, nearest first. Every object in the chain is met once, so the
number of objects bounds its length. -/
def ancestors (r : Repository) (id : String) : List String :=
  r.parentsAbove [id] (r.size + 1) id

/-- The folder hierarchy of the stored objects. -/
def folders (r : Repository) : FolderHierarchy := ⟨r.parent?, r.ancestors⟩

instance : Coe Repository FolderHierarchy := ⟨folders⟩

/-! ## Text -/

/-- The full-text search on one object; an object without text is a miss. -/
def matchObject (matcher : FullText.Matcher) (search : FullText.Tree) (o : ContentObject) :
    Except LiteralError FullText.Match :=
  match o.fullText with
  | some text => matcher.evaluate search text
  | none => .ok .miss

/-- The repository as a full-text index of its own objects. -/
def matchText (r : Repository) (search : FullText.Tree) (id : String) :
    Except QueryError FullText.Match :=
  match r.get? id with
  | none => .error (.objectNotFound id)
  | some o => (matchObject r.matcher search o).mapError .literal

end Repository

end ContentQuery
