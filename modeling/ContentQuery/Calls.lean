import ContentQuery.Repository.Basic

/-!
# Calls on what is kept

A catalog or a repository that is kept over many calls. A call ends with a value or an error, and
what it has changed before an error stays changed: a list of types that fails at one of them has
registered those before it.
-/

set_option autoImplicit false

namespace ContentQuery

/-- A call on a state that is kept. -/
abbrev Call (σ α : Type) := ExceptT QueryError (StateM σ) α

namespace Call

variable {σ α : Type}

/-- How a call ends, and the state that it leaves. -/
def on (call : Call σ α) (s : σ) : Except QueryError α × σ := (call.run.run s).run

def outcome (call : Call σ α) (s : σ) : Except QueryError α := (call.on s).1

def after (call : Call σ α) (s : σ) : σ := (call.on s).2

end Call

namespace Catalog

/-- Adds a type whose parent is registered to the catalog that is kept. -/
def registering (t : TypeDefinition) : Call Catalog TypeDefinition := do
  let c ← get
  if c.types.contains t.id then throw (.execution (.typeExists t.id))
  match c.complete t with
  | .error fault => throw fault
  | .ok stored =>
    set (⟨c.types.insert t.id stored⟩ : Catalog)
    return stored

/-- Adds types in order up to the first that fails; base types are passed over. -/
def registeringAll (types : List TypeDefinition) : Call Catalog Unit :=
  types.forM fun t => do
    if (BaseType.ofId? t.id).isSome then return
    let _ ← registering t

/-- A call that registers one type or a list of them. -/
inductive Registration
  | one (t : TypeDefinition)
  | all (types : List TypeDefinition)

def Registration.call : Registration → Call Catalog Unit
  | one t => do let _ ← registering t
  | all types => registeringAll types

/-- The catalog that calls leave, whether they succeed or fail. -/
def afterCalls (c : Catalog) (calls : List Registration) : Catalog :=
  calls.foldl (fun c r => r.call.after c) c

end Catalog

namespace Repository

/-- Stores an object under an id that is not taken in the repository that is kept. -/
def inserting (o : ContentObject) : Call Repository ContentObject := do
  let r ← get
  if r.objects.contains o.id then throw (.execution (.objectExists o.id))
  let stored := o.withSystemProperties
  set { r with objects := r.objects.insert o.id stored }
  return stored

/-- Stores objects one after another, and says how each insertion ends. -/
def insertingEach (objects : List ContentObject) :
    StateM Repository (List (Except QueryError ContentObject)) :=
  objects.mapM fun o => (inserting o).run

end Repository

end ContentQuery
