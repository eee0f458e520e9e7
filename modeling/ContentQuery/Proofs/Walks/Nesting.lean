import ContentQuery.Proofs.Walks.Recording

/-!
# Walks that nest and stop

What the walks over WHERE trees and over search trees have in common. `TreeWalk` is a walk with the
places that it comes to; `TreeWalk.WellBehaved` says of one that its calls nest like brackets around
the calls of a subtree, and that it stops at the first failure. It follows from what a walk does at
each node (`TreeWalk.Lawful`), which is for each kind of tree to show.
-/

set_option autoImplicit false

namespace ContentQuery

/-! ## Brackets -/

/-- Calls in which each hook before a node is answered by the hook after it, like brackets. -/
inductive Nested : List Hook → Prop
  | nil : Nested []
  | on (kind : String) {later : List Hook} : Nested later → Nested (⟨.on, kind⟩ :: later)
  | enclosed (kind : String) {inner later : List Hook} : Nested inner → Nested later →
      Nested (⟨.before, kind⟩ :: inner ++ ⟨.after, kind⟩ :: later)

namespace Nested

variable {calls later : List Hook}

theorem append (h : Nested calls) (h' : Nested later) : Nested (calls ++ later) := by
  induction h with
  | nil => exact h'
  | on kind _ ih => exact .on kind ih
  | enclosed kind hinner _ _ ih =>
    rw [List.append_assoc]
    exact .enclosed kind hinner ih

theorem single (kind : String) : Nested [⟨.on, kind⟩] := .on kind .nil

theorem enclose (kind : String) (h : Nested calls) :
    Nested (⟨.before, kind⟩ :: calls ++ [⟨.after, kind⟩]) := .enclosed kind h .nil

end Nested

/-- Steps whose calls nest if none of them fails. -/
def Nests (steps : List (Except LiteralError Hook)) : Prop :=
  ∀ calls : List Hook, steps = calls.map .ok → Nested calls

section
variable {steps later : List (Except LiteralError Hook)}

theorem Nests.append (h : Nests steps) (h' : Nests later) : Nests (steps ++ later) := by
  intro calls hcalls
  obtain ⟨_, _, rfl, hsteps, hlater⟩ := List.map_eq_append_iff.1 hcalls.symm
  exact (h _ hsteps.symm).append (h' _ hlater.symm)

theorem nests_nil : Nests [] := by
  intro calls hcalls
  obtain rfl := List.map_eq_nil_iff.1 hcalls.symm
  exact .nil

theorem nests_on (kind : String) : Nests [.ok ⟨.on, kind⟩] := by
  intro calls hcalls
  obtain ⟨_, rfl, hcall⟩ := List.map_eq_singleton_iff.1 hcalls.symm
  cases hcall
  exact .single kind

theorem nests_leaf {α : Type} (x : Except LiteralError α) (kind : String) :
    Nests [x.map fun _ => ⟨.on, kind⟩] := by
  cases x with
  | ok => exact nests_on kind
  | error e =>
    intro calls hcalls
    obtain ⟨_, -, hcall⟩ := List.map_eq_singleton_iff.1 hcalls.symm
    cases hcall

/-- A hook on a node between walks below it. -/
theorem Nests.inOrder (kind : String) (h : Nests steps) (h' : Nests later) :
    Nests (steps ++ .ok ⟨.on, kind⟩ :: later) :=
  h.append ((nests_on kind).append h')

theorem Nests.enclose (kind : String) (h : Nests steps) :
    Nests (.ok ⟨.before, kind⟩ :: steps ++ [Except.ok ⟨.after, kind⟩]) := by
  intro calls hcalls
  obtain ⟨_, _, rfl, hopen, hclose⟩ := List.map_eq_append_iff.1 hcalls.symm
  obtain ⟨_, inner, rfl, hopen, hinner⟩ := List.map_eq_cons_iff.1 hopen
  obtain ⟨_, rfl, hclose⟩ := List.map_eq_singleton_iff.1 hclose
  cases hopen
  cases hclose
  exact .enclose kind (h inner hinner.symm)

end

/-! ## Walks with places -/

/-- A walk over trees of type `T`. A frame is a node with a gap in place of one of the trees below
it that are walked. -/
structure TreeWalk (T V F : Type) where
  walk : {m : Type → Type} → [Monad m] → Visitor m V → T → m Unit
  hook : V → Hook
  kind : T → String
  /-- Whether there is a hook before the nodes below and one after them. -/
  encloses : T → Prop
  /-- Whether a leaf that is visited with its value decodes. -/
  decode : T → Option (Except LiteralError Unit)
  fill : F → T → T

namespace TreeWalk

variable {T V F : Type} (W : TreeWalk T V F)

/-- The walk of a recorder over a tree: how it ends, and the names of the calls. -/
def record {ε : Type} (stop : List Hook → Option ε) (ofLiteral : LiteralError → ε) (t : T) :
    Except ε Unit × List Hook :=
  Recording.onto [] (W.walk (recorder W.hook stop ofLiteral) t)

/-- The walk of a recorder that does not fail. -/
def run (t : T) : Except LiteralError Unit × List Hook := W.record (fun _ => none) id t

/-- A tree in a gap below any number of nodes, the topmost first. -/
def put (place : List F) (t : T) : T := place.foldr W.fill t

/-- Whatever stands in a place, the calls of its walk come between these. -/
def Between (place : List F) (done later : List Hook) : Prop :=
  ∀ t calls, W.run t = (.ok (), calls) → W.run (W.put place t) = (.ok (), done ++ calls ++ later)

/-- The calls of a walk nest, and a walk stops at the first failure. -/
structure WellBehaved : Prop where
  /-- Without a failure, the calls before and after nodes answer each other like brackets. -/
  nested : ∀ {t calls}, W.run t = (.ok (), calls) → Nested calls
  /-- What is opened is closed: a call before a node and the call after it that answers it are the
  first and the last call of the walk of this node. -/
  closed : ∀ {t calls done kind rest}, W.run t = (.ok (), calls) →
    calls = done ++ ⟨.before, kind⟩ :: rest →
    ∃ place node inner later, t = W.put place node ∧ W.encloses node ∧ W.kind node = kind ∧
      W.Between place done later ∧ rest = inner ++ ⟨.after, kind⟩ :: later ∧ Nested inner ∧
      W.run node = (.ok (), ⟨.before, kind⟩ :: inner ++ [⟨.after, kind⟩])
  /-- Each node that has these two hooks has the calls of its subtree between them. -/
  opened : ∀ {place node calls}, W.run (W.put place node) = (.ok (), calls) → W.encloses node →
    ∃ done inner later, W.Between place done later ∧ Nested inner ∧
      W.run node = (.ok (), ⟨.before, W.kind node⟩ :: inner ++ [⟨.after, W.kind node⟩]) ∧
      calls = done ++ (⟨.before, W.kind node⟩ :: inner ++ [⟨.after, W.kind node⟩]) ++ later
  /-- A visitor that fails at its `n`-th call has the first `n` calls of the walk in which it does
  not fail, and the walk ends with its failure. -/
  stopped : ∀ {ε : Type} {stop : List Hook → Option ε} {t n e} (ofLiteral : LiteralError → ε),
    FailsAt stop (W.run t).2 n e → W.record stop ofLiteral t = (.error e, (W.run t).2.take n)
  /-- A visitor that fails at none of these calls has all of them. -/
  completed : ∀ {ε : Type} {stop : List Hook → Option ε} {t} (ofLiteral : LiteralError → ε),
    Passes stop (W.run t).2 →
    W.record stop ofLiteral t = ((W.run t).1.mapError ofLiteral, (W.run t).2)
  /-- A walk that fails by itself does so at a leaf that does not decode. It has the calls before
  those of this leaf, and before those of whatever stands in its place; of a leaf that decodes this
  is its own hook. -/
  undecoded : ∀ {t e calls}, W.run t = (.error e, calls) →
    ∃ place leaf, t = W.put place leaf ∧ W.decode leaf = some (.error e) ∧
      (∀ t', ∃ later, (W.run (W.put place t')).2 = calls ++ (W.run t').2 ++ later) ∧
      ∀ leaf', W.decode leaf' = some (.ok ()) → W.run leaf' = (.ok (), [⟨.on, W.kind leaf'⟩])

/-! ## Steps -/

variable (trace : T → List (Except LiteralError V))

/-- The steps of a walk by the names of their hooks. -/
def steps (t : T) : List (Except LiteralError Hook) := (trace t).map (Except.map W.hook)

/-- A step of the walk of a node that is not a step of a walk below it. Only what it opens and where
it does not decode is said here. -/
structure Owns (node : T) (done : List (Except LiteralError Hook)) (step : Except LiteralError Hook)
    (later : List (Except LiteralError Hook)) : Prop where
  opens : ∀ kind, step = .ok ⟨.before, kind⟩ → W.encloses node ∧ W.kind node = kind ∧ done = []
  refuses : ∀ e, step = .error e → W.decode node = some (.error e) ∧ done = [] ∧ later = []

/-- Whatever stands in a place is walked between these steps. -/
def Around (place : List F) (done later : List (Except LiteralError Hook)) : Prop :=
  ∀ t, W.steps trace (W.put place t) = done ++ W.steps trace t ++ later

/-- A step of the walk of a tree, with the steps before and behind it, as one of a node of its
own. -/
def Located (t : T) (done : List (Except LiteralError Hook)) (step : Except LiteralError Hook)
    (later : List (Except LiteralError Hook)) : Prop :=
  ∃ place node before after done' later', t = W.put place node ∧ W.Around trace place before after ∧
    W.steps trace node = done' ++ step :: later' ∧ W.Owns node done' step later' ∧
    done = before ++ done' ∧ later = later' ++ after

/-- The steps in one part of the walk of a tree are each one of a node of its own. -/
def LocatedIn (t : T) (before part after : List (Except LiteralError Hook)) : Prop :=
  ∀ done step later, part = done ++ step :: later →
    W.Located trace t (before ++ done) step (later ++ after)

/-- What a walk does at each node. -/
structure Lawful : Prop where
  walk_eq : ∀ {m : Type → Type} [Monad m] [LawfulMonad m] (v : Visitor m V) (t : T),
    W.walk v t = (trace t).forM v.meet
  nests : ∀ t, Nests (W.steps trace t)
  around : ∀ frame, ∃ done later, W.Around trace [frame] done later
  encloses : ∀ {t}, W.encloses t → ∃ inner, Nests inner ∧ W.steps trace t =
    .ok ⟨.before, W.kind t⟩ :: inner ++ [.ok ⟨.after, W.kind t⟩]
  decodes : ∀ {t}, W.decode t = some (.ok ()) → W.steps trace t = [.ok ⟨.on, W.kind t⟩]
  located : ∀ t, W.LocatedIn trace t [] (W.steps trace t) []

variable {W trace}

/-! ## Places -/

@[simp] theorem put_nil (t : T) : W.put [] t = t := rfl

@[simp] theorem put_cons (frame : F) (place : List F) (t : T) :
    W.put (frame :: place) t = W.fill frame (W.put place t) := rfl

theorem around_nil : W.Around trace [] [] [] := fun t => by simp

theorem Around.cons {frame : F} {place : List F} {done later before after}
    (h : W.Around trace [frame] before after) (h' : W.Around trace place done later) :
    W.Around trace (frame :: place) (before ++ done) (later ++ after) := by
  intro t
  have hframe := h (W.put place t)
  simp only [put_cons, put_nil] at hframe ⊢
  rw [hframe, h' t]
  simp

/-! ## Where steps come from -/

section
variable {t : T} {before part part' after : List (Except LiteralError Hook)}

theorem LocatedIn.append (h : W.LocatedIn trace t before part (part' ++ after))
    (h' : W.LocatedIn trace t (before ++ part) part' after) :
    W.LocatedIn trace t before (part ++ part') after := by
  intro done step later hpart
  rcases List.append_eq_append_iff.1 hpart with ⟨done', rfl, hpart'⟩ | ⟨later', rfl, hlater⟩
  · rw [← List.append_assoc]
    exact h' done' step later hpart'
  · cases later' with
    | nil =>
      rw [List.append_nil] at h'
      simpa using h' [] step later hlater.symm
    | cons _ later' =>
      obtain ⟨rfl, htail⟩ := List.cons.inj hlater
      rw [htail, List.append_eq, List.append_assoc]
      exact h done step later' rfl

/-- A step that belongs to no walk below the tree. -/
theorem locatedIn_own {step : Except LiteralError Hook}
    (hsteps : W.steps trace t = before ++ step :: after) (howns : W.Owns t before step after) :
    W.LocatedIn trace t before [step] after := by
  intro done step' later hstep
  obtain ⟨rfl, hstep⟩ | ⟨_, rfl, hnil⟩ := List.cons_eq_append_iff.1 hstep
  · cases hstep
    rw [List.append_nil]
    exact ⟨[], t, [], [], before, after, rfl, around_nil, hsteps, howns, rfl, by simp⟩
  · simp at hnil

/-- The steps of a walk below the tree. -/
theorem LocatedIn.fill {frame : F} (h : W.LocatedIn trace t [] (W.steps trace t) [])
    (hframe : W.Around trace [frame] before after) :
    W.LocatedIn trace (W.fill frame t) before (W.steps trace t) after := by
  intro done step later hsteps
  obtain ⟨place, node, before', after', done', later', rfl, haround, hnode, howns, hdone, hlater⟩ :=
    h done step later hsteps
  rw [List.nil_append] at hdone
  rw [List.append_nil] at hlater
  refine ⟨frame :: place, node, before ++ before', after' ++ after, done', later', rfl,
    hframe.cons haround, hnode, howns, ?_, ?_⟩
  · rw [hdone, List.append_assoc]
  · rw [hlater, List.append_assoc]

theorem locatedIn_nil : W.LocatedIn trace t before [] after := by
  intro done step later hnil
  simp at hnil

/-- Hooks on a node open nothing. -/
theorem owns_on (node : T) (done later : List (Except LiteralError Hook)) (kind : String) :
    W.Owns node done (.ok ⟨.on, kind⟩) later :=
  ⟨nofun, nofun⟩

/-- Hooks after a node open nothing. -/
theorem owns_after (node : T) (done later : List (Except LiteralError Hook)) (kind : String) :
    W.Owns node done (.ok ⟨.after, kind⟩) later :=
  ⟨nofun, nofun⟩

theorem owns_before {node : T} (hencloses : W.encloses node)
    (later : List (Except LiteralError Hook)) :
    W.Owns node [] (.ok ⟨.before, W.kind node⟩) later where
  opens := by
    intro kind hkind
    cases hkind
    exact ⟨hencloses, rfl, rfl⟩
  refuses := nofun

/-- A hook on the tree between walks below it. -/
theorem LocatedIn.inOrder {kind : String}
    (hsteps : W.steps trace t = before ++ (part ++ .ok ⟨.on, kind⟩ :: part') ++ after)
    (h : W.LocatedIn trace t before part (.ok ⟨.on, kind⟩ :: part' ++ after))
    (h' : W.LocatedIn trace t (before ++ part ++ [Except.ok ⟨.on, kind⟩]) part' after) :
    W.LocatedIn trace t before (part ++ .ok ⟨.on, kind⟩ :: part') after := by
  have hon : W.LocatedIn trace t (before ++ part) [Except.ok ⟨.on, kind⟩] (part' ++ after) :=
    locatedIn_own (by simpa using hsteps) (owns_on t _ _ kind)
  exact h.append (hon.append h')

/-- A hook on the tree between walks below it, and nothing around them. -/
theorem locatedIn_inOrder {kind : String}
    (hsteps : W.steps trace t = part ++ .ok ⟨.on, kind⟩ :: part')
    (h : W.LocatedIn trace t [] part (.ok ⟨.on, kind⟩ :: part'))
    (h' : W.LocatedIn trace t (part ++ [Except.ok ⟨.on, kind⟩]) part' []) :
    W.LocatedIn trace t [] (W.steps trace t) [] := by
  rw [hsteps]
  exact .inOrder (by simpa using hsteps) (by rwa [List.append_nil]) h'

/-- A hook on the tree before a walk below it, and nothing around them. -/
theorem locatedIn_preOrder {kind : String} (hsteps : W.steps trace t = .ok ⟨.on, kind⟩ :: part)
    (h : W.LocatedIn trace t [.ok ⟨.on, kind⟩] part []) :
    W.LocatedIn trace t [] (W.steps trace t) [] :=
  locatedIn_inOrder hsteps locatedIn_nil h

/-- Hooks before and after what is walked below the tree. -/
theorem LocatedIn.enclose (hencloses : W.encloses t)
    (hsteps : W.steps trace t = .ok ⟨.before, W.kind t⟩ :: part ++ [Except.ok ⟨.after, W.kind t⟩])
    (h : W.LocatedIn trace t [Except.ok ⟨.before, W.kind t⟩] part [Except.ok ⟨.after, W.kind t⟩]) :
    W.LocatedIn trace t [] (W.steps trace t) [] := by
  have hbefore : W.LocatedIn trace t [] [Except.ok ⟨.before, W.kind t⟩] (part ++ [_]) :=
    locatedIn_own hsteps (owns_before hencloses _)
  have hafter : W.LocatedIn trace t (.ok ⟨.before, W.kind t⟩ :: part) [_] [] :=
    locatedIn_own hsteps (owns_after t _ _ (W.kind t))
  rw [hsteps]
  exact (hbefore.append h).append hafter

/-- A leaf that decodes is visited. -/
theorem leaf_of_decode {α : Type} {x : Except LiteralError α} {hook : Hook}
    (h : some (x.map fun _ => ()) = some (.ok ())) : [x.map fun _ => hook] = [.ok hook] := by
  cases x with
  | error e => cases h
  | ok => rfl

/-- The hook of a leaf that is visited with its value. -/
theorem locatedIn_leaf {α : Type} {x : Except LiteralError α} {kind : String}
    (hsteps : W.steps trace t = [x.map fun _ => ⟨.on, kind⟩])
    (hdecode : W.decode t = some (x.map fun _ => ())) :
    W.LocatedIn trace t [] (W.steps trace t) [] := by
  have howns : W.Owns t [] (x.map fun _ => ⟨.on, kind⟩) [] := by
    cases x with
    | error e =>
      refine ⟨nofun, fun e' he' => ?_⟩
      cases he'
      exact ⟨hdecode, rfl, rfl⟩
    | ok => exact owns_on t [] [] kind
  have hleaf : W.LocatedIn trace t [] [_] [] := locatedIn_own hsteps howns
  rwa [← hsteps] at hleaf

end

/-! ## Recorded walks -/

section
variable (h : Lawful W trace) {ε : Type} {stop : List Hook → Option ε} {t : T}
include h

theorem Lawful.record_of_passes (ofLiteral : LiteralError → ε)
    (hpasses : Passes stop (visits (W.steps trace t))) :
    W.record stop ofLiteral t =
      ((ending (W.steps trace t)).mapError ofLiteral, visits (W.steps trace t)) := by
  simp only [steps, visits_map, ending_map] at hpasses ⊢
  rw [record, h.walk_eq, onto_forM_of_passes hpasses]
  rfl

theorem Lawful.record_of_failsAt (ofLiteral : LiteralError → ε) {n : Nat} {e : ε}
    (hfails : FailsAt stop (visits (W.steps trace t)) n e) :
    W.record stop ofLiteral t = (.error e, (visits (W.steps trace t)).take n) := by
  simp only [steps, visits_map] at hfails ⊢
  rw [record, h.walk_eq, onto_forM_of_failsAt hfails]
  rfl

/-- A walk without a failure of the visitor ends as its steps do and has all their calls. -/
theorem Lawful.run_eq (t : T) :
    W.run t = (ending (W.steps trace t), visits (W.steps trace t)) := by
  rw [run, h.record_of_passes id fun _ _ _ => rfl]
  cases ending (W.steps trace t) <;> rfl

theorem Lawful.run_eq_ok_iff {calls : List Hook} :
    W.run t = (.ok (), calls) ↔ W.steps trace t = calls.map .ok := by
  rw [h.run_eq, trace_eq_ok_iff]

theorem Lawful.located_step {done later : List (Except LiteralError Hook)}
    {step : Except LiteralError Hook} (hsteps : W.steps trace t = done ++ step :: later) :
    W.Located trace t done step later := by
  have hlocated := h.located t done step later hsteps
  rwa [List.nil_append, List.append_nil] at hlocated

/-- Every place has its steps before it and behind it. -/
theorem Lawful.exists_around (place : List F) : ∃ done later, W.Around trace place done later := by
  induction place with
  | nil => exact ⟨[], [], around_nil⟩
  | cons frame place ih =>
    obtain ⟨before, after, hframe⟩ := h.around frame
    obtain ⟨done, later, hplace⟩ := ih
    exact ⟨_, _, hframe.cons hplace⟩

/-- The walk of a node with two hooks, where nothing below it fails. -/
theorem Lawful.exists_inner (hencloses : W.encloses t) {calls : List Hook}
    (hsteps : W.steps trace t = calls.map .ok) :
    ∃ inner, calls = ⟨.before, W.kind t⟩ :: inner ++ [⟨.after, W.kind t⟩] ∧ Nested inner := by
  obtain ⟨inner, hnests, hinner⟩ := h.encloses hencloses
  rw [hinner, eq_comm, List.cons_append, List.map_eq_cons_iff] at hsteps
  obtain ⟨_, rest, rfl, hopen, hrest⟩ := hsteps
  obtain ⟨calls, _, rfl, hcalls, hclose⟩ := List.map_eq_append_iff.1 hrest
  obtain ⟨_, _, rfl, hclose, hnil⟩ := List.map_eq_cons_iff.1 hclose
  cases hopen
  cases hclose
  cases List.map_eq_nil_iff.1 hnil
  exact ⟨calls, rfl, hnests calls hcalls.symm⟩

/-- The calls between which a place is, where nothing fails around it. -/
theorem Lawful.between {place : List F} {done later : List Hook}
    (haround : W.Around trace place (done.map .ok) (later.map .ok)) :
    W.Between place done later := by
  intro t calls hrun
  rw [h.run_eq_ok_iff] at hrun ⊢
  rw [haround t, hrun, List.map_append, List.map_append]

theorem Lawful.closed {calls done : List Hook} {kind : String} {rest : List Hook}
    (hrun : W.run t = (.ok (), calls)) (hcalls : calls = done ++ ⟨.before, kind⟩ :: rest) :
    ∃ place node inner later, t = W.put place node ∧ W.encloses node ∧ W.kind node = kind ∧
      W.Between place done later ∧ rest = inner ++ ⟨.after, kind⟩ :: later ∧ Nested inner ∧
      W.run node = (.ok (), ⟨.before, kind⟩ :: inner ++ [⟨.after, kind⟩]) := by
  rw [h.run_eq_ok_iff, hcalls, List.map_append, List.map_cons] at hrun
  obtain ⟨place, node, before, after, done', later', rfl, haround, hsteps, howns, hbefore, hrest⟩ :=
    h.located_step hrun
  obtain ⟨hencloses, rfl, rfl⟩ := howns.opens kind rfl
  obtain rfl : done.map .ok = before := hbefore.trans (List.append_nil before)
  obtain ⟨own, later, rfl, rfl, rfl⟩ := List.map_eq_append_iff.1 hrest
  have hown : W.steps trace node = List.map .ok (⟨.before, W.kind node⟩ :: own) := hsteps
  obtain ⟨inner, hinner, hnested⟩ := h.exists_inner hencloses hown
  obtain rfl : own = inner ++ [⟨.after, W.kind node⟩] := (List.cons.inj hinner).2
  exact ⟨place, node, inner, later, rfl, hencloses, rfl, h.between haround, by simp, hnested,
    h.run_eq_ok_iff.2 hown⟩

theorem Lawful.opened {place : List F} {node : T} {calls : List Hook}
    (hrun : W.run (W.put place node) = (.ok (), calls)) (hencloses : W.encloses node) :
    ∃ done inner later, W.Between place done later ∧ Nested inner ∧
      W.run node = (.ok (), ⟨.before, W.kind node⟩ :: inner ++ [⟨.after, W.kind node⟩]) ∧
      calls = done ++ (⟨.before, W.kind node⟩ :: inner ++ [⟨.after, W.kind node⟩]) ++ later := by
  obtain ⟨before, after, haround⟩ := h.exists_around place
  rw [h.run_eq_ok_iff, haround node, eq_comm] at hrun
  obtain ⟨_, later, rfl, hnode, rfl⟩ := List.map_eq_append_iff.1 hrun
  obtain ⟨done, own, rfl, rfl, hown⟩ := List.map_eq_append_iff.1 hnode
  obtain ⟨inner, rfl, hnested⟩ := h.exists_inner hencloses hown.symm
  exact ⟨done, inner, later, h.between haround, hnested, h.run_eq_ok_iff.2 hown.symm, rfl⟩

/-- A walk that has come to a place has the calls before it, whatever stands there. -/
theorem Lawful.exists_later {place : List F} {calls : List Hook}
    {after : List (Except LiteralError Hook)}
    (haround : W.Around trace place (calls.map .ok) after) (t : T) :
    ∃ later, (W.run (W.put place t)).2 = calls ++ (W.run t).2 ++ later := by
  rw [h.run_eq, h.run_eq, haround t, List.append_assoc, visits_ok_append]
  obtain ⟨later, hlater⟩ := exists_visits_append (W.steps trace t) after
  exact ⟨later, by rw [hlater, List.append_assoc]⟩

theorem Lawful.undecoded {e : LiteralError} {calls : List Hook}
    (hrun : W.run t = (.error e, calls)) :
    ∃ place leaf, t = W.put place leaf ∧ W.decode leaf = some (.error e) ∧
      (∀ t', ∃ later, (W.run (W.put place t')).2 = calls ++ (W.run t').2 ++ later) ∧
      ∀ leaf', W.decode leaf' = some (.ok ()) → W.run leaf' = (.ok (), [⟨.on, W.kind leaf'⟩]) := by
  rw [h.run_eq, trace_eq_error_iff] at hrun
  obtain ⟨later, hsteps⟩ := hrun
  obtain ⟨place, leaf, before, after, done', later', rfl, haround, -, howns, hbefore, -⟩ :=
    h.located_step hsteps
  obtain ⟨hdecode, rfl, -⟩ := howns.refuses e rfl
  obtain rfl : calls.map .ok = before := hbefore.trans (List.append_nil before)
  exact ⟨place, leaf, rfl, hdecode, h.exists_later haround,
    fun leaf' hleaf' => h.run_eq_ok_iff.2 (h.decodes hleaf')⟩

/-- **A walk behaves well** if it does what it should at each node. -/
theorem Lawful.wellBehaved : W.WellBehaved where
  nested hrun := h.nests _ _ (h.run_eq_ok_iff.1 hrun)
  closed := h.closed
  opened := h.opened
  stopped ofLiteral hfails := by
    rw [h.run_eq] at hfails ⊢
    exact h.record_of_failsAt ofLiteral hfails
  completed ofLiteral hpasses := by
    rw [h.run_eq] at hpasses ⊢
    exact h.record_of_passes ofLiteral hpasses
  undecoded := h.undecoded

end

end TreeWalk

end ContentQuery
