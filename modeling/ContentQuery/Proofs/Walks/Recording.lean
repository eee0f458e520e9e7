import ContentQuery.Walk

/-!
# What a recorder has at the end

A recorder runs through the visits of a trace (`onto_forM_of_passes`) up to the first literal that
does not decode, or up to the first call at which it fails itself (`onto_forM_of_failsAt`). In both
cases it has the calls up to there and no other.
-/

set_option autoImplicit false

namespace ContentQuery

/-! ## Traces -/

section
variable {V W : Type}

/-- The visits of a trace up to the first literal that does not decode. -/
def visits : List (Except LiteralError V) → List V
  | [] => []
  | .ok visit :: trace => visit :: visits trace
  | .error _ :: _ => []

/-- How a trace ends: with the first literal that does not decode, if there is one. -/
def ending : List (Except LiteralError V) → Except LiteralError Unit
  | [] => .ok ()
  | .ok _ :: trace => ending trace
  | .error e :: _ => .error e

@[simp] theorem visits_map (f : V → W) (trace : List (Except LiteralError V)) :
    visits (trace.map (Except.map f)) = (visits trace).map f := by
  induction trace with
  | nil => rfl
  | cons step trace ih =>
    cases step with
    | error e => rfl
    | ok visit => exact congrArg (f visit :: ·) ih

@[simp] theorem ending_map (f : V → W) (trace : List (Except LiteralError V)) :
    ending (trace.map (Except.map f)) = ending trace := by
  induction trace with
  | nil => rfl
  | cons step trace ih =>
    cases step with
    | error e => rfl
    | ok visit => exact ih

/-- The visits before a part of a trace do not hide those in it. -/
theorem visits_ok_append (calls : List V) (trace : List (Except LiteralError V)) :
    visits (calls.map .ok ++ trace) = calls ++ visits trace := by
  induction calls with
  | nil => rfl
  | cons call calls ih => exact congrArg (call :: ·) ih

/-- A trace that goes on has the visits that it had. -/
theorem exists_visits_append (trace later : List (Except LiteralError V)) :
    ∃ more, visits (trace ++ later) = visits trace ++ more := by
  induction trace with
  | nil => exact ⟨visits later, rfl⟩
  | cons step trace ih =>
    cases step with
    | error e => exact ⟨[], rfl⟩
    | ok visit =>
      obtain ⟨more, hmore⟩ := ih
      exact ⟨more, congrArg (visit :: ·) hmore⟩

/-- A trace without a fault is made of its visits. -/
theorem trace_eq_ok_iff {trace : List (Except LiteralError V)} {calls : List V} :
    (ending trace, visits trace) = (.ok (), calls) ↔ trace = calls.map .ok := by
  induction trace generalizing calls with
  | nil => simp [ending, visits, eq_comm]
  | cons step trace ih =>
    cases step with
    | error e => cases calls <;> simp [ending]
    | ok visit =>
      cases calls with
      | nil => simp [visits]
      | cons call calls =>
        have hrest := @ih calls
        simp only [Prod.mk.injEq] at hrest
        simp only [ending, visits, Prod.mk.injEq, List.cons.injEq, List.map_cons, Except.ok.injEq,
          ← hrest]
        exact and_left_comm

/-- A trace with a fault goes on behind its visits with the first one. -/
theorem trace_eq_error_iff {trace : List (Except LiteralError V)} {e : LiteralError}
    {calls : List V} : (ending trace, visits trace) = (.error e, calls) ↔
      ∃ later, trace = calls.map .ok ++ Except.error e :: later := by
  induction trace generalizing calls with
  | nil => simp [ending]
  | cons step trace ih =>
    cases step with
    | error e' => cases calls <;> simp [ending, visits]
    | ok visit =>
      cases calls with
      | nil => simp [visits]
      | cons call calls =>
        have hrest := @ih calls
        simp only [Prod.mk.injEq] at hrest
        simp only [ending, visits, Prod.mk.injEq, List.cons.injEq, List.map_cons,
          List.cons_append, Except.ok.injEq]
        rw [and_left_comm, hrest]
        simp

end

/-! ## Recorders -/

section
variable {ε β : Type}

/-- A recorder with these calls, one after the other, fails at none of them. -/
def Passes (stop : List β → Option ε) (calls : List β) : Prop :=
  ∀ n, 0 < n → n ≤ calls.length → stop (calls.take n) = none

/-- A recorder with these calls fails at the `n`-th of them and at none before it. -/
structure FailsAt (stop : List β → Option ε) (calls : List β) (n : Nat) (e : ε) : Prop where
  pos : 0 < n
  le : n ≤ calls.length
  passes : ∀ k, 0 < k → k < n → stop (calls.take k) = none
  fails : stop (calls.take n) = some e

variable {V : Type} {name : V → β} {stop : List β → Option ε} {ofLiteral : LiteralError → ε}

theorem onto_visit_of_none {visit : V} {calls : List β}
    (h : stop (calls ++ [name visit]) = none) (next : Recording ε β Unit) :
    Recording.onto calls (do (recorder name stop ofLiteral).visit visit; next) =
      Recording.onto (calls ++ [name visit]) next := by
  show Recording.onto (calls ++ [name visit])
    (do (stop (calls ++ [name visit])).forM throw; next) = _
  rw [h]
  rfl

theorem onto_visit_of_some {visit : V} {calls : List β} {e : ε}
    (h : stop (calls ++ [name visit]) = some e) (next : Recording ε β Unit) :
    Recording.onto calls (do (recorder name stop ofLiteral).visit visit; next) =
      (.error e, calls ++ [name visit]) := by
  show Recording.onto (calls ++ [name visit])
    (do (stop (calls ++ [name visit])).forM throw; next) = _
  rw [h]
  rfl

theorem Passes.tail {call : β} {calls : List β} (h : Passes stop (call :: calls)) :
    Passes (fun made => stop (call :: made)) calls :=
  fun n _ hle => h (n + 1) (Nat.succ_pos n) (Nat.succ_le_succ hle)

theorem Passes.head {call : β} {calls : List β} (h : Passes stop (call :: calls)) :
    stop [call] = none :=
  h 1 Nat.one_pos (Nat.succ_le_succ (Nat.zero_le _))

theorem FailsAt.head {call : β} {calls : List β} {n : Nat} {e : ε}
    (h : FailsAt stop (call :: calls) (n + 2) e) : stop [call] = none :=
  h.passes 1 Nat.one_pos (Nat.succ_lt_succ (Nat.succ_pos n))

theorem FailsAt.tail {call : β} {calls : List β} {n : Nat} {e : ε}
    (h : FailsAt stop (call :: calls) (n + 2) e) :
    FailsAt (fun made => stop (call :: made)) calls (n + 1) e where
  pos := Nat.succ_pos n
  le := Nat.le_of_succ_le_succ h.le
  passes k _ hk := h.passes (k + 1) (Nat.succ_pos k) (Nat.succ_lt_succ hk)
  fails := h.fails

/-- A recorder that fails nowhere has all calls, and ends as the trace does. -/
theorem onto_forM_of_passes {trace : List (Except LiteralError V)} {calls : List β}
    (h : Passes (fun made => stop (calls ++ made)) ((visits trace).map name)) :
    Recording.onto calls (trace.forM (recorder name stop ofLiteral).meet) =
      ((ending trace).mapError ofLiteral, calls ++ (visits trace).map name) := by
  induction trace generalizing calls with
  | nil => exact congrArg (Prod.mk _) (List.append_nil calls).symm
  | cons step trace ih =>
    cases step with
    | error e => exact congrArg (Prod.mk _) (List.append_nil calls).symm
    | ok visit =>
      have hrest := @ih (calls ++ [name visit]) (by simpa using h.tail)
      rw [List.append_assoc] at hrest
      exact (onto_visit_of_none h.head _).trans hrest

/-- A recorder that fails at a call has the calls up to this one, and ends with its failure. -/
theorem onto_forM_of_failsAt {trace : List (Except LiteralError V)} {calls : List β} {n : Nat}
    {e : ε} (h : FailsAt (fun made => stop (calls ++ made)) ((visits trace).map name) n e) :
    Recording.onto calls (trace.forM (recorder name stop ofLiteral).meet) =
      (.error e, calls ++ ((visits trace).map name).take n) := by
  induction trace generalizing calls n with
  | nil => exact absurd h.pos (Nat.not_lt_of_le h.le)
  | cons step trace ih =>
    cases step with
    | error e' => exact absurd h.pos (Nat.not_lt_of_le h.le)
    | ok visit =>
      rcases n with _ | _ | n
      · exact absurd h.pos (Nat.lt_irrefl 0)
      · exact onto_visit_of_some h.fails _
      · have hrest := @ih (calls ++ [name visit]) (n + 1) (by simpa using h.tail)
        rw [List.append_assoc] at hrest
        exact (onto_visit_of_none h.head _).trans hrest

/-- A walk that ends without a failure has met no literal that does not decode, and the recorder has
all visits. -/
theorem exists_of_onto_forM_eq_ok {trace : List (Except LiteralError V)} {calls made : List β}
    (h : Recording.onto calls (trace.forM (recorder name stop ofLiteral).meet) = (.ok (), made)) :
    ∃ seen : List V, trace = seen.map .ok ∧ made = calls ++ seen.map name := by
  induction trace generalizing calls with
  | nil =>
    cases h
    exact ⟨[], rfl, (List.append_nil _).symm⟩
  | cons step trace ih =>
    cases step with
    | error e => cases h
    | ok visit =>
      cases hstop : stop (calls ++ [name visit]) with
      | some e =>
        cases (onto_visit_of_some hstop _).symm.trans h
      | none =>
        obtain ⟨seen, rfl, rfl⟩ := ih ((onto_visit_of_none hstop _).symm.trans h)
        exact ⟨visit :: seen, rfl, List.append_assoc _ [name visit] _⟩

end

end ContentQuery
