import ContentQuery.Evaluation.Predicate

/-!
# Tests that search at most once

A row test that asks for the full-text search gets the outcome that is already known or makes the
search and keeps its outcome (`remember`). `Computes e row asks act value`: `act` leaves the stack
as it is, and its result is `value` of the outcome of the search, which it asks for exactly if
`asks`. The rules follow the way in which tests are put together. `Decides` is the same of a truth
value and a proposition.
-/

set_option autoImplicit false

namespace ContentQuery.Evaluator

variable {m : Type → Type} [Monad m] {e : Evaluator m} {row : Row}

/-- The outcome of the search for a computation, and what is known of it afterwards. One that does
not ask for it gets what there is. -/
def remember (e : Evaluator m) (row : Row) (asks : Bool) (known : Option FullText.Match) :
    ExceptT QueryError m (FullText.Match × Option FullText.Match) :=
  match asks, known with
  | true, some found => pure (found, some found)
  | true, none => do
    let found ← e.fullTextMatch row
    pure (found, some found)
  | false, known => pure (known.getD .miss, known)

/-- `act` has the result `value` of the outcome of the search and keeps the stack. -/
structure Computes (e : Evaluator m) (row : Row) {α : Type} (asks : Bool) (act : RowTest m α)
    (value : FullText.Match → α) : Prop where
  run : ∀ stack known, act.run ⟨stack, known⟩ =
    remember e row asks known >>= fun r => pure (value r.1, ⟨stack, r.2⟩)
  const : asks = false → ∀ found found', value found = value found'

/-- `act` tests what `P` says of the outcome of the search. -/
def Decides (e : Evaluator m) (row : Row) (asks : Bool) (act : RowTest m Bool)
    (P : FullText.Match → Prop) : Prop :=
  ∃ value, Computes e row asks act value ∧ ∀ found, value found = true ↔ P found

theorem Decides.congr {asks : Bool} {act : RowTest m Bool} {P Q : FullText.Match → Prop}
    (h : Decides e row asks act P) (hPQ : ∀ found, P found ↔ Q found) :
    Decides e row asks act Q := by
  obtain ⟨value, hact, hv⟩ := h
  exact ⟨value, hact, fun found => (hv found).trans (hPQ found)⟩

variable [LawfulMonad m] {α β : Type} {a b : Bool}

/-- Two computations in a row search once if either of them asks. -/
theorem remember_bind_remember (known : Option FullText.Match)
    (k : FullText.Match → FullText.Match → Option FullText.Match → ExceptT QueryError m β)
    (hk : a = false → ∀ found found' f known', k found f known' = k found' f known') :
    (remember e row a known >>= fun r => remember e row b r.2 >>= fun r' => k r.1 r'.1 r'.2) =
      remember e row (a || b) known >>= fun r => k r.1 r.1 r.2 := by
  cases a with
  | true =>
    cases known <;> cases b <;> simp [remember]
  | false =>
    cases known with
    | some found => cases b <;> simp [remember]
    | none =>
      cases b with
      | true =>
        simp only [remember, pure_bind, bind_assoc, Bool.or_true]
        exact bind_congr fun found => hk rfl _ _ _ _
      | false => simp [remember]

namespace Computes

variable {act : RowTest m α} {f : α → RowTest m β} {value : FullText.Match → α}

theorem pure (x : α) : Computes e row false (Pure.pure x) fun _ => x where
  run stack known := by simp [remember]
  const _ _ _ := rfl

theorem bind {value' : α → FullText.Match → β} (h : Computes e row a act value)
    (hf : ∀ x, Computes e row b (f x) (value' x)) :
    Computes e row (a || b) (act >>= f) fun found => value' (value found) found where
  run stack known := by
    rw [StateT.run_bind, h.run, bind_assoc]
    simp only [pure_bind, (hf _).run]
    refine remember_bind_remember known
      (fun found found' known' =>
        Pure.pure (value' (value found) found', Progress.mk stack known')) ?_
    intro ha found found' f known'
    rw [h.const ha found found']
  const hab found found' := by
    obtain ⟨ha, hb⟩ := Bool.or_eq_false_iff.1 hab
    rw [h.const ha found found', (hf _).const hb found found']

theorem searchOnce : Computes e row true (e.searchOnce row) id where
  run stack known := by
    cases known with
    | some found => simp [Evaluator.searchOnce, remember]
    | none => simp [Evaluator.searchOnce, remember]
  const h := nomatch h

end Computes

end ContentQuery.Evaluator
