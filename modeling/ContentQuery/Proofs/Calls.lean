import ContentQuery.Calls

/-!
# How calls go on

A call that is put together from two ends with the second one if the first one succeeds, and where
the first one fails otherwise (`on_bind_of_ok`, `on_bind_of_error`). What both keep is kept by the
whole (`Keeps.bind`), however it ends. A call that does a step (`Does`) succeeds where the step
does, and otherwise changes nothing.
-/

set_option autoImplicit false

namespace ContentQuery.Call

variable {σ α β : Type} {P : σ → Prop} {x : Call σ α} {s s' : σ}

theorem on_bind_of_ok {a : α} (h : x.on s = (.ok a, s')) (f : α → Call σ β) :
    on (x >>= f) s = (f a).on s' := by
  unfold on at *
  simp only [ExceptT.run_bind, StateT.run_bind, Id.run_bind, h]

theorem on_bind_of_error {fault : QueryError} (h : x.on s = (.error fault, s'))
    (f : α → Call σ β) : on (x >>= f) s = (.error fault, s') := by
  unfold on at *
  simp only [ExceptT.run_bind, StateT.run_bind, Id.run_bind, h]
  rfl

@[simp] theorem on_pure (a : α) (s : σ) : on (pure a : Call σ α) s = (.ok a, s) := rfl

@[simp] theorem on_get (s : σ) : on (get : Call σ σ) s = (.ok s, s) := rfl

@[simp] theorem on_set (s s' : σ) : on (set s' : Call σ PUnit) s = (.ok ⟨⟩, s') := rfl

@[simp] theorem on_throw (fault : QueryError) (s : σ) :
    on (throw fault : Call σ α) s = (.error fault, s) := rfl

/-- What holds before a call holds after it, whether it succeeds or fails. -/
def Keeps (P : σ → Prop) (call : Call σ α) : Prop := ∀ s, P s → P (call.after s)

namespace Keeps

theorem pure (a : α) : Keeps P (Pure.pure a : Call σ α) := fun _ h => h

theorem bind {f : α → Call σ β} (hx : Keeps P x) (hf : ∀ a, Keeps P (f a)) :
    Keeps P (x >>= f) := by
  intro s h
  have hafter : P (x.on s).2 := hx s h
  unfold after
  cases hon : x.on s with
  | mk outcome s' =>
    rw [hon] at hafter
    cases outcome with
    | ok a =>
      rw [on_bind_of_ok hon]
      exact hf a s' hafter
    | error fault =>
      rw [on_bind_of_error hon]
      exact hafter

theorem forM {f : β → Call σ Unit} {xs : List β} (hf : ∀ x ∈ xs, Keeps P (f x)) :
    Keeps P (xs.forM f) := by
  induction xs with
  | nil => exact .pure ()
  | cons x xs ih =>
    refine (hf x List.mem_cons_self).bind fun _ => ih fun y hy => ?_
    exact hf y (List.mem_cons_of_mem _ hy)

end Keeps

/-- A call does a step: it leaves the state that the step leads to, or else changes nothing. -/
structure Does (call : Call σ α) (step : σ → Except QueryError (σ × α)) : Prop where
  ok : ∀ {s s' a}, step s = .ok (s', a) → call.on s = (.ok a, s')
  error : ∀ {s fault}, step s = .error fault → call.on s = (.error fault, s)

namespace Does

variable {call : Call σ α} {step : σ → Except QueryError (σ × α)} (h : Does call step)
include h

theorem outcome_eq (s : σ) : call.outcome s = (step s).map (·.2) := by
  unfold outcome
  cases hstep : step s with
  | ok next => rw [h.ok hstep]; rfl
  | error fault => rw [h.error hstep]; rfl

theorem exists_outcome_eq_ok_iff (s : σ) :
    (∃ a, call.outcome s = .ok a) ↔ ∃ next, step s = .ok next := by
  rw [h.outcome_eq]
  cases step s with
  | ok next => exact iff_of_true ⟨next.2, rfl⟩ ⟨next, rfl⟩
  | error fault =>
    refine iff_of_false ?_ ?_
    · rintro ⟨a, ha⟩
      cases ha
    · rintro ⟨next, hnext⟩
      cases hnext

/-- A call that fails changes nothing. -/
theorem after_of_error {fault : QueryError} (hfails : call.outcome s = .error fault) :
    call.after s = s := by
  rw [h.outcome_eq] at hfails
  cases hstep : step s with
  | ok next =>
    rw [hstep] at hfails
    cases hfails
  | error fault' => rw [after, h.error hstep]

/-- What the step keeps is kept by the call, whether it succeeds or fails. -/
theorem keeps (hP : ∀ {s s' a}, P s → step s = .ok (s', a) → P s') : Keeps P call := by
  intro s hs
  unfold after
  cases hstep : step s with
  | ok next =>
    rw [h.ok hstep]
    exact hP hs hstep
  | error fault =>
    rw [h.error hstep]
    exact hs

end Does

end ContentQuery.Call
