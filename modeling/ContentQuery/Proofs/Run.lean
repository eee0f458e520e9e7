/-!
# Successful runs

What it says of the parts of a computation with a state and errors that the whole of it succeeds.
-/

set_option autoImplicit false

namespace ContentQuery

variable {σ ε α β : Type}

/-- A sequence succeeds if its first part does and the second one does from there. -/
theorem run_bind_eq_ok {x : StateT σ (Except ε) α} {f : α → StateT σ (Except ε) β} {s t : σ}
    {b : β} : (x >>= f).run s = .ok (b, t) ↔
      ∃ a u, x.run s = .ok (a, u) ∧ (f a).run u = .ok (b, t) := by
  rw [StateT.run_bind]
  constructor
  · intro h
    cases hx : x.run s with
    | error e => rw [hx] at h; cases h
    | ok p =>
      rw [hx] at h
      exact ⟨p.1, p.2, rfl, h⟩
  · rintro ⟨a, u, hu, h⟩
    rw [hu]
    exact h

/-- A sequence succeeds only if both of its parts do. -/
theorem exists_of_bind_eq_ok {x : Except ε α} {f : α → Except ε β} {b : β}
    (h : (x >>= f) = .ok b) : ∃ a, x = .ok a ∧ f a = .ok b := by
  cases x with
  | error e => cases h
  | ok a => exact ⟨a, rfl, h⟩

theorem ok_bind (a : α) (f : α → Except ε β) : (.ok a >>= f) = f a := rfl

theorem error_bind (e : ε) (f : α → Except ε β) : (.error e >>= f) = .error e := rfl

/-- A list of computations has no effect if none of them has one. -/
theorem exists_mapM_eq_pure {m : Type → Type} [Monad m] [LawfulMonad m] {α β : Type} {f : α → m β}
    {xs : List α} (h : ∀ x ∈ xs, ∃ y, f x = pure y) : ∃ ys, xs.mapM f = pure ys := by
  induction xs with
  | nil => exact ⟨[], rfl⟩
  | cons x xs ih =>
    obtain ⟨y, hy⟩ := h x List.mem_cons_self
    obtain ⟨ys, hys⟩ := ih fun z hz => h z (List.mem_cons_of_mem _ hz)
    exact ⟨y :: ys, by simp [List.mapM_cons, hy, hys]⟩

/-- The results of computations without an effect. -/
theorem mapM_eq_pure {m : Type → Type} [Monad m] [LawfulMonad m] {α β : Type} {f : α → m β}
    {g : α → β} {xs : List α} (h : ∀ x ∈ xs, f x = pure (g x)) :
    xs.mapM f = pure (xs.map g) := by
  induction xs with
  | nil => rfl
  | cons x xs ih =>
    have hx := h x List.mem_cons_self
    have hxs := ih fun y hy => h y (List.mem_cons_of_mem _ hy)
    simp [List.mapM_cons, hx, hxs]

/-- A filter has no effect if its test never has one. -/
theorem filterM_eq_pure {m : Type → Type} [Monad m] [LawfulMonad m] {α : Type} {f : α → m Bool}
    {p : α → Bool} (h : ∀ x, f x = pure (p x)) (xs : List α) :
    xs.filterM f = pure (xs.filter p) := by
  have haux : ∀ done, List.filterAuxM f xs done = pure ((xs.filter p).reverse ++ done) := by
    induction xs with
    | nil => exact fun done => rfl
    | cons x xs ih =>
      intro done
      rw [List.filterAuxM, h, pure_bind, ih]
      by_cases hx : p x = true <;> simp [hx]
  rw [List.filterM, haux, pure_bind, List.append_nil, List.reverse_reverse]

/-- A filter that succeeds keeps nothing but members. -/
theorem mem_of_mem_filterM {f : α → Except ε Bool} {xs kept : List α}
    (h : xs.filterM f = .ok kept) : ∀ x ∈ kept, x ∈ xs := by
  have haux : ∀ {ys done result : List α}, List.filterAuxM f ys done = .ok result →
      ∀ x ∈ result, x ∈ ys ∨ x ∈ done := by
    intro ys
    induction ys with
    | nil =>
      intro done result h x hx
      cases h
      exact .inr hx
    | cons y ys ih =>
      intro done result h x hx
      obtain ⟨keep, -, h⟩ := exists_of_bind_eq_ok h
      cases keep with
      | true => grind [ih h x hx]
      | false => grind [ih h x hx]
  obtain ⟨result, hresult, h⟩ := exists_of_bind_eq_ok h
  cases h
  intro x hx
  rcases haux hresult x (List.mem_reverse.1 hx) with hx | hx
  · exact hx
  · cases hx

/-- If all of a list of checks succeed together, each of them does. -/
theorem forM_eq_ok {f : α → Except ε Unit} {xs : List α} (h : xs.forM f = .ok ()) :
    ∀ x ∈ xs, f x = .ok () := by
  induction xs with
  | nil => exact fun _ hx => nomatch hx
  | cons x xs ih =>
    have hboth : (f x >>= fun _ => xs.forM f) = .ok () := h
    obtain ⟨_, hx, hxs⟩ := exists_of_bind_eq_ok hboth
    intro y hy
    rcases List.mem_cons.1 hy with rfl | hy
    · exact hx
    · exact ih hxs y hy

/-- If each of a list of checks succeeds, all of them do together. -/
theorem forM_of_forall_ok {f : α → Except ε Unit} {xs : List α} (h : ∀ x ∈ xs, f x = .ok ()) :
    xs.forM f = .ok () := by
  induction xs with
  | nil => rfl
  | cons x xs ih =>
    show (f x >>= fun _ => xs.forM f) = .ok ()
    rw [h x List.mem_cons_self]
    exact ih fun y hy => h y (List.mem_cons_of_mem _ hy)

/-- If a list of computations succeeds, each of them does, and its result is among the results. -/
theorem exists_mem_of_mapM {f : α → Except ε β} {xs : List α} {ys : List β}
    (h : xs.mapM f = .ok ys) : ∀ x ∈ xs, ∃ y ∈ ys, f x = .ok y := by
  induction xs generalizing ys with
  | nil => exact fun _ hx => nomatch hx
  | cons x xs ih =>
    rw [List.mapM_cons] at h
    obtain ⟨y, hx, h⟩ := exists_of_bind_eq_ok h
    obtain ⟨zs, hxs, h⟩ := exists_of_bind_eq_ok h
    cases h
    intro x' hx'
    rcases List.mem_cons.1 hx' with rfl | hx'
    · exact ⟨y, List.mem_cons_self, hx⟩
    · obtain ⟨y', hy', hx'⟩ := ih hxs x' hx'
      exact ⟨y', List.mem_cons_of_mem _ hy', hx'⟩

theorem mapM_eq_ok {f : α → Except ε β} {xs : List α} {ys : List β} (h : xs.mapM f = .ok ys) :
    ∀ x ∈ xs, ∃ y, f x = .ok y := by
  intro x hx
  obtain ⟨y, -, hy⟩ := exists_mem_of_mapM h x hx
  exact ⟨y, hy⟩

/-- If a list of computations fails, it is with the error of one of them. -/
theorem exists_of_mapM_eq_error {f : α → Except ε β} {xs : List α} {e : ε}
    (h : xs.mapM f = .error e) : ∃ x ∈ xs, f x = .error e := by
  induction xs with
  | nil => cases h
  | cons x xs ih =>
    rw [List.mapM_cons] at h
    cases hx : f x with
    | error e' =>
      rw [hx] at h
      cases h
      exact ⟨x, List.mem_cons_self, hx⟩
    | ok y =>
      rw [hx, ok_bind] at h
      cases hxs : xs.mapM f with
      | error e' =>
        rw [hxs] at h
        cases h
        obtain ⟨x', hx', hfault⟩ := ih hxs
        exact ⟨x', List.mem_cons_of_mem _ hx', hfault⟩
      | ok ys =>
        rw [hxs] at h
        cases h

/-- The results of a list of computations come from its members. -/
theorem exists_of_mem_mapM {f : α → Except ε β} {xs : List α} {ys : List β}
    (h : xs.mapM f = .ok ys) : ∀ y ∈ ys, ∃ x ∈ xs, f x = .ok y := by
  induction xs generalizing ys with
  | nil =>
    cases h
    exact fun _ hy => nomatch hy
  | cons x xs ih =>
    rw [List.mapM_cons] at h
    obtain ⟨y, hx, h⟩ := exists_of_bind_eq_ok h
    obtain ⟨zs, hxs, h⟩ := exists_of_bind_eq_ok h
    cases h
    intro z hz
    rcases List.mem_cons.1 hz with rfl | hz
    · exact ⟨x, List.mem_cons_self, hx⟩
    · obtain ⟨x', hx', hz⟩ := ih hxs z hz
      exact ⟨x', List.mem_cons_of_mem _ hx', hz⟩

/-- What each step of a loop keeps, the loop does. -/
theorem foldlM_keeps {P : α → Prop} {f : α → β → Except ε α} {xs : List β}
    (hf : ∀ a x a', P a → f a x = .ok a' → P a') {a a' : α} (h : P a)
    (hrun : xs.foldlM f a = .ok a') : P a' := by
  induction xs generalizing a with
  | nil =>
    cases hrun
    exact h
  | cons x xs ih =>
    rw [List.foldlM_cons] at hrun
    obtain ⟨mid, hx, hrest⟩ := exists_of_bind_eq_ok hrun
    exact ih (hf a x mid h hx) hrest

/-- The error of a computation that fails. -/
def error? : Except ε α → Option ε
  | .ok _ => none
  | .error e => some e

theorem eq_error_of_error? {x : Except ε α} {e : ε} (h : error? x = some e) : x = .error e := by
  cases x with
  | error e => cases h; rfl
  | ok a => cases h

theorem toOption_eq_some_iff {x : Except ε α} {a : α} : x.toOption = some a ↔ x = .ok a := by
  cases x <;> simp [Except.toOption]

/-- A test on a result, as it is evaluated. -/
theorem exists_of_any_toOption {x : Except ε α} {p : α → Bool} (h : x.toOption.any p = true) :
    ∃ a, x = .ok a ∧ p a = true := by
  cases x with
  | error e => cases h
  | ok a => exact ⟨a, rfl, h⟩

end ContentQuery
