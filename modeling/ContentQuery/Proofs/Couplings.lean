import ContentQuery.Proofs.Run
import Mathlib.Data.List.Forall2
import Mathlib.Tactic.Choose

/-!
# Computations side by side

A `Lifting` relates two computations by a relation between their results, in a way that goes along
with `pure` and `bind`; the rules for lists, filters and branches follow. `Alike` does this for
outcomes: both are values or both are errors. `Coupled` does it for computations in any monad, which
have their effects together: they are the two halves of one computation of related pairs. `CoupledT`
is both at once, for computations that may fail.
-/

set_option autoImplicit false

namespace ContentQuery

/-! ## Lists -/

theorem exists_of_forall₂ {α β : Type} {R : α → β → Prop} {as : List α} {bs : List β}
    (h : List.Forall₂ R as bs) : ∀ a ∈ as, ∃ b ∈ bs, R a b := by
  induction h with
  | nil => exact fun _ ha => nomatch ha
  | cons hab _ ih =>
    intro a ha
    rcases List.mem_cons.1 ha with rfl | ha
    · exact ⟨_, List.mem_cons_self, hab⟩
    · obtain ⟨b, hb, hab⟩ := ih a ha
      exact ⟨b, List.mem_cons_of_mem _ hb, hab⟩

theorem forall₂_eq_map_iff {α β : Type} {g : α → β} {xs : List α} {ys : List β} :
    List.Forall₂ (fun x y => y = g x) xs ys ↔ ys = xs.map g := by
  have hflip : List.Forall₂ (fun x y => y = g x) xs ys ↔ List.Forall₂ Eq ys (xs.map g) := by
    rw [List.forall₂_map_right_iff]
    exact ⟨List.Forall₂.flip, List.Forall₂.flip⟩
  rw [hflip, List.forall₂_eq_eq_eq]

theorem forall₂_zip {α α' β β' : Type} {R : α → α' → Prop} {S : β → β' → Prop} {xs : List α}
    {xs' : List α'} {ys : List β} {ys' : List β'} (hxs : List.Forall₂ R xs xs')
    (hys : List.Forall₂ S ys ys') :
    List.Forall₂ (fun p p' => R p.1 p'.1 ∧ S p.2 p'.2) (xs.zip ys) (xs'.zip ys') := by
  induction hxs generalizing ys ys' with
  | nil => exact .nil
  | cons hx _ ih =>
    cases hys with
    | nil => exact .nil
    | cons hy hys => exact .cons ⟨hx, hy⟩ (ih hys)

/-! ## Relations between computations -/

section
variable {m n : Type → Type} [Monad m] [Monad n]

/-- Relates computations by a relation between their results, and goes along with `pure` and
`bind`. -/
structure Lifting (Rel : ∀ {α α' : Type}, (α → α' → Prop) → m α → n α' → Prop) : Prop where
  pure : ∀ {α α' : Type} {R : α → α' → Prop} {a : α} {a' : α'}, R a a' →
    Rel R (Pure.pure a) (Pure.pure a')
  bind : ∀ {α α' β β' : Type} {R : α → α' → Prop} {S : β → β' → Prop} {x : m α} {x' : n α'}
    {f : α → m β} {f' : α' → n β'}, Rel R x x' → (∀ a a', R a a' → Rel S (f a) (f' a')) →
    Rel S (x >>= f) (x' >>= f')

namespace Lifting

variable {Rel : ∀ {α α' : Type}, (α → α' → Prop) → m α → n α' → Prop} {α α' β β' : Type}
  {R : α → α' → Prop} {S : β → β' → Prop}

theorem forM (h : Lifting @Rel) {f : α → m PUnit} {f' : α' → n PUnit}
    (hf : ∀ a a', R a a' → Rel Eq (f a) (f' a')) {xs : List α} {xs' : List α'}
    (hxs : List.Forall₂ R xs xs') : Rel Eq (xs.forM f) (xs'.forM f') := by
  induction hxs with
  | nil => exact h.pure rfl
  | cons hx _ ih => exact h.bind (hf _ _ hx) fun _ _ _ => ih

/-- Two filters whose tests give related answers to the members of one list. -/
theorem filterM (h : Lifting @Rel) {p : α → m Bool} {p' : α → n Bool}
    (hp : ∀ a, Rel Eq (p a) (p' a)) (xs : List α) : Rel Eq (xs.filterM p) (xs.filterM p') := by
  have haux : ∀ done, Rel Eq (List.filterAuxM p xs done) (List.filterAuxM p' xs done) := by
    induction xs with
    | nil => exact fun done => h.pure rfl
    | cons x xs ih =>
      intro done
      refine h.bind (hp x) fun keep _ hkeep => ?_
      subst hkeep
      exact ih _
  exact h.bind (haux []) fun _ _ hkept => h.pure (congrArg List.reverse hkept)

/-- Both take the same branch and then go on. -/
theorem ite_bind (h : Lifting @Rel) {p : Prop} [Decidable p] {x y : m α} {x' y' : n α'}
    {f : α → m β} {f' : α' → n β'} (hx : Rel R x x') (hy : Rel R y y')
    (hf : ∀ a a', R a a' → Rel S (f a) (f' a')) :
    Rel S (if p then x >>= f else y >>= f) (if p then x' >>= f' else y' >>= f') := by
  split
  · exact h.bind hx hf
  · exact h.bind hy hf

variable [LawfulMonad m] [LawfulMonad n]

theorem map (h : Lifting @Rel) {x : m α} {x' : n α'} {g : α → β} {g' : α' → β'}
    (hx : Rel R x x') (hg : ∀ a a', R a a' → S (g a) (g' a')) : Rel S (g <$> x) (g' <$> x') := by
  rw [map_eq_pure_bind, map_eq_pure_bind]
  exact h.bind hx fun a a' ha => h.pure (hg a a' ha)

theorem mapM (h : Lifting @Rel) {f : α → m β} {f' : α' → n β'}
    (hf : ∀ a a', R a a' → Rel S (f a) (f' a')) {xs : List α} {xs' : List α'}
    (hxs : List.Forall₂ R xs xs') : Rel (List.Forall₂ S) (xs.mapM f) (xs'.mapM f') := by
  induction hxs with
  | nil =>
    rw [List.mapM_nil, List.mapM_nil]
    exact h.pure .nil
  | cons hx _ ih =>
    rw [List.mapM_cons, List.mapM_cons]
    exact h.bind (hf _ _ hx) fun _ _ hb => h.bind ih fun _ _ hbs => h.pure (.cons hb hbs)

end Lifting

end

/-! ## Outcomes -/

section
variable {ε ε' α α' : Type}

/-- Both are values that `R` relates, or both are errors that `E` relates. -/
inductive Alike (E : ε → ε' → Prop) (R : α → α' → Prop) : Except ε α → Except ε' α' → Prop
  | ok {a : α} {a' : α'} : R a a' → Alike E R (.ok a) (.ok a')
  | error {e : ε} {e' : ε'} : E e e' → Alike E R (.error e) (.error e')

namespace Alike

variable {E E₁ : ε → ε' → Prop} {R S : α → α' → Prop} {x : Except ε α} {x' : Except ε' α'}

variable (E) in
theorem lifting : Lifting (m := Except ε) (n := Except ε') (Alike E) where
  pure := .ok
  bind hx hf := by
    cases hx with
    | ok ha => exact hf _ _ ha
    | error he => exact .error he

theorem mono (h : Alike E R x x') (hE : ∀ e e', E e e' → E₁ e e') (hR : ∀ a a', R a a' → S a a') :
    Alike E₁ S x x' := by
  cases h with
  | ok ha => exact .ok (hR _ _ ha)
  | error he => exact .error (hE _ _ he)

theorem of_eq {E : ε → ε → Prop} (hE : ∀ e, E e e) {x x' : Except ε α} (h : x = x') :
    Alike E Eq x x' := by
  subst h
  cases x with
  | ok a => exact .ok rfl
  | error e => exact .error (hE e)

protected theorem eq {x x' : Except ε α} (h : Alike Eq Eq x x') : x = x' := by
  cases h with
  | ok ha => rw [ha]
  | error he => rw [he]

theorem toOption_eq {x : Except ε α} {x' : Except ε' α} (h : Alike E Eq x x') :
    x'.toOption = x.toOption := by
  cases h with
  | ok ha => cases ha; rfl
  | error _ => rfl

theorem toBool_eq (h : Alike E R x x') : x'.toBool = x.toBool := by
  cases h <;> rfl

end Alike

end

/-! ## Computations -/

section
variable {m : Type → Type} [Monad m] {α α' : Type}

/-- Two computations are the halves of one that gives related pairs. -/
def Coupled (R : α → α' → Prop) (x : m α) (x' : m α') : Prop :=
  ∃ both : m {pair : α × α' // R pair.1 pair.2},
    (fun pair => pair.1.1) <$> both = x ∧ (fun pair => pair.1.2) <$> both = x'

/-- Two computations that may fail are coupled, with like outcomes. -/
def CoupledT {ε ε' : Type} (E : ε → ε' → Prop) (R : α → α' → Prop) (x : ExceptT ε m α)
    (x' : ExceptT ε' m α') : Prop :=
  Coupled (Alike E R) x.run x'.run

variable {R S : α → α' → Prop}

protected theorem Coupled.eq {x x' : m α} (h : Coupled Eq x x') : x = x' := by
  obtain ⟨both, rfl, rfl⟩ := h
  exact congrArg (· <$> both) (funext fun pair => pair.2)

/-- Without effects only the results are left. -/
theorem Coupled.results {x : Id α} {x' : Id α'} (h : Coupled R x x') : R x.run x'.run := by
  obtain ⟨both, rfl, rfl⟩ := h
  exact both.run.2

variable [LawfulMonad m]

namespace Coupled

theorem pure {a : α} {a' : α'} (h : R a a') : Coupled R (Pure.pure a : m α) (Pure.pure a') :=
  ⟨Pure.pure ⟨(a, a'), h⟩, map_pure _ _, map_pure _ _⟩

theorem lifting : Lifting (m := m) (n := m) Coupled where
  pure := Coupled.pure
  bind hx hf := by
    obtain ⟨both, rfl, rfl⟩ := hx
    choose next hnext hnext' using hf
    refine ⟨both >>= fun pair => next pair.1.1 pair.1.2 pair.2, ?_, ?_⟩
    · rw [map_bind, bind_map_left]
      exact congrArg (both >>= ·) (funext fun pair => hnext _ _ pair.2)
    · rw [map_bind, bind_map_left]
      exact congrArg (both >>= ·) (funext fun pair => hnext' _ _ pair.2)

theorem mono {x : m α} {x' : m α'} (h : Coupled R x x') (hR : ∀ a a', R a a' → S a a') :
    Coupled S x x' := by
  obtain ⟨both, rfl, rfl⟩ := h
  refine ⟨(fun pair => ⟨pair.1, hR _ _ pair.2⟩) <$> both, ?_, ?_⟩ <;> rw [Functor.map_map]

theorem refl {R : α → α → Prop} (hR : ∀ a, R a a) (x : m α) : Coupled R x x := by
  refine ⟨(fun a => ⟨(a, a), hR a⟩) <$> x, ?_, ?_⟩ <;> rw [Functor.map_map, id_map']

theorem of_eq {x x' : m α} (h : x = x') : Coupled Eq x x' := h ▸ refl (fun _ => rfl) x

end Coupled

namespace CoupledT

variable {ε ε' : Type} {E E₁ : ε → ε' → Prop}

variable (E) in
theorem lifting : Lifting (m := ExceptT ε m) (n := ExceptT ε' m) (CoupledT E) where
  pure h := Coupled.pure (.ok h)
  bind hx hf := by
    refine Coupled.lifting.bind hx fun o o' ho => ?_
    cases ho with
    | ok ha => exact hf _ _ ha
    | error he => exact Coupled.pure (.error he)

theorem throw {e : ε} {e' : ε'} (h : E e e') :
    CoupledT E R (MonadExcept.throw e : ExceptT ε m α) (MonadExcept.throw e') :=
  Coupled.pure (.error h)

theorem of_eq {E : ε → ε → Prop} (hE : ∀ e, E e e) {x x' : ExceptT ε m α} (h : x = x') :
    CoupledT E Eq x x' := by
  subst h
  refine Coupled.refl (fun o => ?_) x.run
  exact .of_eq hE rfl

theorem lift {x : m α} {x' : m α'} (h : Coupled R x x') :
    CoupledT E R (ExceptT.lift x) (ExceptT.lift x') :=
  Coupled.lifting.map h fun _ _ ha => .ok ha

end CoupledT

end

end ContentQuery
