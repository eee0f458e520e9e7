import ContentQuery.Proofs.Binding.Lookup
import ContentQuery.Proofs.Run
import Mathlib.Data.List.Nodup

/-!
# Steps of binding

`Sound scope b`: all that the bindings `b` have recorded is right for the names in `scope`. Every
step after the FROM list keeps this and only adds to the bindings (`Bindings.Grows`).
`Ensures scope act Q` says so of `act`, and that `Q` relates its value to all bindings that come
later. The rules follow the way in which binders are put together, and `resolveColumn_ensures`,
`resolveFunction_ensures` and `bindContains_ensures` are the steps that record something.
-/

set_option autoImplicit false

namespace ContentQuery

/-- What binding adds to bindings leaves everything there that they had. -/
structure Bindings.Grows (b b' : Bindings) : Prop where
  types : b'.types = b.types
  resolved : ∀ {id r}, b.resolved.get? id = some r → b'.resolved.get? id = some r
  fullText : ∀ {clause}, b.fullText = some clause → b'.fullText = some clause

namespace Bindings.Grows

variable {b b' b'' : Bindings}

theorem refl (b : Bindings) : b.Grows b := ⟨rfl, id, id⟩

theorem trans (h : b.Grows b') (h' : b'.Grows b'') : b.Grows b'' where
  types := h'.types.trans h.types
  resolved hr := h'.resolved (h.resolved hr)
  fullText hc := h'.fullText (h.fullText hc)

end Bindings.Grows

namespace Binding

/-! ## Sound bindings -/

/-- The names that a part of a statement may use, and the references and full-text searches in
it. -/
structure Scope where
  types : List (String × TypeDefinition)
  aliases : String → Option SelectorId
  references : List (Clause × Selector)
  searches : List (Option String × FullText.Tree)
  distinct : (references.map (·.2.id)).Nodup

theorem Scope.reference_ext {scope : Scope} {ref ref' : Clause × Selector}
    (h : ref ∈ scope.references) (h' : ref' ∈ scope.references) (he : ref.2.id = ref'.2.id) :
    ref = ref' :=
  List.inj_on_of_nodup_map scope.distinct h h' he

/-- Bindings that have recorded nothing wrong, and the items of all SELECT aliases. -/
structure Sound (scope : Scope) (b : Bindings) : Prop where
  types : b.types.entries = scope.types
  aliases : ∀ name, b.selectAliases.get? name = scope.aliases name
  items : ∀ {name id}, scope.aliases name = some id → ∃ r, b.resolved.get? id = some r
  entries : ∀ {id r}, b.resolved.get? id = some r → ∃ ref ∈ scope.references,
    ref.2.id = id ∧ StandsFor scope.types scope.aliases b.resolved.get? ref.1 ref.2 r
  fullText : b.fullText.isSome = true → scope.searches ≠ []

namespace Sound

variable {scope : Scope} {b : Bindings} {k : Clause} {sel : Selector} {r : Resolution}

/-- An entry under the id of a reference is what this reference stands for. -/
theorem standsFor (hs : Sound scope b) (hm : (k, sel) ∈ scope.references)
    (hr : b.resolved.get? sel.id = some r) :
    StandsFor scope.types scope.aliases b.resolved.get? k sel r := by
  obtain ⟨ref, href, hid, h⟩ := hs.entries hr
  obtain rfl := Scope.reference_ext href hm hid
  exact h

/-- A new entry that is right, or a repeated one, keeps the bindings sound. -/
theorem record (hs : Sound scope b) (hm : (k, sel) ∈ scope.references)
    (h : StandsFor scope.types scope.aliases b.resolved.get? k sel r)
    (hold : ∀ r', b.resolved.get? sel.id = some r' → r' = r) :
    Sound scope { b with resolved := b.resolved.insert sel.id r } ∧
      b.Grows { b with resolved := b.resolved.insert sel.id r } := by
  have hle : ∀ id r', b.resolved.get? id = some r' →
      (b.resolved.insert sel.id r).get? id = some r' := by
    intro id r' hr'
    rw [OrderedMap.get?_insert]
    split
    · rename_i hid
      subst hid
      rw [hold r' hr']
    · exact hr'
  refine ⟨⟨hs.types, hs.aliases, fun ha => ?_, fun {id r'} hr' => ?_, hs.fullText⟩,
    ⟨rfl, fun hr' => hle _ _ hr', id⟩⟩
  · obtain ⟨r', hr'⟩ := hs.items ha
    exact ⟨r', hle _ _ hr'⟩
  · rw [OrderedMap.get?_insert] at hr'
    split at hr'
    · rename_i hid
      cases hr'
      exact ⟨(k, sel), hm, hid, h.mono hle⟩
    · obtain ⟨ref, href, hid, h'⟩ := hs.entries hr'
      exact ⟨ref, href, hid, h'.mono hle⟩

end Sound

/-! ## What a step ensures -/

/-- Every success of `act` from sound bindings leads to sound bindings with more in them, and `Q`
relates its value to all bindings with still more. -/
def Ensures (scope : Scope) {α : Type} (act : Binder α) (Q : α → Bindings → Prop) : Prop :=
  ∀ b x b', Sound scope b → act.run b = .ok (x, b') →
    Sound scope b' ∧ b.Grows b' ∧ ∀ B, b'.Grows B → Q x B

variable {scope : Scope} {α β : Type} {act : Binder α} {f : α → Binder β}
  {Q Q' : α → Bindings → Prop} {R : β → Bindings → Prop}

namespace Ensures

theorem pure {x : α} (h : ∀ B, Q x B) : Ensures scope (Pure.pure x) Q := by
  intro b y b' hs hr
  cases hr
  exact ⟨hs, .refl b, fun B _ => h B⟩

theorem throw (e : BindError) : Ensures scope (throw e : Binder α) Q := by
  intro b x b' _ hr
  cases hr

theorem throw_bind (e : BindError) :
    Ensures scope ((MonadExcept.throw e : Binder α) >>= f) R := by
  intro b x b' _ hr
  cases hr

theorem bind (h : Ensures scope act Q)
    (hf : ∀ x, Ensures scope (f x) fun y B => Q x B → R y B) : Ensures scope (act >>= f) R := by
  intro b y b' hs hr
  obtain ⟨x, mid, hx, hy⟩ := run_bind_eq_ok.1 hr
  obtain ⟨hmid, hgrows, hQ⟩ := h b x mid hs hx
  obtain ⟨hs', hgrows', hR⟩ := hf x mid y b' hmid hy
  exact ⟨hs', hgrows.trans hgrows', fun B hB => hR B hB (hQ B (hgrows'.trans hB))⟩

theorem mono (h : Ensures scope act Q) (hQ : ∀ x B, Q x B → Q' x B) : Ensures scope act Q' := by
  intro b x b' hs hr
  obtain ⟨hs', hgrows, hQ'⟩ := h b x b' hs hr
  exact ⟨hs', hgrows, fun B hB => hQ x B (hQ' B hB)⟩

theorem ite {p : Prop} [Decidable p] {act' : Binder α} (h : p → Ensures scope act Q)
    (h' : ¬p → Ensures scope act' Q) : Ensures scope (if p then act else act') Q := by
  split
  · exact h ‹_›
  · exact h' ‹_›

/-- What each item of a list ensures, all of them do. -/
theorem forM {act : α → Binder Unit} {Q : α → Bindings → Prop} {items : List α}
    (h : ∀ x ∈ items, Ensures scope (act x) fun _ B => Q x B) :
    Ensures scope (items.forM act) fun _ B => ∀ x ∈ items, Q x B := by
  induction items with
  | nil => exact .pure fun _ x hx => nomatch hx
  | cons x items ih =>
    refine (h x List.mem_cons_self).bind fun _ => ?_
    refine (ih fun y hy => h y (List.mem_cons_of_mem _ hy)).mono fun _ B hall hx y hy => ?_
    rcases List.mem_cons.1 hy with rfl | hy
    · exact hx
    · exact hall y hy

end Ensures

/-! ## References -/

variable {c : ColumnRef} {g : FunctionRef} {k : Clause}

theorem resolveColumn_ensures (hm : (k, .column c) ∈ scope.references) :
    Ensures scope (resolveColumn c k) fun r B => B.resolved.get? c.id = some r := by
  intro b x b' hs hr
  unfold resolveColumn at hr
  obtain ⟨_, _, hget, hr⟩ := run_bind_eq_ok.1 hr
  cases hget
  split at hr
  · rename_i r hold
    cases hr
    exact ⟨hs, .refl b, fun B hB => hB.resolved hold⟩
  · rename_i hnone
    obtain ⟨r, u, hlookup, hr⟩ := run_bind_eq_ok.1 hr
    cases hl : lookupColumn b c k with
    | error e => rw [hl] at hlookup; cases hlookup
    | ok r' =>
    rw [hl] at hlookup
    cases hlookup
    cases hr
    have hfor := lookupColumn_standsFor (fun ha => hs.items ((hs.aliases _).symm.trans ha)) hl
    rw [hs.types, funext hs.aliases] at hfor
    obtain ⟨hs', hgrows⟩ := hs.record hm hfor fun r' hr' => by
      rw [Selector.id_column, hnone] at hr'
      cases hr'
    exact ⟨hs', hgrows, fun B hB => hB.resolved (by simp)⟩

/-- A column that has to stand for a property. -/
theorem resolveProperty_ensures (hm : (k, .column c) ∈ scope.references) :
    Ensures scope (resolveProperty c k) fun p B =>
      ∃ aliasName typeId, B.resolved.get? c.id = some (.property aliasName typeId p) := by
  refine (resolveColumn_ensures hm).bind fun r => ?_
  split
  · exact .pure fun B hr => ⟨_, _, hr⟩
  · exact .throw _

theorem resolveFunction_ensures (hm : (k, .function g) ∈ scope.references) :
    Ensures scope (resolveFunction g) fun _ B => B.resolved.get? g.id = some .score := by
  refine .ite (fun _ => .throw_bind _) fun hword => ?_
  intro b x b' hs hr
  cases hr
  have hfor : StandsFor scope.types scope.aliases b.resolved.get? k (.function g) .score :=
    .score (by simpa using hword)
  obtain ⟨hs', hgrows⟩ := hs.record hm hfor fun r' hr' => by
    cases hs.standsFor hm hr'
    rfl
  exact ⟨hs', hgrows, fun B hB => hB.resolved (by simp)⟩

/-! ## Full-text searches -/

theorem implicitAlias_eq_ok {function aliasName : String} {b b' : Bindings}
    (h : (implicitAlias function).run b = .ok (aliasName, b')) :
    b' = b ∧ aliasName = b.defaultAlias ∧ b.types.size ≤ 1 := by
  unfold implicitAlias at h
  obtain ⟨_, _, hget, h⟩ := run_bind_eq_ok.1 h
  cases hget
  split at h
  · cases h
  · rename_i hsize
    cases h
    exact ⟨rfl, rfl, Nat.le_of_not_lt hsize⟩

/-- A test without a qualifier is about the only type. -/
theorem implicitAlias_ensures (function : String) :
    Ensures scope (implicitAlias function) fun _ B => B.types.size ≤ 1 := by
  intro b x b' hs hr
  obtain ⟨rfl, -, hsize⟩ := implicitAlias_eq_ok hr
  refine ⟨hs, .refl _, fun B hB => ?_⟩
  show B.types.size ≤ 1
  rw [hB.types]
  exact hsize

theorem searchedAlias_eq_ok {qualifier : Option String} {aliasName : String} {b b' : Bindings}
    (h : (searchedAlias qualifier).run b = .ok (aliasName, b')) :
    b' = b ∧ aliasName = qualifier.getD b.defaultAlias ∧
      (qualifier = none → b.types.size ≤ 1) := by
  cases qualifier with
  | some q => cases h; exact ⟨rfl, rfl, nofun⟩
  | none =>
    obtain ⟨hb, hname, hsize⟩ := implicitAlias_eq_ok h
    exact ⟨hb, hname, fun _ => hsize⟩

/-- A search is recorded with its alias, whose type is indexed, and all its terms decode. -/
theorem bindContains_ensures {qualifier : Option String} {search : FullText.Tree}
    (hm : (qualifier, search) ∈ scope.searches) :
    Ensures scope (bindContains qualifier search) fun _ B =>
      B.fullText = some ⟨qualifier.getD B.defaultAlias, search⟩ ∧
      (∃ t, B.types.get? (qualifier.getD B.defaultAlias) = some t ∧ t.fulltextIndexed = true) ∧
      search.check = .ok () ∧ (qualifier = none → B.types.size ≤ 1) := by
  intro b x b' hs hr
  unfold bindContains at hr
  obtain ⟨_, _, hget, hsearch⟩ := run_bind_eq_ok.1 hr
  cases hget
  by_cases hsome : b.fullText.isSome = true
  · rw [if_pos hsome] at hsearch
    cases hsearch
  rw [if_neg hsome] at hsearch
  obtain ⟨aliasName, u, halias, htype⟩ := run_bind_eq_ok.1 hsearch
  obtain ⟨rfl, hname, hsize⟩ := searchedAlias_eq_ok halias
  clear hr hsearch
  obtain ⟨_, _, hget, hr⟩ := run_bind_eq_ok.1 htype
  cases hget
  cases ht : u.types.get? aliasName with
  | none => rw [ht] at hr; cases hr
  | some t =>
  rw [ht] at hr
  by_cases hindexed : (!t.fulltextIndexed) = true
  · simp only [hindexed] at hr
    cases hr
  simp only [hindexed] at hr
  cases hcheck : search.check with
  | error e => rw [hcheck] at hr; cases hr
  | ok _ =>
  rw [hcheck] at hr
  cases hr
  refine ⟨⟨hs.types, hs.aliases, hs.items, hs.entries, fun _ => List.ne_nil_of_mem hm⟩,
    ⟨rfl, id, fun h => absurd (by rw [h]; rfl) hsome⟩, fun B hB => ?_⟩
  have hdefault : B.defaultAlias = u.defaultAlias := by rw [Bindings.defaultAlias, hB.types]; rfl
  beta_reduce
  rw [hdefault, ← hname, hB.types]
  exact ⟨hB.fullText rfl, ⟨t, ht, by simpa using hindexed⟩, rfl, hsize⟩

end Binding

end ContentQuery
