import ContentQuery.Proofs.Run
import ContentQuery.Proofs.Statement.Tokens

/-!
# Reading up to the end of a name

What a parser does with a text that ends in a name does not depend on what stands behind it, unless
it reads the last name as the start of a column reference. `Fate` says which of these it is;
`Sound` puts it together with what holds of every part of the parser, so that it goes over from the
parts of a statement to the whole. Two points behind the text tell the cases apart: only where a
column reference is read does the first of them make the parser ask for a name right behind it.
-/

set_option autoImplicit false

namespace ContentQuery.Statement

/-! ## Texts -/

/-- Two points. -/
def points : List Char := ['.', '.']

/-- The last character of a text continues an identifier. -/
def EndsInName (v : List Char) : Prop := ∃ c ∈ v.getLast?, continuesIdentifier c = true

theorem EndsInName.ne_nil {v : List Char} (h : EndsInName v) : v ≠ [] := by
  rintro rfl
  obtain ⟨c, hc, -⟩ := h
  cases hc

/-- What is left of such a text is one as well. -/
theorem EndsInName.of_append {u v : List Char} (h : EndsInName (u ++ v)) (hv : v ≠ []) :
    EndsInName v := by
  obtain ⟨c, hc, hname⟩ := h
  rw [List.getLast?_append_of_ne_nil u hv] at hc
  exact ⟨c, hc, hname⟩

/-- What stands behind a name, up to white space a point or an opening parenthesis. The bound is for
parsers whose fuel grows with the text. -/
structure Behind (bound : Nat) (k : List Char) : Prop where
  head : ∃ d ∈ ['.', '('], (afterBlanks k).head? = some d
  length_le : k.length ≤ bound + 2

theorem behind_points (bound : Nat) : Behind bound points :=
  ⟨⟨'.', List.mem_cons_self, rfl⟩, Nat.le_add_left 2 bound⟩

/-! ## Parsers -/

section
variable {α β : Type}

/-- A parser never puts anything back. -/
def Shrinks (p : Parser α) : Prop :=
  ∀ c x c', p.run c = .ok (x, c') → c'.rest.length ≤ c.rest.length

/-- The success of a parser does not depend on where it stands in the text. -/
def Unplaced (p : Parser α) : Prop :=
  ∀ rest n total total' x c, p.run ⟨rest, total, n⟩ = .ok (x, c) →
    p.run ⟨rest, total', n⟩ = .ok (x, { c with total := total' })

/-- It is not that a name is missing at the last character of the text. All of the text or two
points are left. -/
structure Misses (total : Nat) (r : Except ParseError (α × Cursor)) : Prop where
  error : ∀ e, r = .error e → e ≠ .expectedIdentifier (total - 1)
  ok : ∀ x c, r = .ok (x, c) → c.total = total ∧ c.rest ∈ [[], points]

theorem misses_error {total : Nat} {e : ParseError} (h : e ≠ .expectedIdentifier (total - 1)) :
    Misses total (.error e : Except ParseError (α × Cursor)) where
  error e' he := by
    cases he
    exact h
  ok := nofun

theorem misses_ok {x : α} {c : Cursor} (h : c.rest ∈ [[], points]) :
    Misses c.total (.ok (x, c)) where
  error := nofun
  ok y d hok := by
    cases hok
    exact ⟨rfl, h⟩

/-- A parser does not ask for a name at the last of two points, or at the end of the text. -/
def Quiet (p : Parser α) : Prop :=
  ∀ rest ∈ [[], points], ∀ total n, 2 ≤ total → Misses total (p.run ⟨rest, total, n⟩)

/-- At a point or an opening parenthesis a parser takes nothing, or fails, and not because a closing
parenthesis is missing at the end of the text. -/
def Stops (p : Parser α) : Prop :=
  ∀ d ∈ ['.', '('], ∀ c : Cursor, (afterBlanks c.rest).head? = some d →
    (∀ e, p.run c = .error e → e ≠ .expectedChar ')' none) ∧
    ∀ x c', p.run c = .ok (x, c') → afterBlanks c'.rest = afterBlanks c.rest

/-- The rest of a column reference or of a function behind its name. -/
def referenceAfter (name : String) : Parser (FunctionRef ⊕ ColumnRef) := do
  if ← tryChar '(' then
    expectChar ')'
    return .inl ⟨← freshId, name⟩
  else return .inr (← columnAfter name)

/-- What becomes of a parser in a text that ends in a name, with something behind it. `asks` is
whether it may go on behind the text with the rest of a column reference that is no function. -/
inductive Fate (bound : Nat) (asks : Bool) (p : Parser α) (v : List Char) (n : SelectorId) : Prop
  /-- It ends within the text. -/
  | inside (x : α) (v' : List Char) (m : SelectorId) (hne : v' ≠ []) (hsuffix : v' <:+ v)
    (h : ∀ k total, Behind bound k → p.run ⟨v ++ k, total, n⟩ = .ok (x, ⟨v' ++ k, total, m⟩))
  /-- It goes on behind the text with the rest of a column reference. -/
  | column (hasks : asks = true) (name : String) (m : SelectorId) (next : ColumnRef → Parser α)
    (hunplaced : ∀ c, Unplaced (next c)) (hstops : ∀ c, Stops (next c))
    (h : ∀ k total, Behind bound k →
      p.run ⟨v ++ k, total, n⟩ = (columnAfter name >>= next).run ⟨k, total, m⟩)
  /-- It goes on behind the text with the rest of a column reference or of a function. -/
  | reference (name : String) (m : SelectorId) (next : FunctionRef ⊕ ColumnRef → Parser α)
    (hunplaced : ∀ r, Unplaced (next r))
    (h : ∀ k total, Behind bound k →
      p.run ⟨v ++ k, total, n⟩ = (referenceAfter name >>= next).run ⟨k, total, m⟩)
  /-- It does neither, as two points show. -/
  | misses (h : ∀ total, byteLength (v ++ points) ≤ total →
      Misses total (p.run ⟨v ++ points, total, n⟩))

/-- What holds of the parts of the parser. -/
structure Sound (bound : Nat) (asks : Bool) (p : Parser α) : Prop where
  shrinks : Shrinks p
  unplaced : Unplaced p
  quiet : Quiet p
  fate : ∀ v n, EndsInName v → Fate bound asks p v n

end

/-! ## Sequences -/

section
variable {α β : Type} {p : Parser α} {f : α → Parser β}

theorem run_bind_of_ok {c c' : Cursor} {x : α} (h : p.run c = .ok (x, c')) :
    (p >>= f).run c = (f x).run c' := by
  rw [StateT.run_bind, h]
  rfl

theorem run_bind_of_error {c : Cursor} {e : ParseError} (h : p.run c = .error e) :
    (p >>= f).run c = .error e := by
  rw [StateT.run_bind, h]
  rfl

theorem Shrinks.bind (hp : Shrinks p) (hf : ∀ x, Shrinks (f x)) : Shrinks (p >>= f) := by
  intro c y c' h
  obtain ⟨x, d, hx, hy⟩ := run_bind_eq_ok.1 h
  exact (hf x d y c' hy).trans (hp c x d hx)

theorem Unplaced.bind (hp : Unplaced p) (hf : ∀ x, Unplaced (f x)) : Unplaced (p >>= f) := by
  intro rest n total total' y c h
  obtain ⟨x, ⟨rest', mid, m⟩, hx, hy⟩ := run_bind_eq_ok.1 h
  rw [run_bind_of_ok (hp rest n total total' x _ hx)]
  exact hf x rest' m mid total' y c hy

theorem Misses.bind {total : Nat} {c : Cursor} (hp : Misses total (p.run c)) (htotal : 2 ≤ total)
    (hf : ∀ x, Quiet (f x)) : Misses total ((p >>= f).run c) := by
  cases hx : p.run c with
  | error e =>
    rw [run_bind_of_error hx]
    exact misses_error (hp.error e hx)
  | ok found =>
    obtain ⟨x, rest, total', m⟩ := found
    obtain ⟨rfl, hrest⟩ := hp.ok x _ hx
    rw [run_bind_of_ok hx]
    exact hf x rest hrest _ m htotal

theorem Quiet.bind (hp : Quiet p) (hf : ∀ x, Quiet (f x)) : Quiet (p >>= f) :=
  fun rest hrest total n htotal => (hp rest hrest total n htotal).bind htotal hf

theorem Stops.bind (hp : Stops p) (hf : ∀ x, Stops (f x)) : Stops (p >>= f) := by
  intro d hd c hc
  obtain ⟨hfail, hstay⟩ := hp d hd c hc
  cases hx : p.run c with
  | error e =>
    rw [run_bind_of_error hx]
    refine ⟨fun e' he' => ?_, nofun⟩
    cases he'
    exact hfail e hx
  | ok found =>
    obtain ⟨x, c'⟩ := found
    have hrest := hstay x c' hx
    rw [run_bind_of_ok hx, ← hrest]
    exact hf x d hd c' (by rwa [hrest])

end

/-! ## Fates -/

theorem byteLength_append (u v : List Char) :
    byteLength (u ++ v) = byteLength u + byteLength v := by
  rw [byteLength, List.map_append, total_append]
  rfl

theorem byteLength_points : byteLength points = 2 := by decide

theorem byteLength_le_of_suffix {u v : List Char} (h : v <:+ u) : byteLength v ≤ byteLength u := by
  obtain ⟨w, rfl⟩ := h
  rw [byteLength_append]
  exact Nat.le_add_left _ _

section
variable {α β : Type} {p : Parser α} {f : α → Parser β} {bound : Nat} {asks asks' : Bool}
  {v v' : List Char} {n m : SelectorId}

theorem EndsInName.of_suffix (h : EndsInName v) (hsuffix : v' <:+ v) (hne : v' ≠ []) :
    EndsInName v' := by
  obtain ⟨u, rfl⟩ := hsuffix
  exact h.of_append hne

/-- A parser that runs as another one does further on in the text has its fate. -/
theorem Fate.of_run {p' : Parser α} (h : Fate bound asks p' v' m) (hsuffix : v' <:+ v)
    (hrun : ∀ k total, Behind bound k → p.run ⟨v ++ k, total, n⟩ = p'.run ⟨v' ++ k, total, m⟩) :
    Fate bound asks p v n := by
  cases h with
  | inside x w l hne hw h =>
    exact .inside x w l hne (hw.trans hsuffix) fun k total hk =>
      (hrun k total hk).trans (h k total hk)
  | column hasks name l next hunplaced hstops h =>
    exact .column hasks name l next hunplaced hstops fun k total hk =>
      (hrun k total hk).trans (h k total hk)
  | reference name l next hunplaced h =>
    exact .reference name l next hunplaced fun k total hk => (hrun k total hk).trans (h k total hk)
  | misses h =>
    refine .misses fun total htotal => ?_
    rw [hrun points total (behind_points bound)]
    refine h total (Nat.le_trans ?_ htotal)
    rw [byteLength_append, byteLength_append]
    exact Nat.add_le_add_right (byteLength_le_of_suffix hsuffix) _

theorem Fate.bind (hv : EndsInName v) (hp : Fate bound asks' p v n)
    (hf : ∀ x, Sound bound asks (f x)) (hasks : asks' = true → asks = true ∧ ∀ x, Stops (f x)) :
    Fate bound asks (p >>= f) v n := by
  cases hp with
  | inside x v' m hne hsuffix h =>
    exact ((hf x).fate v' m (hv.of_suffix hsuffix hne)).of_run hsuffix fun k total hk =>
      run_bind_of_ok (h k total hk)
  | column hask name m next hunplaced hstops h =>
    obtain ⟨hask', hf'⟩ := hasks hask
    refine .column hask' name m (fun c => next c >>= f)
      (fun c => (hunplaced c).bind fun x => (hf x).unplaced) (fun c => (hstops c).bind hf') ?_
    intro k total hk
    rw [StateT.run_bind, h k total hk, ← StateT.run_bind, bind_assoc]
  | reference name m next hunplaced h =>
    refine .reference name m (fun r => next r >>= f)
      (fun r => (hunplaced r).bind fun x => (hf x).unplaced) ?_
    intro k total hk
    rw [StateT.run_bind, h k total hk, ← StateT.run_bind, bind_assoc]
  | misses h =>
    refine .misses fun total htotal => (h total htotal).bind ?_ fun x => (hf x).quiet
    rw [byteLength_append, byteLength_points] at htotal
    omega

/-- Fewer parsers ask. -/
theorem Fate.weaken (h : Fate bound false p v n) : Fate bound asks p v n := by
  cases h with
  | inside x v' m hne hsuffix h => exact .inside x v' m hne hsuffix h
  | column hasks => cases hasks
  | reference name m next hunplaced h => exact .reference name m next hunplaced h
  | misses h => exact .misses h

end

/-! ## Parts of the parser -/

namespace Sound

variable {α β : Type} {p p' : Parser α} {f : α → Parser β} {bound : Nat} {asks : Bool}

theorem weaken (h : Sound bound false p) : Sound bound asks p where
  shrinks := h.shrinks
  unplaced := h.unplaced
  quiet := h.quiet
  fate v n hv := (h.fate v n hv).weaken

/-- Behind a part that does not ask. -/
theorem bind (hp : Sound bound false p) (hf : ∀ x, Sound bound asks (f x)) :
    Sound bound asks (p >>= f) where
  shrinks := hp.shrinks.bind fun x => (hf x).shrinks
  unplaced := hp.unplaced.bind fun x => (hf x).unplaced
  quiet := hp.quiet.bind fun x => (hf x).quiet
  fate v n hv := (hp.fate v n hv).bind hv hf nofun

/-- Behind a part that asks, where nothing takes a point or an opening parenthesis. -/
theorem bind_of_stops (hp : Sound bound true p) (hf : ∀ x, Sound bound true (f x))
    (hstops : ∀ x, Stops (f x)) : Sound bound true (p >>= f) where
  shrinks := hp.shrinks.bind fun x => (hf x).shrinks
  unplaced := hp.unplaced.bind fun x => (hf x).unplaced
  quiet := hp.quiet.bind fun x => (hf x).quiet
  fate v n hv := (hp.fate v n hv).bind hv hf fun _ => ⟨rfl, hstops⟩

theorem pure (x : α) : Sound bound asks (Pure.pure x : Parser α) where
  shrinks c y c' h := by
    cases h
    exact Nat.le_refl _
  unplaced rest n total total' y c h := by
    cases h
    rfl
  quiet rest hrest total n _ := misses_ok (c := ⟨rest, total, n⟩) hrest
  fate v n hv := .inside x v n hv.ne_nil v.suffix_refl fun _ _ _ => rfl

/-- A parser that always fails, and not because a name is missing. -/
theorem of_fails (h : ∀ c, ∃ e, p.run c = .error e ∧ ∀ position, e ≠ .expectedIdentifier position) :
    Sound bound asks p where
  shrinks c x c' hrun := by
    obtain ⟨e, he, -⟩ := h c
    rw [he] at hrun
    cases hrun
  unplaced rest n total total' x c hrun := by
    obtain ⟨e, he, -⟩ := h ⟨rest, total, n⟩
    rw [he] at hrun
    cases hrun
  quiet rest hrest total n _ := by
    obtain ⟨e, he, hother⟩ := h ⟨rest, total, n⟩
    rw [he]
    exact misses_error (hother _)
  fate v n hv := by
    refine .misses fun total _ => ?_
    obtain ⟨e, he, hother⟩ := h ⟨v ++ points, total, n⟩
    rw [he]
    exact misses_error (hother _)

theorem throw {e : ParseError} (h : ∀ position, e ≠ .expectedIdentifier position) :
    Sound bound asks (throw e : Parser α) := of_fails fun _ => ⟨e, rfl, h⟩

theorem ite {b : Prop} [Decidable b] (hp : Sound bound asks p) (hp' : Sound bound asks p') :
    Sound bound asks (if b then p else p') := by
  split
  · exact hp
  · exact hp'

end Sound

/-! ## Where a parser stops -/

namespace Stops

variable {α β : Type} {p p' : Parser α} {f : α → Parser β}

theorem pure (x : α) : Stops (Pure.pure x : Parser α) := by
  intro d _ c _
  refine ⟨nofun, fun y c' h => ?_⟩
  cases h
  rfl

theorem throw {e : ParseError} (h : e ≠ .expectedChar ')' none) :
    Stops (throw e : Parser α) := by
  intro d _ c _
  refine ⟨fun e' he' => ?_, nofun⟩
  cases he'
  exact h

theorem ite {b : Prop} [Decidable b] (hp : Stops p) (hp' : Stops p') :
    Stops (if b then p else p') := by
  split
  · exact hp
  · exact hp'

end Stops

end ContentQuery.Statement
