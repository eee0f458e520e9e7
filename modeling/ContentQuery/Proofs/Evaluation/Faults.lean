import ContentQuery.Proofs.Evaluation.Answers

/-!
# Rows that cannot be tested

Binding does not look at the left side of `= ANY`, and reading it as a literal is an error when it
is a column or a function. `trace_faults`: where the search has an outcome, a condition with such a
relation anywhere in it ends in an error in every row. The visits before the relation pass, as
those of a condition without one do by `trace_pushes`.
-/

set_option autoImplicit false

namespace ContentQuery.Evaluator

open Binding

variable {m : Type → Type} [Monad m] {e : Evaluator m} {row : Row}

/-! ## Traces -/

/-- Visits that come to an end, wherever they start. -/
def Passes (e : Evaluator m) (row : Row) (trace : List (Except LiteralError Predicate.Visit)) :
    Prop :=
  ∀ progress, ∃ progress', (e.testTrace row trace).run progress = pure ((), progress')

/-- Visits that end in an error, wherever they start. -/
def Faults (e : Evaluator m) (row : Row) (trace : List (Except LiteralError Predicate.Visit)) :
    Prop :=
  ∀ progress, ∃ fault, (e.testTrace row trace).run progress = throw fault

theorem Idle.passes {t : List (Except LiteralError Predicate.Visit)} (h : Idle e row t) :
    Passes e row t :=
  fun progress => ⟨progress, h progress⟩

variable [LawfulMonad m] {t t' : List (Except LiteralError Predicate.Visit)}

/-- What is asked of a search with an outcome has an outcome. -/
theorem remember_eq_pure {found : FullText.Match} (h : e.fullTextMatch row = pure found)
    (asks : Bool) (known : Option FullText.Match) : ∃ r, remember e row asks known = pure r := by
  cases asks with
  | false => exact ⟨_, rfl⟩
  | true =>
    cases known with
    | some found => exact ⟨_, rfl⟩
    | none => exact ⟨(found, some found), by simp only [remember, h, pure_bind]⟩

theorem Pushes.passes {asks : Bool} {P : FullText.Match → Prop} {found : FullText.Match}
    (h : Pushes e row asks t P) (hsearch : e.fullTextMatch row = pure found) : Passes e row t := by
  obtain ⟨value, -, -, hrun⟩ := h
  rintro ⟨stack, known⟩
  obtain ⟨r, hr⟩ := remember_eq_pure hsearch asks known
  exact ⟨_, by rw [hrun, hr, pure_bind]⟩

theorem Faults.append (h : Faults e row t) : Faults e row (t ++ t') := by
  intro progress
  obtain ⟨fault, hfault⟩ := h progress
  exact ⟨fault, by rw [testTrace_append, hfault, ExceptT.bind_throw]⟩

theorem Passes.append_faults (h : Passes e row t) (h' : Faults e row t') :
    Faults e row (t ++ t') := by
  intro progress
  obtain ⟨progress', hpass⟩ := h progress
  obtain ⟨fault, hfault⟩ := h' progress'
  exact ⟨fault, by rw [testTrace_append, hpass, pure_bind, hfault]⟩

/-! ## Conditions -/

/-- The left side of `= ANY` is not read as an operand. -/
theorem equalsAny_faults {left right : Predicate} (hl : left.IsOperand) (hno : ¬left.IsLiteral) :
    Faults e row [.ok (.on (.relation .equalsAny left right))] := by
  intro progress
  obtain ⟨fault, hfault⟩ : ∃ fault, left.literalValue? = .error fault := by
    cases hl with
    | column c => exact ⟨_, rfl⟩
    | literal raw => exact absurd ⟨raw, rfl⟩ hno
    | score f => exact ⟨_, rfl⟩
  have hread : (literalOf left : RowTest m Value) = throw (.literal fault) := by
    rw [literalOf, hfault]
  refine ⟨.literal fault, ?_⟩
  rw [testTrace_single]
  simp only [testVisit, testRelation, hread]
  simp

/-- The only relation without a test is `= ANY` with something else than a literal. -/
theorem relation_faults {r : Relation} {left right : Predicate}
    (hc : (Predicate.relation r left right).IsCondition)
    (hb : TraceChecked e.bound.bindings (Predicate.relation r left right).trace)
    (hany : ¬(Predicate.relation r left right).LiteralBeforeAny) :
    Faults e row (Predicate.relation r left right).trace := by
  obtain ⟨rfl, hno⟩ := Classical.not_imp.1 (mt (Predicate.LiteralBeforeAny.relation_iff hc).2 hany)
  simp only [Predicate.trace, traceChecked_append] at hb ⊢
  cases hc with
  | equalsAny c hl =>
    exact (idle_operand hl hb.1).passes.append_faults
      (Faults.append (t := [_]) (equalsAny_faults hl hno))

section
variable {p : Predicate} {found : FullText.Match}
  (hpattern : ∀ text, e.pattern text = .ofText text) (hsearch : e.fullTextMatch row = pure found)
include hpattern hsearch

/-- The operands of a connective are visited one after the other, so that it is enough for one of
them to end in an error. -/
theorem connective_faults {left right : Predicate} {before on after : Predicate.Visit}
    (hbefore : e.testVisit row before = pure ()) (hon : e.testVisit row on = pure ())
    (hcl : left.IsCondition) (hbl : TraceChecked e.bound.bindings left.trace)
    (ihl : ¬left.LiteralBeforeAny → Faults e row left.trace)
    (ihr : ¬right.LiteralBeforeAny → Faults e row right.trace)
    (hany : ¬(left.LiteralBeforeAny ∧ right.LiteralBeforeAny)) :
    Faults e row (.ok before :: left.trace ++ .ok on :: right.trace ++ [Except.ok after]) := by
  refine Faults.append (Passes.append_faults (t := [_]) (idle_single hbefore).passes ?_)
  by_cases hl : left.LiteralBeforeAny
  · have hpass : Passes e row left.trace :=
      Pushes.passes (trace_pushes hpattern hcl hbl hl) hsearch
    refine hpass.append_faults (Passes.append_faults (t := [_]) (idle_single hon).passes ?_)
    exact ihr fun hr => hany ⟨hl, hr⟩
  · exact Faults.append (ihl hl)

/-- **A condition that reads something else than a literal before `= ANY` ends in an error.** -/
theorem trace_faults (hc : p.IsCondition) (hb : TraceChecked e.bound.bindings p.trace)
    (hany : ¬p.LiteralBeforeAny) : Faults e row p.trace := by
  induction hc with
  | compare op hl hr => exact relation_faults (.compare op hl hr) hb hany
  | isIn negated hl hne hall => exact relation_faults (.isIn negated hl hne hall) hb hany
  | anyIn negated c hne hall => exact relation_faults (.anyIn negated c hne hall) hb hany
  | equalsAny c hl => exact relation_faults (.equalsAny c hl) hb hany
  | like negated hl ht => exact relation_faults (.like negated hl ht) hb hany
  | isNull negated hl =>
    refine absurd (fun left right hmem => ?_) hany
    cases hl <;> simp [Predicate.nodes] at hmem
  | contains | inFolder | inFolderOf =>
    refine absurd (fun left right hmem => ?_) hany
    simp [Predicate.nodes] at hmem
  | @and left right hcl _ ihl ihr =>
    simp only [Predicate.trace, List.append_assoc, List.cons_append, traceChecked_append,
      traceChecked_cons] at hb
    obtain ⟨-, hbl, -, hbr, -⟩ := hb
    rw [Predicate.LiteralBeforeAny.and_iff] at hany
    exact connective_faults hpattern hsearch rfl rfl hcl hbl (ihl hbl) (ihr hbr) hany
  | @or left right hcl _ ihl ihr =>
    simp only [Predicate.trace, List.append_assoc, List.cons_append, traceChecked_append,
      traceChecked_cons] at hb
    obtain ⟨-, hbl, -, hbr, -⟩ := hb
    rw [Predicate.LiteralBeforeAny.or_iff] at hany
    exact connective_faults hpattern hsearch rfl rfl hcl hbl (ihl hbl) (ihr hbr) hany
  | @not operand _ ih =>
    simp only [Predicate.trace, List.cons_append, traceChecked_append, traceChecked_cons] at hb
    obtain ⟨-, -, hbp, -⟩ := hb
    have hinner := ih hbp (mt Predicate.LiteralBeforeAny.not_iff.2 hany)
    exact Passes.append_faults (t := [_]) (idle_single rfl).passes
      (Passes.append_faults (t := [_]) (idle_single rfl).passes hinner.append)

end

/-- Where the search has an outcome, a row has no result under such a tree. -/
theorem evaluateRow_faults {found : FullText.Match}
    (hc : ∀ p ∈ e.bound.statement.filter, p.IsCondition)
    (hb : ∀ p ∈ e.bound.statement.filter, TraceChecked e.bound.bindings p.trace)
    (hany : ¬∀ p ∈ e.bound.statement.filter, p.LiteralBeforeAny)
    (hpattern : ∀ text, e.pattern text = .ofText text)
    (hsearch : e.fullTextMatch row = pure found) :
    ∃ fault, e.evaluateRow row = throw fault := by
  simp only [not_forall] at hany
  obtain ⟨p, hp, hany⟩ := hany
  obtain ⟨fault, hfault⟩ := trace_faults hpattern hsearch (hc p hp) (hb p hp) hany ⟨[], none⟩
  refine ⟨fault, ?_⟩
  unfold evaluateRow
  rw [Option.mem_def.1 hp]
  simp only [hfault, ExceptT.bind_throw]

end ContentQuery.Evaluator
