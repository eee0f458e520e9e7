import ContentQuery.Proofs.Evaluation.Operands

/-!
# Testing rows

`trace_pushes`: running through the visits to a condition puts its truth value on the stack and
leaves the rest of the stack as it is. This is the invariant behind `evaluateRow_eq`, by which the
result of the stack machine is what the WHERE tree reads as.
-/

set_option autoImplicit false

namespace ContentQuery.Evaluator

open Binding

variable {m : Type → Type}

/-! ## Evaluators -/

theorem mem_patternLiterals {p : Predicate} {raw : String} :
    raw ∈ patternLiterals p ↔
      ∃ negated left, .relation (.like negated) left (.literal raw) ∈ p.nodes := by
  constructor
  · intro h
    obtain ⟨node, hnode, hraw⟩ := List.mem_filterMap.1 h
    split at hraw
    · rename_i negated left raw'
      cases hraw
      exact ⟨negated, left, hnode⟩
    · cases hraw
  · rintro ⟨negated, left, hnode⟩
    exact List.mem_filterMap.2 ⟨_, hnode, rfl⟩

/-- The patterns of a condition are string literals that decode. -/
theorem unquote?_of_mem_patternLiterals {p : Predicate} {B : Bindings} (hc : p.IsCondition)
    (hb : TraceChecked B p.trace) {raw : String} (h : raw ∈ patternLiterals p) :
    ∃ text, Literal.unquote? raw = .ok text := by
  obtain ⟨negated, left, hnode⟩ := mem_patternLiterals.1 h
  obtain ⟨-, text, htext⟩ := hb.of_mem_nodes hnode
  obtain ⟨hlike, -⟩ := hc.of_mem_nodes hnode nofun nofun
  cases hlike with
  | like _ _ ht => exact ⟨text, Literal.unquote?_of_value? ht htext⟩

/-- The evaluator of a statement that has been bound, whose patterns are those of their texts. -/
theorem prepare_ok {bound : BoundStatement}
    (hc : ∀ p ∈ bound.statement.filter, p.IsCondition)
    (hb : ∀ p ∈ bound.statement.filter, TraceChecked bound.bindings p.trace)
    (folders : FolderHierarchy) (index : Option (TextIndex m)) (caseSensitiveText : Bool) :
    ∃ e, prepare bound folders index caseSensitiveText = .ok e ∧ e.bound = bound ∧
      e.folders = folders ∧ e.index = index ∧ e.matcher = ⟨caseSensitiveText⟩ ∧
      ∀ text, e.pattern text = .ofText text := by
  have hpatterns : ∃ texts : List String, preparePatterns bound.statement
      = .ok (.ofList (texts.map fun text => (text, .ofText text))) := by
    unfold preparePatterns
    cases hf : bound.statement.filter with
    | none => exact ⟨[], rfl⟩
    | some p =>
      obtain ⟨texts, htexts⟩ := exists_mapM_eq_pure fun raw hraw =>
        unquote?_of_mem_patternLiterals (hc p hf) (hb p hf) hraw
      refine ⟨texts, ?_⟩
      dsimp only
      rw [htexts]
      rfl
  obtain ⟨texts, hprepare⟩ := hpatterns
  refine ⟨_, by rw [prepare, hprepare], rfl, rfl, rfl, rfl, fun text => ?_⟩
  unfold pattern
  dsimp only
  rw [OrderedMap.get?_ofList]
  split <;> rfl

/-! ## Traces -/

variable [Monad m] {e : Evaluator m} {row : Row}

/-- Visits that change nothing. -/
def Idle (e : Evaluator m) (row : Row) (trace : List (Except LiteralError Predicate.Visit)) :
    Prop :=
  ∀ progress, (e.testTrace row trace).run progress = pure ((), progress)

/-- Visits that put one truth value on the stack, which says whether `P` holds of the outcome of
the search. -/
def Pushes (e : Evaluator m) (row : Row) (asks : Bool)
    (trace : List (Except LiteralError Predicate.Visit)) (P : FullText.Match → Prop) : Prop :=
  ∃ value : FullText.Match → Bool, (∀ found, value found = true ↔ P found) ∧
    (asks = false → ∀ found found', value found = value found') ∧
    ∀ stack known, (e.testTrace row trace).run ⟨stack, known⟩ =
      remember e row asks known >>= fun r => pure ((), ⟨value r.1 :: stack, r.2⟩)

variable [LawfulMonad m] {t t' : List (Except LiteralError Predicate.Visit)} {asks asks' : Bool}
  {P P' : FullText.Match → Prop}

theorem testTrace_append (progress : Progress) :
    (e.testTrace row (t ++ t')).run progress =
      (e.testTrace row t).run progress >>= fun r => (e.testTrace row t').run r.2 := by
  have h : e.testTrace row (t ++ t') = (do e.testTrace row t; e.testTrace row t') :=
    List.forM_append
  rw [h, StateT.run_bind]

theorem testTrace_single (visit : Predicate.Visit) :
    e.testTrace row [.ok visit] = e.testVisit row visit := by
  simp [testTrace]

/-! ## The stack -/

omit [LawfulMonad m] in
@[simp] theorem run_push (result : Bool) (progress : Progress) :
    (push result : RowTest m Unit).run progress =
      pure ((), { progress with stack := result :: progress.stack }) := rfl

@[simp] theorem run_pop (result : Bool) (stack : List Bool) (known : Option FullText.Match) :
    (pop : RowTest m Bool).run ⟨result :: stack, known⟩ = pure (result, ⟨stack, known⟩) := by
  simp [pop]

theorem run_after_and (left right : Predicate) (a b : Bool) (stack : List Bool)
    (known : Option FullText.Match) :
    (e.testVisit row (.after (.and left right))).run ⟨b :: a :: stack, known⟩ =
      pure ((), ⟨(a && b) :: stack, known⟩) := by
  simp [testVisit]

theorem run_after_or (left right : Predicate) (a b : Bool) (stack : List Bool)
    (known : Option FullText.Match) :
    (e.testVisit row (.after (.or left right))).run ⟨b :: a :: stack, known⟩ =
      pure ((), ⟨(a || b) :: stack, known⟩) := by
  simp [testVisit]

theorem run_after_not (operand : Predicate) (a : Bool) (stack : List Bool)
    (known : Option FullText.Match) :
    (e.testVisit row (.after (.not operand))).run ⟨a :: stack, known⟩ =
      pure ((), ⟨(!a) :: stack, known⟩) := by
  simp [testVisit]

theorem Pushes.after_idle (h : Idle e row t) (h' : Pushes e row asks t' P) :
    Pushes e row asks (t ++ t') P := by
  obtain ⟨value, hv, hconst, hrun⟩ := h'
  refine ⟨value, hv, hconst, fun stack known => ?_⟩
  rw [testTrace_append, h, pure_bind, hrun]

theorem Pushes.before_idle (h : Pushes e row asks t P) (h' : Idle e row t') :
    Pushes e row asks (t ++ t') P := by
  obtain ⟨value, hv, hconst, hrun⟩ := h
  refine ⟨value, hv, hconst, fun stack known => ?_⟩
  rw [testTrace_append, hrun, bind_assoc]
  simp only [pure_bind, h' _]

/-- A visit that puts the result of a test on the stack. -/
theorem Decides.pushes {visit : Predicate.Visit} {act : RowTest m Bool}
    (h : Decides e row asks act P) (hvisit : e.testVisit row visit = act >>= push) :
    Pushes e row asks [.ok visit] P := by
  obtain ⟨value, hact, hv⟩ := h
  refine ⟨value, hv, hact.const, fun stack known => ?_⟩
  rw [testTrace_single, hvisit, StateT.run_bind, hact.run, bind_assoc]
  simp only [pure_bind]
  rfl

/-- Two truth values on the stack, and a visit that replaces them by one. -/
theorem Pushes.connect {visit : Predicate.Visit} {op : Bool → Bool → Bool}
    {Q : FullText.Match → Prop} (h : Pushes e row asks t P) (h' : Pushes e row asks' t' P')
    (hvisit : ∀ a b stack known, (e.testVisit row visit).run ⟨b :: a :: stack, known⟩ =
      pure ((), ⟨op a b :: stack, known⟩))
    (hop : ∀ a b found, (a = true ↔ P found) → (b = true ↔ P' found) →
      (op a b = true ↔ Q found)) :
    Pushes e row (asks || asks') (t ++ (t' ++ [Except.ok visit])) Q := by
  obtain ⟨value, hv, hconst, hrun⟩ := h
  obtain ⟨value', hv', hconst', hrun'⟩ := h'
  refine ⟨fun found => op (value found) (value' found), fun found => ?_, fun hasks => ?_, ?_⟩
  · exact hop _ _ found (hv found) (hv' found)
  · obtain ⟨ha, ha'⟩ := Bool.or_eq_false_iff.1 hasks
    intro found found'
    beta_reduce
    rw [hconst ha found found', hconst' ha' found found']
  · intro stack known
    simp only [testTrace_append, hrun, hrun', bind_assoc, pure_bind, testTrace_single, hvisit]
    refine remember_bind_remember known (fun found found' known' =>
      pure ((), Progress.mk (op (value found) (value' found') :: stack) known')) ?_
    intro hasks found found' f known'
    rw [hconst hasks found found']

/-- A truth value on the stack, and a visit that inverts it. -/
theorem Pushes.invert {node : Predicate} (h : Pushes e row asks t P) :
    Pushes e row asks (t ++ [Except.ok (Predicate.Visit.after (.not node))])
      fun found => ¬P found := by
  obtain ⟨value, hv, hconst, hrun⟩ := h
  refine ⟨fun found => !value found, fun found => ?_, fun hasks found found' => ?_, ?_⟩
  · beta_reduce
    rw [← hv found]
    cases value found <;> decide
  · beta_reduce
    rw [hconst hasks found found']
  · intro stack known
    simp only [testTrace_append, hrun, bind_assoc, pure_bind, testTrace_single, run_after_not]

/-! ## Operands -/

theorem idle_single {visit : Predicate.Visit} (h : e.testVisit row visit = pure ()) :
    Idle e row [.ok visit] := by
  intro progress
  rw [testTrace_single, h]
  rfl

theorem idle_of_literalValue? {raw : String} {v : Value}
    (h : (Predicate.literal raw).literalValue? = .ok v) :
    Idle e row (Predicate.literal raw).trace := by
  rw [Predicate.trace, h]
  exact idle_single rfl

theorem idle_of_literalValues? {items : List Predicate} {vs : List Value}
    (h : (Predicate.literalList items).literalValues? = .ok vs) :
    Idle e row (Predicate.literalList items).trace := by
  rw [Predicate.trace, h]
  exact idle_single rfl

theorem idle_literal {B : Bindings} {raw : String}
    (h : TraceChecked B (Predicate.literal raw).trace) :
    Idle e row (Predicate.literal raw).trace := by
  obtain ⟨v, hv⟩ := h.literalValue?
  exact idle_of_literalValue? hv

theorem idle_literalList {B : Bindings} {items : List Predicate}
    (h : TraceChecked B (Predicate.literalList items).trace) :
    Idle e row (Predicate.literalList items).trace := by
  obtain ⟨vs, hvs⟩ := h.literalValues?
  exact idle_of_literalValues? hvs

theorem idle_operand {B : Bindings} {p : Predicate} (h : p.IsOperand)
    (ht : TraceChecked B p.trace) : Idle e row p.trace := by
  cases h with
  | column c => exact idle_single rfl
  | literal raw => exact idle_literal ht
  | score f => exact idle_single rfl

/-! ## Conditions -/

section
variable {r : Relation} {left right p : Predicate}
  (hpattern : ∀ text, e.pattern text = .ofText text)
include hpattern

theorem relation_pushes (hc : (Predicate.relation r left right).IsCondition)
    (hb : TraceChecked e.bound.bindings (Predicate.relation r left right).trace)
    (hany : (Predicate.relation r left right).LiteralBeforeAny) :
    Pushes e row ((Predicate.relation r left right).asksSearch e.bound.resolution?)
      (Predicate.relation r left right).trace
      fun found => (e.reading row found).Satisfies (.relation r left right) := by
  obtain ⟨hl, hrel, hr⟩ := hb.relation_of_mem List.mem_cons_self
  have hidle : Idle e row left.trace ∧ Idle e row right.trace := by
    cases hc with
    | compare op h h' => exact ⟨idle_operand h hl, idle_operand h' hr⟩
    | isIn negated h _ _ => exact ⟨idle_operand h hl, idle_literalList hr⟩
    | anyIn negated c _ _ => exact ⟨idle_operand (.column c) hl, idle_literalList hr⟩
    | equalsAny c h => exact ⟨idle_operand h hl, idle_operand (.column c) hr⟩
    | like negated h _ => exact ⟨idle_operand h hl, idle_literal hr⟩
  have hany : r = .equalsAny → left.IsLiteral :=
    (Predicate.LiteralBeforeAny.relation_iff hc).1 hany
  have htest : Decides e row _ _ _ := testRelation_decides hc hany hrel hl hr hpattern
  exact .after_idle hidle.1 ((htest.pushes rfl).before_idle hidle.2)

/-- **A condition pushes what it reads as**, and leaves the rest of the stack alone. -/
theorem trace_pushes (hc : p.IsCondition) (hb : TraceChecked e.bound.bindings p.trace)
    (hany : p.LiteralBeforeAny) :
    Pushes e row (p.asksSearch e.bound.resolution?) p.trace
      fun found => (e.reading row found).Satisfies p := by
  induction hc with
  | compare op hl hr => exact relation_pushes hpattern (.compare op hl hr) hb hany
  | isIn negated hl hne hall => exact relation_pushes hpattern (.isIn negated hl hne hall) hb hany
  | anyIn negated c hne hall => exact relation_pushes hpattern (.anyIn negated c hne hall) hb hany
  | equalsAny c hl => exact relation_pushes hpattern (.equalsAny c hl) hb hany
  | like negated hl ht => exact relation_pushes hpattern (.like negated hl ht) hb hany
  | @isNull negated l hl =>
    have htest : Decides e row false (pure (e.testNull row negated l))
        fun found => (e.reading row found).Satisfies (.isNull negated l) :=
      ⟨fun _ => e.testNull row negated l, .pure _, testNull_eq_true negated⟩
    refine htest.pushes ?_
    rw [pure_bind]
    rfl
  | contains qualifier search =>
    have htest : Decides e row true (e.searchOnce row >>= fun found => pure found.matched)
        fun found => (e.reading row found).Satisfies (.contains qualifier search) :=
      ⟨_, Computes.searchOnce.bind fun found => .pure found.matched, fun found => Iff.rfl⟩
    refine htest.pushes ?_
    simp [testVisit]
  | inFolder scope raw =>
    obtain ⟨⟨-, folderId, ht⟩, hfolder⟩ := traceChecked_cons.1 hb
    have htest : Decides e row _ _ _ := testFolder_decides scope none ht
    exact Pushes.before_idle (t := [_]) (htest.pushes rfl) (idle_literal hfolder)
  | inFolderOf scope id q raw =>
    obtain ⟨hq, hb⟩ := traceChecked_append.1 hb
    obtain ⟨⟨-, folderId, ht⟩, hfolder⟩ := traceChecked_cons.1 hb
    have htest : Decides e row _ _ _ :=
      testFolder_decides scope (some (.column ⟨id, some q, wildcard⟩)) ht
    have hread : ∀ found, (e.reading row found).InFolder scope q (.literal raw) ↔
        (e.reading row found).Satisfies
          (.inFolderOf scope (.column ⟨id, some q, wildcard⟩) (.literal raw)) := by
      intro found
      constructor
      · exact fun h => ⟨_, q, rfl, rfl, h⟩
      · rintro ⟨c, q', ⟨⟩, ⟨⟩, h⟩
        exact h
    exact Pushes.after_idle (idle_operand (.column _) hq)
      (Pushes.before_idle (t := [_]) ((htest.congr hread).pushes rfl) (idle_literal hfolder))
  | @and left right _ _ ihl ihr =>
    obtain ⟨hanyl, hanyr⟩ := Predicate.LiteralBeforeAny.and_iff.1 hany
    simp only [Predicate.trace, List.append_assoc, List.cons_append, traceChecked_append,
      traceChecked_cons] at hb
    obtain ⟨-, hl, -, hr, -⟩ := hb
    rw [Predicate.trace, List.append_assoc]
    refine Pushes.connect (.after_idle (t := [_]) (idle_single rfl) (ihl hl hanyl))
      (.after_idle (t := [_]) (idle_single rfl) (ihr hr hanyr)) (run_after_and left right) ?_
    intro a b found ha hb
    rw [Bool.and_eq_true, ha, hb]
    rfl
  | @or left right _ _ ihl ihr =>
    obtain ⟨hanyl, hanyr⟩ := Predicate.LiteralBeforeAny.or_iff.1 hany
    simp only [Predicate.trace, List.append_assoc, List.cons_append, traceChecked_append,
      traceChecked_cons] at hb
    obtain ⟨-, hl, -, hr, -⟩ := hb
    rw [Predicate.trace, List.append_assoc]
    refine Pushes.connect (.after_idle (t := [_]) (idle_single rfl) (ihl hl hanyl))
      (.after_idle (t := [_]) (idle_single rfl) (ihr hr hanyr)) (run_after_or left right) ?_
    intro a b found ha hb
    rw [Bool.or_eq_true, ha, hb]
    rfl
  | @not operand _ ih =>
    simp only [Predicate.trace, List.cons_append, traceChecked_append, traceChecked_cons] at hb
    obtain ⟨-, -, hp, -⟩ := hb
    have hinner := ih hp (Predicate.LiteralBeforeAny.not_iff.1 hany)
    exact Pushes.after_idle (t := [_]) (idle_single rfl)
      (Pushes.after_idle (t := [_]) (idle_single rfl) hinner.invert)

end

/-! ## Rows -/

/-- The result of a row is the truth value that its visits leave. -/
theorem Pushes.evaluateRow {p : Predicate} (hp : e.bound.statement.filter = some p)
    (h : Pushes e row asks p.trace P) :
    ∃ verdict : FullText.Match → Bool, (∀ found, verdict found = true ↔ P found) ∧
      e.evaluateRow row = (do
        let found ← if asks then e.fullTextMatch row else pure .miss
        pure (verdict found)) := by
  obtain ⟨value, hv, -, hrun⟩ := h
  refine ⟨value, hv, ?_⟩
  unfold Evaluator.evaluateRow
  rw [hp]
  simp only [hrun]
  cases asks <;> simp [remember]

/-- **The result of a row is what the WHERE tree reads as.** -/
theorem evaluateRow_eq {p : Predicate} (hp : e.bound.statement.filter = some p)
    (hc : p.IsCondition) (hb : TraceChecked e.bound.bindings p.trace) (hany : p.LiteralBeforeAny)
    (hpattern : ∀ text, e.pattern text = .ofText text) (row : Row) :
    ∃ verdict : FullText.Match → Bool,
      (∀ found, verdict found = true ↔ (e.reading row found).Satisfies p) ∧
      e.evaluateRow row = (do
        let found ← if p.asksSearch e.bound.resolution? then e.fullTextMatch row else pure .miss
        pure (verdict found)) :=
  Pushes.evaluateRow hp (trace_pushes hpattern hc hb hany)

/-- Where the search has an outcome, the row has a result. -/
theorem evaluateRow_of_fullTextMatch {found : FullText.Match}
    (hc : ∀ p ∈ e.bound.statement.filter, p.IsCondition)
    (hb : ∀ p ∈ e.bound.statement.filter, TraceChecked e.bound.bindings p.trace)
    (hany : ∀ p ∈ e.bound.statement.filter, p.LiteralBeforeAny)
    (hpattern : ∀ text, e.pattern text = .ofText text)
    (hsearch : e.fullTextMatch row = pure found) :
    ∃ answer, e.evaluateRow row = pure answer := by
  cases hp : e.bound.statement.filter with
  | none => exact ⟨true, by rw [evaluateRow, hp]⟩
  | some p =>
    obtain ⟨verdict, -, hrow⟩ := evaluateRow_eq hp (hc p hp) (hb p hp) (hany p hp) hpattern row
    rw [hsearch] at hrow
    refine ⟨verdict (if p.asksSearch e.bound.resolution? then found else .miss), ?_⟩
    rw [hrow]
    split <;> simp only [pure_bind]

/-! ## Rows of one relation -/

section
variable {r : Relation} {left right : Predicate}
  (hfilter : e.bound.statement.filter = some (.relation r left right))
  (hl : Idle e row left.trace) (hr : Idle e row right.trace)
include hfilter hl hr

/-- The result of a row under a WHERE clause of one relation is that of the relation. -/
theorem evaluateRow_computes {value : FullText.Match → Bool}
    (h : Computes e row asks (e.testRelation row r left right) value) :
    e.evaluateRow row = (do
      let found ← if asks then e.fullTextMatch row else pure .miss
      pure (value found)) := by
  have htest : Decides e row asks (e.testRelation row r left right) (value · = true) :=
    ⟨value, h, fun found => Iff.rfl⟩
  obtain ⟨verdict, hv, hrow⟩ :=
    Pushes.evaluateRow hfilter (.after_idle hl ((htest.pushes rfl).before_idle hr))
  obtain rfl : verdict = value := funext fun found => Bool.eq_iff_iff.2 (hv found)
  exact hrow

theorem evaluateRow_relation {answer : Bool} (h : e.testRelation row r left right = pure answer) :
    e.evaluateRow row = pure answer := by
  have hcomputes : Computes e row false (e.testRelation row r left right) fun _ => answer :=
    h ▸ .pure answer
  rw [evaluateRow_computes hfilter hl hr hcomputes, if_neg Bool.false_ne_true, pure_bind]

end

end ContentQuery.Evaluator
