import ContentQuery.Proofs.Evaluation.Rows
import ContentQuery.Proofs.Statement.Parsed

/-!
# The prepared patterns

Binding reads the pattern of a LIKE test as a literal, which ignores the white space around it;
preparing an evaluator unquotes the token as it stands. `prepares_iff_patterns_trimmed` says that
this is the only thing on which they can differ, and that the evaluators there are have prepared
every pattern that a row asks for.
-/

set_option autoImplicit false

namespace ContentQuery

open Binding

/-! ## Pattern literals -/

/-- A text stands in a statement as the pattern of a LIKE test. -/
def Statement.HasPattern (s : Statement) (raw : String) : Prop :=
  ∃ p ∈ s.filter, ∃ negated left, .relation (.like negated) left (.literal raw) ∈ p.nodes

namespace Evaluator

section
variable {s : Statement} {patterns : OrderedMap String Like.Pattern} {raw : String}

/-- Every pattern of a statement is prepared under its text. -/
theorem preparePatterns_eq_ok (h : preparePatterns s = .ok patterns) (hraw : s.HasPattern raw) :
    ∃ text, Literal.unquote? raw = .ok text ∧ patterns.get? text = some (.ofText text) := by
  obtain ⟨p, hp, hpattern⟩ := hraw
  unfold preparePatterns at h
  rw [hp] at h
  obtain ⟨texts, htexts, h⟩ := exists_of_bind_eq_ok h
  cases h
  obtain ⟨text, htext, hunquote⟩ := exists_mem_of_mapM htexts raw (mem_patternLiterals.2 hpattern)
  exact ⟨text, hunquote, by rw [OrderedMap.get?_ofList, if_pos htext]⟩

/-- Preparation fails at a pattern that cannot be unquoted. -/
theorem preparePatterns_eq_error {e : LiteralError} (h : preparePatterns s = .error e) :
    ∃ raw, s.HasPattern raw ∧ Literal.unquote? raw = .error e := by
  unfold preparePatterns at h
  cases hp : s.filter with
  | none =>
    rw [hp] at h
    cases h
  | some p =>
    rw [hp] at h
    cases htexts : (patternLiterals p).mapM Literal.unquote? with
    | ok texts =>
      dsimp only at h
      rw [htexts] at h
      cases h
    | error e' =>
      dsimp only at h
      rw [htexts] at h
      cases h
      obtain ⟨raw, hraw, hfault⟩ := exists_of_mapM_eq_error htexts
      exact ⟨raw, ⟨p, hp, mem_patternLiterals.1 hraw⟩, hfault⟩

end

/-! ## Patterns of bound statements -/

section
variable {catalog : Catalog} {s : Statement} {B : Bindings} {p : Predicate} {negated : Bool}
  {left right : Predicate}

/-- The patterns of a bound statement are string literals. -/
theorem exists_literal_of_like (h : Bound catalog s B) (hp : p ∈ s.filter)
    (hnode : .relation (.like negated) left right ∈ p.nodes) :
    ∃ raw text, right = .literal raw ∧ Literal.value? raw = .ok (.string text) := by
  obtain ⟨-, text, htext⟩ := (h.filter p hp).of_mem_nodes hnode
  cases right with
  | literal raw => exact ⟨raw, text, rfl, htext⟩
  | _ => cases htext

/-- What such a pattern is unquoted to depends on nothing but the white space around it. -/
theorem unquote?_of_hasPattern {raw : String} (h : Bound catalog s B) (hraw : s.HasPattern raw) :
    ∃ text, Literal.value? raw = .ok (.string text) ∧
      Literal.unquote? raw = if Text.trim raw.toList = raw.toList then .ok text
        else .error ⟨raw, .notQuoted⟩ := by
  obtain ⟨p, hp, negated, left, hnode⟩ := hraw
  obtain ⟨_, text, hright, hvalue⟩ := exists_literal_of_like h hp hnode
  cases hright
  exact ⟨text, hvalue, Literal.unquote?_eq hvalue⟩

/-- Patterns that have been parsed have no white space around them. -/
theorem trim_of_parse {text raw : String} (hparse : Statement.parse text = .ok s)
    (h : Bound catalog s B) (hraw : s.HasPattern raw) : Text.trim raw.toList = raw.toList := by
  obtain ⟨_, hvalue, -⟩ := unquote?_of_hasPattern h hraw
  obtain ⟨p, hp, negated, left, hnode⟩ := hraw
  have hc := (Statement.parse_issues hparse).1 p hp
  obtain ⟨hlike, -⟩ := hc.of_mem_nodes hnode nofun nofun
  cases hlike with
  | like _ _ htoken =>
    have hhead := (Literal.value?_eq_string hvalue).1
    rw [Literal.head?_trim_of_isToken htoken] at hhead
    exact Literal.trim_of_isToken htoken hhead

end

/-! ## Rows without a pattern to make -/

section
variable {m : Type → Type}

/-- The pattern that a node says has been prepared. -/
def Finds (e : Evaluator m) (node : Predicate) : Prop :=
  ∃ text pattern, node.literalValue? = .ok (.string text) ∧ e.patterns.get? text = some pattern

variable [Monad m]

/-- The result of a LIKE test with a prepared pattern; it fails where there is none. -/
def testLikePrepared (missing : QueryError) (e : Evaluator m) (row : Row) (negated : Bool)
    (left right : Predicate) : RowTest m Bool := do
  match ← literalOf right with
  | .string text =>
    match e.patterns.get? text with
    | none => throw missing
    | some pattern =>
      let v ← e.operandValue row left
      return (v.bind Value.text?).any fun s => pattern.accepts s != negated
  | other => throw (.execution (.likePatternKind other.kind))

/-- Runs one visit with no patterns but the prepared ones. -/
def testVisitPrepared (missing : QueryError) (e : Evaluator m) (row : Row) :
    Predicate.Visit → RowTest m Unit
  | .on (.relation (.like negated) left right) => do
    push (← e.testLikePrepared missing row negated left right)
  | visit => e.testVisit row visit

/-- Runs a trace in this way. -/
def testTracePrepared (missing : QueryError) (e : Evaluator m) (row : Row)
    (trace : List (Except LiteralError Predicate.Visit)) : RowTest m Unit :=
  trace.forM fun
    | .ok visit => e.testVisitPrepared missing row visit
    | .error fault => throw (.literal fault)

/-- The result of a row that has been tested: the last one on the stack. -/
def finalResult (progress : Progress) : ExceptT QueryError m Bool :=
  match progress.stack with
  | result :: _ => return result
  | [] => throw (.execution .noResult)

/-- Whether a row satisfies the WHERE tree, with no patterns but the prepared ones. -/
def evaluateRowPrepared (missing : QueryError) (e : Evaluator m) (row : Row) :
    ExceptT QueryError m Bool :=
  match e.bound.statement.filter with
  | none => return true
  | some p => do finalResult (← (e.testTracePrepared missing row p.trace).run ⟨[], none⟩).2

variable [LawfulMonad m] {e : Evaluator m} {missing : QueryError} {row : Row}

theorem testLikePrepared_eq {left right : Predicate} (negated : Bool) (h : e.Finds right) :
    e.testLikePrepared missing row negated left right =
      e.testRelation row (.like negated) left right := by
  obtain ⟨text, pattern, hvalue, hget⟩ := h
  have hliteral : (literalOf right : RowTest m Value) = pure (.string text) := by
    rw [literalOf, hvalue]
  have hpattern : e.pattern text = pattern := by
    rw [Evaluator.pattern, hget, Option.getD_some]
  rw [testRelation_like negated left hvalue, hpattern, testLikePrepared, hliteral, pure_bind]
  simp only [hget]

theorem testVisitPrepared_eq {visit : Predicate.Visit}
    (h : ∀ negated left right, visit = .on (.relation (.like negated) left right) →
      e.Finds right) :
    e.testVisitPrepared missing row visit = e.testVisit row visit := by
  unfold testVisitPrepared
  split
  · rename_i negated left right
    rw [testLikePrepared_eq negated (h negated left right rfl)]
    rfl
  · rfl

theorem testTracePrepared_eq {trace : List (Except LiteralError Predicate.Visit)}
    (h : ∀ negated left right, .ok (.on (.relation (.like negated) left right)) ∈ trace →
      e.Finds right) :
    e.testTracePrepared missing row trace = e.testTrace row trace := by
  induction trace with
  | nil => rfl
  | cons entry trace ih =>
    have htrace := ih fun negated left right hvisit =>
      h negated left right (List.mem_cons_of_mem _ hvisit)
    cases entry with
    | error fault =>
      show (do throw (.literal fault); e.testTracePrepared missing row trace : RowTest m Unit) =
        (do throw (.literal fault); e.testTrace row trace)
      rw [htrace]
    | ok visit =>
      have hvisit : e.testVisitPrepared missing row visit = e.testVisit row visit := by
        refine testVisitPrepared_eq fun negated left right hlike => ?_
        exact h negated left right (hlike ▸ List.mem_cons_self)
      show (do e.testVisitPrepared missing row visit; e.testTracePrepared missing row trace) =
        (do e.testVisit row visit; e.testTrace row trace)
      rw [hvisit, htrace]

/-- A row whose patterns have all been prepared is tested as always. -/
theorem evaluateRowPrepared_eq
    (h : ∀ p ∈ e.bound.statement.filter, ∀ negated left right,
      .ok (.on (.relation (.like negated) left right)) ∈ p.trace → e.Finds right) :
    e.evaluateRowPrepared missing row = e.evaluateRow row := by
  unfold evaluateRowPrepared evaluateRow
  cases hp : e.bound.statement.filter with
  | none => rfl
  | some p =>
    show (do finalResult (← (e.testTracePrepared missing row p.trace).run ⟨[], none⟩).2) =
      (do finalResult (← (e.testTrace row p.trace).run ⟨[], none⟩).2 : ExceptT QueryError m Bool)
    rw [testTracePrepared_eq (h p hp)]

end

/-! ## Preparation -/

section
variable {m : Type → Type} {bound : BoundStatement} {folders : FolderHierarchy}
  {index : Option (TextIndex m)} {caseSensitiveText : Bool}

theorem prepare_eq_ok {e : Evaluator m}
    (h : prepare bound folders index caseSensitiveText = .ok e) :
    preparePatterns bound.statement = .ok e.patterns ∧ e.bound = bound := by
  unfold prepare at h
  cases hpatterns : preparePatterns bound.statement with
  | error fault =>
    rw [hpatterns] at h
    cases h
  | ok patterns =>
    rw [hpatterns] at h
    cases h
    exact ⟨rfl, rfl⟩

theorem prepare_eq_error {err : QueryError}
    (h : prepare bound folders index caseSensitiveText = .error err) :
    ∃ fault, preparePatterns bound.statement = .error fault ∧ err = .literal fault := by
  unfold prepare at h
  cases hpatterns : preparePatterns bound.statement with
  | error fault =>
    rw [hpatterns] at h
    cases h
    exact ⟨fault, rfl, rfl⟩
  | ok patterns =>
    rw [hpatterns] at h
    cases h

variable {catalog : Catalog} {s : Statement} {B : Bindings}

/-- A pattern that has been prepared is found by the text that binding has read. -/
theorem get?_of_like {patterns : OrderedMap String Like.Pattern} (h : Bound catalog s B)
    (hpatterns : preparePatterns s = .ok patterns) {p : Predicate} (hp : p ∈ s.filter)
    {negated : Bool} {left right : Predicate}
    (hnode : .relation (.like negated) left right ∈ p.nodes) :
    ∃ text, right.literalValue? = .ok (.string text) ∧
      patterns.get? text = some (.ofText text) := by
  obtain ⟨raw, text, rfl, hvalue⟩ := exists_literal_of_like h hp hnode
  obtain ⟨text', hunquote, hget⟩ := preparePatterns_eq_ok hpatterns ⟨p, hp, negated, left, hnode⟩
  rw [Literal.unquote?_eq hvalue] at hunquote
  split at hunquote
  · cases hunquote
    exact ⟨text, hvalue, hget⟩
  · cases hunquote

/-- Preparing fails at nothing but the white space around a pattern. -/
theorem prepare_fails (h : Bound catalog bound.statement B) {err : QueryError}
    (herr : prepare bound folders index caseSensitiveText = .error err) :
    ∃ raw, bound.statement.HasPattern raw ∧ Text.trim raw.toList ≠ raw.toList ∧
      err = .literal ⟨raw, .notQuoted⟩ := by
  obtain ⟨fault, hfault, rfl⟩ := prepare_eq_error herr
  obtain ⟨raw, hraw, hunquote⟩ := preparePatterns_eq_error hfault
  obtain ⟨text, -, heq⟩ := unquote?_of_hasPattern h hraw
  rw [heq] at hunquote
  split at hunquote
  · cases hunquote
  · rename_i htrim
    cases hunquote
    exact ⟨raw, hraw, htrim, rfl⟩

theorem exists_prepare_iff (h : Bound catalog bound.statement B) :
    (∃ e, prepare bound folders index caseSensitiveText = .ok e) ↔
      ∀ raw, bound.statement.HasPattern raw → Text.trim raw.toList = raw.toList := by
  constructor
  · rintro ⟨e, he⟩ raw hraw
    obtain ⟨text, hunquote, -⟩ := preparePatterns_eq_ok (prepare_eq_ok he).1 hraw
    obtain ⟨text', -, heq⟩ := unquote?_of_hasPattern h hraw
    rw [heq] at hunquote
    split at hunquote
    · assumption
    · cases hunquote
  · intro htrim
    cases he : prepare bound folders index caseSensitiveText with
    | ok e => exact ⟨e, rfl⟩
    | error err =>
      obtain ⟨raw, hraw, hne, -⟩ := prepare_fails h he
      exact absurd (htrim raw hraw) hne

end

/-- **Preparing agrees with binding except for white space around patterns.** An evaluator of a
bound statement is prepared if and only if no pattern of a LIKE test has white space around its
quotes, as is so if the statement has been parsed; otherwise such a pattern is the error. In an
evaluator that is prepared every LIKE test finds the pattern of the text that binding has read, and
no row asks for another: to fail where one is not there makes no difference. -/
theorem prepares_iff_patterns_trimmed {m : Type → Type} [Monad m] [LawfulMonad m]
    {catalog : Catalog} {s : Statement} {bound : BoundStatement} (hids : (s.selectors.map Selector.id).Nodup)
    (hbind : s.bind catalog = .ok bound) (folders : FolderHierarchy)
    (index : Option (TextIndex m)) (caseSensitiveText : Bool) :
    ((∃ e, prepare bound folders index caseSensitiveText = .ok e) ↔
      ∀ raw, s.HasPattern raw → Text.trim raw.toList = raw.toList) ∧
    (∀ err, prepare bound folders index caseSensitiveText = .error err →
      ∃ raw, s.HasPattern raw ∧ Text.trim raw.toList ≠ raw.toList ∧
        err = .literal ⟨raw, .notQuoted⟩) ∧
    (∀ text, Statement.parse text = .ok s →
      ∃ e, prepare bound folders index caseSensitiveText = .ok e) ∧
    ∀ e, prepare bound folders index caseSensitiveText = .ok e →
      (∀ p ∈ s.filter, ∀ negated left right, .relation (.like negated) left right ∈ p.nodes →
        ∃ text, right.literalValue? = .ok (.string text) ∧
          e.patterns.get? text = some (.ofText text)) ∧
      ∀ missing row, e.evaluateRowPrepared missing row = e.evaluateRow row := by
  obtain ⟨rfl, h⟩ := bind_ok hids hbind
  have hprepares : (∃ e, prepare bound folders index caseSensitiveText = .ok e) ↔
      ∀ raw, bound.statement.HasPattern raw → Text.trim raw.toList = raw.toList :=
    exists_prepare_iff h
  refine ⟨hprepares, fun err => prepare_fails h, fun text hparse => ?_, fun e he => ?_⟩
  · exact hprepares.2 fun raw => trim_of_parse hparse h
  · obtain ⟨hpatterns, hbound⟩ := prepare_eq_ok he
    refine ⟨fun p hp negated left right => get?_of_like h hpatterns hp, fun missing row => ?_⟩
    refine evaluateRowPrepared_eq fun p hp negated left right hvisit => ?_
    rw [hbound] at hp
    have hnode : .relation (.like negated) left right ∈ p.nodes :=
      Predicate.nodes_subset_of_mem_trace hvisit List.mem_cons_self
    obtain ⟨text, hvalue, hget⟩ := get?_of_like h hpatterns hp hnode
    exact ⟨text, .ofText text, hvalue, hget⟩

/-- A statement made by hand, which selects the names that match a pattern. -/
def namesLike (raw : String) : Statement where
  text := ""
  select := [⟨.column ⟨0, none, "cmis:name"⟩, none⟩]
  sources := [⟨"cmis:document", none, none⟩]
  filter := some (.relation (.like false) (.column ⟨1, none, "cmis:name"⟩) (.literal raw))
  orderBy := []

theorem prepares_iff_patterns_trimmed_names :
    ((namesLike "'a%'").selectors.map Selector.id).Nodup ∧
    ∃ bound, (namesLike "'a%'").bind .base = .ok bound ∧
      ∃ e : Evaluator Id, prepare bound (Repository.empty false) none false = .ok e ∧
        e.patterns.get? "a%" = some (.ofText "a%") ∧
        ∀ missing row, e.evaluateRowPrepared missing row = e.evaluateRow row := by
  have hids : ((namesLike "'a%'").selectors.map Selector.id).Nodup := by decide
  obtain ⟨bound, hbind, -⟩ := exists_of_any_toOption (p := fun _ => true)
    (x := (namesLike "'a%'").bind .base) (by decide)
  obtain ⟨hprepares, -, -, hfinds⟩ :=
    prepares_iff_patterns_trimmed (m := Id) hids hbind (Repository.empty false) none false
  have htrim : ∀ raw, (namesLike "'a%'").HasPattern raw → Text.trim raw.toList = raw.toList := by
    rintro raw ⟨p, hp, negated, left, hnode⟩
    cases hp
    simp [Predicate.nodes] at hnode
    obtain ⟨-, -, rfl⟩ := hnode
    rfl
  obtain ⟨e, he⟩ := hprepares.2 htrim
  obtain ⟨hlike, hrows⟩ := hfinds e he
  obtain ⟨text, htext, hget⟩ := hlike _ rfl _ _ _ List.mem_cons_self
  obtain rfl : "a%" = text := by
    have hvalue : Literal.value? "'a%'" = .ok (.string "a%") := rfl
    exact Value.string.inj (Except.ok.inj (hvalue.symm.trans htext))
  exact ⟨hids, bound, hbind, e, he, hget, hrows⟩

/-- White space in front of a pattern does not keep a statement from being bound, but no evaluator
is prepared for it. -/
theorem padded_pattern_unprepared :
    ((namesLike " 'a%'").selectors.map Selector.id).Nodup ∧
    Literal.value? " 'a%'" = .ok (.string "a%") ∧
    ∃ bound, (namesLike " 'a%'").bind .base = .ok bound ∧
      prepare (m := Id) bound (Repository.empty false) none false =
        .error (.literal ⟨" 'a%'", .notQuoted⟩) := by
  have hids : ((namesLike " 'a%'").selectors.map Selector.id).Nodup := by decide
  obtain ⟨bound, hbind, -⟩ := exists_of_any_toOption (p := fun _ => true)
    (x := (namesLike " 'a%'").bind .base) (by decide)
  have hpatterns : preparePatterns (namesLike " 'a%'") = .error ⟨" 'a%'", .notQuoted⟩ := rfl
  refine ⟨hids, rfl, bound, hbind, ?_⟩
  rw [prepare, (bind_ok hids hbind).1, hpatterns]

end Evaluator

end ContentQuery
