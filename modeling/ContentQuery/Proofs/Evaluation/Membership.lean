import ContentQuery.Proofs.Evaluation.Comparisons
import Mathlib.Data.Set.List

/-!
# Membership

A `ColumnTest` is a test of one column with literals: a comparison, `IN`, `= ANY` or `ANY … IN`.
What it answers in a row depends on the values that are stored under the property of the column
(`ColumnTest.answer`) and not on the statement that it is made in (`Row.Answers`), so that the tests
of different statements can be put side by side.

`IN` is repeated equality, for one value and for lists of values
(`membership_is_repeated_equality`). `NOT IN` is repeated inequality only for values of the class of
all literals: a value that cannot be compared with a literal differs from it for `NOT IN`, and not
for `<>` (`not_in_within_class`).
-/

set_option autoImplicit false

namespace ContentQuery

open Binding

/-! ## Tests of a column -/

/-- A test of a column with literals, as they are written. -/
inductive ColumnTest
  | compare (op : Comparison) (raw : String)
  | isIn (negated : Bool) (items : List String)
  | equalsAny (raw : String)
  | anyIn (negated : Bool) (items : List String)

namespace ColumnTest

/-- The test as a node of a WHERE tree. -/
def tree (c : ColumnRef) : ColumnTest → Predicate
  | compare op raw => .relation (.compare op) (.column c) (.literal raw)
  | isIn negated items => .relation (.isIn negated) (.column c) (.literalList (items.map .literal))
  | equalsAny raw => .relation .equalsAny (.literal raw) (.column c)
  | anyIn negated items =>
    .relation (.anyIn negated) (.column c) (.literalList (items.map .literal))

def literals : ColumnTest → List String
  | compare _ raw => [raw]
  | isIn _ items => items
  | equalsAny raw => [raw]
  | anyIn _ items => items

/-- All literals of the test have a value. -/
def Decodes (t : ColumnTest) : Prop := ∀ raw ∈ t.literals, ∃ v, Literal.value? raw = .ok v

/-- The values of those literals that have one. -/
def decoded (items : List String) : List Value :=
  items.filterMap fun raw => (Literal.value? raw).toOption

/-- The answer of the test for what is stored under the property of its column. -/
def answer (stored : Option PropertyValue) : ColumnTest → Bool
  | compare op raw =>
    Evaluator.compareOperands op (stored.bind PropertyValue.single?) (Literal.value? raw).toOption
  | isIn negated items => (stored.bind PropertyValue.single?).any
      fun v => Evaluator.isAmong v (decoded items) != negated
  | equalsAny raw => (Literal.value? raw).toOption.any
      fun w => stored.any fun s => s.values.any fun v => v.equal w
  | anyIn negated items => stored.any
      fun s => s.values.any fun v => Evaluator.isAmong v (decoded items) != negated

end ColumnTest

namespace Row

variable (row : Row) (aliasName : String) (p : PropertyDefinition)

/-- What the object under an alias has under a property. -/
def stored? : Option PropertyValue := (row.get? aliasName).bind (·.property? p.id)

/-- The object under an alias has these values under a property, as one value or as a list. -/
def Stores (values : List Value) : Prop :=
  ∃ stored, row.stored? aliasName p = some stored ∧ stored.values = values

/-- A test of the columns that stand for the property in the object under the alias has this answer
in all statements: it is what the test pushes in a WHERE tree, and the result of the row if the test
is the whole tree. -/
def Answers (t : ColumnTest) (answer : Bool) : Prop :=
  ∀ {m : Type → Type} [Monad m] [LawfulMonad m] (e : Evaluator m) (c : ColumnRef),
    e.bound.property? c.id = some (aliasName, p) →
    e.testVisit row (.on (t.tree c)) = Evaluator.push answer ∧
    (e.bound.statement.filter = some (t.tree c) → e.evaluateRow row = pure answer)

end Row

/-! ## Answers -/

theorem ColumnTest.literalValues?_eq {items : List String}
    (h : ∀ raw ∈ items, ∃ v, Literal.value? raw = .ok v) :
    (Predicate.literalList (items.map .literal)).literalValues? = .ok (decoded items) := by
  show (items.map Predicate.literal).mapM Predicate.literalValue? = .ok (decoded items)
  induction items with
  | nil => rfl
  | cons raw items ih =>
    obtain ⟨v, hv⟩ := h raw List.mem_cons_self
    have hrest := ih fun raw hraw => h raw (List.mem_cons_of_mem _ hraw)
    have hdecoded : decoded (raw :: items) = v :: decoded items :=
      List.filterMap_cons_some (toOption_eq_some_iff.2 hv)
    rw [List.map_cons, List.mapM_cons, Predicate.literalValue?, hv, hrest, hdecoded]
    rfl

namespace Evaluator

variable {m : Type → Type} {e : Evaluator m} {row : Row} {c : ColumnRef} {aliasName : String}
  {p : PropertyDefinition}

theorem stored?_column (hp : e.bound.property? c.id = some (aliasName, p)) :
    e.stored? row (.column c) = row.stored? aliasName p := by
  simp [stored?, storedProperty?, Predicate.column?, Row.stored?, hp]

theorem any_storedValues (hp : e.bound.property? c.id = some (aliasName, p))
    (test : Value → Bool) :
    (e.storedValues row (.column c)).any test =
      (row.stored? aliasName p).any fun s => s.values.any test := by
  rw [storedValues, stored?_column hp]
  cases row.stored? aliasName p <;> rfl

variable [Monad m] [LawfulMonad m]

/-- A relation between operands that do nothing is answered by its test. -/
theorem answers_relation {r : Relation} {left right : Predicate} {answer : Bool}
    (hl : Idle e row left.trace) (hr : Idle e row right.trace)
    (h : e.testRelation row r left right = pure answer) :
    e.testVisit row (.on (.relation r left right)) = push answer ∧
    (e.bound.statement.filter = some (.relation r left right) →
      e.evaluateRow row = pure answer) := by
  refine ⟨?_, fun hfilter => evaluateRow_relation hfilter hl hr h⟩
  rw [testVisit, h, pure_bind]

end Evaluator

/-- **The answer of a test is computed from what is stored.** -/
theorem Row.answers (row : Row) (aliasName : String) (p : PropertyDefinition) {t : ColumnTest}
    (ht : t.Decodes) : row.Answers aliasName p t (t.answer (row.stored? aliasName p)) := by
  intro m _ _ e c hp
  obtain ⟨typeId, hr⟩ := BoundStatement.property?_eq_some_iff.1 hp
  have hnames : Names e.bound.bindings (.column c) p := ⟨c, aliasName, typeId, rfl, hr⟩
  have hcolumn : Evaluator.Idle e row (Predicate.column c).trace := Evaluator.idle_single rfl
  cases t with
  | compare op raw =>
    obtain ⟨w, hw⟩ := ht raw (.head _)
    have hliteral : (Predicate.literal raw).literalValue? = .ok w := hw
    refine Evaluator.answers_relation hcolumn (Evaluator.idle_of_literalValue? hliteral) ?_
    rw [Evaluator.testRelation_compare_literal op hnames hliteral ⟨raw, rfl⟩,
      Evaluator.stored?_column hp, ColumnTest.answer, toOption_eq_some_iff.2 hw]
  | isIn negated items =>
    have hws : (Predicate.literalList (items.map .literal)).literalValues? = .ok _ :=
      ColumnTest.literalValues?_eq ht
    refine Evaluator.answers_relation hcolumn (Evaluator.idle_of_literalValues? hws) ?_
    rw [Evaluator.testRelation_isIn, Evaluator.literalsOf_eq hws, Evaluator.operandValue_eq hnames,
      Evaluator.stored?_column hp, pure_bind, pure_bind]
    rfl
  | equalsAny raw =>
    obtain ⟨w, hw⟩ := ht raw (.head _)
    have hliteral : (Predicate.literal raw).literalValue? = .ok w := hw
    refine Evaluator.answers_relation (Evaluator.idle_of_literalValue? hliteral) hcolumn ?_
    simp only [Evaluator.testRelation, Evaluator.literalOf_eq hliteral, pure_bind,
      Evaluator.any_storedValues hp, ColumnTest.answer, toOption_eq_some_iff.2 hw,
      Option.any_some]
  | anyIn negated items =>
    have hws : (Predicate.literalList (items.map .literal)).literalValues? = .ok _ :=
      ColumnTest.literalValues?_eq ht
    refine Evaluator.answers_relation hcolumn (Evaluator.idle_of_literalValues? hws) ?_
    simp only [Evaluator.testRelation, Evaluator.literalsOf_eq hws, pure_bind,
      Evaluator.any_storedValues hp]
    rfl

/-! ## Laws -/

namespace Value

theorem equal_eq_true_iff {v w : Value} : v.equal w = true ↔ v.compare? w = some .eq := beq_iff_eq

/-- The value equals that of a literal. -/
def EqualsLiteral (v : Value) (raw : String) : Prop :=
  ∃ w, Literal.value? raw = .ok w ∧ v.compare? w = some .eq

/-- The value is of a class with that of a literal. -/
def ComparesWithLiteral (v : Value) (raw : String) : Prop :=
  ∃ w, Literal.value? raw = .ok w ∧ v.kind.orderClass = w.kind.orderClass

end Value

section
variable {row : Row} {aliasName : String} {p : PropertyDefinition} {raw : String}
  {items : List String}

theorem Row.single?_stored?_eq_some_iff {v : Value} :
    (row.stored? aliasName p).bind PropertyValue.single? = some v ↔
      row.Stores aliasName p [v] := by
  simp only [Option.bind_eq_some_iff, PropertyValue.single?_eq_some_iff, Stores]

/-- What is stored is one list of values at most. -/
theorem Row.Stores.unique {vs ws : List Value} (h : row.Stores aliasName p vs)
    (h' : row.Stores aliasName p ws) : vs = ws := by
  obtain ⟨s, hs, rfl⟩ := h
  obtain ⟨_, hs', rfl⟩ := h'
  cases hs.symm.trans hs'
  rfl

theorem Row.any_stored?_iff {P : Value → Prop} {test : Value → Bool}
    (h : ∀ v, test v = true ↔ P v) :
    ((row.stored? aliasName p).any fun s => s.values.any test) = true ↔
      ∃ vs, row.Stores aliasName p vs ∧ ∃ v ∈ vs, P v := by
  simp only [Option.any_eq_true, List.any_eq_true, h]
  constructor
  · rintro ⟨s, hs, hv⟩
    exact ⟨_, ⟨s, hs, rfl⟩, hv⟩
  · rintro ⟨_, ⟨s, hs, rfl⟩, hv⟩
    exact ⟨s, hs, hv⟩

namespace ColumnTest

theorem isAmong_decoded_iff {v : Value} :
    Evaluator.isAmong v (decoded items) = true ↔ ∃ raw ∈ items, v.EqualsLiteral raw := by
  rw [Evaluator.isAmong_eq_true]
  simp only [Reading.Among, decoded, List.mem_filterMap, toOption_eq_some_iff]
  constructor
  · rintro ⟨w, ⟨raw, hraw, hw⟩, h⟩
    exact ⟨raw, hraw, w, hw, h⟩
  · rintro ⟨raw, hraw, w, hw, h⟩
    exact ⟨w, ⟨raw, hraw, hw⟩, h⟩

theorem answer_equals_iff : (compare .eq raw).answer (row.stored? aliasName p) = true ↔
    ∃ v, row.Stores aliasName p [v] ∧ v.EqualsLiteral raw := by
  simp only [answer, Evaluator.compareOperands_eq_true, Row.single?_stored?_eq_some_iff,
    toOption_eq_some_iff]
  constructor
  · rintro ⟨v, w, o, hv, hw, hcompare, haccepts, -⟩
    obtain rfl : o = .eq := Comparison.accepts_eq_iff.1 haccepts
    exact ⟨v, hv, w, hw, hcompare⟩
  · rintro ⟨v, hv, w, hw, hcompare⟩
    exact ⟨v, w, .eq, hv, hw, hcompare, rfl, fun h => absurd h Bool.false_ne_true⟩

/-- To differ from a literal, a value must be of its class. -/
theorem answer_differs_iff : (compare .neq raw).answer (row.stored? aliasName p) = true ↔
    ∃ v, row.Stores aliasName p [v] ∧ v.ComparesWithLiteral raw ∧ ¬v.EqualsLiteral raw := by
  simp only [answer, Evaluator.compareOperands_eq_true, Row.single?_stored?_eq_some_iff,
    toOption_eq_some_iff]
  constructor
  · rintro ⟨v, w, o, hv, hw, hcompare, haccepts, -⟩
    refine ⟨v, hv, ⟨w, hw, Value.exists_compare?_iff.1 ⟨o, hcompare⟩⟩, ?_⟩
    rintro ⟨w', hw', hequal⟩
    cases hw.symm.trans hw'
    cases hcompare.symm.trans hequal
    cases haccepts
  · rintro ⟨v, hv, ⟨w, hw, hclass⟩, hne⟩
    obtain ⟨o, ho⟩ := Value.exists_compare?_iff.2 hclass
    have hdiffers : o ≠ .eq := fun heq => hne ⟨w, hw, by rw [ho, heq]⟩
    exact ⟨v, w, o, hv, hw, ho, Comparison.accepts_neq_iff.2 hdiffers,
      fun h => absurd h Bool.false_ne_true⟩

theorem answer_equalsAny_iff : (equalsAny raw).answer (row.stored? aliasName p) = true ↔
    ∃ vs, row.Stores aliasName p vs ∧ ∃ v ∈ vs, v.EqualsLiteral raw := by
  rw [answer, Option.any_eq_true]
  simp only [toOption_eq_some_iff, Row.any_stored?_iff fun _ => Value.equal_eq_true_iff]
  constructor
  · rintro ⟨w, hw, vs, hvs, v, hv, h⟩
    exact ⟨vs, hvs, v, hv, w, hw, h⟩
  · rintro ⟨vs, hvs, v, hv, w, hw, h⟩
    exact ⟨w, hw, vs, hvs, v, hv, h⟩

theorem answer_isIn_iff (negated : Bool) :
    (isIn negated items).answer (row.stored? aliasName p) = true ↔
      ∃ v, row.Stores aliasName p [v] ∧
        ((∃ raw ∈ items, v.EqualsLiteral raw) ↔ negated = false) := by
  rw [answer, Option.any_eq_true]
  simp only [Row.single?_stored?_eq_some_iff, Evaluator.bne_eq_true_iff isAmong_decoded_iff]

theorem answer_anyIn_iff (negated : Bool) :
    (anyIn negated items).answer (row.stored? aliasName p) = true ↔
      ∃ vs, row.Stores aliasName p vs ∧
        ∃ v ∈ vs, (∃ raw ∈ items, v.EqualsLiteral raw) ↔ negated = false := by
  rw [answer, Row.any_stored?_iff fun _ => Evaluator.bne_eq_true_iff isAmong_decoded_iff]

/-- `IN` is repeated equality. -/
theorem answer_isIn_iff_exists_equals :
    (isIn false items).answer (row.stored? aliasName p) = true ↔
      ∃ raw ∈ items, (compare .eq raw).answer (row.stored? aliasName p) = true := by
  simp only [answer_isIn_iff, answer_equals_iff, iff_true]
  constructor
  · rintro ⟨v, hv, raw, hraw, h⟩
    exact ⟨raw, hraw, v, hv, h⟩
  · rintro ⟨raw, hraw, v, hv, h⟩
    exact ⟨v, hv, raw, hraw, h⟩

/-- `ANY … IN` is repeated `= ANY`. -/
theorem answer_anyIn_iff_exists_equalsAny :
    (anyIn false items).answer (row.stored? aliasName p) = true ↔
      ∃ raw ∈ items, (equalsAny raw).answer (row.stored? aliasName p) = true := by
  simp only [answer_anyIn_iff, answer_equalsAny_iff, iff_true]
  constructor
  · rintro ⟨vs, hvs, v, hv, raw, hraw, h⟩
    exact ⟨raw, hraw, vs, hvs, v, hv, h⟩
  · rintro ⟨raw, hraw, vs, hvs, v, hv, h⟩
    exact ⟨vs, hvs, v, hv, raw, hraw, h⟩

theorem answer_notIn_iff : (isIn true items).answer (row.stored? aliasName p) = true ↔
    ∃ v, row.Stores aliasName p [v] ∧ ∀ raw ∈ items, ¬v.EqualsLiteral raw := by
  simp only [answer_isIn_iff, Bool.true_eq_false, iff_false, not_exists, not_and]

/-- `NOT IN` is repeated inequality, for a value of the class of all literals. -/
theorem forall_differs_iff (hne : items ≠ []) :
    (∀ raw ∈ items, (compare .neq raw).answer (row.stored? aliasName p) = true) ↔
      (isIn true items).answer (row.stored? aliasName p) = true ∧
      ∀ v, row.Stores aliasName p [v] → ∀ raw ∈ items, v.ComparesWithLiteral raw := by
  simp only [answer_differs_iff, answer_notIn_iff]
  constructor
  · intro h
    have hvalue (v : Value) (hv : row.Stores aliasName p [v]) (raw : String) (hraw : raw ∈ items) :
        v.ComparesWithLiteral raw ∧ ¬v.EqualsLiteral raw := by
      obtain ⟨w, hw, hdiffers⟩ := h raw hraw
      cases hv.unique hw
      exact hdiffers
    obtain ⟨raw, hraw⟩ := List.exists_mem_of_ne_nil items hne
    obtain ⟨v, hv, -⟩ := h raw hraw
    exact ⟨⟨v, hv, fun raw hraw => (hvalue v hv raw hraw).2⟩,
      fun v hv raw hraw => (hvalue v hv raw hraw).1⟩
  · rintro ⟨⟨v, hv, hne⟩, hcompares⟩ raw hraw
    exact ⟨v, hv, hcompares v hv raw hraw, hne raw hraw⟩

end ColumnTest

end

/-! ## Statements -/

/-- A node of a bound statement is a test of a column that stands for a property, with literals that
all have a value. -/
def BoundStatement.Makes (bound : BoundStatement) (node : Predicate) (t : ColumnTest) : Prop :=
  ∃ c aliasName p, node = t.tree c ∧ t.Decodes ∧ bound.property? c.id = some (aliasName, p)

/-- The items of a list that has been bound are literals with a value. -/
theorem exists_literals {B : Bindings} {items : List Predicate}
    (h : TraceChecked B (Predicate.literalList items).trace) :
    ∃ raws : List String, items = raws.map .literal ∧
      ∀ raw ∈ raws, ∃ v, Literal.value? raw = .ok v := by
  obtain ⟨vs, hvs⟩ := h.literalValues?
  obtain ⟨raws, rfl⟩ : items ∈ Set.range (List.map Predicate.literal) := by
    rw [Set.range_list_map]
    intro i hi
    obtain ⟨raw, rfl⟩ := isLiteral_of_mapM hvs i hi
    exact ⟨raw, rfl⟩
  exact ⟨raws, rfl, fun raw hraw => mapM_eq_ok hvs _ (List.mem_map_of_mem hraw)⟩

/-- Every statement that has been parsed and bound has an evaluator. -/
theorem exists_prepare {m : Type → Type} {text : String} {catalog : Catalog} {s : Statement}
    {bound : BoundStatement} (hparse : Statement.parse text = .ok s)
    (hbind : s.bind catalog = .ok bound) (folders : FolderHierarchy)
    (index : Option (TextIndex m)) (caseSensitiveText : Bool) :
    ∃ e, Evaluator.prepare bound folders index caseSensitiveText = .ok e ∧ e.bound = bound := by
  obtain ⟨hcond, -⟩ := Statement.parse_ok hparse
  obtain ⟨rfl, hbound⟩ := bind_ok (Statement.selectors_ids_nodup hparse) hbind
  obtain ⟨e, he, hstatement, -⟩ :=
    Evaluator.prepare_ok hcond hbound.filter folders index caseSensitiveText
  exact ⟨e, he, hstatement⟩

/-- A membership test of a statement is about a column that stands for a property and at least one
literal. -/
theorem exists_items {text : String} {catalog : Catalog} {s : Statement} {bound : BoundStatement}
    {q left right : Predicate} {r : Relation} {negated : Bool}
    (hparse : Statement.parse text = .ok s) (hbind : s.bind catalog = .ok bound)
    (hq : q ∈ s.filter) (hnode : .relation r left right ∈ q.nodes)
    (hr : r = .isIn negated ∨ r = .anyIn negated) :
    ∃ c aliasName p, ∃ items : List String,
      left = .column c ∧ right = .literalList (items.map .literal) ∧ items ≠ [] ∧
      (∀ raw ∈ items, ∃ v, Literal.value? raw = .ok v) ∧
      bound.property? c.id = some (aliasName, p) := by
  obtain ⟨hcond, -⟩ := Statement.parse_ok hparse
  obtain ⟨rfl, hbound⟩ := bind_ok (Statement.selectors_ids_nodup hparse) hbind
  obtain ⟨-, hchecked, hlist⟩ := (hbound.filter q hq).relation_of_mem hnode
  obtain ⟨p, c, aliasName, typeId, rfl, hresolved⟩ : ∃ p, Names bound.bindings left p := by
    rcases hr with rfl | rfl <;> exact ⟨hchecked.choose, hchecked.choose_spec.1⟩
  obtain ⟨items, rfl, hne⟩ : ∃ items, right = .literalList items ∧ items ≠ [] := by
    have hnot : ¬(Predicate.relation r (.column c) right).IsOperand := nofun
    obtain ⟨hin, -⟩ := (hcond q hq).of_mem_nodes hnode hnot nofun
    rcases hr with rfl | rfl
    · cases hin with
      | isIn _ _ hne _ => exact ⟨_, rfl, hne⟩
    · cases hin with
      | anyIn _ _ hne _ => exact ⟨_, rfl, hne⟩
  obtain ⟨raws, rfl, hdecode⟩ := exists_literals hlist
  exact ⟨c, aliasName, p, raws, rfl, rfl, fun h => hne (h ▸ rfl), hdecode,
    BoundStatement.property?_eq_some_iff.2 ⟨typeId, hresolved⟩⟩

/-- **Membership is repeated equality.** In every row, what a column is tested for depends on the
values that are stored under its property, and `IN` holds of a column if and only if one of the
comparisons with its literals does; `ANY … IN` holds if and only if one of the literals is equal to
`ANY` of the column. Every membership test of a statement that has been bound is such a test. -/
theorem membership_is_repeated_equality (row : Row) (aliasName : String)
    (p : PropertyDefinition) :
    (∃ answer : ColumnTest → Bool,
      (∀ t, t.Decodes → row.Answers aliasName p t (answer t)) ∧
      (∀ raw, answer (.compare .eq raw) = true ↔
        ∃ v, row.Stores aliasName p [v] ∧ v.EqualsLiteral raw) ∧
      (∀ raw, answer (.equalsAny raw) = true ↔
        ∃ vs, row.Stores aliasName p vs ∧ ∃ v ∈ vs, v.EqualsLiteral raw) ∧
      (∀ items, answer (.isIn false items) = true ↔
        ∃ raw ∈ items, answer (.compare .eq raw) = true) ∧
      ∀ items, answer (.anyIn false items) = true ↔
        ∃ raw ∈ items, answer (.equalsAny raw) = true) ∧
    ∀ {m : Type → Type} [Monad m] [LawfulMonad m] {text : String} {catalog : Catalog}
      {s : Statement} {bound : BoundStatement}, Statement.parse text = .ok s →
      s.bind catalog = .ok bound →
      ∀ (folders : FolderHierarchy) (index : Option (TextIndex m)) (caseSensitiveText : Bool),
      (∃ e, Evaluator.prepare bound folders index caseSensitiveText = .ok e ∧ e.bound = bound) ∧
      ∀ q ∈ s.filter, ∀ left right,
        (.relation (.isIn false) left right ∈ q.nodes → ∃ items, items ≠ [] ∧
          bound.Makes (.relation (.isIn false) left right) (.isIn false items)) ∧
        (.relation (.anyIn false) left right ∈ q.nodes → ∃ items, items ≠ [] ∧
          bound.Makes (.relation (.anyIn false) left right) (.anyIn false items)) := by
  refine ⟨⟨(·.answer (row.stored? aliasName p)), fun t ht => row.answers aliasName p ht,
    fun raw => ColumnTest.answer_equals_iff, fun raw => ColumnTest.answer_equalsAny_iff,
    fun items => ColumnTest.answer_isIn_iff_exists_equals,
    fun items => ColumnTest.answer_anyIn_iff_exists_equalsAny⟩, ?_⟩
  intro m _ _ text catalog s bound hparse hbind folders index caseSensitiveText
  refine ⟨exists_prepare hparse hbind folders index caseSensitiveText,
    fun q hq left right => ⟨fun hnode => ?_, fun hnode => ?_⟩⟩
  · obtain ⟨c, aliasName, p, items, rfl, rfl, hne, hdecode, hp⟩ :=
      exists_items hparse hbind hq hnode (.inl rfl)
    exact ⟨items, hne, c, aliasName, p, rfl, hdecode, hp⟩
  · obtain ⟨c, aliasName, p, items, rfl, rfl, hne, hdecode, hp⟩ :=
      exists_items hparse hbind hq hnode (.inr rfl)
    exact ⟨items, hne, c, aliasName, p, rfl, hdecode, hp⟩

/-- Whether a sample query has a membership test with two literals as its only test. -/
def hasMembers (s : Statement) (bound : BoundStatement) (negated : Bool) (raw raw' : String) :
    Bool :=
  match s.filter with
  | some (.relation r (.column c) (.literalList [.literal a, .literal b])) =>
    r == .isIn negated && a == raw && b == raw' && (bound.property? c.id).any
      fun (aliasName, p) => aliasName == "cmis:document" && p.id == "cmis:contentStreamLength"
  | _ => false

theorem exists_of_hasMembers {s : Statement} {bound : BoundStatement} {negated : Bool}
    {raw raw' : String} (h : hasMembers s bound negated raw raw' = true) :
    ∃ c p, s.filter = some ((ColumnTest.isIn negated [raw, raw']).tree c) ∧
      bound.property? c.id = some ("cmis:document", p) ∧
      sampleRow.Stores "cmis:document" p [.integer 7] := by
  unfold hasMembers at h
  split at h
  · rename_i r c a b hfilter
    simp only [Bool.and_eq_true, beq_iff_eq, Option.any_eq_true] at h
    obtain ⟨⟨⟨rfl, rfl⟩, rfl⟩, ⟨_, p⟩, hp, rfl, hid⟩ := h
    refine ⟨c, p, hfilter, hp, .single (.integer 7), ?_, rfl⟩
    rw [Row.stored?, hid]
    rfl
  · cases h

/-- A length among a text and a decimal. -/
theorem membership_is_repeated_equality_length : ∃ s bound,
    Statement.parse
      "SELECT * FROM cmis:document WHERE cmis:contentStreamLength IN ('7', 7.0)" = .ok s ∧
    s.bind .base = .ok bound ∧ ∃ e : Evaluator Id,
      Evaluator.prepare bound ⟨fun _ => none, fun _ => []⟩ none false = .ok e ∧
      e.evaluateRow sampleRow = pure true := by
  refine exists_bound (fun s bound => hasMembers s bound false "'7'" "7.0")
    (by rw [Statement.parse_ofList]; decide +kernel) ?_
  intro s bound hs hbound hcheck
  obtain ⟨c, p, hfilter, hp, hstores⟩ := exists_of_hasMembers hcheck
  obtain ⟨⟨answer, htests, hequals, -, hisIn, -⟩, hmade⟩ :=
    membership_is_repeated_equality sampleRow "cmis:document" p
  obtain ⟨⟨e, he, rfl⟩, -⟩ := hmade (m := Id) hs hbound ⟨fun _ => none, fun _ => []⟩ none false
  have htext : Literal.value? "'7'" = .ok (.string "7") := rfl
  have hnumber : Literal.value? "7.0" = .ok (.decimal ⟨false, 70, 1, by decide, by decide⟩) := rfl
  have hdecodes : (ColumnTest.isIn false ["'7'", "7.0"]).Decodes :=
    List.forall_mem_cons.2 ⟨⟨_, htext⟩, List.forall_mem_singleton.2 ⟨_, hnumber⟩⟩
  have hanswer : answer (.isIn false ["'7'", "7.0"]) = true := by
    refine (hisIn _).2 ⟨"7.0", by decide, (hequals _).2 ⟨_, hstores, _, hnumber, ?_⟩⟩
    rfl
  obtain ⟨-, hrow⟩ := htests _ hdecodes e c hp
  refine ⟨e, he, ?_⟩
  rw [hrow ((bind_ok (Statement.selectors_ids_nodup hs) hbound).1 ▸ hfilter), hanswer]

/-- **`NOT IN` is repeated inequality within a class.** `NOT IN` holds of a column if and only if
the column has one value, and this equals none of the literals. For `<>` the value must be of the
class of the literal besides, so that all inequalities hold if and only if `NOT IN` does and the
value is of the class of every literal: one that cannot be compared with the literals is not in the
list, and does not differ from them. -/
theorem not_in_within_class (row : Row) (aliasName : String) (p : PropertyDefinition) :
    (∃ answer : ColumnTest → Bool,
      (∀ t, t.Decodes → row.Answers aliasName p t (answer t)) ∧
      (∀ raw, answer (.compare .neq raw) = true ↔
        ∃ v, row.Stores aliasName p [v] ∧ v.ComparesWithLiteral raw ∧ ¬v.EqualsLiteral raw) ∧
      (∀ items, answer (.isIn true items) = true ↔
        ∃ v, row.Stores aliasName p [v] ∧ ∀ raw ∈ items, ¬v.EqualsLiteral raw) ∧
      ∀ items, items ≠ [] → ((∀ raw ∈ items, answer (.compare .neq raw) = true) ↔
        answer (.isIn true items) = true ∧
        ∀ v, row.Stores aliasName p [v] → ∀ raw ∈ items, v.ComparesWithLiteral raw)) ∧
    ∀ {m : Type → Type} [Monad m] [LawfulMonad m] {text : String} {catalog : Catalog}
      {s : Statement} {bound : BoundStatement}, Statement.parse text = .ok s →
      s.bind catalog = .ok bound →
      ∀ (folders : FolderHierarchy) (index : Option (TextIndex m)) (caseSensitiveText : Bool),
      (∃ e, Evaluator.prepare bound folders index caseSensitiveText = .ok e ∧ e.bound = bound) ∧
      ∀ q ∈ s.filter, ∀ left right, .relation (.isIn true) left right ∈ q.nodes →
        ∃ items, items ≠ [] ∧
          bound.Makes (.relation (.isIn true) left right) (.isIn true items) := by
  refine ⟨⟨(·.answer (row.stored? aliasName p)), fun t ht => row.answers aliasName p ht,
    fun raw => ColumnTest.answer_differs_iff, fun items => ColumnTest.answer_notIn_iff,
    fun items => ColumnTest.forall_differs_iff⟩, ?_⟩
  intro m _ _ text catalog s bound hparse hbind folders index caseSensitiveText
  refine ⟨exists_prepare hparse hbind folders index caseSensitiveText,
    fun q hq left right hnode => ?_⟩
  obtain ⟨c, aliasName, p, items, rfl, rfl, hne, hdecode, hp⟩ :=
    exists_items hparse hbind hq hnode (.inl rfl)
  exact ⟨items, hne, c, aliasName, p, rfl, hdecode, hp⟩

/-- A length that is neither of two numbers. -/
theorem not_in_within_class_length : ∃ s bound,
    Statement.parse
      "SELECT * FROM cmis:document WHERE cmis:contentStreamLength NOT IN (5, 6.5)" = .ok s ∧
    s.bind .base = .ok bound ∧ ∃ e : Evaluator Id,
      Evaluator.prepare bound ⟨fun _ => none, fun _ => []⟩ none false = .ok e ∧
      e.evaluateRow sampleRow = pure true ∧ ∃ p, ∃ answer : ColumnTest → Bool,
        sampleRow.Answers "cmis:document" p (.compare .neq "6.5") (answer (.compare .neq "6.5")) ∧
        answer (.compare .neq "6.5") = true := by
  refine exists_bound (fun s bound => hasMembers s bound true "5" "6.5")
    (by rw [Statement.parse_ofList]; decide +kernel) ?_
  intro s bound hs hbound hcheck
  obtain ⟨c, p, hfilter, hp, hstores⟩ := exists_of_hasMembers hcheck
  obtain ⟨⟨answer, htests, hdiffers, -, hall⟩, hmade⟩ :=
    not_in_within_class sampleRow "cmis:document" p
  obtain ⟨⟨e, he, rfl⟩, -⟩ := hmade (m := Id) hs hbound ⟨fun _ => none, fun _ => []⟩ none false
  have hfive : Literal.value? "5" = .ok (.integer 5) := rfl
  have hhalf : Literal.value? "6.5" = .ok (.decimal ⟨false, 65, 1, by decide, by decide⟩) := rfl
  have hne : ∀ raw ∈ ["5", "6.5"], answer (.compare .neq raw) = true := by
    refine List.forall_mem_cons.2 ⟨(hdiffers _).2 ⟨_, hstores, ⟨_, hfive, rfl⟩, ?_⟩,
      List.forall_mem_singleton.2 ((hdiffers _).2 ⟨_, hstores, ⟨_, hhalf, rfl⟩, ?_⟩)⟩
    · rintro ⟨w, hw, hequal⟩
      cases hfive.symm.trans hw
      exact absurd hequal (by decide)
    · rintro ⟨w, hw, hequal⟩
      cases hhalf.symm.trans hw
      exact absurd hequal (by decide)
  have hdecodes : (ColumnTest.isIn true ["5", "6.5"]).Decodes :=
    List.forall_mem_cons.2 ⟨⟨_, hfive⟩, List.forall_mem_singleton.2 ⟨_, hhalf⟩⟩
  obtain ⟨hanswer, -⟩ := (hall _ (List.cons_ne_nil _ _)).1 hne
  obtain ⟨-, hrow⟩ := htests _ hdecodes e c hp
  refine ⟨e, he, ?_, p, answer,
    htests (.compare .neq "6.5") (List.forall_mem_singleton.2 ⟨_, hhalf⟩), hne _ (by decide)⟩
  rw [hrow ((bind_ok (Statement.selectors_ids_nodup hs) hbound).1 ▸ hfilter), hanswer]

/-- A number is not among texts, but does not differ from a text. -/
theorem not_in_passes_other_class :
    rowAnswer? "SELECT * FROM cmis:document WHERE cmis:contentStreamLength NOT IN ('7')"
        sampleRow = some true ∧
      rowAnswer? "SELECT * FROM cmis:document WHERE cmis:contentStreamLength <> '7'"
        sampleRow = some false := by
  rw [rowAnswer?, Statement.parse_ofList, rowAnswer?, Statement.parse_ofList]
  decide +kernel

end ContentQuery
