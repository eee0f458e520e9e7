import ContentQuery.Proofs.Evaluation.Patterns
import ContentQuery.Proofs.Evaluation.TextTests

/-!
# Comparisons

The kinds of value fall into classes (`ValueKind.orderClass`), and `Value.compare?` orders the
values of a class among each other and no others: it is reversed by exchanging the values
(`Value.compare?_swap`), goes on from value to value (`Value.compare?_trans`), and numbers of either
kind stand in the order of the rational numbers that they denote (`Value.compare?_of_rational?`).

What this means for the six operators is `Comparison.Laws`: two operands without an order satisfy
none of them, two ordered ones exactly one of `<`, `=` and `>`, and an operator is mirrored by
exchanging its operands. Truth values are compared but not ordered, so that `<=` is not implied by
`=` there. The main statement is `comparisons_follow_value_order`.
-/

set_option autoImplicit false

namespace ContentQuery

open Binding

/-! ## Classes -/

/-- The kinds whose values are compared with each other. -/
inductive OrderClass
  | number | text | datetime | boolean
deriving DecidableEq, Repr

def ValueKind.orderClass : ValueKind → OrderClass
  | .boolean => .boolean
  | .integer => .number
  | .decimal => .number
  | .string => .text
  | .datetime => .datetime
  | .id => .text

theorem ValueKind.eq_boolean_of_orderClass {k : ValueKind} (h : k.orderClass = .boolean) :
    k = .boolean := by
  cases k <;> first | rfl | cases h

namespace Value

theorem exists_of_kind_boolean {a : Value} (h : a.kind = .boolean) : ∃ p, a = boolean p := by
  cases a with
  | boolean p => exact ⟨p, rfl⟩
  | _ => cases h

theorem isSome_compare?_iff (a b : Value) :
    (a.compare? b).isSome = true ↔ a.kind.orderClass = b.kind.orderClass := by
  cases a <;> cases b <;> simp [compare?, number?, text?, kind, ValueKind.orderClass]

theorem exists_compare?_iff {a b : Value} :
    (∃ o, a.compare? b = some o) ↔ a.kind.orderClass = b.kind.orderClass := by
  rw [← Option.isSome_iff_exists, isSome_compare?_iff]

theorem compare?_eq_none_iff {a b : Value} :
    a.compare? b = none ↔ a.kind.orderClass ≠ b.kind.orderClass := by
  rw [Ne, ← isSome_compare?_iff, Option.not_isSome_iff_eq_none]

/-! ## The order of a class -/

theorem compare?_self (a : Value) : a.compare? a = some .eq := by
  obtain ⟨o, ho⟩ := exists_compare?_iff.2 (rfl : a.kind.orderClass = a.kind.orderClass)
  have hswap := compare?_swap a a
  rw [ho] at hswap ⊢
  cases o with
  | eq => rfl
  | lt | gt => cases hswap

/-- Less, equal and greater go on from value to value, whichever kinds are between. -/
theorem compare?_trans {a b c : Value} {o : Ordering} (h : a.compare? b = some o)
    (h' : b.compare? c = some o) : a.compare? c = some o := by
  obtain ⟨α, cmp, x, y, z, _, hxy, hyz, hxz⟩ :=
    (compare?_eq_some_iff.1 h).exists_order (compare?_eq_some_iff.1 h')
  rw [compare?_eq_some_iff.2 hxz]
  cases o with
  | lt => rw [Std.TransCmp.lt_trans hxy.symm hyz.symm]
  | eq => rw [Std.TransCmp.eq_trans hxy.symm hyz.symm]
  | gt => rw [Std.TransCmp.gt_trans hxy.symm hyz.symm]

/-- Equal values compare alike with all others. -/
theorem compare?_congr {a b : Value} (h : a.compare? b = some .eq) (c : Value) :
    a.compare? c = b.compare? c := by
  have hclass := exists_compare?_iff.1 ⟨_, h⟩
  cases hbc : b.compare? c with
  | none =>
    rw [compare?_eq_none_iff, hclass]
    exact compare?_eq_none_iff.1 hbc
  | some o =>
    obtain ⟨α, cmp, x, y, z, _, hxy, hyz, hxz⟩ :=
      (compare?_eq_some_iff.1 h).exists_order (compare?_eq_some_iff.1 hbc)
    rw [compare?_eq_some_iff.2 hxz, hyz, Std.TransCmp.congr_left hxy.symm]

/-- The rational number that an integer or a decimal denotes. -/
def rational? : Value → Option ℚ
  | integer n => some n.toInt
  | decimal d => some d.value
  | _ => none

theorem exists_number?_of_rational? {a : Value} {x : ℚ} (h : a.rational? = some x) :
    ∃ m, a.number? = some m ∧ m.value = x := by
  cases a with
  | integer n =>
    cases h
    exact ⟨_, rfl, Decimal.value_ofInt64 n⟩
  | decimal d =>
    cases h
    exact ⟨d, rfl, rfl⟩
  | _ => cases h

/-- Numbers of either kind are in the order of what they denote. -/
theorem compare?_of_rational? {a b : Value} {x y : ℚ} (ha : a.rational? = some x)
    (hb : b.rational? = some y) : a.compare? b = some (Ord.compare x y) := by
  obtain ⟨m, hm, rfl⟩ := exists_number?_of_rational? ha
  obtain ⟨n, hn, rfl⟩ := exists_number?_of_rational? hb
  rw [← Decimal.compare_eq]
  exact compare?_eq_some_iff.2 (.number hm hn)

end Value

/-! ## Operators -/

namespace Comparison

/-- The operator that says the same of the operands exchanged. -/
def mirror : Comparison → Comparison
  | eq => eq
  | neq => neq
  | gt => lt
  | ge => le
  | lt => gt
  | le => ge

@[simp] theorem mirror_mirror (op : Comparison) : op.mirror.mirror = op := by cases op <;> rfl

@[simp] theorem isOrdering_mirror (op : Comparison) : op.mirror.isOrdering = op.isOrdering := by
  cases op <;> rfl

theorem accepts_eq_iff {o : Ordering} : Comparison.eq.accepts o = true ↔ o = .eq := by
  cases o <;> decide

theorem accepts_neq_iff {o : Ordering} : Comparison.neq.accepts o = true ↔ o ≠ .eq := by
  cases o <;> decide

theorem accepts_mirror (op : Comparison) (o : Ordering) :
    op.mirror.accepts o.swap = op.accepts o := by
  cases op <;> cases o <;> rfl

/-- Of the three ways to be ordered there is one. -/
theorem existsUnique_accepts (o : Ordering) :
    ∃! op : Comparison, (op = .lt ∨ op = .eq ∨ op = .gt) ∧ op.accepts o = true := by
  cases o with
  | lt => exact ⟨.lt, by decide, by rintro op ⟨rfl | rfl | rfl, h⟩ <;> first | rfl | cases h⟩
  | eq => exact ⟨.eq, by decide, by rintro op ⟨rfl | rfl | rfl, h⟩ <;> first | rfl | cases h⟩
  | gt => exact ⟨.gt, by decide, by rintro op ⟨rfl | rfl | rfl, h⟩ <;> first | rfl | cases h⟩

/-- How the answers of the operators on two operands go together. `holds` are the answers on the
operands `a` and `b`, and `mirrored` those on `b` and `a`; an operand may have no value. -/
structure Laws (a b : Option Value) (holds mirrored : Comparison → Bool) : Prop where
  mirror : ∀ op, holds op = mirrored op.mirror
  -- truth values can be equal, but not in order
  le_iff : holds .le = true ↔ holds .lt = true ∨ holds .eq = true ∧ a.map Value.kind ≠ some .boolean
  ge_iff : holds .ge = true ↔ holds .gt = true ∨ holds .eq = true ∧ a.map Value.kind ≠ some .boolean
  ordered : ∀ v w, a = some v → b = some w → v.kind.orderClass = w.kind.orderClass →
    v.kind ≠ .boolean →
    (∀ op o, v.compare? w = some o → holds op = op.accepts o) ∧
    (∃! op : Comparison, (op = .lt ∨ op = .eq ∨ op = .gt) ∧ holds op = true) ∧
    holds .neq = !holds .eq
  booleans : ∀ p q, a = some (.boolean p) → b = some (.boolean q) →
    (holds .eq = true ↔ p = q) ∧ (holds .neq = true ↔ p ≠ q) ∧
    ∀ op, op.isOrdering = true → holds op = false
  unordered : (∀ v w, a = some v → b = some w → v.kind.orderClass ≠ w.kind.orderClass) →
    ∀ op, holds op = false

end Comparison

namespace Evaluator

theorem compareOperands_of_mirror {op : Comparison} {a b : Option Value}
    (h : compareOperands op a b = true) : compareOperands op.mirror b a = true := by
  obtain ⟨x, y, o, rfl, rfl, hcompare, haccepts, hbool⟩ := compareOperands_eq_true.1 h
  refine compareOperands_eq_true.2 ⟨y, x, o.swap, rfl, rfl, ?_, ?_, ?_⟩
  · rw [Value.compare?_swap x y, hcompare]
    rfl
  · rw [Comparison.accepts_mirror, haccepts]
  · rw [Comparison.isOrdering_mirror]
    exact fun hop => (hbool hop).symm

theorem compareOperands_mirror (op : Comparison) (a b : Option Value) :
    compareOperands op a b = compareOperands op.mirror b a := by
  rw [Bool.eq_iff_iff]
  refine ⟨compareOperands_of_mirror, fun h => ?_⟩
  rw [← op.mirror_mirror]
  exact compareOperands_of_mirror h

/-- Two operands have no order, or are truth values, or are in the order of their values. -/
theorem compareOperands_cases (a b : Option Value) :
    ((∀ v w, a = some v → b = some w → v.kind.orderClass ≠ w.kind.orderClass) ∧
      ∀ op, compareOperands op a b = false) ∨
    (∃ p q, a = some (.boolean p) ∧ b = some (.boolean q) ∧
      ∀ op, compareOperands op a b = (!op.isOrdering && op.accepts (Ord.compare p q))) ∨
    ∃ v w o, a = some v ∧ b = some w ∧ v.compare? w = some o ∧ v.kind ≠ .boolean ∧
      ∀ op, compareOperands op a b = op.accepts o := by
  match a, b with
  | none, _ => exact .inl ⟨nofun, fun op => rfl⟩
  | some _, none => exact .inl ⟨nofun, fun op => rfl⟩
  | some v, some w =>
    cases hcompare : v.compare? w with
    | none =>
      refine .inl ⟨?_, fun op => ?_⟩
      · rintro _ _ ⟨⟩ ⟨⟩
        exact Value.compare?_eq_none_iff.1 hcompare
      · simp only [compareOperands, hcompare, ite_self]
    | some o =>
      have hclass := Value.exists_compare?_iff.1 ⟨o, hcompare⟩
      by_cases hv : v.kind = .boolean
      · obtain ⟨p, rfl⟩ := Value.exists_of_kind_boolean hv
        have hw : w.kind = .boolean := ValueKind.eq_boolean_of_orderClass hclass.symm
        obtain ⟨q, rfl⟩ := Value.exists_of_kind_boolean hw
        refine .inr (.inl ⟨p, q, rfl, rfl, fun op => ?_⟩)
        cases op <;> rfl
      · have hw : w.kind ≠ .boolean := by
          rintro hw
          rw [hw] at hclass
          exact hv (ValueKind.eq_boolean_of_orderClass hclass)
        refine .inr (.inr ⟨v, w, o, rfl, rfl, hcompare, hv, fun op => ?_⟩)
        simp [compareOperands, hcompare, hv, hw]

/-- What accepts equality besides does so for all values but truth values. -/
theorem compareOperands_or_equal {op strict : Comparison} (hop : op.isOrdering = true)
    (hstrict : strict.isOrdering = true)
    (h : ∀ o, op.accepts o = (strict.accepts o || Comparison.eq.accepts o)) (a b : Option Value) :
    compareOperands op a b = true ↔ compareOperands strict a b = true ∨
      compareOperands .eq a b = true ∧ a.map Value.kind ≠ some .boolean := by
  obtain ⟨-, hfalse⟩ | ⟨p, q, rfl, rfl, hbool⟩ | ⟨v, w, o, rfl, rfl, -, hv, hcompare⟩ :=
    compareOperands_cases a b
  · simp [hfalse]
  · simp [hbool, hop, hstrict, Value.kind]
  · simp [hcompare, hv, h]

/-- How the operators go together, whatever the operands are. -/
theorem compareOperands_laws (a b : Option Value) :
    Comparison.Laws a b (compareOperands · a b) (compareOperands · b a) where
  mirror op := compareOperands_mirror op a b
  le_iff := compareOperands_or_equal rfl rfl (fun o => by cases o <;> rfl) a b
  ge_iff := compareOperands_or_equal rfl rfl (fun o => by cases o <;> rfl) a b
  ordered x y ha hb hclass hbool := by
    obtain ⟨hclasses, -⟩ | ⟨p, q, ⟨⟩, ⟨⟩, -⟩ | ⟨v, w, o, ⟨⟩, ⟨⟩, hcompare, -, h⟩ :=
      compareOperands_cases a b
    · exact absurd hclass (hclasses x y ha hb)
    · cases ha
      exact absurd rfl hbool
    · cases ha
      cases hb
      refine ⟨fun op o' ho' => ?_, ?_, ?_⟩
      · cases hcompare.symm.trans ho'
        exact h op
      · simp only [h]
        exact Comparison.existsUnique_accepts o
      · rw [h, h]
        cases o <;> rfl
  booleans p q ha hb := by
    cases ha
    cases hb
    obtain ⟨hclasses, -⟩ | ⟨_, _, ⟨⟩, ⟨⟩, h⟩ | ⟨_, _, o, ⟨⟩, -, -, hv, -⟩ :=
      compareOperands_cases (some (.boolean p)) (some (.boolean q))
    · exact (hclasses (.boolean p) (.boolean q) rfl rfl rfl).elim
    · refine ⟨?_, ?_, fun op hop => ?_⟩
      · rw [h]
        cases p <;> cases q <;> decide
      · rw [h]
        cases p <;> cases q <;> decide
      · rw [h, hop]
        rfl
    · exact absurd rfl hv
  unordered hclasses := by
    obtain ⟨-, hfalse⟩ | ⟨p, q, rfl, rfl, -⟩ | ⟨v, w, o, rfl, rfl, hcompare, -, -⟩ :=
      compareOperands_cases a b
    · exact hfalse
    · exact (hclasses (.boolean p) (.boolean q) rfl rfl rfl).elim
    · exact absurd (Value.exists_compare?_iff.1 ⟨o, hcompare⟩) (hclasses v w rfl rfl)

/-! ## Rows -/

variable {m : Type → Type} [Monad m] {e : Evaluator m} {row : Row} {left right : Predicate}

/-- The answers of the operators on two operands in a row, and on the operands exchanged, for each
outcome of the full-text search. Either way the search is asked for what the operands need, and the
answers go together as the values of the operands do. -/
structure Compares (e : Evaluator m) (row : Row) (left right : Predicate)
    (holds mirrored : Comparison → FullText.Match → Bool) : Prop where
  computes : ∀ op, Computes e row
    (left.asksSearch e.bound.resolution? || right.asksSearch e.bound.resolution?)
    (e.testRelation row (.compare op) left right) (holds op)
  exchanged : ∀ op, Computes e row
    (left.asksSearch e.bound.resolution? || right.asksSearch e.bound.resolution?)
    (e.testRelation row (.compare op) right left) (mirrored op)
  laws : ∀ found, ∃ a b, (∀ v, a = some v ↔ (e.reading row found).HasValue left v) ∧
    (∀ v, b = some v ↔ (e.reading row found).HasValue right v) ∧
    Comparison.Laws a b (holds · found) (mirrored · found)

variable [LawfulMonad m] {op : Comparison}

theorem exists_compares (hb : RelationChecked e.bound.bindings (.compare op) left right)
    (hl : TraceChecked e.bound.bindings left.trace)
    (hr : TraceChecked e.bound.bindings right.trace) :
    ∃ holds mirrored, e.Compares row left right holds mirrored := by
  obtain ⟨a, ha, hva⟩ := operandValue_computes hb.1 hl
  obtain ⟨b, hb, hvb⟩ := operandValue_computes hb.2 hr
  refine ⟨fun op found => compareOperands op (a found) (b found),
    fun op found => compareOperands op (b found) (a found),
    fun op => compare_computes op ha hb, fun op => ?_,
    fun found => ⟨a found, b found, hva found, hvb found, compareOperands_laws _ _⟩⟩
  rw [Bool.or_comm]
  exact compare_computes op hb ha

theorem idle_of_comparable {node : Predicate} (h : Comparable e.bound.bindings op node)
    (ht : TraceChecked e.bound.bindings node.trace) : Idle e row node.trace := by
  cases h with
  | property hp =>
    obtain ⟨c, -, -, rfl, -⟩ := hp
    exact idle_single rfl
  | scoreAlias => exact idle_single rfl
  | literal => exact idle_literal ht
  | score => exact idle_single rfl

end Evaluator

/-- **Comparisons follow the order of the values.** Two values can be compared if and only if they
are of one class, and the order of a class is a total preorder, in which numbers stand as what they
denote. In every statement that has been bound, the operators of a comparison go together by this
order, on the operands as they stand and exchanged: for every row and every outcome of the full-text
search. -/
theorem comparisons_follow_value_order :
    (∀ a b : Value, (a.compare? b).isSome = true ↔ a.kind.orderClass = b.kind.orderClass) ∧
    (∀ a : Value, a.compare? a = some .eq) ∧
    (∀ a b : Value, b.compare? a = (a.compare? b).map Ordering.swap) ∧
    (∀ (a b c : Value) (o : Ordering), a.compare? b = some o → b.compare? c = some o →
      a.compare? c = some o) ∧
    (∀ a b c : Value, a.compare? b = some .eq → a.compare? c = b.compare? c) ∧
    (∀ (a b : Value) (x y : ℚ), a.rational? = some x → b.rational? = some y →
      a.compare? b = some (Ord.compare x y)) ∧
    ∀ {m : Type → Type} [Monad m] [LawfulMonad m] {catalog : Catalog} {s : Statement}
      {bound : BoundStatement}, (s.selectors.map Selector.id).Nodup → s.bind catalog = .ok bound →
      ∀ (folders : FolderHierarchy) (index : Option (TextIndex m)) (caseSensitiveText : Bool),
      (∀ text, Statement.parse text = .ok s →
        ∃ e, Evaluator.prepare bound folders index caseSensitiveText = .ok e) ∧
      ∀ e, Evaluator.prepare bound folders index caseSensitiveText = .ok e →
        ∀ p ∈ s.filter, ∀ op left right, .relation (.compare op) left right ∈ p.nodes →
        ∀ row, ∃ holds mirrored, e.Compares row left right holds mirrored ∧
          (p = .relation (.compare op) left right → e.evaluateRow row = (do
            let found ← if p.asksSearch bound.resolution? then e.fullTextMatch row else pure .miss
            pure (holds op found))) := by
  refine ⟨Value.isSome_compare?_iff, Value.compare?_self, Value.compare?_swap,
    fun a b c o => Value.compare?_trans, fun a b c h => Value.compare?_congr h c,
    fun a b x y => Value.compare?_of_rational?, ?_⟩
  intro m _ _ catalog s bound hids hbind folders index caseSensitiveText
  obtain ⟨rfl, hbound⟩ := bind_ok hids hbind
  refine ⟨fun text hparse => ?_, fun e he p hp op left right hnode row => ?_⟩
  · exact (Evaluator.exists_prepare_iff hbound).2 fun raw => Evaluator.trim_of_parse hparse hbound
  · obtain ⟨-, rfl⟩ := Evaluator.prepare_eq_ok he
    obtain ⟨hl, hchecked, hr⟩ := (hbound.filter p hp).relation_of_mem hnode
    obtain ⟨holds, mirrored, hcompares⟩ := Evaluator.exists_compares hchecked hl hr
    refine ⟨holds, mirrored, hcompares, ?_⟩
    rintro rfl
    exact Evaluator.evaluateRow_computes hp (Evaluator.idle_of_comparable hchecked.1 hl)
      (Evaluator.idle_of_comparable hchecked.2 hr) (hcompares.computes op)

/-- An integer and a decimal below another integer, texts of either kind, and a column that is
compared with the decimal. -/
theorem comparisons_follow_value_order_mixed :
    let x : Value := .decimal ⟨false, 65, 1, by decide, by decide⟩
    (Value.integer 6).compare? x = some .lt ∧ x.compare? (.integer 7) = some .lt ∧
    (Value.integer 6).compare? (.integer 7) = some .lt ∧
    (Value.string "a").compare? (.id "a") = some .eq ∧
    (Value.string "a").compare? (.id "b") = (Value.id "a").compare? (.id "b") ∧
    (Value.integer 6).rational? = some 6 ∧ x.rational? = some (13 / 2) ∧
    x.compare? (.integer 6) = some (Ord.compare (13 / 2 : ℚ) 6) ∧
    ∃ s bound, Statement.parse
        "SELECT * FROM cmis:document WHERE cmis:contentStreamLength >= 6.5" = .ok s ∧
      s.bind .base = .ok bound ∧ ∃ e : Evaluator Id,
        Evaluator.prepare bound ⟨fun _ => none, fun _ => []⟩ none false = .ok e ∧
        e.evaluateRow sampleRow = pure true := by
  intro x
  obtain ⟨-, -, -, htrans, hcongr, hrational, hrows⟩ := comparisons_follow_value_order
  have hsix : (Value.integer 6).rational? = some 6 := rfl
  have hx : x.rational? = some (13 / 2) := by decide +kernel
  refine ⟨rfl, rfl, htrans _ x _ .lt rfl rfl, rfl, hcongr _ _ _ rfl, hsix, hx,
    hrational _ _ _ _ hx hsix, ?_⟩
  refine exists_bound (fun s bound =>
      hasTest s bound (.compare .ge) "6.5" "cmis:document" "cmis:contentStreamLength")
    (by rw [Statement.parse_ofList]; decide +kernel) ?_
  intro s bound hs hbound hcheck
  obtain ⟨c, p, hfilter, hp, hid⟩ := exists_of_hasTest hcheck
  obtain ⟨typeId, hr⟩ := BoundStatement.property?_eq_some_iff.1 hp
  obtain ⟨hprepares, hcompares⟩ := hrows (m := Id) (Statement.selectors_ids_nodup hs) hbound
    ⟨fun _ => none, fun _ => []⟩ none false
  obtain ⟨e, he⟩ := hprepares _ hs
  obtain ⟨holds, mirrored, ⟨-, -, hlaws⟩, hrow⟩ :=
    hcompares e he _ hfilter .ge _ _ List.mem_cons_self sampleRow
  obtain ⟨a, b, ha, hb, hlaws⟩ := hlaws .miss
  obtain ⟨-, rfl⟩ := Evaluator.prepare_eq_ok he
  have hstored : (e.reading sampleRow .miss).Stores (.column c) (.single (.integer 7)) :=
    ⟨c, _, typeId, p, sampleDocument, rfl, hr, rfl, by rw [hid]; rfl⟩
  obtain rfl : a = some (.integer 7) := (ha _).2 (.property hstored rfl)
  obtain rfl : b = some x := (hb _).2 (.literal (by decide))
  obtain ⟨hholds, -⟩ := hlaws.ordered _ _ rfl rfl (by decide) (by decide)
  have hasks : (Predicate.relation (.compare .ge) (.column c) (.literal "6.5")).asksSearch
      e.bound.resolution? = false := by
    simp [Predicate.asksSearch, hr]
  refine ⟨e, he, ?_⟩
  rw [hrow rfl, hasks, if_neg Bool.false_ne_true, pure_bind]
  exact congrArg pure (hholds .ge .gt (by decide))

/-- The answer that a query has in a row, in a repository without folders. -/
def rowAnswer? (text : String) (row : Row) : Option Bool := do
  let s ← (Statement.parse text).toOption
  let bound ← (s.bind .base).toOption
  let e ← (Evaluator.prepare (m := Id) bound ⟨fun _ => none, fun _ => []⟩ none false).toOption
  (e.evaluateRow row).run.toOption

/-- A row of one document that has truth values in two columns of texts. -/
def flagsRow : Row :=
  Row.empty.insert "cmis:document" (some { sampleDocument with
    properties := .ofList [("cmis:name", .single (.boolean true)),
      ("cmis:createdBy", .single (.boolean true))] })

/-- Two truth values that are equal are not in order: `<=` is more than `<` or `=`. -/
theorem equal_booleans_not_in_order :
    let answer (op : String) : Option Bool := rowAnswer?
      ("SELECT * FROM cmis:document WHERE cmis:name " ++ op ++ " cmis:createdBy") flagsRow
    answer "=" = some true ∧ answer "<" = some false ∧ answer "<=" = some false ∧
      ¬(answer "<=" = some true ↔ answer "<" = some true ∨ answer "=" = some true) := by
  intro answer
  have hall : ∀ op ∈ [['='], ['<'], ['<', '=']],
      answer (String.ofList op) = some (decide (op = ['='])) := by
    intro op hop
    show rowAnswer? ("SELECT * FROM cmis:document WHERE cmis:name " ++ String.ofList op ++
      " cmis:createdBy") flagsRow = _
    rw [← String.ofList_append, ← String.ofList_append, rowAnswer?, Statement.parse_ofList]
    revert op
    decide +kernel
  have heq : answer "=" = some true := hall ['='] (by decide)
  have hlt : answer "<" = some false := hall ['<'] (by decide)
  have hle : answer "<=" = some false := hall ['<', '='] (by decide)
  refine ⟨heq, hlt, hle, ?_⟩
  rw [heq, hlt, hle]
  decide

end ContentQuery
