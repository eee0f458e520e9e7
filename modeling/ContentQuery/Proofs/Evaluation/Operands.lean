import ContentQuery.Proofs.Binding.Bound
import ContentQuery.Proofs.Evaluation.Computes
import ContentQuery.Proofs.Evaluation.Reading

/-!
# Tests of one node

Each test of the WHERE tree computes what its reading says, given what binding has checked. These
lemmas are about one node each; there is nothing about the stack in them.
-/

set_option autoImplicit false

namespace ContentQuery.Evaluator

open Binding

variable {m : Type → Type} {e : Evaluator m} {row : Row} {node left right : Predicate}

/-- The reading of the statement of an evaluator. -/
def reading (e : Evaluator m) (row : Row) (found : FullText.Match) : Reading :=
  e.bound.reading e.folders row found

@[simp] theorem reading_folders (found : FullText.Match) :
    (e.reading row found).folders = e.folders := rfl

/-! ## Values -/

theorem stored?_eq_some_iff {stored : PropertyValue} (found : FullText.Match) :
    e.stored? row node = some stored ↔ (e.reading row found).Stores node stored := by
  constructor
  · intro h
    obtain ⟨c, hc, h⟩ := Option.bind_eq_some_iff.1 h
    obtain ⟨⟨aliasName, p⟩, hp, h⟩ := Option.bind_eq_some_iff.1 h
    obtain ⟨object, ho, hs⟩ := Option.bind_eq_some_iff.1 h
    obtain ⟨typeId, hr⟩ := BoundStatement.property?_eq_some_iff.1 hp
    cases node with
    | column _ =>
      cases hc
      exact ⟨c, aliasName, typeId, p, object, rfl, hr, ho, hs⟩
    | _ => cases hc
  · rintro ⟨c, aliasName, typeId, p, object, rfl, hr, ho, hs⟩
    have hp : e.bound.property? c.id = some (aliasName, p) :=
      BoundStatement.property?_eq_some_iff.2 ⟨typeId, hr⟩
    have ho : row.get? aliasName = some object := ho
    simp [stored?, storedProperty?, Predicate.column?, hp, ho, hs]

theorem mem_storedValues_iff {v : Value} (found : FullText.Match) :
    v ∈ e.storedValues row node ↔
      ∃ stored, (e.reading row found).Stores node stored ∧ v ∈ stored.values := by
  simp only [← stored?_eq_some_iff, storedValues]
  split
  · rename_i stored hs
    simp [hs]
  · rename_i hs
    simp [hs]

theorem isAmong_eq_true {v : Value} {vs : List Value} :
    isAmong v vs = true ↔ Reading.Among v vs := by
  simp [isAmong, Reading.Among, Value.equal]

/-- A negative form accepts what the positive one does not. -/
theorem bne_eq_true_iff {p : Prop} {b negated : Bool} (h : b = true ↔ p) :
    (b != negated) = true ↔ (p ↔ negated = false) := by
  rw [← h]
  cases b <;> cases negated <;> decide

theorem compareOperands_eq_true {op : Comparison} {a b : Option Value} :
    compareOperands op a b = true ↔ ∃ x y o, a = some x ∧ b = some y ∧ x.compare? y = some o ∧
      op.accepts o = true ∧ (op.isOrdering = true → x.kind ≠ .boolean ∧ y.kind ≠ .boolean) := by
  cases a with
  | none => simp [compareOperands]
  | some x =>
  cases b with
  | none => simp [compareOperands]
  | some y =>
    have hx : compareOperands op (some x) (some y) = true ↔
        ¬(op.isOrdering = true ∧ (x.kind = .boolean ∨ y.kind = .boolean)) ∧
          ∃ o, x.compare? y = some o ∧ op.accepts o = true := by
      simp only [compareOperands]
      split
      · rename_i hb
        simp_all
      · rename_i hb
        cases hc : x.compare? y <;> simp_all
    rw [hx]
    constructor
    · rintro ⟨hb, o, ho, hacc⟩
      refine ⟨x, y, o, rfl, rfl, ho, hacc, fun hop => ?_⟩
      exact not_or.1 fun h => hb ⟨hop, h⟩
    · rintro ⟨_, _, o, ⟨⟩, ⟨⟩, ho, hacc, hb⟩
      refine ⟨fun ⟨hop, h⟩ => ?_, o, ho, hacc⟩
      exact h.elim (hb hop).1 (hb hop).2

/-- A column of a property has what is stored, if this is one value. -/
theorem single?_stored?_eq_some_iff {p : PropertyDefinition} {v : Value}
    (h : Names e.bound.bindings node p) (found : FullText.Match) :
    (e.stored? row node).bind PropertyValue.single? = some v ↔
      (e.reading row found).HasValue node v := by
  obtain ⟨c, aliasName, typeId, rfl, hr⟩ := h
  simp only [Option.bind_eq_some_iff, PropertyValue.single?_eq_some_iff,
    stored?_eq_some_iff found]
  constructor
  · rintro ⟨stored, hs, hv⟩
    exact .property hs hv
  · intro hv
    cases hv with
    | property hs hv => exact ⟨_, hs, hv⟩
    | scoreAlias hscore => cases hr.symm.trans hscore

theorem asksSearch_of_names {p : PropertyDefinition} (h : Names e.bound.bindings node p) :
    node.asksSearch e.bound.resolution? = false := by
  obtain ⟨c, aliasName, typeId, rfl, hr⟩ := h
  have hr : e.bound.resolution? c.id = some (.property aliasName typeId p) := hr
  simp [Predicate.asksSearch, hr]

/-! ## Operands -/

section
variable [Monad m]

theorem operandValue_eq {p : PropertyDefinition} (h : Names e.bound.bindings node p) :
    e.operandValue row node = pure ((e.stored? row node).bind PropertyValue.single?) := by
  obtain ⟨c, aliasName, typeId, rfl, hr⟩ := h
  have hr : e.bound.resolution? c.id = some (.property aliasName typeId p) := hr
  simp only [operandValue, hr]
  rfl

theorem literalOf_eq {v : Value} (h : node.literalValue? = .ok v) :
    (literalOf node : RowTest m Value) = pure v := by
  rw [literalOf, h]

theorem literalsOf_eq {vs : List Value} (h : node.literalValues? = .ok vs) :
    (literalsOf node : RowTest m (List Value)) = pure vs := by
  rw [literalsOf, h]

end

variable [Monad m] [LawfulMonad m]

theorem operandValue_of_names {p : PropertyDefinition} (h : Names e.bound.bindings node p) :
    Computes e row false (e.operandValue row node)
      fun _ => (e.stored? row node).bind PropertyValue.single? :=
  operandValue_eq h ▸ .pure _

theorem literalOf_computes {v : Value} (h : node.literalValue? = .ok v) :
    Computes e row false (literalOf node) fun _ => v := by
  rw [literalOf_eq h]
  exact .pure v

theorem literalsOf_computes {vs : List Value} (h : node.literalValues? = .ok vs) :
    Computes e row false (literalsOf node) fun _ => vs := by
  rw [literalsOf_eq h]
  exact .pure vs

theorem operandValue_computes {op : Comparison} (h : Comparable e.bound.bindings op node)
    (ht : TraceChecked e.bound.bindings node.trace) : ∃ value,
    Computes e row (node.asksSearch e.bound.resolution?) (e.operandValue row node) value ∧
      ∀ found v, value found = some v ↔ (e.reading row found).HasValue node v := by
  cases h with
  | property hp =>
    rw [asksSearch_of_names hp]
    exact ⟨_, operandValue_of_names hp, fun found v => single?_stored?_eq_some_iff hp found⟩
  | @scoreAlias c hr =>
    have hr : e.bound.resolution? c.id = some .score := hr
    refine ⟨fun found => some (.decimal found.score), ?_, fun found v => ?_⟩
    · simp only [operandValue, Predicate.asksSearch, hr]
      exact Computes.searchOnce.bind fun found => .pure _
    · rw [Option.some.injEq, Reading.hasValue_scoreAlias_iff (w := e.reading row found) hr]
      rfl
  | @literal raw hk =>
    obtain ⟨v, hv⟩ := ht.literalValue?
    refine ⟨fun _ => some v, (literalOf_computes hv).bind fun x => .pure _, fun found x => ?_⟩
    have hv : Literal.value? raw = .ok v := hv
    simp [Reading.hasValue_literal_iff, hv]
  | @score f hr =>
    refine ⟨fun found => some (.decimal found.score), ?_, fun found v => ?_⟩
    · exact Computes.searchOnce.bind fun found => .pure _
    · rw [Option.some.injEq, Reading.hasValue_score_iff]
      rfl

/-! ## Tests -/

omit [LawfulMonad m] in
theorem testRelation_isIn (negated : Bool) (left right : Predicate) :
    e.testRelation row (.isIn negated) left right = (do
      let list ← literalsOf right
      let v ← e.operandValue row left
      pure (v.any fun v => isAmong v list != negated)) := by
  refine bind_congr fun list => bind_congr fun v => ?_
  cases v <;> rfl

theorem testRelation_like (negated : Bool) (left : Predicate) {text : String}
    (h : right.literalValue? = .ok (.string text)) :
    e.testRelation row (.like negated) left right = (do
      let v ← e.operandValue row left
      pure ((v.bind Value.text?).any fun s => (e.pattern text).accepts s != negated)) := by
  simp only [testRelation, literalOf_eq h, pure_bind]
  refine bind_congr fun v => ?_
  cases v.bind Value.text? <;> rfl

/-- The comparison of a column with a literal. -/
theorem testRelation_compare_literal {p : PropertyDefinition} {v : Value} (op : Comparison)
    (hp : Names e.bound.bindings left p) (ht : right.literalValue? = .ok v)
    (hright : right.IsLiteral) :
    e.testRelation row (.compare op) left right =
      pure (compareOperands op ((e.stored? row left).bind PropertyValue.single?) (some v)) := by
  obtain ⟨raw, rfl⟩ := hright
  have hliteral : e.operandValue row (.literal raw) = pure (some v) := by
    simp only [operandValue, literalOf_eq ht, pure_bind]
  simp only [testRelation, operandValue_eq hp, hliteral, pure_bind]

/-- A comparison reads its left operand and then its right one. -/
theorem compare_computes {a b : FullText.Match → Option Value} {asks asks' : Bool}
    (op : Comparison) (ha : Computes e row asks (e.operandValue row left) a)
    (hb : Computes e row asks' (e.operandValue row right) b) :
    Computes e row (asks || asks') (e.testRelation row (.compare op) left right)
      fun found => compareOperands op (a found) (b found) := by
  have := ha.bind fun x => hb.bind fun y =>
    (.pure (compareOperands op x y) : Computes e row false _ _)
  rwa [Bool.or_false] at this

theorem compare_decides {op : Comparison} (hb : Comparable e.bound.bindings op left)
    (hb' : Comparable e.bound.bindings op right)
    (hl : TraceChecked e.bound.bindings left.trace)
    (hr : TraceChecked e.bound.bindings right.trace) :
    Decides e row (left.asksSearch e.bound.resolution? || right.asksSearch e.bound.resolution?)
      (e.testRelation row (.compare op) left right)
      fun found => (e.reading row found).Holds (.compare op) left right := by
  obtain ⟨a, ha, hva⟩ := operandValue_computes hb hl
  obtain ⟨b, hb, hvb⟩ := operandValue_computes hb' hr
  refine ⟨_, compare_computes op ha hb, fun found => ?_⟩
  simp only [compareOperands_eq_true, hva, hvb]
  rfl

theorem isIn_decides {p : PropertyDefinition} {vs : List Value} (negated : Bool)
    (hp : Names e.bound.bindings left p) (hvs : right.literalValues? = .ok vs) :
    Decides e row false (e.testRelation row (.isIn negated) left right)
      fun found => (e.reading row found).Holds (.isIn negated) left right := by
  refine ⟨fun _ => ((e.stored? row left).bind PropertyValue.single?).any
    fun v => isAmong v vs != negated, ?_, fun found => ?_⟩
  · rw [testRelation_isIn]
    exact (literalsOf_computes hvs).bind fun list => (operandValue_of_names hp).bind
      fun v => .pure (v.any fun v => isAmong v list != negated)
  · simp only [Option.any_eq_true, single?_stored?_eq_some_iff hp found,
      bne_eq_true_iff isAmong_eq_true]
    exact ⟨fun ⟨v, hv, h⟩ => ⟨v, vs, hv, hvs, h⟩,
      fun ⟨v, vs', hv, hvs', h⟩ => ⟨v, hv, by cases hvs.symm.trans hvs'; exact h⟩⟩

theorem anyIn_decides {vs : List Value} (negated : Bool) (hvs : right.literalValues? = .ok vs) :
    Decides e row false (e.testRelation row (.anyIn negated) left right)
      fun found => (e.reading row found).Holds (.anyIn negated) left right := by
  refine ⟨fun _ => (e.storedValues row left).any fun v => isAmong v vs != negated, ?_,
    fun found => ?_⟩
  · exact (literalsOf_computes hvs).bind fun list =>
      .pure ((e.storedValues row left).any fun v => isAmong v list != negated)
  · simp only [List.any_eq_true, mem_storedValues_iff found, bne_eq_true_iff isAmong_eq_true]
    exact ⟨fun ⟨v, ⟨stored, hs, hv⟩, h⟩ => ⟨stored, vs, hs, hvs, v, hv, h⟩,
      fun ⟨stored, vs', hs, hvs', v, hv, h⟩ =>
        ⟨v, ⟨stored, hs, hv⟩, by cases hvs.symm.trans hvs'; exact h⟩⟩

theorem equalsAny_decides {v : Value} (hv : left.literalValue? = .ok v) :
    Decides e row false (e.testRelation row .equalsAny left right)
      fun found => (e.reading row found).Holds .equalsAny left right := by
  refine ⟨fun _ => (e.storedValues row right).any fun x => x.equal v, ?_, fun found => ?_⟩
  · exact (literalOf_computes hv).bind fun v =>
      .pure ((e.storedValues row right).any fun x => x.equal v)
  · simp only [List.any_eq_true, mem_storedValues_iff found, Value.equal, beq_iff_eq]
    exact ⟨fun ⟨x, ⟨stored, hs, hx⟩, h⟩ => ⟨v, stored, hv, hs, x, hx, h⟩,
      fun ⟨v', stored, hv', hs, x, hx, h⟩ =>
        ⟨x, ⟨stored, hs, hx⟩, by cases hv.symm.trans hv'; exact h⟩⟩

theorem like_decides {p : PropertyDefinition} {pattern : String} (negated : Bool)
    (hp : Names e.bound.bindings left p) (ht : right.literalValue? = .ok (.string pattern))
    (hpattern : e.pattern pattern = .ofText pattern) :
    Decides e row false (e.testRelation row (.like negated) left right)
      fun found => (e.reading row found).Holds (.like negated) left right := by
  refine ⟨fun _ => (((e.stored? row left).bind PropertyValue.single?).bind Value.text?).any
    fun s => (Like.Pattern.ofText pattern).accepts s != negated, ?_, fun found => ?_⟩
  · rw [testRelation_like negated left ht, hpattern]
    exact (operandValue_of_names hp).bind fun v =>
      .pure ((v.bind Value.text?).any fun s => (Like.Pattern.ofText pattern).accepts s != negated)
  · simp only [Option.any_eq_true, Option.bind_eq_some_iff,
      single?_stored?_eq_some_iff hp found, bne_eq_true_iff Iff.rfl]
    exact ⟨fun ⟨s, ⟨v, hv, hs⟩, h⟩ => ⟨v, s, pattern, hv, hs, ht, h⟩,
      fun ⟨v, s, pattern', hv, hs, ht', h⟩ =>
        ⟨s, ⟨v, hv, hs⟩, by cases ht.symm.trans ht'; exact h⟩⟩

/-- **Every relation of a condition is tested as it reads**, if the left side of `= ANY` is a
literal. -/
theorem testRelation_decides {r : Relation} (hc : (Predicate.relation r left right).IsCondition)
    (hany : r = .equalsAny → left.IsLiteral)
    (hb : RelationChecked e.bound.bindings r left right)
    (hl : TraceChecked e.bound.bindings left.trace)
    (hr : TraceChecked e.bound.bindings right.trace)
    (hpattern : ∀ text, e.pattern text = .ofText text) :
    Decides e row ((Predicate.relation r left right).asksSearch e.bound.resolution?)
      (e.testRelation row r left right) fun found => (e.reading row found).Holds r left right := by
  rw [Predicate.asksSearch]
  cases hc with
  | compare op _ _ => exact compare_decides hb.1 hb.2 hl hr
  | @isIn negated _ items _ _ _ =>
    obtain ⟨p, hp, -⟩ := hb
    obtain ⟨vs, hvs⟩ := hr.literalValues?
    rw [asksSearch_of_names hp]
    exact isIn_decides negated hp hvs
  | @anyIn negated c items _ _ =>
    obtain ⟨p, hp, -⟩ := hb
    obtain ⟨vs, hvs⟩ := hr.literalValues?
    rw [asksSearch_of_names hp]
    exact anyIn_decides negated hvs
  | @equalsAny _ c _ =>
    obtain ⟨p, hp, -⟩ := hb
    obtain ⟨raw, rfl⟩ := hany rfl
    obtain ⟨v, hv⟩ := hl.literalValue?
    rw [asksSearch_of_names hp]
    exact equalsAny_decides hv
  | like negated _ _ =>
    obtain ⟨⟨p, hp, -⟩, pattern, ht⟩ := hb
    rw [asksSearch_of_names hp]
    exact like_decides negated hp ht (hpattern pattern)

/-! ## Null tests and folder tests -/

omit [Monad m] [LawfulMonad m] in
theorem testNull_eq_true (negated : Bool) (found : FullText.Match) :
    e.testNull row negated node = true ↔
      (e.reading row found).Satisfies (.isNull negated node) := by
  have hnull : (e.stored? row node).all PropertyValue.isEmpty = true ↔
      ∀ stored, (e.reading row found).Stores node stored → stored.values = [] := by
    simp only [← stored?_eq_some_iff]
    cases e.stored? row node with
    | none => simp
    | some stored => cases stored <;> simp [PropertyValue.isEmpty, PropertyValue.values]
  rw [Reading.Satisfies, ← bne_eq_true_iff hnull, testNull]
  cases e.stored? row node <;> simp

/-- Whether an object is in a folder, or somewhere below it. -/
def isWithin (e : Evaluator m) (folderId objectId : String) : FolderScope → Bool
  | .children => e.folders.parent? objectId == some folderId
  | .descendants => (e.folders.ancestors objectId).contains folderId

theorem testFolder_eq {folder : Predicate} {folderId : String} (scope : FolderScope)
    (qualifier : Option Predicate) (ht : folder.literalValue? = .ok (.string folderId)) :
    e.testFolder row scope qualifier folder = pure
      ((row.get? (e.folderAlias qualifier)).any fun object =>
        e.isWithin folderId object.id scope) := by
  simp only [testFolder, literalOf_eq ht, pure_bind, Value.text?]
  cases row.get? (e.folderAlias qualifier) with
  | none => rfl
  | some object => cases scope <;> rfl

theorem testFolder_decides {folder : Predicate} {folderId : String} (scope : FolderScope)
    (qualifier : Option Predicate) (ht : folder.literalValue? = .ok (.string folderId)) :
    Decides e row false (e.testFolder row scope qualifier folder)
      fun found => (e.reading row found).InFolder scope (e.folderAlias qualifier) folder := by
  refine ⟨fun _ => (row.get? (e.folderAlias qualifier)).any fun object =>
    e.isWithin folderId object.id scope, ?_, fun found => ?_⟩
  · rw [testFolder_eq scope qualifier ht]
    exact .pure _
  · rw [Option.any_eq_true]
    constructor
    · rintro ⟨object, ho, h⟩
      refine ⟨folderId, object, ht, ho, ?_⟩
      cases scope <;> simpa [isWithin] using h
    · rintro ⟨folderId', object, ht', ho, h⟩
      cases ht.symm.trans ht'
      refine ⟨object, ho, ?_⟩
      cases scope <;> simpa [isWithin] using h

end ContentQuery.Evaluator
