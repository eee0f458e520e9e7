import ContentQuery.Proofs.Evaluation.Answers
import ContentQuery.Proofs.Evaluation.KeyOrder
import ContentQuery.Proofs.Evaluation.Rows
import ContentQuery.Proofs.Like.Patterns
import ContentQuery.Proofs.Statement.Parsed
import ContentQuery.Proofs.Statement.Tokens

/-!
# Tests of texts

A LIKE test and its negative form are about the text that a column has in a row
(`BoundStatement.HasText`): one of the two is true if there is such a text, and none otherwise
(`like_exact`). The pattern of an escaped text tests for this text alone, as the comparison with it
does, whichever characters it consists of (`like_literally`).
-/

set_option autoImplicit false

namespace ContentQuery

open Binding

/-- In a row, the object of a column has one value under the property of the column, and this is a
string or an id. -/
def BoundStatement.HasText (bound : BoundStatement) (row : Row) (node : Predicate)
    (text : String) : Prop :=
  ∃ c aliasName p object stored v, node = .column c ∧
    bound.property? c.id = some (aliasName, p) ∧ row.get? aliasName = some object ∧
    object.property? p.id = some stored ∧ stored.values = [v] ∧ v.text? = some text

/-- A quoted text has itself as its value. -/
theorem Literal.value?_quote (text : String) : value? (quote text) = .ok (.string text) := by
  have hhead : (quote text).toList.head? = some '\'' := by
    rw [quote, String.toList_ofList]
    rfl
  have htrim : Text.trim (quote text).toList = (quote text).toList :=
    trim_of_isToken (IsWritten.quoted (Statement.isQuoted_quote text)).isToken hhead
  obtain ⟨cs, hcs⟩ := List.head?_eq_some_iff.1 hhead
  have hempty : (quote text).toList.isEmpty = false := by rw [hcs]; rfl
  have htrue : isWord "TRUE" (quote text).toList = false := by rw [hcs]; rfl
  have hfalse : isWord "FALSE" (quote text).toList = false := by rw [hcs]; rfl
  simp only [value?, htrim, hempty, htrue, hfalse, hhead, String.ofList_toList,
    Statement.unquote?_quote, Bool.false_eq_true, if_false, beq_self_eq_true, if_true]
  rfl

/-- What equals a string is a string or an id with the same text. -/
theorem Value.compare?_string_eq {v : Value} {text : String} :
    v.compare? (.string text) = some .eq ↔ v.text? = some text := by
  constructor
  · intro h
    generalize hw : Value.string text = w at h
    obtain ⟨o, ho⟩ : ∃ o, o = Ordering.eq := ⟨_, rfl⟩
    rw [← ho] at h
    cases compare?_eq_some_iff.1 h with
    | boolean => cases hw
    | datetime => cases hw
    | number _ hn =>
      subst hw
      cases hn
    | text hs ht =>
      subst hw
      cases ht
      rw [hs, Std.compare_eq_iff_eq.1 ho]
  · intro h
    rw [← Std.compare_eq_iff_eq.2 (rfl : text = text)]
    exact compare?_eq_some_iff.2 (.text h rfl)

variable {m : Type → Type} {row : Row}

namespace Evaluator

variable {e : Evaluator m} {node left right : Predicate} {p : PropertyDefinition}

/-- The text of a string or an id, if it is the only value of a column in a row. -/
def textOf? (e : Evaluator m) (row : Row) (node : Predicate) : Option String :=
  ((e.stored? row node).bind PropertyValue.single?).bind Value.text?

theorem textOf?_eq_some_iff {text : String} :
    e.textOf? row node = some text ↔ e.bound.HasText row node text := by
  unfold textOf? BoundStatement.HasText
  simp only [Option.bind_eq_some_iff, PropertyValue.single?_eq_some_iff]
  constructor
  · rintro ⟨v, ⟨stored, hstored, hvalues⟩, htext⟩
    cases node with
    | column c =>
      have hstored : e.storedProperty? row c.id = some stored := hstored
      obtain ⟨⟨aliasName, p⟩, hp, hrow⟩ := Option.bind_eq_some_iff.1 hstored
      obtain ⟨object, hobject, hstored⟩ := Option.bind_eq_some_iff.1 hrow
      exact ⟨c, aliasName, p, object, stored, v, rfl, hp, hobject, hstored, hvalues, htext⟩
    | _ => cases hstored
  · rintro ⟨c, aliasName, p, object, stored, v, rfl, hp, hobject, hstored, hvalues, htext⟩
    refine ⟨v, ⟨stored, ?_, hvalues⟩, htext⟩
    show e.storedProperty? row c.id = some stored
    simp [storedProperty?, hp, hobject, hstored]

variable [Monad m] [LawfulMonad m]

/-! ## Patterns -/

theorem testRelation_like_eq {pattern : String} (negated : Bool)
    (hp : Names e.bound.bindings left p) (ht : right.literalValue? = .ok (.string pattern))
    (hpattern : e.pattern pattern = .ofText pattern) :
    e.testRelation row (.like negated) left right =
      pure ((e.textOf? row left).any
        fun s => (Like.Pattern.ofText pattern).accepts s != negated) := by
  rw [testRelation_like negated left ht, operandValue_eq hp, pure_bind, hpattern]
  rfl

/-- The comparison of a column with a literal. -/
theorem testRelation_eq_literal {v : Value} (hp : Names e.bound.bindings left p)
    (ht : right.literalValue? = .ok v) (hright : right.IsLiteral) :
    e.testRelation row (.compare .eq) left right =
      pure (((e.stored? row left).bind PropertyValue.single?).any (·.equal v)) := by
  rw [testRelation_compare_literal .eq hp ht hright]
  congr 1
  rw [Bool.eq_iff_iff, compareOperands_eq_true, Option.any_eq_true]
  constructor
  · rintro ⟨a, _, o, ha, ⟨⟩, hcompare, haccepts, -⟩
    obtain rfl : o = .eq := by cases o <;> first | rfl | cases haccepts
    exact ⟨a, ha, beq_iff_eq.2 hcompare⟩
  · rintro ⟨a, ha, hequal⟩
    refine ⟨a, v, .eq, ha, rfl, beq_iff_eq.1 hequal, rfl, ?_⟩
    exact fun hordering => absurd hordering Bool.false_ne_true

theorem testRelation_eq_string {text : String} (hp : Names e.bound.bindings left p)
    (ht : right.literalValue? = .ok (.string text)) (hright : right.IsLiteral) :
    e.testRelation row (.compare .eq) left right =
      pure (e.textOf? row left == some text) := by
  rw [testRelation_eq_literal hp ht hright, textOf?]
  congr 1
  rw [Bool.eq_iff_iff, Option.any_eq_true, beq_iff_eq, Option.bind_eq_some_iff]
  refine exists_congr fun v => and_congr_right fun _ => ?_
  exact beq_iff_eq.trans Value.compare?_string_eq

end Evaluator

/-! ## Statements -/

variable [Monad m] [LawfulMonad m] {catalog : Catalog} {s : Statement} {bound : BoundStatement}

/-- **LIKE matching is exact.** A pattern accepts a value if the value splits, as a whole, into
parts that match the pattern. Of a LIKE test and its negative form one is true in every row in
which the column has a text, according to whether the text matches, and none in all other rows. -/
theorem like_exact :
    (∀ pattern value : String, (Like.Pattern.ofText pattern).accepts value = true ↔
      Like.Matches pattern.toList value.toList) ∧
    ∀ {source : String}, Statement.parse source = .ok s → s.bind catalog = .ok bound →
      ∀ (folders : FolderHierarchy) (index : Option (TextIndex m)) (caseSensitiveText : Bool),
      ∃ e, Evaluator.prepare bound folders index caseSensitiveText = .ok e ∧
        ∀ p ∈ s.filter, ∀ negated column literal,
          .relation (.like negated) column literal ∈ p.nodes →
          ∃ pattern, literal.literalValue? = .ok (.string pattern) ∧ ∀ row,
          ∃ like notLike : Bool,
            e.testRelation row (.like false) column literal = pure like ∧
            e.testRelation row (.like true) column literal = pure notLike ∧
            (∀ value, bound.HasText row column value →
              (like = true ↔ Like.Matches pattern.toList value.toList) ∧ notLike = !like) ∧
            ((∀ value, ¬bound.HasText row column value) → like = false ∧ notLike = false) ∧
            (p = .relation (.like negated) column literal →
              e.evaluateRow row = pure (if negated then notLike else like)) := by
  have haccepts (pattern value : String) : (Like.Pattern.ofText pattern).accepts value = true ↔
      Like.Matches pattern.toList value.toList :=
    Like.accepts_iff_splits.trans Like.matches_iff_splits.symm
  refine ⟨haccepts, fun hparse hbind folders index caseSensitiveText => ?_⟩
  obtain ⟨hcond, -⟩ := Statement.parse_ok hparse
  obtain ⟨rfl, hbound⟩ := bind_ok (Statement.selectors_ids_nodup hparse) hbind
  obtain ⟨e, hprepare, rfl, -, -, -, hpattern⟩ :=
    Evaluator.prepare_ok hcond hbound.filter folders index caseSensitiveText
  refine ⟨e, hprepare, fun p hp negated column literal hnode => ?_⟩
  obtain ⟨hlike, hvisit⟩ := (hcond p hp).of_mem_nodes hnode nofun nofun
  obtain ⟨_, ⟨⟩, ⟨property, hcolumn, -⟩, pattern, hvalue⟩ := hbound.filter p hp _ hvisit
  refine ⟨pattern, hvalue, fun row => ?_⟩
  have htest (negated : Bool) :
      e.testRelation row (.like negated) column literal = pure ((e.textOf? row column).any
        fun s => (Like.Pattern.ofText pattern).accepts s != negated) :=
    Evaluator.testRelation_like_eq negated hcolumn hvalue (hpattern pattern)
  refine ⟨_, _, htest false, htest true, fun value htext => ?_, fun hnone => ?_, ?_⟩
  · rw [Evaluator.textOf?_eq_some_iff.2 htext, Option.any_some, Option.any_some, Bool.bne_false,
      Bool.bne_true]
    exact ⟨haccepts pattern value, rfl⟩
  · have htext : e.textOf? row column = none := by
      cases h : e.textOf? row column with
      | none => rfl
      | some value => exact absurd (Evaluator.textOf?_eq_some_iff.1 h) (hnone value)
    rw [htext]
    exact ⟨rfl, rfl⟩
  · rintro rfl
    obtain ⟨c, aliasName, typeId, rfl, -⟩ := hcolumn
    cases hlike with
    | like _ _ _ =>
      refine Evaluator.evaluateRow_relation hp (Evaluator.idle_single rfl)
        (Evaluator.idle_of_literalValue? hvalue) ((htest negated).trans ?_)
      cases negated <;> rfl

/-- A row of one document with a list of names. -/
def namesRow (names : List String) : Row :=
  Row.empty.insert "cmis:document" (some { sampleDocument with
    properties := .ofList [("cmis:name", .multi (names.map .string))] })

theorem hasText_namesRow {c : ColumnRef} {p : PropertyDefinition} {names : List String}
    {text : String} (hp : bound.property? c.id = some ("cmis:document", p))
    (hid : p.id = "cmis:name") :
    bound.HasText (namesRow names) (.column c) text ↔ names = [text] := by
  have hstored (object : ContentObject) (h : (namesRow names).get? "cmis:document" = some object) :
      object.property? "cmis:name" = some (.multi (names.map .string)) := by
    cases h
    rfl
  constructor
  · rintro ⟨c', aliasName, q, object, stored, v, ⟨⟩, hq, hobject, hproperty, hvalues, htext⟩
    obtain ⟨rfl, rfl⟩ : "cmis:document" = aliasName ∧ p = q := by
      simpa using hp.symm.trans hq
    rw [hid, hstored object hobject] at hproperty
    cases hproperty
    obtain ⟨name, rfl, rfl⟩ := List.map_eq_singleton_iff.1 hvalues
    cases htext
    rfl
  · rintro rfl
    exact ⟨c, _, p, _, _, .string text, rfl, hp, rfl, by rw [hid, hstored _ rfl], rfl, rfl⟩

/-- What a sample query has as its only test. -/
def hasTest (s : Statement) (bound : BoundStatement) (r : Relation) (raw aliasName id : String) :
    Bool :=
  match s.filter with
  | some (.relation r' (.column c) (.literal raw')) => r' == r && raw' == raw &&
      (bound.property? c.id).any fun (aliasName', p) => aliasName' == aliasName && p.id == id
  | _ => false

theorem exists_of_hasTest {r : Relation} {raw aliasName id : String}
    (h : hasTest s bound r raw aliasName id = true) :
    ∃ c p, s.filter = some (.relation r (.column c) (.literal raw)) ∧
      bound.property? c.id = some (aliasName, p) ∧ p.id = id := by
  unfold hasTest at h
  split at h
  · rename_i r' c raw' hfilter
    simp only [Bool.and_eq_true, beq_iff_eq, Option.any_eq_true] at h
    obtain ⟨⟨rfl, rfl⟩, ⟨aliasName, p⟩, hp, rfl, hid⟩ := h
    exact ⟨c, p, hfilter, hp, hid⟩
  · cases h

/-- A pattern with an escaped wild card behind others, for a name with a line break and for two
names. -/
theorem like_exact_sample : ∃ s bound,
    Statement.parse "SELECT * FROM cmis:document WHERE cmis:name NOT LIKE '%_\\%'" = .ok s ∧
    s.bind .base = .ok bound ∧ ∃ e : Evaluator Id,
      Evaluator.prepare bound ⟨fun _ => none, fun _ => []⟩ none false = .ok e ∧
      e.evaluateRow (namesRow ["\n%"]) = pure false ∧
      e.evaluateRow (namesRow ["a", "b"]) = pure false := by
  refine exists_bound
    (fun s bound => hasTest s bound (.like true) "'%_\\%'" "cmis:document" "cmis:name")
    (by rw [Statement.parse_ofList]; decide +kernel) ?_
  intro s bound hs hbound hcheck
  obtain ⟨c, p, hfilter, hp, hid⟩ := exists_of_hasTest hcheck
  obtain ⟨hmatches, hrows⟩ := @like_exact Id _ _ .base s bound
  obtain ⟨e, he, htests⟩ := hrows hs hbound ⟨fun _ => none, fun _ => []⟩ none false
  obtain ⟨pattern, hpattern, hrow⟩ := htests _ hfilter true _ _ List.mem_cons_self
  obtain rfl : "%_\\%" = pattern := by
    have hvalue : Literal.value? "'%_\\%'" = .ok (.string "%_\\%") := rfl
    cases hvalue.symm.trans hpattern
    rfl
  refine ⟨e, he, ?_, ?_⟩
  · obtain ⟨like, _, -, -, htext, -, heval⟩ := hrow (namesRow ["\n%"])
    obtain ⟨hlike, rfl⟩ := htext "\n%" ((hasText_namesRow hp hid).2 rfl)
    rw [heval rfl, hlike.2 ((hmatches _ _).1 rfl)]
    rfl
  · obtain ⟨_, notLike, -, -, -, hnone, heval⟩ := hrow (namesRow ["a", "b"])
    rw [heval rfl, (hnone fun value htext => ?_).2]
    · rfl
    · cases (hasText_namesRow hp hid).1 htext

/-- The pattern of a text that stands for itself, as a string literal. -/
def literalPattern (text : String) : Predicate :=
  .literal (Literal.quote (String.ofList (Like.escape text.toList)))

/-- **Any text can be searched for literally.** Whatever characters a text consists of, the LIKE
test of a column with the quoted text, its wild cards escaped, and the comparison of the column
with the quoted text have the same result in every row: whether this is the text of the column. -/
theorem like_literally {source : String} (hparse : Statement.parse source = .ok s)
    (hbind : s.bind catalog = .ok bound) (folders : FolderHierarchy)
    (index : Option (TextIndex m)) (caseSensitiveText : Bool) :
    ∃ e, Evaluator.prepare bound folders index caseSensitiveText = .ok e ∧
      ∀ (c : ColumnRef) (aliasName : String) (p : PropertyDefinition),
      bound.property? c.id = some (aliasName, p) → ∀ (text : String) (row : Row),
      ∃ answer : Bool, (answer = true ↔ bound.HasText row (.column c) text) ∧
        e.testRelation row (.like false) (.column c) (literalPattern text) = pure answer ∧
        e.testRelation row (.compare .eq) (.column c) (.literal (Literal.quote text)) =
          pure answer ∧
        (s.filter = some (.relation (.like false) (.column c) (literalPattern text)) ∨
          s.filter = some (.relation (.compare .eq) (.column c) (.literal (Literal.quote text))) →
          e.evaluateRow row = pure answer) := by
  obtain ⟨hcond, -⟩ := Statement.parse_ok hparse
  obtain ⟨rfl, hbound⟩ := bind_ok (Statement.selectors_ids_nodup hparse) hbind
  obtain ⟨e, hprepare, rfl, -, -, -, hpattern⟩ :=
    Evaluator.prepare_ok hcond hbound.filter folders index caseSensitiveText
  refine ⟨e, hprepare, fun c aliasName p hp text row => ?_⟩
  obtain ⟨typeId, hr⟩ := BoundStatement.property?_eq_some_iff.1 hp
  have hnames : Names e.bound.bindings (.column c) p := ⟨c, aliasName, typeId, rfl, hr⟩
  have hvalue (s : String) :
      (Predicate.literal (Literal.quote s)).literalValue? = .ok (.string s) := by
    rw [Predicate.literalValue?, Literal.value?_quote]
  have hlike : e.testRelation row (.like false) (.column c) (literalPattern text) =
      pure (e.textOf? row (.column c) == some text) := by
    rw [literalPattern, Evaluator.testRelation_like_eq false hnames (hvalue _) (hpattern _)]
    congr 1
    rw [Bool.eq_iff_iff, beq_iff_eq, Option.any_eq_true]
    simp only [Bool.bne_false, Like.accepts_escape, exists_eq_right]
  have heq : e.testRelation row (.compare .eq) (.column c) (.literal (Literal.quote text)) =
      pure (e.textOf? row (.column c) == some text) :=
    Evaluator.testRelation_eq_string hnames (hvalue text) ⟨_, rfl⟩
  have hcolumn : Evaluator.Idle e row (Predicate.column c).trace := Evaluator.idle_single rfl
  refine ⟨_, beq_iff_eq.trans Evaluator.textOf?_eq_some_iff, hlike, heq, ?_⟩
  rintro (hfilter | hfilter)
  · exact Evaluator.evaluateRow_relation hfilter hcolumn
      (Evaluator.idle_of_literalValue? (hvalue _)) hlike
  · exact Evaluator.evaluateRow_relation hfilter hcolumn
      (Evaluator.idle_of_literalValue? (hvalue _)) heq

/-- A name with a quote, a wild card and backslashes. -/
def strangeName : String := "\\%'_\\"

theorem like_literally_strange : ∃ s bound,
    Statement.parse "SELECT * FROM cmis:document WHERE cmis:name LIKE '\\\\\\\\%\\'\\\\_\\\\'" =
      .ok s ∧
    s.bind .base = .ok bound ∧ ∃ e : Evaluator Id,
      Evaluator.prepare bound ⟨fun _ => none, fun _ => []⟩ none false = .ok e ∧
      e.evaluateRow (namesRow [strangeName]) = pure true ∧
      e.evaluateRow (namesRow ["\\%'a\\"]) = pure false := by
  refine exists_bound (fun s bound =>
      hasTest s bound (.like false) "'\\\\\\\\%\\'\\\\_\\\\'" "cmis:document" "cmis:name")
    (by rw [Statement.parse_ofList]; decide +kernel) ?_
  intro s bound hs hbound hcheck
  obtain ⟨c, p, hfilter, hp, hid⟩ := exists_of_hasTest hcheck
  have hraw : Predicate.literal "'\\\\\\\\%\\'\\\\_\\\\'" = literalPattern strangeName :=
    congrArg Predicate.literal rfl
  rw [hraw] at hfilter
  obtain ⟨e, he, htests⟩ := like_literally (m := Id) hs hbound ⟨fun _ => none, fun _ => []⟩ none
    false
  have hrow {name : String} {answer : Bool} (h : answer = true ↔ name = strangeName) :
      e.evaluateRow (namesRow [name]) = pure answer := by
    obtain ⟨answer', hanswer, -, -, heval⟩ := htests c _ p hp strangeName (namesRow [name])
    have heq : answer' = answer := by
      rw [Bool.eq_iff_iff, hanswer, hasText_namesRow hp hid, List.singleton_inj, h]
    rw [heval (.inl hfilter), heq]
  refine ⟨e, he, hrow (iff_of_true rfl rfl), hrow (iff_of_false Bool.false_ne_true ?_)⟩
  decide

end ContentQuery
