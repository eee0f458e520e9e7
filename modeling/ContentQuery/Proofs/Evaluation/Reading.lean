import ContentQuery.Evaluation.Basic
import ContentQuery.Proofs.Statement.Shape

/-!
# The reading of a WHERE tree

`Reading.Satisfies` says what a WHERE tree means in a row, by recursion over the tree and without
a stack or an order of visits. A `Reading` holds what this depends on: what the references stand
for, the row, the folder hierarchy and the outcome of the full-text search.
-/

set_option autoImplicit false

namespace ContentQuery

/-- What a WHERE tree is read in. -/
structure Reading where
  table : SelectorId → Option Resolution
  defaultAlias : String
  row : Row
  folders : FolderHierarchy
  found : FullText.Match

/-- The reading of a bound statement in a row. -/
def BoundStatement.reading (bound : BoundStatement) (folders : FolderHierarchy) (row : Row)
    (found : FullText.Match) : Reading :=
  ⟨bound.resolution?, bound.bindings.defaultAlias, row, folders, found⟩

namespace Reading

variable (w : Reading)

/-! ## Values -/

/-- An object in the row stores something under the property of a column. -/
def Stores (node : Predicate) (stored : PropertyValue) : Prop :=
  ∃ c aliasName typeId p object, node = .column c ∧
    w.table c.id = some (.property aliasName typeId p) ∧ w.row.get? aliasName = some object ∧
    object.property? p.id = some stored

/-- The value of an operand. A column has one if exactly one is stored. -/
inductive HasValue : Predicate → Value → Prop
  | literal {raw : String} {v : Value} : Literal.value? raw = .ok v → HasValue (.literal raw) v
  | score {f : FunctionRef} : HasValue (.score f) (.decimal w.found.score)
  | scoreAlias {c : ColumnRef} :
      w.table c.id = some .score → HasValue (.column c) (.decimal w.found.score)
  | property {node : Predicate} {stored : PropertyValue} {v : Value} :
      w.Stores node stored → stored.values = [v] → HasValue node v

section
variable {w} {v : Value}

theorem hasValue_literal_iff {raw : String} :
    w.HasValue (.literal raw) v ↔ Literal.value? raw = .ok v := by
  constructor
  · intro h
    cases h with
    | literal h => exact h
    | property hs _ => obtain ⟨_, _, _, _, _, ⟨⟩, -⟩ := hs
  · exact .literal

theorem hasValue_score_iff {f : FunctionRef} :
    w.HasValue (.score f) v ↔ .decimal w.found.score = v := by
  constructor
  · intro h
    cases h with
    | score => rfl
    | property hs _ => obtain ⟨_, _, _, _, _, ⟨⟩, -⟩ := hs
  · rintro rfl
    exact .score

theorem hasValue_scoreAlias_iff {c : ColumnRef} (hc : w.table c.id = some .score) :
    w.HasValue (.column c) v ↔ .decimal w.found.score = v := by
  constructor
  · intro h
    cases h with
    | scoreAlias => rfl
    | property hs _ =>
      obtain ⟨_, _, _, _, _, ⟨⟩, hp, -⟩ := hs
      cases hc.symm.trans hp
  · rintro rfl
    exact .scoreAlias hc

end

/-- A value equals one of a list. -/
def Among (v : Value) (vs : List Value) : Prop := ∃ x ∈ vs, v.compare? x = some .eq

/-- The object under an alias is in a folder. -/
def InFolder (scope : FolderScope) (aliasName : String) (folder : Predicate) : Prop :=
  ∃ folderId object, folder.literalValue? = .ok (.string folderId) ∧
    w.row.get? aliasName = some object ∧
    match scope with
    | .children => w.folders.parent? object.id = some folderId
    | .descendants => folderId ∈ w.folders.ancestors object.id

/-! ## Trees -/

/-- A relation holds between its operands. -/
def Holds (r : Relation) (left right : Predicate) : Prop :=
  match r with
  | .compare op => ∃ a b o, w.HasValue left a ∧ w.HasValue right b ∧ a.compare? b = some o ∧
      op.accepts o = true ∧ (op.isOrdering = true → a.kind ≠ .boolean ∧ b.kind ≠ .boolean)
  | .isIn negated => ∃ v vs, w.HasValue left v ∧ right.literalValues? = .ok vs ∧
      (Among v vs ↔ negated = false)
  | .anyIn negated => ∃ stored vs, w.Stores left stored ∧ right.literalValues? = .ok vs ∧
      ∃ v ∈ stored.values, Among v vs ↔ negated = false
  | .equalsAny => ∃ v stored, left.literalValue? = .ok v ∧ w.Stores right stored ∧
      ∃ x ∈ stored.values, x.compare? v = some .eq
  | .like negated => ∃ v text pattern, w.HasValue left v ∧ v.text? = some text ∧
      right.literalValue? = .ok (.string pattern) ∧
      ((Like.Pattern.ofText pattern).accepts text = true ↔ negated = false)

/-- **The meaning of a WHERE tree in a row.** -/
def Satisfies : Predicate → Prop
  | .relation r left right => w.Holds r left right
  | .and left right => Satisfies left ∧ Satisfies right
  | .or left right => Satisfies left ∨ Satisfies right
  | .not operand => ¬Satisfies operand
  | .isNull negated operand =>
    (∀ stored, w.Stores operand stored → stored.values = []) ↔ negated = false
  | .contains _ _ => w.found.matched = true
  | .inFolder scope folder => w.InFolder scope w.defaultAlias folder
  | .inFolderOf scope qualifier folder => ∃ c aliasName, qualifier = .column c ∧
      c.qualifier = some aliasName ∧ w.InFolder scope aliasName folder
  | _ => False

end Reading

/-- Whether the meaning of a tree depends on the full-text search: on its outcome or its score. -/
def Predicate.asksSearch (table : SelectorId → Option Resolution) : Predicate → Bool
  | .relation _ left right => left.asksSearch table || right.asksSearch table
  | .and left right => left.asksSearch table || right.asksSearch table
  | .or left right => left.asksSearch table || right.asksSearch table
  | .not operand => operand.asksSearch table
  | .contains _ _ => true
  | .score _ => true
  | .column c => table c.id == some .score
  | _ => false

/-- The left side of every `= ANY` in a tree is a literal. -/
def Predicate.LiteralBeforeAny (p : Predicate) : Prop :=
  ∀ left right, .relation .equalsAny left right ∈ p.nodes → left.IsLiteral

/-- A node is no `= ANY`, or one with a literal on its left side. -/
def Predicate.isLiteralBeforeAny : Predicate → Bool
  | .relation .equalsAny (.literal _) _ => true
  | .relation .equalsAny _ _ => false
  | _ => true

instance (p : Predicate) : Decidable p.LiteralBeforeAny :=
  decidable_of_iff (∀ node ∈ p.nodes, node.isLiteralBeforeAny = true) <| by
    constructor
    · intro h left right hmem
      have hnode := h _ hmem
      unfold Predicate.isLiteralBeforeAny at hnode
      cases left with
      | literal raw => exact ⟨raw, rfl⟩
      | _ => cases hnode
    · intro h node hmem
      unfold Predicate.isLiteralBeforeAny
      split
      · rfl
      · rename_i left right hleft
        obtain ⟨raw, rfl⟩ := h left right hmem
        exact absurd rfl (hleft raw)
      · rfl

namespace Predicate.LiteralBeforeAny

variable {left right p : Predicate}

theorem and_iff : (Predicate.and left right).LiteralBeforeAny ↔
    left.LiteralBeforeAny ∧ right.LiteralBeforeAny := by
  simp [LiteralBeforeAny, nodes, or_imp, forall_and]

theorem or_iff : (Predicate.or left right).LiteralBeforeAny ↔
    left.LiteralBeforeAny ∧ right.LiteralBeforeAny := by
  simp [LiteralBeforeAny, nodes, or_imp, forall_and]

theorem not_iff : (Predicate.not p).LiteralBeforeAny ↔ p.LiteralBeforeAny := by
  simp [LiteralBeforeAny, nodes]

theorem relation_iff {r : Relation} (hc : (relation r left right).IsCondition) :
    (relation r left right).LiteralBeforeAny ↔ (r = .equalsAny → left.IsLiteral) := by
  constructor
  · rintro h rfl
    exact h left right List.mem_cons_self
  · intro h a b hmem
    cases hc.eq_of_mem_relation hmem nofun nofun
    exact h rfl

end Predicate.LiteralBeforeAny

end ContentQuery
