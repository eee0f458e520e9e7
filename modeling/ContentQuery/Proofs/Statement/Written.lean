import ContentQuery.FullText.Printer
import ContentQuery.Proofs.Statement.Tokens

/-!
# What the parser reads

Predicates that say of each part of a statement that the parser can have read it: names are
identifiers, literals are tokens, a word that decides between two forms does not stand where it
would decide otherwise, and references have the ids that they are given in the order of the text.
The first id and the one after the last are arguments of each predicate, so that parts are put
together by `Chain`.
-/

set_option autoImplicit false

namespace ContentQuery

open Statement (IsName IsQuoted IsNumber literalAt)

/-- Parts that follow each other, each of them from the state that the one before it has left. -/
inductive Chain {σ α : Type} (R : σ → α → σ → Prop) : σ → List α → σ → Prop
  | nil (s : σ) : Chain R s [] s
  | cons {s t u : σ} {x : α} {xs : List α} : R s x t → Chain R t xs u → Chain R s (x :: xs) u

/-! ## Literals and references -/

/-- A text that is read as one literal. -/
inductive Literal.IsWritten : String → Prop
  | quoted {raw : String} : IsQuoted raw → IsWritten raw
  | timestamp {raw : String} : IsQuoted raw → IsWritten ("TIMESTAMP " ++ raw)
  | true : IsWritten "TRUE"
  | false : IsWritten "FALSE"
  | number {raw : String} : IsNumber raw → IsWritten raw

/-- A name, or a qualifier with a name or the wild card behind it. -/
structure ColumnRef.IsWritten (first : SelectorId) (c : ColumnRef) : Prop where
  id : c.id = first
  qualifier : ∀ q ∈ c.qualifier, IsName q
  property : IsName c.property ∨ c.qualifier ≠ none ∧ c.property = wildcard

structure FunctionRef.IsWritten (first : SelectorId) (f : FunctionRef) : Prop where
  id : f.id = first
  name : IsName f.name

inductive Selector.IsWritten : SelectorId → Selector → SelectorId → Prop
  | column {first : SelectorId} {c : ColumnRef} :
      c.IsWritten first → IsWritten first (.column c) (first + 1)
  | function {first : SelectorId} {f : FunctionRef} :
      f.IsWritten first → IsWritten first (.function f) (first + 1)

/-! ## SELECT, FROM and ORDER BY -/

inductive SelectItem.IsWritten : SelectorId → SelectItem → SelectorId → Prop
  | all (first : SelectorId) {aliasName : Option String} : (∀ a ∈ aliasName, IsName a) →
      IsWritten first ⟨.column ⟨first, none, wildcard⟩, aliasName⟩ (first + 1)
  | one {first next : SelectorId} {selector : Selector} {aliasName : Option String} :
      selector.IsWritten first next → (∀ a ∈ aliasName, IsName a) →
      IsWritten first ⟨selector, aliasName⟩ next

/-- A type, and the two columns of its condition if it is joined to others. -/
inductive Source.IsWritten : SelectorId → Source → SelectorId → Prop
  | single (first : SelectorId) {typeId : String} {aliasName : Option String} :
      IsName typeId → (∀ a ∈ aliasName, IsName a) → IsWritten first ⟨typeId, aliasName, none⟩ first
  | joined {first : SelectorId} {typeId : String} {aliasName : Option String} {join : JoinSpec} :
      IsName typeId → (∀ a ∈ aliasName, IsName a) → join.left.IsWritten first →
      join.right.IsWritten (first + 1) → IsWritten first ⟨typeId, aliasName, some join⟩ (first + 2)

def SortSpec.IsWritten (first : SelectorId) (spec : SortSpec) (next : SelectorId) : Prop :=
  spec.selector.IsWritten first next

/-! ## WHERE -/

namespace Predicate

/-- The name that a column or a function starts with. -/
def leadingName? : Predicate → Option String
  | column c => some (c.qualifier.getD c.property)
  | score f => some f.name
  | _ => none

/-- Whether a tree does not start with one of these words, in any case. -/
def Avoids (words : List String) (p : Predicate) : Prop :=
  ∀ name ∈ p.leadingName?, ∀ word ∈ words, Literal.isWord word name.toList = false

/-- The words with which a literal starts. -/
def literalWords : List String := ["TIMESTAMP", "TRUE", "FALSE"]

theorem isName_of_mem_literalWords {word : String} (h : word ∈ literalWords) : IsName word := by
  simp only [literalWords, List.mem_cons, List.not_mem_nil, or_false] at h
  rcases h with rfl | rfl | rfl <;> decide

theorem literalAt_of_keywordAt {word : String} {cs : List Char}
    (hword : word ∈ literalWords) (h : Statement.keywordAt word cs = true) :
    literalAt cs = true := by
  cases cs with
  | nil => cases h
  | cons c cs =>
    simp only [literalWords, List.mem_cons, List.not_mem_nil, or_false] at hword
    rcases hword with rfl | rfl | rfl <;> simp [literalAt, h]

/-- A literal without quotes and words stands where its first character says so. -/
theorem literalAt_of_head? {cs ds : List Char} (hhead : cs.head? = ds.head?)
    (h : literalAt ds = true)
    (hwords : ∀ word ∈ literalWords, Statement.keywordAt word ds = false) :
    literalAt cs = true := by
  simp only [literalWords, List.forall_mem_cons] at hwords
  obtain ⟨htimestamp, htrue, hfalse, -⟩ := hwords
  cases ds with
  | nil => cases h
  | cons d ds =>
    cases cs with
    | nil => cases hhead
    | cons c cs =>
      obtain rfl : c = d := Option.some.inj hhead
      simp only [literalAt, htimestamp, htrue, hfalse, Bool.or_false] at h
      simp only [literalAt, h, Bool.true_or]

/-- The words that decide about a test before its left operand is read. -/
def testWords : List String := ["NOT", "CONTAINS", "IN_FOLDER", "IN_TREE", "ANY"]

/-- What stands beside an operator. -/
inductive IsWrittenOperand : SelectorId → Predicate → SelectorId → Prop
  | column {first : SelectorId} {c : ColumnRef} : c.IsWritten first →
      (column c).Avoids literalWords → IsWrittenOperand first (.column c) (first + 1)
  | score {first : SelectorId} {f : FunctionRef} : f.IsWritten first →
      (score f).Avoids literalWords → IsWrittenOperand first (.score f) (first + 1)
  | literal (first : SelectorId) {raw : String} : Literal.IsWritten raw →
      literalAt raw.toList = true → IsWrittenOperand first (.literal raw) first

/-- What stands to the left of an operator. -/
structure IsWrittenLeft (first : SelectorId) (p : Predicate) (next : SelectorId) : Prop where
  operand : p.IsWrittenOperand first next
  avoids : p.Avoids testWords

/-- A list of literals has at least one. -/
inductive IsWrittenList : Predicate → Prop
  | intro {raws : List String} : raws ≠ [] → (∀ raw ∈ raws, Literal.IsWritten raw) →
      IsWrittenList (.literalList (raws.map .literal))

/-- A WHERE tree. An `=` with the word `ANY` behind it is another test. -/
inductive IsWritten : SelectorId → Predicate → SelectorId → Prop
  | compare (op : Comparison) {first mid next : SelectorId} {l r : Predicate} :
      l.IsWrittenLeft first mid → r.IsWrittenOperand mid next →
      (op = .eq → r.Avoids ["ANY"]) → IsWritten first (.relation (.compare op) l r) next
  | isIn (negated : Bool) {first next : SelectorId} {l items : Predicate} :
      l.IsWrittenLeft first next → items.IsWrittenList →
      IsWritten first (.relation (.isIn negated) l items) next
  | anyIn (negated : Bool) {first : SelectorId} {c : ColumnRef} {items : Predicate} :
      c.IsWritten first → items.IsWrittenList →
      IsWritten first (.relation (.anyIn negated) (.column c) items) (first + 1)
  | equalsAny {first mid : SelectorId} {l : Predicate} {c : ColumnRef} :
      l.IsWrittenLeft first mid → c.IsWritten mid →
      IsWritten first (.relation .equalsAny l (.column c)) (mid + 1)
  | like (negated : Bool) {first next : SelectorId} {l : Predicate} {raw : String} :
      l.IsWrittenLeft first next → Literal.IsWritten raw →
      IsWritten first (.relation (.like negated) l (.literal raw)) next
  | isNull (negated : Bool) {first next : SelectorId} {l : Predicate} :
      l.IsWrittenLeft first next → IsWritten first (.isNull negated l) next
  | contains (first : SelectorId) {qualifier : Option String} {search : FullText.Tree} :
      (∀ q ∈ qualifier, IsName q) → FullText.parse search.toText = .ok search →
      IsWritten first (.contains qualifier search) first
  | inFolder (first : SelectorId) (scope : FolderScope) {raw : String} : IsQuoted raw →
      IsWritten first (.inFolder scope (.literal raw)) first
  | inFolderOf (first : SelectorId) (scope : FolderScope) {q raw : String} : IsName q →
      Literal.IsWritten raw →
      IsWritten first (.inFolderOf scope (.column ⟨first, some q, wildcard⟩) (.literal raw))
        (first + 1)
  | and {first mid next : SelectorId} {l r : Predicate} :
      l.IsWritten first mid → r.IsWritten mid next → IsWritten first (.and l r) next
  | or {first mid next : SelectorId} {l r : Predicate} :
      l.IsWritten first mid → r.IsWritten mid next → IsWritten first (.or l r) next
  | not {first next : SelectorId} {p : Predicate} :
      p.IsWritten first next → IsWritten first (.not p) next

end Predicate

/-! ## Statements -/

namespace Statement

/-- A list of types with joins behind one without. -/
inductive IsWrittenFrom : SelectorId → List Source → SelectorId → Prop
  | intro {first next : SelectorId} {source : Source} {others : List Source} :
      source.join = none → source.IsWritten first first → (∀ s ∈ others, s.join ≠ none) →
      Chain Source.IsWritten first others next → IsWrittenFrom first (source :: others) next

/-- A WHERE clause, if there is one. -/
inductive IsWrittenFilter : SelectorId → Option Predicate → SelectorId → Prop
  | none (first : SelectorId) : IsWrittenFilter first none first
  | some {first next : SelectorId} {p : Predicate} :
      p.IsWritten first next → IsWrittenFilter first (some p) next

/-- A whole statement. -/
inductive IsWritten (s : Statement) : Prop
  | intro {a b c d : SelectorId} : s.select ≠ [] → Chain SelectItem.IsWritten 0 s.select a →
      IsWrittenFrom a s.sources b → IsWrittenFilter b s.filter c →
      Chain SortSpec.IsWritten c s.orderBy d → IsWritten s

end Statement

end ContentQuery
