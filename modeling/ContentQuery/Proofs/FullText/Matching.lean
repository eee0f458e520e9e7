import ContentQuery.Proofs.FullText.Tokens
import ContentQuery.Proofs.Run

/-!
# The outcome of a search

`Tree.Holds` is the meaning of a search tree, by recursion over the tree and without a stack, and
`Tree.hits` counts the leaves to which a search owes its score. `run_test` is the invariant of the
stack machine: the test of a tree pushes its meaning, adds its hits to the score and leaves the rest
of the stack as it is, or fails as `Tree.check` does.
-/

set_option autoImplicit false

namespace ContentQuery.FullText

namespace Tree

/-! ## Meaning -/

mutual

/-- **The meaning of a search**, where `occurs` says which terms are found. -/
def Holds (occurs : String → Prop) : Tree → Prop
  | conjunction cs => AllHold occurs cs
  | disjunction cs => AnyHolds occurs cs
  | negation c => ¬c.Holds occurs
  | word raw => ∃ term, Literal.searchTerm? raw = .ok term ∧ occurs term
  | phrase raw => ∃ term, Literal.searchTerm? raw = .ok term ∧ occurs term

/-- All trees of a list hold. -/
def AllHold (occurs : String → Prop) : List Tree → Prop
  | [] => True
  | c :: cs => c.Holds occurs ∧ AllHold occurs cs

/-- Some tree of a list holds. -/
def AnyHolds (occurs : String → Prop) : List Tree → Prop
  | [] => False
  | c :: cs => c.Holds occurs ∨ AnyHolds occurs cs

end

mutual

/-- The words and phrases of a tree that are not below a minus sign, from left to right. -/
def positiveLeaves : Tree → List Tree
  | conjunction cs => positiveLeavesOfAll cs
  | disjunction cs => positiveLeavesOfAll cs
  | negation _ => []
  | word raw => [.word raw]
  | phrase raw => [.phrase raw]

/-- Those of a list of trees, one tree after the other. -/
def positiveLeavesOfAll : List Tree → List Tree
  | [] => []
  | c :: cs => c.positiveLeaves ++ positiveLeavesOfAll cs

end

section
variable {occurs : String → Prop} {cs : List Tree} {c : Tree} {raw : String}

theorem allHold_iff : AllHold occurs cs ↔ ∀ c ∈ cs, c.Holds occurs := by
  induction cs with
  | nil => simp [AllHold]
  | cons c cs ih => simp [AllHold, ih]

theorem anyHolds_iff : AnyHolds occurs cs ↔ ∃ c ∈ cs, c.Holds occurs := by
  induction cs with
  | nil => simp [AnyHolds]
  | cons c cs ih => simp [AnyHolds, ih]

@[simp] theorem holds_conjunction :
    (conjunction cs).Holds occurs ↔ ∀ c ∈ cs, c.Holds occurs := allHold_iff

@[simp] theorem holds_disjunction :
    (disjunction cs).Holds occurs ↔ ∃ c ∈ cs, c.Holds occurs := anyHolds_iff

@[simp] theorem holds_negation : (negation c).Holds occurs ↔ ¬c.Holds occurs := Iff.rfl

@[simp] theorem holds_word : (word raw).Holds occurs ↔
    ∃ term, Literal.searchTerm? raw = .ok term ∧ occurs term := Iff.rfl

@[simp] theorem holds_phrase : (phrase raw).Holds occurs ↔
    ∃ term, Literal.searchTerm? raw = .ok term ∧ occurs term := Iff.rfl

end

/-- Whether a leaf with this text holds can be decided if this can be done for terms. -/
def decideTerm (occurs : String → Prop) [DecidablePred occurs] (raw : String) :
    Decidable (∃ term, Literal.searchTerm? raw = .ok term ∧ occurs term) :=
  match h : Literal.searchTerm? raw with
  | .ok term => decidable_of_iff (occurs term) (by simp)
  | .error _ => .isFalse (by simp)

mutual

def decideHolds (occurs : String → Prop) [DecidablePred occurs] :
    (t : Tree) → Decidable (t.Holds occurs)
  | conjunction cs => decideAllHold occurs cs
  | disjunction cs => decideAnyHolds occurs cs
  | negation c => @instDecidableNot _ (c.decideHolds occurs)
  | word raw => decideTerm occurs raw
  | phrase raw => decideTerm occurs raw

def decideAllHold (occurs : String → Prop) [DecidablePred occurs] :
    (cs : List Tree) → Decidable (AllHold occurs cs)
  | [] => .isTrue trivial
  | c :: cs => @instDecidableAnd _ _ (c.decideHolds occurs) (decideAllHold occurs cs)

def decideAnyHolds (occurs : String → Prop) [DecidablePred occurs] :
    (cs : List Tree) → Decidable (AnyHolds occurs cs)
  | [] => .isFalse id
  | c :: cs => @instDecidableOr _ _ (c.decideHolds occurs) (decideAnyHolds occurs cs)

end

instance (occurs : String → Prop) [DecidablePred occurs] : DecidablePred (Holds occurs) :=
  decideHolds occurs

/-- The number of leaves that hold and are not below a minus sign. -/
def hits (occurs : String → Prop) [DecidablePred occurs] (t : Tree) : Nat :=
  t.positiveLeaves.countP (·.Holds occurs)

/-- The truth values of a list of trees. -/
def results (occurs : String → Prop) [DecidablePred occurs] (cs : List Tree) : List Bool :=
  cs.map fun c => decide (c.Holds occurs)

/-- The hits of a list of trees together. -/
def hitsOfAll (occurs : String → Prop) [DecidablePred occurs] (cs : List Tree) : Nat :=
  (positiveLeavesOfAll cs).countP (·.Holds occurs)

section
variable {occurs : String → Prop} [DecidablePred occurs] {cs : List Tree} {c : Tree} {raw : String}

@[simp] theorem length_results : (results occurs cs).length = cs.length := List.length_map _

@[simp] theorem results_cons :
    results occurs (c :: cs) = decide (c.Holds occurs) :: results occurs cs := rfl

theorem all_results :
    (results occurs cs).all id = decide ((conjunction cs).Holds occurs) :=
  Bool.eq_iff_iff.2 (by simp [results])

theorem any_results :
    (results occurs cs).any id = decide ((disjunction cs).Holds occurs) :=
  Bool.eq_iff_iff.2 (by simp [results])

@[simp] theorem hits_conjunction : (conjunction cs).hits occurs = hitsOfAll occurs cs := rfl

@[simp] theorem hits_disjunction : (disjunction cs).hits occurs = hitsOfAll occurs cs := rfl

@[simp] theorem hits_negation : (negation c).hits occurs = 0 := rfl

@[simp] theorem hitsOfAll_nil : hitsOfAll occurs [] = 0 := rfl

@[simp] theorem hitsOfAll_cons :
    hitsOfAll occurs (c :: cs) = c.hits occurs + hitsOfAll occurs cs := by
  simp [hitsOfAll, hits, positiveLeavesOfAll]

theorem hits_word : (word raw).hits occurs = if (word raw).Holds occurs then 1 else 0 := by
  rw [hits, positiveLeaves, List.countP_singleton]
  simp only [decide_eq_true_eq]

theorem hits_phrase : (phrase raw).hits occurs = if (phrase raw).Holds occurs then 1 else 0 := by
  rw [hits, positiveLeaves, List.countP_singleton]
  simp only [decide_eq_true_eq]

end

/-! ## Leaves -/

mutual

theorem positiveLeaves_sublist : ∀ t : Tree, t.positiveLeaves.Sublist t.leaves
  | conjunction cs => positiveLeavesOfAll_sublist cs
  | disjunction cs => positiveLeavesOfAll_sublist cs
  | negation _ => List.nil_sublist _
  | word _ => List.Sublist.refl _
  | phrase _ => List.Sublist.refl _

theorem positiveLeavesOfAll_sublist : ∀ cs : List Tree,
    (positiveLeavesOfAll cs).Sublist (leavesOfAll cs)
  | [] => List.Sublist.refl _
  | c :: cs => (positiveLeaves_sublist c).append (positiveLeavesOfAll_sublist cs)

end

section
variable {occurs occurs' : String → Prop}

mutual

/-- A leaf holds if its term occurs. -/
theorem holds_of_mem_leaves {leaf : Tree} : ∀ t : Tree, leaf ∈ t.leaves →
    (leaf.Holds occurs ↔ ∃ term, leaf.term? = .ok term ∧ occurs term)
  | conjunction cs, h => holds_of_mem_leavesOfAll cs h
  | disjunction cs, h => holds_of_mem_leavesOfAll cs h
  | negation c, h => holds_of_mem_leaves c h
  | word _, h => by
    obtain rfl := List.mem_singleton.1 h
    exact Iff.rfl
  | phrase _, h => by
    obtain rfl := List.mem_singleton.1 h
    exact Iff.rfl

theorem holds_of_mem_leavesOfAll {leaf : Tree} : ∀ cs : List Tree, leaf ∈ leavesOfAll cs →
    (leaf.Holds occurs ↔ ∃ term, leaf.term? = .ok term ∧ occurs term)
  | [], h => nomatch h
  | c :: cs, h => by
    rcases List.mem_append.1 h with h | h
    · exact holds_of_mem_leaves c h
    · exact holds_of_mem_leavesOfAll cs h

end

mutual

/-- The meaning of a search depends on nothing but which of its terms occur. -/
theorem holds_congr : ∀ t : Tree,
    (∀ leaf ∈ t.leaves, ∀ term, leaf.term? = .ok term → (occurs term ↔ occurs' term)) →
      (t.Holds occurs ↔ t.Holds occurs')
  | conjunction cs, h => allHold_congr cs h
  | disjunction cs, h => anyHolds_congr cs h
  | negation c, h => not_congr (holds_congr c h)
  | word raw, h =>
    exists_congr fun term => and_congr_right (h (word raw) (List.mem_singleton_self _) term)
  | phrase raw, h =>
    exists_congr fun term => and_congr_right (h (phrase raw) (List.mem_singleton_self _) term)

theorem allHold_congr : ∀ cs : List Tree,
    (∀ leaf ∈ leavesOfAll cs, ∀ term, leaf.term? = .ok term → (occurs term ↔ occurs' term)) →
      (AllHold occurs cs ↔ AllHold occurs' cs)
  | [], _ => Iff.rfl
  | c :: cs, h =>
    and_congr (holds_congr c fun leaf hleaf => h leaf (List.mem_append_left _ hleaf))
      (allHold_congr cs fun leaf hleaf => h leaf (List.mem_append_right _ hleaf))

theorem anyHolds_congr : ∀ cs : List Tree,
    (∀ leaf ∈ leavesOfAll cs, ∀ term, leaf.term? = .ok term → (occurs term ↔ occurs' term)) →
      (AnyHolds occurs cs ↔ AnyHolds occurs' cs)
  | [], _ => Iff.rfl
  | c :: cs, h =>
    or_congr (holds_congr c fun leaf hleaf => h leaf (List.mem_append_left _ hleaf))
      (anyHolds_congr cs fun leaf hleaf => h leaf (List.mem_append_right _ hleaf))

end

variable [DecidablePred occurs] [DecidablePred occurs']

theorem hits_le_length_leaves (t : Tree) : t.hits occurs ≤ t.leaves.length :=
  List.countP_le_length.trans (positiveLeaves_sublist t).length_le

/-- Where more terms occur, more leaves count. -/
theorem hits_mono (hmore : ∀ term, occurs term → occurs' term) (t : Tree) :
    t.hits occurs ≤ t.hits occurs' := by
  refine List.countP_mono_left fun leaf hleaf h => ?_
  have hleaf := (positiveLeaves_sublist t).subset hleaf
  obtain ⟨term, hterm, h⟩ := (holds_of_mem_leaves t hleaf).1 (of_decide_eq_true h)
  exact decide_eq_true ((holds_of_mem_leaves t hleaf).2 ⟨term, hterm, hmore term h⟩)

/-- The score of a search depends on nothing but which of its terms occur. -/
theorem hits_congr {t : Tree}
    (h : ∀ leaf ∈ t.leaves, ∀ term, leaf.term? = .ok term → (occurs term ↔ occurs' term)) :
    t.hits occurs = t.hits occurs' := by
  refine List.countP_congr fun leaf hleaf => ?_
  have hleaf := (positiveLeaves_sublist t).subset hleaf
  rw [decide_eq_true_eq, decide_eq_true_eq, holds_of_mem_leaves t hleaf,
    holds_of_mem_leaves t hleaf]
  exact exists_congr fun term => and_congr_right (h leaf hleaf term)

end

/-! ## Checks -/

/-- All leaves of a tree decode. -/
def Decodes (t : Tree) : Prop := ∀ leaf ∈ t.leaves, ∃ term, leaf.term? = .ok term

theorem decodes_of_check {t : Tree} (h : t.check = .ok ()) : t.Decodes := by
  intro leaf hleaf
  have hterm := forM_eq_ok h leaf hleaf
  cases hl : leaf.term? with
  | error e => rw [hl] at hterm; cases hterm
  | ok term => exact ⟨term, rfl⟩

theorem check_of_decodes {t : Tree} (h : t.Decodes) : t.check = .ok () := by
  refine forM_of_forall_ok fun leaf hleaf => ?_
  obtain ⟨term, hterm⟩ := h leaf hleaf
  rw [hterm]
  rfl

/-- The check fails if and only if there is a leaf that does not decode. -/
theorem check_fails_iff {t : Tree} :
    (∃ e, t.check = .error e) ↔ ∃ leaf ∈ t.leaves, ∃ e, leaf.term? = .error e := by
  constructor
  · rintro ⟨e, h⟩
    by_contra hnone
    have hdecodes : t.Decodes := by
      intro leaf hleaf
      cases hterm : leaf.term? with
      | error e => exact absurd ⟨leaf, hleaf, e, hterm⟩ hnone
      | ok term => exact ⟨term, rfl⟩
    rw [check_of_decodes hdecodes] at h
    cases h
  · rintro ⟨leaf, hleaf, e, hterm⟩
    cases h : t.check with
    | error e => exact ⟨e, rfl⟩
    | ok _ =>
      obtain ⟨term, hok⟩ := decodes_of_check h leaf hleaf
      rw [hterm] at hok
      cases hok

/-- Checks the leaves of a list of trees. -/
def checkAll (cs : List Tree) : Except LiteralError Unit :=
  (leavesOfAll cs).forM fun leaf => leaf.term?.map fun _ => ()

theorem check_negation (c : Tree) : (negation c).check = c.check := rfl

theorem check_word (raw : String) :
    (word raw).check = (Literal.searchTerm? raw).map fun _ => () := by
  simp [check, leaves, term?]

theorem check_phrase (raw : String) :
    (phrase raw).check = (Literal.searchTerm? raw).map fun _ => () := by
  simp [check, leaves, term?]

theorem checkAll_cons (c : Tree) (cs : List Tree) :
    checkAll (c :: cs) = (do c.check; checkAll cs) :=
  List.forM_append

end Tree

/-! ## The stack machine -/

section
variable (m : Matcher) (tokens : List String)

@[simp] theorem run_push (result : Bool) (p : Progress) :
    (push result).run p = .ok ((), ⟨result :: p.stack, p.score⟩) := rfl

theorem run_popResults (results stack : List Bool) (score : UInt32) :
    (popResults results.length).run ⟨results ++ stack, score⟩ = .ok (results, ⟨stack, score⟩) := by
  show Except.ok ((results ++ stack).take results.length,
    Progress.mk ((results ++ stack).drop results.length) score) = _
  rw [List.take_left, List.drop_left]

/-- A connective puts one result in the place of those of its children. -/
theorem run_connective (f : List Bool → Bool) {cs : List Tree} {p : Progress}
    (hall : (m.testAll tokens cs).run p = (Tree.checkAll cs).map fun _ =>
      ((), ⟨(Tree.results (m.Occurs tokens) cs).reverse ++ p.stack,
        p.score + UInt32.ofNat (Tree.hitsOfAll (m.Occurs tokens) cs)⟩)) :
    (do m.testAll tokens cs; push (f (← popResults cs.length)) : TreeTest Unit).run p =
      (Tree.checkAll cs).map fun _ =>
        ((), ⟨f (Tree.results (m.Occurs tokens) cs).reverse :: p.stack,
          p.score + UInt32.ofNat (Tree.hitsOfAll (m.Occurs tokens) cs)⟩) := by
  have hcount : cs.length = (Tree.results (m.Occurs tokens) cs).reverse.length := by simp
  rw [StateT.run_bind, hall]
  cases Tree.checkAll cs with
  | error e => rfl
  | ok _ =>
    show (do push (f (← popResults cs.length)) : TreeTest Unit).run _ = _
    rw [StateT.run_bind, hcount, run_popResults]
    rfl

theorem run_testTerm (term : String) (p : Progress) :
    (m.testTerm tokens term).run p = .ok ((), ⟨decide (m.Occurs tokens term) :: p.stack,
      p.score + UInt32.ofNat (if m.Occurs tokens term then 1 else 0)⟩) := by
  rw [Matcher.testTerm, contains_eq]
  by_cases h : m.Occurs tokens term
  · simp [h]
  · simp [h]

theorem run_leaf (raw : String) (p : Progress) :
    (do m.testTerm tokens (← Literal.searchTerm? raw) : TreeTest Unit).run p =
      (Literal.searchTerm? raw).map fun term => ((), ⟨decide (m.Occurs tokens term) :: p.stack,
        p.score + UInt32.ofNat (if m.Occurs tokens term then 1 else 0)⟩) := by
  cases h : Literal.searchTerm? raw with
  | error e => rfl
  | ok term => exact run_testTerm m tokens term p

mutual

/-- **The test of a tree** pushes its meaning, adds its hits to the score and leaves the rest of
the stack as it is; or it fails as the check of the tree does. -/
theorem run_test : ∀ (t : Tree) (p : Progress), (m.test tokens t).run p =
    t.check.map fun _ => ((), ⟨decide (t.Holds (m.Occurs tokens)) :: p.stack,
      p.score + UInt32.ofNat (t.hits (m.Occurs tokens))⟩)
  | .conjunction cs, p => by
    rw [Matcher.test, run_connective m tokens (·.all id) (run_testAll cs p), List.all_reverse,
      Tree.all_results]
    rfl
  | .disjunction cs, p => by
    rw [Matcher.test, run_connective m tokens (·.any id) (run_testAll cs p), List.any_reverse,
      Tree.any_results]
    rfl
  | .negation c, p => by
    rw [Matcher.test, run_test c .start, Tree.check_negation]
    cases c.check with
    | error e => rfl
    | ok _ =>
      have hresult : (!decide (c.Holds (m.Occurs tokens))) =
          decide ((Tree.negation c).Holds (m.Occurs tokens)) := by simp
      have hscore : p.score + UInt32.ofNat 0 = p.score := by simp
      rw [← hresult, Tree.hits_negation, hscore]
      rfl
  | .word raw, p => by
    rw [Matcher.test, run_leaf, Tree.check_word, Tree.hits_word]
    cases h : Literal.searchTerm? raw with
    | error e => rfl
    | ok term =>
      simp [Except.map, h]
  | .phrase raw, p => by
    rw [Matcher.test, run_leaf, Tree.check_phrase, Tree.hits_phrase]
    cases h : Literal.searchTerm? raw with
    | error e => rfl
    | ok term =>
      simp [Except.map, h]

/-- The tests of a list of trees push one result for each of them. -/
theorem run_testAll : ∀ (cs : List Tree) (p : Progress), (m.testAll tokens cs).run p =
    (Tree.checkAll cs).map fun _ =>
      ((), ⟨(Tree.results (m.Occurs tokens) cs).reverse ++ p.stack,
        p.score + UInt32.ofNat (Tree.hitsOfAll (m.Occurs tokens) cs)⟩)
  | [], p => by
    have hsum : p.score + UInt32.ofNat (Tree.hitsOfAll (m.Occurs tokens) []) = p.score := by simp
    rw [hsum]
    rfl
  | c :: cs, p => by
    rw [Matcher.testAll, StateT.run_bind, run_test c p, Tree.checkAll_cons]
    cases c.check with
    | error e => rfl
    | ok _ =>
      have hrest := run_testAll cs ⟨decide (c.Holds (m.Occurs tokens)) :: p.stack,
        p.score + UInt32.ofNat (c.hits (m.Occurs tokens))⟩
      have hsum : p.score + UInt32.ofNat (Tree.hitsOfAll (m.Occurs tokens) (c :: cs)) =
          p.score + UInt32.ofNat (c.hits (m.Occurs tokens)) +
            UInt32.ofNat (Tree.hitsOfAll (m.Occurs tokens) cs) := by
        rw [Tree.hitsOfAll_cons, UInt32.ofNat_add, UInt32.add_assoc]
      rw [hsum, Tree.results_cons, List.reverse_cons, List.append_assoc]
      exact hrest

end

/-! ## Outcomes -/

/-- **The outcome of a search** is its meaning, with its hits as the score; or it is the error that
the check of its leaves finds. -/
theorem evaluate_eq (t : Tree) (text : String) :
    m.evaluate t text = t.check.map fun _ =>
      ⟨decide (t.Holds (m.Occurs (m.tokens text))),
        .ofUInt32 (.ofNat (t.hits (m.Occurs (m.tokens text))))⟩ := by
  rw [Matcher.evaluate, run_test]
  cases t.check with
  | error e => rfl
  | ok _ =>
    have hscore (n : UInt32) : Progress.start.score + n = n := by simp [Progress.start]
    rw [Except.map, ok_bind, hscore]
    rfl

theorem evaluate_of_check {search : Tree} (h : search.check = .ok ()) (text : String) :
    ∃ found, m.evaluate search text = .ok found :=
  ⟨_, by rw [evaluate_eq, h]; rfl⟩

end

end ContentQuery.FullText
