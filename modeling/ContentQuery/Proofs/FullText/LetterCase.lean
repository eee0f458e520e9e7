import ContentQuery.Proofs.FullText.Matching

/-!
# Letter case in searches

`Tree.Holds.mono`: a search without minus signs that holds still does if more terms occur. Without
regard to case more terms occur, and `anyCase_finds_more` says what this means for the outcome of a
search.
-/

set_option autoImplicit false

namespace ContentQuery

/-- Scores are in the order of the numbers of leaves. -/
theorem Decimal.compare_ofUInt32 (m n : UInt32) :
    (ofUInt32 m).compare (ofUInt32 n) = Ord.compare (m.toNat : Int) (n.toNat : Int) := by
  simp [compare, numerator, ofUInt32, powerOfTen_zero]

namespace FullText

namespace Tree

/-! ## Searches without minus signs -/

mutual

/-- There is no minus sign in a search. -/
def WithoutNegation : Tree → Prop
  | conjunction cs => NoneNegated cs
  | disjunction cs => NoneNegated cs
  | negation _ => False
  | word _ => True
  | phrase _ => True

/-- There is none in a list of searches. -/
def NoneNegated : List Tree → Prop
  | [] => True
  | c :: cs => c.WithoutNegation ∧ NoneNegated cs

end

variable {occurs occurs' : String → Prop}

mutual

/-- **Where more terms occur, a search without minus signs holds more often.** -/
theorem Holds.mono (hmore : ∀ term, occurs term → occurs' term) :
    ∀ t : Tree, t.WithoutNegation → t.Holds occurs → t.Holds occurs'
  | conjunction cs, hplain, h => AllHold.mono hmore cs hplain h
  | disjunction cs, hplain, h => AnyHolds.mono hmore cs hplain h
  | negation _, hplain, _ => hplain.elim
  | word _, _, ⟨term, hterm, h⟩ => ⟨term, hterm, hmore term h⟩
  | phrase _, _, ⟨term, hterm, h⟩ => ⟨term, hterm, hmore term h⟩

theorem AllHold.mono (hmore : ∀ term, occurs term → occurs' term) :
    ∀ cs : List Tree, NoneNegated cs → AllHold occurs cs → AllHold occurs' cs
  | [], _, _ => trivial
  | c :: cs, hplain, h => ⟨Holds.mono hmore c hplain.1 h.1, AllHold.mono hmore cs hplain.2 h.2⟩

theorem AnyHolds.mono (hmore : ∀ term, occurs term → occurs' term) :
    ∀ cs : List Tree, NoneNegated cs → AnyHolds occurs cs → AnyHolds occurs' cs
  | c :: cs, hplain, h => h.imp (Holds.mono hmore c hplain.1) (AnyHolds.mono hmore cs hplain.2)

end

end Tree

/-! ## Both kinds of search -/

/-- The number of leaves to which a search on a text owes its score. -/
def Matcher.hitsIn (m : Matcher) (search : Tree) (text : String) : Nat :=
  search.hits (m.Occurs (m.tokens text))

theorem hitsIn_anyCase (search : Tree) (text : String) :
    Matcher.hitsIn ⟨true⟩ search text ≤ Matcher.hitsIn ⟨false⟩ search text :=
  Tree.hits_mono (fun _ h => h.anyCase) search

/-- **Ignoring case only finds more.** Both searches have an outcome, as the leaves decode. Without
minus signs, what matches with regard to case also matches without. The score with regard to case
counts at most as many leaves as the one without, and is not greater if these can be counted in
32 bits. -/
theorem anyCase_finds_more {t : Tree} (hdecodes : t.Decodes) (hplain : t.WithoutNegation)
    (text : String) : ∃ strict loose,
    Matcher.evaluate ⟨true⟩ t text = .ok strict ∧ Matcher.evaluate ⟨false⟩ t text = .ok loose ∧
    (strict.matched = true → loose.matched = true) ∧
    Matcher.hitsIn ⟨true⟩ t text ≤ Matcher.hitsIn ⟨false⟩ t text ∧
    strict.score = .ofUInt32 (.ofNat (Matcher.hitsIn ⟨true⟩ t text)) ∧
    loose.score = .ofUInt32 (.ofNat (Matcher.hitsIn ⟨false⟩ t text)) ∧
    (Matcher.hitsIn ⟨false⟩ t text < UInt32.size → strict.score.compare loose.score ≠ .gt) := by
  have hcheck := Tree.check_of_decodes hdecodes
  have hmore : ∀ term, Matcher.Occurs ⟨true⟩ (Matcher.tokens ⟨true⟩ text) term →
      Matcher.Occurs ⟨false⟩ (Matcher.tokens ⟨false⟩ text) term := fun _ h => h.anyCase
  have hle := hitsIn_anyCase t text
  refine ⟨_, _, by rw [evaluate_eq, hcheck]; rfl, by rw [evaluate_eq, hcheck]; rfl, ?_, hle, rfl,
    rfl, fun hsize => ?_⟩
  · simpa using Tree.Holds.mono hmore t hplain
  · show (Decimal.ofUInt32 (.ofNat (Matcher.hitsIn ⟨true⟩ t text))).compare
      (.ofUInt32 (.ofNat (Matcher.hitsIn ⟨false⟩ t text))) ≠ .gt
    rw [Decimal.compare_ofUInt32, UInt32.toNat_ofNat_of_lt' hsize,
      UInt32.toNat_ofNat_of_lt' (lt_of_le_of_lt hle hsize)]
    exact Int.compare_ne_gt.2 (Int.ofNat_le.2 hle)

/-- Two phrases in other cases than those of the text. -/
def foxSearch : Tree :=
  .disjunction [.phrase "\"brown fox\"", .conjunction [.word "Quick", .phrase "\"BROWN FOX\""]]

theorem anyCase_finds_more_fox : foxSearch.Decodes ∧ foxSearch.WithoutNegation ∧
    Matcher.evaluate ⟨true⟩ foxSearch "The quick brown fox" = .ok ⟨true, .ofUInt32 1⟩ ∧
    ∃ loose, Matcher.evaluate ⟨false⟩ foxSearch "The quick brown fox" = .ok loose ∧
      loose.matched = true ∧ (Decimal.ofUInt32 1).compare loose.score ≠ .gt := by
  have hdecodes : foxSearch.Decodes := Tree.decodes_of_check (by decide)
  have hplain : foxSearch.WithoutNegation := ⟨trivial, ⟨trivial, trivial, trivial⟩, trivial⟩
  have hstrict : Matcher.evaluate ⟨true⟩ foxSearch "The quick brown fox" =
      .ok ⟨true, .ofUInt32 1⟩ := by decide +kernel
  obtain ⟨strict, loose, hexact, hloose, hmatched, -, -, -, hscore⟩ :=
    anyCase_finds_more hdecodes hplain "The quick brown fox"
  obtain rfl : ⟨true, .ofUInt32 1⟩ = strict := Except.ok.inj (hstrict.symm.trans hexact)
  have hfew : Matcher.hitsIn ⟨false⟩ foxSearch "The quick brown fox" < UInt32.size :=
    lt_of_le_of_lt (Tree.hits_le_length_leaves foxSearch) (by decide)
  exact ⟨hdecodes, hplain, hstrict, loose, hloose, hmatched rfl, hscore hfew⟩

end FullText

end ContentQuery
