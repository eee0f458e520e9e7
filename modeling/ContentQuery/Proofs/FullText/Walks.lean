import ContentQuery.Proofs.FullText.Matching

/-!
# Walks over search trees

The test of a tree runs through the visits to its nodes (`test_eq_runTrace`). Whenever it comes to a
connective, the stack holds a result for each child (`neverShort_trace`), and it leaves exactly one
more result than there were. `evaluate_means` puts this together with the meaning of the tree, its
hits and its faults.
-/

set_option autoImplicit false

namespace ContentQuery.FullText

/-! ## Visits -/

/-- The results that a visit takes off the stack. -/
def Tree.Visit.arity : Tree.Visit → Nat
  | .on (.conjunction cs) => cs.length
  | .on (.disjunction cs) => cs.length
  | _ => 0

/-- What the test of a tree does on a visit. A negation starts a test of its own. -/
def Matcher.visit (m : Matcher) (tokens : List String) : Tree.Visit → TreeTest Unit
  | .on (.conjunction cs) => do push ((← popResults cs.length).all id)
  | .on (.disjunction cs) => do push ((← popResults cs.length).any id)
  | .on (.negation c) => m.test tokens (.negation c)
  | .leaf _ term => m.testTerm tokens term
  | _ => pure ()

/-- Runs a trace up to the first error. -/
def Matcher.runTrace (m : Matcher) (tokens : List String)
    (trace : List (Except LiteralError Tree.Visit)) : TreeTest Unit :=
  trace.forM fun
    | .ok visit => m.visit tokens visit
    | .error e => throw e

variable (m : Matcher) (tokens : List String)

section
variable {t t' : List (Except LiteralError Tree.Visit)}

theorem runTrace_nil : m.runTrace tokens [] = pure () := rfl

theorem runTrace_cons (visit : Tree.Visit) :
    m.runTrace tokens (.ok visit :: t) = (do m.visit tokens visit; m.runTrace tokens t) := rfl

theorem runTrace_append :
    m.runTrace tokens (t ++ t') = (do m.runTrace tokens t; m.runTrace tokens t') :=
  List.forM_append

theorem runTrace_single (visit : Tree.Visit) :
    m.runTrace tokens [.ok visit] = m.visit tokens visit := by
  rw [runTrace_cons, runTrace_nil]
  exact bind_pure _

theorem runTrace_enclose (node : Tree) (hb : m.visit tokens (.before node) = pure ())
    (ha : m.visit tokens (.after node) = pure ()) :
    m.runTrace tokens (Tree.enclose node t) =
      (do m.runTrace tokens t; m.visit tokens (.on node)) := by
  rw [Tree.enclose, List.cons_append, runTrace_cons, hb, pure_bind, runTrace_append, runTrace_cons,
    runTrace_single, ha, bind_pure]

/-- A leaf is tested where its text has been decoded. -/
theorem runTrace_leaf {leaf : Tree} {raw : String} (h : leaf.term? = Literal.searchTerm? raw) :
    m.runTrace tokens [Tree.leafVisit leaf] =
      (do m.testTerm tokens (← Literal.searchTerm? raw)) := by
  rw [Tree.leafVisit, h]
  cases Literal.searchTerm? raw with
  | error e => rfl
  | ok term => exact runTrace_single m tokens (.leaf leaf term)

end

mutual

/-- **The test of a tree runs through its visits.** -/
theorem test_eq_runTrace : ∀ t : Tree, m.test tokens t = m.runTrace tokens t.trace
  | .conjunction cs => by
    rw [Matcher.test, testAll_eq_runTrace cs, Tree.trace]
    exact (runTrace_enclose m tokens (.conjunction cs) rfl rfl).symm
  | .disjunction cs => by
    rw [Matcher.test, testAll_eq_runTrace cs, Tree.trace]
    exact (runTrace_enclose m tokens (.disjunction cs) rfl rfl).symm
  | .negation c => (runTrace_single m tokens (.on (.negation c))).symm
  | .word raw => (runTrace_leaf m tokens rfl).symm
  | .phrase raw => (runTrace_leaf m tokens rfl).symm

theorem testAll_eq_runTrace : ∀ cs : List Tree,
    m.testAll tokens cs = m.runTrace tokens (Tree.traceAll cs)
  | [] => rfl
  | c :: cs => by
    rw [Matcher.testAll, test_eq_runTrace c, testAll_eq_runTrace cs, Tree.traceAll, runTrace_append]

end

/-! ## The height of the stack -/

/-- Wherever the run of a trace from `p` comes to a visit, there are the results that it takes. -/
def Matcher.NeverShort (trace : List (Except LiteralError Tree.Visit)) (p : Progress) : Prop :=
  ∀ done visit rest p', trace = done ++ .ok visit :: rest →
    (m.runTrace tokens done).run p = .ok ((), p') → visit.arity ≤ p'.stack.length

section
variable {t t' : List (Except LiteralError Tree.Visit)} {p : Progress}

theorem neverShort_nil : m.NeverShort tokens [] p := by
  intro done visit rest p' h
  simp at h

/-- A visit that takes no more results than there are. -/
theorem neverShort_single {entry : Except LiteralError Tree.Visit}
    (h : ∀ visit, entry = .ok visit → visit.arity ≤ p.stack.length) :
    m.NeverShort tokens [entry] p := by
  intro done visit rest p' hsplit hrun
  cases done with
  | nil =>
    cases hrun
    cases hsplit
    exact h visit rfl
  | cons _ done => simp at hsplit

theorem neverShort_visit {visit : Tree.Visit} (h : visit.arity ≤ p.stack.length) :
    m.NeverShort tokens [.ok visit] p := by
  refine neverShort_single m tokens fun visit' hvisit => ?_
  cases hvisit
  exact h

theorem neverShort_append (h : m.NeverShort tokens t p)
    (h' : ∀ p', (m.runTrace tokens t).run p = .ok ((), p') → m.NeverShort tokens t' p') :
    m.NeverShort tokens (t ++ t') p := by
  intro done visit rest p' hsplit hrun
  -- the visit belongs to the second trace, or else to the first one
  rcases List.append_eq_append_iff.1 hsplit with ⟨done', rfl, ht'⟩ | ⟨rest', rfl, hrest⟩
  · rw [runTrace_append] at hrun
    obtain ⟨_, mid, hmid, hrun⟩ := run_bind_eq_ok.1 hrun
    exact h' mid hmid done' visit rest p' ht' hrun
  · cases rest' with
    | nil =>
      rw [List.append_nil] at h h'
      exact h' p' hrun [] visit rest p' hrest.symm rfl
    | cons entry rest' =>
      obtain ⟨rfl, -⟩ := List.cons.inj hrest
      exact h done visit rest' p' rfl hrun

end

theorem neverShort_leaf (leaf : Tree) (p : Progress) :
    m.NeverShort tokens [Tree.leafVisit leaf] p := by
  refine neverShort_single m tokens fun visit h => ?_
  unfold Tree.leafVisit at h
  cases hterm : leaf.term? with
  | error e => rw [hterm] at h; cases h
  | ok term =>
    rw [hterm] at h
    cases h
    exact Nat.zero_le _

/-- The tests of a list of trees leave a result for each. -/
theorem length_stack_of_runTrace_traceAll {cs : List Tree} {p p' : Progress}
    (h : (m.runTrace tokens (Tree.traceAll cs)).run p = .ok ((), p')) :
    p'.stack.length = cs.length + p.stack.length := by
  rw [← testAll_eq_runTrace, run_testAll] at h
  cases hcheck : Tree.checkAll cs with
  | error e => rw [hcheck] at h; cases h
  | ok _ =>
    rw [hcheck] at h
    cases h
    simp

/-- A connective takes as many results as it has children, and these have left one each. -/
theorem neverShort_connective {node : Tree} {cs : List Tree} {p : Progress}
    (hb : m.visit tokens (.before node) = pure ()) (harity : (Tree.Visit.on node).arity = cs.length)
    (h : m.NeverShort tokens (Tree.traceAll cs) p) :
    m.NeverShort tokens (Tree.enclose node (Tree.traceAll cs)) p := by
  have hchildren : m.NeverShort tokens (.ok (.before node) :: Tree.traceAll cs) p := by
    refine neverShort_append m tokens (t := [_]) (neverShort_visit m tokens (Nat.zero_le _)) ?_
    intro p' hrun
    rw [runTrace_single, hb] at hrun
    cases hrun
    exact h
  refine neverShort_append m tokens hchildren fun p' hrun => ?_
  rw [runTrace_cons, hb, pure_bind] at hrun
  have hlength := length_stack_of_runTrace_traceAll m tokens hrun
  exact neverShort_append m tokens (t := [_]) (neverShort_visit m tokens (by omega))
    fun _ _ => neverShort_visit m tokens (Nat.zero_le _)

mutual

/-- **The stack never runs short**, from whatever results a test starts. -/
theorem neverShort_trace : ∀ (t : Tree) (p : Progress), m.NeverShort tokens t.trace p
  | .conjunction cs, p => neverShort_connective m tokens rfl rfl (neverShort_traceAll cs p)
  | .disjunction cs, p => neverShort_connective m tokens rfl rfl (neverShort_traceAll cs p)
  | .negation _, _ => neverShort_visit m tokens (Nat.zero_le _)
  | .word raw, p => neverShort_leaf m tokens (.word raw) p
  | .phrase raw, p => neverShort_leaf m tokens (.phrase raw) p

theorem neverShort_traceAll : ∀ (cs : List Tree) (p : Progress),
    m.NeverShort tokens (Tree.traceAll cs) p
  | [], _ => neverShort_nil m tokens
  | c :: cs, p =>
    neverShort_append m tokens (neverShort_trace c p) fun p' _ => neverShort_traceAll cs p'

end

/-- The test of a tree leaves one result more than there were. -/
theorem exists_stack_of_runTrace {t : Tree} {p p' : Progress}
    (h : (m.runTrace tokens t.trace).run p = .ok ((), p')) :
    ∃ result, p'.stack = result :: p.stack := by
  rw [← test_eq_runTrace, run_test] at h
  cases hcheck : t.check with
  | error e => rw [hcheck] at h; cases h
  | ok _ =>
    rw [hcheck] at h
    cases h
    exact ⟨_, rfl⟩

/-! ## Searches -/

/-- **What a search finds.** It fails as the check of its leaves does, which is where a leaf does not
decode, below a minus sign or not. Otherwise it matches if its tree holds, and its score is the
number of leaves that hold and are not below a minus sign, unless these are too many to be counted
in 32 bits. The test of every tree, also of one below a minus sign, runs through its visits, finds
a result for each child of a connective and leaves exactly one. -/
theorem evaluate_means {t : Tree} (hsize : t.leaves.length < UInt32.size) (text : String) :
    (∀ e, m.evaluate t text = .error e ↔ t.check = .error e) ∧
    ((∃ e, m.evaluate t text = .error e) ↔ ∃ leaf ∈ t.leaves, ∃ e, leaf.term? = .error e) ∧
    (t.Decodes → ∃ found count, m.evaluate t text = .ok found ∧
      (found.matched = true ↔ t.Holds (m.Occurs (m.tokens text))) ∧
      found.score = .ofUInt32 count ∧ count.toNat = t.hits (m.Occurs (m.tokens text))) ∧
    ∀ c : Tree, m.test (m.tokens text) c = m.runTrace (m.tokens text) c.trace ∧
      ∀ p, m.NeverShort (m.tokens text) c.trace p ∧
        ∀ p', (m.runTrace (m.tokens text) c.trace).run p = .ok ((), p') →
          ∃ result, p'.stack = result :: p.stack := by
  have hfails : ∀ e, m.evaluate t text = .error e ↔ t.check = .error e := by
    intro e
    rw [evaluate_eq]
    cases t.check <;> simp [Except.map]
  refine ⟨hfails, ?_, fun hdecodes => ?_, fun c => ⟨test_eq_runTrace m _ c, fun p => ?_⟩⟩
  · rw [← Tree.check_fails_iff]
    exact exists_congr hfails
  · refine ⟨_, _, by rw [evaluate_eq, Tree.check_of_decodes hdecodes]; rfl, by simp, rfl, ?_⟩
    exact UInt32.toNat_ofNat_of_lt' (lt_of_le_of_lt (Tree.hits_le_length_leaves t) hsize)
  · exact ⟨neverShort_trace m _ c p, fun p' hrun => exists_stack_of_runTrace m _ hrun⟩

/-- A search with a minus sign below another one, and with a word that counts twice. -/
def nestedSearch : Tree :=
  .conjunction [.word "quick",
    .negation (.disjunction [.word "cat", .negation (.phrase "\"brown fox\"")]),
    .disjunction [.word "cat", .phrase "\"Brown-Fox\""], .word "quick"]

theorem evaluate_means_nested : nestedSearch.leaves.length < UInt32.size ∧ nestedSearch.Decodes ∧
    ∃ found, Matcher.evaluate ⟨false⟩ nestedSearch "The quick brown fox" = .ok found ∧
      found.matched = true ∧ found.score = .ofUInt32 3 := by
  have hdecodes : nestedSearch.Decodes := Tree.decodes_of_check (by decide)
  obtain ⟨-, -, hfinds, -⟩ := evaluate_means ⟨false⟩ (t := nestedSearch) (by decide)
    "The quick brown fox"
  obtain ⟨found, count, hrun, hmatched, hscore, hcount⟩ := hfinds hdecodes
  obtain rfl : count = 3 := UInt32.toNat_inj.1 (hcount.trans (by decide))
  exact ⟨by decide, hdecodes, found, hrun, hmatched.2 (by decide), hscore⟩

end ContentQuery.FullText
