import ContentQuery.Proofs.Statement.Rereading

/-!
# Reading WHERE trees again

A test is read again from its written form (`TestAt`, with one lemma for each kind of test). Under
connectives the argument goes by the four strengths in which a tree can be written (`Readable`):
each reader of the grammar reads the trees of its strength, and what binds less stands in
parentheses. A reader whose fuel has grown with the ink of the text has enough of it
(`readable_of_isWritten`).
-/

set_option autoImplicit false

namespace ContentQuery.Statement

/-! ## Tests behind an operand -/

section
variable {p l : Predicate} {k : List Char} {n m mid : SelectorId}

/-- A text is read as a test, and starts with nothing that is read before tests. -/
structure TestAt (cs : List Char) (n : SelectorId) (p : Predicate) (k : List Char)
    (m : SelectorId) : Prop where
  reads : Reads test (Near cs n) p (Near k m)
  not : keywordAt "NOT" (afterBlanks cs) = false
  head : ∀ c ∈ (afterBlanks cs).head?, c ≠ '('

/-- An operand that may stand on the left is read up to its operator. -/
theorem TestAt.of_left (h : l.IsWrittenLeft n mid) {cs : List Char} (hcs : Follows cs)
    (hafter : Reads (testAfter l) (Near cs mid) p (Near k m)) :
    TestAt (l.chars 3 ++ cs) n p k m := by
  have hno : ∀ word ∈ Predicate.testWords,
      keywordAt word (afterBlanks (l.chars 3 ++ cs)) = false := by
    refine keywordAt_operand h.operand hcs h.avoids ?_
    simp only [Predicate.testWords, Predicate.literalWords, List.forall_mem_cons]
    decide
  refine ⟨?_, hno _ (by decide), operand_head h.operand hcs⟩
  refine (tryKeyword_not (hno _ (by decide)) n).bind ?_
  refine (tryKeyword_not (hno _ (by decide)) n).bind ?_
  refine (tryKeyword_not (hno _ (by decide)) n).bind ?_
  refine (tryKeyword_not (hno _ (by decide)) n).bind ?_
  exact (operand_here h.operand hcs).bind hafter

/-- A test with `IS` behind its operand. -/
theorem isNull_here (negated : Bool) (h : l.IsWrittenLeft n m) (hk : Follows k) :
    TestAt ((Predicate.isNull negated l).chars 3 ++ k) n (.isNull negated l) k m := by
  have hchars : (Predicate.isNull negated l).chars 3 ++ k = l.chars 3 ++ ' ' :: ("IS".toList ++
      ' ' :: (Predicate.negationChars negated ++ ("NULL".toList ++ k))) := by
    rw [Predicate.chars_isNull, List.append_assoc, List.append_assoc, List.append_assoc]
    rfl
  rw [hchars]
  refine .of_left h (follows_blank (by decide) _) ?_
  rw [near_blank]
  refine (tryKeyword_here (by decide) (endsWord_blank _) m).bind ?_
  rw [near_blank]
  have hnull : keywordAt "NOT" (afterBlanks ("NULL".toList ++ k)) = false := by
    rw [afterBlanks_name (by decide), keywordAt_append (by decide) hk.endsWord]
    rfl
  refine (negation_here negated hnull m).bind ?_
  exact (expectKeyword_here (by decide) hk.endsWord m).bind (.refl _ _)

/-- A test with `IN` behind its operand. -/
theorem isIn_here (negated : Bool) {items : Predicate} (h : l.IsWrittenLeft n m)
    (hitems : items.IsWrittenList) :
    TestAt ((Predicate.relation (.isIn negated) l items).chars 3 ++ k) n
      (.relation (.isIn negated) l items) k m := by
  have hchars : (Predicate.relation (.isIn negated) l items).chars 3 ++ k = l.chars 3 ++ ' ' ::
      (Predicate.negationChars negated ++ ("IN".toList ++ ' ' :: (items.chars 3 ++ k))) := by
    rw [Predicate.chars_relation, Predicate.relationChars_isIn]
    simp only [List.append_assoc, List.cons_append]
    rfl
  rw [hchars]
  have hfollows : Follows (' ' :: (Predicate.negationChars negated ++ ("IN".toList ++ ' ' ::
      (items.chars 3 ++ k)))) := by
    cases negated <;> exact follows_blank (by decide) _
  have his : keywordAt "IS" (afterBlanks (Predicate.negationChars negated ++ ("IN".toList ++
      ' ' :: (items.chars 3 ++ k)))) = false := by
    cases negated <;> rfl
  refine .of_left h hfollows ?_
  rw [near_blank]
  refine (tryKeyword_not his m).bind ?_
  refine (negation_here negated rfl m).bind ?_
  refine (tryKeyword_here (by decide) (endsWord_blank _) m).bind ?_
  rw [near_blank]
  exact (literalList_here hitems k m).bind (.refl _ _)

/-- A test with `LIKE` behind its operand. -/
theorem like_here (negated : Bool) {raw : String} (h : l.IsWrittenLeft n m)
    (hraw : Literal.IsWritten raw) (hk : Follows k) :
    TestAt ((Predicate.relation (.like negated) l (.literal raw)).chars 3 ++ k) n
      (.relation (.like negated) l (.literal raw)) k m := by
  have hchars : (Predicate.relation (.like negated) l (.literal raw)).chars 3 ++ k =
      l.chars 3 ++ ' ' :: (Predicate.negationChars negated ++ ("LIKE".toList ++
        ' ' :: (raw.toList ++ k))) := by
    rw [Predicate.chars_relation, Predicate.relationChars_like]
    simp only [List.append_assoc, List.cons_append]
    rfl
  rw [hchars]
  have hfollows : Follows (' ' :: (Predicate.negationChars negated ++ ("LIKE".toList ++ ' ' ::
      (raw.toList ++ k)))) := by
    cases negated <;> exact follows_blank (by decide) _
  have his : keywordAt "IS" (afterBlanks (Predicate.negationChars negated ++ ("LIKE".toList ++
      ' ' :: (raw.toList ++ k)))) = false := by
    cases negated <;> rfl
  refine .of_left h hfollows ?_
  rw [near_blank]
  refine (tryKeyword_not his m).bind ?_
  refine (negation_here negated rfl m).bind ?_
  refine (tryKeyword_not rfl m).bind ?_
  refine (tryKeyword_here (by decide) (endsWord_blank _) m).bind ?_
  rw [near_blank]
  exact (literalToken_here hraw hk).bind (.refl _ _)

/-- Where an operator stands behind an operand, a comparison is read. -/
theorem TestAt.of_comparison (op : Comparison) (h : l.IsWrittenLeft n mid) {cs : List Char}
    (hafter : Reads (comparisonAfter l) (Near (Predicate.comparisonChars op ++ ' ' :: cs) mid) p
      (Near k m)) :
    TestAt (l.chars 3 ++ ' ' :: (Predicate.comparisonChars op ++ ' ' :: cs)) n p k m := by
  have hfollows : Follows (' ' :: (Predicate.comparisonChars op ++ ' ' :: cs)) := by
    cases op <;> exact follows_blank (by decide) _
  have hno : ∀ word, keywordAt word
      (afterBlanks (Predicate.comparisonChars op ++ ' ' :: cs)) = false := by
    intro word
    cases op <;> exact keywordAt_of_not_starts rfl word _
  refine .of_left h hfollows ?_
  rw [near_blank]
  refine (tryKeyword_not (hno _) mid).bind ?_
  refine (tryKeyword_not (hno _) mid).bind ?_
  refine (tryKeyword_not (hno _) mid).bind ?_
  exact (tryKeyword_not (hno _) mid).bind hafter

theorem compare_here (op : Comparison) {r : Predicate} (h : l.IsWrittenLeft n mid)
    (hr : r.IsWrittenOperand mid m) (hany : op = .eq → r.Avoids ["ANY"]) (hk : Follows k) :
    TestAt ((Predicate.relation (.compare op) l r).chars 3 ++ k) n
      (.relation (.compare op) l r) k m := by
  have hchars : (Predicate.relation (.compare op) l r).chars 3 ++ k =
      l.chars 3 ++ ' ' :: (Predicate.comparisonChars op ++ ' ' :: (r.chars 3 ++ k)) := by
    rw [Predicate.chars_relation, Predicate.relationChars_compare]
    simp only [List.append_assoc, List.cons_append]
  rw [hchars]
  refine .of_comparison op h ((tryComparison_here op _ mid).bind ?_)
  have hother : ∀ op, Goes (operand >>= fun r => pure (Predicate.relation (.compare op) l r))
      (Near (r.chars 3 ++ k) mid) (pure (.relation (.compare op) l r)) (Near k m) :=
    fun op => (operand_here hr hk).bind (.refl _ _)
  cases op with
  | eq =>
    have hno := keywordAt_operand hr hk (hany rfl) (by
      simp only [Predicate.literalWords, List.forall_mem_cons]
      decide)
    exact (tryKeyword_not (hno "ANY" (by decide)) mid).bind (hother .eq)
  | neq => exact hother .neq
  | gt => exact hother .gt
  | ge => exact hother .ge
  | lt => exact hother .lt
  | le => exact hother .le

theorem equalsAny_here {c : ColumnRef} (h : l.IsWrittenLeft n m) (hc : c.IsWritten m)
    (hk : Follows k) :
    TestAt ((Predicate.relation .equalsAny l (.column c)).chars 3 ++ k) n
      (.relation .equalsAny l (.column c)) k (m + 1) := by
  have hchars : (Predicate.relation .equalsAny l (.column c)).chars 3 ++ k =
      l.chars 3 ++ ' ' :: (Predicate.comparisonChars .eq ++ ' ' :: ("ANY".toList ++
        ' ' :: (c.toText.toList ++ k))) := by
    rw [Predicate.chars_relation, Predicate.relationChars_equalsAny, List.append_assoc,
      List.append_assoc]
    rfl
  rw [hchars]
  refine .of_comparison .eq h ((tryComparison_here .eq _ m).bind ?_)
  refine (tryKeyword_here (by decide) (endsWord_blank _) m).bind ?_
  rw [near_blank]
  exact (columnRef_here hc hk).bind (.refl _ _)

/-! ## Tests with a word in front -/

theorem anyIn_here (negated : Bool) {c : ColumnRef} {items : Predicate} (hc : c.IsWritten n)
    (hitems : items.IsWrittenList) :
    TestAt ((Predicate.relation (.anyIn negated) (.column c) items).chars 3 ++ k) n
      (.relation (.anyIn negated) (.column c) items) k (n + 1) := by
  have hchars : (Predicate.relation (.anyIn negated) (.column c) items).chars 3 ++ k =
      "ANY".toList ++ ' ' :: (c.toText.toList ++ ' ' :: (Predicate.negationChars negated ++
        ("IN".toList ++ ' ' :: (items.chars 3 ++ k)))) := by
    rw [Predicate.chars_relation, Predicate.relationChars_anyIn]
    simp only [List.append_assoc, List.cons_append]
    rfl
  rw [hchars]
  have hfollows : Follows (' ' :: (Predicate.negationChars negated ++ ("IN".toList ++ ' ' ::
      (items.chars 3 ++ k)))) := by
    cases negated <;> exact follows_blank (by decide) _
  refine ⟨?_, rfl, head_of_name (by decide) _ rfl⟩
  refine (tryKeyword_not rfl n).bind ?_
  refine (tryKeyword_not rfl n).bind ?_
  refine (tryKeyword_not rfl n).bind ?_
  refine (tryKeyword_here (by decide) (endsWord_blank _) n).bind ?_
  rw [near_blank]
  refine (columnRef_here hc hfollows).bind ?_
  rw [near_blank]
  refine (negation_here negated rfl _).bind ?_
  refine (expectKeyword_here (by decide) (endsWord_blank _) _).bind ?_
  rw [near_blank]
  exact (literalList_here hitems k _).bind (.refl _ _)

theorem qualifier_none {cs : List Char} (h : (afterBlanks cs).head? = some '\'')
    (n : SelectorId) : Reads qualifier (Near ('(' :: cs) n) none (Near cs n) := by
  refine (expectChar_here rfl cs n).bind (skipBlanks_goes (peek_reads.bind ?_))
  rw [h]
  exact near_afterBlanks cs n ▸ (Goes.refl _ _).near

theorem qualifier_some {q : String} (h : IsName q) (k : List Char) (n : SelectorId) :
    Reads qualifier (Near ('(' :: (q.toList ++ ',' :: k)) n) (some q) (Near k n) := by
  have hcomma : EndsWord (',' :: k) := endsWord_cons rfl k
  have hquote : ((afterBlanks (q.toList ++ ',' :: k)).head? == some '\'') = false := by
    obtain ⟨c, others, hothers, hc, -⟩ := isName_iff.1 h
    rw [afterBlanks_name h, hothers, beq_eq_false_iff_ne]
    intro heq
    cases heq
    cases hc
  refine (expectChar_here rfl _ n).bind (skipBlanks_goes (peek_reads.bind ?_))
  rw [hquote]
  rw [afterBlanks_name h]
  refine Goes.exactly ((identifier_here h hcomma n).near.bind ?_)
  exact (expectChar_here rfl k n).bind (.refl _ _)

/-- What stands behind the qualifier of a search. -/
theorem search_here {q : Option String} {search : FullText.Tree}
    (h : FullText.parse search.toText = .ok search) {cs : List Char}
    (hq : Reads qualifier (Near cs n) q
      (Near ((Literal.quote search.toText).toList ++ ')' :: k) n)) :
    Reads containsArguments (Near cs n) (.contains q search) (Near k n) := by
  have hblanks : afterBlanks ((Literal.quote search.toText).toList ++ ')' :: k) =
      (Literal.quote search.toText).toList ++ ')' :: k := by
    obtain ⟨token, htoken, -⟩ := isQuoted_quote search.toText
    rw [htoken]
    rfl
  refine hq.bind (skipBlanks_goes ?_)
  rw [hblanks]
  refine (quoted_here (isQuoted_quote _) _ n).bind ((expectChar_here rfl k n).bind ?_)
  rw [unquote?_quote]
  dsimp only
  rw [h]
  exact .refl _ _

theorem contains_here {q : Option String} {search : FullText.Tree} (hq : ∀ name ∈ q, IsName name)
    (h : FullText.parse search.toText = .ok search) :
    TestAt ((Predicate.contains q search).chars 3 ++ k) n (.contains q search) k n := by
  have hparen (cs : List Char) : EndsWord ('(' :: cs) := endsWord_cons rfl cs
  cases q with
  | none =>
    have hchars : (Predicate.contains none search).chars 3 ++ k = "CONTAINS".toList ++
        '(' :: ((Literal.quote search.toText).toList ++ ')' :: k) := by
      rw [Predicate.chars_contains_none, Predicate.enclose]
      simp only [List.append_assoc, List.cons_append, List.nil_append]
    rw [hchars]
    refine ⟨?_, rfl, head_of_name (by decide) _ rfl⟩
    refine (tryKeyword_here (by decide) (hparen _) n).bind (search_here h (qualifier_none ?_ n))
    obtain ⟨token, htoken, -⟩ := isQuoted_quote search.toText
    rw [htoken]
    rfl
  | some q =>
    have hchars : (Predicate.contains (some q) search).chars 3 ++ k = "CONTAINS".toList ++
        '(' :: (q.toList ++ ',' :: ' ' :: ((Literal.quote search.toText).toList ++ ')' :: k)) := by
      rw [Predicate.chars_contains_some, Predicate.enclose]
      simp only [List.append_assoc, List.cons_append, List.nil_append]
    rw [hchars]
    refine ⟨?_, rfl, head_of_name (by decide) _ rfl⟩
    refine (tryKeyword_here (by decide) (hparen _) n).bind (search_here h ?_)
    rw [← near_blank (_ ++ _)]
    exact qualifier_some (hq q rfl) _ n

/-- A folder test is told from the others by its word. -/
theorem TestAt.of_folder (scope : FolderScope) {cs : List Char}
    (h : Reads (folderArguments scope) (Near ('(' :: cs) n) p (Near k m)) :
    TestAt (scope.kindName.toList ++ '(' :: cs) n p k m := by
  have hparen : EndsWord ('(' :: cs) := endsWord_cons rfl cs
  cases scope with
  | children =>
    refine ⟨?_, rfl, head_of_name (by decide) _ rfl⟩
    refine (tryKeyword_not rfl n).bind ?_
    exact (tryKeyword_here (by decide) hparen n).bind h
  | descendants =>
    refine ⟨?_, rfl, head_of_name (by decide) _ rfl⟩
    refine (tryKeyword_not rfl n).bind ((tryKeyword_not rfl n).bind ?_)
    exact (tryKeyword_here (by decide) hparen n).bind h

theorem inFolder_here (scope : FolderScope) {raw : String} (h : IsQuoted raw) :
    TestAt ((Predicate.inFolder scope (.literal raw)).chars 3 ++ k) n
      (.inFolder scope (.literal raw)) k n := by
  have hchars : (Predicate.inFolder scope (.literal raw)).chars 3 ++ k =
      scope.kindName.toList ++ '(' :: (raw.toList ++ ')' :: k) := by
    rw [Predicate.chars_inFolder, Predicate.chars_literal, Predicate.enclose]
    simp only [List.append_assoc, List.cons_append, List.nil_append]
  rw [hchars]
  refine .of_folder scope ((qualifier_none ?_ n).bind ?_)
  · obtain ⟨token, htoken, -⟩ := h
    rw [htoken]
    rfl
  · refine (literalToken_here (.quoted h) (follows_closing k)).bind ?_
    exact (expectChar_here rfl k n).bind (.refl _ _)

theorem inFolderOf_here (scope : FolderScope) {q raw : String} (hq : IsName q)
    (hraw : Literal.IsWritten raw) :
    TestAt ((Predicate.inFolderOf scope (.column ⟨n, some q, wildcard⟩)
      (.literal raw)).chars 3 ++ k) n
      (.inFolderOf scope (.column ⟨n, some q, wildcard⟩) (.literal raw)) k (n + 1) := by
  have hchars : (Predicate.inFolderOf scope (.column ⟨n, some q, wildcard⟩)
      (.literal raw)).chars 3 ++ k =
        scope.kindName.toList ++ '(' :: (q.toList ++ ',' :: ' ' :: (raw.toList ++ ')' :: k)) := by
    rw [Predicate.chars_inFolderOf, Predicate.chars_literal, Predicate.enclose]
    simp only [Predicate.qualifierChars, Option.getD_some, List.append_assoc, List.cons_append,
      List.nil_append]
  rw [hchars]
  refine .of_folder scope ((qualifier_some hq _ n).bind ?_)
  rw [near_blank]
  refine (freshId_reads_near _ n).bind ?_
  refine (literalToken_here hraw (follows_closing k)).bind ?_
  exact (expectChar_here rfl k _).bind (.refl _ _)

end

/-! ## Strengths -/

section
variable (first : SelectorId) (p : Predicate) (next : SelectorId)

/-- A tree of any kind is read as a disjunction that may go on. -/
def AtDisjunction : Prop :=
  ∀ fuel k, 4 * ink (p.chars 0) + 4 ≤ fuel → Follows k → keywordAt "AND" (afterBlanks k) = false →
    ∃ less, fuel ≤ less + ink (p.chars 0) + 1 ∧ Goes (disjunction fuel)
      (Near (p.chars 0 ++ k) first) (disjunctionAfter less p) (Near k next)

/-- A tree that is no disjunction is read as a conjunction that may go on. -/
def AtConjunction : Prop :=
  ∀ fuel k, 4 * ink (p.chars 1) + 3 ≤ fuel → Follows k →
    ∃ less, fuel ≤ less + ink (p.chars 1) + 1 ∧ Goes (conjunction fuel)
      (Near (p.chars 1 ++ k) first) (conjunctionAfter less p) (Near k next)

/-- A tree without such connectives is read as a negation. -/
def AtNegation : Prop :=
  ∀ fuel k, 4 * ink (p.chars 2) + 2 ≤ fuel → Follows k →
    Reads (negation fuel) (Near (p.chars 2 ++ k) first) p (Near k next)

/-- A test, and a tree in parentheses, are read where no `NOT` stands. -/
structure AtPrimary : Prop where
  reads : ∀ fuel k, 4 * ink (p.chars 3) + 1 ≤ fuel → Follows k →
    Reads (primary fuel) (Near (p.chars 3 ++ k) first) p (Near k next)
  not : ∀ k, Follows k → keywordAt "NOT" (afterBlanks (p.chars 3 ++ k)) = false

/-- A tree is read in each of the strengths in which it can be written. -/
structure Readable : Prop where
  disjunction : AtDisjunction first p next
  conjunction : AtConjunction first p next
  negation : AtNegation first p next
  primary : AtPrimary first p next

end

section
variable {p l r : Predicate} {n m mid : SelectorId} {k : List Char}

theorem disjunctionAfter_done (hor : keywordAt "OR" (afterBlanks k) = false) (fuel : Nat) :
    Reads (disjunctionAfter fuel p) (Near k n) p (Near k n) := by
  cases fuel with
  | zero => exact .pure _ _
  | succ fuel => exact (tryKeyword_not hor n).bind (.refl _ _)

theorem conjunctionAfter_done (hand : keywordAt "AND" (afterBlanks k) = false) (fuel : Nat) :
    Reads (conjunctionAfter fuel p) (Near k n) p (Near k n) := by
  cases fuel with
  | zero => exact .pure _ _
  | succ fuel => exact (tryKeyword_not hand n).bind (.refl _ _)

/-! A tree that is read in one place is read in the places that ask for less, if it is written there
in the same way. -/

theorem AtPrimary.negation (h : AtPrimary n p m) (hchars : p.chars 2 = p.chars 3) :
    AtNegation n p m := by
  intro fuel k hfuel hk
  rw [hchars] at hfuel ⊢
  obtain ⟨fuel, rfl⟩ := Nat.exists_eq_add_of_lt (Nat.zero_lt_of_lt hfuel)
  exact (tryKeyword_not (h.not k hk) n).bind (h.reads _ k (by omega) hk)

theorem AtNegation.conjunction (h : AtNegation n p m) (hchars : p.chars 1 = p.chars 2) :
    AtConjunction n p m := by
  intro fuel k hfuel hk
  rw [hchars] at hfuel ⊢
  obtain ⟨fuel, rfl⟩ := Nat.exists_eq_add_of_lt (Nat.zero_lt_of_lt hfuel)
  refine ⟨0 + fuel, by omega, ?_⟩
  exact (h _ k (by omega) hk).bind (.refl _ _)

theorem AtConjunction.disjunction (h : AtConjunction n p m) (hchars : p.chars 0 = p.chars 1) :
    AtDisjunction n p m := by
  intro fuel k hfuel hk hand
  rw [hchars] at hfuel ⊢
  obtain ⟨fuel, rfl⟩ := Nat.exists_eq_add_of_lt (Nat.zero_lt_of_lt hfuel)
  refine ⟨0 + fuel, by omega, ?_⟩
  obtain ⟨less, -, hgoes⟩ := h (0 + fuel) k (by omega) hk
  have hreads : Reads (Statement.conjunction (0 + fuel)) (Near (p.chars 1 ++ k) n) p (Near k m) :=
    hgoes.trans (conjunctionAfter_done hand less)
  exact hreads.bind (.refl _ _)

/-- Any tree is read in parentheses. -/
theorem AtDisjunction.primary (h : AtDisjunction n p m)
    (hchars : p.chars 3 = Predicate.enclose (p.chars 0)) : AtPrimary n p m := by
  have htext (k : List Char) : p.chars 3 ++ k = '(' :: (p.chars 0 ++ ')' :: k) := by
    rw [hchars, Predicate.enclose]
    simp only [List.cons_append, List.append_assoc, List.nil_append]
  have hink : ink (p.chars 3) = ink (p.chars 0) + 2 := by
    have hpair : ink (p.chars 3) = ink ('(' :: (p.chars 0 ++ [')'])) := by rw [hchars]; rfl
    rw [hpair, ink_cons, ink_append]
    rfl
  refine ⟨fun fuel k hfuel hk => ?_, fun k hk => ?_⟩
  · rw [hink] at hfuel
    rw [htext]
    obtain ⟨fuel, rfl⟩ := Nat.exists_eq_add_of_lt (Nat.zero_lt_of_lt hfuel)
    obtain ⟨less, -, hgoes⟩ := h (0 + fuel) (')' :: k) (by omega) (follows_closing k) rfl
    have hreads : Reads (Statement.disjunction (0 + fuel)) (Near (p.chars 0 ++ ')' :: k) n) p
        (Near (')' :: k) m) := hgoes.trans (disjunctionAfter_done rfl less)
    refine (tryChar_here rfl _ n).bind (hreads.bind ?_)
    exact (expectChar_here rfl k m).bind (.refl _ _)
  · rw [htext]
    rfl

/-! ## Connectives -/

theorem readable_of_test (h : ∀ k, Follows k → TestAt (p.chars 3 ++ k) n p k m)
    (hchars : ∀ strength, p.chars strength = p.chars 3) : Readable n p m := by
  have hprimary : AtPrimary n p m := by
    refine ⟨fun fuel k hfuel hk => ?_, fun k hk => (h k hk).not⟩
    obtain ⟨fuel, rfl⟩ := Nat.exists_eq_add_of_lt (Nat.zero_lt_of_lt hfuel)
    exact (tryChar_not (h k hk).head).bind (h k hk).reads
  have hnegation := hprimary.negation (hchars 2)
  have hconjunction := hnegation.conjunction ((hchars 1).trans (hchars 2).symm)
  exact ⟨hconjunction.disjunction ((hchars 0).trans (hchars 1).symm), hconjunction, hnegation,
    hprimary⟩

theorem readable_not (h : Readable n p m) : Readable n (.not p) m := by
  have hchars (strength : Nat) (hs : strength ≤ 2) :
      (Predicate.not p).chars strength = "NOT".toList ++ ' ' :: p.chars 2 := by
    have hlt : ¬2 < strength := by omega
    rw [Predicate.chars_not, Predicate.encloseIf, if_neg (by simpa using hlt)]
    rfl
  have hnegation : AtNegation n (.not p) m := by
    intro fuel k hfuel hk
    rw [hchars 2 (by omega)] at hfuel ⊢
    have hink : ink ("NOT".toList ++ ' ' :: p.chars 2) = 3 + ink (p.chars 2) := by
      rw [ink_append, ink_cons]
      rfl
    rw [hink] at hfuel
    obtain ⟨fuel, rfl⟩ := Nat.exists_eq_add_of_lt (Nat.zero_lt_of_lt hfuel)
    rw [List.append_assoc]
    refine (tryKeyword_here (by decide) (endsWord_blank _) n).bind ?_
    have hreads := h.negation (0 + fuel) k (by omega) hk
    rw [← near_blank] at hreads
    exact hreads.bind (.refl _ _)
  have hconjunction :=
    hnegation.conjunction ((hchars 1 (by omega)).trans (hchars 2 (by omega)).symm)
  have hdisjunction :=
    hconjunction.disjunction ((hchars 0 (by omega)).trans (hchars 1 (by omega)).symm)
  exact ⟨hdisjunction, hconjunction, hnegation, hdisjunction.primary rfl⟩

theorem readable_and (hl : Readable n l mid) (hr : Readable mid r m) : Readable n (.and l r) m := by
  have hconjunction : AtConjunction n (.and l r) m := by
    intro fuel k hfuel hk
    have htext : (Predicate.and l r).chars 1 ++ k =
        l.chars 1 ++ ' ' :: ("AND".toList ++ ' ' :: (r.chars 2 ++ k)) := by
      rw [Predicate.chars_and, Predicate.encloseIf, if_neg (by decide), List.append_assoc,
        List.append_assoc]
      rfl
    have hink : ink ((Predicate.and l r).chars 1) = ink (l.chars 1) + 3 + ink (r.chars 2) := by
      rw [Predicate.chars_and, Predicate.encloseIf, if_neg (by decide), ink_append, ink_append]
      rfl
    rw [hink] at hfuel ⊢
    rw [htext]
    have hfollows : Follows (' ' :: ("AND".toList ++ ' ' :: (r.chars 2 ++ k))) :=
      follows_blank (by decide) _
    obtain ⟨less, hless, hleft⟩ := hl.conjunction fuel _ (by omega) hfollows
    obtain ⟨less, rfl⟩ := Nat.exists_eq_add_of_lt (show 0 < less by omega)
    refine ⟨0 + less, by omega, hleft.trans ?_⟩
    rw [near_blank]
    refine (tryKeyword_here (by decide : IsName "AND") (endsWord_blank _) mid).bind ?_
    rw [near_blank]
    exact (hr.negation (0 + less) k (by omega) hk).bind (.refl _ _)
  have hdisjunction := hconjunction.disjunction rfl
  have hprimary := hdisjunction.primary rfl
  exact ⟨hdisjunction, hconjunction, hprimary.negation rfl, hprimary⟩

theorem readable_or (hl : Readable n l mid) (hr : Readable mid r m) : Readable n (.or l r) m := by
  have hdisjunction : AtDisjunction n (.or l r) m := by
    intro fuel k hfuel hk hand
    have htext : (Predicate.or l r).chars 0 ++ k =
        l.chars 0 ++ ' ' :: ("OR".toList ++ ' ' :: (r.chars 1 ++ k)) := by
      rw [Predicate.chars_or, Predicate.encloseIf, if_neg (by decide), List.append_assoc,
        List.append_assoc]
      rfl
    have hink : ink ((Predicate.or l r).chars 0) = ink (l.chars 0) + 2 + ink (r.chars 1) := by
      rw [Predicate.chars_or, Predicate.encloseIf, if_neg (by decide), ink_append, ink_append]
      rfl
    rw [hink] at hfuel ⊢
    rw [htext]
    have hfollows : Follows (' ' :: ("OR".toList ++ ' ' :: (r.chars 1 ++ k))) :=
      follows_blank (by decide) _
    obtain ⟨less, hless, hleft⟩ := hl.disjunction fuel _ (by omega) hfollows rfl
    obtain ⟨less, rfl⟩ := Nat.exists_eq_add_of_lt (show 0 < less by omega)
    refine ⟨0 + less, by omega, hleft.trans ?_⟩
    rw [near_blank]
    refine (tryKeyword_here (by decide : IsName "OR") (endsWord_blank _) mid).bind ?_
    rw [near_blank]
    obtain ⟨rest, -, hright⟩ := hr.conjunction (0 + less) k (by omega) hk
    have hreads : Reads (Statement.conjunction (0 + less)) (Near (r.chars 1 ++ k) mid) r
        (Near k m) := hright.trans (conjunctionAfter_done hand rest)
    exact hreads.bind (.refl _ _)
  have hprimary := hdisjunction.primary rfl
  have hnegation := hprimary.negation rfl
  exact ⟨hdisjunction, hnegation.conjunction rfl, hnegation, hprimary⟩

/-- **A WHERE tree is read again** in each place in which it can be written. -/
theorem readable_of_isWritten (h : p.IsWritten n m) : Readable n p m := by
  induction h with
  | compare op hl hr hany =>
    exact readable_of_test (fun k hk => compare_here op hl hr hany hk) fun _ => rfl
  | isIn negated hl hitems =>
    exact readable_of_test (fun k _ => isIn_here negated hl hitems) fun _ => rfl
  | anyIn negated hc hitems =>
    exact readable_of_test (fun k _ => anyIn_here negated hc hitems) fun _ => rfl
  | equalsAny hl hc => exact readable_of_test (fun k hk => equalsAny_here hl hc hk) fun _ => rfl
  | like negated hl hraw =>
    exact readable_of_test (fun k hk => like_here negated hl hraw hk) fun _ => rfl
  | isNull negated hl => exact readable_of_test (fun k hk => isNull_here negated hl hk) fun _ => rfl
  | @contains first qualifier search hq hsearch =>
    refine readable_of_test (fun k _ => contains_here hq hsearch) fun _ => ?_
    cases qualifier <;> rfl
  | inFolder first scope hraw =>
    exact readable_of_test (fun k _ => inFolder_here scope hraw) fun _ => rfl
  | inFolderOf first scope hq hraw =>
    exact readable_of_test (fun k _ => inFolderOf_here scope hq hraw) fun _ => rfl
  | and _ _ hl hr => exact readable_and hl hr
  | or _ _ hl hr => exact readable_or hl hr
  | not _ hp => exact readable_not hp

end

end ContentQuery.Statement
