import ContentQuery.Proofs.Statement.Reading

/-!
# Reading the parts of a statement again

The parts of a statement that are written as the parser reads them (`Statement.IsWritten`) are read
again from their written form: references (`columnRef_here`, `selector_here`), lists between commas
(`commaSeparated_here`), operands (`operand_here`) and operators (`tryComparison_here`). The fuel
of lists and trees is counted by the characters that are no white space (`ink`).
-/

set_option autoImplicit false

namespace ContentQuery.Statement

/-! ## References -/

theorem head_of_name {name : String} (h : IsName name) (k : List Char) {d : Char}
    (hd : startsIdentifier d = false) : ∀ c ∈ (afterBlanks (name.toList ++ k)).head?, c ≠ d := by
  obtain ⟨c, others, hothers, hc, -⟩ := isName_iff.1 h
  rw [afterBlanks_name h, hothers]
  rintro _ ⟨⟩ rfl
  rw [hd] at hc
  cases hc

section
variable {k : List Char} {n : SelectorId} {first : String}

theorem columnAfter_unqualified (h : ∀ c ∈ k.head?, c ≠ '.') :
    Reads (columnAfter first) (Exactly k n) ⟨n, none, first⟩ (Exactly k (n + 1)) := by
  refine get_goes fun total => ?_
  split
  · exact absurd rfl (h '.' (by rename_i hrest; rw [show k = _ from hrest]; rfl))
  · exact absurd rfl (h '.' (by rename_i hrest; rw [show k = _ from hrest]; rfl))
  · exact (freshId_reads k n).bind (.refl _ _)

theorem columnAfter_qualified {property : String} (h : IsName property ∨ property = wildcard)
    (hk : EndsWord k) :
    Reads (columnAfter first) (Exactly ('.' :: (property.toList ++ k)) n)
      ⟨n, some first, property⟩ (Near k (n + 1)) := by
  refine get_goes fun total => ?_
  rcases h with hname | rfl
  · obtain ⟨c, others, hchars, hc, -⟩ := isName_iff.1 hname
    have hstar : ∀ rest, property.toList ++ k ≠ '*' :: rest := by
      intro rest hrest
      rw [hchars] at hrest
      cases hrest
      cases hc
    split
    · rename_i rest hrest
      exact absurd (List.cons.inj hrest).2 (hstar rest)
    · rename_i rest _ hrest
      obtain rfl : property.toList ++ k = rest := (List.cons.inj hrest).2
      refine (setRest_reads _).bind ?_
      refine Goes.exactly ((identifier_here hname hk n).near.bind ?_)
      exact (freshId_reads_near k n).bind (.refl _ _)
    · rename_i hno
      exact absurd rfl (hno (property.toList ++ k))
  · refine (setRest_reads k).bind ?_
    exact ((freshId_reads k n).bind (.refl _ _)).near

theorem toText_qualified {c : ColumnRef} {q : String} (h : c.qualifier = some q) :
    c.toText.toList = q.toList ++ '.' :: c.property.toList := by
  simp only [ColumnRef.toText, h, String.toList_append, List.append_assoc]
  rfl

/-- A column starts with a name. -/
theorem columnRef_chars {c : ColumnRef} (h : c.IsWritten n) (hk : Follows k) :
    ∃ k', IsName (c.qualifier.getD c.property) ∧ EndsWord k' ∧
      c.toText.toList ++ k = (c.qualifier.getD c.property).toList ++ k' := by
  obtain ⟨id, qualifier, property⟩ := c
  obtain ⟨rfl, hqualifier, hproperty⟩ := h
  cases qualifier with
  | none => exact ⟨k, hproperty.resolve_right fun h => h.1 rfl, hk.endsWord, rfl⟩
  | some q =>
    refine ⟨'.' :: property.toList ++ k, hqualifier q rfl, endsWord_cons rfl _, ?_⟩
    rw [toText_qualified rfl, List.append_assoc]
    rfl

theorem toText_function (f : FunctionRef) (k : List Char) :
    f.toText.toList ++ k = f.name.toList ++ '(' :: ')' :: k := by
  simp only [FunctionRef.toText, String.toList_append, List.append_assoc]
  rfl

/-- A reference starts with a name. -/
theorem selector_chars {sel : Selector} {m : SelectorId} (h : sel.IsWritten n m) (hk : Follows k) :
    ∃ name k', IsName name ∧ sel.toText.toList ++ k = name.toList ++ k' := by
  cases h with
  | column hc =>
    obtain ⟨k', hname, -, hchars⟩ := columnRef_chars hc hk
    exact ⟨_, k', hname, hchars⟩
  | @function f hf => exact ⟨f.name, _, hf.name, toText_function f k⟩

theorem columnRef_here {c : ColumnRef} (h : c.IsWritten n) (hk : Follows k) :
    Reads columnRef (Near (c.toText.toList ++ k) n) c (Near k (n + 1)) := by
  obtain ⟨id, qualifier, property⟩ := c
  obtain ⟨rfl, hqualifier, hproperty⟩ := h
  cases qualifier with
  | none =>
    have hname : IsName property := hproperty.resolve_right fun h => h.1 rfl
    refine (identifier_here hname hk.endsWord id).bind (columnAfter_unqualified ?_).near
    rintro c hc rfl
    have hmem := hk.head _ hc
    simp at hmem
  | some q =>
    have hdot : EndsWord ('.' :: (property.toList ++ k)) := endsWord_cons rfl _
    rw [toText_qualified rfl, List.append_assoc]
    refine (identifier_here (hqualifier q rfl) hdot id).bind ?_
    exact columnAfter_qualified (hproperty.imp_right And.right) hk.endsWord

/-- A column is read where a function may stand as well. -/
theorem column_goes {α : Type} {c : ColumnRef} (h : c.IsWritten n) (hk : Follows k)
    {call : String → Parser α} {f : ColumnRef → Parser α} :
    Goes (identifier >>= fun first => tryChar '(' >>= fun found =>
      if found then call first else columnAfter first >>= f)
      (Near (c.toText.toList ++ k) n) (f c) (Near k (n + 1)) := by
  obtain ⟨id, qualifier, property⟩ := c
  obtain ⟨rfl, hqualifier, hproperty⟩ := h
  cases qualifier with
  | none =>
    have hname : IsName property := hproperty.resolve_right fun h => h.1 rfl
    refine (identifier_here hname hk.endsWord id).near.bind ?_
    refine (tryChar_not_exactly fun c hc => (hk.next c hc).1).bind ?_
    refine (columnAfter_unqualified fun c hc => (hk.next c hc).2).bind ?_
    exact (near_afterBlanks k (id + 1) ▸ (Goes.refl _ _).near)
  | some q =>
    have hdot : EndsWord ('.' :: (property.toList ++ k)) := endsWord_cons rfl _
    rw [toText_qualified rfl, List.append_assoc]
    refine (identifier_here (hqualifier q rfl) hdot id).near.bind ?_
    refine Reads.bind (tryChar_not_exactly ?_) ?_
    · rintro _ ⟨⟩
      decide
    · exact (columnAfter_qualified (hproperty.imp_right And.right) hk.endsWord).bind (.refl _ _)

/-- A function is read where a column may stand as well. -/
theorem function_goes {α : Type} {f : FunctionRef} (h : f.IsWritten n)
    {call : String → SelectorId → Parser α} {column : String → Parser α} :
    Goes (identifier >>= fun first => tryChar '(' >>= fun found =>
      if found then expectChar ')' >>= fun _ => freshId >>= call first else column first)
      (Near (f.toText.toList ++ k) n) (call f.name n) (Near k (n + 1)) := by
  obtain ⟨id, name⟩ := f
  obtain ⟨rfl, hname⟩ := h
  have hparen : EndsWord ('(' :: ')' :: k) := endsWord_cons rfl _
  rw [toText_function]
  refine (identifier_here hname hparen id).near.bind ?_
  refine (tryChar_here rfl (')' :: k) id).bind ?_
  refine (expectChar_here rfl k id).bind ?_
  exact (freshId_reads_near k id).bind (.refl _ _)

theorem selector_here {sel : Selector} {m : SelectorId} (h : sel.IsWritten n m) (hk : Follows k) :
    Reads selector (Near (sel.toText.toList ++ k) n) sel (Near k m) := by
  cases h with
  | column hc => exact column_goes hc hk
  | @function f hf =>
    obtain ⟨id, name⟩ := f
    obtain rfl : id = n := hf.id
    exact function_goes hf

end

/-! ## Lists -/

/-- The characters of a text other than white space. -/
def ink (cs : List Char) : Nat := cs.countP fun c => !Text.isBlank c

@[simp] theorem ink_nil : ink [] = 0 := rfl

@[simp] theorem ink_append (cs cs' : List Char) : ink (cs ++ cs') = ink cs + ink cs' :=
  List.countP_append

theorem ink_cons (c : Char) (cs : List Char) :
    ink (c :: cs) = ink cs + if Text.isBlank c then 0 else 1 := by
  rw [ink, List.countP_cons, ← ink]
  cases Text.isBlank c <;> rfl

@[simp] theorem ink_afterBlanks (cs : List Char) : ink (afterBlanks cs) = ink cs := by
  induction cs with
  | nil => rfl
  | cons c cs ih =>
    cases hc : Text.isBlank c with
    | true =>
      rw [afterBlanks, List.dropWhile_cons_of_pos hc, ← afterBlanks, ih, ink_cons, hc]
      rfl
    | false => rw [afterBlanks_of_not_blank hc]

/-- The length of what is left bounds what is written there. -/
theorem Near.ink_le {cs : List Char} {n : SelectorId} {c : Cursor} (h : Near cs n c) :
    ink cs ≤ c.rest.length := by
  have hink : ink c.rest = ink cs := by rw [← ink_afterBlanks c.rest, h.rest, ink_afterBlanks]
  rw [← hink]
  exact List.countP_le_length

/-- Fuel that grows with what is left grows with what is written there. -/
theorem fueled_goes {α : Type} {f : Cursor → Parser α} {q : Parser α} {Q : Cursor → Prop}
    {cs : List Char} {n : SelectorId}
    (h : ∀ c : Cursor, ink cs ≤ c.rest.length → Goes (f c) (Near cs n) q Q) :
    Goes (get >>= f) (Near cs n) q Q :=
  fun c hc => h c hc.ink_le c hc

section
variable {α : Type} {item : Parser α} {R : SelectorId → α → SelectorId → Prop}
  {chars : α → List Char} {F : List Char → Prop}
  (hitem : ∀ {n m : SelectorId} {x : α} {k : List Char}, R n x m → F k →
    Reads item (Near (chars x ++ k) n) x (Near k m))
  (hcomma : ∀ k, F (',' :: k))
include hitem hcomma

theorem separated_here {n m : SelectorId} {xs : List α} {k : List Char} (hne : xs ≠ [])
    (h : Chain R n xs m) (hk : F k) (hend : ∀ c ∈ (afterBlanks k).head?, c ≠ ',') {fuel : Nat}
    (hfuel : xs.length ≤ fuel) :
    Reads (separated item fuel) (Near (commaChars chars xs ++ k) n) xs (Near k m) := by
  induction h generalizing fuel with
  | nil => exact absurd rfl hne
  | @cons n mid m x xs hx hxs ih =>
    obtain ⟨fuel, rfl⟩ := Nat.exists_eq_add_of_lt (Nat.zero_lt_of_lt hfuel)
    rw [Nat.zero_add, separated]
    cases xs with
    | nil =>
      cases hxs
      have hchars : commaChars chars [x] ++ k = chars x ++ k := by
        simp [commaChars, List.intercalate]
      rw [hchars]
      exact (hitem hx hk).bind ((tryChar_not hend).bind (.refl _ _))
    | cons y ys =>
      have hchars : commaChars chars (x :: y :: ys) ++ k =
          chars x ++ ',' :: ' ' :: (commaChars chars (y :: ys) ++ k) := by
        simp [commaChars, List.intercalate]
      rw [hchars]
      refine (hitem hx (hcomma _)).bind ((tryChar_here rfl _ _).bind ?_)
      rw [near_blank]
      exact (ih (List.cons_ne_nil _ _) (by simpa using hfuel)).bind (.refl _ _)

omit hitem hcomma in
/-- There is a comma between any two items. -/
theorem length_le_ink_commaChars (xs : List α) : xs.length ≤ ink (commaChars chars xs) + 1 := by
  induction xs with
  | nil => exact Nat.zero_le _
  | cons x xs ih =>
    cases xs with
    | nil => exact Nat.le_add_left _ _
    | cons y ys =>
      have hchars : commaChars chars (x :: y :: ys) =
          chars x ++ ',' :: ' ' :: commaChars chars (y :: ys) := by
        simp [commaChars, List.intercalate]
      have hcomma : ink (',' :: ' ' :: commaChars chars (y :: ys)) =
          ink (commaChars chars (y :: ys)) + 1 := by
        rw [ink_cons, ink_cons]
        rfl
      rw [hchars, ink_append, hcomma, List.length_cons]
      omega

theorem commaSeparated_here {n m : SelectorId} {xs : List α} {k : List Char} (hne : xs ≠ [])
    (h : Chain R n xs m) (hk : F k) (hend : ∀ c ∈ (afterBlanks k).head?, c ≠ ',') :
    Reads (commaSeparated item) (Near (commaChars chars xs ++ k) n) xs (Near k m) := by
  refine fueled_goes fun c hfuel => ?_
  rw [ink_append] at hfuel
  have hcount : xs.length ≤ ink (commaChars chars xs) + 1 := length_le_ink_commaChars xs
  exact separated_here hitem hcomma hne h hk hend (by omega)

end

/-! ## Operands -/

section
variable {p : Predicate} {n m : SelectorId} {k : List Char}

/-- An operand starts with a name of its own, or is a literal. -/
theorem operand_chars (h : p.IsWrittenOperand n m) (hk : Follows k) :
    (∃ name k', p.leadingName? = some name ∧ IsName name ∧ EndsWord k' ∧
      p.chars 3 ++ k = name.toList ++ k') ∨
    ∃ raw, p = .literal raw ∧ Literal.IsWritten raw ∧ literalAt raw.toList = true := by
  cases h with
  | @column c hc havoids =>
    obtain ⟨k', hname, hk', hchars⟩ := columnRef_chars hc hk
    exact .inl ⟨_, k', rfl, hname, hk', hchars⟩
  | @score f hf havoids =>
    obtain ⟨id, name⟩ := f
    exact .inl ⟨name, '(' :: ')' :: k, rfl, hf.name, endsWord_cons rfl _, toText_function _ k⟩
  | @literal raw hraw hopens => exact .inr ⟨raw, rfl, hraw, hopens⟩

/-- A literal where it is told from names starts with a word of its own or with no name. -/
theorem literal_chars {raw : String} (h : Literal.IsWritten raw)
    (hopens : literalAt raw.toList = true) (hk : Follows k) :
    (∃ word ∈ Predicate.literalWords, ∃ k', EndsWord k' ∧ raw.toList ++ k = word.toList ++ k') ∨
    ∃ c cs, raw.toList = c :: cs ∧ startsIdentifier c = false ∧ Text.isBlank c = false ∧
      c ≠ '(' := by
  cases h with
  | quoted hraw =>
    obtain ⟨token, htoken, -⟩ := hraw
    exact .inr ⟨_, token, htoken, rfl, rfl, by decide⟩
  | @timestamp raw hraw =>
    refine .inl ⟨"TIMESTAMP", by decide, ' ' :: (raw.toList ++ k), endsWord_blank _, ?_⟩
    rw [String.toList_append, List.append_assoc]
    rfl
  | true => exact .inl ⟨"TRUE", by decide, k, hk.endsWord, rfl⟩
  | false => exact .inl ⟨"FALSE", by decide, k, hk.endsWord, rfl⟩
  | number hraw =>
    obtain ⟨c, cs, hcs, hc⟩ := hraw.head
    obtain ⟨hblank, hquote, hwords⟩ := number_head hc
    refine .inr ⟨c, cs, hcs, ?_, hblank, ?_⟩
    · -- The exponent mark is the only letter with which a number can start.
      rw [hcs, literalAt, hwords _ (by decide), hwords _ (by decide),
        hwords _ (by decide)] at hopens
      simp only [Bool.or_false, Bool.or_eq_true, beq_iff_eq] at hopens
      rcases hopens with (((rfl | rfl) | rfl) | rfl) | hdigit
      · rfl
      · rfl
      · rfl
      · rfl
      · exact startsIdentifier_of_isDigit hdigit
    · rintro rfl
      simp [isPlace, isMark, isSign] at hc

/-- A word that an operand avoids does not stand where the operand is written. -/
theorem keywordAt_operand (h : p.IsWrittenOperand n m) (hk : Follows k) {words : List String}
    (havoids : p.Avoids words) (hliteral : ∀ word ∈ words, ∀ l ∈ Predicate.literalWords,
      Literal.isWord word l.toList = false) :
    ∀ word ∈ words, keywordAt word (afterBlanks (p.chars 3 ++ k)) = false := by
  intro word hword
  have hcases := operand_chars h hk
  rcases hcases with ⟨name, k', hleading, hname, hk', hchars⟩ | ⟨raw, hp, hraw, hopens⟩
  · rw [hchars, afterBlanks_name hname, keywordAt_append hname hk']
    exact havoids name hleading word hword
  subst hp
  · rw [Predicate.chars_literal]
    rcases literal_chars hraw hopens hk with ⟨l, hl, k', hk', hchars⟩ | ⟨c, cs, hcs, hc, hblank, -⟩
    · have hname := Predicate.isName_of_mem_literalWords hl
      rw [hchars, afterBlanks_name hname, keywordAt_append hname hk']
      exact hliteral word hword l hl
    · rw [hcs, List.cons_append, afterBlanks_of_not_blank hblank]
      exact keywordAt_of_not_starts hc word _

/-- No operand starts with a parenthesis. -/
theorem operand_head (h : p.IsWrittenOperand n m) (hk : Follows k) :
    ∀ c ∈ (afterBlanks (p.chars 3 ++ k)).head?, c ≠ '(' := by
  rcases operand_chars h hk with ⟨name, k', -, hname, -, hchars⟩ | ⟨raw, rfl, hraw, hopens⟩
  · rw [hchars]
    exact head_of_name hname k' rfl
  · rw [Predicate.chars_literal]
    rcases literal_chars hraw hopens hk with ⟨l, hl, k', -, hchars⟩ | ⟨c, cs, hcs, -, hblank, hc⟩
    · have hname := Predicate.isName_of_mem_literalWords hl
      rw [hchars]
      exact head_of_name hname k' rfl
    · rw [hcs, List.cons_append, afterBlanks_of_not_blank hblank]
      rintro _ ⟨⟩
      exact hc

/-- No literal stands where a name does that is none of its words. -/
theorem literalAt_name {name : String} (hname : IsName name) (hk : EndsWord k)
    (h : ∀ word ∈ Predicate.literalWords, Literal.isWord word name.toList = false) :
    literalAt (name.toList ++ k) = false := by
  obtain ⟨c, others, hothers, hc, -⟩ := isName_iff.1 hname
  have hwords : ∀ word ∈ Predicate.literalWords, keywordAt word (name.toList ++ k) = false := by
    intro word hword
    rw [keywordAt_append hname hk]
    exact h word hword
  simp only [Predicate.literalWords, List.forall_mem_cons] at hwords
  obtain ⟨htimestamp, htrue, hfalse, -⟩ := hwords
  have hsigns : ∀ d ∈ ['\'', '+', '-', '.'], (c == d) = false := by
    intro d hd
    rw [beq_eq_false_iff_ne]
    rintro rfl
    simp only [List.mem_cons, List.not_mem_nil, or_false] at hd
    rcases hd with rfl | rfl | rfl | rfl <;> cases hc
  have hdigit : c.isDigit = false := by
    rw [← Bool.not_eq_true]
    intro hdigit
    rw [startsIdentifier_of_isDigit hdigit] at hc
    cases hc
  rw [hothers, List.cons_append] at htimestamp htrue hfalse ⊢
  simp only [literalAt, htimestamp, htrue, hfalse, hdigit, hsigns _ (by decide : '\'' ∈ _),
    hsigns _ (by decide : '+' ∈ _), hsigns _ (by decide : '-' ∈ _), hsigns _ (by decide : '.' ∈ _),
    Bool.or_false]

/-- A literal is told from names by what is written. -/
theorem literalAt_literal {raw : String} (h : Literal.IsWritten raw)
    (hopens : literalAt raw.toList = true) (hk : Follows k) :
    literalAt (raw.toList ++ k) = true := by
  rcases literal_chars h hopens hk with ⟨l, hl, k', hk', hchars⟩ | ⟨c, cs, hcs, hc, -⟩
  · have hname := Predicate.isName_of_mem_literalWords hl
    refine Predicate.literalAt_of_keywordAt hl ?_
    rw [hchars, keywordAt_append hname hk']
    simp [Literal.isWord]
  · refine Predicate.literalAt_of_head? ?_ hopens fun word _ => ?_
    · rw [hcs]
      rfl
    · rw [hcs]
      exact keywordAt_of_not_starts hc word cs

theorem operand_here (h : p.IsWrittenOperand n m) (hk : Follows k) :
    Reads operand (Near (p.chars 3 ++ k) n) p (Near k m) := by
  have hchars := operand_chars h hk
  rcases hchars with ⟨name, k', hleading, hname, hk', hchars⟩ | ⟨raw, hp, hraw, hopens⟩
  · -- No literal stands there, so that the identifier decides.
    have hno (havoids : p.Avoids Predicate.literalWords) :
        literalAt (afterBlanks (p.chars 3 ++ k)) = false := by
      rw [hchars, afterBlanks_name hname]
      exact literalAt_name hname hk' (havoids name hleading)
    refine skipBlanks_goes (get_goes fun total => ?_)
    cases h with
    | column hc havoids =>
      simp only [hno havoids, Bool.false_eq_true, if_false]
      exact (near_afterBlanks _ n ▸ column_goes hc hk).exactly
    | @score f hf havoids =>
      simp only [hno havoids, Bool.false_eq_true, if_false]
      obtain ⟨id, name⟩ := f
      obtain rfl : id = n := hf.id
      exact (near_afterBlanks _ id ▸ function_goes hf).exactly
    | literal => cases hleading
  · subst hp
    cases h
    have hblanks : afterBlanks (raw.toList ++ k) = raw.toList ++ k := by
      rcases literal_chars hraw hopens hk with ⟨l, hl, k', -, hchars⟩ | ⟨c, cs, hcs, -, hblank, -⟩
      · have hname := Predicate.isName_of_mem_literalWords hl
        rw [hchars, afterBlanks_name hname]
      · rw [hcs]
        exact afterBlanks_of_not_blank hblank _
    refine skipBlanks_goes (get_goes fun total => ?_)
    rw [Predicate.chars_literal, hblanks]
    simp only [literalAt_literal hraw hopens hk, if_true]
    exact Goes.exactly (literalToken_here hraw hk)

end

/-! ## Parts of tests -/

section
variable {k : List Char} {n m : SelectorId}

theorem follows_blank {c : Char} (h : Text.isBlank c = false ∧ c ≠ '(' ∧ c ≠ '.')
    (cs : List Char) : Follows (' ' :: c :: cs) := by
  refine ⟨fun d hd => ?_, fun d hd => ?_⟩
  · cases hd
    decide
  · rw [afterBlanks_blank, afterBlanks_of_not_blank h.1] at hd
    cases hd
    exact h.2

theorem literalList_here {p : Predicate} (h : p.IsWrittenList) (k : List Char) (n : SelectorId) :
    Reads literalList (Near (p.chars 3 ++ k) n) p (Near k n) := by
  obtain ⟨hne, hraws⟩ := h
  rename_i raws
  have hitem {n m : SelectorId} {x : Predicate} {k : List Char}
      (hx : m = n ∧ ∃ raw, x = .literal raw ∧ Literal.IsWritten raw) (hk : Follows k) :
      Reads literalToken (Near (x.chars 3 ++ k) n) x (Near k m) := by
    obtain ⟨rfl, raw, rfl, hraw⟩ := hx
    exact literalToken_here hraw hk
  have hchain : Chain (fun n x m => m = n ∧ ∃ raw, x = .literal raw ∧ Literal.IsWritten raw) n
      (raws.map Predicate.literal) n := by
    clear hne
    induction raws with
    | nil => exact .nil n
    | cons raw raws ih =>
      obtain ⟨hraw, hraws⟩ := List.forall_mem_cons.1 hraws
      exact .cons ⟨rfl, raw, rfl, hraw⟩ (ih hraws)
  rw [Predicate.chars_literalList, Predicate.charsOfAll_eq, Predicate.enclose, List.cons_append,
    List.cons_append, List.append_assoc]
  refine (expectChar_here rfl _ n).bind ?_
  refine (commaSeparated_here hitem follows_comma ?_ hchain (follows_closing k) ?_).bind ?_
  · exact fun hnil => hne (List.map_eq_nil_iff.1 hnil)
  · rintro _ ⟨⟩
    decide
  · exact (expectChar_here rfl k n).bind (.refl _ _)

/-- A `NOT` that may be there. -/
theorem negation_here (negated : Bool) (hk : keywordAt "NOT" (afterBlanks k) = false)
    (n : SelectorId) : Reads (tryKeyword "NOT") (Near (Predicate.negationChars negated ++ k) n)
      negated (Near k n) := by
  cases negated with
  | false => exact tryKeyword_not hk n
  | true =>
    have hhere := tryKeyword_here (by decide : IsName "NOT") (endsWord_blank k) n
    rw [near_blank] at hhere
    exact hhere

/-! ## Comparison operators -/

theorem tryOperator_not {op cs : List Char} (h : op.isPrefixOf (afterBlanks cs) = false)
    (n : SelectorId) : Reads (tryOperator op) (Near cs n) false (Near cs n) := by
  refine skipBlanks_goes (get_goes fun total => ?_)
  simp only [h, Bool.false_eq_true, if_false]
  exact near_afterBlanks cs n ▸ (Goes.refl _ _).near

theorem tryOperator_here {op : List Char} (h : afterBlanks (op ++ k) = op ++ k) (n : SelectorId) :
    Reads (tryOperator op) (Near (op ++ k) n) true (Near k n) := by
  have hprefix : op.isPrefixOf (op ++ k) = true := by
    rw [List.isPrefixOf_iff_prefix]
    exact List.prefix_append op k
  refine skipBlanks_goes (get_goes fun total => ?_)
  simp only [h, hprefix, List.drop_left, if_true]
  exact Goes.near ((setRest_reads k).bind (.refl _ _))

/-- The first operator that is there is taken. -/
theorem tryComparison_append (before : List (List Char × Comparison))
    {after : List (List Char × Comparison)} {text : List Char} {op : Comparison}
    (hbefore : ∀ o ∈ before, o.1.isPrefixOf (text ++ k) = false)
    (h : afterBlanks (text ++ k) = text ++ k) (n : SelectorId) :
    Reads (tryComparison (before ++ (text, op) :: after)) (Near (text ++ k) n) (some op)
      (Near k n) := by
  induction before with
  | nil =>
    rw [List.nil_append, tryComparison]
    exact (tryOperator_here h n).bind (.refl _ _)
  | cons o before ih =>
    obtain ⟨hfirst, hbefore⟩ := List.forall_mem_cons.1 hbefore
    rw [List.cons_append, tryComparison]
    refine (tryOperator_not ?_ n).bind (ih hbefore)
    rw [h]
    exact hfirst

theorem tryComparison_here (op : Comparison) (k : List Char) (n : SelectorId) :
    Reads (tryComparison comparisons) (Near (Predicate.comparisonChars op ++ ' ' :: k) n) (some op)
      (Near k n) := by
  rw [← near_blank k]
  cases op with
  | le => exact tryComparison_append [] nofun rfl n
  | ge =>
    refine tryComparison_append (comparisons.take 1) ?_ rfl n
    simp [comparisons, List.isPrefixOf]
  | neq =>
    refine tryComparison_append (comparisons.take 2) ?_ rfl n
    simp [comparisons, List.isPrefixOf]
  | lt =>
    refine tryComparison_append (comparisons.take 3) ?_ rfl n
    simp [comparisons, List.isPrefixOf]
  | gt =>
    refine tryComparison_append (comparisons.take 4) ?_ rfl n
    simp [comparisons, List.isPrefixOf]
  | eq =>
    refine tryComparison_append (comparisons.take 5) ?_ rfl n
    simp [comparisons, List.isPrefixOf]

end

end ContentQuery.Statement
