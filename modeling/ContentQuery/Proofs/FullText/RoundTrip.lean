import ContentQuery.FullText.Printer
import ContentQuery.Proofs.Run
import ContentQuery.Proofs.Statement.Tokens

/-!
# Writing and reading a full-text search

`parse_toText`: a search that has been read is read again from its written form. A term is read
again where the text ends behind it or a blank follows (`takeTerm_again`); only the last term of a
text can end in a backslash that would keep a blank from ending it. From there the argument goes up
the grammar, to the terms of a conjunction (`takeTerms_again`) and to the alternatives
(`takeAlternatives_again`).
-/

set_option autoImplicit false

namespace ContentQuery.FullText

open Statement (afterBlanks)

/-- No word goes on in this text: it is empty or starts with white space. -/
def EndsTerm (cs : List Char) : Prop := ∀ c ∈ cs.head?, Text.isBlank c = true

/-- A text that starts with a character other than white space. -/
def Starts (cs : List Char) : Prop := ∃ c tail, cs = c :: tail ∧ Text.isBlank c = false

theorem Starts.afterBlanks_append {cs : List Char} (h : Starts cs) (k : List Char) :
    afterBlanks (cs ++ k) = cs ++ k := by
  obtain ⟨c, tail, rfl, hc⟩ := h
  exact Statement.afterBlanks_of_not_blank hc _

theorem Starts.length_pos {cs : List Char} (h : Starts cs) : 0 < cs.length := by
  obtain ⟨c, tail, rfl, -⟩ := h
  exact Nat.succ_pos _

theorem starts_afterBlanks {cs : List Char} (h : afterBlanks cs ≠ []) :
    Starts (afterBlanks cs) := by
  cases hcs : afterBlanks cs with
  | nil => exact absurd hcs h
  | cons c tail =>
    refine ⟨c, tail, rfl, ?_⟩
    have hhead := List.head?_dropWhile_not Text.isBlank cs
    unfold afterBlanks at hcs
    rw [hcs] at hhead
    simpa using hhead

/-! ## Words -/

theorem splitWord_escaped (c : Char) (tail : List Char) : splitWord ('\\' :: c :: tail) =
    ('\\' :: c :: (splitWord tail).1, (splitWord tail).2) := rfl

theorem splitWord_cons {c : Char} {tail : List Char}
    (h : ∀ d ds, c = '\\' → tail = d :: ds → False) : splitWord (c :: tail) =
      if Text.isBlank c then ([], c :: tail)
      else (c :: (splitWord tail).1, (splitWord tail).2) := by
  rw [splitWord.eq_def]
  split
  · rename_i hnil
    cases hnil
  · rename_i hescaped
    cases hescaped
    exact absurd rfl fun hc => h _ _ hc rfl
  · rename_i hcons
    cases hcons
    rfl

theorem splitWord_append (cs : List Char) : (splitWord cs).1 ++ (splitWord cs).2 = cs := by
  induction cs using splitWord.induct with
  | case1 => rfl
  | case2 c tail word rest htail ih =>
    rw [splitWord_escaped, htail]
    rw [htail] at ih
    simp only [List.cons_append, ih]
  | case3 c tail hescape hc => rw [splitWord_cons hescape, if_pos hc]; rfl
  | case4 c tail hescape hc word rest htail ih =>
    rw [splitWord_cons hescape, if_neg hc, htail]
    rw [htail] at ih
    simp only [List.cons_append, ih]

/-- A word is read again if the text goes on with a blank, or ends where it ended before. -/
theorem splitWord_again {cs word rest k : List Char} (h : splitWord cs = (word, rest))
    (hk : EndsTerm k) (hlast : rest = [] → k = []) : splitWord (word ++ k) = (word, k) := by
  induction cs using splitWord.induct generalizing word rest with
  | case1 =>
    cases h
    rw [hlast rfl]
    rfl
  | case2 c tail word' rest' htail ih =>
    rw [splitWord_escaped, htail] at h
    cases h
    rw [List.cons_append, List.cons_append, splitWord_escaped, ih htail hlast]
  | case3 c tail hescape hc =>
    rw [splitWord_cons hescape, if_pos hc] at h
    cases h
    cases k with
    | nil => rfl
    | cons d k =>
      have hd := hk d rfl
      have hother : ∀ e ds, d = '\\' → k = e :: ds → False := by
        rintro e ds rfl -
        cases hd
      rw [List.nil_append, splitWord_cons hother, if_pos hd]
  | case4 c tail hescape hc word' rest' htail ih =>
    rw [splitWord_cons hescape, if_neg hc, htail] at h
    cases h
    have hother : ∀ e ds, c = '\\' → word' ++ k = e :: ds → False := by
      rintro e ds rfl hds
      -- A backslash ends a word only at the end of the text.
      have htail' := splitWord_append tail
      rw [htail] at htail'
      cases tail with
      | nil =>
        obtain ⟨rfl, rfl⟩ := List.append_eq_nil_iff.1 htail'
        rw [hlast rfl] at hds
        cases hds
      | cons e tail => exact hescape e tail rfl rfl
    rw [List.cons_append, splitWord_cons hother, if_neg hc, ih htail hlast]

/-! ## Terms -/

section
variable {cs rest k : List Char} {leaf term : Tree}

theorem takeLeaf_append (h : takeLeaf cs = .ok (leaf, rest)) : cs = leaf.chars ++ rest := by
  unfold takeLeaf at h
  split at h
  · split at h
    · rename_i tail phrase rest' hphrase
      cases h
      rw [Statement.splitPhrase?_eq] at hphrase
      obtain ⟨-, rfl⟩ := Statement.splitClosing?_eq_some hphrase
      simp
    · cases h
  · have hcs := splitWord_append cs
    cases h
    simp only [Tree.chars_word, String.toList_ofList, hcs]

/-- A leaf is read again if the text goes on with a blank, or ends where it ended before. -/
theorem takeLeaf_again (h : takeLeaf cs = .ok (leaf, rest)) (hk : EndsTerm k)
    (hlast : rest = [] → k = []) : takeLeaf (leaf.chars ++ k) = .ok (leaf, k) := by
  unfold takeLeaf at h
  split at h
  · split at h
    · rename_i tail phrase rest' hphrase
      cases h
      rw [Statement.splitPhrase?_eq] at hphrase
      obtain ⟨hcloses, -⟩ := Statement.splitClosing?_eq_some hphrase
      have hsplit := hcloses.split (by decide) k
      rw [← Statement.splitPhrase?_eq] at hsplit
      simp only [Tree.chars_phrase, String.toList_ofList, List.cons_append, takeLeaf, hsplit]
    · cases h
  · rename_i hquote
    cases hsplit : splitWord cs with
    | mk word rest' =>
    rw [hsplit] at h
    cases h
    have hword := splitWord_append cs
    rw [hsplit] at hword
    have hnext : ∀ tail, word ++ k ≠ '"' :: tail := by
      intro tail htail
      cases word with
      | nil =>
        have hblank := hk '"' (by rw [← List.nil_append k, htail]; rfl)
        cases hblank
      | cons c word =>
        obtain rfl : c = '"' := (List.cons.inj htail).1
        exact hquote (word ++ rest) hword.symm
    have hagain := splitWord_again hsplit hk hlast
    simp only [Tree.chars_word, String.toList_ofList]
    unfold takeLeaf
    split
    · rename_i tail htail
      exact absurd htail (hnext tail)
    · rw [hagain]

theorem takeLeaf_starts (hcs : Starts cs) (h : takeLeaf cs = .ok (leaf, rest)) :
    Starts leaf.chars := by
  obtain ⟨c, tail, rfl, hc⟩ := hcs
  have happend := takeLeaf_append h
  cases hchars : leaf.chars with
  | cons d ds =>
    rw [hchars] at happend
    obtain rfl : c = d := (List.cons.inj happend).1
    exact ⟨c, ds, rfl, hc⟩
  | nil =>
    exfalso
    unfold takeLeaf at h
    split at h
    · split at h
      · cases h
        simp at hchars
      · cases h
    · cases h
      have hword : (splitWord (c :: tail)).1 = [] := by
        simpa only [Tree.chars_word, String.toList_ofList] using hchars
      by_cases hescape : ∃ d ds, c = '\\' ∧ tail = d :: ds
      · obtain ⟨d, ds, rfl, rfl⟩ := hescape
        rw [splitWord_escaped] at hword
        cases hword
      · rw [splitWord_cons (fun d ds hd hds => hescape ⟨d, ds, hd, hds⟩), if_neg (by simp [hc])]
          at hword
        cases hword

/-- The character behind a minus sign decides whether it negates. -/
theorem takeTerm_cases (cs : List Char) :
    (∃ tail, cs = '-' :: tail ∧ Starts tail ∧
      takeTerm cs = (takeLeaf tail).map fun (leaf, rest) => (.negation leaf, rest)) ∨
    ((∀ tail, cs = '-' :: tail → EndsTerm tail) ∧ takeTerm cs = takeLeaf cs) := by
  unfold takeTerm
  split
  · rename_i c tail
    by_cases hc : Text.isBlank c = true
    · refine .inr ⟨?_, if_pos hc⟩
      rintro _ ⟨⟩ d ⟨⟩
      exact hc
    · exact .inl ⟨_, rfl, ⟨c, tail, rfl, by simpa using hc⟩, if_neg hc⟩
  · rename_i hno
    refine .inr ⟨?_, rfl⟩
    rintro tail rfl d hd
    cases tail with
    | nil => cases hd
    | cons c tail => exact absurd rfl (hno c tail)

theorem takeTerm_append (h : takeTerm cs = .ok (term, rest)) : cs = term.chars ++ rest := by
  rcases takeTerm_cases cs with ⟨tail, rfl, -, hterm⟩ | ⟨-, hterm⟩
  · rw [hterm] at h
    cases hleaf : takeLeaf tail with
    | error e => rw [hleaf] at h; cases h
    | ok found =>
      obtain ⟨leaf, rest'⟩ := found
      rw [hleaf] at h
      cases h
      rw [Tree.chars_negation, List.cons_append, ← takeLeaf_append hleaf]
  · rw [hterm] at h
    exact takeLeaf_append h

theorem takeTerm_starts (hcs : Starts cs) (h : takeTerm cs = .ok (term, rest)) :
    Starts term.chars := by
  rcases takeTerm_cases cs with ⟨tail, rfl, -, hterm⟩ | ⟨-, hterm⟩
  · rw [hterm] at h
    cases hleaf : takeLeaf tail with
    | error e => rw [hleaf] at h; cases h
    | ok found =>
      rw [hleaf] at h
      cases h
      exact ⟨'-', _, rfl, rfl⟩
  · rw [hterm] at h
    exact takeLeaf_starts hcs h

/-- A term is read again if the text goes on with a blank, or ends where it ended before. -/
theorem takeTerm_again (hcs : Starts cs) (h : takeTerm cs = .ok (term, rest)) (hk : EndsTerm k)
    (hlast : rest = [] → k = []) : takeTerm (term.chars ++ k) = .ok (term, k) := by
  rcases takeTerm_cases cs with ⟨tail, rfl, htail, hterm⟩ | ⟨hminus, hterm⟩
  · rw [hterm] at h
    cases hleaf : takeLeaf tail with
    | error e => rw [hleaf] at h; cases h
    | ok found =>
      obtain ⟨leaf, rest'⟩ := found
      rw [hleaf] at h
      cases h
      obtain ⟨c, others, hchars, hc⟩ := takeLeaf_starts htail hleaf
      have hagain := takeLeaf_again hleaf hk hlast
      rw [hchars] at hagain
      rw [Tree.chars_negation, hchars]
      simp only [List.cons_append, takeTerm, hc, Bool.false_eq_true, if_false] at hagain ⊢
      rw [hagain]
      rfl
  · rw [hterm] at h
    have hagain := takeLeaf_again h hk hlast
    obtain ⟨c, others, hchars, -⟩ := takeLeaf_starts hcs h
    rcases takeTerm_cases (term.chars ++ k) with ⟨tail, htail, hstarts, -⟩ | ⟨-, hsame⟩
    · -- What follows a minus sign that is a word of its own is a blank here as well.
      exfalso
      obtain ⟨d, ds, rfl, hd⟩ := hstarts
      rw [hchars, List.cons_append] at htail
      obtain ⟨rfl, hbehind⟩ := List.cons.inj htail
      have happend := takeLeaf_append h
      rw [hchars] at happend
      have hends := hminus _ happend
      cases others with
      | nil =>
        have hblank := hk d (by rw [← List.nil_append k, hbehind]; rfl)
        rw [hd] at hblank
        cases hblank
      | cons e others =>
        obtain rfl : e = d := (List.cons.inj hbehind).1
        have hblank := hends e rfl
        rw [hd] at hblank
        cases hblank
    · rw [hsame]
      exact hagain

end

/-! ## Conjunctions -/

/-- No term follows: the text ends, or an alternative starts. -/
def EndsTerms (cs : List Char) : Prop := afterBlanks cs = [] ∨ startsWithOr (afterBlanks cs) = true

theorem splitWord_ends (cs : List Char) : EndsTerm (splitWord cs).2 := by
  induction cs using splitWord.induct with
  | case1 => exact fun c hc => nomatch hc
  | case2 c tail word rest htail ih =>
    rw [splitWord_escaped, htail]
    rwa [htail] at ih
  | case3 c tail hescape hc =>
    rw [splitWord_cons hescape, if_pos hc]
    rintro _ ⟨⟩
    exact hc
  | case4 c tail hescape hc word rest htail ih =>
    rw [splitWord_cons hescape, if_neg hc, htail]
    rwa [htail] at ih

theorem startsWithOr_iff {cs : List Char} :
    startsWithOr cs = true ↔ ∃ k, cs = 'O' :: 'R' :: k ∧ EndsTerm k := by
  constructor
  · intro h
    unfold startsWithOr at h
    split at h
    · rename_i c k
      exact ⟨c :: k, rfl, fun d hd => by cases hd; exact h⟩
    · exact ⟨[], rfl, fun d hd => nomatch hd⟩
    · cases h
  · rintro ⟨k, rfl, hk⟩
    cases k with
    | nil => rfl
    | cons c k => exact hk c rfl

/-- A term is not taken for the word `OR` where it was none. -/
theorem startsWithOr_term {cs rest k : List Char} {term : Tree} (hcs : Starts cs)
    (h : takeTerm cs = .ok (term, rest)) (hor : startsWithOr cs = false) (hk : EndsTerm k) :
    startsWithOr (term.chars ++ k) = false := by
  rw [← Bool.not_eq_true, startsWithOr_iff] at hor ⊢
  rintro ⟨others, hothers, hends⟩
  refine hor ?_
  have happend := takeTerm_append h
  obtain ⟨c, chars, hchars, -⟩ := takeTerm_starts hcs h
  rw [hchars, List.cons_append] at hothers
  obtain ⟨rfl, hbehind⟩ := List.cons.inj hothers
  match chars, hchars, hbehind with
  | [], hchars, hbehind =>
    have hblank := hk 'R' (by rw [← List.nil_append k, hbehind]; rfl)
    cases hblank
  | [d], hchars, hbehind =>
    obtain ⟨rfl, rfl⟩ := List.cons.inj hbehind
    rw [hchars] at happend
    refine ⟨rest, happend, ?_⟩
    have hword : takeTerm cs = takeLeaf cs := by rw [happend]; rfl
    have hleaf : takeLeaf cs = .ok (.word (String.ofList (splitWord cs).1), (splitWord cs).2) := by
      rw [happend]
      rfl
    rw [hword, hleaf] at h
    cases h
    exact splitWord_ends cs
  | d :: e :: chars, hchars, hbehind =>
    obtain ⟨rfl, rfl⟩ := List.cons.inj hbehind
    rw [hchars] at happend
    refine ⟨e :: (chars ++ rest), happend, fun f hf => hends f ?_⟩
    cases hf
    rfl

theorem takeTerms_of_ends {cs : List Char} (h : EndsTerms cs) {fuel : Nat} (hfuel : 0 < fuel) :
    takeTerms fuel cs = .ok ([], afterBlanks cs) := by
  obtain ⟨fuel, rfl⟩ := Nat.exists_eq_add_of_lt hfuel
  have hdone : ((afterBlanks cs).isEmpty || startsWithOr (afterBlanks cs)) = true := by
    rcases h with h | h
    · rw [h]; rfl
    · rw [h, Bool.or_true]
  rw [Nat.zero_add, takeTerms]
  exact if_pos hdone

/-- One more term, and what comes behind it. -/
theorem takeTerms_step {cs : List Char} (h : ¬EndsTerms cs) (fuel : Nat) :
    takeTerms (fuel + 1) cs = (do
      let (term, rest) ← takeTerm (afterBlanks cs)
      let (terms, rest) ← takeTerms fuel rest
      pure (term :: terms, rest)) := by
  have hgo : ((afterBlanks cs).isEmpty || startsWithOr (afterBlanks cs)) = false := by
    rw [← Bool.not_eq_true, Bool.or_eq_true, List.isEmpty_iff]
    exact h
  rw [takeTerms]
  exact if_neg (by rw [← afterBlanks, hgo]; exact Bool.false_ne_true)

theorem takeTerms_nil (fuel : Nat) : takeTerms fuel [] = .ok ([], []) := by
  cases fuel with
  | zero => rfl
  | succ fuel => exact takeTerms_of_ends (.inl rfl) (Nat.succ_pos fuel)

theorem takeTerms_cases {fuel : Nat} {cs rest : List Char} {terms : List Tree}
    (h : takeTerms fuel cs = .ok (terms, rest)) :
    terms = [] ∨ ¬EndsTerms cs ∧ ∃ less term others mid, fuel = less + 1 ∧
      takeTerm (afterBlanks cs) = .ok (term, mid) ∧ takeTerms less mid = .ok (others, rest) ∧
      terms = term :: others := by
  cases fuel with
  | zero => cases h; exact .inl rfl
  | succ fuel =>
    by_cases hends : EndsTerms cs
    · rw [takeTerms_of_ends hends (Nat.succ_pos fuel)] at h
      cases h
      exact .inl rfl
    · rw [takeTerms_step hends] at h
      obtain ⟨⟨term, mid⟩, hterm, h⟩ := exists_of_bind_eq_ok h
      obtain ⟨⟨others, rest⟩, hothers, h⟩ := exists_of_bind_eq_ok h
      cases h
      exact .inr ⟨hends, fuel, term, others, mid, rfl, hterm, hothers, rfl⟩

theorem starts_of_not_endsTerms {cs : List Char} (h : ¬EndsTerms cs) : Starts (afterBlanks cs) :=
  starts_afterBlanks fun hnil => h (.inl hnil)

theorem takeTerms_starts {fuel : Nat} {cs rest : List Char} {terms : List Tree}
    (h : takeTerms fuel cs = .ok (terms, rest)) : ∀ t ∈ terms, Starts t.chars := by
  induction fuel generalizing cs terms with
  | zero =>
    cases h
    exact fun t ht => nomatch ht
  | succ fuel ih =>
    rcases takeTerms_cases h with rfl | ⟨hends, less, term, others, mid, hless, hterm, hothers, rfl⟩
    · exact fun t ht => nomatch ht
    · obtain rfl := Nat.succ.inj hless
      intro t ht
      rcases List.mem_cons.1 ht with rfl | ht
      · exact takeTerm_starts (starts_of_not_endsTerms hends) hterm
      · exact ih hothers t ht

/-- The terms of a conjunction are read again, with any blanks before them. -/
theorem takeTerms_again {fuel : Nat} {cs rest : List Char} {terms : List Tree}
    (h : takeTerms fuel cs = .ok (terms, rest)) {k : List Char} (hk : EndsTerm k)
    (hends : EndsTerms k) (hlast : rest = [] → k = []) {fuel' : Nat} (hfuel : terms.length < fuel')
    {cs' : List Char} (hcs' : afterBlanks cs' = afterBlanks (Tree.charsOfAll [' '] terms ++ k)) :
    takeTerms fuel' cs' = .ok (terms, afterBlanks k) := by
  induction fuel generalizing cs terms fuel' cs' with
  | zero =>
    cases h
    have hnow : afterBlanks cs' = afterBlanks k := hcs'
    have hends' : EndsTerms cs' := by rwa [EndsTerms, hnow]
    rw [takeTerms_of_ends hends' hfuel, hnow]
  | succ fuel ih =>
    rcases takeTerms_cases h with rfl | ⟨hgo, less, term, others, mid, hless, hterm, hothers, rfl⟩
    · have hnow : afterBlanks cs' = afterBlanks k := hcs'
      have hends' : EndsTerms cs' := by rwa [EndsTerms, hnow]
      rw [takeTerms_of_ends hends' hfuel, hnow]
    · obtain rfl := Nat.succ.inj hless
      obtain ⟨fuel', rfl⟩ := Nat.exists_eq_add_of_lt (Nat.zero_lt_of_lt hfuel)
      have hstarts := starts_of_not_endsTerms hgo
      have hor : startsWithOr (afterBlanks cs) = false := by
        rw [← Bool.not_eq_true]
        exact fun hor => hgo (.inr hor)
      -- What is written behind this term: the end, or a blank and the other terms.
      obtain ⟨k', hk', hk'last, hwritten, hbehind⟩ : ∃ k', EndsTerm k' ∧ (mid = [] → k' = []) ∧
          Tree.charsOfAll [' '] (term :: others) ++ k = term.chars ++ k' ∧
          afterBlanks k' = afterBlanks (Tree.charsOfAll [' '] others ++ k) := by
        cases others with
        | nil =>
          refine ⟨k, hk, fun hmid => hlast ?_, rfl, rfl⟩
          rw [hmid, takeTerms_nil] at hothers
          cases hothers
          rfl
        | cons next others =>
          refine ⟨' ' :: (Tree.charsOfAll [' '] (next :: others) ++ k), ?_, ?_, ?_, rfl⟩
          · rintro _ ⟨⟩
            rfl
          · intro hmid
            rw [hmid, takeTerms_nil] at hothers
            cases hothers
          · rw [Tree.charsOfAll_cons _ _ (List.cons_ne_nil _ _)]
            simp
      have hnow : afterBlanks cs' = term.chars ++ k' := by
        rw [hcs', hwritten, (takeTerm_starts hstarts hterm).afterBlanks_append]
      have hgo' : ¬EndsTerms cs' := by
        rw [EndsTerms, hnow, startsWithOr_term hstarts hterm hor hk']
        rintro (hnil | hor')
        · obtain ⟨c, chars, hchars, -⟩ := takeTerm_starts hstarts hterm
          rw [hchars] at hnil
          cases hnil
        · cases hor'
      have hothers' := ih hothers (Nat.lt_of_succ_lt_succ hfuel) hbehind
      rw [takeTerms_step hgo', hnow, takeTerm_again hstarts hterm hk' hk'last, ok_bind]
      simp only [hothers', ok_bind]
      rfl

/-! ## Alternatives -/

theorem chars_collapse_conjunction (terms : List Tree) :
    (collapse .conjunction terms).chars = Tree.charsOfAll [' '] terms := by
  match terms with
  | [] => rfl
  | [t] => rfl
  | t :: u :: terms => rfl

theorem chars_collapse_disjunction (alternatives : List Tree) :
    (collapse .disjunction alternatives).chars =
      Tree.charsOfAll [' ', 'O', 'R', ' '] alternatives := by
  match alternatives with
  | [] => rfl
  | [t] => rfl
  | t :: u :: alternatives => rfl

theorem length_le_charsOfAll (separator : List Char) {trees : List Tree}
    (h : ∀ t ∈ trees, Starts t.chars) :
    trees.length ≤ (Tree.charsOfAll separator trees).length := by
  induction trees with
  | nil => exact Nat.zero_le _
  | cons t trees ih =>
    have ht := (h t List.mem_cons_self).length_pos
    have htrees := ih fun u hu => h u (List.mem_cons_of_mem _ hu)
    cases trees with
    | nil => exact ht
    | cons u trees =>
      rw [Tree.charsOfAll_cons _ _ (List.cons_ne_nil _ _)]
      simp only [List.length_append, List.length_cons] at htrees ⊢
      omega

theorem starts_charsOfAll (separator : List Char) {trees : List Tree} (hne : trees ≠ [])
    (h : ∀ t ∈ trees, Starts t.chars) : Starts (Tree.charsOfAll separator trees) := by
  match trees, hne with
  | [t], _ => exact h t List.mem_cons_self
  | t :: u :: trees, _ =>
    obtain ⟨c, chars, hchars, hc⟩ := h t List.mem_cons_self
    rw [Tree.charsOfAll_cons _ _ (List.cons_ne_nil _ _), hchars]
    exact ⟨c, _, rfl, hc⟩

/-- The alternatives of a text: its first terms, and those behind an `OR`. -/
theorem takeAlternatives_cases {fuel : Nat} {cs : List Char} {alternatives : List Tree}
    (h : takeAlternatives fuel cs = .ok alternatives) :
    ∃ less terms rest, fuel = less + 1 ∧ takeTerms (cs.length + 1) cs = .ok (terms, rest) ∧
      terms ≠ [] ∧ (rest = [] ∧ alternatives = [collapse .conjunction terms] ∨
        rest ≠ [] ∧ ∃ others, takeAlternatives less (rest.drop 2) = .ok others ∧
          alternatives = collapse .conjunction terms :: others) := by
  cases fuel with
  | zero => cases h
  | succ fuel =>
    rw [takeAlternatives] at h
    obtain ⟨⟨terms, rest⟩, hterms, h⟩ := exists_of_bind_eq_ok h
    refine ⟨fuel, terms, rest, rfl, hterms, ?_⟩
    by_cases hempty : terms = []
    · subst hempty
      cases h
    · have hempty' : terms.isEmpty = false := by rwa [List.isEmpty_eq_false_iff]
      refine ⟨hempty, ?_⟩
      simp only [hempty', Bool.false_eq_true, if_false, List.isEmpty_iff] at h
      by_cases hrest : rest = []
      · simp only [hrest, if_true] at h
        cases h
        exact .inl ⟨hrest, rfl⟩
      · simp only [hrest, if_false] at h
        obtain ⟨others, hothers, h⟩ := exists_of_bind_eq_ok h
        cases h
        exact .inr ⟨hrest, others, hothers, rfl⟩

theorem takeAlternatives_step {fuel : Nat} {cs rest : List Char} {terms : List Tree}
    (h : takeTerms (cs.length + 1) cs = .ok (terms, rest)) (hterms : terms ≠ []) :
    takeAlternatives (fuel + 1) cs =
      if rest = [] then .ok [collapse .conjunction terms]
      else (takeAlternatives fuel (rest.drop 2)).map (collapse .conjunction terms :: ·) := by
  have hempty : terms.isEmpty = false := by rwa [List.isEmpty_eq_false_iff]
  rw [takeAlternatives, h, ok_bind]
  simp only [hempty, Bool.false_eq_true, if_false, List.isEmpty_iff]
  split
  · rfl
  · cases takeAlternatives fuel (rest.drop 2) <;> rfl

theorem takeAlternatives_starts {fuel : Nat} {cs : List Char} {alternatives : List Tree}
    (h : takeAlternatives fuel cs = .ok alternatives) :
    alternatives ≠ [] ∧ ∀ t ∈ alternatives, Starts t.chars := by
  induction fuel generalizing cs alternatives with
  | zero => cases h
  | succ fuel ih =>
    obtain ⟨less, terms, rest, hless, hterms, hne, hrest⟩ := takeAlternatives_cases h
    obtain rfl := Nat.succ.inj hless
    have hfirst : Starts (collapse .conjunction terms).chars := by
      rw [chars_collapse_conjunction]
      exact starts_charsOfAll _ hne (takeTerms_starts hterms)
    rcases hrest with ⟨-, rfl⟩ | ⟨-, others, hothers, rfl⟩
    · exact ⟨List.cons_ne_nil _ _, by simpa using hfirst⟩
    · exact ⟨List.cons_ne_nil _ _, List.forall_mem_cons.2 ⟨hfirst, (ih hothers).2⟩⟩

/-- The alternatives of a search are read again, with any blanks before them. -/
theorem takeAlternatives_again {fuel : Nat} {cs : List Char} {alternatives : List Tree}
    (h : takeAlternatives fuel cs = .ok alternatives) {fuel' : Nat} {cs' : List Char}
    (hfuel' : alternatives.length ≤ fuel')
    (hcs' : afterBlanks cs' = Tree.charsOfAll [' ', 'O', 'R', ' '] alternatives) :
    takeAlternatives fuel' cs' = .ok alternatives := by
  induction fuel generalizing cs alternatives fuel' cs' with
  | zero => cases h
  | succ fuel ih =>
    obtain ⟨less, terms, rest, hless, hterms, hne, hrest⟩ := takeAlternatives_cases h
    obtain rfl := Nat.succ.inj hless
    have hstarts := takeTerms_starts hterms
    have hwritten := starts_charsOfAll [' '] hne hstarts
    have hcount := length_le_charsOfAll [' '] hstarts
    -- There is enough fuel for terms that are written at the start of a text.
    have hfuel (cs' k : List Char) (hcs' : afterBlanks cs' = Tree.charsOfAll [' '] terms ++ k) :
        terms.length < cs'.length + 1 := by
      have hlength := congrArg List.length hcs'
      have hblanks := Statement.length_afterBlanks_le cs'
      rw [List.length_append] at hlength
      omega
    obtain ⟨fuel', rfl⟩ : ∃ n, fuel' = n + 1 := by
      refine Nat.exists_eq_succ_of_ne_zero fun hzero => (takeAlternatives_starts h).1 ?_
      rw [hzero] at hfuel'
      exact List.eq_nil_of_length_eq_zero (Nat.le_zero.1 hfuel')
    rcases hrest with ⟨rfl, rfl⟩ | ⟨hrest, others, hothers, rfl⟩
    · rw [Tree.charsOfAll_single, chars_collapse_conjunction,
        ← List.append_nil (Tree.charsOfAll [' '] terms)] at hcs'
      have hagain := takeTerms_again hterms (k := []) (fun _ h => nomatch h) (.inl rfl)
        (fun _ => rfl) (hfuel cs' [] hcs') (hcs'.trans (hwritten.afterBlanks_append []).symm)
      rw [takeAlternatives_step hagain hne]
      rfl
    · obtain ⟨hone, hostarts⟩ := takeAlternatives_starts hothers
      let others' := Tree.charsOfAll [' ', 'O', 'R', ' '] others
      let k := [' ', 'O', 'R', ' '] ++ others'
      have hchars : Tree.charsOfAll [' ', 'O', 'R', ' '] (collapse .conjunction terms :: others) =
          Tree.charsOfAll [' '] terms ++ k := by
        rw [Tree.charsOfAll_cons _ _ hone, chars_collapse_conjunction, List.append_assoc]
      rw [hchars] at hcs'
      have hk : EndsTerm k := by
        rintro _ ⟨⟩
        rfl
      have hagain := takeTerms_again hterms hk (.inr rfl) (fun h => absurd h hrest)
        (hfuel cs' k hcs') (hcs'.trans (hwritten.afterBlanks_append k).symm)
      have hbehind : afterBlanks (' ' :: others') = others' := by
        rw [Statement.afterBlanks_blank]
        simpa using (starts_charsOfAll _ hone hostarts).afterBlanks_append []
      have hdone := ih hothers (Nat.le_of_succ_le_succ hfuel') hbehind
      have hnext : afterBlanks k = 'O' :: 'R' :: ' ' :: others' := rfl
      rw [takeAlternatives_step hagain hne, hnext, if_neg (List.cons_ne_nil _ _),
        List.drop_succ_cons, List.drop_succ_cons, List.drop_zero, hdone]
      rfl

/-- A search is made of the alternatives of its text. -/
theorem exists_of_parse {text : String} {t : Tree} (h : parse text = .ok t) :
    ∃ alternatives, takeAlternatives (text.toList.length + 1) text.toList = .ok alternatives ∧
      t = collapse .disjunction alternatives := by
  have hparse : parse text = (takeAlternatives (text.toList.length + 1) text.toList).map
      (collapse .disjunction) := rfl
  rw [hparse] at h
  cases halternatives : takeAlternatives (text.toList.length + 1) text.toList with
  | error fault =>
    rw [halternatives] at h
    cases h
  | ok alternatives =>
    rw [halternatives] at h
    cases h
    exact ⟨alternatives, rfl, rfl⟩

/-- **A search is read again from its written form.** -/
theorem parse_toText {text : String} {t : Tree} (h : parse text = .ok t) :
    parse t.toText = .ok t := by
  obtain ⟨alternatives, halternatives, rfl⟩ := exists_of_parse h
  obtain ⟨hne, hstarts⟩ := takeAlternatives_starts halternatives
  have hcount := length_le_charsOfAll [' ', 'O', 'R', ' '] hstarts
  have hblanks := (starts_charsOfAll [' ', 'O', 'R', ' '] hne hstarts).afterBlanks_append []
  rw [List.append_nil] at hblanks
  have hparse (text : String) : parse text = (takeAlternatives (text.toList.length + 1)
      text.toList).map (collapse .disjunction) := rfl
  rw [hparse, Tree.toText, String.toList_ofList, chars_collapse_disjunction,
    takeAlternatives_again halternatives (Nat.le_succ_of_le hcount) hblanks]
  rfl

end ContentQuery.FullText
