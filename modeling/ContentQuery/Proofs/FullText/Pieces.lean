import ContentQuery.Proofs.FullText.Shape

/-!
# The pieces of a search text

The text of a search that has been read is made of the tokens of its leaves, the minus signs before
negated leaves, the `OR`s between alternatives, and white space. `Cut` says that pieces make up a
text up to what is left of it, and that no white space among them is escaped; each reader of the
grammar takes pieces off in this way, from a term (`takeTerm_cut`) to the alternatives
(`takeAlternatives_cut`). The main statement is `parse_rereads_and_covers`.
-/

set_option autoImplicit false

namespace ContentQuery.FullText

open Statement (afterBlanks)

/-! ## Pieces -/

/-- A part of a search text. -/
inductive Piece
  | blank (c : Char)
  | minus
  | or
  | leaf (node : Tree)

namespace Piece

def chars : Piece → List Char
  | blank c => [c]
  | minus => ['-']
  | or => ['O', 'R']
  | leaf node => node.chars

/-- Whether a piece is more than white space. -/
def isInk : Piece → Bool
  | blank _ => false
  | _ => true

def leaf? : Piece → Option Tree
  | leaf node => some node
  | _ => none

/-- The text of pieces side by side. -/
def charsOfAll (pieces : List Piece) : List Char := pieces.flatMap chars

@[simp] theorem charsOfAll_nil : charsOfAll [] = [] := rfl

@[simp] theorem charsOfAll_cons (p : Piece) (pieces : List Piece) :
    charsOfAll (p :: pieces) = p.chars ++ charsOfAll pieces := rfl

@[simp] theorem charsOfAll_append (pieces pieces' : List Piece) :
    charsOfAll (pieces ++ pieces') = charsOfAll pieces ++ charsOfAll pieces' :=
  List.flatMap_append

/-- White space is no leaf. -/
theorem filterMap_leaf?_filter (pieces : List Piece) :
    (pieces.filter isInk).filterMap leaf? = pieces.filterMap leaf? := by
  induction pieces with
  | nil => rfl
  | cons p pieces ih =>
    cases p with
    | blank => rw [List.filter_cons_of_neg Bool.false_ne_true, ih]; rfl
    | leaf node => rw [List.filter_cons_of_pos rfl]; exact congrArg (node :: ·) ih
    | minus | or => rw [List.filter_cons_of_pos rfl]; exact ih

end Piece

/-! ## Pieces of a tree -/

namespace Tree

mutual

/-- What a search has in its text besides white space, from left to right. -/
def ink : Tree → List Piece
  | conjunction cs => inkOfAll [] cs
  | disjunction cs => inkOfAll [.or] cs
  | negation c => .minus :: c.ink
  | word raw => [.leaf (.word raw)]
  | phrase raw => [.leaf (.phrase raw)]

/-- The pieces of a list of trees with a separator between them. -/
def inkOfAll (separator : List Piece) : List Tree → List Piece
  | [] => []
  | c :: cs =>
    match cs with
    | [] => c.ink
    | _ :: _ => c.ink ++ separator ++ inkOfAll separator cs

end

theorem inkOfAll_cons (separator : List Piece) (c : Tree) {cs : List Tree} (h : cs ≠ []) :
    inkOfAll separator (c :: cs) = c.ink ++ separator ++ inkOfAll separator cs := by
  cases cs with
  | nil => exact absurd rfl h
  | cons => rfl

theorem inkOfAll_nil_eq (cs : List Tree) : inkOfAll [] cs = cs.flatMap ink := by
  induction cs with
  | nil => rfl
  | cons c cs ih =>
    cases cs with
    | nil => simp [inkOfAll]
    | cons d ds =>
      rw [inkOfAll_cons _ _ (List.cons_ne_nil _ _), ih, List.append_nil]
      rfl

theorem ink_collapse_conjunction (terms : List Tree) :
    (collapse .conjunction terms).ink = terms.flatMap ink := by
  match terms with
  | [] => rfl
  | [t] => simp [collapse]
  | t :: u :: terms => exact inkOfAll_nil_eq _

theorem ink_collapse_disjunction (alternatives : List Tree) :
    (collapse .disjunction alternatives).ink = inkOfAll [.or] alternatives := by
  match alternatives with
  | [] => rfl
  | [t] => rfl
  | t :: u :: alternatives => rfl

mutual

/-- A tree has no white space of its own. -/
theorem filter_ink : ∀ t : Tree, t.ink.filter Piece.isInk = t.ink
  | conjunction cs => filter_inkOfAll rfl cs
  | disjunction cs => filter_inkOfAll rfl cs
  | negation c => by rw [ink, List.filter_cons_of_pos rfl, filter_ink c]
  | word _ => rfl
  | phrase _ => rfl

theorem filter_inkOfAll {separator : List Piece} (h : separator.filter Piece.isInk = separator) :
    ∀ cs : List Tree, (inkOfAll separator cs).filter Piece.isInk = inkOfAll separator cs
  | [] => rfl
  | [c] => filter_ink c
  | c :: d :: ds => by
    rw [inkOfAll_cons _ _ (List.cons_ne_nil _ _), List.filter_append, List.filter_append,
      filter_ink c, h, filter_inkOfAll h (d :: ds)]

end

mutual

/-- The leaves among the pieces of a tree are its leaves. -/
theorem filterMap_leaf?_ink : ∀ t : Tree, t.ink.filterMap Piece.leaf? = t.leaves
  | conjunction cs => filterMap_leaf?_inkOfAll rfl cs
  | disjunction cs => filterMap_leaf?_inkOfAll rfl cs
  | negation c => filterMap_leaf?_ink c
  | word _ => rfl
  | phrase _ => rfl

theorem filterMap_leaf?_inkOfAll {separator : List Piece}
    (h : separator.filterMap Piece.leaf? = []) :
    ∀ cs : List Tree, (inkOfAll separator cs).filterMap Piece.leaf? = leavesOfAll cs
  | [] => rfl
  | [c] => by rw [leavesOfAll, leavesOfAll, List.append_nil]; exact filterMap_leaf?_ink c
  | c :: d :: ds => by
    rw [inkOfAll_cons _ _ (List.cons_ne_nil _ _), List.filterMap_append, List.filterMap_append,
      filterMap_leaf?_ink c, h, List.append_nil, filterMap_leaf?_inkOfAll h (d :: ds)]
    rfl

end

end Tree

/-! ## Escapes -/

/-- Whether a text ends in a backslash that would escape the next character. -/
def endsInEscape : List Char → Bool
  | [] => false
  | ['\\'] => true
  | '\\' :: _ :: rest => endsInEscape rest
  | _ :: rest => endsInEscape rest

theorem endsInEscape_plain {c : Char} (h : c ≠ '\\') (rest : List Char) :
    endsInEscape (c :: rest) = endsInEscape rest :=
  endsInEscape.eq_4 c rest (fun hc _ => h hc) (fun _ _ hc _ => h hc)

/-- Where no escape is open, the next text is read from its start. -/
theorem endsInEscape_append {cs : List Char} (h : endsInEscape cs = false) (k : List Char) :
    endsInEscape (cs ++ k) = endsInEscape k := by
  induction cs using endsInEscape.induct with
  | case1 => rfl
  | case2 => cases h
  | case3 c rest ih => exact ih h
  | case4 c rest hsingle hescape ih =>
    have hc : c ≠ '\\' := by
      rintro rfl
      cases rest with
      | nil => exact hsingle rfl rfl
      | cons d ds => exact hescape d ds rfl rfl
    rw [endsInEscape_plain hc] at h
    rw [List.cons_append, endsInEscape_plain hc]
    exact ih h

/-- A word keeps an escape open only at the end of its text. -/
theorem rest_of_splitWord {cs word rest : List Char} (h : splitWord cs = (word, rest))
    (hopen : endsInEscape word = true) : rest = [] := by
  induction cs using splitWord.induct generalizing word rest with
  | case1 => cases h; rfl
  | case2 c tail word' rest' htail ih =>
    rw [splitWord_escaped, htail] at h
    cases h
    exact ih htail hopen
  | case3 c tail hescape hc =>
    rw [splitWord_cons hescape, if_pos hc] at h
    cases h
    cases hopen
  | case4 c tail hescape hc word' rest' htail ih =>
    rw [splitWord_cons hescape, if_neg hc, htail] at h
    cases h
    by_cases hbackslash : c = '\\'
    · -- nothing stands behind a backslash that escapes nothing
      have htail' := splitWord_append tail
      rw [htail] at htail'
      cases tail with
      | nil => exact (List.append_eq_nil_iff.1 htail').2
      | cons d ds => exact absurd rfl fun htail => hescape d ds hbackslash htail
    · rw [endsInEscape_plain hbackslash] at hopen
      exact ih htail hopen

theorem endsInEscape_closes {token : List Char} (h : Statement.Closes '"' token) :
    endsInEscape token = false := by
  induction h with
  | quote => rfl
  | escaped c _ ih => exact ih
  | plain hescape _ _ ih => rw [endsInEscape_plain hescape, ih]

/-! ## Cutting a text -/

/-- Pieces make up a text up to what is left of it. White space is not escaped, and an escape is
open behind the pieces only if nothing is left. -/
structure Cut (pieces : List Piece) (cs rest : List Char) : Prop where
  whole : Piece.charsOfAll pieces ++ rest = cs
  blank : ∀ c, .blank c ∈ pieces → Text.isBlank c = true
  unescaped : ∀ front c back, pieces = front ++ .blank c :: back →
    endsInEscape (Piece.charsOfAll front) = false
  ended : endsInEscape (Piece.charsOfAll pieces) = true → rest = []

namespace Cut

variable {pieces pieces' : List Piece} {cs mid rest : List Char}

theorem refl (cs : List Char) : Cut [] cs cs where
  whole := rfl
  blank _ h := nomatch h
  unescaped _ _ _ h := by simp at h
  ended h := nomatch h

theorem single {p : Piece} (hblank : ∀ c, p = .blank c → Text.isBlank c = true)
    (hended : endsInEscape p.chars = true → rest = []) : Cut [p] (p.chars ++ rest) rest where
  whole := by simp
  blank c h := hblank c (List.mem_singleton.1 h).symm
  unescaped front c back h := by
    obtain ⟨rfl, -⟩ : front = [] ∧ [p] = .blank c :: back := by
      cases front with
      | nil => exact ⟨rfl, h⟩
      | cons q front => simp at h
    rfl
  ended h := hended (by simpa using h)

/-- Where white space follows, no escape is open. -/
theorem closed_of_blank (h : Cut pieces cs mid) (h' : Cut pieces' mid rest) {c : Char}
    (hc : .blank c ∈ pieces') : endsInEscape (Piece.charsOfAll pieces) = false := by
  rw [← Bool.not_eq_true]
  intro hopen
  have hchar : c ∈ Piece.charsOfAll pieces' ++ rest :=
    List.mem_append_left _ (List.mem_flatMap.2 ⟨_, hc, List.mem_singleton_self c⟩)
  rw [h'.whole, h.ended hopen] at hchar
  cases hchar

theorem trans (h : Cut pieces cs mid) (h' : Cut pieces' mid rest) :
    Cut (pieces ++ pieces') cs rest where
  whole := by rw [Piece.charsOfAll_append, List.append_assoc, h'.whole, h.whole]
  blank c hc := (List.mem_append.1 hc).elim (h.blank c) (h'.blank c)
  unescaped front c back hsplit := by
    rcases List.append_eq_append_iff.1 hsplit with ⟨front', rfl, hback⟩ | ⟨back', rfl, hback⟩
    · have hclosed := h.closed_of_blank h' (c := c) (by rw [hback]; simp)
      rw [Piece.charsOfAll_append, endsInEscape_append hclosed]
      exact h'.unescaped front' c back hback
    · cases back' with
      | nil =>
        rw [List.append_nil] at h
        exact h.closed_of_blank h' (c := c) (by rw [← List.nil_append pieces', ← hback]; simp)
      | cons q back' =>
        obtain ⟨rfl, -⟩ := List.cons.inj hback
        exact h.unescaped front c back' rfl
  ended hopen := by
    rw [Piece.charsOfAll_append] at hopen
    cases hfirst : endsInEscape (Piece.charsOfAll pieces) with
    | true =>
      have hwhole := h'.whole
      rw [h.ended hfirst] at hwhole
      exact (List.append_eq_nil_iff.1 hwhole).2
    | false =>
      rw [endsInEscape_append hfirst] at hopen
      exact h'.ended hopen

end Cut

/-! ## Blanks and terms -/

variable {cs rest : List Char} {leaf term : Tree}

/-- White space is taken off the front. -/
theorem exists_cut_afterBlanks (cs : List Char) :
    ∃ blanks, Cut blanks cs (afterBlanks cs) ∧ blanks.filter Piece.isInk = [] := by
  induction cs with
  | nil => exact ⟨[], .refl [], rfl⟩
  | cons c cs ih =>
    cases hc : Text.isBlank c with
    | false => exact ⟨[], by rw [Statement.afterBlanks_of_not_blank hc]; exact .refl _, rfl⟩
    | true =>
      obtain ⟨blanks, hcut, hblanks⟩ := ih
      have hafter : afterBlanks (c :: cs) = afterBlanks cs := List.dropWhile_cons_of_pos hc
      have hfirst : Cut [.blank c] (c :: cs) cs := by
        refine .single (p := .blank c) ?_ ?_
        · rintro _ ⟨⟩
          exact hc
        · intro hopen
          have hescape : c ≠ '\\' := by
            rintro rfl
            cases hc
          rw [Piece.chars, endsInEscape_plain hescape] at hopen
          cases hopen
      rw [hafter]
      exact ⟨_, hfirst.trans hcut, hblanks⟩

theorem takeLeaf_ended (h : takeLeaf cs = .ok (leaf, rest))
    (hopen : endsInEscape leaf.chars = true) : rest = [] := by
  unfold takeLeaf at h
  split at h
  · split at h
    · rename_i tail phrase rest' hphrase
      cases h
      rw [Statement.splitPhrase?_eq] at hphrase
      have hclosed := endsInEscape_closes (Statement.splitClosing?_eq_some hphrase).1
      rw [Tree.chars_phrase, String.toList_ofList, endsInEscape_plain (by decide), hclosed] at hopen
      cases hopen
    · cases h
  · cases h
    rw [Tree.chars_word, String.toList_ofList] at hopen
    exact rest_of_splitWord rfl hopen

theorem ink_of_isLeaf (h : leaf.IsLeaf) : leaf.ink = [.leaf leaf] := by
  cases h <;> rfl

theorem takeLeaf_cut (h : takeLeaf cs = .ok (leaf, rest)) : Cut leaf.ink cs rest := by
  rw [ink_of_isLeaf (takeLeaf_isLeaf h), takeLeaf_append h]
  exact .single (p := .leaf leaf) (fun _ hblank => nomatch hblank) (takeLeaf_ended h)

theorem takeTerm_cut (h : takeTerm cs = .ok (term, rest)) : Cut term.ink cs rest := by
  rcases takeTerm_cases cs with ⟨tail, rfl, -, hterm⟩ | ⟨-, hterm⟩
  · rw [hterm] at h
    cases hleaf : takeLeaf tail with
    | error e => rw [hleaf] at h; cases h
    | ok found =>
      obtain ⟨leaf, rest'⟩ := found
      rw [hleaf] at h
      cases h
      have hminus : Cut [.minus] ('-' :: tail) tail :=
        .single (p := .minus) (fun _ hblank => nomatch hblank) fun hopen => nomatch hopen
      exact hminus.trans (takeLeaf_cut hleaf)
  · rw [hterm] at h
    exact takeLeaf_cut h

/-! ## Conjunctions and alternatives -/

/-- The terms of a conjunction are taken off, with the white space around them. -/
theorem takeTerms_cut {fuel : Nat} {terms : List Tree}
    (h : takeTerms fuel cs = .ok (terms, rest)) :
    ∃ pieces, Cut pieces cs rest ∧ pieces.filter Piece.isInk = terms.flatMap Tree.ink := by
  induction fuel generalizing cs terms with
  | zero =>
    cases h
    exact ⟨[], .refl _, rfl⟩
  | succ fuel ih =>
    obtain ⟨blanks, hblanks, hnone⟩ := exists_cut_afterBlanks cs
    by_cases hends : EndsTerms cs
    · rw [takeTerms_of_ends hends (Nat.succ_pos fuel)] at h
      cases h
      exact ⟨blanks, hblanks, hnone⟩
    · rw [takeTerms_step hends] at h
      obtain ⟨⟨term, mid⟩, hterm, h⟩ := exists_of_bind_eq_ok h
      obtain ⟨⟨others, rest'⟩, hothers, h⟩ := exists_of_bind_eq_ok h
      cases h
      obtain ⟨pieces, hpieces, hink⟩ := ih hothers
      refine ⟨_, (hblanks.trans (takeTerm_cut hterm)).trans hpieces, ?_⟩
      rw [List.filter_append, List.filter_append, hnone, term.filter_ink, hink]
      rfl

/-- Behind the terms the text ends, or an alternative starts. -/
theorem takeTerms_ends {fuel : Nat} {terms : List Tree} (hfuel : cs.length < fuel)
    (h : takeTerms fuel cs = .ok (terms, rest)) : rest = [] ∨ startsWithOr rest = true := by
  induction fuel generalizing cs terms with
  | zero => exact absurd hfuel (Nat.not_lt_zero _)
  | succ fuel ih =>
    by_cases hends : EndsTerms cs
    · rw [takeTerms_of_ends hends (Nat.succ_pos fuel)] at h
      cases h
      exact hends
    · rw [takeTerms_step hends] at h
      obtain ⟨⟨term, mid⟩, hterm, h⟩ := exists_of_bind_eq_ok h
      obtain ⟨⟨others, rest'⟩, hothers, h⟩ := exists_of_bind_eq_ok h
      cases h
      refine ih ?_ hothers
      have hpos := (takeTerm_starts (starts_of_not_endsTerms hends) hterm).length_pos
      have hlength := congrArg List.length (takeTerm_append hterm)
      have hblanks := Statement.length_afterBlanks_le cs
      rw [List.length_append] at hlength
      omega

/-- The alternatives of a text are taken off, with the `OR`s between them. -/
theorem takeAlternatives_cut {fuel : Nat} {alternatives : List Tree}
    (h : takeAlternatives fuel cs = .ok alternatives) : ∃ pieces, Cut pieces cs [] ∧
      pieces.filter Piece.isInk = Tree.inkOfAll [.or] alternatives := by
  induction fuel generalizing cs alternatives with
  | zero => cases h
  | succ fuel ih =>
    obtain ⟨less, terms, rest, hless, hterms, hne, hrest⟩ := takeAlternatives_cases h
    obtain rfl := Nat.succ.inj hless
    obtain ⟨pieces, hpieces, hink⟩ := takeTerms_cut hterms
    rw [← Tree.ink_collapse_conjunction] at hink
    rcases hrest with ⟨rfl, rfl⟩ | ⟨hrest, others, hothers, rfl⟩
    · exact ⟨pieces, hpieces, hink⟩
    · have hor := (takeTerms_ends (Nat.lt_succ_self _) hterms).resolve_left hrest
      obtain ⟨k, rfl, -⟩ := startsWithOr_iff.1 hor
      obtain ⟨pieces', hpieces', hink'⟩ := ih hothers
      have hword : Cut [.or] ('O' :: 'R' :: k) k :=
        .single (p := .or) (fun _ hblank => nomatch hblank) fun hopen => nomatch hopen
      refine ⟨_, (hpieces.trans hword).trans hpieces', ?_⟩
      rw [Tree.inkOfAll_cons _ _ (takeAlternatives_starts hothers).1, List.filter_append,
        List.filter_append, hink, hink']
      rfl

/-- **A search is read again from its written form, and its leaves account for its text.** The text
is made of pieces: the tokens of the leaves in their order, a minus sign before each negated leaf,
an `OR` between alternatives, and white space that is not escaped. -/
theorem parse_rereads_and_covers {text : String} {t : Tree} (h : parse text = .ok t) :
    parse t.toText = .ok t ∧ ∃ pieces, Cut pieces text.toList [] ∧
      pieces.filter Piece.isInk = t.ink ∧ pieces.filterMap Piece.leaf? = t.leaves := by
  refine ⟨parse_toText h, ?_⟩
  obtain ⟨alternatives, halternatives, rfl⟩ := exists_of_parse h
  obtain ⟨pieces, hcut, hink⟩ := takeAlternatives_cut halternatives
  rw [← Tree.ink_collapse_disjunction] at hink
  refine ⟨pieces, hcut, hink, ?_⟩
  rw [← Piece.filterMap_leaf?_filter, hink, Tree.filterMap_leaf?_ink]

/-- Words with a minus sign, an `OR` or a quote in them, escaped blanks, and a backslash at the
end. -/
def strangeSearch : String := "- ORx\ta\"b  \"c \\\" d\"e\\ f -g OR h\\"

/-- The tree of `strangeSearch`. -/
def strangeTree : Tree :=
  .disjunction [
    .conjunction [.word "-", .word "ORx", .word "a\"b", .phrase "\"c \\\" d\"", .word "e\\ f",
      .negation (.word "g")],
    .word "h\\"]

theorem parse_rereads_and_covers_strange : parse strangeSearch = .ok strangeTree ∧
    parse strangeTree.toText = .ok strangeTree ∧ ∃ pieces, Cut pieces strangeSearch.toList [] ∧
      pieces.filter Piece.isInk = strangeTree.ink ∧
      pieces.filterMap Piece.leaf? = strangeTree.leaves := by
  have hparse : parse strangeSearch = .ok strangeTree := by rfl
  exact ⟨hparse, parse_rereads_and_covers hparse⟩

end ContentQuery.FullText
