import ContentQuery.Proofs.Statement.Written
import ContentQuery.Statement.Printer

/-!
# Reading what is written

`Goes p P q P'`: from any cursor in `P`, the parser `p` runs as `q` does from a cursor in `P'`, and
`Reads p P x P'` that it succeeds with `x` there. The rules follow the way in which parsers are put
together. Cursors stand `Near` a text where the white space before it does not matter, which is
before every token but those that have to touch the one before them, and `Exactly` at it otherwise.
A token is read if nothing behind it goes on with it (`Follows`).
-/

set_option autoImplicit false

namespace ContentQuery.Statement

/-! ## Places -/

/-- The cursors before a text, up to white space. -/
structure Near (cs : List Char) (n : SelectorId) (c : Cursor) : Prop where
  rest : afterBlanks c.rest = afterBlanks cs
  nextId : c.nextId = n

/-- The cursors before a text. -/
structure Exactly (cs : List Char) (n : SelectorId) (c : Cursor) : Prop where
  rest : c.rest = cs
  nextId : c.nextId = n

theorem Exactly.near {cs : List Char} {n : SelectorId} {c : Cursor} (h : Exactly cs n c) :
    Near cs n c := ⟨by rw [h.rest], h.nextId⟩

/-- White space does not matter. -/
theorem near_of_afterBlanks {cs cs' : List Char} (h : afterBlanks cs = afterBlanks cs')
    (n : SelectorId) : Near cs n = Near cs' n := by
  funext c
  refine propext ⟨fun hc => ⟨?_, hc.nextId⟩, fun hc => ⟨?_, hc.nextId⟩⟩
  · rw [hc.rest, h]
  · rw [hc.rest, h]

@[simp] theorem near_blank (cs : List Char) (n : SelectorId) : Near (' ' :: cs) n = Near cs n :=
  near_of_afterBlanks (afterBlanks_blank cs) n

@[simp] theorem near_afterBlanks (cs : List Char) (n : SelectorId) :
    Near (afterBlanks cs) n = Near cs n :=
  near_of_afterBlanks (afterBlanks_afterBlanks cs) n

/-! ## Parsers -/

/-- From any cursor in `P`, `p` runs as `q` does from a cursor in `P'`. -/
def Goes {α : Type} (p : Parser α) (P : Cursor → Prop) (q : Parser α) (P' : Cursor → Prop) : Prop :=
  ∀ c, P c → ∃ c', P' c' ∧ p.run c = q.run c'

/-- From any cursor in `P`, `p` succeeds with `x` at a cursor in `P'`. -/
def Reads {α : Type} (p : Parser α) (P : Cursor → Prop) (x : α) (P' : Cursor → Prop) : Prop :=
  Goes p P (pure x) P'

section
variable {α β : Type} {p q r : Parser α} {f : α → Parser β} {g : Parser β} {x : α}
  {P Q R : Cursor → Prop}

theorem Goes.refl (p : Parser α) (P : Cursor → Prop) : Goes p P p P := fun c hc => ⟨c, hc, rfl⟩

theorem Goes.trans (h : Goes p P q Q) (h' : Goes q Q r R) : Goes p P r R := by
  intro c hc
  obtain ⟨d, hd, hrun⟩ := h c hc
  obtain ⟨e, he, hrun'⟩ := h' d hd
  exact ⟨e, he, hrun.trans hrun'⟩

theorem Reads.pure (x : α) (P : Cursor → Prop) : Reads (Pure.pure x) P x P := Goes.refl _ _

/-- What has been read is passed on. -/
theorem Reads.bind (h : Reads p P x Q) (h' : Goes (f x) Q g R) : Goes (p >>= f) P g R := by
  intro c hc
  obtain ⟨d, hd, hrun⟩ := h c hc
  obtain ⟨e, he, hrun'⟩ := h' d hd
  refine ⟨e, he, ?_⟩
  rw [StateT.run_bind, hrun, StateT.run_pure]
  exact hrun'

theorem Goes.mono {P' Q' : Cursor → Prop} (h : Goes p P q Q) (hP : ∀ c, P' c → P c)
    (hQ : ∀ c, Q c → Q' c) : Goes p P' q Q' := by
  intro c hc
  obtain ⟨d, hd, hrun⟩ := h c (hP c hc)
  exact ⟨d, hQ d hd, hrun⟩

end

/-- A place may be forgotten to be exact. -/
theorem Goes.near {α : Type} {p q : Parser α} {P : Cursor → Prop} {cs : List Char} {n : SelectorId}
    (h : Goes p P q (Exactly cs n)) : Goes p P q (Near cs n) :=
  h.mono (fun _ hc => hc) fun _ hc => hc.near

theorem Goes.exactly {α : Type} {p q : Parser α} {Q : Cursor → Prop} {cs : List Char}
    {n : SelectorId} (h : Goes p (Near cs n) q Q) : Goes p (Exactly cs n) q Q :=
  h.mono (fun _ hc => hc.near) fun _ hc => hc

theorem Reads.near {α : Type} {p : Parser α} {x : α} {P : Cursor → Prop} {cs : List Char}
    {n : SelectorId} (h : Reads p P x (Exactly cs n)) : Reads p P x (Near cs n) :=
  Goes.near h

/-! ## The cursor -/

section
variable {α : Type} {cs : List Char} {n m : SelectorId} {q : Parser α} {Q : Cursor → Prop}

theorem skipBlanks_goes {f : Unit → Parser α} (h : Goes (f ()) (Exactly (afterBlanks cs) n) q Q) :
    Goes (skipBlanks >>= f) (Near cs n) q Q :=
  fun c hc => h { c with rest := afterBlanks c.rest } ⟨hc.rest, hc.nextId⟩

theorem get_goes {f : Cursor → Parser α}
    (h : ∀ total, Goes (f ⟨cs, total, n⟩) (Exactly cs n) q Q) :
    Goes (get >>= f) (Exactly cs n) q Q := by
  rintro ⟨rest, total, id⟩ ⟨hrest, hid⟩
  dsimp only at hrest hid
  subst hrest hid
  exact h total ⟨rest, total, id⟩ ⟨rfl, rfl⟩

theorem setRest_reads (rest : List Char) :
    Reads (setRest rest) (Exactly cs n) () (Exactly rest n) :=
  fun c hc => ⟨{ c with rest }, ⟨rfl, hc.nextId⟩, rfl⟩

theorem peek_reads : Reads peek (Exactly cs n) cs.head? (Exactly cs n) := by
  rintro c hc
  refine ⟨c, hc, ?_⟩
  rw [← hc.rest]
  rfl

theorem freshId_reads (cs : List Char) (n : SelectorId) :
    Reads freshId (Exactly cs n) n (Exactly cs (n + 1)) := by
  intro c hc
  refine ⟨{ c with nextId := c.nextId + 1 }, ⟨hc.rest, by rw [hc.nextId]⟩, ?_⟩
  rw [← hc.nextId]
  rfl

theorem freshId_reads_near (cs : List Char) (n : SelectorId) :
    Reads freshId (Near cs n) n (Near cs (n + 1)) := by
  intro c hc
  refine ⟨{ c with nextId := c.nextId + 1 }, ⟨hc.rest, by rw [hc.nextId]⟩, ?_⟩
  rw [← hc.nextId]
  rfl

end

/-! ## Characters and words -/

section
variable {cs k : List Char} {n : SelectorId}

theorem tryChar_here {d : Char} (hd : Text.isBlank d = false) (k : List Char) (n : SelectorId) :
    Reads (tryChar d) (Near (d :: k) n) true (Near k n) := by
  refine skipBlanks_goes (get_goes fun total => ?_)
  rw [afterBlanks_of_not_blank hd]
  simp only [beq_self_eq_true, if_true]
  exact ((setRest_reads k).bind (.refl _ _)).near

theorem tryChar_not_exactly {d : Char} (h : ∀ c ∈ (afterBlanks cs).head?, c ≠ d) :
    Reads (tryChar d) (Near cs n) false (Exactly (afterBlanks cs) n) := by
  refine skipBlanks_goes (get_goes fun total => ?_)
  split
  · rename_i c rest hrest
    have hne : (c == d) = false := by
      rw [beq_eq_false_iff_ne]
      exact h c (by rw [show afterBlanks cs = c :: rest from hrest]; rfl)
    rw [hne]
    exact .refl _ _
  · exact .refl _ _

theorem tryChar_not {d : Char} (h : ∀ c ∈ (afterBlanks cs).head?, c ≠ d) :
    Reads (tryChar d) (Near cs n) false (Near cs n) :=
  near_afterBlanks cs n ▸ (tryChar_not_exactly h).near

theorem expectChar_here {d : Char} (hd : Text.isBlank d = false) (k : List Char) (n : SelectorId) :
    Reads (expectChar d) (Near (d :: k) n) () (Near k n) :=
  (tryChar_here hd k n).bind (.refl _ _)

/-- A keyword is read in the form in which it is written here. -/
theorem tryKeyword_here {word : String} (hword : IsName word) (hk : EndsWord k) (n : SelectorId) :
    Reads (tryKeyword word) (Near (word.toList ++ k) n) true (Near k n) := by
  refine skipBlanks_goes (get_goes fun total => ?_)
  have hkeyword : keywordAt word (afterBlanks (word.toList ++ k)) = true := by
    rw [afterBlanks_name hword, keywordAt_append hword hk]
    simp [Literal.isWord]
  have hdrop : (afterBlanks (word.toList ++ k)).drop
      (wordAt (afterBlanks (word.toList ++ k))).length = k := by
    rw [afterBlanks_name hword, wordAt_append hword hk, List.drop_left]
  simp only [hkeyword, hdrop, if_true]
  exact ((setRest_reads k).bind (.refl _ _)).near

theorem tryKeyword_not {word : String} (h : keywordAt word (afterBlanks cs) = false)
    (n : SelectorId) : Reads (tryKeyword word) (Near cs n) false (Near cs n) := by
  refine skipBlanks_goes (get_goes fun total => ?_)
  simp only [h, Bool.false_eq_true, if_false]
  exact near_afterBlanks cs n ▸ (Goes.refl _ _).near

theorem expectKeyword_here {word : String} (hword : IsName word) (hk : EndsWord k)
    (n : SelectorId) : Reads (expectKeyword word) (Near (word.toList ++ k) n) () (Near k n) :=
  (tryKeyword_here hword hk n).bind (.refl _ _)

theorem identifier_here {name : String} (hname : IsName name) (hk : EndsWord k) (n : SelectorId) :
    Reads identifier (Near (name.toList ++ k) n) name (Exactly k n) := by
  refine skipBlanks_goes (get_goes fun total => ?_)
  rw [afterBlanks_name hname]
  have hne : name.toList.isEmpty = false := by
    rw [List.isEmpty_eq_false_iff]
    exact hname.1
  simp only [wordAt_append hname hk, hne, Bool.false_eq_true, if_false, List.drop_left,
    String.ofList_toList]
  exact (setRest_reads k).bind (.refl _ _)

/-- No alias stands where a reserved word or no word does. -/
theorem tryAlias_not (h : wordAt (afterBlanks cs) = [] ∨
      reservedWords.any (Literal.isWord · (wordAt (afterBlanks cs))) = true) (n : SelectorId) :
    Reads tryAlias (Near cs n) none (Near cs n) := by
  have hno : ((wordAt (afterBlanks cs)).isEmpty ||
      reservedWords.any (Literal.isWord · (wordAt (afterBlanks cs)))) = true := by
    rw [Bool.or_eq_true, List.isEmpty_iff]
    exact h
  refine skipBlanks_goes (get_goes fun total => ?_)
  simp only [hno, if_true]
  exact near_afterBlanks cs n ▸ (Goes.refl _ _).near

end

/-! ## Literals -/

/-- What may stand behind a literal or a reference: nothing that goes on with it. -/
structure Follows (k : List Char) : Prop where
  head : ∀ c ∈ k.head?, c ∈ [' ', ',', ')']
  next : ∀ c ∈ (afterBlanks k).head?, c ≠ '(' ∧ c ≠ '.'

theorem follows_comma (k : List Char) : Follows (',' :: k) := by
  refine ⟨fun c hc => ?_, fun c hc => ?_⟩
  · cases hc
    decide
  · cases hc
    decide

theorem follows_closing (k : List Char) : Follows (')' :: k) := by
  refine ⟨fun c hc => ?_, fun c hc => ?_⟩
  · cases hc
    decide
  · cases hc
    decide

namespace Follows

variable {k : List Char}

theorem endsWord (h : Follows k) : EndsWord k := by
  intro c hc
  have hmem := h.head c hc
  simp only [List.mem_cons, List.not_mem_nil, or_false] at hmem
  rcases hmem with rfl | rfl | rfl <;> decide

theorem endsNumber (h : Follows k) : EndsNumber k := by
  intro c hc
  have hmem := h.head c hc
  simp only [List.mem_cons, List.not_mem_nil, or_false] at hmem
  rcases hmem with rfl | rfl | rfl <;> decide

end Follows

section
variable {k : List Char} {n : SelectorId}

theorem quoted_here {raw : String} (h : IsQuoted raw) (k : List Char) (n : SelectorId) :
    Reads quoted (Exactly (raw.toList ++ k) n) raw (Near k n) := by
  obtain ⟨token, hraw, hcloses⟩ := h
  have hsplit := hcloses.split (by decide) k
  rw [← splitQuoted?_eq] at hsplit
  have htoken : raw = String.ofList ('\'' :: token) := by rw [← hraw, String.ofList_toList]
  refine get_goes fun total => ?_
  simp only [hraw, List.cons_append, hsplit]
  rw [← htoken]
  exact ((setRest_reads k).bind (.refl _ _)).near

theorem number_here {raw : String} (h : IsNumber raw) (hblank : afterBlanks (raw.toList ++ k) =
      raw.toList ++ k) (hk : EndsNumber k) :
    Reads number (Near (raw.toList ++ k) n) raw (Near k n) := by
  have hne : raw.toList.isEmpty = false := by
    rw [List.isEmpty_eq_false_iff]
    exact h.1
  refine skipBlanks_goes (get_goes fun total => ?_)
  rw [hblank]
  simp only [h.split hk, hne, Bool.false_eq_true, if_false, String.ofList_toList]
  exact ((setRest_reads k).bind (.refl _ _)).near

end

/-- Nothing else than a number starts like one. -/
theorem number_head {c : Char} (h : isPlace c = true ∨ isMark c = true ∨ isSign c = true) :
    Text.isBlank c = false ∧ c ≠ '\'' ∧
      ∀ word ∈ Predicate.literalWords, ∀ cs, keywordAt word (c :: cs) = false := by
  have hstarts (hc : startsIdentifier c = false) :
      ∀ word ∈ Predicate.literalWords, ∀ cs, keywordAt word (c :: cs) = false :=
    fun word _ cs => keywordAt_of_not_starts hc word cs
  obtain ⟨hblank, hquote⟩ := number_head_plain h
  refine ⟨hblank, hquote, ?_⟩
  simp only [isPlace, isMark, isSign, Bool.or_eq_true, beq_iff_eq] at h
  rcases h with (hdigit | rfl) | hmark | (rfl | rfl)
  · exact hstarts (startsIdentifier_of_isDigit hdigit)
  · exact hstarts (by decide)
  · intro word hword cs
    simp only [Predicate.literalWords, List.mem_cons, List.not_mem_nil, or_false] at hword
    rcases hmark with rfl | rfl <;> rcases hword with rfl | rfl | rfl <;> rfl
  · exact hstarts (by decide)
  · exact hstarts (by decide)

section
variable {k : List Char} {n : SelectorId}

/-- A literal that is no string starts with no quote. -/
theorem literalToken_goes {cs : List Char} {q : Parser Predicate} {Q : Cursor → Prop}
    (hquote : (afterBlanks cs).head? ≠ some '\'')
    (h : Goes (do
      if ← tryKeyword "TIMESTAMP" then
        skipBlanks
        return .literal ("TIMESTAMP " ++ (← quoted))
      else if ← tryKeyword "TRUE" then return .literal "TRUE"
      else if ← tryKeyword "FALSE" then return .literal "FALSE"
      else return .literal (← number)) (Near cs n) q Q) :
    Goes literalToken (Near cs n) q Q := by
  have hno : ((afterBlanks cs).head? == some '\'') = false := by rwa [beq_eq_false_iff_ne]
  refine skipBlanks_goes (peek_reads.bind ?_)
  rw [hno]
  exact (near_afterBlanks cs n ▸ h).exactly

theorem literalToken_here {raw : String} (h : Literal.IsWritten raw) (hk : Follows k) :
    Reads literalToken (Near (raw.toList ++ k) n) (.literal raw) (Near k n) := by
  cases h with
  | quoted hraw =>
    obtain ⟨token, htoken, -⟩ := id hraw
    refine skipBlanks_goes (peek_reads.bind ?_)
    have hblanks : afterBlanks (raw.toList ++ k) = raw.toList ++ k := by rw [htoken]; rfl
    have hquote : (raw.toList ++ k).head? = some '\'' := by rw [htoken]; rfl
    rw [hblanks, hquote]
    exact (quoted_here hraw k n).bind (.refl _ _)
  | @timestamp raw hraw =>
    obtain ⟨token, htoken, -⟩ := id hraw
    rw [String.toList_append]
    refine literalToken_goes (by rw [htoken]; exact nofun) ?_
    refine (tryKeyword_here (by decide) (endsWord_blank (raw.toList ++ k)) n).bind ?_
    rw [near_blank]
    refine skipBlanks_goes ?_
    have hblanks : afterBlanks (raw.toList ++ k) = raw.toList ++ k := by rw [htoken]; rfl
    rw [hblanks]
    exact (quoted_here hraw k n).bind (.refl _ _)
  | true =>
    refine literalToken_goes nofun ?_
    have hno : keywordAt "TIMESTAMP" (afterBlanks ("TRUE".toList ++ k)) = false := by
      rw [afterBlanks_name (by decide), keywordAt_append (by decide) hk.endsWord]
      rfl
    refine (tryKeyword_not hno n).bind ?_
    exact (tryKeyword_here (by decide) hk.endsWord n).bind (.refl _ _)
  | false =>
    refine literalToken_goes nofun ?_
    have hno : ∀ word ∈ ["TIMESTAMP", "TRUE"],
        keywordAt word (afterBlanks ("FALSE".toList ++ k)) = false := by
      intro word hword
      rw [afterBlanks_name (by decide), keywordAt_append (by decide) hk.endsWord]
      simp only [List.mem_cons, List.not_mem_nil, or_false] at hword
      rcases hword with rfl | rfl <;> rfl
    refine (tryKeyword_not (hno _ (by decide)) n).bind ?_
    refine (tryKeyword_not (hno _ (by decide)) n).bind ?_
    exact (tryKeyword_here (by decide) hk.endsWord n).bind (.refl _ _)
  | number hraw =>
    obtain ⟨c, cs, hcs, hc⟩ := hraw.head
    obtain ⟨hblank, hquote, hwords⟩ := number_head hc
    have hblanks : afterBlanks (raw.toList ++ k) = raw.toList ++ k := by
      rw [hcs]
      exact afterBlanks_of_not_blank hblank _
    have hno : ∀ word ∈ Predicate.literalWords,
        keywordAt word (afterBlanks (raw.toList ++ k)) = false := by
      intro word hword
      rw [hblanks, hcs]
      exact hwords word hword _
    refine literalToken_goes ?_ ?_
    · rw [hblanks, hcs]
      exact fun h => hquote (Option.some.inj h)
    refine (tryKeyword_not (hno _ (by decide)) n).bind ?_
    refine (tryKeyword_not (hno _ (by decide)) n).bind ?_
    refine (tryKeyword_not (hno _ (by decide)) n).bind ?_
    exact (number_here hraw hblanks hk.endsNumber).bind (.refl _ _)

end

end ContentQuery.Statement
