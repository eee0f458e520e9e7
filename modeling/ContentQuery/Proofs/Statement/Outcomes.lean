import ContentQuery.Proofs.FullText.RoundTrip
import ContentQuery.Proofs.Run
import ContentQuery.Proofs.Statement.Written

/-!
# What comes out of the parser

`Yields p c Q`: from the cursor `c`, every success of `p` satisfies `Q`, and no failure of `p` is a
literal that does not decode. The rules follow the way in which parsers are put together, from the
tokens up to whole statements. `parse_outcome` is what this says of a text: its statement is written
as the parser reads it (`Statement.IsWritten`), or the text has a fault of the grammar.
-/

set_option autoImplicit false

namespace ContentQuery.Statement

/-- Every success of `p` from a cursor satisfies `Q`, and no failure is due to a literal. -/
def Yields {α : Type} (p : Parser α) (c : Cursor) (Q : α → Cursor → Prop) : Prop :=
  (∀ x c', p.run c = .ok (x, c') → Q x c') ∧ ∀ e, p.run c ≠ .error (.literal e)

namespace Yields

variable {α β : Type} {p : Parser α} {k : α → Parser β} {c : Cursor} {Q Q' : α → Cursor → Prop}
  {S : β → Cursor → Prop}

theorem pure {x : α} (h : Q x c) : Yields (Pure.pure x) c Q := by
  refine ⟨fun y c' hr => ?_, fun e hr => nomatch hr⟩
  cases hr
  exact h

theorem throw {e : ParseError} (h : ∀ fault, e ≠ .literal fault) :
    Yields (throw e : Parser α) c Q :=
  ⟨fun _ _ hr => (nomatch hr), fun fault hr => h fault (Except.error.inj hr)⟩

theorem bind (hp : Yields p c fun x c' => Yields (k x) c' S) : Yields (p >>= k) c S := by
  refine ⟨fun y c' hr => ?_, fun e hr => ?_⟩
  · obtain ⟨x, mid, hx, hy⟩ := run_bind_eq_ok.1 hr
    exact (hp.1 x mid hx).1 y c' hy
  · rw [StateT.run_bind] at hr
    cases hx : p.run c with
    | error fault =>
      rw [hx] at hr
      cases hr
      exact hp.2 e hx
    | ok found =>
      rw [hx] at hr
      exact (hp.1 _ _ hx).2 e hr

theorem mono (hp : Yields p c Q) (h : ∀ x c', Q x c' → Q' x c') : Yields p c Q' :=
  ⟨fun x c' hr => h x c' (hp.1 x c' hr), hp.2⟩

theorem ite {b : Prop} [Decidable b] {p' : Parser α} (hp : b → Yields p c Q)
    (hp' : ¬b → Yields p' c Q) : Yields (if b then p else p') c Q := by
  split
  · exact hp ‹_›
  · exact hp' ‹_›

theorem get {Q : Cursor → Cursor → Prop} (h : Q c c) :
    Yields (MonadState.get : Parser Cursor) c Q :=
  ⟨fun x c' hr => by cases hr; exact h, fun e hr => nomatch hr⟩

end Yields

/-! ## Tokens -/

section
variable {c : Cursor}

theorem setRest_yields {Q : Unit → Cursor → Prop} {rest : List Char}
    (h : Q () { c with rest }) : Yields (setRest rest) c Q :=
  ⟨fun x c' hr => by cases hr; exact h, fun e hr => nomatch hr⟩

theorem freshId_yields {Q : SelectorId → Cursor → Prop}
    (h : Q c.nextId { c with nextId := c.nextId + 1 }) : Yields freshId c Q :=
  ⟨fun x c' hr => by cases hr; exact h, fun e hr => nomatch hr⟩

theorem skipBlanks_yields {Q : Unit → Cursor → Prop}
    (h : Q () { c with rest := afterBlanks c.rest }) : Yields skipBlanks c Q :=
  ⟨fun x c' hr => by cases hr; exact h, fun e hr => nomatch hr⟩

theorem peek_yields {Q : Option Char → Cursor → Prop} (h : Q c.rest.head? c) : Yields peek c Q :=
  .bind (.get (.pure h))

theorem tryChar_yields {Q : Bool → Cursor → Prop} {d : Char}
    (h : ∀ found rest, (found = false → rest = afterBlanks c.rest) →
      Q found { c with rest }) : Yields (tryChar d) c Q := by
  refine .bind (skipBlanks_yields (.bind (.get ?_)))
  dsimp only
  split
  · refine .ite (fun _ => .bind (setRest_yields (.pure ?_))) fun _ => .pure ?_
    · exact h true _ nofun
    · exact h false _ fun _ => rfl
  · exact .pure (h false _ fun _ => rfl)

theorem expectChar_yields {Q : Unit → Cursor → Prop} {d : Char}
    (h : ∀ rest, Q () { c with rest }) : Yields (expectChar d) c Q := by
  refine .bind (tryChar_yields fun found rest _ => .ite (fun _ => .pure (h rest)) fun _ => ?_)
  exact .bind (peek_yields (.throw nofun))

theorem tryOperator_yields {Q : Bool → Cursor → Prop} {op : List Char}
    (h : ∀ found rest, Q found { c with rest }) : Yields (tryOperator op) c Q := by
  refine .bind (skipBlanks_yields (.bind (.get ?_)))
  refine .ite (fun _ => .bind (setRest_yields (.pure ?_))) fun _ => .pure ?_
  · exact h true _
  · exact h false _

theorem tryKeyword_yields {Q : Bool → Cursor → Prop} {word : String}
    (h : ∀ found rest, (found = false → keywordAt word (afterBlanks c.rest) = false ∧
      rest = afterBlanks c.rest) → Q found { c with rest }) : Yields (tryKeyword word) c Q := by
  refine .bind (skipBlanks_yields (.bind (.get ?_)))
  refine .ite (fun _ => .bind (setRest_yields (.pure ?_))) fun hno => .pure ?_
  · exact h true _ nofun
  · exact h false _ fun _ => ⟨by simpa using hno, rfl⟩

/-- A choice by a keyword. -/
theorem tryKeyword_ite {α : Type} {Q : α → Cursor → Prop} {word : String} {p p' : Parser α}
    (h : ∀ rest, Yields p { c with rest } Q) (h' : keywordAt word (afterBlanks c.rest) = false →
      Yields p' { c with rest := afterBlanks c.rest } Q) :
    Yields (tryKeyword word >>= fun found => if found then p else p') c Q := by
  refine .bind (tryKeyword_yields fun found rest hno => .ite (fun _ => h rest) fun hfound => ?_)
  obtain ⟨hkeyword, rfl⟩ := hno (by simpa using hfound)
  exact h' hkeyword

theorem expectKeyword_yields {Q : Unit → Cursor → Prop} {word : String}
    (h : ∀ rest, Q () { c with rest }) : Yields (expectKeyword word) c Q :=
  tryKeyword_ite (fun rest => .pure (h rest)) fun _ => .throw nofun

/-- An identifier decides which keywords stand at the cursor. -/
theorem identifier_yields {Q : String → Cursor → Prop}
    (h : ∀ name rest, IsName name →
      (∀ word, keywordAt word (afterBlanks c.rest) = Literal.isWord word name.toList) →
      Q name { c with rest }) : Yields identifier c Q := by
  refine .bind (skipBlanks_yields (.bind (.get (.ite (fun _ => ?_) fun hne => ?_))))
  · exact .bind (.throw nofun)
  · have hne : wordAt (afterBlanks c.rest) ≠ [] := by simpa using hne
    refine .bind (setRest_yields (.pure (h _ _ (isName_of_wordAt hne) fun word => ?_)))
    rw [String.toList_ofList, keywordAt]
    simp [hne]

theorem tryAlias_yields {Q : Option String → Cursor → Prop}
    (h : ∀ aliasName rest, (∀ a ∈ aliasName, IsName a) → Q aliasName { c with rest }) :
    Yields tryAlias c Q := by
  refine .bind (skipBlanks_yields (.bind (.get (.ite (fun _ => .pure ?_) fun hno => ?_))))
  · exact h none _ nofun
  · simp only [Bool.or_eq_true, List.isEmpty_iff, not_or] at hno
    refine .bind (setRest_yields (.pure (h _ _ ?_)))
    rintro _ ⟨⟩
    exact isName_of_wordAt hno.1

theorem quoted_yields {Q : String → Cursor → Prop}
    (h : ∀ raw rest, IsQuoted raw → c.rest = raw.toList ++ rest → Q raw { c with rest }) :
    Yields quoted c Q := by
  refine .bind (.get ?_)
  split
  · rename_i body hbody
    split
    · rename_i token rest hsplit
      rw [splitQuoted?_eq] at hsplit
      obtain ⟨hcloses, rfl⟩ := splitClosing?_eq_some hsplit
      have htoken : (String.ofList ('\'' :: token)).toList = '\'' :: token := String.toList_ofList
      refine .bind (setRest_yields (.pure (h _ _ ⟨token, htoken, hcloses⟩ ?_)))
      rw [htoken]
      exact hbody
    · exact .throw nofun
  · exact .throw nofun

/-- A number starts where it is read. -/
theorem number_yields {Q : String → Cursor → Prop}
    (h : ∀ raw rest, IsNumber raw → raw.toList.head? = (afterBlanks c.rest).head? →
      Q raw { c with rest }) : Yields number c Q := by
  refine .bind (skipBlanks_yields (.bind (.get ?_)))
  split
  rename_i token rest hsplit
  refine .ite (fun _ => .bind (peek_yields ?_)) fun hne => ?_
  · exact .bind (.throw nofun)
  have hne : token ≠ [] := by simpa using hne
  refine .bind (setRest_yields (.pure (h _ _ (isNumber_of_split hsplit hne) ?_)))
  have happend := splitSignedNumber_append (afterBlanks c.rest)
  have hsplit : splitSignedNumber (afterBlanks c.rest) = (token, rest) := hsplit
  rw [hsplit] at happend
  obtain ⟨d, token, rfl⟩ := List.exists_cons_of_ne_nil hne
  rw [String.toList_ofList, ← happend]
  rfl

end

/-! ## Lists -/

/-- Every success of `p` gives a part of the text with the ids of its references. -/
def Produces {α : Type} (p : Parser α) (R : SelectorId → α → SelectorId → Prop) : Prop :=
  ∀ c, Yields p c fun x c' => R c.nextId x c'.nextId

theorem Produces.bind {α β : Type} {p : Parser α} {R : SelectorId → α → SelectorId → Prop}
    {k : α → Parser β} {c : Cursor} {S : β → Cursor → Prop} (hp : Produces p R)
    (h : ∀ x c', R c.nextId x c'.nextId → Yields (k x) c' S) : Yields (p >>= k) c S :=
  .bind ((hp c).mono h)

theorem separated_produces {α : Type} {item : Parser α} {R : SelectorId → α → SelectorId → Prop}
    (h : Produces item R) (fuel : Nat) :
    Produces (separated item fuel) fun n xs m => xs ≠ [] ∧ Chain R n xs m := by
  induction fuel with
  | zero => exact fun c => .throw nofun
  | succ fuel ih =>
    intro c
    rw [separated]
    refine h.bind fun x mid hx => .bind (tryChar_yields fun found rest _ => ?_)
    refine .ite (fun _ => ?_) fun _ => .pure ⟨List.cons_ne_nil _ _, .cons hx (.nil _)⟩
    exact ih.bind fun xs c' hxs => .pure ⟨List.cons_ne_nil _ _, .cons hx hxs.2⟩

theorem commaSeparated_produces {α : Type} {item : Parser α}
    {R : SelectorId → α → SelectorId → Prop} (h : Produces item R) :
    Produces (commaSeparated item) fun n xs m => xs ≠ [] ∧ Chain R n xs m :=
  fun c => .bind (.get (separated_produces h _ c))

/-! ## References -/

theorem columnAfter_produces {first : String} (hfirst : IsName first) :
    Produces (columnAfter first) fun n col m =>
      col.IsWritten n ∧ m = n + 1 ∧ col.qualifier.getD col.property = first := by
  intro c
  refine .bind (.get ?_)
  split
  · refine .bind (setRest_yields (.bind (freshId_yields (.pure ⟨⟨rfl, ?_, ?_⟩, rfl, rfl⟩))))
    · rintro _ ⟨⟩
      exact hfirst
    · exact .inr ⟨nofun, rfl⟩
  · refine .bind (setRest_yields (.bind (identifier_yields fun property rest hproperty _ => ?_)))
    refine .bind (freshId_yields (.pure ⟨⟨rfl, ?_, .inl hproperty⟩, rfl, rfl⟩))
    rintro _ ⟨⟩
    exact hfirst
  · exact .bind (freshId_yields (.pure ⟨⟨rfl, nofun, .inl hfirst⟩, rfl, rfl⟩))

theorem columnRef_produces : Produces columnRef fun n col m => col.IsWritten n ∧ m = n + 1 := by
  intro c
  refine .bind (identifier_yields fun first rest hfirst _ => ?_)
  exact (columnAfter_produces hfirst _).mono fun col c' h => ⟨h.1, h.2.1⟩

theorem selector_produces : Produces selector Selector.IsWritten := by
  intro c
  refine .bind (identifier_yields fun first rest hfirst _ => .bind (tryChar_yields ?_))
  refine fun found rest _ => .ite (fun _ => ?_) fun _ => ?_
  · exact .bind (expectChar_yields fun rest =>
      .bind (freshId_yields (.pure (.function ⟨rfl, hfirst⟩))))
  · refine (columnAfter_produces hfirst).bind fun col c' h => .pure ?_
    obtain ⟨hcol, hnext, -⟩ := h
    rw [hnext]
    exact .column hcol

/-! ## SELECT, FROM and ORDER BY -/

theorem aliasOpt_yields {c : Cursor} {Q : Option String → Cursor → Prop}
    (h : ∀ aliasName rest, (∀ a ∈ aliasName, IsName a) → Q aliasName { c with rest }) :
    Yields aliasOpt c Q := by
  refine tryKeyword_ite (fun rest => ?_) fun _ => ?_
  · refine .bind (identifier_yields fun name rest hname _ => .pure (h _ _ ?_))
    rintro _ ⟨⟩
    exact hname
  · exact tryAlias_yields fun aliasName rest haliasName => h _ _ haliasName

theorem selectItem_produces : Produces selectItem SelectItem.IsWritten := by
  intro c
  refine .bind (tryChar_yields fun found rest _ => .ite (fun _ => ?_) fun _ => ?_)
  · refine .bind (freshId_yields (.bind (.pure (.bind (aliasOpt_yields ?_)))))
    exact fun aliasName rest h => .pure (.all _ h)
  · refine selector_produces.bind fun sel c' hsel => ?_
    exact .bind (aliasOpt_yields fun aliasName rest h => .pure (.one hsel h))

theorem joinKind_yields {c : Cursor} {Q : Option JoinKind → Cursor → Prop}
    (h : ∀ kind rest, Q kind { c with rest }) : Yields joinKind c Q := by
  refine tryKeyword_ite (fun rest => ?_) fun _ => tryKeyword_ite (fun rest => ?_) fun _ => ?_
  · exact .bind (expectKeyword_yields fun rest => .pure (h _ rest))
  · exact .bind (tryKeyword_yields fun _ rest _ =>
      .bind (expectKeyword_yields fun rest => .pure (h _ rest)))
  · exact tryKeyword_ite (fun rest => .pure (h _ rest)) fun _ => .pure (h _ _)

theorem typeRef_yields {c : Cursor} {Q : Source → Cursor → Prop}
    (h : ∀ typeId aliasName rest, IsName typeId → (∀ a ∈ aliasName, IsName a) →
      Q ⟨typeId, aliasName, none⟩ { c with rest }) : Yields (typeRef none) c Q := by
  refine .bind (identifier_yields fun typeId rest htype _ => ?_)
  exact .bind (aliasOpt_yields fun aliasName rest haliasName => .pure (h _ _ _ htype haliasName))

theorem joinedType_produces (kind : JoinKind) :
    Produces (joinedType kind) fun n s m => s.join ≠ none ∧ s.IsWritten n m := by
  intro c
  refine .bind (typeRef_yields fun typeId aliasName rest htype haliasName => ?_)
  refine .bind (expectKeyword_yields fun rest => columnRef_produces.bind fun left mid hleft => ?_)
  refine .bind (expectChar_yields fun rest => columnRef_produces.bind fun right c' hright => ?_)
  refine .pure ⟨nofun, ?_⟩
  obtain ⟨hleft, hmid⟩ := hleft
  obtain ⟨hright, hnext⟩ := hright
  have hmid : mid.nextId = c.nextId + 1 := hmid
  have hnext : c'.nextId = mid.nextId + 1 := hnext
  have hright : right.IsWritten mid.nextId := hright
  rw [hmid] at hnext hright
  rw [hnext]
  exact .joined htype haliasName hleft hright

theorem joinedTypes_produces (fuel : Nat) : Produces (joinedTypes fuel) fun n ss m =>
    (∀ s ∈ ss, s.join ≠ none) ∧ Chain Source.IsWritten n ss m := by
  induction fuel with
  | zero => exact fun c => .pure ⟨nofun, .nil _⟩
  | succ fuel ih =>
    intro c
    rw [joinedTypes]
    refine .bind (joinKind_yields fun kind rest => ?_)
    cases kind with
    | none => exact .pure ⟨nofun, .nil _⟩
    | some kind =>
      refine (joinedType_produces kind).bind fun s mid hs => ih.bind fun ss c' hss => .pure ?_
      exact ⟨List.forall_mem_cons.2 ⟨hs.1, hss.1⟩, .cons hs.2 hss.2⟩

theorem sourceList_produces : Produces sourceList IsWrittenFrom := by
  intro c
  refine .bind (typeRef_yields fun typeId aliasName rest htype haliasName => .bind (.get ?_))
  refine (joinedTypes_produces _).bind fun others c' hothers => .pure ?_
  exact .intro rfl (.single _ htype haliasName) hothers.1 hothers.2

theorem sortSpec_produces : Produces sortSpec SortSpec.IsWritten := by
  intro c
  refine selector_produces.bind fun sel c' hsel => tryKeyword_ite (fun rest => .pure hsel) ?_
  exact fun _ => .bind (tryKeyword_yields fun _ rest _ => .pure hsel)

/-! ## Literals and operands -/

theorem literalToken_yields {c : Cursor} {Q : Predicate → Cursor → Prop}
    (h : ∀ raw rest, Literal.IsWritten raw →
      (literalAt (afterBlanks c.rest) = true → literalAt raw.toList = true) →
      ((afterBlanks c.rest).head? = some '\'' → IsQuoted raw) →
      Q (.literal raw) { c with rest }) : Yields literalToken c Q := by
  refine .bind (skipBlanks_yields (.bind (peek_yields (.ite (fun hquote => ?_) fun hquote => ?_))))
  · refine .bind (quoted_yields fun raw rest hraw _ =>
      .pure (h _ _ (.quoted hraw) ?_ fun _ => hraw))
    intro _
    obtain ⟨token, htoken, -⟩ := hraw
    rw [htoken]
    rfl
  have hquote : (afterBlanks c.rest).head? ≠ some '\'' := by simpa using hquote
  have hno {raw : String} : (afterBlanks c.rest).head? = some '\'' → IsQuoted raw :=
    fun hq => absurd hq hquote
  refine tryKeyword_ite (fun rest => ?_) fun htimestamp =>
    tryKeyword_ite (fun rest => .pure ?_) fun htrue =>
      tryKeyword_ite (fun rest => .pure ?_) fun hfalse => ?_
  · refine .bind (skipBlanks_yields (.bind (quoted_yields fun raw rest hraw _ => .pure ?_)))
    refine h _ _ (.timestamp hraw) (fun _ => ?_) hno
    refine Predicate.literalAt_of_keywordAt List.mem_cons_self ?_
    rw [String.toList_append]
    rfl
  · exact h _ _ .true (fun _ => rfl) hno
  · exact h _ _ .false (fun _ => rfl) hno
  refine .bind (number_yields fun raw rest hraw hhead => .pure ?_)
  refine h _ _ (.number hraw) (fun hliteral => ?_) hno
  simp only [afterBlanks_afterBlanks] at htimestamp htrue hfalse hhead
  refine Predicate.literalAt_of_head? hhead hliteral ?_
  simp only [Predicate.literalWords, List.forall_mem_cons]
  exact ⟨htimestamp, htrue, hfalse, List.forall_mem_nil _⟩

theorem literalList_yields {c : Cursor} {Q : Predicate → Cursor → Prop}
    (h : ∀ p rest, p.IsWrittenList → ∀ total, Q p ⟨rest, total, c.nextId⟩) :
    Yields literalList c Q := by
  have htoken : Produces literalToken fun n p m =>
      m = n ∧ ∃ raw, p = .literal raw ∧ Literal.IsWritten raw :=
    fun c => literalToken_yields fun raw rest hraw _ _ => ⟨rfl, raw, rfl, hraw⟩
  have hraws : ∀ {n m : SelectorId} {items : List Predicate}, Chain (fun n p m =>
      m = n ∧ ∃ raw, p = .literal raw ∧ Literal.IsWritten raw) n items m →
      m = n ∧ ∃ raws : List String, items = raws.map .literal ∧
        ∀ raw ∈ raws, Literal.IsWritten raw := by
    intro n m items hchain
    induction hchain with
    | nil => exact ⟨rfl, [], rfl, nofun⟩
    | cons hitem _ ih =>
      obtain ⟨rfl, raw, rfl, hraw⟩ := hitem
      obtain ⟨rfl, raws, rfl, hraws⟩ := ih
      exact ⟨rfl, raw :: raws, rfl, List.forall_mem_cons.2 ⟨hraw, hraws⟩⟩
  refine .bind (expectChar_yields fun rest => (commaSeparated_produces htoken).bind ?_)
  intro items c' hitems
  obtain ⟨hne, hchain⟩ := hitems
  obtain ⟨hsame, raws, rfl, hall⟩ := hraws hchain
  refine .bind (expectChar_yields fun rest => .pure ?_)
  have hsame : c'.nextId = c.nextId := hsame
  rw [hsame]
  exact h _ rest (.intro (fun hnil => hne (by rw [hnil]; rfl)) hall) _

/-- An operand avoids the words that do not stand where it is read. -/
theorem operand_yields (c : Cursor) : Yields operand c fun p c' =>
    p.IsWrittenOperand c.nextId c'.nextId ∧
      ∀ words, (∀ word ∈ words, keywordAt word (afterBlanks c.rest) = false) → p.Avoids words := by
  refine .bind (skipBlanks_yields (.bind (.get (.ite (fun hliteral => ?_) fun hno => ?_))))
  · refine literalToken_yields fun raw rest hraw hopens _ => ⟨.literal _ hraw (hopens ?_), ?_⟩
    · rwa [afterBlanks_afterBlanks]
    · exact fun words _ name hname => nomatch hname
  · have hno : ∀ word ∈ Predicate.literalWords, keywordAt word (afterBlanks c.rest) = false := by
      intro word hword
      rw [← Bool.not_eq_true]
      exact fun h => hno (Predicate.literalAt_of_keywordAt hword h)
    refine .bind (identifier_yields fun first rest hfirst hsame => .bind (tryChar_yields ?_))
    simp only [afterBlanks_afterBlanks] at hsame
    -- The operand starts with the identifier, so it has the keywords of the cursor.
    have havoids {p : Predicate} (hp : p.leadingName? = some first) (words : List String)
        (hwords : ∀ word ∈ words, keywordAt word (afterBlanks c.rest) = false) :
        p.Avoids words := by
      intro name hname word hword
      rw [hp] at hname
      cases hname
      rw [← hsame]
      exact hwords word hword
    refine fun found rest _ => .ite (fun _ => .bind (expectChar_yields fun rest => ?_)) fun _ => ?_
    · refine .bind (freshId_yields (.pure ⟨.score ⟨rfl, hfirst⟩ (havoids rfl _ hno), ?_⟩))
      exact havoids rfl
    · refine (columnAfter_produces hfirst).bind fun col c' hcol => .pure ?_
      obtain ⟨hcol, hnext, hname⟩ := hcol
      have hleading : (Predicate.column col).leadingName? = some first := congrArg some hname
      rw [hnext]
      exact ⟨.column hcol (havoids hleading _ hno), havoids hleading⟩

/-! ## Tests -/

theorem qualifier_yields {c : Cursor} {Q : Option String → Cursor → Prop}
    (hnone : ∀ rest, rest.head? = some '\'' → Q none { c with rest })
    (hsome : ∀ name rest, IsName name → Q (some name) { c with rest }) : Yields qualifier c Q := by
  refine .bind (expectChar_yields fun rest => .bind (skipBlanks_yields (.bind (peek_yields ?_))))
  refine .ite (fun hquote => .pure (hnone _ (by simpa using hquote))) fun _ => ?_
  refine .bind (identifier_yields fun name rest hname _ => .bind (expectChar_yields fun rest => ?_))
  exact .pure (hsome name rest hname)

theorem containsArguments_produces : Produces containsArguments Predicate.IsWritten := by
  intro c
  have hqualifier : Yields qualifier c fun q c' =>
      (∀ name ∈ q, IsName name) ∧ c'.nextId = c.nextId := by
    refine qualifier_yields (fun rest _ => ⟨nofun, rfl⟩) fun name rest hname => ⟨?_, rfl⟩
    rintro _ ⟨⟩
    exact hname
  refine .bind (hqualifier.mono fun q c' hq => .bind (skipBlanks_yields (.bind ?_)))
  refine quoted_yields fun raw rest hraw _ => .bind (expectChar_yields fun rest => ?_)
  obtain ⟨text, htext⟩ := unquote?_of_isQuoted hraw
  rw [htext]
  dsimp only
  split
  · exact .throw nofun
  · rename_i search hsearch
    rw [← hq.2]
    exact .pure (.contains _ hq.1 (FullText.parse_toText hsearch))

theorem folderArguments_produces (scope : FolderScope) :
    Produces (folderArguments scope) Predicate.IsWritten := by
  intro c
  refine .bind (qualifier_yields (fun rest hquote => ?_) fun name rest hname => ?_)
  · refine .bind (literalToken_yields fun raw rest' _ _ hraw => .bind (expectChar_yields ?_))
    refine fun rest' => .pure (.inFolder _ scope (hraw ?_))
    obtain ⟨d, rest, rfl⟩ : ∃ d tail, rest = d :: tail := by
      cases rest with
      | nil => cases hquote
      | cons d rest => exact ⟨d, rest, rfl⟩
    cases hquote
    rfl
  · refine .bind (freshId_yields (.bind (literalToken_yields fun raw rest hraw _ _ => ?_)))
    exact .bind (expectChar_yields fun rest => .pure (.inFolderOf _ scope hname hraw))

theorem anyMembership_produces : Produces anyMembership Predicate.IsWritten := by
  intro c
  refine columnRef_produces.bind fun col mid hcol => .bind (tryKeyword_yields ?_)
  refine fun negated rest _ => .bind (expectKeyword_yields fun rest => ?_)
  refine .bind (literalList_yields fun items rest hitems total => .pure ?_)
  obtain ⟨hcol, hmid⟩ := hcol
  have hwritten := Predicate.IsWritten.anyIn negated hcol hitems
  rwa [← hmid] at hwritten

theorem tryComparison_yields {Q : Option Comparison → Cursor → Prop}
    {ops : List (List Char × Comparison)} {c : Cursor}
    (h : ∀ op rest, Q op { c with rest }) : Yields (tryComparison ops) c Q := by
  induction ops generalizing c with
  | nil => exact .pure (h none c.rest)
  | cons op ops ih =>
    obtain ⟨text, op⟩ := op
    rw [tryComparison]
    refine .bind (tryOperator_yields fun found rest => .ite (fun _ => .pure (h _ rest)) fun _ => ?_)
    exact ih fun op rest => h op rest

section
variable {left : Predicate} {first : SelectorId} {c : Cursor}
  (hleft : left.IsWrittenLeft first c.nextId)
include hleft

theorem comparisonAfter_yields : Yields (comparisonAfter left) c fun p c' =>
    p.IsWritten first c'.nextId := by
  refine .bind (tryComparison_yields fun op rest => ?_)
  split
  · exact .bind (peek_yields (.throw nofun))
  · refine tryKeyword_ite (fun rest => ?_) fun hany => ?_
    · refine columnRef_produces.bind fun col c' hcol => .pure ?_
      obtain ⟨hcol, hnext⟩ := hcol
      rw [hnext]
      exact .equalsAny hleft hcol
    · refine .bind ((operand_yields _).mono fun right c' hright => .pure ?_)
      refine .compare .eq hleft hright.1 fun _ => hright.2 _ ?_
      simpa using hany
  · rename_i op hne
    refine .bind ((operand_yields _).mono fun right c' hright => .pure ?_)
    exact .compare op hleft hright.1 fun heq => absurd heq hne

theorem testAfter_yields : Yields (testAfter left) c fun p c' => p.IsWritten first c'.nextId := by
  refine tryKeyword_ite (fun rest => ?_) fun _ => ?_
  · exact .bind (tryKeyword_yields fun negated rest _ => .bind (expectKeyword_yields fun rest =>
      .pure (.isNull negated hleft)))
  refine .bind (tryKeyword_yields fun negated rest _ => ?_)
  refine tryKeyword_ite (fun rest => ?_) fun _ => tryKeyword_ite (fun rest => ?_) fun _ => ?_
  · exact .bind (literalList_yields fun items rest hitems total =>
      .pure (.isIn negated hleft hitems))
  · exact .bind (literalToken_yields fun raw rest hraw _ _ => .pure (.like negated hleft hraw))
  · exact .ite (fun _ => .bind (.throw nofun)) fun _ => comparisonAfter_yields hleft

end

/-- A test is read where no `NOT` stands. -/
theorem test_yields {c : Cursor} (hnot : keywordAt "NOT" (afterBlanks c.rest) = false) :
    Yields test c fun p c' => p.IsWritten c.nextId c'.nextId := by
  refine tryKeyword_ite (fun rest => containsArguments_produces _) fun hcontains => ?_
  refine tryKeyword_ite (fun rest => folderArguments_produces _ _) fun hfolder => ?_
  refine tryKeyword_ite (fun rest => folderArguments_produces _ _) fun htree => ?_
  refine tryKeyword_ite (fun rest => anyMembership_produces _) fun hany => ?_
  refine .bind ((operand_yields _).mono fun left mid hleft => testAfter_yields ⟨hleft.1, ?_⟩)
  simp only [afterBlanks_afterBlanks] at hfolder htree hany hleft
  refine hleft.2 _ ?_
  simp only [Predicate.testWords, List.forall_mem_cons]
  exact ⟨hnot, hcontains, hfolder, htree, hany, List.forall_mem_nil _⟩

/-! ## Connectives -/

/-- What is read behind a tree whose references have the ids from `first` on. -/
def Extends (p : Predicate → Parser Predicate) : Prop :=
  ∀ left first c, Predicate.IsWritten first left c.nextId →
    Yields (p left) c fun q c' => q.IsWritten first c'.nextId

/-- The six readers of connectives together: each calls the next with less fuel. -/
theorem connectives_produce (fuel : Nat) :
    Produces (disjunction fuel) Predicate.IsWritten ∧ Extends (disjunctionAfter fuel) ∧
    Produces (conjunction fuel) Predicate.IsWritten ∧ Extends (conjunctionAfter fuel) ∧
    Produces (negation fuel) Predicate.IsWritten ∧
    ∀ c, keywordAt "NOT" (afterBlanks c.rest) = false →
      Yields (primary fuel) c fun p c' => p.IsWritten c.nextId c'.nextId := by
  induction fuel with
  | zero =>
    exact ⟨fun c => .throw nofun, fun left first c h => .pure h, fun c => .throw nofun,
      fun left first c h => .pure h, fun c => .throw nofun, fun c _ => .throw nofun⟩
  | succ fuel ih =>
    obtain ⟨hdis, hdisAfter, hcon, hconAfter, hneg, hprim⟩ := ih
    refine ⟨fun c => ?disjunction, fun left first c h => ?disjunctionAfter,
      fun c => ?conjunction, fun left first c h => ?conjunctionAfter, fun c => ?negation,
      fun c hnot => ?primary⟩
    case disjunction => exact hcon.bind fun left c' hleft => hdisAfter left _ _ hleft
    case disjunctionAfter =>
      refine tryKeyword_ite (fun rest => ?_) fun _ => .pure h
      exact hcon.bind fun right c' hright => hdisAfter _ _ _ (.or h hright)
    case conjunction => exact hneg.bind fun left c' hleft => hconAfter left _ _ hleft
    case conjunctionAfter =>
      refine tryKeyword_ite (fun rest => ?_) fun _ => .pure h
      exact hneg.bind fun right c' hright => hconAfter _ _ _ (.and h hright)
    case negation =>
      refine tryKeyword_ite (fun rest => hneg.bind fun p c' hp => .pure (.not hp)) fun hnot => ?_
      exact hprim _ (by simpa using hnot)
    case primary =>
      refine .bind (tryChar_yields fun found rest hrest => .ite (fun _ => ?_) fun hfound => ?_)
      · exact hdis.bind fun p c' hp => .bind (expectChar_yields fun rest => .pure hp)
      · obtain rfl := hrest (by simpa using hfound)
        exact test_yields (by simpa using hnot)

/-! ## Statements -/

theorem filterOpt_produces : Produces filterOpt IsWrittenFilter := by
  intro c
  refine tryKeyword_ite (fun rest => .bind (.bind (.get ?_))) fun _ => .pure (.none _)
  obtain ⟨hdisjunction, -⟩ := connectives_produce (4 * rest.length + 4)
  exact (hdisjunction _).mono fun p c' hp => .pure (.some hp)

theorem orderByOpt_produces : Produces orderByOpt (Chain SortSpec.IsWritten) := by
  intro c
  refine tryKeyword_ite (fun rest => .bind (expectKeyword_yields fun rest => ?_)) fun _ => ?_
  · exact (commaSeparated_produces sortSpec_produces _).mono fun specs c' h => h.2
  · exact .pure (.nil _)

theorem endOfText_yields (c : Cursor) : Yields endOfText c fun _ _ => True :=
  .bind (tryChar_yields fun _ _ _ => .bind (skipBlanks_yields (.bind (.get
    (.ite (fun _ => .pure trivial) fun _ => .throw nofun)))))

theorem statement_yields (text : String) {c : Cursor} (hc : c.nextId = 0) :
    Yields (statement text) c fun s _ => s.IsWritten ∧ s.text = text := by
  refine .bind (expectKeyword_yields fun rest => ?_)
  refine (commaSeparated_produces selectItem_produces).bind fun select a hselect => ?_
  refine .bind (expectKeyword_yields fun rest => sourceList_produces.bind fun sources b hfrom => ?_)
  refine filterOpt_produces.bind fun filter d hfilter => ?_
  refine orderByOpt_produces.bind fun orderBy e horder => ?_
  refine .bind ((endOfText_yields e).mono fun _ _ _ => .pure ⟨?_, rfl⟩)
  obtain ⟨hne, hitems⟩ := hselect
  have hitems : Chain SelectItem.IsWritten c.nextId select a.nextId := hitems
  rw [hc] at hitems
  exact .intro hne hitems hfrom hfilter horder

/-- **What comes out of the parser**: a statement that is written as the parser reads it, with the
text as its own, or a fault of the grammar. -/
theorem parse_outcome (text : String) :
    (∀ s, Statement.parse text = .ok s →
      s.IsWritten ∧ s.text = String.ofList (Text.trim text.toList)) ∧
    ∀ e, Statement.parse text ≠ .error (.literal e) := by
  obtain ⟨hsuccess, hfailure⟩ := statement_yields (String.ofList (Text.trim text.toList))
    (c := .ofText text.toList) rfl
  unfold Statement.parse
  rw [StateT.run'_eq]
  refine ⟨fun s hs => ?_, fun e he => ?_⟩
  · cases hr : (statement (String.ofList (Text.trim text.toList))).run (.ofText text.toList) with
    | error fault => rw [hr] at hs; cases hs
    | ok found =>
      rw [hr] at hs
      cases hs
      exact hsuccess _ _ hr
  · cases hr : (statement (String.ofList (Text.trim text.toList))).run (.ofText text.toList) with
    | error fault =>
      rw [hr] at he
      cases he
      exact hfailure e hr
    | ok found => rw [hr] at he; cases he

end ContentQuery.Statement
