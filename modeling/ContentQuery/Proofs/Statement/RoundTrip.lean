import ContentQuery.Proofs.Statement.Conditions
import ContentQuery.Proofs.Statement.Outcomes

/-!
# Writing and reading statements

The clauses of a statement are read again from their written form, each up to the word of the next
one or the end of the text (`Ends`). With what the parser can have read (`parse_outcome`) this makes
parsing undo writing for each statement that comes out of the parser (`parse_toText_of_parse`).
-/

set_option autoImplicit false

namespace ContentQuery.Statement

/-! ## Where a clause ends -/

/-- The end of the text, or one of these words between blanks. -/
inductive Ends (words : List String) : List Char → Prop
  | text : Ends words []
  | word (word : String) (cs : List Char) :
      word ∈ words → Ends words (' ' :: (word.toList ++ ' ' :: cs))

section
variable {words : List String} {k : List Char} {n : SelectorId}

theorem Ends.mono {others : List String} (h : Ends words k) (hsub : words ⊆ others) :
    Ends others k := by
  cases h with
  | text => exact .text
  | word word cs hword => exact .word word cs (hsub hword)

theorem isName_of_mem_reservedWords {word : String} (h : word ∈ reservedWords) : IsName word := by
  have hall : ∀ word ∈ reservedWords, IsName word := by
    decide
  exact hall word h

/-- The next clause is none that starts with another word. -/
theorem Ends.keywordAt (h : Ends words k) (hwords : words ⊆ reservedWords) {other : String}
    (hother : ∀ word ∈ words, Literal.isWord other word.toList = false) :
    Statement.keywordAt other (afterBlanks k) = false := by
  cases h with
  | text => rfl
  | word word cs hword =>
    have hname := isName_of_mem_reservedWords (hwords hword)
    rw [afterBlanks_blank, afterBlanks_name hname, keywordAt_append hname (endsWord_blank cs)]
    exact hother word hword

/-- A clause starts with a letter. -/
theorem Ends.head (h : Ends words k) (hwords : words ⊆ reservedWords) {d : Char}
    (hd : startsIdentifier d = false) : ∀ c ∈ (afterBlanks k).head?, c ≠ d := by
  cases h with
  | text => exact nofun
  | word word cs hword =>
    rw [afterBlanks_blank]
    exact head_of_name (isName_of_mem_reservedWords (hwords hword)) _ hd

theorem Ends.follows (h : Ends words k) (hwords : words ⊆ reservedWords) : Follows k := by
  refine ⟨fun c hc => ?_, fun c hc => ⟨h.head hwords rfl c hc, h.head hwords rfl c hc⟩⟩
  cases h with
  | text => cases hc
  | word word cs hword =>
    cases hc
    decide

end

/-- What may stand behind a name that can have an alias, where no alias stands. -/
structure NoAlias (k : List Char) : Prop where
  follows : Follows k
  as : keywordAt "AS" (afterBlanks k) = false
  word : wordAt (afterBlanks k) = [] ∨
    reservedWords.any (Literal.isWord · (wordAt (afterBlanks k))) = true

theorem noAlias_comma (k : List Char) : NoAlias (',' :: k) :=
  ⟨follows_comma k, rfl, .inl rfl⟩

theorem Ends.noAlias {words : List String} {k : List Char} (h : Ends words k)
    (hwords : words ⊆ reservedWords)
    (has : ∀ word ∈ words, Literal.isWord "AS" word.toList = false) : NoAlias k := by
  refine ⟨h.follows hwords, h.keywordAt hwords has, ?_⟩
  cases h with
  | text => exact .inl rfl
  | word word cs hword =>
    have hname := isName_of_mem_reservedWords (hwords hword)
    rw [afterBlanks_blank, afterBlanks_name hname, wordAt_append hname (endsWord_blank cs)]
    refine .inr (List.any_eq_true.2 ⟨word, hwords hword, ?_⟩)
    simp [Literal.isWord]

/-! ## SELECT -/

section
variable {k : List Char} {n m : SelectorId}

/-- What stands behind a reference or a type, an alias included. -/
theorem follows_alias (aliasName : Option String) (hk : Follows k) :
    Follows (aliasChars aliasName ++ k) := by
  cases aliasName with
  | none => exact hk
  | some name => exact follows_blank (by decide) _

theorem aliasOpt_here {aliasName : Option String} (h : ∀ a ∈ aliasName, IsName a) (hk : NoAlias k)
    (n : SelectorId) :
    Reads aliasOpt (Near (aliasChars aliasName ++ k) n) aliasName (Near k n) := by
  cases aliasName with
  | none => exact (tryKeyword_not hk.as n).bind (tryAlias_not hk.word n)
  | some name =>
    have hchars : aliasChars (some name) ++ k = ' ' :: ("AS".toList ++ ' ' :: (name.toList ++ k)) :=
      rfl
    rw [hchars, near_blank]
    refine (tryKeyword_here (by decide) (endsWord_blank _) n).bind ?_
    rw [near_blank]
    exact (identifier_here (h name rfl) hk.follows.endsWord n).near.bind (.refl _ _)

theorem selectItem_here {item : SelectItem} (h : item.IsWritten n m) (hk : NoAlias k) :
    Reads selectItem (Near (item.chars ++ k) n) item (Near k m) := by
  rw [SelectItem.chars, List.append_assoc]
  cases h with
  | @all aliasName haliasName =>
    have hchars : wildcard.toList ++ (aliasChars aliasName ++ k) =
        '*' :: (aliasChars aliasName ++ k) := rfl
    show Reads _ (Near (wildcard.toList ++ (aliasChars aliasName ++ k)) n) _ _
    rw [hchars]
    refine (tryChar_here rfl _ n).bind ?_
    refine (freshId_reads_near _ n).bind ?_
    exact Reads.bind (.pure _ _) ((aliasOpt_here haliasName hk _).bind (.refl _ _))
  | @one _ sel aliasName hsel haliasName =>
    have hfollows := follows_alias aliasName hk.follows
    obtain ⟨name, k', hname, hchars⟩ := selector_chars hsel hfollows
    refine (tryChar_not ?_).bind ?_
    · rw [hchars]
      exact head_of_name hname k' rfl
    · exact (selector_here hsel hfollows).bind ((aliasOpt_here haliasName hk m).bind (.refl _ _))

/-! ## FROM -/

/-- The words behind a list of types. -/
def tailWords : List String := ["WHERE", "ORDER"]

theorem typeRef_here {typeId : String} {aliasName : Option String} (htype : IsName typeId)
    (h : ∀ a ∈ aliasName, IsName a) (hk : NoAlias k) (join : Option JoinSpec) (n : SelectorId) :
    Reads (typeRef join) (Near (typeId.toList ++ (aliasChars aliasName ++ k)) n)
      ⟨typeId, aliasName, join⟩ (Near k n) := by
  refine (identifier_here htype (follows_alias aliasName hk.follows).endsWord n).near.bind ?_
  exact (aliasOpt_here h hk n).bind (.refl _ _)

theorem joinKind_here (kind : JoinKind) (k : List Char) (n : SelectorId) :
    Reads joinKind (Near (kind.toText.toList ++ ' ' :: k) n) (some kind) (Near k n) := by
  have hjoin : Reads (expectKeyword "JOIN") (Near ("JOIN".toList ++ ' ' :: k) n) () (Near k n) := by
    rw [← near_blank k]
    exact expectKeyword_here (by decide) (endsWord_blank k) n
  cases kind with
  | inner =>
    have hchars : JoinKind.inner.toText.toList ++ ' ' :: k =
        "INNER".toList ++ ' ' :: ("JOIN".toList ++ ' ' :: k) := rfl
    rw [hchars]
    refine (tryKeyword_here (by decide) (endsWord_blank _) n).bind ?_
    rw [near_blank]
    exact hjoin.bind (.refl _ _)
  | leftOuter =>
    have hchars : JoinKind.leftOuter.toText.toList ++ ' ' :: k =
        "LEFT".toList ++ ' ' :: ("OUTER".toList ++ ' ' :: ("JOIN".toList ++ ' ' :: k)) := rfl
    rw [hchars]
    refine (tryKeyword_not rfl n).bind ?_
    refine (tryKeyword_here (by decide) (endsWord_blank _) n).bind ?_
    rw [near_blank]
    refine (tryKeyword_here (by decide) (endsWord_blank _) n).bind ?_
    rw [near_blank]
    exact hjoin.bind (.refl _ _)

theorem joinKind_none (hk : Ends tailWords k) (n : SelectorId) :
    Reads joinKind (Near k n) none (Near k n) := by
  have hno (other : String)
      (h : ∀ word ∈ tailWords, Literal.isWord other word.toList = false) :=
    hk.keywordAt (by decide) h
  refine (tryKeyword_not (hno "INNER" (by decide)) n).bind ?_
  refine (tryKeyword_not (hno "LEFT" (by decide)) n).bind ?_
  exact (tryKeyword_not (hno "JOIN" (by decide)) n).bind (.refl _ _)

theorem joinedType_here {source : Source} {join : JoinSpec} (hjoin : source.join = some join)
    (h : source.IsWritten n m) (hk : Follows k) :
    ∃ cs, source.chars ++ k = ' ' :: (join.kind.toText.toList ++ ' ' :: cs) ∧
      Reads (joinedType join.kind) (Near cs n) source (Near k m) := by
  cases h with
  | single => cases hjoin
  | @joined typeId aliasName join htype haliasName hleft hright =>
    cases hjoin
    refine ⟨typeId.toList ++ (aliasChars aliasName ++ ' ' :: ("ON".toList ++ ' ' ::
      (join.left.toText.toList ++ ' ' :: '=' :: ' ' :: (join.right.toText.toList ++ k)))), ?_, ?_⟩
    · simp only [Source.chars, List.append_assoc, List.cons_append]
      rfl
    have hon : Ends ["ON"] (' ' :: ("ON".toList ++ ' ' :: (join.left.toText.toList ++
        ' ' :: '=' :: ' ' :: (join.right.toText.toList ++ k)))) :=
      .word "ON" _ List.mem_cons_self
    have hequals : Follows (' ' :: '=' :: ' ' :: (join.right.toText.toList ++ k)) :=
      follows_blank (by decide) _
    refine (typeRef_here htype haliasName (hon.noAlias (by decide) (by decide)) none n).bind ?_
    rw [near_blank]
    refine (expectKeyword_here (by decide) (endsWord_blank _) n).bind ?_
    rw [near_blank]
    refine (columnRef_here hleft hequals).bind ?_
    rw [near_blank]
    refine (expectChar_here rfl _ _).bind ?_
    rw [near_blank]
    exact (columnRef_here hright hk).bind (.refl _ _)

/-- The words behind a type and behind the condition of a join. -/
def fromWords : List String := ["INNER", "LEFT", "WHERE", "ORDER"]

/-- A joined type starts with its kind of join. -/
theorem ends_joined {source : Source} (hjoin : source.join ≠ none) (k : List Char) :
    Ends fromWords (source.chars ++ k) := by
  obtain ⟨typeId, aliasName, join⟩ := source
  cases join with
  | none => exact absurd rfl hjoin
  | some join =>
    obtain ⟨kind, left, right⟩ := join
    simp only [Source.chars, List.append_assoc, List.cons_append]
    cases kind with
    | inner => exact Ends.word "INNER" ("JOIN".toList ++ _) (by decide)
    | leftOuter => exact Ends.word "LEFT" ("OUTER JOIN".toList ++ _) (by decide)

theorem ends_others {others : List Source} (hjoins : ∀ s ∈ others, s.join ≠ none)
    (hk : Ends tailWords k) : Ends fromWords (others.flatMap Source.chars ++ k) := by
  cases others with
  | nil => exact hk.mono (by decide)
  | cons source others =>
    rw [List.flatMap_cons, List.append_assoc]
    exact ends_joined (hjoins source List.mem_cons_self) _

theorem joinedTypes_here {others : List Source} (hjoins : ∀ s ∈ others, s.join ≠ none)
    (h : Chain Source.IsWritten n others m) (hk : Ends tailWords k) {fuel : Nat}
    (hfuel : others.length ≤ fuel) :
    Reads (joinedTypes fuel) (Near (others.flatMap Source.chars ++ k) n) others (Near k m) := by
  induction h generalizing fuel with
  | nil n =>
    -- Fuel that is used up exactly here ends the list as the missing join does.
    cases fuel with
    | zero => exact .pure _ _
    | succ fuel => exact (joinKind_none hk n).bind (.refl _ _)
  | @cons n mid m source others hsource hothers ih =>
    obtain ⟨fuel, rfl⟩ := Nat.exists_eq_add_of_lt (Nat.zero_lt_of_lt hfuel)
    obtain ⟨hjoin, hjoins⟩ := List.forall_mem_cons.1 hjoins
    obtain ⟨join, hjoin⟩ := Option.ne_none_iff_exists'.1 hjoin
    have hfollows := (ends_others hjoins hk).follows (by decide)
    obtain ⟨cs, hchars, hreads⟩ := joinedType_here hjoin hsource hfollows
    rw [List.flatMap_cons, List.append_assoc, hchars, near_blank]
    refine (joinKind_here join.kind cs n).bind (hreads.bind ?_)
    exact (ih hjoins (by simpa using hfuel)).bind (.refl _ _)

/-- Every join has a sign of equality. -/
theorem length_le_ink_joined {others : List Source} (hjoins : ∀ s ∈ others, s.join ≠ none) :
    others.length ≤ ink (others.flatMap Source.chars) := by
  induction others with
  | nil => exact Nat.zero_le _
  | cons source others ih =>
    obtain ⟨hjoin, hjoins⟩ := List.forall_mem_cons.1 hjoins
    obtain ⟨join, hjoin⟩ := Option.ne_none_iff_exists'.1 hjoin
    have hink : 1 ≤ ink source.chars := by
      have hequals : ink " = ".toList = 1 := rfl
      simp only [Source.chars, hjoin, ink_append, hequals]
      omega
    rw [List.length_cons, List.flatMap_cons, ink_append]
    have hothers := ih hjoins
    omega

theorem sourceList_here {sources : List Source} (h : IsWrittenFrom n sources m)
    (hk : Ends tailWords k) :
    Reads sourceList (Near (sources.flatMap Source.chars ++ k) n) sources (Near k m) := by
  obtain ⟨hnone, hsource, hjoins, hothers⟩ := h
  rename_i source others
  cases hsource with
  | @single typeId aliasName htype haliasName =>
    have hends := ends_others hjoins hk
    rw [List.flatMap_cons, List.append_assoc]
    have hchars : Source.chars ⟨typeId, aliasName, none⟩ =
      typeId.toList ++ aliasChars aliasName := rfl
    rw [hchars, List.append_assoc]
    refine (typeRef_here htype haliasName (hends.noAlias (by decide) (by decide)) none n).bind ?_
    refine fueled_goes fun c hfuel => ?_
    rw [ink_append] at hfuel
    have hlength := length_le_ink_joined hjoins
    exact (joinedTypes_here hjoins hothers hk (by omega)).bind (.refl _ _)

/-! ## WHERE and ORDER BY -/

theorem predicate_here {p : Predicate} (h : p.IsWritten n m) (hk : Ends ["ORDER"] k) :
    Reads predicate (Near (p.chars 0 ++ k) n) p (Near k m) := by
  refine fueled_goes fun c hfuel => ?_
  rw [ink_append] at hfuel
  obtain ⟨less, -, hgoes⟩ := (readable_of_isWritten h).disjunction (4 * c.rest.length + 4) k
    (by omega) (hk.follows (by decide)) (hk.keywordAt (by decide) (by decide))
  exact hgoes.trans (disjunctionAfter_done (hk.keywordAt (by decide) (by decide)) less)

/-- A WHERE clause, if there is one. -/
def filterChars : Option Predicate → List Char
  | some p => " WHERE ".toList ++ p.chars 0
  | none => []

theorem ends_filter (filter : Option Predicate) (hk : Ends ["ORDER"] k) :
    Ends tailWords (filterChars filter ++ k) := by
  cases filter with
  | none => exact hk.mono (by decide)
  | some p => exact Ends.word "WHERE" (p.chars 0 ++ k) (by decide)

theorem filterOpt_here {filter : Option Predicate} (h : IsWrittenFilter n filter m)
    (hk : Ends ["ORDER"] k) :
    Reads filterOpt (Near (filterChars filter ++ k) n) filter (Near k m) := by
  cases h with
  | none => exact (tryKeyword_not (hk.keywordAt (by decide) (by decide)) n).bind (.refl _ _)
  | some hp =>
    rename_i p
    have hchars : filterChars (some p) ++ k = ' ' :: ("WHERE".toList ++ ' ' :: (p.chars 0 ++ k)) :=
      rfl
    rw [hchars, near_blank]
    refine (tryKeyword_here (by decide) (endsWord_blank _) n).bind ?_
    rw [near_blank]
    exact (predicate_here hp hk).bind (.refl _ _)

theorem sortSpec_here {spec : SortSpec} (h : spec.IsWritten n m) (hk : EndsWord k) :
    Reads sortSpec (Near (spec.chars ++ k) n) spec (Near k m) := by
  obtain ⟨sel, ascending⟩ := spec
  have hsel : sel.IsWritten n m := h
  cases ascending with
  | true =>
    have hchars : SortSpec.chars ⟨sel, true⟩ ++ k =
        sel.toText.toList ++ ' ' :: ("ASC".toList ++ k) := by
      rw [SortSpec.chars, List.append_assoc, if_pos rfl]
      rfl
    have hdesc : keywordAt "DESC" (afterBlanks ("ASC".toList ++ k)) = false := by
      rw [afterBlanks_name (by decide), keywordAt_append (by decide) hk]
      rfl
    rw [hchars]
    refine (selector_here hsel (follows_blank (by decide) _)).bind ?_
    rw [near_blank]
    refine (tryKeyword_not hdesc m).bind ?_
    exact (tryKeyword_here (by decide) hk m).bind (.refl _ _)
  | false =>
    have hchars : SortSpec.chars ⟨sel, false⟩ ++ k =
        sel.toText.toList ++ ' ' :: ("DESC".toList ++ k) := by
      rw [SortSpec.chars, List.append_assoc, if_neg Bool.false_ne_true]
      rfl
    rw [hchars]
    refine (selector_here hsel (follows_blank (by decide) _)).bind ?_
    rw [near_blank]
    exact (tryKeyword_here (by decide) hk m).bind (.refl _ _)

/-- An ORDER BY clause, if there is one. -/
def orderByChars (specs : List SortSpec) : List Char :=
  if specs.isEmpty then [] else " ORDER BY ".toList ++ commaChars SortSpec.chars specs

theorem ends_orderBy (specs : List SortSpec) : Ends ["ORDER"] (orderByChars specs) := by
  cases specs with
  | nil => exact .text
  | cons spec specs =>
    exact Ends.word "ORDER" ("BY ".toList ++ commaChars SortSpec.chars (spec :: specs))
      (by decide)

theorem orderByOpt_here {specs : List SortSpec} (h : Chain SortSpec.IsWritten n specs m) :
    Reads orderByOpt (Near (orderByChars specs) n) specs (Near [] m) := by
  cases specs with
  | nil =>
    cases h
    exact (tryKeyword_not rfl n).bind (.refl _ _)
  | cons spec specs =>
    have hchars : orderByChars (spec :: specs) = ' ' :: ("ORDER".toList ++ ' ' :: ("BY".toList ++
        ' ' :: (commaChars SortSpec.chars (spec :: specs) ++ []))) := by
      rw [List.append_nil]
      rfl
    rw [hchars, near_blank]
    refine (tryKeyword_here (by decide) (endsWord_blank _) n).bind ?_
    rw [near_blank]
    refine (expectKeyword_here (by decide) (endsWord_blank _) n).bind ?_
    rw [near_blank]
    exact commaSeparated_here sortSpec_here (endsWord_cons rfl) (List.cons_ne_nil _ _) h nofun nofun

/-! ## Statements -/

theorem endOfText_here (n : SelectorId) : Reads endOfText (Near [] n) () (Exactly [] n) := by
  have hno : ∀ c ∈ (afterBlanks []).head?, c ≠ ';' := by
    rintro _ ⟨⟩
  refine (tryChar_not hno).bind (skipBlanks_goes ?_)
  exact get_goes fun total => .refl _ _

end

theorem chars_eq (s : Statement) : s.chars = "SELECT".toList ++ ' ' ::
    (commaChars SelectItem.chars s.select ++ ' ' :: ("FROM".toList ++ ' ' ::
      (s.sources.flatMap Source.chars ++ (filterChars s.filter ++ orderByChars s.orderBy)))) := by
  have hselect : "SELECT ".toList = "SELECT".toList ++ [' '] := rfl
  have hfrom : " FROM ".toList = ' ' :: ("FROM".toList ++ [' ']) := rfl
  have hclauses : s.chars = "SELECT ".toList ++ commaChars SelectItem.chars s.select
      ++ " FROM ".toList ++ s.sources.flatMap Source.chars ++ filterChars s.filter
      ++ orderByChars s.orderBy := rfl
  simp only [hclauses, hselect, hfrom, List.append_assoc, List.cons_append, List.nil_append]

theorem statement_here {s : Statement} (h : s.IsWritten) (text : String) :
    ∃ n, Reads (statement text) (Near s.chars 0) { s with text := text } (Exactly [] n) := by
  obtain ⟨hne, hselect, hfrom, hfilter, horderBy⟩ := h
  rename_i a b c d
  have horder := ends_orderBy s.orderBy
  have hwhere := ends_filter s.filter horder
  have hends : Ends ["FROM"] (' ' :: ("FROM".toList ++ ' ' :: (s.sources.flatMap Source.chars ++
      (filterChars s.filter ++ orderByChars s.orderBy)))) :=
    .word "FROM" _ List.mem_cons_self
  -- Each clause leaves the ids where the next one goes on: 0, `a`, `b`, `c`, `d`.
  refine ⟨d, ?_⟩
  rw [chars_eq]
  refine (expectKeyword_here (by decide) (endsWord_blank _) 0).bind ?_
  rw [near_blank]
  refine (commaSeparated_here selectItem_here noAlias_comma hne hselect
    (hends.noAlias (by decide) (by decide)) (hends.head (by decide) rfl)).bind ?_
  rw [near_blank]
  refine (expectKeyword_here (by decide) (endsWord_blank _) a).bind ?_
  rw [near_blank]
  refine (sourceList_here hfrom hwhere).bind ?_
  refine (filterOpt_here hfilter horder).bind ?_
  refine (orderByOpt_here horderBy).bind ?_
  exact (endOfText_here d).bind (.refl _ _)

/-- What the parser can have read is read again from the form in which it is written. -/
theorem parse_toText_of_isWritten {s : Statement} (h : s.IsWritten) :
    parse s.toText = .ok { s with text := String.ofList (Text.trim s.toText.toList) } := by
  obtain ⟨n, hreads⟩ := statement_here h (String.ofList (Text.trim s.toText.toList))
  have hstart : Near s.chars 0 (.ofText s.toText.toList) :=
    ⟨by rw [toText, String.toList_ofList]; rfl, rfl⟩
  obtain ⟨c, -, hrun⟩ := hreads _ hstart
  rw [parse, StateT.run'_eq, hrun]
  rfl

/-- **Reading undoes writing**: a statement that comes out of the parser comes out again, with all
its trees, literals, aliases and ids, when it is written and read. Only its own text is another. -/
theorem parse_toText_of_parse {text : String} {s : Statement} (h : parse text = .ok s) :
    parse s.toText = .ok { s with text := String.ofList (Text.trim s.toText.toList) } := by
  obtain ⟨hwritten, -⟩ := (parse_outcome text).1 s h
  exact parse_toText_of_isWritten hwritten

/-- A text in another form than the one in which its statement is written. -/
def looseText : String :=
  "select a n from T where not(b=1 or contains('x  -y'))and c in(2)"

/-- The form in which the statement of `looseText` is written. -/
def writtenText : String :=
  "SELECT a AS n FROM T WHERE NOT (b = 1 OR CONTAINS('x -y')) AND c IN (2)"

theorem parse_toText_of_parse_loose : ∃ s, parse looseText = .ok s ∧ s.toText = writtenText ∧
    parse writtenText = .ok { s with text := writtenText } := by
  have hcheck : (parse looseText).toOption.any fun s => s.toText == writtenText := by
    delta looseText
    rw [parse_ofList]
    decide +kernel
  have htrim : String.ofList (Text.trim writtenText.toList) = writtenText := by
    delta writtenText
    rw [String.toList_ofList]
    decide +kernel
  obtain ⟨s, hparse, htext⟩ := exists_of_any_toOption hcheck
  have htext : s.toText = writtenText := beq_iff_eq.1 htext
  have hagain := parse_toText_of_parse hparse
  rw [htext, htrim] at hagain
  exact ⟨s, hparse, htext, hagain⟩

end ContentQuery.Statement
