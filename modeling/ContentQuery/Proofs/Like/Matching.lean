import ContentQuery.Like

/-!
# What a pattern matches

`Like.Matches` says it without tokens and rows: a value, as a whole, splits into parts, and each
part matches the element that the pattern has in its place (`Like.Takes`). The tokens of a pattern
are its elements (`matches_iff_splits`). In matching, the row behind a token holds for each suffix
of the value whether the suffix matches what is left of the pattern (`matchRow_splits`), so that
the first place of the first row is about the whole value (`accepts_iff_splits`).
-/

set_option autoImplicit false

namespace ContentQuery.Like

/-! ## Elements and parts -/

/-- The characters that stand for others. -/
def IsWildCard (c : Char) : Prop := c = '%' ∨ c = '_'

instance (c : Char) : Decidable (IsWildCard c) := inferInstanceAs (Decidable (_ ∨ _))

/-- `Takes pattern rest part`: the first element of a pattern matches a part of a value, and the
pattern goes on with `rest`. A backslash in front of a wild card belongs to it, and in front of
anything else it is a character like others. -/
inductive Takes : List Char → List Char → List Char → Prop
  | sequence (rest part : List Char) : Takes ('%' :: rest) rest part
  | one (rest : List Char) (c : Char) : Takes ('_' :: rest) rest [c]
  | escaped {c : Char} (rest : List Char) : IsWildCard c → Takes ('\\' :: c :: rest) rest [c]
  | plain {c : Char} {rest : List Char} : ¬IsWildCard c →
      (c = '\\' → ∀ d ∈ rest.head?, ¬IsWildCard d) → Takes (c :: rest) rest [c]

/-- A value splits, as a whole, into parts that match a pattern from left to right. -/
inductive Matches : List Char → List Char → Prop
  | nil : Matches [] []
  | append {pattern rest part value : List Char} :
      Takes pattern rest part → Matches rest value → Matches pattern (part ++ value)

/-! ## Tokens -/

/-- The parts of values that a token matches. -/
def Token.Takes : Token → List Char → Prop
  | sequence, _ => True
  | one, part => ∃ c, part = [c]
  | escaped c, part => part = [c]
  | plain c, part => part = [c]

/-- A value splits into parts that tokens match. -/
def Splits : List Token → List Char → Prop
  | [], value => value = []
  | token :: tokens, value => ∃ part rest, value = part ++ rest ∧ token.Takes part ∧
      Splits tokens rest

@[simp] theorem splits_nil {value : List Char} : Splits [] value ↔ value = [] := Iff.rfl

theorem splits_cons {token : Token} {tokens : List Token} {value : List Char} :
    Splits (token :: tokens) value ↔
      ∃ part rest, value = part ++ rest ∧ token.Takes part ∧ Splits tokens rest := Iff.rfl

/-- The tokens of one character and those of the next ones. -/
theorem tokens_cons {c : Char} {rest : List Char} (hc : ¬IsWildCard c)
    (hescape : c = '\\' → ∀ d ∈ rest.head?, ¬IsWildCard d) :
    tokens (c :: rest) = .plain c :: tokens rest := by
  refine tokens.eq_6 c rest ?_ ?_ ?_ ?_
  · rintro tail rfl rfl
    exact hescape rfl '%' rfl (.inl rfl)
  · rintro tail rfl rfl
    exact hescape rfl '_' rfl (.inr rfl)
  · rintro rfl
    exact hc (.inl rfl)
  · rintro rfl
    exact hc (.inr rfl)

theorem tokens_escaped {c : Char} (hc : IsWildCard c) (rest : List Char) :
    tokens ('\\' :: c :: rest) = .escaped c :: tokens rest := by
  rcases hc with rfl | rfl
  · exact tokens_escaped_sequence rest
  · exact tokens_escaped_one rest

/-- The first element of a pattern is its first token. -/
theorem Takes.tokens_eq {pattern rest part : List Char} (h : Takes pattern rest part) :
    ∃ token : Token, Like.tokens pattern = token :: Like.tokens rest ∧ token.Takes part := by
  cases h with
  | sequence => exact ⟨.sequence, tokens_sequence rest, trivial⟩
  | one _ c => exact ⟨.one, tokens_one rest, c, rfl⟩
  | escaped _ hc => exact ⟨.escaped _, tokens_escaped hc rest, rfl⟩
  | plain hc hescape => exact ⟨.plain _, tokens_cons hc hescape, rfl⟩

/-- Each token is an element of the pattern. -/
theorem exists_takes_of_ne_nil {pattern : List Char} (h : pattern ≠ []) :
    ∃ token rest, tokens pattern = token :: tokens rest ∧ rest.length < pattern.length ∧
      ∀ part, token.Takes part → Takes pattern rest part := by
  cases pattern with
  | nil => exact absurd rfl h
  | cons c rest =>
    by_cases hc : IsWildCard c
    · rcases hc with rfl | rfl
      · exact ⟨.sequence, rest, tokens_sequence rest, Nat.lt_succ_self _,
          fun part _ => .sequence rest part⟩
      · refine ⟨.one, rest, tokens_one rest, Nat.lt_succ_self _, ?_⟩
        rintro part ⟨d, rfl⟩
        exact .one rest d
    by_cases hescape : c = '\\' → ∀ d ∈ rest.head?, ¬IsWildCard d
    · refine ⟨.plain c, rest, tokens_cons hc hescape, Nat.lt_succ_self _, ?_⟩
      rintro part rfl
      exact .plain hc hescape
    · -- a backslash in front of a wild card
      obtain ⟨rfl, hnext⟩ := Classical.not_imp.1 hescape
      obtain ⟨d, hd⟩ := Classical.not_forall.1 hnext
      obtain ⟨hd, hwild⟩ := Classical.not_imp.1 hd
      replace hwild := Classical.not_not.1 hwild
      obtain ⟨tail, rfl⟩ := List.head?_eq_some_iff.1 hd
      refine ⟨.escaped d, tail, tokens_escaped hwild tail, ?_, ?_⟩
      · simp only [List.length_cons]
        omega
      · rintro part rfl
        exact .escaped tail hwild

/-- The tokens of a pattern are its elements. -/
theorem matches_iff_splits {pattern value : List Char} :
    Matches pattern value ↔ Splits (tokens pattern) value := by
  constructor
  · intro h
    induction h with
    | nil => rfl
    | append htakes _ ih =>
      obtain ⟨token, htokens, hpart⟩ := htakes.tokens_eq
      rw [htokens]
      exact ⟨_, _, rfl, hpart, ih⟩
  · intro h
    induction hn : pattern.length using Nat.strongRecOn generalizing pattern value with
    | ind n ih =>
      by_cases hne : pattern = []
      · subst hne
        rw [tokens_nil] at h
        rw [splits_nil.1 h]
        exact .nil
      · obtain ⟨token, rest, htokens, hlt, htakes⟩ := exists_takes_of_ne_nil hne
        rw [htokens] at h
        obtain ⟨part, value', rfl, hpart, hrest⟩ := h
        exact .append (htakes part hpart) (ih rest.length (hn ▸ hlt) hrest rfl)

/-! ## Rows -/

variable {value : List Char} {row : List Bool} {P : List Char → Prop}

/-- A row says of each suffix of a value, the longest one first, whether `P` holds of it. -/
def Tells (P : List Char → Prop) : List Char → List Bool → Prop
  | [], row => ∃ b, row = [b] ∧ (b = true ↔ P [])
  | c :: cs, row => ∃ b rest, row = b :: rest ∧ (b = true ↔ P (c :: cs)) ∧ Tells P cs rest

theorem Tells.congr {Q : List Char → Prop} (h : Tells P value row) (hPQ : ∀ s, P s ↔ Q s) :
    Tells Q value row := by
  induction value generalizing row with
  | nil =>
    obtain ⟨b, rfl, hb⟩ := h
    exact ⟨b, rfl, hb.trans (hPQ _)⟩
  | cons c cs ih =>
    obtain ⟨b, rest, rfl, hb, hrest⟩ := h
    exact ⟨b, rest, rfl, hb.trans (hPQ _), ih hrest⟩

theorem Tells.head (h : Tells P value row) : row.head?.getD false = true ↔ P value := by
  cases value with
  | nil =>
    obtain ⟨b, rfl, hb⟩ := h
    exact hb
  | cons c cs =>
    obtain ⟨b, rest, rfl, hb, -⟩ := h
    exact hb

/-- The empty text splits into two empty parts only. -/
theorem exists_split_nil : (∃ part rest, ([] : List Char) = part ++ rest ∧ P rest) ↔ P [] := by
  constructor
  · rintro ⟨part, rest, hsplit, hP⟩
    obtain ⟨rfl, rfl⟩ := List.nil_eq_append_iff.1 hsplit
    exact hP
  · intro hP
    exact ⟨[], [], rfl, hP⟩

/-- Some place of a row is true if `P` holds of what is left behind some part of the value. -/
theorem Tells.any (h : Tells P value row) :
    row.any id = true ↔ ∃ part rest, value = part ++ rest ∧ P rest := by
  induction value generalizing row with
  | nil =>
    obtain ⟨b, rfl, hb⟩ := h
    rw [List.any_cons, List.any_nil, Bool.or_false, id, hb]
    exact exists_split_nil.symm
  | cons c cs ih =>
    obtain ⟨b, rest, rfl, hb, hrest⟩ := h
    rw [List.any_cons, Bool.or_eq_true, ih hrest, id, hb]
    constructor
    · rintro (hP | ⟨part, tail, rfl, hP⟩)
      · exact ⟨[], _, rfl, hP⟩
      · exact ⟨c :: part, tail, rfl, hP⟩
    · rintro ⟨part, tail, hsplit, hP⟩
      cases part with
      | nil => exact .inl (hsplit ▸ hP)
      | cons d part =>
        cases hsplit
        exact .inr ⟨part, tail, rfl, hP⟩

theorem emptyRow_tells (value : List Char) : Tells (· = []) value (emptyRow value) := by
  induction value with
  | nil => exact ⟨true, rfl, by simp⟩
  | cons c cs ih => exact ⟨false, emptyRow cs, rfl, by simp, ih⟩

theorem characterRow_tells (accepts : Char → Bool) (h : Tells P value row) :
    Tells (fun s => ∃ c cs, s = c :: cs ∧ accepts c = true ∧ P cs) value
      (characterRow accepts value row) := by
  induction value generalizing row with
  | nil =>
    obtain ⟨b, rfl, -⟩ := h
    exact ⟨false, rfl, by simp⟩
  | cons c cs ih =>
    obtain ⟨b, rest, rfl, -, hrest⟩ := h
    -- the next place of the row tells of what stands behind the character
    obtain ⟨next, tail, rfl⟩ : ∃ next tail, rest = next :: tail := by
      cases cs with
      | nil =>
        obtain ⟨next, rfl, -⟩ := hrest
        exact ⟨next, [], rfl⟩
      | cons d cs =>
        obtain ⟨next, tail, rfl, -⟩ := hrest
        exact ⟨next, tail, rfl⟩
    have hnext : next = true ↔ P cs := hrest.head
    refine ⟨_, _, rfl, ?_, ih hrest⟩
    rw [Bool.and_eq_true, hnext]
    constructor
    · rintro ⟨hc, hP⟩
      exact ⟨c, cs, rfl, hc, hP⟩
    · rintro ⟨_, _, ⟨⟩, hc, hP⟩
      exact ⟨hc, hP⟩

theorem sequenceRow_tells (h : Tells P value row) :
    Tells (fun s => ∃ part rest, s = part ++ rest ∧ P rest) value (sequenceRow row) := by
  induction value generalizing row with
  | nil =>
    obtain ⟨b, rfl, hb⟩ := h
    refine ⟨_, rfl, ?_⟩
    rw [List.any_nil, Bool.or_false, hb]
    exact exists_split_nil.symm
  | cons c cs ih =>
    have hany := h.any
    obtain ⟨b, rest, rfl, hb, hrest⟩ := h
    exact ⟨_, _, rfl, hany, ih hrest⟩

/-- The row of a token tells of which suffixes the token takes a part and leaves what `P` holds
of. -/
theorem Token.row_tells (token : Token) (h : Tells P value row) :
    Tells (fun s => ∃ part rest, s = part ++ rest ∧ token.Takes part ∧ P rest) value
      (token.row value row) := by
  have hcharacter (accepts : Char → Bool) (htakes : ∀ part, token.Takes part ↔
      ∃ c, part = [c] ∧ accepts c = true) :
      Tells (fun s => ∃ part rest, s = part ++ rest ∧ token.Takes part ∧ P rest) value
        (characterRow accepts value row) := by
    refine (characterRow_tells accepts h).congr fun s => ?_
    simp only [htakes]
    constructor
    · rintro ⟨c, cs, rfl, hc, hP⟩
      exact ⟨[c], cs, rfl, ⟨c, rfl, hc⟩, hP⟩
    · rintro ⟨_, cs, rfl, ⟨c, rfl, hc⟩, hP⟩
      exact ⟨c, cs, rfl, hc, hP⟩
  cases token with
  | sequence =>
    refine (sequenceRow_tells h).congr fun s => ?_
    simp [Token.Takes]
  | one => exact hcharacter (fun _ => true) fun part => by simp [Token.Takes]
  | escaped c => exact hcharacter (· == c) fun part => by simp [Token.Takes]
  | plain c => exact hcharacter (· == c) fun part => by simp [Token.Takes]

/-- The row of a list of tokens tells which suffixes split into parts that the tokens match. -/
theorem matchRow_splits (value : List Char) (tokens : List Token) :
    Tells (Splits tokens) value (matchRow value tokens) := by
  induction tokens with
  | nil => exact emptyRow_tells value
  | cons token tokens ih => exact token.row_tells ih

theorem accepts_iff_splits {pattern value : String} :
    (Pattern.ofText pattern).accepts value = true ↔
      Splits (tokens pattern.toList) value.toList :=
  (matchRow_splits value.toList (tokens pattern.toList)).head

end ContentQuery.Like
