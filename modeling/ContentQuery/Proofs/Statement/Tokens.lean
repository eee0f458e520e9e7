import ContentQuery.Statement.Parser
import Mathlib.Data.List.DropRight
import Mathlib.Data.List.TakeWhile

/-!
# Tokens as texts

A token is what its reader takes off the front of a text, and the reader takes it again from the
token alone and with anything behind it that does not run into it: `IsName` for identifiers,
`IsQuoted` for string literals, `IsNumber` for numbers. Every string literal decodes
(`unquote?_of_isQuoted`), and a text in quotes is a literal of this text (`isQuoted_quote`,
`unquote?_quote`).
-/

set_option autoImplicit false

namespace ContentQuery

namespace Statement

/-! ## Blanks -/

/-- A text from the first character on that is no white space. -/
def afterBlanks (cs : List Char) : List Char := cs.dropWhile Text.isBlank

theorem afterBlanks_of_not_blank {c : Char} (h : Text.isBlank c = false) (cs : List Char) :
    afterBlanks (c :: cs) = c :: cs := by
  rw [afterBlanks, List.dropWhile_cons_of_neg (by simp [h])]

@[simp] theorem afterBlanks_nil : afterBlanks [] = [] := rfl

@[simp] theorem afterBlanks_blank (cs : List Char) : afterBlanks (' ' :: cs) = afterBlanks cs := rfl

@[simp] theorem afterBlanks_afterBlanks (cs : List Char) :
    afterBlanks (afterBlanks cs) = afterBlanks cs :=
  List.dropWhile_idempotent _ _

theorem length_afterBlanks_le (cs : List Char) : (afterBlanks cs).length ≤ cs.length :=
  (List.dropWhile_sublist _).length_le

/-- The white space of ASCII. -/
def blankCodes : List Nat := [0x9, 0xa, 0xb, 0xc, 0xd, 0x20]

/-- The ranges of white space above ASCII. -/
def blankRanges : List (Nat × Nat) :=
  [(0x85, 0x85), (0xa0, 0xa0), (0x1680, 0x1680), (0x2000, 0x200a), (0x2028, 0x2029),
    (0x202f, 0x202f), (0x205f, 0x205f), (0x3000, 0x3000)]

theorem mem_blankCodes_or_inRanges {c : Char} (h : Text.isBlank c = true) :
    c.toNat ∈ blankCodes ∨ 0x80 ≤ c.toNat ∧ Text.inRanges blankRanges c.toNat = true := by
  simp only [Text.isBlank, Bool.or_eq_true, Bool.and_eq_true, decide_eq_true_eq, beq_iff_eq,
    or_assoc] at h
  simp only [blankCodes, List.mem_cons, List.not_mem_nil, or_false, Text.inRanges, blankRanges,
    List.any_cons, List.any_nil, Bool.or_false, Bool.or_eq_true, Bool.and_eq_true,
    decide_eq_true_eq]
  rcases h with h | h | h
  · left
    omega
  · left
    omega
  · right
    constructor
    · omega
    · rcases h with h | h | h | h | h | h | h | h | h <;> omega

/-- Whether no code point lies in ranges of both lists. -/
def apart (rs qs : List (Nat × Nat)) : Bool :=
  rs.all fun r => qs.all fun q => Nat.blt r.2 q.1 || Nat.blt q.2 r.1

theorem inRanges_of_apart {rs qs : List (Nat × Nat)} (h : apart rs qs = true) {n : Nat}
    (hn : Text.inRanges rs n = true) : Text.inRanges qs n = false := by
  rw [Text.inRanges, List.any_eq_true] at hn
  obtain ⟨r, hr, hn⟩ := hn
  rw [Text.inRanges, List.any_eq_false]
  intro q hq hin
  have hpair := List.all_eq_true.1 (List.all_eq_true.1 h r hr) q hq
  simp only [Bool.or_eq_true, Nat.blt_eq, Bool.and_eq_true, decide_eq_true_eq] at hpair hn hin
  omega

/-- White space ends an identifier. -/
theorem continuesIdentifier_of_isBlank {c : Char} (h : Text.isBlank c = true) :
    continuesIdentifier c = false := by
  rcases mem_blankCodes_or_inRanges h with hcode | ⟨hwide, hrange⟩
  · have hcodes : ∀ n ∈ blankCodes, continuesIdentifier (Char.ofNat n) = false := by decide
    have hno := hcodes _ hcode
    rwa [Char.ofNat_toNat] at hno
  · have hapart : apart blankRanges (Text.alphabeticRanges ++ Text.numericRanges) = true := by
      decide +kernel
    have hno := inRanges_of_apart hapart hrange
    have hword : Text.isAlphanumeric c = false := by
      rw [Text.isAlphanumeric, if_neg (Nat.not_lt.2 hwide), ← hno, Text.inRanges, Text.inRanges,
        Text.inRanges, List.any_append]
    have hmark : ∀ mark : Char, mark.toNat < 0x80 → (c == mark) = false := by
      intro mark hmark
      rw [beq_eq_false_iff_ne]
      rintro rfl
      omega
    rw [continuesIdentifier, hword, hmark '_' (by decide), hmark ':' (by decide)]
    rfl

theorem continuesIdentifier_of_startsIdentifier {c : Char} (h : startsIdentifier c = true) :
    continuesIdentifier c = true := by
  rw [startsIdentifier, Bool.or_eq_true] at h
  rw [continuesIdentifier, Bool.or_eq_true, Bool.or_eq_true]
  refine .inl (h.imp_left fun hletter => ?_)
  rw [Text.isAlphabetic] at hletter
  rw [Text.isAlphanumeric]
  split
  · rename_i hascii
    rw [if_pos hascii] at hletter
    rw [Char.isAlphanum, hletter, Bool.true_or]
  · rename_i hascii
    rw [if_neg hascii] at hletter
    rw [hletter, Bool.true_or]

/-- No identifier starts with white space. -/
theorem isBlank_of_startsIdentifier {c : Char} (h : startsIdentifier c = true) :
    Text.isBlank c = false := by
  cases hb : Text.isBlank c with
  | false => rfl
  | true =>
    have hno := continuesIdentifier_of_isBlank hb
    rw [continuesIdentifier_of_startsIdentifier h] at hno
    cases hno

/-! ## Identifiers -/

/-- A text that is one identifier. -/
def IsName (name : String) : Prop := name.toList ≠ [] ∧ wordAt name.toList = name.toList

instance (name : String) : Decidable (IsName name) := inferInstanceAs (Decidable (_ ∧ _))

/-- No identifier goes on in this text. -/
def EndsWord (cs : List Char) : Prop := ∀ c ∈ cs.head?, continuesIdentifier c = false

theorem endsWord_cons {c : Char} (h : continuesIdentifier c = false) (cs : List Char) :
    EndsWord (c :: cs) := by
  rintro _ ⟨⟩
  exact h

theorem endsWord_blank (cs : List Char) : EndsWord (' ' :: cs) := endsWord_cons rfl cs

/-- An identifier is a first character and others that continue it. -/
theorem isName_iff {name : String} : IsName name ↔
    ∃ c cs, name.toList = c :: cs ∧ startsIdentifier c = true ∧
      ∀ d ∈ cs, continuesIdentifier d = true := by
  unfold IsName
  cases name.toList with
  | nil => simp
  | cons c cs =>
    rw [wordAt]
    cases hc : startsIdentifier c with
    | false => simp [hc]
    | true => simp [hc, List.takeWhile_eq_self_iff]

theorem wordAt_append {name : String} (h : IsName name) {cs : List Char} (hcs : EndsWord cs) :
    wordAt (name.toList ++ cs) = name.toList := by
  obtain ⟨c, others, hname, hc, hothers⟩ := isName_iff.1 h
  have hend : cs.takeWhile continuesIdentifier = [] := by
    cases cs with
    | nil => rfl
    | cons d ds =>
      have hd := hcs d rfl
      simp [hd]
  rw [hname, List.cons_append, wordAt, if_pos hc,
    List.takeWhile_append_of_pos (by simpa using hothers), hend, List.append_nil]

/-- The identifier that a text starts with, alone. -/
theorem isName_of_wordAt {cs : List Char} (h : wordAt cs ≠ []) :
    IsName (String.ofList (wordAt cs)) := by
  refine isName_iff.2 ?_
  rw [String.toList_ofList]
  cases cs with
  | nil => exact absurd rfl h
  | cons c cs =>
    rw [wordAt] at h ⊢
    by_cases hc : startsIdentifier c = true
    · rw [if_pos hc]
      exact ⟨c, _, rfl, hc, fun d hd => List.mem_takeWhile_imp hd⟩
    · rw [if_neg hc] at h
      exact absurd rfl h

theorem afterBlanks_name {name : String} (h : IsName name) (cs : List Char) :
    afterBlanks (name.toList ++ cs) = name.toList ++ cs := by
  obtain ⟨c, others, hname, hc, -⟩ := isName_iff.1 h
  rw [hname]
  exact afterBlanks_of_not_blank (isBlank_of_startsIdentifier hc) _

theorem keywordAt_append {name : String} (h : IsName name) {cs : List Char} (hcs : EndsWord cs)
    (word : String) : keywordAt word (name.toList ++ cs) = Literal.isWord word name.toList := by
  have hne : name.toList.isEmpty = false := by
    rw [List.isEmpty_eq_false_iff]
    exact h.1
  simp only [keywordAt, wordAt_append h hcs, hne, Bool.not_false, Bool.true_and]

/-- No keyword stands where no identifier does. -/
theorem keywordAt_of_not_starts {c : Char} (h : startsIdentifier c = false) (word : String)
    (cs : List Char) : keywordAt word (c :: cs) = false := by
  simp [keywordAt, wordAt, h]

/-! ## Text between quotes -/

/-- Splits a text after the first quote character that is not escaped. -/
def splitClosing? (quote : Char) : List Char → Option (List Char × List Char)
  | [] => none
  | '\\' :: c :: rest =>
    (splitClosing? quote rest).map fun (body, rest) => ('\\' :: c :: body, rest)
  | c :: rest =>
    if c == quote then some ([c], rest)
    else (splitClosing? quote rest).map fun (body, rest) => (c :: body, rest)

theorem splitQuoted?_eq (cs : List Char) : splitQuoted? cs = splitClosing? '\'' cs := by
  induction cs using splitQuoted?.induct with
  | case1 => rfl
  | case2 c rest ih => rw [splitQuoted?, splitClosing?, ih]
  | case3 c rest hescape hc =>
    rw [splitQuoted?.eq_3 _ _ hescape, splitClosing?.eq_3 _ _ _ hescape, if_pos hc, if_pos hc]
  | case4 c rest hescape hc ih =>
    rw [splitQuoted?.eq_3 _ _ hescape, splitClosing?.eq_3 _ _ _ hescape, if_neg hc, if_neg hc, ih]

theorem splitPhrase?_eq (cs : List Char) : FullText.splitPhrase? cs = splitClosing? '"' cs := by
  induction cs using FullText.splitPhrase?.induct with
  | case1 => rfl
  | case2 c rest ih => rw [FullText.splitPhrase?, splitClosing?, ih]
  | case3 c rest hescape hc =>
    rw [FullText.splitPhrase?.eq_3 _ _ hescape, splitClosing?.eq_3 _ _ _ hescape, if_pos hc,
      if_pos hc]
  | case4 c rest hescape hc ih =>
    rw [FullText.splitPhrase?.eq_3 _ _ hescape, splitClosing?.eq_3 _ _ _ hescape, if_neg hc,
      if_neg hc, ih]

/-- What stands behind an opening quote up to the closing one. -/
inductive Closes (quote : Char) : List Char → Prop
  | quote : Closes quote [quote]
  | escaped (c : Char) {token : List Char} :
      Closes quote token → Closes quote ('\\' :: c :: token)
  | plain {c : Char} {token : List Char} :
      c ≠ '\\' → c ≠ quote → Closes quote token → Closes quote (c :: token)

theorem splitClosing?_eq_some {quote : Char} {cs token rest : List Char}
    (h : splitClosing? quote cs = some (token, rest)) :
    Closes quote token ∧ cs = token ++ rest := by
  induction cs using splitClosing?.induct quote generalizing token rest with
  | case1 => cases h
  | case2 c tail ih =>
    rw [splitClosing?] at h
    obtain ⟨⟨body, rest'⟩, hbody, h⟩ := Option.map_eq_some_iff.1 h
    cases h
    obtain ⟨hcloses, rfl⟩ := ih hbody
    exact ⟨.escaped c hcloses, rfl⟩
  | case3 c tail hescape hc =>
    rw [splitClosing?.eq_3 _ _ _ hescape, if_pos hc] at h
    cases h
    obtain rfl : c = quote := by simpa using hc
    exact ⟨.quote, rfl⟩
  | case4 c tail hescape hc ih =>
    rw [splitClosing?.eq_3 _ _ _ hescape, if_neg hc] at h
    obtain ⟨⟨token, rest⟩, hbody, h⟩ := Option.map_eq_some_iff.1 h
    cases h
    obtain ⟨hcloses, rfl⟩ := ih hbody
    refine ⟨.plain ?_ (by simpa using hc) hcloses, rfl⟩
    -- A backslash at the end of the text does not get here: nothing closes the quote.
    rintro rfl
    cases htail : token ++ rest with
    | nil => rw [htail] at hbody; cases hbody
    | cons d tail => exact hescape d tail rfl htail

namespace Closes

variable {quote : Char} {token : List Char}

theorem split (h : Closes quote token) (hquote : quote ≠ '\\') (rest : List Char) :
    splitClosing? quote (token ++ rest) = some (token, rest) := by
  induction h with
  | quote =>
    rw [List.singleton_append, splitClosing?.eq_3 _ _ _ (fun _ _ h _ => hquote h),
      if_pos (by simp)]
  | escaped c _ ih =>
    rw [List.cons_append, List.cons_append, splitClosing?, ih]
    rfl
  | plain hescape hother _ ih =>
    rw [List.cons_append, splitClosing?.eq_3 _ _ _ (fun _ _ h _ => hescape h),
      if_neg (by simpa), ih]
    rfl

theorem ne_nil (h : Closes quote token) : token ≠ [] := by
  rintro rfl
  cases h

theorem getLast? (h : Closes quote token) : token.getLast? = some quote := by
  induction h with
  | quote => rfl
  | escaped c _ ih => simp [List.getLast?_cons, ih]
  | plain _ _ _ ih => simp [List.getLast?_cons, ih]

end Closes

/-! ## String literals -/

/-- A text that is one string literal with its quotes. -/
def IsQuoted (raw : String) : Prop := ∃ token, raw.toList = '\'' :: token ∧ Closes '\'' token

/-- Every string literal decodes. -/
theorem Closes.unescape {token : List Char} (h : Closes '\'' token) :
    ∃ cs, Literal.unescapeQuoted token.dropLast = .ok cs := by
  induction h with
  | quote => exact ⟨[], rfl⟩
  | @escaped c token hcloses ih =>
    obtain ⟨cs, hcs⟩ := ih
    rw [List.dropLast_cons_of_ne_nil (List.cons_ne_nil _ _),
      List.dropLast_cons_of_ne_nil hcloses.ne_nil, Literal.unescapeQuoted, hcs]
    exact ⟨_, rfl⟩
  | @plain c token hescape hquote hcloses ih =>
    obtain ⟨cs, hcs⟩ := ih
    rw [List.dropLast_cons_of_ne_nil hcloses.ne_nil,
      Literal.unescapeQuoted.eq_4 _ _ (fun h _ => hescape h) (fun _ _ h _ => hescape h),
      if_neg (by simpa), hcs]
    exact ⟨_, rfl⟩

theorem unquote?_of_isQuoted {raw : String} (h : IsQuoted raw) :
    ∃ text, Literal.unquote? raw = .ok text := by
  obtain ⟨token, hraw, hcloses⟩ := h
  obtain ⟨cs, hcs⟩ := hcloses.unescape
  have henclosed : Literal.enclosed? '\'' raw.toList = some token.dropLast := by
    simp [hraw, Literal.enclosed?, hcloses.getLast?]
  refine ⟨String.ofList cs, ?_⟩
  simp only [Literal.unquote?, henclosed, hcs]

/-! ## Quoting -/

theorem closes_escapeQuoted (cs : List Char) :
    Closes '\'' (Literal.escapeQuoted cs ++ ['\'']) := by
  unfold Literal.escapeQuoted
  induction cs with
  | nil => exact .quote
  | cons c cs ih =>
    rw [List.flatMap_cons, List.append_assoc]
    by_cases hc : (c == '\\' || c == '\'') = true
    · rw [if_pos hc]
      exact .escaped c ih
    · rw [if_neg hc]
      simp only [Bool.or_eq_true, beq_iff_eq, not_or] at hc
      exact .plain hc.1 hc.2 ih

theorem unescapeQuoted_escapeQuoted (cs : List Char) :
    Literal.unescapeQuoted (Literal.escapeQuoted cs) = .ok cs := by
  unfold Literal.escapeQuoted
  induction cs with
  | nil => rfl
  | cons c cs ih =>
    rw [List.flatMap_cons]
    by_cases hc : (c == '\\' || c == '\'') = true
    · have hc' : (c == '\'' || c == '\\') = true := by rwa [Bool.or_comm]
      rw [if_pos hc, List.cons_append, List.singleton_append, Literal.unescapeQuoted, ih]
      simp only [Except.map, if_pos hc']
    · rw [if_neg hc]
      simp only [Bool.or_eq_true, beq_iff_eq, not_or] at hc
      rw [List.singleton_append, Literal.unescapeQuoted.eq_4 _ _ (fun h _ => hc.1 h)
        (fun _ _ h _ => hc.1 h), if_neg (by simpa using hc.2), ih]
      rfl

theorem isQuoted_quote (s : String) : IsQuoted (Literal.quote s) :=
  ⟨_, by rw [Literal.quote, String.toList_ofList]; rfl, closes_escapeQuoted s.toList⟩

theorem unquote?_quote (s : String) : Literal.unquote? (Literal.quote s) = .ok s := by
  have henclosed : Literal.enclosed? '\'' (Literal.quote s).toList =
      some (Literal.escapeQuoted s.toList) := by
    simp [Literal.quote, Literal.enclosed?]
  simp only [Literal.unquote?, henclosed, unescapeQuoted_escapeQuoted, String.ofList_toList]

/-! ## Numbers -/

def isPlace (c : Char) : Bool := c.isDigit || c == '.'

def isMark (c : Char) : Bool := c == 'e' || c == 'E'

def isSign (c : Char) : Bool := c == '+' || c == '-'

/-- Digits, points and exponent marks, each mark with or without a sign. -/
inductive NumberTail : List Char → Prop
  | nil : NumberTail []
  | place {c : Char} {tail : List Char} :
      isPlace c = true → NumberTail tail → NumberTail (c :: tail)
  | mark {c : Char} {tail : List Char} :
      isPlace c = false → isMark c = true → NumberTail tail → NumberTail (c :: tail)
  | signed {c s : Char} {tail : List Char} : isPlace c = false → isMark c = true →
      isSign s = true → NumberTail tail → NumberTail (c :: s :: tail)

/-- A text that is one number, as the parser takes it: a sign alone is one as well. -/
def IsNumber (raw : String) : Prop :=
  raw.toList ≠ [] ∧ ∃ sign tail, raw.toList = sign ++ tail ∧ sign ∈ [[], ['+'], ['-']] ∧
    NumberTail tail

theorem isBlank_of_isDigit {c : Char} (h : c.isDigit = true) : Text.isBlank c = false := by
  simp only [Char.isDigit, Bool.and_eq_true, decide_eq_true_eq] at h
  obtain ⟨h0, h9⟩ := h
  have h0 : 48 ≤ c.toNat := h0
  have h9 : c.toNat ≤ 57 := h9
  simp [Text.isBlank]
  omega

theorem startsIdentifier_of_isDigit {c : Char} (h : c.isDigit = true) :
    startsIdentifier c = false := by
  have hcodes : ∀ n ∈ List.range' 48 10, startsIdentifier (Char.ofNat n) = false := by decide
  simp only [Char.isDigit, Bool.and_eq_true, decide_eq_true_eq] at h
  obtain ⟨h0, h9⟩ := h
  have h0 : 48 ≤ c.toNat := h0
  have h9 : c.toNat ≤ 57 := h9
  have hno := hcodes c.toNat (List.mem_range'_1.2 ⟨h0, by omega⟩)
  rwa [Char.ofNat_toNat] at hno

/-- A number starts with a digit, a point, an exponent mark or a sign. -/
theorem IsNumber.head {raw : String} (h : IsNumber raw) :
    ∃ c cs, raw.toList = c :: cs ∧ (isPlace c = true ∨ isMark c = true ∨ isSign c = true) := by
  obtain ⟨hne, sign, tail, hraw, hsign, htail⟩ := h
  simp only [List.mem_cons, List.not_mem_nil, or_false] at hsign
  rcases hsign with rfl | rfl | rfl
  · cases htail with
    | nil => exact absurd hraw hne
    | place hc => exact ⟨_, _, hraw, .inl hc⟩
    | mark _ hc => exact ⟨_, _, hraw, .inr (.inl hc)⟩
    | signed _ hc => exact ⟨_, _, hraw, .inr (.inl hc)⟩
  · exact ⟨_, _, hraw, .inr (.inr rfl)⟩
  · exact ⟨_, _, hraw, .inr (.inr rfl)⟩

/-- A number starts with neither white space nor a quote. -/
theorem number_head_plain {c : Char} (h : isPlace c = true ∨ isMark c = true ∨ isSign c = true) :
    Text.isBlank c = false ∧ c ≠ '\'' := by
  simp only [isPlace, isMark, isSign, Bool.or_eq_true, beq_iff_eq] at h
  rcases h with (hdigit | rfl) | (rfl | rfl) | (rfl | rfl)
  · refine ⟨isBlank_of_isDigit hdigit, ?_⟩
    rintro rfl
    cases hdigit
  all_goals exact ⟨rfl, by decide⟩

/-- No number goes on in this text. -/
def EndsNumber (cs : List Char) : Prop :=
  ∀ c ∈ cs.head?, isPlace c = false ∧ isMark c = false ∧ isSign c = false

theorem splitNumber_eq {cs token rest : List Char} (h : splitNumber cs = (token, rest)) :
    NumberTail token := by
  induction cs using splitNumber.induct generalizing token rest with
  | case1 =>
    cases h
    exact .nil
  | case2 c cs hc tail rest' htail ih =>
    rw [splitNumber.eq_def] at h
    simp only [if_pos hc, htail] at h
    cases h
    exact .place hc (ih htail)
  | case3 c hc hmark =>
    rw [splitNumber.eq_def] at h
    simp only [if_neg hc, if_pos hmark] at h
    cases h
    exact .mark (by simpa [isPlace] using hc) hmark .nil
  | case4 c hc hmark s cs hs tail rest' htail ih =>
    rw [splitNumber.eq_def] at h
    simp only [if_neg hc, if_pos hmark, if_pos hs, htail] at h
    cases h
    exact .signed (by simpa [isPlace] using hc) hmark hs (ih htail)
  | case5 c hc hmark s cs hs tail rest' htail ih =>
    rw [splitNumber.eq_def] at h
    simp only [if_neg hc, if_pos hmark, if_neg hs, htail] at h
    cases h
    exact .mark (by simpa [isPlace] using hc) hmark (ih htail)
  | case6 c cs hc hmark =>
    rw [splitNumber.eq_def] at h
    simp only [if_neg hc, if_neg hmark] at h
    cases h
    exact .nil

theorem splitNumber_append (cs : List Char) :
    (Statement.splitNumber cs).1 ++ (Statement.splitNumber cs).2 = cs := by
  induction cs using splitNumber.induct with
  | case1 => rfl
  | case2 c cs hc tail rest htail ih =>
    rw [htail] at ih
    rw [splitNumber.eq_def]
    simp only [if_pos hc, htail, List.cons_append, ih]
  | case3 c hc hmark =>
    rw [splitNumber.eq_def]
    simp only [if_neg hc, if_pos hmark, List.append_nil]
  | case4 c hc hmark s cs hs tail rest htail ih =>
    rw [htail] at ih
    rw [splitNumber.eq_def]
    simp only [if_neg hc, if_pos hmark, if_pos hs, htail, List.cons_append, ih]
  | case5 c hc hmark s cs hs tail rest htail ih =>
    rw [htail] at ih
    rw [splitNumber.eq_def]
    simp only [if_neg hc, if_pos hmark, if_neg hs, htail, List.cons_append, ih]
  | case6 c cs hc hmark =>
    rw [splitNumber.eq_def]
    simp only [if_neg hc, if_neg hmark, List.nil_append]

theorem isSign_eq_false {c : Char} (h : isPlace c = true ∨ isMark c = true) : isSign c = false := by
  cases hs : isSign c with
  | false => rfl
  | true =>
    simp only [isSign, Bool.or_eq_true, beq_iff_eq] at hs
    rcases hs with rfl | rfl <;> simp [isPlace, isMark] at h

/-- A sign stands at the start of a number or behind an exponent mark. -/
theorem NumberTail.head_not_sign {tail : List Char} (h : NumberTail tail) :
    ∀ c ∈ tail.head?, isSign c = false := by
  intro c hc
  cases h with
  | nil => cases hc
  | place hplace => cases hc; exact isSign_eq_false (.inl hplace)
  | mark _ hmark => cases hc; exact isSign_eq_false (.inr hmark)
  | signed _ hmark => cases hc; exact isSign_eq_false (.inr hmark)

theorem NumberTail.splitNumber {tail : List Char} (h : NumberTail tail) {k : List Char}
    (hk : EndsNumber k) : splitNumber (tail ++ k) = (tail, k) := by
  induction h with
  | nil =>
    cases k with
    | nil => rfl
    | cons d k =>
      obtain ⟨hplace, hmark, -⟩ := hk d rfl
      rw [List.nil_append, splitNumber.eq_def]
      simp only [isPlace, isMark] at hplace hmark
      simp only [hplace, hmark, Bool.false_eq_true, if_false]
  | @place c tail hc _ ih =>
    rw [List.cons_append, splitNumber.eq_def]
    simp only [isPlace] at hc
    simp only [if_pos hc, ih]
  | @mark c tail hc hmark htail ih =>
    have hsign : ∀ s ∈ (tail ++ k).head?, isSign s = false := by
      cases tail with
      | nil => exact fun s hs => (hk s hs).2.2
      | cons d tail => exact htail.head_not_sign
    simp only [isPlace, isMark] at hc hmark
    rw [List.cons_append, splitNumber.eq_def]
    simp only [hc, hmark, Bool.false_eq_true, if_false, if_true]
    cases hcs : tail ++ k with
    | nil =>
      obtain ⟨rfl, rfl⟩ := List.append_eq_nil_iff.1 hcs
      rfl
    | cons s cs =>
      have hs := hsign s (by rw [hcs]; rfl)
      simp only [isSign] at hs
      rw [hcs] at ih
      simp only [hs, ih, Bool.false_eq_true, if_false]
  | @signed c s tail hc hmark hs _ ih =>
    simp only [isPlace, isMark, isSign] at hc hmark hs
    rw [List.cons_append, List.cons_append, splitNumber.eq_def]
    simp only [hc, hmark, hs, ih, Bool.false_eq_true, if_false, if_true]

theorem splitSignedNumber_append (cs : List Char) :
    (splitSignedNumber cs).1 ++ (splitSignedNumber cs).2 = cs := by
  cases cs with
  | nil => rfl
  | cons c cs =>
    rw [splitSignedNumber]
    split
    · simp only [List.cons_append, splitNumber_append]
    · exact splitNumber_append _

theorem isNumber_of_split {cs token rest : List Char}
    (h : splitSignedNumber cs = (token, rest)) (hne : token ≠ []) :
    IsNumber (String.ofList token) := by
  unfold IsNumber
  rw [String.toList_ofList]
  refine ⟨hne, ?_⟩
  cases cs with
  | nil => cases h; exact absurd rfl hne
  | cons c cs =>
    rw [splitSignedNumber] at h
    by_cases hc : (c == '+' || c == '-') = true
    · rw [if_pos hc] at h
      cases h
      refine ⟨[c], _, rfl, ?_, splitNumber_eq rfl⟩
      simpa [List.mem_cons] using hc
    · rw [if_neg hc] at h
      exact ⟨[], token, rfl, List.mem_cons_self, splitNumber_eq h⟩

theorem IsNumber.split {raw : String} (h : IsNumber raw) {k : List Char} (hk : EndsNumber k) :
    splitSignedNumber (raw.toList ++ k) = (raw.toList, k) := by
  obtain ⟨hne, sign, tail, hraw, hsign, htail⟩ := h
  rw [hraw] at hne ⊢
  have hsplit := htail.splitNumber hk
  simp only [List.mem_cons, List.not_mem_nil, or_false] at hsign
  rcases hsign with rfl | rfl | rfl
  · rw [List.nil_append] at hne ⊢
    cases tail with
    | nil => exact absurd rfl hne
    | cons c tail =>
      have hc := htail.head_not_sign c rfl
      simp only [isSign] at hc
      rw [List.cons_append] at hsplit ⊢
      rw [splitSignedNumber, if_neg (by simp [hc]), hsplit]
  · show splitSignedNumber ('+' :: (tail ++ k)) = _
    rw [splitSignedNumber, hsplit]
    rfl
  · show splitSignedNumber ('-' :: (tail ++ k)) = _
    rw [splitSignedNumber, hsplit]
    rfl

end Statement

end ContentQuery
