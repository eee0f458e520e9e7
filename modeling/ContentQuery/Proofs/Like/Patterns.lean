import ContentQuery.Proofs.Like.Matching
import Mathlib.Data.List.Chain

/-!
# Patterns for given texts

An escaped text is a pattern for this text alone (`accepts_escape`), whatever backslashes it has.
With a `%` behind it, it is a pattern for all texts that start with it, unless it ends in a
backslash, which would take the `%` for itself. No other pattern can stand in then
(`exists_prefixPattern_iff`): before the first wild card of a pattern there is never a backslash
that stands for itself.
-/

set_option autoImplicit false

namespace ContentQuery.Like

variable {ts us : List Token} {pattern text value : List Char}

theorem splits_append : Splits (ts ++ us) value ↔
    ∃ part rest, value = part ++ rest ∧ Splits ts part ∧ Splits us rest := by
  induction ts generalizing value with
  | nil =>
    constructor
    · intro h
      exact ⟨[], value, rfl, rfl, h⟩
    · rintro ⟨_, rest, rfl, rfl, h⟩
      exact h
  | cons token ts ih =>
    rw [List.cons_append, splits_cons]
    constructor
    · rintro ⟨part, rest, rfl, htakes, hrest⟩
      obtain ⟨part', rest, rfl, hts, hus⟩ := ih.1 hrest
      exact ⟨part ++ part', rest, (List.append_assoc ..).symm, ⟨part, part', rfl, htakes, hts⟩, hus⟩
    · rintro ⟨_, rest, rfl, ⟨part, part', rfl, htakes, hts⟩, hus⟩
      exact ⟨part, part' ++ rest, List.append_assoc .., htakes, ih.2 ⟨part', rest, rfl, hts, hus⟩⟩

/-! ## Escaped texts -/

/-- The token of a character that stands for itself. -/
def literal (c : Char) : Token := if IsWildCard c then .escaped c else .plain c

theorem literal_takes {c : Char} {part : List Char} : (literal c).Takes part ↔ part = [c] := by
  unfold literal
  split <;> exact Iff.rfl

theorem splits_literal_append :
    Splits (text.map literal ++ ts) value ↔ ∃ rest, value = text ++ rest ∧ Splits ts rest := by
  induction text generalizing value with
  | nil => simp
  | cons c cs ih =>
    rw [List.map_cons, List.cons_append, splits_cons]
    constructor
    · rintro ⟨part, _, rfl, htakes, hrest⟩
      obtain ⟨rest, rfl, hts⟩ := ih.1 hrest
      exact ⟨rest, by rw [literal_takes.1 htakes]; rfl, hts⟩
    · rintro ⟨rest, rfl, hts⟩
      exact ⟨[c], cs ++ rest, rfl, literal_takes.2 rfl, ih.2 ⟨rest, rfl, hts⟩⟩

theorem escape_cons_of_isWildCard {c : Char} (h : IsWildCard c) (cs : List Char) :
    escape (c :: cs) = '\\' :: c :: escape cs := by
  rcases h with rfl | rfl <;> rfl

theorem escape_cons_of_not_isWildCard {c : Char} (h : ¬IsWildCard c) (cs : List Char) :
    escape (c :: cs) = c :: escape cs := by
  have hc : (c == '%' || c == '_') = false := by
    rw [Bool.eq_false_iff]
    intro hor
    apply h
    simpa [IsWildCard] using hor
  simp only [escape, List.flatMap_cons, hc, Bool.false_eq_true, if_false, List.singleton_append]

/-- No escaped text starts with a wild card. -/
theorem not_isWildCard_head_escape {d : Char} (h : d ∈ (escape text).head?) : ¬IsWildCard d := by
  cases text with
  | nil => cases h
  | cons c cs =>
    by_cases hc : IsWildCard c
    · rw [escape_cons_of_isWildCard hc] at h
      cases h
      decide
    · rw [escape_cons_of_not_isWildCard hc] at h
      cases h
      exact hc

/-- Each character of an escaped text stands for itself. What follows must not start with a wild
card that a last backslash of the text would take. -/
theorem tokens_escape_append {rest : List Char}
    (h : text.getLast? = some '\\' → ∀ d ∈ rest.head?, ¬IsWildCard d) :
    tokens (escape text ++ rest) = text.map literal ++ tokens rest := by
  induction text with
  | nil => rfl
  | cons c cs ih =>
    have hcs : cs.getLast? = some '\\' → ∀ d ∈ rest.head?, ¬IsWildCard d := by
      intro hlast
      apply h
      rw [List.getLast?_cons, hlast]
      rfl
    by_cases hc : IsWildCard c
    · rw [escape_cons_of_isWildCard hc, List.cons_append, List.cons_append, tokens_escaped hc,
        ih hcs, List.map_cons, literal, if_pos hc, List.cons_append]
    · have hnext : c = '\\' → ∀ d ∈ (escape cs ++ rest).head?, ¬IsWildCard d := by
        rintro rfl d hd
        rw [List.head?_append, Option.mem_def, Option.or_eq_some_iff] at hd
        rcases hd with hd | ⟨hnone, hd⟩
        · exact not_isWildCard_head_escape hd
        · have hnil : cs = [] := by
            cases cs with
            | nil => rfl
            | cons e es =>
              by_cases he : IsWildCard e
              · simp [escape_cons_of_isWildCard he] at hnone
              · simp [escape_cons_of_not_isWildCard he] at hnone
          subst hnil
          exact h rfl d hd
      rw [escape_cons_of_not_isWildCard hc, List.cons_append, tokens_cons hc hnext, ih hcs,
        List.map_cons, literal, if_neg hc, List.cons_append]

theorem accepts_escape {text value : String} :
    (Pattern.ofText (String.ofList (escape text.toList))).accepts value = true ↔ value = text := by
  have htokens : tokens (escape text.toList) = text.toList.map literal ++ [] := by
    have hescape : tokens (escape text.toList ++ []) = text.toList.map literal ++ tokens [] := by
      apply tokens_escape_append
      simp
    rwa [List.append_nil, tokens_nil] at hescape
  rw [accepts_iff_splits, String.toList_ofList, htokens, splits_literal_append]
  constructor
  · rintro ⟨rest, hvalue, rfl⟩
    rw [List.append_nil] at hvalue
    exact String.toList_inj.1 hvalue
  · rintro rfl
    exact ⟨[], (List.append_nil _).symm, rfl⟩

/-! ## Prefixes -/

/-- A text that does not end in a backslash, escaped and with a `%` behind it. -/
theorem accepts_escape_sequence {text value : String} (h : text.toList.getLast? ≠ some '\\') :
    (Pattern.ofText (String.ofList (escape text.toList ++ ['%']))).accepts value = true ↔
      text.toList <+: value.toList := by
  have htokens : tokens (escape text.toList ++ ['%']) =
      text.toList.map literal ++ [Token.sequence] := by
    rw [tokens_escape_append fun hlast => absurd hlast h, tokens_sequence, tokens_nil]
  rw [accepts_iff_splits, String.toList_ofList, htokens, splits_literal_append]
  constructor
  · rintro ⟨rest, hvalue, -⟩
    exact ⟨rest, hvalue.symm⟩
  · rintro ⟨rest, hvalue⟩
    exact ⟨rest, hvalue.symm, rest, [], (List.append_nil _).symm, trivial, rfl⟩

theorem isWildCard_of_escaped_mem {c : Char} (h : .escaped c ∈ tokens pattern) :
    IsWildCard c := by
  fun_induction tokens pattern with
  | case1 => cases h
  | case2 rest ih =>
    rcases List.mem_cons.1 h with h | h
    · cases h
      exact .inl rfl
    · exact ih h
  | case3 rest ih =>
    rcases List.mem_cons.1 h with h | h
    · cases h
      exact .inr rfl
    · exact ih h
  | case4 rest ih | case5 rest ih | case6 _ rest _ _ _ _ ih =>
    rcases List.mem_cons.1 h with h | h
    · cases h
    · exact ih h

theorem isWildCard_head {next : Token} (h : next ∈ (tokens pattern).head?)
    (hnext : next = .sequence ∨ next = .one) : ∃ d ∈ pattern.head?, IsWildCard d := by
  revert h
  fun_cases tokens pattern with
  | case1 => intro h; cases h
  | case2 | case3 | case6 =>
    intro h
    cases h
    rcases hnext with hnext | hnext <;> cases hnext
  | case4 => exact fun _ => ⟨'%', rfl, .inl rfl⟩
  | case5 => exact fun _ => ⟨'_', rfl, .inr rfl⟩

/-- What may follow a token: behind a backslash that stands for itself there is no wild card. -/
def MayFollow (token next : Token) : Prop :=
  token = .plain '\\' → next ≠ .sequence ∧ next ≠ .one

theorem isChain_tokens (pattern : List Char) : (tokens pattern).IsChain MayFollow := by
  fun_induction tokens pattern with
  | case1 => exact .nil
  | case2 rest ih | case3 rest ih | case4 rest ih | case5 rest ih =>
    rw [List.isChain_cons]
    refine ⟨?_, ih⟩
    intro _ _ hplain
    cases hplain
  | case6 c rest hpercent hunderscore _ _ ih =>
    rw [List.isChain_cons]
    refine ⟨?_, ih⟩
    rintro next hnext hplain
    cases hplain
    rw [← not_or]
    intro hwild
    obtain ⟨d, hd, hwild⟩ := isWildCard_head hnext hwild
    obtain ⟨tail, rfl⟩ := List.head?_eq_some_iff.1 hd
    rcases hwild with rfl | rfl
    · exact hpercent tail rfl rfl
    · exact hunderscore tail rfl rfl

theorem Token.Takes.length {token : Token} {part : List Char} (h : token.Takes part)
    (hne : token ≠ .sequence) : part.length = 1 := by
  cases token with
  | sequence => exact absurd rfl hne
  | one =>
    obtain ⟨c, rfl⟩ := h
    rfl
  | escaped c | plain c =>
    cases h
    rfl

theorem Splits.length (h : Splits ts value) (hts : .sequence ∉ ts) :
    value.length = ts.length := by
  induction ts generalizing value with
  | nil => rw [splits_nil.1 h]; rfl
  | cons token ts ih =>
    rw [List.mem_cons, not_or] at hts
    obtain ⟨part, rest, rfl, htakes, hrest⟩ := h
    rw [List.length_append, htakes.length (Ne.symm hts.1), ih hrest hts.2, List.length_cons,
      Nat.add_comm]

/-- A pattern for all texts with one start has a `%`, and what stands before its first `%` is a
pattern for this start. -/
theorem exists_sequence_of_prefix (h : ∀ value, Splits ts value ↔ text <+: value) :
    ∃ front back rest, ts = front ++ .sequence :: back ∧ Splits front text ∧ Splits back rest ∧
      .sequence ∉ front := by
  have hmem : .sequence ∈ ts := by
    by_contra hno
    have hlong := ((h (text ++ ['a'])).2 (List.prefix_append ..)).length hno
    have hshort := ((h text).2 (List.prefix_refl _)).length hno
    rw [List.length_append] at hlong
    simp at hlong hshort
    omega
  obtain ⟨front, back, rfl, hfront⟩ := List.eq_append_cons_of_mem hmem
  obtain ⟨part, tail, htext, hpart, htail⟩ := splits_append.1 ((h text).2 (List.prefix_refl _))
  obtain ⟨_, rest, rfl, -, hrest⟩ := splits_cons.1 htail
  -- anything may stand between the part and the rest, so that no more of the text is tested
  have haccepts (between : List Char) : text <+: part ++ (between ++ rest) :=
    (h _).1 (splits_append.2 ⟨part, between ++ rest, rfl, hpart,
      splits_cons.2 ⟨between, rest, rfl, trivial, hrest⟩⟩)
  cases hcut : _ ++ rest with
  | nil =>
    rw [hcut, List.append_nil] at htext
    subst htext
    exact ⟨front, back, rest, rfl, hpart, hrest, hfront⟩
  | cons d more =>
    exfalso
    rw [hcut] at htext
    have hd := haccepts [if d = 'a' then 'b' else 'a']
    rw [htext, List.prefix_append_right_inj, List.singleton_append, List.cons_prefix_cons] at hd
    have hne := hd.1
    split at hne
    · subst hne
      contradiction
    · contradiction

/-- The last token before the first `%` of a pattern for all texts with one start stands for
itself. -/
theorem plain_of_prefix {front back : List Token} {c : Char} {rest : List Char}
    (h : ∀ value, Splits (front ++ .sequence :: back) value ↔ text ++ [c] <+: value)
    (hfront : Splits front (text ++ [c])) (hback : Splits back rest) (hno : .sequence ∉ front)
    (hc : ¬IsWildCard c) (hescaped : ∀ d, .escaped d ∈ front → IsWildCard d) :
    ∃ init, front = init ++ [Token.plain c] := by
  have hne : front ≠ [] := by
    rintro rfl
    simp at hfront
  obtain ⟨init, token, rfl⟩ := (List.eq_nil_or_concat' front).resolve_left hne
  obtain ⟨part, tail, hsplit, hinit, hlast⟩ := splits_append.1 hfront
  obtain ⟨taken, _, rfl, htakes, rfl⟩ := splits_cons.1 hlast
  have htoken : token ≠ .sequence := by
    rintro rfl
    simp at hno
  obtain ⟨d, rfl⟩ := List.length_eq_one_iff.1 (htakes.length htoken)
  obtain ⟨rfl, hd⟩ := List.append_inj' hsplit rfl
  obtain rfl : c = d := by simpa using hd
  cases token with
  | sequence => exact absurd rfl htoken
  | escaped d =>
    cases htakes
    exact absurd (hescaped c (by simp)) hc
  | plain d =>
    cases htakes
    exact ⟨init, rfl⟩
  | one =>
    -- any other character may stand in the last place
    exfalso
    have hother (d : Char) : text ++ [c] <+: text ++ d :: rest := by
      apply (h _).1
      refine splits_append.2 ⟨text ++ [d], rest, by simp, ?_, ?_⟩
      · exact splits_append.2 ⟨text, [d], rfl, hinit, [d], [], rfl, ⟨d, rfl⟩, rfl⟩
      · exact splits_cons.2 ⟨[], rest, rfl, trivial, hback⟩
    have ha := hother 'a'
    have hb := hother 'b'
    rw [List.prefix_append_right_inj, List.cons_prefix_cons] at ha hb
    have hab : 'a' = 'b' := ha.1.symm.trans hb.1
    contradiction

/-- Before the first `%` of a pattern there is no backslash that stands for itself. -/
theorem not_prefixPattern_of_backslash {text : String} (hlast : text.toList.getLast? = some '\\')
    (pattern : String) : ¬∀ value : String,
      (Pattern.ofText pattern).accepts value = true ↔ text.toList <+: value.toList := by
  intro h
  have hprefix (value : List Char) :
      Splits (tokens pattern.toList) value ↔ text.toList <+: value := by
    have hvalue := h (String.ofList value)
    rwa [accepts_iff_splits, String.toList_ofList] at hvalue
  obtain ⟨init, hinit⟩ := List.getLast?_eq_some_iff.1 hlast
  rw [hinit] at hprefix
  obtain ⟨front, back, rest, htokens, hfront, hback, hno⟩ := exists_sequence_of_prefix hprefix
  rw [htokens] at hprefix
  have hescaped (d : Char) (hd : .escaped d ∈ front) : IsWildCard d := by
    have hmem : .escaped d ∈ tokens pattern.toList := htokens ▸ List.mem_append_left _ hd
    exact isWildCard_of_escaped_mem hmem
  obtain ⟨before, rfl⟩ := plain_of_prefix hprefix hfront hback hno (by decide) hescaped
  have hchain := isChain_tokens pattern.toList
  rw [htokens, List.append_assoc, List.singleton_append, List.isChain_append_cons_cons] at hchain
  exact (hchain.2.1 rfl).1 rfl

/-- There is a pattern for all texts that start with a given one unless this ends in a
backslash. -/
theorem exists_prefixPattern_iff (text : String) :
    (∃ pattern : String, ∀ value : String,
      (Pattern.ofText pattern).accepts value = true ↔ text.toList <+: value.toList) ↔
      text.toList.getLast? ≠ some '\\' := by
  constructor
  · rintro ⟨pattern, h⟩ hlast
    exact not_prefixPattern_of_backslash hlast pattern h
  · intro h
    exact ⟨_, fun value => accepts_escape_sequence h⟩

/-- No pattern is for the texts that start with a backslash. -/
theorem no_prefixPattern_backslash : ¬∃ pattern : String, ∀ value : String,
    (Pattern.ofText pattern).accepts value = true ↔ "\\".toList <+: value.toList := by
  rintro ⟨pattern, h⟩
  exact not_prefixPattern_of_backslash rfl pattern h

end ContentQuery.Like
