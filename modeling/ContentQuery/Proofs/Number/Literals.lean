import ContentQuery.Literal
import ContentQuery.Proofs.Number.Spelling

/-!
# Numbers as literals

The literal of a spelling is an integer if there is neither a point nor an exponent, and else a
decimal. `NumberSpelling.exists_number?` says which number it is.
-/

set_option autoImplicit false

namespace ContentQuery

open Decimal

namespace Literal

theorem isWord_eq_false {word : String} {c letter : Char} {cs rest : List Char}
    (hword : word.toList.map Char.toLower = letter :: rest) (hc : c.toLower ≠ letter) :
    isWord word (c :: cs) = false := by
  rw [isWord, hword, beq_eq_false_iff_ne]
  exact fun h => hc (List.cons.inj h).1

/-- A literal that starts like a number is a number or nothing. -/
theorem value?_of_trim {text : String} {c : Char} {cs : List Char}
    (htrim : Text.trim text.toList = c :: cs) (hc : c.isDigit = true ∨ c = '+' ∨ c = '-') :
    value? text = (number? (c :: cs)).elim (.error ⟨text, .unrecognized⟩) .ok := by
  have hletters : (c.toLower != 't' && c.toLower != 'f' && c != '\'') = true := by
    rcases hc with hdigit | rfl | rfl
    · exact Text.of_isDigit (fun c => c.toLower != 't' && c.toLower != 'f' && c != '\'') (by decide)
        hdigit
    · rfl
    · rfl
  rw [Bool.and_eq_true, Bool.and_eq_true, bne_iff_ne, bne_iff_ne, bne_iff_ne] at hletters
  obtain ⟨⟨ht, hf⟩, hquote⟩ := hletters
  have htrue : isWord "TRUE" (c :: cs) = false := isWord_eq_false rfl ht
  have hfalse : isWord "FALSE" (c :: cs) = false := isWord_eq_false rfl hf
  have htimestamp : afterTimestampWord? (c :: cs) = none := by
    have hword : isWord "TIMESTAMP" ((c :: cs).take 9) = false := isWord_eq_false rfl ht
    unfold afterTimestampWord?
    dsimp only
    rw [hword, Bool.false_and, if_neg Bool.false_ne_true]
  have hhead : ((c :: cs).head? == some '\'') = false := by simpa using hquote
  simp only [value?, htrim, List.isEmpty_cons, htrue, hfalse, htimestamp, hhead,
    Bool.false_eq_true, if_false]
  cases number? (c :: cs) <;> rfl

end Literal

/-- The integers of 64 bits. -/
theorem int64?_eq_some_iff {i : Int} {n : Int64} : int64? i = some n ↔ n.toInt = i := by
  unfold int64?
  split
  · rename_i hbounds
    have htoInt : (Int64.ofInt i).toInt = i :=
      Int64.toInt_ofInt_of_le hbounds.1 (Int.lt_add_one_of_le hbounds.2)
    rw [Option.some.injEq]
    constructor
    · rintro rfl
      exact htoInt
    · intro h
      rw [← Int64.toInt_inj, htoInt, h]
  · rename_i hbounds
    constructor
    · intro h
      cases h
    · rintro rfl
      exact absurd ⟨n.le_toInt, Int.le_of_lt_add_one n.toInt_lt⟩ hbounds

namespace NumberSpelling

variable {t : NumberSpelling} {d : Decimal} {v : Value}

/-! ## Tokens -/

theorem mem_chars {c : Char} (h : c ∈ t.chars) :
    c.isDigit = true ∨ c = '.' ∨ c = 'e' ∨ c = 'E' ∨ c = '+' ∨ c = '-' := by
  rcases List.mem_append.1 h with h | h
  · rcases mem_base h with rfl | rfl | hdigit
    · simp
    · simp
    · exact .inl hdigit
  · unfold exponentChars at h
    cases he : t.exponent with
    | none =>
      rw [he] at h
      cases h
    | some e =>
      rw [he, Option.elim_some, ExponentSpelling.chars, List.mem_cons, ExponentSpelling.tail,
        List.mem_append] at h
      rcases h with rfl | h | h
      · rcases e.mark_eq with h | h <;> simp [h]
      · rcases e.sign_eq c (Option.mem_toList.1 h) with rfl | rfl <;> simp
      · exact .inl (e.isDigit c h)

theorem isBlank_of_mem_chars {c : Char} (h : c ∈ t.chars) : Text.isBlank c = false := by
  rcases mem_chars h with hdigit | rfl | rfl | rfl | rfl | rfl
  · have hnot := Text.of_isDigit (fun c => !Text.isBlank c) (by decide) hdigit
    simpa using hnot
  all_goals rfl

/-- A spelling starts with a digit, or with a minus sign. -/
theorem exists_chars_eq_cons (t : NumberSpelling) :
    ∃ c cs, t.chars = c :: cs ∧ (c.isDigit = true ∨ c = '-') := by
  obtain ⟨c, cs, hwhole⟩ := List.exists_cons_of_ne_nil t.whole_ne_nil
  have hc := t.whole_isDigit c (hwhole ▸ List.mem_cons_self)
  unfold chars base signed unsigned
  split
  · exact ⟨_, _, rfl, .inr rfl⟩
  · exact ⟨c, _, by rw [hwhole]; rfl, .inl hc⟩

theorem trim_chars (t : NumberSpelling) : Text.trim t.chars = t.chars := by
  have hdrop (cs : List Char) (h : ∀ c ∈ cs, c ∈ t.chars) : cs.dropWhile Text.isBlank = cs := by
    cases cs with
    | nil => rfl
    | cons c cs =>
      rw [List.dropWhile_cons_of_neg]
      rw [isBlank_of_mem_chars (h c List.mem_cons_self)]
      exact Bool.false_ne_true
  rw [Text.trim, hdrop _ fun c h => h, Text.trimEnd, hdrop _ fun c h => List.mem_reverse.1 h,
    List.reverse_reverse]

/-- A spelling is no other kind of literal. -/
theorem value?_text (t : NumberSpelling) : Literal.value? t.text =
    (Literal.number? t.chars).elim (.error ⟨t.text, .unrecognized⟩) .ok := by
  obtain ⟨c, cs, hchars, hc⟩ := t.exists_chars_eq_cons
  have htrim : Text.trim t.text.toList = c :: cs := by
    rw [text, String.toList_ofList, trim_chars, hchars]
  rw [Literal.value?_of_trim htrim (hc.imp_right .inr), hchars]

/-! ## Numbers -/

/-- What stands behind the sign. -/
def body (t : NumberSpelling) : List Char := t.unsigned ++ t.exponentChars

theorem chars_eq_signed (t : NumberSpelling) : t.chars = signed t.negative t.body := by
  unfold chars base signed body
  split <;> rfl

theorem mem_chars_of_mem_body {c : Char} (h : c ∈ t.body) : c ∈ t.chars := by
  rw [chars_eq_signed, signed]
  split
  · exact List.mem_cons_of_mem _ h
  · exact h

theorem exists_body_eq_cons (t : NumberSpelling) :
    ∃ c cs, t.body = c :: cs ∧ c.isDigit = true := by
  obtain ⟨c, cs, hwhole⟩ := List.exists_cons_of_ne_nil t.whole_ne_nil
  refine ⟨c, cs ++ behindPoint t.places ++ t.exponentChars, ?_, ?_⟩
  · rw [body, unsigned, hwhole]
    rfl
  · exact t.whole_isDigit c (hwhole ▸ List.mem_cons_self)

theorem looksNumeric_body (t : NumberSpelling) : Literal.looksNumeric t.body = true := by
  have hall : (t.body.all fun c =>
      c.isDigit || c == '.' || c == 'e' || c == 'E' || c == '+' || c == '-') = true := by
    rw [List.all_eq_true]
    intro c hc
    rcases mem_chars (mem_chars_of_mem_body hc) with hdigit | rfl | rfl | rfl | rfl | rfl <;>
      simp [*]
  obtain ⟨c, cs, hbody, hc⟩ := t.exists_body_eq_cons
  unfold Literal.looksNumeric
  dsimp only
  rw [hall, Bool.and_true, hbody]
  simp only [hc, Bool.true_or]

theorem any_exponentChars (t : NumberSpelling) (p : Char → Bool) (hp : p 'e' = true)
    (hp' : p 'E' = true) : t.exponentChars.any p = t.exponent.isSome := by
  unfold exponentChars
  cases t.exponent with
  | none => rfl
  | some e =>
    have hmark : p e.mark = true := by
      rcases e.mark_eq with h | h <;> rw [h] <;> assumption
    rw [Option.elim_some, ExponentSpelling.chars, List.any_cons, hmark]
    rfl

theorem any_behindPoint (ps : List Char) (hps : ∀ c ∈ ps, c.isDigit = true) (p : Char → Bool)
    (hp : ∀ c, c.isDigit = true → p c = false) :
    (behindPoint ps).any p = (decide (ps ≠ []) && p '.') := by
  have hnone : ps.any p = false := List.any_eq_false.2 fun c hc => by rw [hp c (hps c hc)]; simp
  unfold behindPoint
  split
  · simp [*]
  · simp [*]

theorem any_body (t : NumberSpelling) (p : Char → Bool) (he : p 'e' = true) (hE : p 'E' = true)
    (hp : ∀ c, c.isDigit = true → p c = false) :
    t.body.any p = (decide (t.places ≠ []) && p '.' || t.exponent.isSome) := by
  have hwhole : t.whole.any p = false :=
    List.any_eq_false.2 fun c hc => by rw [hp c (t.whole_isDigit c hc)]; simp
  rw [body, unsigned, List.any_append, List.any_append, hwhole, any_exponentChars t p he hE,
    any_behindPoint t.places t.places_isDigit p hp, Bool.false_or]

theorem number?_signed {cs : List Char} (hcs : ∃ c rest, cs = c :: rest ∧ c.isDigit = true)
    (negative : Bool) : Literal.number? (signed negative cs) =
      if !Literal.looksNumeric cs then none
      else if !cs.any (fun c => c == '.' || c == 'e' || c == 'E') then
        (Literal.int64OfDigits? negative cs).map .integer
      else if cs.any (fun c => c == 'e' || c == 'E') then
        (ofScientific? (signed negative cs)).map .decimal
      else (ofPlain? (signed negative cs)).map .decimal := by
  cases negative with
  | true => rfl
  | false =>
    obtain ⟨c, rest, rfl, hc⟩ := hcs
    have hplus : c ≠ '+' := fun h => absurd (h ▸ hc) (by decide)
    have hminus : c ≠ '-' := fun h => absurd (h ▸ hc) (by decide)
    show Literal.number? (c :: rest) = _
    unfold Literal.number?
    split
    rename_i heq
    split at heq
    · rename_i h
      exact absurd (List.cons.inj h).1 hplus
    · rename_i h
      exact absurd (List.cons.inj h).1 hminus
    · cases heq
      rfl

/-- An integer if there is neither a point nor an exponent, and else a decimal. -/
theorem number?_chars (t : NumberSpelling) : Literal.number? t.chars =
    if t.exponent.isSome then (ofScientific? t.chars).map .decimal
    else if t.places ≠ [] then (ofPlain? t.chars).map .decimal
    else (Literal.int64OfDigits? t.negative t.whole).map .integer := by
  have hmark : (t.body.any fun c => c == 'e' || c == 'E') = t.exponent.isSome := by
    rw [t.any_body _ rfl rfl fun c hc => ?_]
    · simp
    · simpa using Text.of_isDigit (fun c => !(c == 'e' || c == 'E')) (by decide) hc
  have hpoint : (t.body.any fun c => c == '.' || c == 'e' || c == 'E') =
      (decide (t.places ≠ []) || t.exponent.isSome) := by
    rw [t.any_body _ rfl rfl fun c hc => ?_]
    · simp
    · simpa using Text.of_isDigit (fun c => !(c == '.' || c == 'e' || c == 'E')) (by decide) hc
  rw [chars_eq_signed, number?_signed t.exists_body_eq_cons, looksNumeric_body, hmark, hpoint]
  cases hexponent : t.exponent with
  | some e => simp
  | none =>
    by_cases hplaces : t.places = []
    · have hbody : t.body = t.whole := by
        rw [body, unsigned, behindPoint, if_pos hplaces, exponentChars, hexponent, Option.elim_none,
          List.append_nil, List.append_nil]
      simp [hplaces, hbody]
    · simp [hplaces]

/-! ## Values -/

theorem ofInt64_of_int64OfDigits? {i : Int64}
    (h : Literal.int64OfDigits? t.negative t.whole = some i) :
    (ofInt64 i).Exact t.negative (Text.digitsValue t.whole) := by
  rw [Literal.int64OfDigits?, Text.natOfDigits?_eq_some t.whole_ne_nil t.whole_isDigit,
    Option.bind_some] at h
  generalize Text.digitsValue t.whole = n at *
  generalize hj : (if t.negative then -(n : Int) else n) = j at h
  have hi : i.toInt = j := int64?_eq_some_iff.1 h
  have hn : i.toInt.natAbs = n := by
    rw [hi, ← hj]
    split <;> omega
  refine ⟨fun hzero => ?_, ?_⟩
  · have hsign : i < 0 ↔ i.toInt < 0 := Int64.lt_iff_toInt_lt
    have hpos : i.toInt.natAbs ≠ 0 := hzero
    show decide (i < 0) = t.negative
    rw [Bool.eq_iff_iff, decide_eq_true_eq, hsign, hi, ← hj]
    cases t.negative
    · simp
    · simpa using Nat.pos_of_ne_zero (hn ▸ hpos)
  · show (n : ℚ) = i.toInt.natAbs / 10 ^ 0
    rw [hn, pow_zero, div_one]

theorem rounds_of_ofScientific? (hshort : t.IsShort) (hshift : t.shift = 0)
    (h : ofScientific? t.chars = some d) : d.Rounds t.negative t.magnitude := by
  rw [ofScientific?, splitExponent_chars] at h
  cases he : t.exponent with
  | none =>
    rw [he] at h
    cases h
  | some e =>
    rw [he] at h
    obtain ⟨b, hb, -, hscaled⟩ := readScaled?_eq_some_iff.1 h
    have hsize : e.size = 0 := by
      rw [shift, he, Option.elim_some, ExponentSpelling.value] at hshift
      split at hshift <;> omega
    have hsame : d = b := by
      have hparts : ofParts? b.negative b.coefficient b.scale = some b :=
        ofParts?_eq_some_iff.2 ⟨rfl, rfl, rfl⟩
      rw [hsize] at hscaled
      split at hscaled
      · exact Option.some.inj (hscaled.symm.trans hparts)
      · rw [Decimal.shiftLeft?, if_pos (Nat.zero_le _)] at hscaled
        exact Option.some.inj (hscaled.symm.trans hparts)
    rw [hsame, magnitude, hshift, zpow_zero, mul_one]
    exact rounds_of_ofPlain? hshort hb

/-- An integer or a decimal that is read from a spelling without an exponent. -/
theorem exists_number?_plain (hshort : t.IsShort) (hexponent : t.exponent = none)
    (h : Literal.number? t.chars = some v) : ∃ d, v.number? = some d ∧
      d.Rounds t.negative t.magnitude ∧ (t.FitsPlaces → d.Exact t.negative t.magnitude) := by
  have hchars : t.chars = t.base := by
    rw [chars, exponentChars, hexponent, Option.elim_none, List.append_nil]
  rw [number?_chars, hexponent, Option.isSome_none, if_neg Bool.false_ne_true, hchars] at h
  rw [magnitude_of_none hexponent]
  split at h
  · obtain ⟨d, hd, rfl⟩ := Option.map_eq_some_iff.1 h
    exact ⟨d, rfl, rounds_of_ofPlain? hshort hd,
      fun hplaces => exact_of_ofPlain? hshort hplaces hd⟩
  · rename_i hnone
    obtain ⟨i, hi, rfl⟩ := Option.map_eq_some_iff.1 h
    have hmagnitude : t.baseMagnitude = Text.digitsValue t.whole := by
      rw [baseMagnitude, significand, not_not.1 hnone, List.append_nil, List.length_nil,
        pow_zero, div_one]
    have hexact := ofInt64_of_int64OfDigits? hi
    rw [hmagnitude]
    exact ⟨_, rfl, hexact.rounds, fun _ => hexact⟩

/-- **The number of a literal.** A literal whose digits fit the places of a decimal is the number
that it spells, and one without an exponent the rounding of it. -/
theorem exists_number? (hshort : t.IsShort) (hplaces : t.FitsPlaces ∨ t.shift = 0)
    (h : Literal.value? t.text = .ok v) : ∃ d, v.number? = some d ∧
      d.Rounds t.negative t.magnitude ∧ (t.FitsPlaces → d.Exact t.negative t.magnitude) ∧
      t.shift.natAbs ≤ maxScale := by
  have hnumber : Literal.number? t.chars = some v := by
    rw [value?_text] at h
    cases hnumber : Literal.number? t.chars with
    | none =>
      rw [hnumber] at h
      cases h
    | some w =>
      rw [hnumber] at h
      cases h
      rfl
  cases hexponent : t.exponent with
  | none =>
    obtain ⟨d, hd, hrounds, hexact⟩ := exists_number?_plain hshort hexponent hnumber
    refine ⟨d, hd, hrounds, hexact, ?_⟩
    rw [shift, hexponent]
    exact Nat.zero_le _
  | some e =>
    rw [number?_chars, hexponent, Option.isSome_some, if_pos rfl] at hnumber
    obtain ⟨d, hd, rfl⟩ := Option.map_eq_some_iff.1 hnumber
    have hexact (hplaces : t.FitsPlaces) := exact_of_ofScientific? hshort hplaces hd
    rcases hplaces with hplaces | hshift
    · exact ⟨d, rfl, (hexact hplaces).1.rounds, fun h => (hexact h).1, (hexact hplaces).2⟩
    · exact ⟨d, rfl, rounds_of_ofScientific? hshort hshift hd, fun h => (hexact h).1,
        by rw [hshift]; exact Nat.zero_le _⟩

end NumberSpelling

end ContentQuery
