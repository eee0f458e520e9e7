import ContentQuery.Proofs.Number.Decimals

/-!
# Spellings of numbers

`NumberSpelling` is the notation of a number as texts have it: a sign, digits, a point with more
digits and an exponent, of which only the digits before the point are needed. A spelling with at
most fifteen digits that count is read as the rounding of the number that it denotes
(`NumberSpelling.exists_ofText?`), and scientific notation without rounding
(`NumberSpelling.exact_of_ofScientific?`).
-/

set_option autoImplicit false

namespace ContentQuery

open Decimal

/-! ## Exponents -/

/-- An exponent with its mark and, if there is one, its sign. -/
structure ExponentSpelling where
  mark : Char
  sign : Option Char
  digits : List Char
  mark_eq : mark = 'e' ∨ mark = 'E'
  sign_eq : ∀ c ∈ sign, c = '+' ∨ c = '-'
  digits_ne_nil : digits ≠ []
  isDigit : ∀ c ∈ digits, c.isDigit = true

namespace ExponentSpelling

/-- What stands behind the mark. -/
def tail (e : ExponentSpelling) : List Char := e.sign.toList ++ e.digits

def chars (e : ExponentSpelling) : List Char := e.mark :: e.tail

/-- The number of the digits. -/
def size (e : ExponentSpelling) : Nat := Text.digitsValue e.digits

def negative (e : ExponentSpelling) : Bool := e.sign == some '-'

def value (e : ExponentSpelling) : Int := if e.negative then -(e.size : Int) else e.size

end ExponentSpelling

/-! ## Numbers -/

/-- A number as it is written. There is a point if there are digits behind it. -/
structure NumberSpelling where
  negative : Bool
  whole : List Char
  places : List Char
  exponent : Option ExponentSpelling
  whole_ne_nil : whole ≠ []
  whole_isDigit : ∀ c ∈ whole, c.isDigit = true
  places_isDigit : ∀ c ∈ places, c.isDigit = true

namespace NumberSpelling

/-- The number up to its exponent, without the sign. -/
def unsigned (t : NumberSpelling) : List Char := t.whole ++ behindPoint t.places

def base (t : NumberSpelling) : List Char := signed t.negative t.unsigned

def exponentChars (t : NumberSpelling) : List Char := t.exponent.elim [] ExponentSpelling.chars

def chars (t : NumberSpelling) : List Char := t.base ++ t.exponentChars

def text (t : NumberSpelling) : String := String.ofList t.chars

/-- The number of the digits on both sides of the point. -/
def significand (t : NumberSpelling) : Nat := Text.digitsValue (t.whole ++ t.places)

def shift (t : NumberSpelling) : Int := t.exponent.elim 0 ExponentSpelling.value

/-- The magnitude of the number up to its exponent. -/
def baseMagnitude (t : NumberSpelling) : ℚ := t.significand / 10 ^ t.places.length

def magnitude (t : NumberSpelling) : ℚ := t.baseMagnitude * 10 ^ t.shift

/-- At most fifteen digits count: the zeros at both ends do not. -/
def IsShort (t : NumberSpelling) : Prop := HasDigits 15 t.significand

/-- Digits other than zero stand only in the places that a decimal has. -/
def FitsPlaces (t : NumberSpelling) : Prop := ∀ c ∈ t.places.drop maxScale, c = '0'

instance (t : NumberSpelling) : Decidable t.FitsPlaces :=
  List.decidableBAll (· = '0') (t.places.drop maxScale)

variable {t : NumberSpelling} {e : ExponentSpelling} {d d' : Decimal}

/-- The digits before the point count as much more as there are places. -/
theorem significand_eq (t : NumberSpelling) : t.significand =
    Text.digitsValue t.whole * 10 ^ t.places.length + Text.digitsValue t.places :=
  Text.digitsValue_append t.whole t.places

theorem mem_behindPoint {ps : List Char} {c : Char} (h : c ∈ behindPoint ps) :
    c = '.' ∨ c ∈ ps := by
  unfold behindPoint at h
  split at h
  · cases h
  · exact List.mem_cons.1 h

theorem mem_unsigned {c : Char} (h : c ∈ t.unsigned) : c = '.' ∨ c.isDigit = true := by
  rcases List.mem_append.1 h with h | h
  · exact .inr (t.whole_isDigit c h)
  · exact (mem_behindPoint h).imp_right (t.places_isDigit c)

theorem mem_base {c : Char} (h : c ∈ t.base) : c = '-' ∨ c = '.' ∨ c.isDigit = true := by
  unfold base signed at h
  split at h
  · exact (List.mem_cons.1 h).imp_right mem_unsigned
  · exact .inr (mem_unsigned h)

theorem splitExponent_chars :
    splitExponent t.chars = (t.base, t.exponent.map ExponentSpelling.tail) := by
  have hbase : ∀ c ∈ t.base, (c != 'e' && c != 'E') = true := by
    intro c hc
    rcases mem_base hc with rfl | rfl | hdigit
    · rfl
    · rfl
    · exact Text.of_isDigit (fun c => c != 'e' && c != 'E') (by decide) hdigit
  have htake : t.chars.takeWhile (fun c => c != 'e' && c != 'E') = t.base := by
    rw [chars, List.takeWhile_append_of_pos hbase, exponentChars]
    cases t.exponent with
    | none => simp
    | some e =>
      have hmark : (e.mark != 'e' && e.mark != 'E') = false := by
        rcases e.mark_eq with h | h <;> rw [h] <;> rfl
      simp only [Option.elim_some, ExponentSpelling.chars, List.takeWhile_cons, hmark,
        Bool.false_eq_true, if_false, List.append_nil]
  unfold splitExponent
  rw [htake]
  dsimp only
  rw [chars, List.drop_left, exponentChars]
  cases t.exponent with
  | none => rfl
  | some e => rfl

/-! ## Exponents -/

theorem natOfDigits?_filter (e : ExponentSpelling) :
    (Text.natOfDigits? e.digits).filter (· ≤ 4294967295) =
      if e.size ≤ 4294967295 then some e.size else none := by
  rw [Text.natOfDigits?_eq_some e.digits_ne_nil e.isDigit, ExponentSpelling.size, Option.filter]
  simp only [decide_eq_true_eq]

theorem readExponent?_digits (e : ExponentSpelling) :
    readExponent? e.digits = if e.size ≤ 4294967295 then some e.size else none := by
  rw [← natOfDigits?_filter]
  unfold readExponent?
  split
  · rename_i hplus
    exact absurd (e.isDigit '+' (hplus ▸ List.mem_cons_self)) (by decide)
  · rfl

/-- A number with an exponent is multiplied or divided by the power of ten of its size. -/
theorem readScaled?_tail (divide : Decimal → Nat → Option Decimal) (cs : List Char) :
    readScaled? divide cs e.tail = (ofPlain? cs).bind fun d =>
      (if e.size ≤ 4294967295 then some e.size else none).bind
        (if e.negative then divide d else d.shiftLeft?) := by
  unfold readScaled? ExponentSpelling.tail ExponentSpelling.negative
  congr 1
  funext d
  cases hsign : e.sign with
  | none =>
    have hminus (rest : List Char) : e.digits ≠ '-' :: rest := fun h =>
      absurd (e.isDigit '-' (h ▸ List.mem_cons_self)) (by decide)
    rw [← readExponent?_digits]
    split
    · rename_i h
      exact absurd h (hminus _)
    · rfl
  | some c =>
    rcases e.sign_eq c hsign with rfl | rfl
    · rw [← natOfDigits?_filter]
      rfl
    · rw [← readExponent?_digits]
      rfl

theorem readScaled?_eq_some_iff {divide : Decimal → Nat → Option Decimal} {cs : List Char} :
    readScaled? divide cs e.tail = some d' ↔ ∃ d, ofPlain? cs = some d ∧ e.size ≤ 4294967295 ∧
      (if e.negative then divide d else d.shiftLeft?) e.size = some d' := by
  rw [readScaled?_tail, Option.bind_eq_some_iff]
  refine exists_congr fun d => and_congr_right fun _ => ?_
  split
  · simp [*]
  · simp [*]

/-! ## Reading -/

/-- The number up to its exponent is rounded to the places that there are. -/
theorem exists_ofPlain?_base (hshort : t.IsShort) (hlt : t.baseMagnitude < coefficientLimit) :
    ∃ d, ofPlain? t.base = some d ∧ d.Rounds t.negative t.baseMagnitude := by
  apply exists_ofPlain? t.whole_ne_nil t.whole_isDigit t.places_isDigit hshort
  have hpos : (0 : ℚ) < 10 ^ t.places.length := by positivity
  rw [baseMagnitude, significand_eq, div_lt_iff₀ hpos] at hlt
  have hnat : Text.digitsValue t.whole * 10 ^ t.places.length + Text.digitsValue t.places <
      coefficientLimit * 10 ^ t.places.length := by exact_mod_cast hlt
  exact Nat.lt_of_mul_lt_mul_right (Nat.lt_of_le_of_lt (Nat.le_add_right _ _) hnat)

theorem rounds_of_ofPlain? (hshort : t.IsShort) (h : ofPlain? t.base = some d) :
    d.Rounds t.negative t.baseMagnitude := by
  by_cases hlt : Text.digitsValue t.whole < coefficientLimit
  · obtain ⟨d', hd', hrounds⟩ := exists_ofPlain? t.whole_ne_nil t.whole_isDigit t.places_isDigit
      hshort hlt t.negative
    cases h.symm.trans hd'
    exact hrounds
  · rw [base, unsigned, ofPlain?_eq_none t.whole_ne_nil t.whole_isDigit hlt] at h
    cases h

/-- A number with no more places than a decimal has is a multiple of the last one. -/
theorem FitsPlaces.exists_eq (h : t.FitsPlaces) :
    ∃ n : Nat, t.baseMagnitude * 10 ^ maxScale = n := by
  obtain ⟨k, hk⟩ : ∃ k, t.places.drop maxScale = List.replicate k '0' :=
    ⟨_, List.eq_replicate_of_mem h⟩
  have hsplit := List.take_append_drop maxScale t.places
  have hlength : (t.places.take maxScale).length ≤ maxScale := List.length_take_le _ _
  rw [hk] at hsplit
  generalize t.places.take maxScale = front at *
  refine ⟨Text.digitsValue (t.whole ++ front) * 10 ^ (maxScale - front.length), ?_⟩
  have hpow : (10 : ℚ) ^ maxScale = 10 ^ (maxScale - front.length) * 10 ^ front.length := by
    rw [← pow_add, Nat.sub_add_cancel hlength]
  rw [baseMagnitude, significand, ← hsplit, ← List.append_assoc, Text.digitsValue_append,
    Text.digitsValue_replicate_zero, List.length_append, List.length_replicate, pow_add, hpow]
  push_cast
  field_simp
  ring

theorem exact_of_ofPlain? (hshort : t.IsShort) (hplaces : t.FitsPlaces)
    (h : ofPlain? t.base = some d) : d.Exact t.negative t.baseMagnitude := by
  obtain ⟨n, hn⟩ := hplaces.exists_eq
  exact (rounds_of_ofPlain? hshort h).exact hn

/-- The power of ten of an exponent, by its sign. -/
theorem magnitude_of_exponent (h : t.exponent = some e) : t.magnitude =
    if e.negative then t.baseMagnitude / 10 ^ e.size else t.baseMagnitude * 10 ^ e.size := by
  rw [magnitude, shift, h, Option.elim_some, ExponentSpelling.value]
  split
  · rw [zpow_neg, zpow_natCast, div_eq_mul_inv]
  · rw [zpow_natCast]

theorem magnitude_of_none (h : t.exponent = none) : t.magnitude = t.baseMagnitude := by
  rw [magnitude, shift, h, Option.elim_none, zpow_zero, mul_one]

/-- **Scientific notation is read without rounding**, and only with an exponent up to the number of
places. -/
theorem exact_of_ofScientific? (hshort : t.IsShort) (hplaces : t.FitsPlaces)
    (h : ofScientific? t.chars = some d) :
    d.Exact t.negative t.magnitude ∧ t.shift.natAbs ≤ maxScale := by
  rw [ofScientific?, splitExponent_chars] at h
  cases he : t.exponent with
  | none =>
    rw [he] at h
    cases h
  | some e =>
    rw [he] at h
    obtain ⟨b, hb, -, hshift⟩ := readScaled?_eq_some_iff.1 h
    have hexact := exact_of_ofPlain? hshort hplaces hb
    rw [magnitude_of_exponent he, shift, he, Option.elim_some, ExponentSpelling.value]
    split at hshift
    · rename_i hnegative
      rw [if_pos hnegative, if_pos hnegative, Int.natAbs_neg, Int.natAbs_natCast]
      exact hexact.shiftRight? hshift
    · rename_i hnegative
      rw [if_neg hnegative, if_neg hnegative, Int.natAbs_natCast]
      exact hexact.shiftLeft? hshift

/-- A spelling has no exponent, or a small one behind a number that needs no rounding. -/
def IsReadable (t : NumberSpelling) : Prop :=
  t.exponent = none ∨
    t.FitsPlaces ∧ t.baseMagnitude < coefficientLimit ∧ t.shift.natAbs ≤ maxScale

/-- **A readable spelling is read as the rounding of its number.** -/
theorem exists_ofText? (hshort : t.IsShort) (hlt : t.magnitude < coefficientLimit)
    (hreadable : t.IsReadable) :
    ∃ d, ofText? t.text = some d ∧ d.Rounds t.negative t.magnitude := by
  rw [ofText?, text, String.toList_ofList, splitExponent_chars]
  cases he : t.exponent with
  | none =>
    rw [magnitude_of_none he] at hlt ⊢
    exact exists_ofPlain?_base hshort hlt
  | some e =>
    obtain ⟨hplaces, hbase, hshift⟩ :=
      hreadable.resolve_left fun h => Option.some_ne_none e (he.symm.trans h)
    obtain ⟨b, hb, -⟩ := exists_ofPlain?_base hshort hbase
    have hexact := exact_of_ofPlain? hshort hplaces hb
    have hsize : e.size ≤ maxScale := by
      rw [shift, he, Option.elim_some, ExponentSpelling.value] at hshift
      split at hshift <;> omega
    have hsmall : e.size ≤ 4294967295 := hsize.trans (by decide)
    rw [magnitude_of_exponent he] at hlt ⊢
    by_cases hnegative : e.negative = true
    · rw [if_pos hnegative]
      obtain ⟨d, hd, hrounds⟩ := hexact.exists_shiftRightRounded? hsize
      exact ⟨d, readScaled?_eq_some_iff.2 ⟨b, hb, hsmall, by rw [if_pos hnegative, hd]⟩, hrounds⟩
    · rw [if_neg hnegative] at hlt ⊢
      obtain ⟨d, hd⟩ := hexact.exists_shiftLeft? hsize hlt
      exact ⟨d, readScaled?_eq_some_iff.2 ⟨b, hb, hsmall, by rw [if_neg hnegative, hd]⟩,
        (hexact.shiftLeft? hd).1.rounds⟩

end NumberSpelling

end ContentQuery
