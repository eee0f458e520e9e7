import ContentQuery.Proofs.Number.Literals
import ContentQuery.Proofs.Number.Shortest

/-!
# The text of a binary number

`Binary64.decimalText` spells its number in each of its four forms (`exists_isTextOf`). So the
decimal that is read from the text of a binary number is the one of at most fifteen digits that was
rounded to the number (`exists_ofText?_toText`).
-/

set_option autoImplicit false

namespace ContentQuery

open Decimal

/-! ## Positional and scientific notation -/

namespace NumberSpelling

variable {t : NumberSpelling} {n : Nat} {e : Int}

/-- A readable spelling of the magnitude `q` with the text `cs` behind its sign. -/
structure IsTextOf (t : NumberSpelling) (negative : Bool) (cs : List Char) (q : ℚ) : Prop where
  negative_eq : t.negative = negative
  body_eq : t.body = cs
  isShort : t.IsShort
  magnitude_eq : t.magnitude = q
  isReadable : t.IsReadable

theorem IsTextOf.text_eq {negative : Bool} {cs : List Char} {q : ℚ} (h : t.IsTextOf negative cs q) :
    t.text = String.ofList ((if negative then ['-'] else []) ++ cs) := by
  rw [text, chars_eq_signed, h.negative_eq, h.body_eq, signed]
  cases negative <;> rfl

variable {ps : List Char} (negative : Bool)

theorem exists_plain (ws ps : List Char) (hne : ws ≠ []) (hws : ∀ c ∈ ws, c.isDigit = true)
    (hps : ∀ c ∈ ps, c.isDigit = true) (hpoint : ps ≠ [])
    (hshort : HasDigits 15 (Text.digitsValue (ws ++ ps))) :
    ∃ t : NumberSpelling, t.IsTextOf negative (ws ++ '.' :: ps)
      (Text.digitsValue (ws ++ ps) / 10 ^ ps.length) := by
  refine ⟨⟨negative, ws, ps, none, hne, hws, hps⟩, rfl, ?_, hshort, ?_, .inl rfl⟩
  · show (ws ++ behindPoint ps) ++ [] = _
    rw [List.append_nil, behindPoint_of_ne_nil hpoint]
  · exact magnitude_of_none rfl

theorem isDigit_replicate (k : Nat) : ∀ c ∈ List.replicate k '0', c.isDigit = true :=
  fun c hc => by rw [List.eq_of_mem_replicate hc]; rfl

theorem isDigit_append {ds ds' : List Char} (hds : ∀ c ∈ ds, c.isDigit = true)
    (hds' : ∀ c ∈ ds', c.isDigit = true) : ∀ c ∈ ds ++ ds', c.isDigit = true :=
  fun c hc => (List.mem_append.1 hc).elim (hds c) (hds' c)

section
variable {ds : List Char} (hds : ∀ c ∈ ds, c.isDigit = true)
  (hshort : HasDigits 15 (Text.digitsValue ds))
include hds hshort

/-- Zeros up to the point. -/
theorem exists_whole (hne : ds ≠ []) (k : Nat) :
    ∃ t : NumberSpelling, t.IsTextOf negative (ds ++ List.replicate k '0' ++ ['.', '0'])
      (Text.digitsValue ds * 10 ^ k) := by
  have hvalue : Text.digitsValue (ds ++ List.replicate k '0' ++ ['0']) =
      Text.digitsValue ds * 10 ^ (k + 1) := by
    have hzeros : ds ++ List.replicate k '0' ++ ['0'] = ds ++ List.replicate (k + 1) '0' := by
      rw [List.replicate_succ', List.append_assoc]
    rw [hzeros, Text.digitsValue_append, Text.digitsValue_replicate_zero, List.length_replicate,
      Nat.add_zero]
  obtain ⟨t, ht⟩ := exists_plain negative (ds ++ List.replicate k '0') ['0']
    (by simp [hne]) (isDigit_append hds (isDigit_replicate k)) (by simp) (List.cons_ne_nil _ _)
    (hvalue ▸ hshort.mul_pow _)
  refine ⟨t, ?_⟩
  have hmagnitude : (Text.digitsValue ds * 10 ^ k : ℚ) =
      (Text.digitsValue ds * 10 ^ (k + 1) : Nat) / 10 ^ ['0'].length := by
    push_cast [List.length_singleton]
    rw [pow_succ, pow_one]
    field_simp
  rw [hmagnitude, ← hvalue]
  exact ht

/-- The point between the digits. -/
theorem exists_between {k : Nat} (hpos : 0 < k) (hk : k < ds.length) :
    ∃ t : NumberSpelling, t.IsTextOf negative (ds.take k ++ '.' :: ds.drop k)
      (Text.digitsValue ds / 10 ^ (ds.length - k)) := by
  have hsplit := List.take_append_drop k ds
  have hlength : (ds.drop k).length = ds.length - k := List.length_drop
  obtain ⟨t, ht⟩ := exists_plain negative (ds.take k) (ds.drop k)
    (List.ne_nil_of_length_pos (by rw [List.length_take]; omega))
    (fun c hc => hds c (List.mem_of_mem_take hc)) (fun c hc => hds c (List.mem_of_mem_drop hc))
    (List.ne_nil_of_length_pos (by omega)) (by rw [hsplit]; exact hshort)
  rw [hsplit, hlength] at ht
  exact ⟨t, ht⟩

/-- Zeros behind the point. -/
theorem exists_behind (hne : ds ≠ []) (k : Nat) :
    ∃ t : NumberSpelling, t.IsTextOf negative ('0' :: '.' :: List.replicate k '0' ++ ds)
      (Text.digitsValue ds / 10 ^ (k + ds.length)) := by
  have hvalue : Text.digitsValue (['0'] ++ (List.replicate k '0' ++ ds)) =
      Text.digitsValue ds := by
    have hzeros : ['0'] ++ (List.replicate k '0' ++ ds) = List.replicate (k + 1) '0' ++ ds := rfl
    rw [hzeros, Text.digitsValue_append, Text.digitsValue_replicate_zero, Nat.zero_mul,
      Nat.zero_add]
  obtain ⟨t, ht⟩ := exists_plain negative ['0'] (List.replicate k '0' ++ ds)
    (List.cons_ne_nil _ _) (by simp) (isDigit_append (isDigit_replicate k) hds) (by simp [hne])
    (hvalue.symm ▸ hshort)
  rw [hvalue, List.length_append, List.length_replicate] at ht
  exact ⟨t, ht⟩

end

/-- The exponent of a number, with its sign. -/
def signedExponent (e : Int) : ExponentSpelling where
  mark := 'e'
  sign := some (if e < 0 then '-' else '+')
  digits := Nat.toDigits 10 e.natAbs
  mark_eq := .inl rfl
  sign_eq c hc := by
    obtain rfl := Option.some.inj hc
    split
    · exact .inr rfl
    · exact .inl rfl
  digits_ne_nil h := absurd Nat.length_toDigits_pos (by rw [h]; decide)
  isDigit _ := Text.isDigit_of_mem_toDigits

theorem value_signedExponent (e : Int) : (signedExponent e).value = e := by
  have hsize : (signedExponent e).size = e.natAbs := Text.digitsValue_toDigits e.natAbs
  have hnegative : (signedExponent e).negative = decide (e < 0) := by
    by_cases h : e < 0 <;> simp [ExponentSpelling.negative, signedExponent, h]
  rw [ExponentSpelling.value, hsize, hnegative]
  by_cases h : e < 0
  · rw [decide_eq_true h, if_pos rfl]
    omega
  · rw [decide_eq_false h, if_neg Bool.false_ne_true]
    omega

/-- One digit before the point, and an exponent that is not too large. -/
theorem exists_scientific {c : Char} (hc : c.isDigit = true) (hps : ∀ c ∈ ps, c.isDigit = true)
    (hshort : HasDigits 15 (Text.digitsValue (c :: ps))) (hplaces : ∀ c ∈ ps.drop maxScale, c = '0')
    (he : e.natAbs ≤ maxScale) :
    ∃ t : NumberSpelling, t.IsTextOf negative
      (c :: (if ps = [] then [] else '.' :: ps) ++
        'e' :: (if e < 0 then '-' else '+') :: Nat.toDigits 10 e.natAbs)
      (Text.digitsValue (c :: ps) / 10 ^ ps.length * 10 ^ e) := by
  have hwhole : ∀ d ∈ [c], d.isDigit = true := fun d hd => by rw [List.mem_singleton.1 hd, hc]
  refine ⟨⟨negative, [c], ps, some (signedExponent e), List.cons_ne_nil c [], hwhole, hps⟩,
    rfl, rfl, hshort, ?_, .inr ⟨hplaces, ?_, ?_⟩⟩
  · show _ * (10 : ℚ) ^ (signedExponent e).value = _
    rw [value_signedExponent]
    rfl
  · have hlt := Text.digitsValue_lt (List.forall_mem_cons.2 ⟨hc, hps⟩)
    have hcast : (Text.digitsValue (c :: ps) : ℚ) < 10 * 10 ^ ps.length := by
      rw [← pow_succ']
      exact_mod_cast hlt
    have hten : (Text.digitsValue (c :: ps) : ℚ) / 10 ^ ps.length < 10 :=
      (div_lt_iff₀ (by positivity)).2 hcast
    exact hten.trans (by norm_num [coefficientLimit])
  · show (signedExponent e).value.natAbs ≤ maxScale
    rw [value_signedExponent]
    exact he

/-- The place of the first digit of a number that is neither too large nor too small. -/
theorem natAbs_first_le (hn : 0 < n) (hlow : 1 / 10 ^ maxScale ≤ (n * 10 ^ e : ℚ))
    (hhigh : (n * 10 ^ e : ℚ) < coefficientLimit) :
    (e + (Nat.toDigits 10 n).length - 1).natAbs ≤ maxScale := by
  obtain ⟨hle, hlt⟩ := Binary64.length_toDigits_bounds hn
  generalize ((Nat.toDigits 10 n).length : Int) = k at *
  have hten : (0 : ℚ) < 10 ^ e := by positivity
  have hone : (1 : ℚ) < 10 := by norm_num
  have hbelow : (10 : ℚ) ^ (-(maxScale : Int)) < 10 ^ (k + e) := by
    rw [zpow_add₀ (by norm_num), zpow_neg, zpow_natCast, ← one_div]
    exact lt_of_le_of_lt hlow (mul_lt_mul_of_pos_right hlt hten)
  have habove : (10 : ℚ) ^ (k - 1 + e) < 10 ^ (29 : Int) := by
    have hlimit : (coefficientLimit : ℚ) < 10 ^ (29 : Int) := by norm_num [coefficientLimit]
    rw [zpow_add₀ (by norm_num)]
    exact lt_of_le_of_lt (mul_le_mul_of_nonneg_right hle hten.le) (hhigh.trans hlimit)
  rw [zpow_lt_zpow_iff_right₀ hone] at hbelow habove
  unfold maxScale at *
  omega

theorem div_pow_eq_mul_zpow {k : Nat} (h : (k : Int) = -e) (x : ℚ) : x / 10 ^ k = x * 10 ^ e := by
  rw [← neg_neg e, ← h, zpow_neg, zpow_natCast, div_eq_mul_inv]

/-- **The text of a decimal is a spelling of it**, in all of its forms. -/
theorem exists_isTextOf (hn : 0 < n) (hshort : HasDigits 15 n)
    (hlow : 1 / 10 ^ maxScale ≤ (n * 10 ^ e : ℚ)) (hhigh : (n * 10 ^ e : ℚ) < coefficientLimit) :
    ∃ t : NumberSpelling, t.IsTextOf negative (Binary64.decimalText n e) (n * 10 ^ e) := by
  have hfirst := natAbs_first_le hn hlow hhigh
  have hzeros := hshort.drop_toDigits hn
  have hvalue := Text.digitsValue_toDigits n
  have hdigits : ∀ c ∈ Nat.toDigits 10 n, c.isDigit = true :=
    fun c hc => Text.isDigit_of_mem_toDigits hc
  have hlength := @Nat.length_toDigits_pos 10 n
  unfold Binary64.decimalText
  dsimp only
  generalize Nat.toDigits 10 n = ds at *
  subst hvalue
  have hne : ds ≠ [] := List.ne_nil_of_length_pos hlength
  generalize hplace : e + ds.length - 1 = first at *
  split
  · rename_i hlarge
    rw [← Int.toNat_of_nonneg hlarge.1, zpow_natCast, Int.toNat_natCast]
    exact exists_whole negative hdigits hshort hne e.toNat
  split
  · rename_i hlarge hbetween
    have hk : ((ds.length - (first.toNat + 1) : Nat) : Int) = -e := by omega
    rw [← div_pow_eq_mul_zpow hk]
    exact exists_between negative hdigits hshort (Nat.succ_pos _) (by omega)
  split
  · rename_i hbelow
    have hk : (((-first - 1).toNat + ds.length : Nat) : Int) = -e := by omega
    rw [← div_pow_eq_mul_zpow hk]
    exact exists_behind negative hdigits hshort hne _
  · obtain ⟨c, cs, rfl⟩ := List.exists_cons_of_ne_nil hne
    obtain ⟨hc, hcs⟩ := List.forall_mem_cons.1 hdigits
    have hplaces : ∀ d ∈ cs.drop maxScale, d = '0' := by
      intro d hd
      have hsplit : cs.drop maxScale = (cs.drop 15).drop 13 := by rw [List.drop_drop]; rfl
      exact hzeros d (List.mem_of_mem_drop (hsplit ▸ hd))
    obtain ⟨t, ht⟩ := exists_scientific negative hc hcs hshort hplaces hfirst
    have hlength : (c :: cs).length = 1 ↔ cs = [] := by simp
    have hmagnitude : (Text.digitsValue (c :: cs) * 10 ^ e : ℚ) =
        Text.digitsValue (c :: cs) / 10 ^ cs.length * 10 ^ first := by
      have hpow : (10 : ℚ) ^ first = 10 ^ e * 10 ^ cs.length := by
        rw [← zpow_natCast, ← zpow_add₀ (by norm_num), ← hplace, List.length_cons]
        congr 1
        push_cast
        ring
      rw [hpow]
      field_simp
    refine ⟨t, ?_⟩
    simp only [hlength, hmagnitude]
    exact ht

end NumberSpelling

/-! ## The text of a binary number -/

namespace Binary64

variable {x : Binary64} {q : ℚ} {n c : Nat} {e g : Int}

/-- Zeros at the end of a number can be written as an exponent. -/
theorem stripZeros_spec (hn : 0 < n) (e : Int) (fuel : Nat) :
    0 < (stripZeros n e fuel).1 ∧
      ((stripZeros n e fuel).1 * 10 ^ (stripZeros n e fuel).2 : ℚ) = n * 10 ^ e := by
  induction fuel generalizing n e with
  | zero => exact ⟨hn, rfl⟩
  | succ fuel ih =>
    rw [stripZeros]
    split
    · rename_i hzero
      have hten : n = n / 10 * 10 := by omega
      obtain ⟨hpos, hvalue⟩ := ih (n := n / 10) (by omega) (e + 1)
      refine ⟨hpos, hvalue.trans ?_⟩
      have hcast : (n : ℚ) = (n / 10 : Nat) * 10 := by exact_mod_cast hten
      rw [hcast, zpow_add₀ (by norm_num), zpow_one]
      ring
    · exact ⟨hn, rfl⟩

/-- A notation of a number of few digits has few digits that count. -/
theorem hasDigits_of_eq {k : Nat} (hc : c < 10 ^ k) (h : (n * 10 ^ e : ℚ) = c * 10 ^ g) :
    HasDigits k n := by
  have hten (a b : Int) (hle : a ≤ b) : (10 : ℚ) ^ b = 10 ^ (b - a).toNat * 10 ^ a := by
    rw [← zpow_natCast, ← zpow_add₀ (by norm_num), Int.toNat_of_nonneg (by omega), sub_add_cancel]
  have hpos (a : Int) : (10 : ℚ) ^ a ≠ 0 := by positivity
  rcases le_total g e with hle | hle
  · apply HasDigits.of_lt
    rw [hten g e hle, ← mul_assoc, mul_left_inj' (hpos g)] at h
    have hnat : n * 10 ^ (e - g).toNat = c := by exact_mod_cast h
    have hmul : n * 1 ≤ n * 10 ^ (e - g).toNat := Nat.mul_le_mul_left n (Nat.pow_pos (by decide))
    omega
  · rw [hten e g hle, ← mul_assoc, mul_left_inj' (hpos e)] at h
    exact ⟨c, (g - e).toNat, hc, by exact_mod_cast h⟩

/-- A number that is not tiny has all its bits. -/
theorem Rounds.hiddenBit_le (h : Rounds q x) (hq : 1 / 10 ^ Decimal.maxScale ≤ q) :
    hiddenBit ≤ x.mantissa := by
  refine h.normal.resolve_right fun hleast => ?_
  have hnear := h.covers.near.2
  have hmantissa : (x.mantissa : ℚ) ≤ 2 * hiddenBit := by exact_mod_cast h.mantissa_lt.le
  have hunit : (2 : ℚ) ^ x.exponent ≤ 1 / 2 ^ 200 := by
    rw [hleast, one_div, ← zpow_natCast, ← zpow_neg]
    exact zpow_le_zpow_right₀ one_le_two (by decide)
  have hpos : (0 : ℚ) < 2 ^ x.exponent := by positivity
  have hmagnitude : x.magnitude ≤ 2 * hiddenBit * (1 / 2 ^ 200) :=
    mul_le_mul hmantissa hunit hpos.le (by positivity)
  have hsmall : (2 * hiddenBit * (1 / 2 ^ 200) + 1 / 2 ^ 200 : ℚ) < 1 / 10 ^ maxScale := by
    norm_num [hiddenBit, maxScale]
  linarith

theorem Rounds.mantissa_eq_zero (h : Rounds 0 x) : x.mantissa = 0 := by
  have hnear := h.covers.near.1
  have hunit : (0 : ℚ) < 2 ^ x.exponent := by positivity
  have hhalf : (x.mantissa * 2 ^ x.exponent : ℚ) ≤ 1 / 2 * 2 ^ x.exponent := by
    unfold magnitude at hnear
    linarith
  have hless : (x.mantissa : ℚ) < 1 :=
    lt_of_le_of_lt (le_of_mul_le_mul_right hhalf hunit) (by norm_num)
  exact Nat.lt_one_iff.1 (by exact_mod_cast hless)

theorem toText_eq (hzero : x.mantissa ≠ 0) : x.toText = String.ofList
    ((if x.negative then ['-'] else []) ++
      decimalText (stripZeros x.shortest.1 x.shortest.2 20).1
        (stripZeros x.shortest.1 x.shortest.2 20).2) := by
  rw [toText, if_neg hzero]

/-- **The decimal that is read from the text of a number** is the one of at most fifteen digits that
was rounded to the number. -/
theorem exists_ofText?_toText (h : Rounds q x) (hc : c < 10 ^ 15) (hq : q = c * 10 ^ g)
    (hlow : 1 / 10 ^ maxScale ≤ q) (hhigh : q < coefficientLimit) :
    ∃ d, ofText? x.toText = some d ∧ d.Rounds x.negative q := by
  have hbit := h.hiddenBit_le hlow
  have hshortest := shortest_eq hbit hc (hq ▸ h.covers)
  have hpos : 0 < q := lt_of_lt_of_le (by positivity) hlow
  have hdigits : 0 < x.shortest.1 := by
    apply Nat.pos_of_ne_zero
    intro hzero
    rw [hzero, Nat.cast_zero, zero_mul, ← hq] at hshortest
    exact absurd hshortest hpos.ne
  obtain ⟨hn, hvalue⟩ := stripZeros_spec hdigits x.shortest.2 20
  have hsame := hvalue.trans hshortest
  have htext := toText_eq (x := x) (Nat.pos_iff_ne_zero.1 (Nat.lt_of_lt_of_le (by decide) hbit))
  generalize (stripZeros x.shortest.1 x.shortest.2 20).1 = n at *
  generalize (stripZeros x.shortest.1 x.shortest.2 20).2 = e at *
  rw [hq, ← hsame] at hlow hhigh ⊢
  obtain ⟨t, ht⟩ :=
    NumberSpelling.exists_isTextOf x.negative hn (hasDigits_of_eq hc hsame) hlow hhigh
  obtain ⟨d, hd, hrounds⟩ := NumberSpelling.exists_ofText? ht.isShort
    (ht.magnitude_eq ▸ hhigh) ht.isReadable
  rw [ht.text_eq, ← htext] at hd
  rw [ht.negative_eq, ht.magnitude_eq] at hrounds
  exact ⟨d, hd, hrounds⟩

end Binary64

end ContentQuery
