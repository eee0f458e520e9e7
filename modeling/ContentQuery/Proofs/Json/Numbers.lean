import ContentQuery.Proofs.Json.RoundTrip
import ContentQuery.Proofs.Number.Literals

/-!
# Numbers in JSON

A spelling without needless zeros in front is read as one JSON number, whatever ends it
(`takeValue?_chars`, `parse?_text`). If at most fifteen of its digits count, none of these gets
lost: the number is an integer, or what `Binary64.ofDecimal?` makes of digits and an exponent that
denote the number exactly (`json_eq`).
-/

set_option autoImplicit false

namespace ContentQuery

open Json Decimal

namespace NumberSpelling

variable {t : NumberSpelling} {e : ExponentSpelling} {rest : List Char}

/-! ## Grammar -/

/-- Zero is the only digit before the point if it is the first one. -/
def IsJson (t : NumberSpelling) : Prop := t.whole.head? = some '0' → t.whole.length = 1

instance (t : NumberSpelling) : Decidable t.IsJson :=
  inferInstanceAs (Decidable (t.whole.head? = some '0' → t.whole.length = 1))

/-- A text that does not continue a number. -/
def EndsNumber (rest : List Char) : Prop :=
  ∀ c ∈ rest.head?, c.isDigit = false ∧ c ≠ '.' ∧ c ≠ 'e' ∧ c ≠ 'E'

theorem endsNumber_nil : EndsNumber [] := fun _ hc => absurd hc (Option.not_mem_none _)

/-- The value that is read. -/
def json (t : NumberSpelling) : Json :=
  numberOf t.negative t.whole t.places (decide (t.places = []) && t.exponent.isNone)
    (t.exponent.elim 0 fun e => clampExponent e.negative e.digits)

theorem takeWhile_isDigit {ds : List Char} (hds : ∀ c ∈ ds, c.isDigit = true)
    (hrest : ∀ c ∈ rest.head?, c.isDigit = false) :
    (ds ++ rest).takeWhile Char.isDigit = ds := by
  rw [List.takeWhile_append_of_pos hds]
  cases rest with
  | nil => exact List.append_nil ds
  | cons c cs => rw [List.takeWhile_cons_of_neg (by simp [hrest c rfl]), List.append_nil]

theorem takeExponent?_tail (e : ExponentSpelling) (hrest : ∀ c ∈ rest.head?, c.isDigit = false) :
    takeExponent? (e.tail ++ rest) = some (clampExponent e.negative e.digits, rest) := by
  have htake := takeWhile_isDigit e.isDigit hrest
  have hne : e.digits.isEmpty = false := by simpa using e.digits_ne_nil
  unfold takeExponent? ExponentSpelling.tail ExponentSpelling.negative
  cases hsign : e.sign with
  | none =>
    obtain ⟨c, cs, hdigits⟩ := List.exists_cons_of_ne_nil e.digits_ne_nil
    have hc := e.isDigit c (hdigits ▸ List.mem_cons_self)
    have hplus : c ≠ '+' := fun h => absurd (h ▸ hc) (by decide)
    have hminus : c ≠ '-' := fun h => absurd (h ▸ hc) (by decide)
    rw [hdigits] at htake hne
    rw [Option.toList_none, List.nil_append, hdigits]
    split
    rename_i heq
    split at heq
    · rename_i h
      exact absurd (List.cons.inj h).1 hplus
    · rename_i h
      exact absurd (List.cons.inj h).1 hminus
    · cases heq
      rw [htake]
      simp
  | some c =>
    rcases e.sign_eq c hsign with rfl | rfl
    · simp [htake, hne]
    · simp [htake, hne]

theorem EndsNumber.head?_not_digit (h : EndsNumber rest) : ∀ c ∈ rest.head?, c.isDigit = false :=
  fun c hc => (h c hc).1

/-- An exponent does not continue the digits in front of it. -/
theorem head?_exponentChars (hrest : EndsNumber rest) :
    ∀ c ∈ (t.exponentChars ++ rest).head?, c.isDigit = false ∧ c ≠ '.' := by
  intro c hc
  unfold exponentChars at hc
  cases he : t.exponent with
  | none =>
    rw [he] at hc
    exact ⟨(hrest c hc).1, (hrest c hc).2.1⟩
  | some e =>
    rw [he] at hc
    obtain rfl : e.mark = c := Option.some.inj hc
    rcases e.mark_eq with h | h <;> rw [h] <;> decide

/-- The exponent is read and what follows goes on behind it. -/
theorem bind_takeExponent? {α : Type} (hrest : EndsNumber rest)
    (next : Option Int × List Char → Option α) :
    (match t.exponentChars ++ rest with
      | 'e' :: rest => ((takeExponent? rest).map fun (e, rest) => (some e, rest)).bind next
      | 'E' :: rest => ((takeExponent? rest).map fun (e, rest) => (some e, rest)).bind next
      | _ => next (none, t.exponentChars ++ rest)) =
      next (t.exponent.map fun e => clampExponent e.negative e.digits, rest) := by
  unfold exponentChars
  cases t.exponent with
  | none =>
    rw [Option.elim_none, List.nil_append, Option.map_none]
    split
    · exact absurd rfl (hrest _ rfl).2.2.1
    · exact absurd rfl (hrest _ rfl).2.2.2
    · rfl
  | some e =>
    have htail := takeExponent?_tail e hrest.head?_not_digit
    rw [Option.elim_some, ExponentSpelling.chars, List.cons_append]
    rcases e.mark_eq with h | h <;> rw [h] <;> simp [htail]

theorem takeUnsigned?_body (hjson : t.IsJson) (hrest : EndsNumber rest) :
    takeUnsigned? t.negative (t.body ++ rest) = some (t.json, rest) := by
  have hwhole : (t.body ++ rest).takeWhile Char.isDigit = t.whole := by
    rw [body, unsigned, List.append_assoc, List.append_assoc]
    apply takeWhile_isDigit t.whole_isDigit
    intro c hc
    unfold behindPoint at hc
    split at hc
    · exact (head?_exponentChars hrest c hc).1
    · cases hc
      rfl
  have hdrop : (t.body ++ rest).drop t.whole.length =
      behindPoint t.places ++ (t.exponentChars ++ rest) := by
    rw [body, unsigned, List.append_assoc, List.append_assoc, List.drop_left]
  have hlead : (t.whole.isEmpty || t.whole.head? == some '0' && decide (1 < t.whole.length)) =
      false := by
    have hempty : t.whole.isEmpty = false := by simpa using t.whole_ne_nil
    rw [hempty, Bool.false_or, Bool.and_eq_false_imp, beq_iff_eq]
    intro h
    rw [decide_eq_false (by rw [hjson h]; decide)]
  unfold takeUnsigned? json
  simp only [hwhole, hlead, hdrop, Bool.false_eq_true, if_false]
  by_cases hplaces : t.places = []
  · rw [hplaces, behindPoint, if_pos rfl, List.nil_append]
    split
    · rename_i h
      exact absurd rfl (head?_exponentChars hrest _ (by rw [h]; rfl)).2
    · refine (bind_takeExponent? hrest fun p =>
        some (numberOf t.negative t.whole [] p.1.isNone (p.1.getD 0), p.2)).trans ?_
      cases t.exponent <;> rfl
  · have htake : (t.places ++ (t.exponentChars ++ rest)).takeWhile Char.isDigit = t.places :=
      takeWhile_isDigit t.places_isDigit fun c hc => (head?_exponentChars hrest c hc).1
    have hempty : t.places.isEmpty = false := by simpa using hplaces
    rw [behindPoint, if_neg hplaces, List.cons_append]
    simp only [htake, hempty, List.drop_left, Bool.false_eq_true, if_false]
    refine (bind_takeExponent? hrest fun p =>
      some (numberOf t.negative t.whole t.places false (p.1.getD 0), p.2)).trans ?_
    rw [decide_eq_false hplaces, Bool.false_and]
    cases t.exponent <;> rfl

/-- **A spelling is read as one number wherever it stands.** -/
theorem takeValue?_chars (hjson : t.IsJson) (hrest : EndsNumber rest) (fuel : Nat) :
    takeValue? (fuel + 1) (t.chars ++ rest) = some (t.json, rest) := by
  have hread := takeUnsigned?_body hjson hrest
  rw [chars_eq_signed, signed]
  split
  · rename_i hnegative
    rw [hnegative] at hread
    exact hread
  · rename_i hnegative
    rw [Bool.not_eq_true] at hnegative
    rw [hnegative] at hread
    obtain ⟨c, cs, hbody, hc⟩ := t.exists_body_eq_cons
    rw [hbody, List.cons_append] at hread ⊢
    have hblank : isBlank c = false := by
      simpa using Text.of_isDigit (fun c => !isBlank c) (by decide) hc
    rw [takeValue?, skipBlanks_here hblank]
    split
    case h_8 => exact hread
    all_goals
      rename_i h
      rw [(List.cons.inj h).1] at hc
      exact absurd hc (by decide)

theorem parse?_text (hjson : t.IsJson) : Json.parse? t.text = some t.json := by
  have hread := takeValue?_chars hjson endsNumber_nil t.chars.length
  rw [List.append_nil] at hread
  rw [Json.parse?, text, String.toList_ofList, hread]
  rfl

/-! ## Digits that count -/

theorem significand_of_full {n : Nat} (h : maxUInt64 < n * 10) (count : Nat) (ds : List Char) :
    Json.significand n count ds = (n, count) := by
  cases ds with
  | nil => rfl
  | cons c cs =>
    have hno : ¬n * 10 + Text.digitValue c ≤ maxUInt64 := by omega
    rw [Json.significand, if_neg hno]

/-- The digits that do not fit 64 bits are zeros if at most fifteen digits count. -/
theorem exists_significand {ds : List Char} {n : Nat} (hds : ∀ c ∈ ds, c.isDigit = true)
    (hshort : HasDigits 15 (n * 10 ^ ds.length + Text.digitsValue ds)) (count : Nat) :
    ∃ n' k, Json.significand n count ds = (n', count + k) ∧ k ≤ ds.length ∧
      n * 10 ^ ds.length + Text.digitsValue ds = n' * 10 ^ (ds.length - k) ∧
      (k < ds.length → maxUInt64 < n' * 10) := by
  induction ds generalizing n count with
  | nil => exact ⟨n, 0, rfl, le_refl 0, by simp, fun h => absurd h (Nat.lt_irrefl 0)⟩
  | cons c cs ih =>
    obtain ⟨hdigit, hcs⟩ := List.forall_mem_cons.1 hds
    rw [Json.significand]
    by_cases hfits : n * 10 + Text.digitValue c ≤ maxUInt64
    · rw [Text.mul_pow_add_digitsValue_cons] at hshort ⊢
      obtain ⟨n', k, hread, hk, hvalue, hfull⟩ := ih hcs hshort (count + 1)
      refine ⟨n', k + 1, ?_, Nat.succ_le_succ hk, ?_, fun h => hfull (Nat.lt_of_succ_lt_succ h)⟩
      · rw [if_pos hfits, hread, Nat.add_assoc, Nat.add_comm 1]
      · rw [hvalue, List.length_cons, Nat.add_sub_add_right]
    · have hzero : Text.digitsValue (c :: cs) = 0 := by
        have hten := Text.digitValue_lt hdigit
        apply hshort.digitsValue_eq_zero _ hds
        unfold maxUInt64 at hfits
        omega
      have hc := Text.digitValue_eq_zero hzero
      refine ⟨n, 0, by rw [if_neg hfits]; rfl, Nat.zero_le _, ?_, fun _ => by omega⟩
      rw [hzero, Nat.add_zero, Nat.sub_zero]

theorem lt_mul_pow {n j : Nat} (h : maxUInt64 < n * 10) (hj : 0 < j) : maxUInt64 < n * 10 ^ j :=
  Nat.lt_of_lt_of_le h (Nat.mul_le_mul_left n (Nat.le_self_pow (Nat.pos_iff_ne_zero.1 hj) 10))

/-- What is read of the digits: `n` from the first `k` before the point, and `n'` with `k'` more
behind it. It denotes their number, scaled for those that are left out. -/
structure DigitsRead (t : NumberSpelling) (n k n' k' : Nat) : Prop where
  whole : Json.significand 0 0 t.whole = (n, k)
  places : Json.significand n 0 t.places = (n', k')
  value_whole : k = t.whole.length → n = Text.digitsValue t.whole
  value : (n' * 10 ^ ((t.whole.length - k : Nat) - k' : Int) : ℚ) = t.baseMagnitude
  exact : t.significand ≤ maxUInt64 →
    k = t.whole.length ∧ k' = t.places.length ∧ n' = t.significand

variable {n k : Nat}

/-- If digits before the point are left out, so are all behind it. -/
theorem digitsRead_of_lt (hshort : t.IsShort) (hn : Json.significand 0 0 t.whole = (n, k))
    (hvalue : Text.digitsValue t.whole = n * 10 ^ (t.whole.length - k))
    (hlt : k < t.whole.length) (hfull : maxUInt64 < n * 10) : t.DigitsRead n k n 0 := by
  have hlarge := lt_mul_pow hfull (Nat.sub_pos_of_lt hlt)
  rw [← hvalue] at hlarge
  refine ⟨hn, significand_of_full hfull 0 _, fun h => absurd h hlt.ne, ?_, fun hle => ?_⟩
  · have hplaces : Text.digitsValue t.places = 0 := by
      rw [IsShort, significand_eq] at hshort
      apply hshort.digitsValue_eq_zero _ t.places_isDigit
      unfold maxUInt64 at hlarge
      omega
    rw [baseMagnitude, significand_eq, hplaces, hvalue, Nat.cast_zero, sub_zero, zpow_natCast]
    push_cast
    field_simp
    ring
  · have hmul := Nat.mul_le_mul_left (Text.digitsValue t.whole)
      (Nat.pow_pos (n := t.places.length) (show 0 < 10 by decide))
    rw [significand_eq] at hle
    omega

theorem digitsRead_of_whole (hshort : t.IsShort)
    (hn : Json.significand 0 0 t.whole = (Text.digitsValue t.whole, t.whole.length)) :
    ∃ n' k', t.DigitsRead (Text.digitsValue t.whole) t.whole.length n' k' := by
  rw [IsShort, significand_eq] at hshort
  obtain ⟨n', k', hn', hk', hvalue, hfull⟩ := exists_significand t.places_isDigit hshort 0
  rw [Nat.zero_add] at hn'
  rw [← significand_eq] at hvalue
  refine ⟨n', k', hn, hn', fun _ => rfl, ?_, fun hle => ?_⟩
  · have hpow : (10 : ℚ) ^ t.places.length = 10 ^ (t.places.length - k') * 10 ^ k' := by
      rw [← pow_add, Nat.sub_add_cancel hk']
    rw [baseMagnitude, hvalue, hpow, Nat.sub_self, Nat.cast_zero, zero_sub, zpow_neg, zpow_natCast]
    push_cast
    field_simp
  · have hall : k' = t.places.length := by
      by_contra hne
      have hlt : k' < t.places.length := by omega
      have hlarge := lt_mul_pow (hfull hlt) (Nat.sub_pos_of_lt hlt)
      omega
    rw [hall, Nat.sub_self, Nat.pow_zero, Nat.mul_one] at hvalue
    exact ⟨rfl, hall, hvalue.symm⟩

theorem exists_digitsRead (hshort : t.IsShort) : ∃ n k n' k', t.DigitsRead n k n' k' := by
  have hzero : 0 * 10 ^ t.whole.length + Text.digitsValue t.whole = Text.digitsValue t.whole := by
    rw [Nat.zero_mul, Nat.zero_add]
  have hdigits : HasDigits 15 (Text.digitsValue t.whole) :=
    HasDigits.of_append t.places_isDigit hshort
  obtain ⟨n, k, hn, hk, hvalue, hfull⟩ :=
    exists_significand t.whole_isDigit (hzero.symm ▸ hdigits) 0
  rw [Nat.zero_add] at hn
  rw [hzero] at hvalue
  rcases Nat.lt_or_ge k t.whole.length with hlt | hge
  · exact ⟨n, k, n, 0, digitsRead_of_lt hshort hn hvalue hlt (hfull hlt)⟩
  · obtain rfl : k = t.whole.length := Nat.le_antisymm hk hge
    rw [Nat.sub_self, Nat.pow_zero, Nat.mul_one] at hvalue
    rw [← hvalue] at hn
    exact ⟨_, _, digitsRead_of_whole hshort hn⟩

/-! ## Values -/

/-- The number that is made of digits and an exponent, if it is not too large. -/
def floatOf (negative : Bool) (n : Nat) (e : Int) : Json :=
  match Binary64.ofDecimal? negative n e with
  | some x => .number (.float x)
  | none => .unreadable

theorem numberOf_eq {negative : Bool} {whole places : List Char} {n k n' k' : Nat}
    (hn : Json.significand 0 0 whole = (n, k)) (hn' : Json.significand n 0 places = (n', k'))
    (isInteger : Bool) (e : Int) : numberOf negative whole places isInteger e =
      if isInteger && k == whole.length then
        if !negative then .number (.integer n)
        else if n ≠ 0 ∧ n ≤ 9223372036854775808 then .number (.integer (-n))
        else floatOf negative n 0
      else floatOf negative n' (e + (whole.length - k : Nat) - k') := by
  unfold numberOf
  simp only [hn, hn']
  rfl

/-- An exponent that is not large is not clamped. -/
theorem elim_clampExponent (h : t.shift.natAbs ≤ maxScale) :
    (t.exponent.elim 0 fun e => clampExponent e.negative e.digits) = t.shift := by
  unfold shift at *
  cases he : t.exponent with
  | none => rfl
  | some e =>
    rw [he, Option.elim_some] at h
    have hsize : e.size ≤ maxScale := by
      unfold ExponentSpelling.value at h
      split at h <;> omega
    have hmin : min (Text.digitsValue e.digits) 2147483648 = e.size :=
      Nat.min_eq_left (hsize.trans (by decide))
    rw [Option.elim_some, Option.elim_some, clampExponent, hmin, ExponentSpelling.value]

/-- An integer with the sign and the magnitude of a spelling. -/
structure IsInteger (t : NumberSpelling) (i : Int) : Prop where
  magnitude : (i.natAbs : ℚ) = t.magnitude
  negative : i ≠ 0 → (i < 0 ↔ t.negative = true)

/-- **A short number is read from all its digits**: as an integer if there is neither a point nor an
exponent, and else from digits and an exponent that denote it. -/
theorem json_eq (hshort : t.IsShort) (hshift : t.shift.natAbs ≤ maxScale) :
    (∃ i, t.json = .number (.integer i) ∧ t.IsInteger i) ∨
    ∃ n e, t.json = floatOf t.negative n e ∧ (n * 10 ^ e : ℚ) = t.magnitude ∧
      (t.significand ≤ maxUInt64 → n = t.significand ∧ e = t.shift - t.places.length) := by
  obtain ⟨n, k, n', k', hread⟩ := exists_digitsRead hshort
  rw [json, elim_clampExponent hshift, numberOf_eq hread.whole hread.places]
  split
  · rename_i hinteger
    rw [Bool.and_eq_true, Bool.and_eq_true, decide_eq_true_eq, Option.isNone_iff_eq_none,
      beq_iff_eq] at hinteger
    obtain ⟨⟨hplaces, hexponent⟩, hcount⟩ := hinteger
    obtain rfl : n = t.significand := by
      rw [hread.value_whole hcount, significand, hplaces, List.append_nil]
    have hmagnitude : t.magnitude = t.significand := by
      rw [magnitude_of_none hexponent, baseMagnitude, hplaces, List.length_nil, pow_zero, div_one]
    split
    · rename_i hnegative
      refine .inl ⟨_, rfl, by rw [hmagnitude, Int.natAbs_natCast], fun hzero => ?_⟩
      rw [Bool.not_eq_true'] at hnegative
      rw [hnegative]
      exact iff_of_false (by omega) Bool.false_ne_true
    split
    · rename_i hnegative hsmall
      refine .inl ⟨_, rfl, by rw [hmagnitude, Int.natAbs_neg, Int.natAbs_natCast], fun hzero => ?_⟩
      rw [Bool.not_eq_true', Bool.not_eq_false] at hnegative
      rw [hnegative]
      exact iff_of_true (by omega) rfl
    · refine .inr ⟨_, 0, rfl, by rw [hmagnitude, zpow_zero, mul_one], fun _ => ⟨rfl, ?_⟩⟩
      rw [shift, hexponent, hplaces]
      rfl
  · refine .inr ⟨n', _, rfl, ?_, fun hle => ?_⟩
    · rw [magnitude, ← hread.value, add_sub_assoc, zpow_add₀ (by norm_num)]
      ring
    · obtain ⟨hk, hk', hsame⟩ := hread.exact hle
      rw [hk, hk', Nat.sub_self]
      exact ⟨hsame, by omega⟩

end NumberSpelling

end ContentQuery
