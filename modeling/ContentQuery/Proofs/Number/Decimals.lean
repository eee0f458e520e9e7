import ContentQuery.Proofs.Evaluation.KeyOrder
import ContentQuery.Proofs.Number.Digits
import Mathlib.Tactic.FieldSimp
import Mathlib.Tactic.Linarith
import Mathlib.Tactic.NormNum
import Mathlib.Tactic.Ring

/-!
# Reading decimals

`Magnitude.Rounds q m`: `m` is the magnitude `q`, rounded half up to 28 decimal places. Positional
notation of at most fifteen digits, with any number of zeros around them, is read as its rounding
(`exists_ofPlain?`), digit for digit (`readDigits_whole`, `readDigits_places`). Two decimals to
which one number is rounded are equal (`Rounds.compare_eq`), and a power of ten is multiplied
exactly (`Exact.shiftLeft?`, `Exact.shiftRight?`).
-/

set_option autoImplicit false

namespace ContentQuery.Decimal

/-! ## Rounding half up -/

/-- `n` is `q`, rounded half up. -/
def IsHalfUp (q : ℚ) (n : Nat) : Prop := n ≤ q + 1 / 2 ∧ q + 1 / 2 < n + 1

variable {q : ℚ} {a b n : Nat}

theorem IsHalfUp.eq {n' : Nat} (h : IsHalfUp q n) (h' : IsHalfUp q n') : n = n' := by
  have hlt : (n : ℚ) < (n' + 1 : Nat) := by
    push_cast
    linarith [h.1, h'.2]
  have hgt : (n' : ℚ) < (n + 1 : Nat) := by
    push_cast
    linarith [h'.1, h.2]
  have hle : n < n' + 1 := by exact_mod_cast hlt
  have hge : n' < n + 1 := by exact_mod_cast hgt
  omega

theorem isHalfUp_self (n : Nat) : IsHalfUp n n := by
  constructor <;> norm_num

theorem isHalfUp_div (a : Nat) (hb : 0 < b) : IsHalfUp (a / b) ((2 * a + b) / (2 * b)) := by
  have hb₀ : (0 : ℚ) < b := by exact_mod_cast hb
  have htwo : 0 < 2 * b := by omega
  have hle := Nat.div_mul_le_self (2 * a + b) (2 * b)
  have hlt := Nat.lt_mul_of_div_lt (Nat.lt_succ_self ((2 * a + b) / (2 * b))) htwo
  generalize (2 * a + b) / (2 * b) = m at *
  have ha : (a : ℚ) = a / b * b := (div_mul_cancel₀ _ hb₀.ne').symm
  generalize (a : ℚ) / b = y at *
  constructor
  · apply le_of_mul_le_mul_right _ hb₀
    have hle' : (m * (2 * b) : ℚ) ≤ 2 * a + b := by exact_mod_cast hle
    linarith
  · apply lt_of_mul_lt_mul_right _ hb₀.le
    have hlt' : (2 * a + b : ℚ) < (m + 1) * (2 * b) := by exact_mod_cast hlt
    linarith

/-- A proper fraction is rounded down if it is less than a half. -/
theorem isHalfUp_add_div (n : Nat) (hlt : a < b) :
    IsHalfUp (n + a / b) (if 2 * a < b then n else n + 1) := by
  have hb₀ : (0 : ℚ) < b := by exact_mod_cast Nat.zero_lt_of_lt hlt
  have hnonneg : (0 : ℚ) ≤ a / b := by positivity
  have hone : (a : ℚ) / b < 1 := by
    rw [div_lt_one hb₀]
    exact_mod_cast hlt
  split
  · rename_i h
    have hhalf : (a : ℚ) / b < 1 / 2 := by
      have hcast : (2 * a : ℚ) < b := by exact_mod_cast h
      rw [div_lt_iff₀ hb₀]
      linarith
    constructor <;> linarith
  · rename_i h
    have hhalf : (1 / 2 : ℚ) ≤ a / b := by
      have hcast : (b : ℚ) ≤ 2 * a := by exact_mod_cast not_lt.1 h
      rw [le_div_iff₀ hb₀]
      linarith
    constructor <;> push_cast <;> linarith

/-- The magnitude `q`, rounded to the places that there are. -/
structure Magnitude.Rounds (q : ℚ) (m : Magnitude) : Prop where
  coefficient_lt : m.coefficient < coefficientLimit
  scale_le : m.scale ≤ maxScale
  isHalfUp : IsHalfUp (q * 10 ^ maxScale) (m.coefficient * 10 ^ (maxScale - m.scale))

/-- A magnitude is its own rounding. -/
theorem Magnitude.rounds_of_eq {m : Magnitude} (hc : m.coefficient < coefficientLimit)
    (hs : m.scale ≤ maxScale) (h : q = m.coefficient / 10 ^ m.scale) : m.Rounds q := by
  refine ⟨hc, hs, ?_⟩
  have hcast : q * 10 ^ maxScale = (m.coefficient * 10 ^ (maxScale - m.scale) : Nat) := by
    have hpow : (10 : ℚ) ^ maxScale = 10 ^ (maxScale - m.scale) * 10 ^ m.scale := by
      rw [← pow_add, Nat.sub_add_cancel hs]
    rw [h, hpow]
    push_cast
    field_simp
  rw [hcast]
  exact isHalfUp_self _

/-! ## Places -/

/-- A digit that there is no room for rounds by its own size. -/
theorem round?_eq {m : Magnitude} {c : Char} {cs : List Char} (hc : c.isDigit = true)
    (hcs : ∀ d ∈ cs, d.isDigit = true) :
    m.round? c cs = if Text.digitValue c < 5 then some m else m.roundUp? := by
  have hall : (cs.all fun d => d.isDigit || d == '_') = true := by
    rw [List.all_eq_true]
    intro d hd
    rw [hcs d hd, Bool.true_or]
  unfold Magnitude.round?
  rw [hall]
  simp only [Bool.not_true, Bool.false_eq_true, if_false, Text.lt_five_iff hc]

theorem close?_eq {m : Magnitude} {c : Char} (hc : c.isDigit = true) (cs : List Char) :
    m.close? (c :: cs) = m.round? c cs := by
  have hline : (c == '_') = false := by
    rw [beq_eq_false_iff_ne]
    rintro rfl
    exact absurd hc (by decide)
  unfold Magnitude.close?
  dsimp only
  split
  · rename_i heq
    split at heq
    · rw [List.dropWhile_cons, hline] at heq
      cases heq
    · cases heq
  · rename_i d rest heq
    obtain ⟨rfl, rfl⟩ : c = d ∧ cs = rest := by
      split at heq
      · rw [List.dropWhile_cons, hline] at heq
        cases heq
        exact ⟨rfl, rfl⟩
      · cases heq
        exact ⟨rfl, rfl⟩
    rw [if_pos hc]

/-- The first digit without room decides, as it does for the whole rest of the number. -/
theorem exists_round? {m : Magnitude} {c : Char} {cs : List Char} (hdigit : c.isDigit = true)
    (hcs : ∀ d ∈ cs, d.isDigit = true)
    (hdigits : HasDigits 15 (m.coefficient * 10 ^ (c :: cs).length + Text.digitsValue (c :: cs)))
    (hc : m.coefficient < coefficientLimit) (hs : m.scale = maxScale) :
    ∃ m', m.round? c cs = some m' ∧
      m'.Rounds ((m.coefficient * 10 ^ (c :: cs).length + Text.digitsValue (c :: cs) : Nat) /
        10 ^ (m.scale + (c :: cs).length)) := by
  have hds : ∀ d ∈ c :: cs, d.isDigit = true := List.forall_mem_cons.2 ⟨hdigit, hcs⟩
  have hfirst := Text.two_mul_digitsValue_cons_lt c hcs
  have hround := isHalfUp_add_div m.coefficient (Text.digitsValue_lt hds)
  simp only [hfirst] at hround
  rw [round?_eq hdigit hcs]
  generalize c :: cs = ds at *
  have hscaled : ((m.coefficient * 10 ^ ds.length + Text.digitsValue ds : Nat) : ℚ) /
      10 ^ (m.scale + ds.length) * 10 ^ maxScale =
      m.coefficient + Text.digitsValue ds / (10 ^ ds.length : Nat) := by
    rw [hs, pow_add _ maxScale]
    push_cast
    field_simp
  by_cases hfive : Text.digitValue c < 5
  · rw [if_pos hfive] at hround ⊢
    refine ⟨m, rfl, hc, hs.le, ?_⟩
    rw [hscaled, hs, Nat.sub_self, Nat.pow_zero, Nat.mul_one]
    exact hround
  · rw [if_neg hfive] at hround ⊢
    -- only zeros stand behind more than fifteen digits
    have hroom : m.coefficient + 1 < coefficientLimit := by
      by_contra hno
      have hzero : Text.digitsValue ds = 0 := by
        apply hdigits.digitsValue_eq_zero _ hds
        unfold coefficientLimit at hno
        omega
      have hpos : 0 < 10 ^ ds.length := Nat.pow_pos (by decide)
      exact hfive (hfirst.1 (by omega))
    refine ⟨⟨m.coefficient + 1, m.scale⟩, by rw [Magnitude.roundUp?, if_pos hroom], hroom,
      hs.le, ?_⟩
    rw [hscaled]
    show IsHalfUp _ ((m.coefficient + 1) * 10 ^ (maxScale - m.scale))
    rw [hs, Nat.sub_self, Nat.pow_zero, Nat.mul_one]
    exact hround

/-- **Digits behind the point are rounded to the places that there are**, if there are at most
fifteen of them in all, apart from zeros. -/
theorem readDigits_places {ds : List Char} {m : Magnitude} {started : Bool}
    (hds : ∀ c ∈ ds, c.isDigit = true)
    (hdigits : HasDigits 15 (m.coefficient * 10 ^ ds.length + Text.digitsValue ds))
    (hc : m.coefficient < coefficientLimit) (hs : m.scale ≤ maxScale)
    (hstarted : started = true ∨ ds ≠ []) :
    ∃ m', readDigits true started m ds = some m' ∧
      m'.Rounds ((m.coefficient * 10 ^ ds.length + Text.digitsValue ds : Nat) /
        10 ^ (m.scale + ds.length)) := by
  induction ds generalizing m started with
  | nil =>
    obtain rfl : started = true := hstarted.resolve_right (not_not_intro rfl)
    refine ⟨m, rfl, Magnitude.rounds_of_eq hc hs ?_⟩
    simp
  | cons c cs ih =>
    obtain ⟨hdigit, hcs⟩ := List.forall_mem_cons.1 hds
    by_cases hfull : m.scale = maxScale
    · -- no room for more places
      obtain ⟨m', hm', hrounds⟩ := exists_round? hdigit hcs hdigits hc hfull
      refine ⟨m', ?_, hrounds⟩
      rw [readDigits, hfull, beq_self_eq_true, Bool.true_and, if_pos rfl, close?_eq hdigit, hm']
    have hread : readDigits true started m (c :: cs) =
        if m.coefficient * 10 + Text.digitValue c < coefficientLimit then
          readDigits true true ⟨m.coefficient * 10 + Text.digitValue c, m.scale + 1⟩ cs
        else m.round? c cs := by
      have hroom : (true && m.scale == maxScale) = false := by simpa using hfull
      rw [readDigits, hroom, hdigit]
      simp only [Bool.false_eq_true, if_false, if_true]
    rw [hread]
    by_cases hlt : m.coefficient * 10 + Text.digitValue c < coefficientLimit
    · rw [if_pos hlt]
      rw [Text.mul_pow_add_digitsValue_cons] at hdigits ⊢
      have hscale : m.scale + (c :: cs).length = m.scale + 1 + cs.length := by
        rw [List.length_cons]
        omega
      rw [hscale]
      exact ih hcs hdigits hlt (by show m.scale + 1 ≤ maxScale; omega) (.inl rfl)
    · -- no room for more digits, of which all are zeros
      have hzero : Text.digitsValue (c :: cs) = 0 := by
        apply hdigits.digitsValue_eq_zero _ hds
        have hten := Text.digitValue_lt hdigit
        unfold coefficientLimit at hlt
        omega
      have hfive : Text.digitValue c < 5 := by
        rw [Text.digitValue_eq_zero hzero]
        decide
      rw [if_neg hlt, round?_eq hdigit hcs, if_pos hfive]
      refine ⟨m, rfl, Magnitude.rounds_of_eq hc hs ?_⟩
      rw [hzero, Nat.add_zero, Nat.cast_mul, Nat.cast_pow, Nat.cast_ofNat, pow_add]
      field_simp

/-- **Digits before the point are read exactly**, if there is room for all of them. -/
theorem readDigits_whole {ws : List Char} {n : Nat} (hws : ∀ c ∈ ws, c.isDigit = true)
    (hn : n < coefficientLimit) (started : Bool) (rest : List Char) :
    readDigits false started ⟨n, 0⟩ (ws ++ rest) =
      if n * 10 ^ ws.length + Text.digitsValue ws < coefficientLimit then
        readDigits false (started || !ws.isEmpty) ⟨n * 10 ^ ws.length + Text.digitsValue ws, 0⟩ rest
      else none := by
  induction ws generalizing n started with
  | nil => simp [hn]
  | cons c cs ih =>
    obtain ⟨hdigit, hcs⟩ := List.forall_mem_cons.1 hws
    rw [Text.mul_pow_add_digitsValue_cons, List.cons_append, readDigits, Bool.false_and,
      if_neg Bool.false_ne_true, if_pos hdigit]
    by_cases hlt : n * 10 + Text.digitValue c < coefficientLimit
    · simp only [hlt, if_true, Bool.false_eq_true, if_false]
      rw [ih hcs hlt]
      simp
    · have hmul : (n * 10 + Text.digitValue c) * 1 ≤
          (n * 10 + Text.digitValue c) * 10 ^ cs.length :=
        Nat.mul_le_mul_left _ (Nat.pow_pos (by decide))
      rw [if_neg hlt, if_neg Bool.false_ne_true, if_neg (by omega)]

/-! ## Positional notation -/

/-- The places of a number, behind the point if there are any. -/
def behindPoint (places : List Char) : List Char := if places = [] then [] else '.' :: places

theorem behindPoint_of_ne_nil {places : List Char} (h : places ≠ []) :
    behindPoint places = '.' :: places := if_neg h

/-- **A number of at most fifteen digits, apart from zeros, is rounded to the places that there
are.** -/
theorem exists_readDigits {ws ps : List Char} (hne : ws ≠ []) (hws : ∀ c ∈ ws, c.isDigit = true)
    (hps : ∀ c ∈ ps, c.isDigit = true) (hdigits : HasDigits 15 (Text.digitsValue (ws ++ ps)))
    (hlt : Text.digitsValue ws < coefficientLimit) :
    ∃ m, readDigits false false ⟨0, 0⟩ (ws ++ behindPoint ps) = some m ∧
      m.Rounds (Text.digitsValue (ws ++ ps) / 10 ^ ps.length) := by
  have hread : readDigits false false ⟨0, 0⟩ (ws ++ behindPoint ps) =
      readDigits false true ⟨Text.digitsValue ws, 0⟩ (behindPoint ps) := by
    have hempty : ws.isEmpty = false := by simpa using hne
    rw [readDigits_whole hws (by decide), Nat.zero_mul, Nat.zero_add, if_pos hlt, hempty]
    rfl
  rw [Text.digitsValue_append] at hdigits ⊢
  rw [hread, behindPoint]
  split
  · rename_i hnone
    subst hnone
    refine ⟨_, rfl, Magnitude.rounds_of_eq hlt (Nat.zero_le _) ?_⟩
    simp
  · have hpoint : readDigits false true ⟨Text.digitsValue ws, 0⟩ ('.' :: ps) =
        readDigits true true ⟨Text.digitsValue ws, 0⟩ ps := rfl
    rw [hpoint]
    simpa using readDigits_places (m := ⟨Text.digitsValue ws, 0⟩) hps hdigits hlt (Nat.zero_le _)
      (.inl rfl)

theorem readDigits_eq_none {ws : List Char} (hws : ∀ c ∈ ws, c.isDigit = true)
    (hge : ¬Text.digitsValue ws < coefficientLimit) (rest : List Char) :
    readDigits false false ⟨0, 0⟩ (ws ++ rest) = none := by
  rw [readDigits_whole hws (by decide), Nat.zero_mul, Nat.zero_add, if_neg hge]

/-! ## Numbers with a sign -/

/-- The decimal of the magnitude `q`, rounded to the places that there are. Zero may lack the
sign. -/
structure Rounds (negative : Bool) (q : ℚ) (d : Decimal) : Prop where
  negative_eq : d.coefficient ≠ 0 → d.negative = negative
  magnitude : Magnitude.Rounds q ⟨d.coefficient, d.scale⟩

/-- The decimal of the magnitude `q` without rounding. -/
structure Exact (negative : Bool) (q : ℚ) (d : Decimal) : Prop where
  negative_eq : d.coefficient ≠ 0 → d.negative = negative
  magnitude : q = d.coefficient / 10 ^ d.scale

variable {negative : Bool} {d d' : Decimal}

theorem Exact.rounds (h : d.Exact negative q) : d.Rounds negative q :=
  ⟨h.negative_eq, Magnitude.rounds_of_eq d.coefficient_lt d.scale_le h.magnitude⟩

theorem pow_maxScale (d : Decimal) :
    (10 : ℚ) ^ maxScale = 10 ^ (maxScale - d.scale) * 10 ^ d.scale := by
  rw [← pow_add, Nat.sub_add_cancel d.scale_le]

/-- A number with no more places than there are is not rounded. -/
theorem Rounds.exact {n : Nat} (h : d.Rounds negative q) (hq : q * 10 ^ maxScale = n) :
    d.Exact negative q := by
  have hunits := h.magnitude.isHalfUp
  rw [hq] at hunits
  have hn := (isHalfUp_self n).eq hunits
  refine ⟨h.negative_eq, ?_⟩
  have hne : (10 : ℚ) ^ maxScale ≠ 0 := by positivity
  apply mul_right_cancel₀ hne
  rw [hq, hn, d.pow_maxScale]
  push_cast
  field_simp

/-- Numbers that are too large are not rounded to a decimal. -/
theorem Rounds.lt (h : d.Rounds negative q) : q < coefficientLimit := by
  have hupper := h.magnitude.isHalfUp.2
  have hnat : d.coefficient * 10 ^ (maxScale - d.scale) ≤ (coefficientLimit - 1) * 10 ^ maxScale :=
    Nat.mul_le_mul (Nat.le_sub_one_of_lt d.coefficient_lt)
      (Nat.pow_le_pow_right (by decide) (Nat.sub_le _ _))
  have hcast : (d.coefficient * 10 ^ (maxScale - d.scale) : Nat) + (1 : ℚ) ≤
      coefficientLimit * 10 ^ maxScale := by
    have hlt := Nat.lt_of_le_of_lt hnat (show _ < coefficientLimit * 10 ^ maxScale by decide)
    exact_mod_cast hlt
  have hpos : (0 : ℚ) < 10 ^ maxScale := by positivity
  apply lt_of_mul_lt_mul_right _ hpos.le
  linarith

/-- A zero may have any sign. -/
theorem Rounds.of_zero (h : d.Rounds negative 0) (negative' : Bool) : d.Rounds negative' 0 := by
  refine ⟨fun hzero => absurd ?_ hzero, h.magnitude⟩
  have hunits := h.magnitude.isHalfUp
  rw [zero_mul, ← Nat.cast_zero] at hunits
  have hnone := (isHalfUp_self 0).eq hunits
  exact (Nat.mul_eq_zero.1 hnone.symm).resolve_right (Nat.pow_pos (by decide)).ne'

/-- The least decimal above zero is a one in the last place. -/
theorem Exact.eq_zero_or_le (h : d.Exact negative q) : q = 0 ∨ 1 / 10 ^ maxScale ≤ q := by
  rw [h.magnitude]
  rcases Nat.eq_zero_or_pos d.coefficient with hzero | hpos
  · left
    rw [hzero, Nat.cast_zero, zero_div]
  · right
    have hone : (1 : ℚ) ≤ d.coefficient := by exact_mod_cast hpos
    have hpow : (10 : ℚ) ^ d.scale ≤ 10 ^ maxScale := pow_le_pow_right₀ (by norm_num) d.scale_le
    exact div_le_div₀ (by positivity) hone (by positivity) hpow

/-- The number of a decimal in units of the last place that there is. -/
theorem value_mul_pow (d : Decimal) : d.value * 10 ^ maxScale =
    (if d.negative then -1 else 1) * (d.coefficient * 10 ^ (maxScale - d.scale) : Nat) := by
  rw [value, numerator, d.pow_maxScale, powerOfTen_eq]
  push_cast
  cases d.negative <;> simp <;> field_simp

/-- **Two readings of one number are equal decimals.** -/
theorem Rounds.compare_eq (h : d.Rounds negative q) (h' : d'.Rounds negative q) :
    d.compare d' = .eq := by
  rw [Decimal.compare_eq, compare_eq_iff_eq]
  have hunits : d.coefficient * 10 ^ (maxScale - d.scale) =
      d'.coefficient * 10 ^ (maxScale - d'.scale) := h.magnitude.isHalfUp.eq h'.magnitude.isHalfUp
  have hpow : (10 : ℚ) ^ maxScale ≠ 0 := by positivity
  apply mul_right_cancel₀ hpow
  rw [value_mul_pow, value_mul_pow, hunits]
  by_cases hzero : d'.coefficient * 10 ^ (maxScale - d'.scale) = 0
  · rw [hzero, Nat.cast_zero, mul_zero, mul_zero]
  · have hzero' : d.coefficient ≠ 0 := by
      intro hc
      rw [← hunits, hc, Nat.zero_mul] at hzero
      exact hzero rfl
    rw [h.negative_eq hzero', h'.negative_eq (left_ne_zero_of_mul hzero)]

theorem ofParts?_eq_some_iff {c scale : Nat} : ofParts? negative c scale = some d ↔
    d.negative = negative ∧ d.coefficient = c ∧ d.scale = scale := by
  unfold ofParts?
  constructor
  · intro h
    split at h
    · cases h
      exact ⟨rfl, rfl, rfl⟩
    · cases h
  · rintro ⟨rfl, rfl, rfl⟩
    rw [dif_pos ⟨d.coefficient_lt, d.scale_le⟩]

theorem exists_ofParts? {c scale : Nat} (hc : c < coefficientLimit) (hs : scale ≤ maxScale)
    (negative : Bool) : ∃ d, ofParts? negative c scale = some d :=
  ⟨⟨negative, c, scale, hc, hs⟩, ofParts?_eq_some_iff.2 ⟨rfl, rfl, rfl⟩⟩

/-- A minus sign, if there is one, in front of a number. -/
def signed (negative : Bool) (cs : List Char) : List Char := if negative then '-' :: cs else cs

theorem ofPlain?_signed {ws : List Char} (hne : ws ≠ []) (hws : ∀ c ∈ ws, c.isDigit = true)
    (negative : Bool) (rest : List Char) : ofPlain? (signed negative (ws ++ rest)) =
      (readDigits false false ⟨0, 0⟩ (ws ++ rest)).bind fun m =>
        ofParts? (negative && m.coefficient != 0) m.coefficient m.scale := by
  obtain ⟨c, cs, rfl⟩ := List.exists_cons_of_ne_nil hne
  cases negative with
  | true => rfl
  | false =>
    have hc := hws c List.mem_cons_self
    have hminus : c ≠ '-' := fun h => absurd (h ▸ hc) (by decide)
    have hplus : c ≠ '+' := fun h => absurd (h ▸ hc) (by decide)
    show ofPlain? (c :: (cs ++ rest)) = _
    unfold ofPlain?
    split
    rename_i heq
    split at heq
    · rename_i h
      exact absurd (List.cons.inj h).1 hminus
    · rename_i h
      exact absurd (List.cons.inj h).1 hplus
    · cases heq
      rfl

/-- **Positional notation is read as the decimal of the number.** -/
theorem exists_ofPlain? {ws ps : List Char} (hne : ws ≠ []) (hws : ∀ c ∈ ws, c.isDigit = true)
    (hps : ∀ c ∈ ps, c.isDigit = true) (hdigits : HasDigits 15 (Text.digitsValue (ws ++ ps)))
    (hlt : Text.digitsValue ws < coefficientLimit) (negative : Bool) :
    ∃ d, ofPlain? (signed negative (ws ++ behindPoint ps)) = some d ∧
      d.Rounds negative (Text.digitsValue (ws ++ ps) / 10 ^ ps.length) := by
  obtain ⟨m, hm, hrounds⟩ := exists_readDigits hne hws hps hdigits hlt
  obtain ⟨d, hd⟩ := exists_ofParts? hrounds.coefficient_lt hrounds.scale_le
    (negative && m.coefficient != 0)
  refine ⟨d, by rw [ofPlain?_signed hne hws, hm, Option.bind_some, hd], ?_⟩
  obtain ⟨hsign, hc, hs⟩ := ofParts?_eq_some_iff.1 hd
  refine ⟨fun hzero => ?_, ?_⟩
  · rw [hsign, bne_iff_ne.2 (hc ▸ hzero), Bool.and_true]
  · rw [hc, hs]
    exact hrounds

theorem ofPlain?_eq_none {ws : List Char} (hne : ws ≠ []) (hws : ∀ c ∈ ws, c.isDigit = true)
    (hge : ¬Text.digitsValue ws < coefficientLimit) (negative : Bool) (rest : List Char) :
    ofPlain? (signed negative (ws ++ rest)) = none := by
  rw [ofPlain?_signed hne hws, readDigits_eq_none hws hge, Option.bind_none]

/-! ## Exponents -/

variable {n : Nat}

/-- A power of ten is multiplied exactly, and no larger one than there are places. -/
theorem Exact.shiftLeft? (h : d.Exact negative q) (hshift : d.shiftLeft? n = some d') :
    d'.Exact negative (q * 10 ^ n) ∧ n ≤ maxScale := by
  unfold Decimal.shiftLeft? at hshift
  split at hshift
  · rename_i hn
    obtain ⟨hsign, hc, hs⟩ := ofParts?_eq_some_iff.1 hshift
    refine ⟨⟨fun hzero => ?_, ?_⟩, hn.trans d.scale_le⟩
    · rw [hsign, h.negative_eq (hc ▸ hzero)]
    · have hpow : (10 : ℚ) ^ d.scale = 10 ^ (d.scale - n) * 10 ^ n := by
        rw [← pow_add, Nat.sub_add_cancel hn]
      rw [h.magnitude, hc, hs, hpow]
      field_simp
  split at hshift
  · rename_i hn hmax
    obtain ⟨hsign, hc, hs⟩ := ofParts?_eq_some_iff.1 hshift
    refine ⟨⟨fun hzero => ?_, ?_⟩, hmax⟩
    · rw [hsign, h.negative_eq (left_ne_zero_of_mul (hc ▸ hzero))]
    · have hpow : (10 : ℚ) ^ n = 10 ^ (n - d.scale) * 10 ^ d.scale := by
        rw [← pow_add, Nat.sub_add_cancel (Nat.le_of_not_le hn)]
      rw [h.magnitude, hc, hs, hpow, powerOfTen_eq]
      push_cast
      field_simp
  · cases hshift

theorem Exact.exists_shiftLeft? (h : d.Exact negative q) (hn : n ≤ maxScale)
    (hlt : q * 10 ^ n < coefficientLimit) : ∃ d', d.shiftLeft? n = some d' := by
  unfold Decimal.shiftLeft?
  split
  · exact exists_ofParts? d.coefficient_lt (Nat.le_trans (Nat.sub_le _ _) d.scale_le) _
  · rename_i hscale
    apply exists_ofParts? _ (Nat.zero_le _)
    have hpow : (10 : ℚ) ^ n = 10 ^ (n - d.scale) * 10 ^ d.scale := by
      rw [← pow_add, Nat.sub_add_cancel (Nat.le_of_not_le hscale)]
    have hcast : q * 10 ^ n = (d.coefficient * powerOfTen (n - d.scale) : Nat) := by
      rw [h.magnitude, hpow, powerOfTen_eq]
      push_cast
      field_simp
    rw [hcast] at hlt
    exact_mod_cast hlt

/-- Division by a power of ten takes places, and is refused if there are none left. -/
theorem Exact.shiftRight? (h : d.Exact negative q) (hshift : d.shiftRight? n = some d') :
    d'.Exact negative (q / 10 ^ n) ∧ n ≤ maxScale := by
  obtain ⟨hsign, hc, hs⟩ := ofParts?_eq_some_iff.1 hshift
  refine ⟨⟨fun hzero => ?_, ?_⟩, ?_⟩
  · rw [hsign, h.negative_eq (hc ▸ hzero)]
  · rw [h.magnitude, hc, hs, pow_add, div_div]
  · have hle := d'.scale_le
    omega

/-- Division by a power of ten up to the number of places, with rounding. -/
theorem Exact.exists_shiftRightRounded? (h : d.Exact negative q) (hn : n ≤ maxScale) :
    ∃ d', d.shiftRightRounded? n = some d' ∧ d'.Rounds negative (q / 10 ^ n) := by
  unfold Decimal.shiftRightRounded?
  rw [if_neg (Nat.not_lt.2 hn)]
  split
  · rename_i hscale
    obtain ⟨d', hd'⟩ := exists_ofParts? d.coefficient_lt hscale d.negative
    exact ⟨d', hd', (h.shiftRight? hd').1.rounds⟩
  · rename_i hscale
    generalize hexcess : d.scale + n - maxScale = excess
    dsimp only
    have hunit : 0 < powerOfTen excess := powerOfTen_pos excess
    have hhalf := isHalfUp_div d.coefficient hunit
    have hsmall : (2 * d.coefficient + powerOfTen excess) / (2 * powerOfTen excess) <
        coefficientLimit := by
      rw [Nat.div_lt_iff_lt_mul (by omega)]
      have hlimit := d.coefficient_lt
      have hmul := Nat.mul_le_mul hlimit hunit
      have hten : powerOfTen excess * 2 ≤ coefficientLimit * powerOfTen excess := by
        rw [Nat.mul_comm]
        exact Nat.mul_le_mul_right _ (by decide)
      nlinarith
    obtain ⟨d', hd'⟩ := exists_ofParts? hsmall (Nat.le_refl maxScale) d.negative
    obtain ⟨hsign, hc, hs⟩ := ofParts?_eq_some_iff.1 hd'
    refine ⟨d', hd', ⟨fun hzero => ?_, by rw [hc]; exact hsmall, by rw [hs], ?_⟩⟩
    · rw [hsign]
      apply h.negative_eq
      rintro hnone
      apply hzero
      rw [hc, hnone, Nat.mul_zero, Nat.zero_add, Nat.div_eq_of_lt (by omega)]
    · have hpow : (10 : ℚ) ^ d.scale * 10 ^ n = 10 ^ excess * 10 ^ maxScale := by
        rw [← pow_add, ← pow_add]
        congr 1
        omega
      have hscaled : q / 10 ^ n * 10 ^ maxScale = d.coefficient / powerOfTen excess := by
        rw [h.magnitude, div_div, hpow, powerOfTen_eq]
        push_cast
        field_simp
      show IsHalfUp _ (d'.coefficient * 10 ^ (maxScale - d'.scale))
      rw [hscaled, hc, hs, Nat.sub_self, Nat.pow_zero, Nat.mul_one]
      exact hhalf

end ContentQuery.Decimal
