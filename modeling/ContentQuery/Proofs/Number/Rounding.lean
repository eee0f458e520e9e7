import ContentQuery.Binary64
import ContentQuery.Proofs.Number.Digits
import Mathlib.Algebra.Order.Field.Power
import Mathlib.Algebra.Order.Field.Rat
import Mathlib.Tactic.FieldSimp
import Mathlib.Tactic.GCongr
import Mathlib.Tactic.Linarith
import Mathlib.Tactic.NormNum
import Mathlib.Tactic.Positivity
import Mathlib.Tactic.Ring

/-!
# Rounding to binary numbers

`Binary64.Rounds q x`: of all numbers of the format, `x` is the one nearest to the magnitude `q`,
and the one with the even mantissa if two are. `ofRatio?_rounds` says that a quotient is rounded
this way. It is exact on natural numbers of 53 bits and on the powers of ten up to `10 ^ 22`, so
that a product or quotient of two such numbers is rounded only once (`mul?_rounds`,
`div?_rounds`).
-/

set_option autoImplicit false

namespace ContentQuery

/-! ## Powers -/

/-- A power with an integer exponent as a quotient of two powers, one of which is `1`. -/
theorem zpow_eq_div (b : ℚ) (hb : b ≠ 0) (e : Int) : b ^ e = b ^ e.toNat / b ^ (-e).toNat := by
  rw [← zpow_natCast, ← zpow_natCast, ← zpow_sub₀ hb]
  congr 1
  omega

namespace Binary64

/-! ## Magnitudes -/

/-- The magnitude of a number. -/
def magnitude (x : Binary64) : ℚ := x.mantissa * 2 ^ x.exponent

/-- The magnitudes between the midpoints to the next numbers on both sides. The midpoints go to
the even mantissa. -/
def Covers (x : Binary64) (q : ℚ) : Prop :=
  let low : ℚ := x.roundingInterval.1 * 2 ^ (x.exponent - 2)
  let high : ℚ := x.roundingInterval.2 * 2 ^ (x.exponent - 2)
  if x.mantissa % 2 = 0 then low ≤ q ∧ q ≤ high else low < q ∧ q < high

/-- `x` is a number of the format, and of these the one nearest to `q`. -/
structure Rounds (q : ℚ) (x : Binary64) : Prop where
  mantissa_lt : x.mantissa < 2 * hiddenBit
  leastExponent_le : leastExponent ≤ x.exponent
  normal : hiddenBit ≤ x.mantissa ∨ x.exponent = leastExponent
  covers : x.Covers q

theorem scaleRatio_snd_pos {n d : Nat} (hd : 0 < d) (e : Int) : 0 < (scaleRatio n d e).2 := by
  unfold scaleRatio
  split
  · exact hd
  · exact Nat.mul_pos hd (Nat.pow_pos (by decide))

theorem scaleRatio_eq (n d : Nat) (e : Int) :
    ((scaleRatio n d e).1 : ℚ) / (scaleRatio n d e).2 = n / d * 2 ^ e := by
  rw [zpow_eq_div 2 (by norm_num) e]
  unfold scaleRatio
  split
  · rename_i he
    have hneg : (-e).toNat = 0 := by omega
    rw [hneg]
    simp only [powerOfTwo_eq]
    push_cast
    ring
  · rename_i he
    have hpos : e.toNat = 0 := by omega
    rw [hpos]
    simp only [powerOfTwo_eq]
    push_cast
    ring

theorem ratio_eq (x : Binary64) : (x.ratio.1 : ℚ) / x.ratio.2 = x.magnitude := by
  rw [ratio, scaleRatio_eq, magnitude]
  simp

theorem ratio_snd_pos (x : Binary64) : 0 < x.ratio.2 := scaleRatio_snd_pos Nat.one_pos _

/-! ## Integers -/

/-- The rounded quotient is at most one half away, and an odd one is nearer. -/
theorem roundHalfEven_near (a : Nat) {b : Nat} (hb : 0 < b) :
    2 * (roundHalfEven a b * b) ≤ 2 * a + b ∧ 2 * a ≤ 2 * (roundHalfEven a b * b) + b ∧
      (roundHalfEven a b % 2 = 1 →
        2 * (roundHalfEven a b * b) < 2 * a + b ∧ 2 * a < 2 * (roundHalfEven a b * b) + b) := by
  have hdiv := Nat.div_add_mod a b
  have hmod := Nat.mod_lt a hb
  rw [Nat.mul_comm] at hdiv
  unfold roundHalfEven
  dsimp only
  split
  · omega
  split
  · rw [Nat.add_mul, Nat.one_mul]
    omega
  · -- a tie
    rcases Nat.mod_two_eq_zero_or_one (a / b) with heven | hodd
    · rw [heven, Nat.add_zero]
      omega
    · rw [hodd, Nat.add_mul, Nat.one_mul]
      omega

theorem roundHalfEven_cast (a : Nat) {b : Nat} (hb : 0 < b) :
    (roundHalfEven a b : ℚ) ≤ a / b + 1 / 2 ∧ (a / b : ℚ) ≤ roundHalfEven a b + 1 / 2 ∧
      (roundHalfEven a b % 2 = 1 → (roundHalfEven a b : ℚ) < a / b + 1 / 2 ∧
        (a / b : ℚ) < roundHalfEven a b + 1 / 2) := by
  obtain ⟨hlow, hhigh, hodd⟩ := roundHalfEven_near a hb
  generalize roundHalfEven a b = m at *
  have hb₀ : (0 : ℚ) < b := by exact_mod_cast hb
  have ha : (a : ℚ) = a / b * b := (div_mul_cancel₀ _ hb₀.ne').symm
  generalize (a : ℚ) / b = y at *
  have hcancel {u v : ℚ} (h : u * b ≤ v * b) : u ≤ v := le_of_mul_le_mul_right h hb₀
  have hcancel' {u v : ℚ} (h : u * b < v * b) : u < v := lt_of_mul_lt_mul_right h hb₀.le
  refine ⟨hcancel ?_, hcancel ?_, fun h => ⟨hcancel' ?_, hcancel' ?_⟩⟩
  · have hlow' : (2 * (m * b) : ℚ) ≤ 2 * a + b := by exact_mod_cast hlow
    linarith
  · have hhigh' : (2 * a : ℚ) ≤ 2 * (m * b) + b := by exact_mod_cast hhigh
    linarith
  · have hlow' : (2 * (m * b) : ℚ) < 2 * a + b := by exact_mod_cast (hodd h).1
    linarith
  · have hhigh' : (2 * a : ℚ) < 2 * (m * b) + b := by exact_mod_cast (hodd h).2
    linarith

/-! ## Exponents -/

variable {n d : Nat}

theorem log2_bounds (hn : 0 < n) :
    (2 : ℚ) ^ (n.log2 : Int) ≤ n ∧ (n : ℚ) < 2 ^ ((n.log2 : Int) + 1) := by
  have hle := Nat.log2_self_le (Nat.pos_iff_ne_zero.1 hn)
  have hlt := @Nat.lt_log2_self n
  constructor
  · rw [zpow_natCast]
    exact_mod_cast hle
  · rw [← Nat.cast_succ, zpow_natCast]
    exact_mod_cast hlt

/-- With the first guess of the exponent the integer part has 52 or 53 bits. -/
theorem guess_bounds (hn : 0 < n) (hd : 0 < d) :
    (2 : ℚ) ^ 51 < n / d * 2 ^ (-((n.log2 : Int) - d.log2 - 52)) ∧
      (n / d * 2 ^ (-((n.log2 : Int) - d.log2 - 52)) : ℚ) < 2 ^ 53 := by
  obtain ⟨hn₁, hn₂⟩ := log2_bounds hn
  obtain ⟨hd₁, hd₂⟩ := log2_bounds hd
  rw [zpow_add₀ two_ne_zero, zpow_one] at hn₂ hd₂
  have hscale : (2 : ℚ) ^ (-((n.log2 : Int) - d.log2 - 52)) =
      2 ^ (d.log2 : Int) / 2 ^ (n.log2 : Int) * 2 ^ 52 := by
    rw [← zpow_sub₀ two_ne_zero, ← zpow_natCast, ← zpow_add₀ two_ne_zero]
    congr 1
    push_cast
    ring
  rw [hscale]
  generalize (2 : ℚ) ^ (n.log2 : Int) = u at *
  generalize hv : (2 : ℚ) ^ (d.log2 : Int) = v at *
  have hv₀ : 0 < v := hv ▸ zpow_pos two_pos _
  have hn₀ : (0 : ℚ) < n := by exact_mod_cast hn
  have hd₀ : (0 : ℚ) < d := by exact_mod_cast hd
  have hu₀ : 0 < u := by linarith
  have hmul : (n : ℚ) / d * (v / u * 2 ^ 52) = n * v * 2 ^ 52 / (d * u) := by
    field_simp
  rw [hmul, lt_div_iff₀ (by positivity), div_lt_iff₀ (by positivity)]
  constructor
  · -- both `d < 2 * v` and `u ≤ n`
    nlinarith
  · nlinarith

theorem div_lt_iff_cast {a b : Nat} (hb : 0 < b) (k : Nat) : a / b < k ↔ (a : ℚ) / b < k := by
  have hb₀ : (0 : ℚ) < b := by exact_mod_cast hb
  rw [Nat.div_lt_iff_lt_mul hb, div_lt_iff₀ hb₀]
  exact_mod_cast Iff.rfl

/-- Divided by the power of two of the exponent, a quotient has an integer part of 53 bits, or of
fewer if the exponent is the least one. -/
theorem ratioExponent_spec (hn : 0 < n) (hd : 0 < d) :
    leastExponent ≤ ratioExponent n d ∧
      (n / d * 2 ^ (-ratioExponent n d) : ℚ) < 2 * hiddenBit ∧
      ((hiddenBit : ℚ) ≤ n / d * 2 ^ (-ratioExponent n d) ∨
        ratioExponent n d = leastExponent) := by
  obtain ⟨hlow, hhigh⟩ := guess_bounds hn hd
  generalize hguess : (n.log2 : Int) - d.log2 - 52 = guess at hlow hhigh
  -- one less than the guess if this gives 52 bits only
  obtain ⟨e, he, hlow', hhigh'⟩ : ∃ e, ratioExponent n d = max leastExponent e ∧
      (hiddenBit : ℚ) ≤ n / d * 2 ^ (-e) ∧ (n / d * 2 ^ (-e) : ℚ) < 2 * hiddenBit := by
    have hpos := scaleRatio_snd_pos (n := n) hd (-guess)
    have hsmall := div_lt_iff_cast (a := (scaleRatio n d (-guess)).1) hpos hiddenBit
    rw [scaleRatio_eq] at hsmall
    have hbit : (hiddenBit : ℚ) = 2 ^ 52 := by norm_num [hiddenBit]
    by_cases hcase : (n / d * 2 ^ (-guess) : ℚ) < hiddenBit
    · refine ⟨guess - 1, ?_, ?_⟩
      · simp only [ratioExponent, hguess, hsmall.2 hcase, if_true]
      · have htwice : (n / d * 2 ^ (-(guess - 1)) : ℚ) = n / d * 2 ^ (-guess) * 2 := by
          rw [neg_sub, sub_eq_add_neg, add_comm, zpow_add₀ two_ne_zero, zpow_one, mul_assoc]
        rw [htwice]
        constructor <;> linarith
    · refine ⟨guess, ?_, ?_⟩
      · simp only [ratioExponent, hguess, mt hsmall.1 hcase, if_false]
      · constructor <;> linarith
  rw [he]
  rcases le_total leastExponent e with hle | hle
  · rw [max_eq_right hle]
    exact ⟨hle, hhigh', .inl hlow'⟩
  · rw [max_eq_left hle]
    refine ⟨le_refl _, lt_of_le_of_lt ?_ hhigh', .inr rfl⟩
    apply mul_le_mul_of_nonneg_left _ (by positivity)
    exact zpow_le_zpow_right₀ one_le_two (by omega)

/-! ## Quotients -/

variable {negative : Bool} {x : Binary64}

/-- The bounds of a number in terms of its mantissa. -/
theorem covers_iff (y : ℚ) : x.Covers (y * 2 ^ x.exponent) ↔
    if x.mantissa % 2 = 0 then
      (x.roundingInterval.1 : ℚ) ≤ 4 * y ∧ 4 * y ≤ x.roundingInterval.2
    else (x.roundingInterval.1 : ℚ) < 4 * y ∧ 4 * y < x.roundingInterval.2 := by
  have hunit : (0 : ℚ) < 2 ^ (x.exponent - 2) := zpow_pos two_pos _
  have hfour : y * 2 ^ x.exponent = 4 * y * 2 ^ (x.exponent - 2) := by
    rw [zpow_sub₀ two_ne_zero]
    norm_num
    ring
  simp only [Covers, hfour]
  split
  · rw [mul_le_mul_iff_left₀ hunit, mul_le_mul_iff_left₀ hunit]
  · rw [mul_lt_mul_iff_left₀ hunit, mul_lt_mul_iff_left₀ hunit]

/-- A mantissa that is at most one half away from the scaled magnitude covers it, if the even one
is chosen in a tie and none below the hidden bit is passed over. -/
theorem covers_of_near {y : ℚ} (hy : 0 ≤ y) (hlow : (x.mantissa : ℚ) ≤ y + 1 / 2)
    (hhigh : y ≤ x.mantissa + 1 / 2)
    (hodd : x.mantissa % 2 = 1 → (x.mantissa : ℚ) < y + 1 / 2 ∧ y < x.mantissa + 1 / 2)
    (hhidden : x.mantissa = hiddenBit → leastExponent < x.exponent → (hiddenBit : ℚ) ≤ y + 1 / 4) :
    x.Covers (y * 2 ^ x.exponent) := by
  rw [covers_iff]
  unfold roundingInterval
  have hcast (below : Nat) : ((4 * x.mantissa - below : Nat) : ℚ) ≤
      max 0 (4 * (x.mantissa : ℚ) - below) := by
    rcases Nat.le_total below (4 * x.mantissa) with h | h
    · rw [Nat.cast_sub h]
      push_cast
      exact le_max_right _ _
    · rw [Nat.sub_eq_zero_of_le h, Nat.cast_zero]
      exact le_max_left _ _
  split
  · refine ⟨(hcast _).trans (max_le (by linarith) ?_), ?_⟩
    · split
      · rename_i h
        have := hhidden h.1 h.2
        rw [h.1]
        push_cast
        linarith
      · push_cast
        linarith
    · push_cast
      linarith
  · have hm : x.mantissa % 2 = 1 := by omega
    have hne : ¬(x.mantissa = hiddenBit ∧ leastExponent < x.exponent) := by
      rintro ⟨h, -⟩
      rw [h] at hm
      cases hm
    obtain ⟨hlow', hhigh'⟩ := hodd hm
    rw [if_neg hne, Nat.cast_sub (by omega)]
    push_cast
    constructor <;> linarith

/-- The number with the mantissa that is nearest to the scaled magnitude. -/
theorem rounds_of_near {y : ℚ} (hy : 0 ≤ y) (hlow : (x.mantissa : ℚ) ≤ y + 1 / 2)
    (hhigh : y ≤ x.mantissa + 1 / 2)
    (hodd : x.mantissa % 2 = 1 → (x.mantissa : ℚ) < y + 1 / 2 ∧ y < x.mantissa + 1 / 2)
    (hlt : x.mantissa < 2 * hiddenBit) (hleast : leastExponent ≤ x.exponent)
    (hnormal : (hiddenBit : ℚ) ≤ y ∨ x.exponent = leastExponent) :
    Rounds (y * 2 ^ x.exponent) x := by
  refine ⟨hlt, hleast, ?_, covers_of_near hy hlow hhigh hodd fun _ hless => ?_⟩
  · refine hnormal.imp_left fun hnormal => ?_
    have hcast : (hiddenBit : ℚ) < (x.mantissa + 1 : Nat) := by
      push_cast
      linarith
    exact Nat.le_of_lt_succ (by exact_mod_cast hcast)
  · rcases hnormal with hnormal | hnormal
    · linarith
    · exact absurd hnormal hless.ne'

/-- The carry to the next power of two. -/
theorem rounds_of_carry {y : ℚ} {e : Int} (hleast : leastExponent ≤ e)
    (hlow : (2 * hiddenBit : Nat) ≤ y + 1 / 2) (hlt : y < 2 * hiddenBit) :
    Rounds (y * 2 ^ e) ⟨negative, hiddenBit, e + 1⟩ := by
  push_cast at hlow
  have hbit : (1 : ℚ) ≤ hiddenBit := by norm_num [hiddenBit]
  have htwice : y * 2 ^ e = y / 2 * 2 ^ (e + 1) := by
    rw [zpow_add₀ two_ne_zero, zpow_one]
    ring
  rw [htwice]
  refine ⟨by show hiddenBit < 2 * hiddenBit; decide, by show leastExponent ≤ e + 1; omega,
    .inl (le_refl _), ?_⟩
  apply covers_of_near (by linarith)
  · show (hiddenBit : ℚ) ≤ y / 2 + 1 / 2
    linarith
  · show y / 2 ≤ hiddenBit + 1 / 2
    linarith
  · intro hodd
    have heven : hiddenBit % 2 = 0 := rfl
    exact absurd (heven.symm.trans hodd) (by decide)
  · intro _ _
    linarith

/-- A quotient has a rounded mantissa, from which a carry goes to the exponent. -/
theorem eq_of_ofRatio? (hn : n ≠ 0) (h : ofRatio? negative n d = some x) :
    ∃ m, m = roundHalfEven (scaleRatio n d (-ratioExponent n d)).1
        (scaleRatio n d (-ratioExponent n d)).2 ∧
      (m = 2 * hiddenBit ∧ x = ⟨negative, hiddenBit, ratioExponent n d + 1⟩ ∨
        m ≠ 2 * hiddenBit ∧ x = ⟨negative, m, ratioExponent n d⟩) := by
  rw [ofRatio?, if_neg hn] at h
  refine ⟨_, rfl, ?_⟩
  dsimp only at h
  split at h
  · rename_i hcarry
    split at h
    · cases h
    · exact .inl ⟨hcarry, (Option.some.inj h).symm⟩
  · rename_i hcarry
    split at h
    · cases h
    · exact .inr ⟨hcarry, (Option.some.inj h).symm⟩

/-- **A quotient is rounded to the nearest number.** -/
theorem ofRatio?_rounds (hd : 0 < d) (h : ofRatio? negative n d = some x) :
    Rounds (n / d) x := by
  by_cases hn : n = 0
  · rw [ofRatio?, if_pos hn] at h
    cases h
    refine ⟨by show 0 < 2 * hiddenBit; decide, le_refl _, .inr rfl, ?_⟩
    simp only [Covers, roundingInterval, hn]
    norm_num
    positivity
  obtain ⟨m, hm, hx⟩ := eq_of_ofRatio? hn h
  obtain ⟨hleast, hlt, hnormal⟩ := ratioExponent_spec (Nat.pos_of_ne_zero hn) hd
  have hratio := scaleRatio_eq n d (-ratioExponent n d)
  obtain ⟨hlow, hhigh, hodd⟩ := roundHalfEven_cast (scaleRatio n d (-ratioExponent n d)).1
    (scaleRatio_snd_pos (n := n) hd (-ratioExponent n d))
  rw [← hm, hratio] at hlow hhigh hodd
  generalize ratioExponent n d = e at *
  have hq : (n / d : ℚ) = n / d * 2 ^ (-e) * 2 ^ e := by
    rw [mul_assoc, ← zpow_add₀ two_ne_zero, neg_add_cancel, zpow_zero, mul_one]
  have hy : (0 : ℚ) ≤ n / d * 2 ^ (-e) := by positivity
  rw [hq]
  generalize (n / d * 2 ^ (-e) : ℚ) = y at *
  rcases hx with ⟨rfl, rfl⟩ | ⟨hcarry, rfl⟩
  · exact rounds_of_carry hleast hlow hlt
  · refine rounds_of_near (x := ⟨negative, m, e⟩) hy hlow hhigh hodd (lt_of_le_of_ne ?_ hcarry)
      hleast hnormal
    have hcast : (m : ℚ) < (2 * hiddenBit + 1 : Nat) := by
      push_cast
      linarith
    exact Nat.le_of_lt_succ (by exact_mod_cast hcast)

theorem ofRatio?_negative (h : ofRatio? negative n d = some x) : x.negative = negative := by
  by_cases hn : n = 0
  · rw [ofRatio?, if_pos hn] at h
    cases h
    rfl
  · obtain ⟨m, -, ⟨-, rfl⟩ | ⟨-, rfl⟩⟩ := eq_of_ofRatio? hn h <;> rfl

/-- A quotient that is not too large has a nearest number. -/
theorem exists_ofRatio? (negative : Bool) (hd : 0 < d) (hq : (n / d : ℚ) < 2 ^ 200) :
    ∃ x, ofRatio? negative n d = some x := by
  by_cases hn : n = 0
  · exact ⟨_, by rw [ofRatio?, if_pos hn]⟩
  obtain ⟨-, -, hnormal⟩ := ratioExponent_spec (Nat.pos_of_ne_zero hn) hd
  have hexponent : ratioExponent n d < greatestExponent := by
    rcases hnormal with hnormal | hnormal
    · by_contra hno
      have hpow : (2 : ℚ) ^ greatestExponent ≤ 2 ^ ratioExponent n d :=
        zpow_le_zpow_right₀ one_le_two (not_lt.1 hno)
      have hle : (2 : ℚ) ^ 52 * 2 ^ ratioExponent n d ≤ n / d := by
        have hmul := mul_le_mul_of_nonneg_right hnormal
          (zpow_nonneg (zero_le_two (α := ℚ)) (ratioExponent n d))
        rw [mul_assoc, ← zpow_add₀ two_ne_zero, neg_add_cancel, zpow_zero, mul_one] at hmul
        exact le_trans (by norm_num [hiddenBit]) hmul
      have hbig : (2 : ℚ) ^ 200 ≤ 2 ^ 52 * 2 ^ greatestExponent := by
        rw [← zpow_natCast, ← zpow_natCast, ← zpow_add₀ two_ne_zero]
        exact zpow_le_zpow_right₀ one_le_two (by decide)
      linarith
    · rw [hnormal]
      decide
  rw [ofRatio?, if_neg hn]
  dsimp only
  split
  · split
    · rename_i hlarge
      exact absurd hlarge (not_lt.2 (by show ratioExponent n d + 1 ≤ _; omega))
    · exact ⟨_, rfl⟩
  · split
    · rename_i hlarge
      exact absurd hlarge (not_lt.2 hexponent.le)
    · exact ⟨_, rfl⟩

/-! ## Exact results -/

theorem roundHalfEven_mul (m : Nat) {b : Nat} (hb : 0 < b) : roundHalfEven (m * b) b = m := by
  simp [roundHalfEven, Nat.mul_div_cancel m hb, hb]

/-- A quotient that is a number of the format is its own rounding. -/
theorem ofRatio?_exact (negative : Bool) (hd : 0 < d) {k : Nat} (hk : 0 < k)
    (hlt : k < 2 * hiddenBit) {j : Int} (hleast : leastExponent ≤ j) (hj : j ≤ greatestExponent)
    (hq : (n / d : ℚ) = k * 2 ^ j) :
    ∃ x, ofRatio? negative n d = some x ∧ x.magnitude = n / d := by
  have hd₀ : (0 : ℚ) < d := by exact_mod_cast hd
  have hn : n ≠ 0 := by
    rintro rfl
    rw [Nat.cast_zero, zero_div] at hq
    have hpos : (0 : ℚ) < k * 2 ^ j := by positivity
    linarith
  obtain ⟨-, hsmall, hnormal⟩ := ratioExponent_spec (Nat.pos_of_ne_zero hn) hd
  have hratio := scaleRatio_eq n d (-ratioExponent n d)
  have hb := scaleRatio_snd_pos (n := n) hd (-ratioExponent n d)
  have hb₀ : ((scaleRatio n d (-ratioExponent n d)).2 : ℚ) ≠ 0 := by exact_mod_cast hb.ne'
  -- the exponent is not greater than that of the number
  have he : ratioExponent n d ≤ j := by
    rcases hnormal with hnormal | hnormal
    · by_contra hno
      have hpow : (2 : ℚ) ^ (j + -ratioExponent n d) ≤ 2 ^ (-1 : Int) :=
        zpow_le_zpow_right₀ one_le_two (by omega)
      rw [hq, mul_assoc, ← zpow_add₀ two_ne_zero] at hnormal
      have hk₀ : (k : ℚ) < 2 * hiddenBit := by exact_mod_cast hlt
      have hmul := mul_le_mul_of_nonneg_left hpow (Nat.cast_nonneg (α := ℚ) k)
      norm_num at hmul
      linarith
    · rw [hnormal]
      exact hleast
  have hscaled : (scaleRatio n d (-ratioExponent n d)).1 =
      k * 2 ^ (j - ratioExponent n d).toNat * (scaleRatio n d (-ratioExponent n d)).2 := by
    rw [hq, mul_assoc, ← zpow_add₀ two_ne_zero, div_eq_iff hb₀, ← sub_eq_add_neg,
      ← Int.toNat_of_nonneg (sub_nonneg.2 he), zpow_natCast] at hratio
    exact_mod_cast hratio
  have hmantissa : k * 2 ^ (j - ratioExponent n d).toNat < 2 * hiddenBit := by
    have hcast : ((k * 2 ^ (j - ratioExponent n d).toNat : Nat) : ℚ) =
        n / d * 2 ^ (-ratioExponent n d) := by
      rw [← hratio, hscaled]
      push_cast
      field_simp
    rw [← hcast] at hsmall
    exact_mod_cast hsmall
  refine ⟨⟨negative, k * 2 ^ (j - ratioExponent n d).toNat, ratioExponent n d⟩, ?_, ?_⟩
  · rw [ofRatio?, if_neg hn]
    dsimp only
    rw [hscaled, roundHalfEven_mul _ hb, if_neg hmantissa.ne, if_neg (by simp; omega)]
  · rw [magnitude, hq]
    push_cast
    rw [mul_assoc, ← zpow_natCast, Int.toNat_of_nonneg (sub_nonneg.2 he), ← zpow_add₀ two_ne_zero,
      sub_add_cancel]

/-- Natural numbers of 53 bits are numbers of the format. -/
theorem ofNat?_exact (h : n < 2 * hiddenBit) : ∃ x, ofNat? n = some x ∧ x.magnitude = n := by
  rcases Nat.eq_zero_or_pos n with rfl | hn
  · refine ⟨_, rfl, ?_⟩
    simp [magnitude]
  · have hq : (n / (1 : Nat) : ℚ) = n * 2 ^ (0 : Int) := by simp
    obtain ⟨x, hx, hmagnitude⟩ :=
      ofRatio?_exact false Nat.one_pos hn h (by decide) (by decide) hq
    exact ⟨x, hx, by simpa using hmagnitude⟩

/-- So are the powers of ten up to `10 ^ 22`. -/
theorem ofNat?_powerOfTen {k : Nat} (hk : k ≤ 22) :
    ∃ x, ofNat? (powerOfTen k) = some x ∧ x.magnitude = 10 ^ k := by
  have hfive : 5 ^ k < 2 * hiddenBit :=
    lt_of_le_of_lt (Nat.pow_le_pow_right (by decide) hk) (by decide)
  have hq : (powerOfTen k / (1 : Nat) : ℚ) = (5 ^ k : Nat) * 2 ^ (k : Int) := by
    rw [zpow_natCast, powerOfTen_eq]
    push_cast
    rw [div_one, ← mul_pow]
    norm_num
  obtain ⟨x, hx, hmagnitude⟩ := ofRatio?_exact false Nat.one_pos (Nat.pow_pos (by decide)) hfive
    (by unfold leastExponent; omega) (by unfold greatestExponent; omega) hq
  refine ⟨x, hx, ?_⟩
  rw [hmagnitude, powerOfTen_eq]
  push_cast
  rw [div_one]

/-! ## Products and quotients -/

variable {y z : Binary64}

/-- **A product is rounded once.** -/
theorem mul?_rounds (h : x.magnitude * y.magnitude < 2 ^ 200) :
    ∃ z, x.mul? y = some z ∧ Rounds (x.magnitude * y.magnitude) z := by
  have hratio : ((x.ratio.1 * y.ratio.1 : Nat) : ℚ) / (x.ratio.2 * y.ratio.2 : Nat) =
      x.magnitude * y.magnitude := by
    rw [← ratio_eq, ← ratio_eq, div_mul_div_comm]
    push_cast
    rfl
  have hpos := Nat.mul_pos x.ratio_snd_pos y.ratio_snd_pos
  rw [← hratio] at h ⊢
  obtain ⟨z, hz⟩ := exists_ofRatio? (x.negative != y.negative) hpos h
  exact ⟨z, hz, ofRatio?_rounds hpos hz⟩

/-- **A quotient is rounded once.** -/
theorem div?_rounds (hy : 0 < y.magnitude) (h : x.magnitude / y.magnitude < 2 ^ 200) :
    ∃ z, x.div? y = some z ∧ Rounds (x.magnitude / y.magnitude) z := by
  have hratio : ((x.ratio.1 * y.ratio.2 : Nat) : ℚ) / (x.ratio.2 * y.ratio.1 : Nat) =
      x.magnitude / y.magnitude := by
    rw [← ratio_eq, ← ratio_eq, div_div_div_eq]
    push_cast
    rfl
  have hnumerator : 0 < y.ratio.1 := by
    apply Nat.pos_of_ne_zero
    intro hzero
    rw [← ratio_eq, hzero, Nat.cast_zero, zero_div] at hy
    exact lt_irrefl _ hy
  have hpos := Nat.mul_pos x.ratio_snd_pos hnumerator
  rw [← hratio] at h ⊢
  obtain ⟨z, hz⟩ := exists_ofRatio? (x.negative != y.negative) hpos h
  exact ⟨z, hz, ofRatio?_rounds hpos hz⟩

/-! ## Decimal numbers -/

/-- Scaling leaves the sign. -/
theorem scaleByTen?_negative {e : Int} {fuel : Nat} (h : x.scaleByTen? e fuel = some y) :
    y.negative = x.negative := by
  have hpower {k : Nat} {power : Binary64} (hp : ofNat? k = some power) :
      power.negative = false := ofRatio?_negative hp
  induction fuel generalizing x e with
  | zero =>
    cases h
    rfl
  | succ fuel ih =>
    rw [scaleByTen?] at h
    split at h
    · obtain ⟨power, hp, h⟩ := Option.bind_eq_some_iff.1 h
      split at h <;>
      · rw [ofRatio?_negative h, hpower hp, Bool.bne_false]
    split at h
    · cases h
      rfl
    split at h
    · cases h
    · obtain ⟨power, hp, h⟩ := Option.bind_eq_some_iff.1 h
      obtain ⟨z, hz, h⟩ := Option.bind_eq_some_iff.1 h
      rw [ih h, ofRatio?_negative hz, hpower hp, Bool.bne_false]

theorem ofDecimal?_negative {significand : Nat} {e : Int}
    (h : ofDecimal? negative significand e = some x) : x.negative = negative := by
  obtain ⟨y, hy, h⟩ := Option.bind_eq_some_iff.1 h
  obtain ⟨z, hz, h⟩ := Option.bind_eq_some_iff.1 h
  have hsign : z.negative = false := (scaleByTen?_negative hz).trans (ofRatio?_negative hy)
  cases negative <;> cases h
  · exact hsign
  · rw [if_pos rfl, neg, hsign]
    rfl

/-- The sign does not matter to the magnitudes that a number covers. -/
theorem Rounds.neg {q : ℚ} (h : Rounds q x) : Rounds q x.neg :=
  ⟨h.mantissa_lt, h.leastExponent_le, h.normal, h.covers⟩

/-- **Short decimals are rounded once**: those of at most 53 bits with a decimal exponent up to 22
on either side. -/
theorem ofDecimal?_rounds {e : Int} (negative : Bool) (hn : n < 2 * hiddenBit)
    (he : e.natAbs ≤ 22) : ∃ x, ofDecimal? negative n e = some x ∧ Rounds (n * 10 ^ e) x := by
  obtain ⟨x, hx, hxn⟩ := ofNat?_exact hn
  obtain ⟨power, hpower, hpowern⟩ := ofNat?_powerOfTen he
  have hscaled : ∃ z, x.scaleByTen? e 4 = some z ∧ Rounds (n * 10 ^ e) z := by
    have hle : e.natAbs ≤ 308 := by omega
    have hbits : (n : ℚ) < 2 ^ 53 := by
      have hcast : (n : ℚ) < (2 * hiddenBit : Nat) := by exact_mod_cast hn
      exact lt_of_lt_of_eq hcast (by norm_num [hiddenBit])
    have hten : (10 : ℚ) ^ e.natAbs ≤ 10 ^ 22 := pow_le_pow_right₀ (by norm_num) he
    have hone : (1 : ℚ) ≤ 10 ^ e.natAbs := one_le_pow₀ (by norm_num)
    rw [scaleByTen?, if_pos hle, hpower]
    by_cases hpos : 0 ≤ e
    · have hexponent : (10 : ℚ) ^ e = power.magnitude := by
        rw [hpowern, ← zpow_natCast, Int.natCast_natAbs, abs_of_nonneg hpos]
      rw [hexponent, ← hxn]
      simp only [Option.bind_eq_bind, Option.bind_some, if_pos hpos]
      apply mul?_rounds
      rw [hxn, hpowern]
      calc (n : ℚ) * 10 ^ e.natAbs ≤ 2 ^ 53 * 10 ^ 22 := by gcongr
        _ < 2 ^ 200 := by norm_num
    · have hexponent : (n : ℚ) * 10 ^ e = x.magnitude / power.magnitude := by
        rw [hxn, hpowern, div_eq_mul_inv, ← zpow_natCast, ← zpow_neg]
        congr 2
        omega
      rw [hexponent]
      simp only [Option.bind_eq_bind, Option.bind_some, if_neg hpos]
      apply div?_rounds
      · rw [hpowern]
        positivity
      · rw [hxn, hpowern]
        calc (n : ℚ) / 10 ^ e.natAbs ≤ n := div_le_self (Nat.cast_nonneg n) hone
          _ < 2 ^ 200 := hbits.trans (by norm_num)
  obtain ⟨z, hz, hrounds⟩ := hscaled
  refine ⟨if negative then z.neg else z, ?_, ?_⟩
  · rw [ofDecimal?, hx, Option.bind_eq_bind, Option.bind_some, hz]
    rfl
  · split
    · exact hrounds.neg
    · exact hrounds

end Binary64

end ContentQuery
