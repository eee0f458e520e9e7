import ContentQuery.Proofs.Number.Rounding

/-!
# The shortest decimal

A decimal number of at most fifteen digits is the only one that rounds to its binary number, so
that this number is written with its digits (`shortest_eq`). The decimal numbers with the places of
fifteen digits lie further apart than the binary numbers of the same size: no two of them round to
the same number (`eq_of_covers`), and the one that does is next to it (`exists_neighbour?`).
-/

set_option autoImplicit false

namespace ContentQuery.Binary64

/-! ## Reading back -/

variable {x : Binary64}

/-- Multiples of a power of two and of a power of ten are compared over one denominator. -/
theorem scaled_le_iff (k n : Nat) (q e : Int) :
    ((k * 2 ^ q : ℚ) ≤ n * 10 ^ e ↔
      k * (10 ^ (-e).toNat * 2 ^ q.toNat) ≤ n * 10 ^ e.toNat * 2 ^ (-q).toNat) ∧
    ((n * 10 ^ e : ℚ) ≤ k * 2 ^ q ↔
      n * 10 ^ e.toNat * 2 ^ (-q).toNat ≤ k * (10 ^ (-e).toNat * 2 ^ q.toNat)) := by
  have hdenominator : (0 : ℚ) < 10 ^ (-e).toNat * 2 ^ (-q).toNat := by positivity
  have hk : (k * 2 ^ q : ℚ) = (k * (10 ^ (-e).toNat * 2 ^ q.toNat) : Nat) /
      (10 ^ (-e).toNat * 2 ^ (-q).toNat) := by
    rw [zpow_eq_div 2 two_ne_zero q]
    push_cast
    field_simp
  have hn : (n * 10 ^ e : ℚ) = (n * 10 ^ e.toNat * 2 ^ (-q).toNat : Nat) /
      (10 ^ (-e).toNat * 2 ^ (-q).toNat) := by
    rw [zpow_eq_div 10 (by norm_num) e]
    push_cast
    field_simp
  rw [hk, hn, div_le_div_iff_of_pos_right hdenominator, div_le_div_iff_of_pos_right hdenominator,
    Nat.cast_le, Nat.cast_le]
  exact ⟨Iff.rfl, Iff.rfl⟩

theorem readsBack_iff (n : Nat) (e : Int) : x.readsBack n e = true ↔ x.Covers (n * 10 ^ e) := by
  obtain ⟨hlow, hlow'⟩ := scaled_le_iff x.roundingInterval.1 n (x.exponent - 2) e
  obtain ⟨hhigh, hhigh'⟩ := scaled_le_iff x.roundingInterval.2 n (x.exponent - 2) e
  simp only [readsBack, Covers, ← not_le, hlow, hlow', hhigh, hhigh', powerOfTwo_eq, powerOfTen_eq]
  split <;> simp

/-- What a number covers is at most half a unit away from it. -/
theorem Covers.near {q : ℚ} (h : x.Covers q) :
    x.magnitude - 2 ^ x.exponent / 2 ≤ q ∧ q ≤ x.magnitude + 2 ^ x.exponent / 2 := by
  have hunit : (0 : ℚ) < 2 ^ (x.exponent - 2) := zpow_pos two_pos _
  have hfour : (2 : ℚ) ^ x.exponent = 4 * 2 ^ (x.exponent - 2) := by
    rw [zpow_sub₀ two_ne_zero]
    norm_num
    ring
  have hbounds : (x.roundingInterval.1 * 2 ^ (x.exponent - 2) : ℚ) ≤ q ∧
      q ≤ x.roundingInterval.2 * 2 ^ (x.exponent - 2) := by
    unfold Covers at h
    dsimp only at h
    split at h
    · exact h
    · exact ⟨h.1.le, h.2.le⟩
  have hlow : (4 * x.mantissa - 2 : ℚ) ≤ x.roundingInterval.1 := by
    have hle : 4 * x.mantissa ≤ x.roundingInterval.1 + 2 := by
      unfold roundingInterval
      dsimp only
      split <;> omega
    have hcast : (4 * x.mantissa : ℚ) ≤ x.roundingInterval.1 + 2 := by exact_mod_cast hle
    linarith
  have hhigh : (x.roundingInterval.2 : ℚ) = 4 * x.mantissa + 2 := by
    unfold roundingInterval
    push_cast
    rfl
  rw [magnitude, hfour]
  rw [hhigh] at hbounds
  have hmul := mul_le_mul_of_nonneg_right hlow hunit.le
  constructor <;> linarith

/-! ## The size of a number -/

variable {n d : Nat}

theorem length_toDigits_bounds (hn : 0 < n) :
    (10 : ℚ) ^ (((Nat.toDigits 10 n).length : Int) - 1) ≤ n ∧
      (n : ℚ) < 10 ^ ((Nat.toDigits 10 n).length : Int) := by
  have hlength := @Nat.length_toDigits_pos 10 n
  obtain ⟨hle, hlt⟩ := Text.length_toDigits_bounds hn
  generalize (Nat.toDigits 10 n).length = k at *
  constructor
  · rw [show (k : Int) - 1 = ((k - 1 : Nat) : Int) by omega, zpow_natCast]
    exact_mod_cast hle
  · rw [zpow_natCast]
    exact_mod_cast hlt

/-- The numbers of digits leave two places for the first digit of a quotient. -/
theorem div_bounds (hn : 0 < n) (hd : 0 < d) {k : Int}
    (hk : ((Nat.toDigits 10 n).length : Int) - (Nat.toDigits 10 d).length = k) :
    (10 : ℚ) ^ (k - 1) ≤ n / d ∧ (n / d : ℚ) < 10 ^ (k + 1) := by
  obtain ⟨hn₁, hn₂⟩ := length_toDigits_bounds hn
  obtain ⟨hd₁, hd₂⟩ := length_toDigits_bounds hd
  generalize ((Nat.toDigits 10 n).length : Int) = i at *
  generalize ((Nat.toDigits 10 d).length : Int) = j at *
  have hd₀ : (0 : ℚ) < d := by exact_mod_cast hd
  have hten : (0 : ℚ) ≤ 10 := by norm_num
  constructor
  · have hmul := mul_le_mul_of_nonneg_left hd₂.le (zpow_nonneg hten (k - 1))
    rw [← zpow_add₀ (by norm_num), show k - 1 + j = i - 1 by omega] at hmul
    rw [le_div_iff₀ hd₀]
    exact hmul.trans hn₁
  · have hmul := mul_le_mul_of_nonneg_left hd₁ (zpow_nonneg hten (k + 1))
    rw [← zpow_add₀ (by norm_num), show k + 1 + (j - 1) = i by omega] at hmul
    rw [div_lt_iff₀ hd₀]
    exact lt_of_lt_of_le hn₂ hmul

/-- A quotient is compared with a power of ten in natural numbers. -/
theorem pow_le_div_iff (hd : 0 < d) (k : Int) :
    (if 0 ≤ k then d * powerOfTen k.toNat ≤ n else d ≤ n * powerOfTen (-k).toNat) ↔
      (10 : ℚ) ^ k ≤ n / d := by
  have hd₀ : (0 : ℚ) < d := by exact_mod_cast hd
  rw [le_div_iff₀ hd₀, powerOfTen_eq, powerOfTen_eq]
  split
  · rename_i hk
    rw [← Int.toNat_of_nonneg hk, zpow_natCast, Int.toNat_natCast, mul_comm]
    exact_mod_cast Iff.rfl
  · rename_i hk
    have hneg : (10 : ℚ) ^ k * 10 ^ (-k).toNat = 1 := by
      rw [← zpow_natCast, ← zpow_add₀ (by norm_num), Int.toNat_of_nonneg (by omega),
        add_neg_cancel, zpow_zero]
    have hpos : (0 : ℚ) < 10 ^ (-k).toNat := by positivity
    rw [← mul_le_mul_iff_left₀ hpos, mul_right_comm, hneg, one_mul]
    exact_mod_cast Iff.rfl

/-- A positive quotient has its first digit in the place of `decimalExponent`. -/
theorem decimalExponent_spec (hn : 0 < n) (hd : 0 < d) :
    (10 : ℚ) ^ decimalExponent n d ≤ n / d ∧ (n / d : ℚ) < 10 ^ (decimalExponent n d + 1) := by
  unfold decimalExponent
  dsimp only
  generalize hk : ((Nat.toDigits 10 n).length : Int) - (Nat.toDigits 10 d).length = k
  obtain ⟨hmore, hless⟩ := div_bounds hn hd hk
  have hreached := pow_le_div_iff (n := n) hd k
  by_cases h : (10 : ℚ) ^ k ≤ n / d
  · rw [if_pos (hreached.2 h)]
    exact ⟨h, hless⟩
  · rw [if_neg (mt hreached.1 h), sub_add_cancel]
    exact ⟨hmore, not_le.1 h⟩

/-! ## Fifteen digits -/

theorem unit_le (hx : hiddenBit ≤ x.mantissa) : 2 ^ 52 * 2 ^ x.exponent ≤ x.magnitude := by
  have hbit : (2 ^ 52 : ℚ) ≤ x.mantissa := by
    have hcast : (hiddenBit : ℚ) ≤ x.mantissa := by exact_mod_cast hx
    exact le_trans (by norm_num [hiddenBit]) hcast
  exact mul_le_mul_of_nonneg_right hbit (zpow_pos two_pos _).le

theorem pow_eq_mul (k : Int) (j : Nat) : (10 : ℚ) ^ k = 10 ^ j * 10 ^ (k - j) := by
  rw [← zpow_natCast, ← zpow_add₀ (by norm_num)]
  congr 1
  ring

/-- The binary numbers lie closer together than the decimal ones of fifteen digits. -/
theorem unit_lt {k : Int} (hx : hiddenBit ≤ x.mantissa) (hk : x.magnitude < 10 ^ (k + 1)) :
    (2 : ℚ) ^ x.exponent < 10 ^ (k - 14) := by
  have hmagnitude := unit_le hx
  have hten := pow_eq_mul (k + 1) 15
  rw [show k + 1 - (15 : Nat) = k - 14 by push_cast; ring] at hten
  have hpos : (0 : ℚ) < 10 ^ (k - 14) := by positivity
  have hless : (10 ^ 15 : ℚ) * 10 ^ (k - 14) < 2 ^ 52 * 10 ^ (k - 14) := by
    apply mul_lt_mul_of_pos_right _ hpos
    norm_num
  linarith

/-- **Of the decimals with the places of fifteen digits a number covers at most one.** -/
theorem eq_of_covers {k : Int} {a b : Nat} (hx : hiddenBit ≤ x.mantissa)
    (hk : x.magnitude < 10 ^ (k + 1)) (ha : x.Covers (a * 10 ^ (k - 14)))
    (hb : x.Covers (b * 10 ^ (k - 14))) : a = b := by
  have hpos : (0 : ℚ) < 10 ^ (k - 14) := by positivity
  have hunit := unit_lt hx hk
  have hle {a b : Nat} (ha : x.Covers (a * 10 ^ (k - 14))) (hb : x.Covers (b * 10 ^ (k - 14))) :
      a ≤ b := by
    have hlt : (a * 10 ^ (k - 14) : ℚ) < (b + 1 : Nat) * 10 ^ (k - 14) := by
      push_cast
      rw [add_mul, one_mul]
      linarith [ha.near.2, hb.near.1]
    have hcast := lt_of_mul_lt_mul_right hlt hpos.le
    exact Nat.le_of_lt_succ (by exact_mod_cast hcast)
  exact Nat.le_antisymm (hle ha hb) (hle hb ha)

/-- A decimal of fifteen digits below a power of ten is at least one unit of the last of sixteen
places away from it. -/
theorem le_of_lt_pow {c : Nat} {g k : Int} (hc : c < 10 ^ 15) (h : (c * 10 ^ g : ℚ) < 10 ^ k) :
    (c * 10 ^ g : ℚ) ≤ 10 ^ k - 10 ^ (k - 15) := by
  have hten : (10 : ℚ) ^ k = 10 ^ 15 * 10 ^ (k - 15) := pow_eq_mul k 15
  have hpos : (0 : ℚ) < 10 ^ (k - 15) := by positivity
  have hgoal : (c * 10 ^ g : ℚ) ≤ (10 ^ 15 - 1 : Nat) * 10 ^ (k - 15) := by
    rcases le_total (k - 15) g with hg | hg
    · -- a multiple of the unit
      have hmultiple : (c * 10 ^ g : ℚ) =
          (c * 10 ^ (g - (k - 15)).toNat : Nat) * 10 ^ (k - 15) := by
        push_cast
        rw [mul_assoc, ← zpow_natCast, ← zpow_add₀ (by norm_num), Int.toNat_of_nonneg (by omega),
          sub_add_cancel]
      rw [hmultiple] at h ⊢
      rw [hten] at h
      have hlt := lt_of_mul_lt_mul_right h hpos.le
      have hnat : c * 10 ^ (g - (k - 15)).toNat < 10 ^ 15 := by exact_mod_cast hlt
      apply mul_le_mul_of_nonneg_right _ hpos.le
      exact_mod_cast Nat.le_sub_one_of_lt hnat
    · apply mul_le_mul _ _ (by positivity) (Nat.cast_nonneg _)
      · exact_mod_cast Nat.le_sub_one_of_lt hc
      · exact zpow_le_zpow_right₀ (by norm_num) hg
  rw [hten]
  have hsub : ((10 ^ 15 - 1 : Nat) : ℚ) = 10 ^ 15 - 1 := by norm_num
  rw [hsub] at hgoal
  linarith

/-- No decimal of fifteen digits rounds over a power of ten. -/
theorem pow_le_of_covers {c : Nat} {g k : Int} (hx : hiddenBit ≤ x.mantissa) (hc : c < 10 ^ 15)
    (hk : (10 : ℚ) ^ k ≤ x.magnitude) (hcovers : x.Covers (c * 10 ^ g)) :
    (10 : ℚ) ^ k ≤ c * 10 ^ g := by
  by_contra hno
  have hgap := le_of_lt_pow hc (not_le.1 hno)
  have hnear := hcovers.near
  have hunit := unit_le hx
  have hten : (10 : ℚ) ^ k = 10 ^ 15 * 10 ^ (k - 15) := pow_eq_mul k 15
  have hpos : (0 : ℚ) < 10 ^ (k - 15) := by positivity
  linarith

/-- A decimal of fifteen digits from `10 ^ k` on is a multiple of its fifteenth place. -/
theorem exists_eq_mul {c : Nat} {g k : Int} (hc : c < 10 ^ 15) (hk : (10 : ℚ) ^ k ≤ c * 10 ^ g) :
    ∃ a : Nat, (c * 10 ^ g : ℚ) = a * 10 ^ (k - 14) := by
  have hg : k - 14 ≤ g := by
    by_contra hno
    have hpow : (10 : ℚ) ^ g ≤ 10 ^ (k - 15) := zpow_le_zpow_right₀ (by norm_num) (by omega)
    have hten : (10 : ℚ) ^ k = 10 ^ 15 * 10 ^ (k - 15) := pow_eq_mul k 15
    have hlt : (c * 10 ^ g : ℚ) < 10 ^ 15 * 10 ^ (k - 15) := by
      apply mul_lt_mul _ hpow (by positivity) (by positivity)
      exact_mod_cast hc
    linarith
  refine ⟨c * 10 ^ (g - (k - 14)).toNat, ?_⟩
  push_cast
  rw [mul_assoc, ← zpow_natCast, ← zpow_add₀ (by norm_num), Int.toNat_of_nonneg (by omega),
    sub_add_cancel]

/-! ## Neighbours -/

/-- The exponent of the last of some digits of a number. -/
def lastPlace (x : Binary64) (count : Nat) : Int :=
  decimalExponent x.ratio.1 x.ratio.2 + 1 - count

/-- A quotient in units of a place. -/
theorem scaleByTen_eq {d : Nat} (hd : 0 < d) (n : Nat) (e : Int) : ∃ a b : Nat, 0 < b ∧
    (if 0 ≤ e then (n, d * powerOfTen e.toNat) else (n * powerOfTen (-e).toNat, d)) = (a, b) ∧
    (a / b : ℚ) * 10 ^ e = n / d := by
  have hd₀ : (d : ℚ) ≠ 0 := by exact_mod_cast hd.ne'
  by_cases he : 0 ≤ e
  · refine ⟨n, d * powerOfTen e.toNat, Nat.mul_pos hd (Nat.pow_pos (by decide)), if_pos he, ?_⟩
    have hten : (10 : ℚ) ^ e = 10 ^ e.toNat := by
      rw [← zpow_natCast, Int.toNat_of_nonneg he]
    rw [hten, powerOfTen_eq]
    push_cast
    field_simp
  · refine ⟨n * powerOfTen (-e).toNat, d, hd, if_neg he, ?_⟩
    have hten : (10 : ℚ) ^ (-e).toNat * 10 ^ e = 1 := by
      rw [← zpow_natCast, ← zpow_add₀ (by norm_num), Int.toNat_of_nonneg (by omega),
        neg_add_cancel, zpow_zero]
    rw [powerOfTen_eq]
    push_cast
    rw [div_mul_eq_mul_div, mul_assoc, hten, mul_one]

/-- The neighbours of a number are the integers next to it in units of the last place. -/
theorem neighbour?_eq (x : Binary64) (count : Nat) : ∃ (a b : Nat) (candidates : List Nat), 0 < b ∧
    (a / b : ℚ) * 10 ^ x.lastPlace count = x.magnitude ∧
    a / b ∈ candidates ∧ a / b + 1 ∈ candidates ∧
    x.neighbour? count = (candidates.find? fun digits => x.readsBack digits (x.lastPlace count)).map
      fun digits => (digits, x.lastPlace count) := by
  obtain ⟨a, b, hb, hscaled, hquotient⟩ :=
    scaleByTen_eq x.ratio_snd_pos x.ratio.1 (x.lastPlace count)
  rw [ratio_eq] at hquotient
  refine ⟨a, b, if roundHalfEven a b = a / b then [a / b, a / b + 1] else [a / b + 1, a / b], hb,
    hquotient, ?_, ?_, ?_⟩
  · split <;> simp
  · split <;> simp
  · unfold lastPlace at hscaled ⊢
    simp only [neighbour?, hscaled]

theorem neighbour?_eq_some {count : Nat} {r : Nat × Int} (h : x.neighbour? count = some r) :
    r.2 = x.lastPlace count ∧ x.Covers (r.1 * 10 ^ r.2) := by
  obtain ⟨a, b, candidates, -, -, -, -, heq⟩ := neighbour?_eq x count
  rw [heq] at h
  obtain ⟨found, hfound, h⟩ := Option.map_eq_some_iff.1 h
  cases h
  have hreads := List.find?_some hfound
  exact ⟨rfl, (readsBack_iff _ _).1 hreads⟩

/-- A decimal that rounds to a number is one of its neighbours, if its last place is worth more
than the unit of the number. -/
theorem exists_neighbour? {count c : Nat} (hcovers : x.Covers (c * 10 ^ x.lastPlace count))
    (hunit : (2 : ℚ) ^ x.exponent < 10 ^ x.lastPlace count) : ∃ r, x.neighbour? count = some r := by
  obtain ⟨a, b, candidates, hb, hquotient, hfloor, hceiling, heq⟩ := neighbour?_eq x count
  have hten : (0 : ℚ) < 10 ^ x.lastPlace count := by positivity
  have hb₀ : (0 : ℚ) < b := by exact_mod_cast hb
  -- less than one away from the quotient
  have hbelow : (a : ℚ) / b < (c + 1 : Nat) := by
    apply lt_of_mul_lt_mul_right _ hten.le
    rw [hquotient]
    push_cast
    rw [add_mul, one_mul]
    linarith [hcovers.near.1]
  have habove : (c : ℚ) < a / b + 1 := by
    apply lt_of_mul_lt_mul_right _ hten.le
    rw [add_mul, one_mul, hquotient]
    linarith [hcovers.near.2]
  have hmem : c ∈ candidates := by
    have hle : a / b < c + 1 := (div_lt_iff_cast hb _).2 hbelow
    have hfloor' := (div_lt_iff_cast hb _).1 (Nat.lt_succ_self (a / b))
    have hge : c < a / b + 2 := by
      have hcast : (c : ℚ) < (a / b + 2 : Nat) := by
        push_cast at hfloor' ⊢
        linarith
      exact_mod_cast hcast
    rcases (show c = a / b ∨ c = a / b + 1 by omega) with rfl | rfl
    · exact hfloor
    · exact hceiling
  have hfound : (candidates.find? fun digits =>
      x.readsBack digits (x.lastPlace count)).isSome = true :=
    List.find?_isSome.2 ⟨c, hmem, (readsBack_iff _ _).2 hcovers⟩
  obtain ⟨digits, hdigits⟩ := Option.isSome_iff_exists.1 hfound
  exact ⟨_, by rw [heq, hdigits, Option.map_some]⟩

/-- The shortest decimal has no more digits than some neighbour that reads back. -/
theorem exists_neighbour?_eq_shortest {r : Nat × Int} (h : x.neighbour? 15 = some r) :
    ∃ count ≤ 15, x.neighbour? count = some x.shortest := by
  have hcounts : (List.range 17).map (· + 1) = (List.range 15).map (· + 1) ++ [16, 17] := rfl
  have hfirst : (((List.range 15).map (· + 1)).findSome? x.neighbour?).isSome = true := by
    rw [List.findSome?_isSome_iff]
    exact ⟨15, by decide, by rw [h]; rfl⟩
  obtain ⟨found, hfound⟩ := Option.isSome_iff_exists.1 hfirst
  obtain ⟨count, hcount, hneighbour⟩ := List.exists_of_findSome?_eq_some hfound
  refine ⟨count, ?_, ?_⟩
  · obtain ⟨i, hi, rfl⟩ := List.mem_map.1 hcount
    exact List.mem_range.1 hi
  · rw [hneighbour, shortest, hcounts, List.findSome?_append, hfound]
    rfl

/-- **The shortest decimal of a number is the decimal of at most fifteen digits that rounds to
it**, if there is one. -/
theorem shortest_eq {c : Nat} {g : Int} (hx : hiddenBit ≤ x.mantissa) (hc : c < 10 ^ 15)
    (hcovers : x.Covers (c * 10 ^ g)) :
    (x.shortest.1 * 10 ^ x.shortest.2 : ℚ) = c * 10 ^ g := by
  have hpos : 0 < x.ratio.1 := by
    have hmagnitude : 0 < x.magnitude := lt_of_lt_of_le (by positivity) (unit_le hx)
    rw [← ratio_eq] at hmagnitude
    apply Nat.pos_of_ne_zero
    intro hzero
    rw [hzero, Nat.cast_zero, zero_div] at hmagnitude
    exact lt_irrefl _ hmagnitude
  obtain ⟨hlow, hhigh⟩ := decimalExponent_spec hpos x.ratio_snd_pos
  rw [ratio_eq] at hlow hhigh
  generalize hk : decimalExponent x.ratio.1 x.ratio.2 = k at hlow hhigh
  have hplace (count : Nat) : x.lastPlace count = k + 1 - count := by rw [lastPlace, hk]
  obtain ⟨a, ha⟩ := exists_eq_mul hc (pow_le_of_covers hx hc hlow hcovers)
  rw [ha] at hcovers ⊢
  -- the fifteenth attempt does not fail
  obtain ⟨r, hr⟩ : ∃ r, x.neighbour? 15 = some r := by
    have hfifteen : x.lastPlace 15 = k - 14 := by
      rw [hplace]
      push_cast
      ring
    apply exists_neighbour?
    · rw [hfifteen]
      exact hcovers
    · rw [hfifteen]
      exact unit_lt hx hhigh
  obtain ⟨count, hcount, hfound⟩ := exists_neighbour?_eq_shortest hr
  obtain ⟨he, hcovers'⟩ := neighbour?_eq_some hfound
  have hmultiple : (x.shortest.1 * 10 ^ x.shortest.2 : ℚ) =
      (x.shortest.1 * 10 ^ (15 - count) : Nat) * 10 ^ (k - 14) := by
    push_cast
    rw [mul_assoc, ← zpow_natCast, ← zpow_add₀ (by norm_num), he, hplace]
    congr 2
    omega
  rw [hmultiple] at hcovers' ⊢
  rw [eq_of_covers hx hhigh hcovers' hcovers]

end ContentQuery.Binary64
