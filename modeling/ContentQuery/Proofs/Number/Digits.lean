import ContentQuery.Arithmetic
import ContentQuery.Text.Digits
import Mathlib.Tactic.IntervalCases

/-!
# The number of a row of digits

`Text.digitsValue` reads from the left, so that digits further to the left count ten times as much
(`digitsValue_append`). `HasDigits k n` says that a number has at most `k` digits apart from the
zeros at its end; such a number has nothing but zeros behind its first `k` digits
(`HasDigits.digitsValue_eq_zero`).
-/

set_option autoImplicit false

namespace ContentQuery

theorem powerOfTwo_eq (n : Nat) : powerOfTwo n = 2 ^ n := rfl

theorem powerOfTen_eq (n : Nat) : powerOfTen n = 10 ^ n := rfl

namespace Text

/-! ## Single digits -/

theorem isDigit_iff {c : Char} : c.isDigit = true ↔ 48 ≤ c.toNat ∧ c.toNat ≤ 57 := by
  simp only [Char.isDigit, Bool.and_eq_true, decide_eq_true_eq, ge_iff_le, UInt32.le_iff_toNat_le]
  exact Iff.rfl

theorem digitValue_lt {c : Char} (h : c.isDigit = true) : digitValue c < 10 := by
  have hc := isDigit_iff.1 h
  unfold digitValue
  omega

/-- Whether a digit rounds up. -/
theorem lt_five_iff {c : Char} (h : c.isDigit = true) : c < '5' ↔ digitValue c < 5 := by
  have hc := isDigit_iff.1 h
  have hlt : c < '5' ↔ c.toNat < 53 := by
    rw [Char.lt_def, UInt32.lt_iff_toNat_lt]
    exact Iff.rfl
  rw [hlt]
  unfold digitValue
  omega

/-- What holds of ten characters holds of every digit. -/
theorem of_isDigit {c : Char} (p : Char → Bool) (hp : "0123456789".toList.all p = true)
    (h : c.isDigit = true) : p c = true := by
  obtain ⟨hlow, hhigh⟩ := isDigit_iff.1 h
  have hc : c = Char.ofNat c.toNat := (Char.ofNat_toNat c).symm
  have hmem : c ∈ "0123456789".toList := by
    generalize c.toNat = n at *
    subst hc
    interval_cases n <;> decide
  exact List.all_eq_true.1 hp c hmem

/-! ## Rows of digits -/

variable {ds ds' : List Char}

theorem foldl_digits (ds : List Char) (n : Nat) :
    ds.foldl (fun n c => 10 * n + digitValue c) n = n * 10 ^ ds.length + digitsValue ds := by
  unfold digitsValue
  induction ds generalizing n with
  | nil => simp
  | cons c cs ih =>
    rw [List.foldl_cons, List.foldl_cons, ih, ih (10 * 0 + digitValue c), List.length_cons,
      Nat.pow_succ, Nat.mul_zero, Nat.zero_add, Nat.add_mul, Nat.add_assoc]
    congr 1
    rw [Nat.mul_comm 10 n, Nat.mul_assoc, Nat.mul_comm 10]

@[simp] theorem digitsValue_nil : digitsValue [] = 0 := rfl

theorem digitsValue_append (ds ds' : List Char) :
    digitsValue (ds ++ ds') = digitsValue ds * 10 ^ ds'.length + digitsValue ds' := by
  rw [digitsValue, List.foldl_append, foldl_digits]
  rfl

theorem digitsValue_cons (c : Char) (ds : List Char) :
    digitsValue (c :: ds) = digitValue c * 10 ^ ds.length + digitsValue ds := by
  rw [← List.singleton_append, digitsValue_append]
  simp [digitsValue]

/-- One more digit of a row that is read from the left. -/
theorem mul_pow_add_digitsValue_cons (n : Nat) (c : Char) (ds : List Char) :
    n * 10 ^ (c :: ds).length + digitsValue (c :: ds) =
      (n * 10 + digitValue c) * 10 ^ ds.length + digitsValue ds := by
  rw [← foldl_digits, List.foldl_cons, foldl_digits, Nat.mul_comm 10 n]

theorem digitValue_eq_zero {c : Char} (h : digitsValue (c :: ds) = 0) : digitValue c = 0 := by
  have hpos : 0 < 10 ^ ds.length := Nat.pow_pos (by decide)
  rw [digitsValue_cons] at h
  rcases Nat.mul_eq_zero.1 (Nat.eq_zero_of_add_eq_zero_right h) with h | h
  · exact h
  · omega

theorem digitsValue_lt (h : ∀ c ∈ ds, c.isDigit = true) : digitsValue ds < 10 ^ ds.length := by
  induction ds with
  | nil => simp
  | cons c cs ih =>
    rw [List.forall_mem_cons] at h
    have hcs := ih h.2
    have hc := Nat.mul_le_mul_right (10 ^ cs.length) (Nat.le_of_lt_succ (digitValue_lt h.1))
    rw [digitsValue_cons, List.length_cons, Nat.pow_succ]
    omega

/-- The first digit tells whether a row of digits is less than the half of what it can be. -/
theorem two_mul_digitsValue_cons_lt (c : Char) (h : ∀ c ∈ ds, c.isDigit = true) :
    2 * digitsValue (c :: ds) < 10 ^ (c :: ds).length ↔ digitValue c < 5 := by
  have hds := digitsValue_lt h
  rw [digitsValue_cons, List.length_cons, Nat.pow_succ]
  constructor
  · intro hlt
    by_contra hge
    have hmul := Nat.mul_le_mul_right (10 ^ ds.length) (Nat.le_of_not_lt hge)
    omega
  · intro hlt
    have hmul := Nat.mul_le_mul_right (10 ^ ds.length) (Nat.le_of_lt_succ hlt)
    omega

theorem eq_zero_of_digitsValue_eq_zero (hds : ∀ c ∈ ds, c.isDigit = true)
    (h : digitsValue ds = 0) : ∀ c ∈ ds, c = '0' := by
  induction ds with
  | nil => exact fun c hc => absurd hc List.not_mem_nil
  | cons c cs ih =>
    obtain ⟨hdigit, hcs⟩ := List.forall_mem_cons.1 hds
    have hc := digitValue_eq_zero h
    rw [digitsValue_cons, hc, Nat.zero_mul, Nat.zero_add] at h
    refine List.forall_mem_cons.2 ⟨?_, ih hcs h⟩
    have hzero := of_isDigit (fun c => c == '0' || digitValue c != 0) (by decide) hdigit
    simpa [hc] using hzero

theorem digitsValue_replicate_zero (n : Nat) : digitsValue (List.replicate n '0') = 0 := by
  induction n with
  | zero => rfl
  | succ n ih =>
    rw [List.replicate_succ, digitsValue_cons, ih]
    simp [digitValue]

theorem digitsValue_toDigits (n : Nat) : digitsValue (Nat.toDigits 10 n) = n :=
  Nat.ofDigitChars_ten_toDigits

theorem isDigit_of_mem_toDigits {n : Nat} {c : Char} (h : c ∈ Nat.toDigits 10 n) :
    c.isDigit = true :=
  Nat.isDigit_of_mem_toDigits (by decide) (by decide) h

/-- A number of some digits lies between two powers of ten. -/
theorem length_toDigits_bounds {n : Nat} (hn : 0 < n) :
    10 ^ ((Nat.toDigits 10 n).length - 1) ≤ n ∧ n < 10 ^ (Nat.toDigits 10 n).length := by
  have hlength := @Nat.length_toDigits_pos 10 n
  constructor
  · rcases Nat.eq_zero_or_pos ((Nat.toDigits 10 n).length - 1) with hzero | hpos
    · rw [hzero]
      exact hn
    · have hno := mt (Nat.length_toDigits_le_iff (n := n) (b := 10) (by decide) hpos).2
      exact Nat.le_of_not_lt (hno (by omega))
  · exact (Nat.length_toDigits_le_iff (by decide) hlength).1 (Nat.le_refl _)

theorem natOfDigits?_eq_some (hne : ds ≠ []) (h : ∀ c ∈ ds, c.isDigit = true) :
    natOfDigits? ds = some (digitsValue ds) := by
  have hall : ds.all Char.isDigit = true := List.all_eq_true.2 h
  have hempty : ds.isEmpty = false := by simpa using hne
  simp [natOfDigits?, hall, hempty]

theorem natOfDigits?_eq_some_iff {n : Nat} : natOfDigits? ds = some n ↔
    ds ≠ [] ∧ (∀ c ∈ ds, c.isDigit = true) ∧ digitsValue ds = n := by
  constructor
  · intro h
    unfold natOfDigits? at h
    split at h
    · rename_i hdigits
      cases h
      simpa using hdigits
    · cases h
  · rintro ⟨hne, hdigits, rfl⟩
    exact natOfDigits?_eq_some hne hdigits

/-! ## Numbers of a fixed width -/

section
variable {width n : Nat}

theorem length_digitsOf (hwidth : 0 < width) (hn : n < 10 ^ width) :
    (digitsOf width n).length = width := by
  have hle := (Nat.length_toDigits_le_iff (b := 10) (by decide) hwidth).2 hn
  rw [digitsOf, List.length_append, List.length_replicate, Nat.sub_add_cancel hle]

theorem isDigit_of_mem_digitsOf {c : Char} (h : c ∈ digitsOf width n) : c.isDigit = true := by
  rcases List.mem_append.1 h with h | h
  · rw [List.eq_of_mem_replicate h]
    rfl
  · exact isDigit_of_mem_toDigits h

theorem digitsValue_digitsOf (width n : Nat) : digitsValue (digitsOf width n) = n := by
  rw [digitsOf, digitsValue_append, digitsValue_replicate_zero, digitsValue_toDigits, Nat.zero_mul,
    Nat.zero_add]

/-- Digits are taken up to the most that there may be, or as far as they go. -/
theorem takeNumber?_append {least most : Nat} {ds k : List Char} (hds : ∀ c ∈ ds, c.isDigit = true)
    (hleast : least ≤ ds.length) (hmost : ds.length ≤ most)
    (hk : ds.length = most ∨ ∀ c ∈ k.head?, c.isDigit = false) :
    takeNumber? least most (ds ++ k) = some (digitsValue ds, k) := by
  have hnone : (k.take (most - ds.length)).takeWhile Char.isDigit = [] := by
    rcases hk with hfull | hk
    · rw [hfull, Nat.sub_self, List.take_zero, List.takeWhile_nil]
    · cases k with
      | nil => rw [List.take_nil, List.takeWhile_nil]
      | cons c k =>
        cases most - ds.length with
        | zero => rfl
        | succ n =>
          rw [List.take_succ_cons, List.takeWhile_cons_of_neg]
          rw [hk c rfl]
          exact Bool.false_ne_true
  have hdigits : ((ds ++ k).take most).takeWhile Char.isDigit = ds := by
    rw [List.take_append, List.take_of_length_le hmost, List.takeWhile_append_of_pos hds, hnone,
      List.append_nil]
  unfold takeNumber?
  rw [hdigits]
  dsimp only
  rw [if_neg (Nat.not_lt_of_le hleast), List.drop_left]

/-- A number of as many digits as are taken at most is taken whatever stands behind it. -/
theorem takeNumber?_digitsOf {least : Nat} (hleast : least ≤ width) (hwidth : 0 < width)
    (hn : n < 10 ^ width) (k : List Char) :
    takeNumber? least width (digitsOf width n ++ k) = some (n, k) := by
  have hlength := length_digitsOf hwidth hn
  rw [takeNumber?_append (fun c hc => isDigit_of_mem_digitsOf hc) (hlength.symm ▸ hleast)
    hlength.le (.inl hlength), digitsValue_digitsOf]

theorem exists_digitsOf_eq_cons (width n : Nat) :
    ∃ c cs, digitsOf width n = c :: cs ∧ c.isDigit = true := by
  cases h : digitsOf width n with
  | nil =>
    have hnil := (List.append_eq_nil_iff.1 h).2
    have hpos := @Nat.length_toDigits_pos 10 n
    rw [hnil] at hpos
    exact absurd hpos (Nat.lt_irrefl 0)
  | cons c cs => exact ⟨c, cs, rfl, isDigit_of_mem_digitsOf (h ▸ List.mem_cons_self)⟩

end

end Text

/-! ## Significant digits -/

/-- A number of at most `k` digits and zeros behind them. -/
def HasDigits (k n : Nat) : Prop := ∃ c z, c < 10 ^ k ∧ n = c * 10 ^ z

variable {k n : Nat}

theorem HasDigits.of_lt (h : n < 10 ^ k) : HasDigits k n := ⟨n, 0, h, (Nat.mul_one n).symm⟩

/-- A number that is too large for its digits alone ends in zeros. -/
theorem HasDigits.pow_dvd {j : Nat} (h : HasDigits k n) (hn : 10 ^ (k + j) ≤ n) : 10 ^ j ∣ n := by
  obtain ⟨c, z, hc, rfl⟩ := h
  have hlt : 10 ^ (k + j) < 10 ^ (k + z) := by
    rw [Nat.pow_add 10 k z]
    exact Nat.lt_of_le_of_lt hn (Nat.mul_lt_mul_of_pos_right hc (Nat.pow_pos (by decide)))
  have hz : k + j < k + z := (Nat.pow_lt_pow_iff_right (by decide)).1 hlt
  exact Nat.dvd_mul_left_of_dvd (Nat.pow_dvd_pow 10 (by omega)) c

/-- The digits in front are no more than all digits. -/
theorem HasDigits.of_append {ds ds' : List Char} (hds : ∀ c ∈ ds', c.isDigit = true)
    (h : HasDigits k (Text.digitsValue (ds ++ ds'))) : HasDigits k (Text.digitsValue ds) := by
  obtain ⟨c, z, hc, heq⟩ := h
  have hfront : Text.digitsValue ds = c * 10 ^ z / 10 ^ ds'.length := by
    have hpos : 0 < 10 ^ ds'.length := Nat.pow_pos (by decide)
    rw [← heq, Text.digitsValue_append, Nat.mul_comm, Nat.mul_add_div hpos,
      Nat.div_eq_of_lt (Text.digitsValue_lt hds), Nat.add_zero]
  rw [hfront]
  rcases Nat.le_total ds'.length z with hle | hle
  · refine ⟨c, z - ds'.length, hc, ?_⟩
    rw [Nat.mul_div_assoc c (Nat.pow_dvd_pow 10 hle), Nat.pow_div hle (by decide)]
  · apply HasDigits.of_lt
    rw [← Nat.add_sub_cancel' hle, Nat.pow_add, Nat.mul_comm c,
      Nat.mul_div_mul_left _ _ (Nat.pow_pos (by decide))]
    exact Nat.lt_of_le_of_lt (Nat.div_le_self _ _) hc

/-- Only zeros stand behind the digits that count. -/
theorem HasDigits.digitsValue_eq_zero {ds : List Char}
    (h : HasDigits k (n * 10 ^ ds.length + Text.digitsValue ds)) (hn : 10 ^ k ≤ n)
    (hds : ∀ c ∈ ds, c.isDigit = true) : Text.digitsValue ds = 0 := by
  have hmul := Nat.mul_le_mul_right (10 ^ ds.length) hn
  rw [← Nat.pow_add] at hmul
  have hdvd := h.pow_dvd (Nat.le_trans hmul (Nat.le_add_right _ _))
  exact Nat.eq_zero_of_dvd_of_lt ((Nat.dvd_add_right (Nat.dvd_mul_left _ n)).1 hdvd)
    (Text.digitsValue_lt hds)

theorem HasDigits.mul_pow (h : HasDigits k n) (j : Nat) : HasDigits k (n * 10 ^ j) := by
  obtain ⟨c, z, hc, rfl⟩ := h
  exact ⟨c, z + j, hc, by rw [Nat.pow_add, Nat.mul_assoc]⟩

/-- Behind the digits that count a number has zeros only. -/
theorem HasDigits.drop_toDigits (h : HasDigits k n) (hn : 0 < n) :
    ∀ c ∈ (Nat.toDigits 10 n).drop (k + 1), c = '0' := by
  have hdigits : ∀ c ∈ Nat.toDigits 10 n, c.isDigit = true :=
    fun c hc => Text.isDigit_of_mem_toDigits hc
  have hdrop : ∀ c ∈ (Nat.toDigits 10 n).drop (k + 1), c.isDigit = true :=
    fun c hc => hdigits c (List.mem_of_mem_drop hc)
  apply Text.eq_zero_of_digitsValue_eq_zero hdrop
  have hvalue := Text.digitsValue_toDigits n
  rw [← List.take_append_drop (k + 1) (Nat.toDigits 10 n), Text.digitsValue_append] at hvalue
  rcases Nat.lt_or_ge (k + 1) (Nat.toDigits 10 n).length with hlong | hle
  · have hbound := (Text.length_toDigits_bounds hn).1
    have hlt := Text.digitsValue_lt hdrop
    have hlength : (Nat.toDigits 10 n).length - 1 =
        k + ((Nat.toDigits 10 n).drop (k + 1)).length := by
      rw [List.length_drop]
      omega
    rw [hlength, Nat.pow_add] at hbound
    apply (hvalue.symm ▸ h).digitsValue_eq_zero _ hdrop
    generalize (Nat.toDigits 10 n).drop (k + 1) = tail at *
    apply Nat.le_of_lt_succ
    apply Nat.lt_of_mul_lt_mul_right (a := 10 ^ tail.length)
    rw [Nat.succ_mul]
    omega
  · rw [List.drop_eq_nil_of_le hle]
    rfl

end ContentQuery
