import ContentQuery.Proofs.Number.Literals
import ContentQuery.Proofs.Run
import ContentQuery.Proofs.Statement.Tokens

/-!
# Integers as literals

`IntegerSpelling` is a row of digits with a sign or without. A token is the literal of an integer
if and only if it spells one that fits 64 bits (`integer_literals_exact`), and in a statement it is
taken as it stands.
-/

set_option autoImplicit false

namespace ContentQuery

/-- An integer as it is written. -/
structure IntegerSpelling where
  sign : Option Char
  digits : List Char
  sign_eq : ∀ c ∈ sign, c = '+' ∨ c = '-'
  digits_ne_nil : digits ≠ []
  isDigit : ∀ c ∈ digits, c.isDigit = true

namespace IntegerSpelling

variable (s : IntegerSpelling)

def chars : List Char := s.sign.toList ++ s.digits

def text : String := String.ofList s.chars

def negative : Bool := s.sign == some '-'

/-- The number that is written. -/
def value : Int :=
  if s.negative then -(Text.digitsValue s.digits : Int) else Text.digitsValue s.digits

/-- Whether the number is one of 64 bits. -/
def Fits : Prop := -9223372036854775808 ≤ s.value ∧ s.value < 9223372036854775808

instance : Decidable s.Fits := inferInstanceAs (Decidable (_ ∧ _))

/-- A spelling starts with its sign or with a digit. -/
theorem exists_chars_eq_cons :
    ∃ c cs, s.chars = c :: cs ∧ (c.isDigit = true ∨ c = '+' ∨ c = '-') := by
  cases hsign : s.sign with
  | some c => exact ⟨c, s.digits, by rw [chars, hsign]; rfl, .inr (s.sign_eq c hsign)⟩
  | none =>
    obtain ⟨c, cs, hdigits⟩ := List.exists_cons_of_ne_nil s.digits_ne_nil
    refine ⟨c, cs, by rw [chars, hsign, hdigits]; rfl, .inl (s.isDigit c ?_)⟩
    rw [hdigits]
    exact List.mem_cons_self

/-- There is one way to split the sign off. -/
theorem sign_eq_and_digits_eq {sign : Option Char} {body : List Char}
    (h : s.chars = sign.toList ++ body) (hsign : ∀ c ∈ sign, c = '+' ∨ c = '-')
    (hunsigned : sign = none → ∀ c ∈ body.head?, c ≠ '+' ∧ c ≠ '-') :
    s.sign = sign ∧ s.digits = body := by
  unfold chars at h
  cases hs : s.sign with
  | none =>
    rw [hs] at h
    cases sign with
    | none => exact ⟨rfl, h⟩
    | some c =>
      have hdigit : c.isDigit = true := s.isDigit c (by
        rw [← List.nil_append s.digits]
        exact h ▸ List.mem_cons_self)
      rcases hsign c rfl with rfl | rfl <;> cases hdigit
  | some c =>
    rw [hs] at h
    cases sign with
    | none =>
      obtain ⟨hplus, hminus⟩ := hunsigned rfl c (by rw [← List.nil_append body]; exact h ▸ rfl)
      exact ((s.sign_eq c hs).elim hplus hminus).elim
    | some d =>
      obtain ⟨rfl, hdigits⟩ := List.cons.inj h
      exact ⟨rfl, hdigits⟩

/-! ## The value of a spelling -/

theorem int64OfDigits?_digits : Literal.int64OfDigits? s.negative s.digits = int64? s.value := by
  rw [Literal.int64OfDigits?, Text.natOfDigits?_eq_some s.digits_ne_nil s.isDigit, Option.bind_some,
    value]

theorem int64?_value (h : ¬s.Fits) : int64? s.value = none := by
  unfold Fits at h
  rw [int64?, if_neg]
  omega

theorem looksNumeric_digits : Literal.looksNumeric s.digits = true := by
  obtain ⟨c, cs, hdigits⟩ := List.exists_cons_of_ne_nil s.digits_ne_nil
  have hc : c.isDigit = true := s.isDigit c (hdigits ▸ List.mem_cons_self)
  have hall : (s.digits.all fun c =>
      c.isDigit || c == '.' || c == 'e' || c == 'E' || c == '+' || c == '-') = true := by
    rw [List.all_eq_true]
    intro d hd
    simp [s.isDigit d hd]
  unfold Literal.looksNumeric
  dsimp only
  rw [hall, Bool.and_true, hdigits]
  simp only [hc, Bool.true_or]

theorem any_digits : (s.digits.any fun c => c == '.' || c == 'e' || c == 'E') = false := by
  rw [List.any_eq_false]
  intro c hc
  simpa using Text.of_isDigit (fun c => !(c == '.' || c == 'e' || c == 'E')) (by decide)
    (s.isDigit c hc)

end IntegerSpelling

namespace Literal

/-- A number is written with a sign or without, and then starts with none. -/
theorem number?_cases (token : List Char) : ∃ (sign : Option Char) (body : List Char),
    token = sign.toList ++ body ∧ (∀ c ∈ sign, c = '+' ∨ c = '-') ∧
    (sign = none → ∀ c ∈ body.head?, c ≠ '+' ∧ c ≠ '-') ∧
    number? token =
      if !looksNumeric body then none
      else if !body.any (fun c => c == '.' || c == 'e' || c == 'E') then
        (int64OfDigits? (sign == some '-') body).map .integer
      else if body.any (fun c => c == 'e' || c == 'E') then
        (Decimal.ofScientific? (if sign == some '-' then token else body)).map .decimal
      else (Decimal.ofPlain? (if sign == some '-' then token else body)).map .decimal := by
  unfold number?
  split
  rename_i sign body heq
  refine ⟨sign, body, ?_, ?_, ?_, rfl⟩ <;> split at heq <;> cases heq
  · rfl
  · rfl
  · rfl
  · simp
  · simp
  · simp
  · simp
  · simp
  · rename_i hplus hminus
    rintro - c hc
    obtain ⟨tail, rfl⟩ := List.head?_eq_some_iff.1 hc
    exact ⟨fun h => hplus tail (by rw [h]), fun h => hminus tail (by rw [h])⟩

/-- The number of a spelling, if 64 bits hold it. -/
theorem number?_spelling (s : IntegerSpelling) :
    number? s.chars = (int64? s.value).map .integer := by
  obtain ⟨sign, body, htoken, hsign, hunsigned, hnumber⟩ := number?_cases s.chars
  obtain ⟨rfl, rfl⟩ := s.sign_eq_and_digits_eq htoken hsign hunsigned
  rw [hnumber, s.looksNumeric_digits, s.any_digits]
  show (int64OfDigits? s.negative s.digits).map Value.integer = _
  rw [s.int64OfDigits?_digits]

/-- A token is the number of an integer if it spells one that fits 64 bits. -/
theorem number?_eq_integer_iff {token : List Char} {i : Int64} :
    number? token = some (.integer i) ↔
      ∃ s : IntegerSpelling, token = s.chars ∧ s.value = i.toInt := by
  obtain ⟨sign, body, htoken, hsign, hunsigned, hnumber⟩ := number?_cases token
  rw [hnumber]
  constructor
  · intro h
    split at h
    · cases h
    split at h
    · obtain ⟨j, hj, h⟩ := Option.map_eq_some_iff.1 h
      cases h
      obtain ⟨n, hn, hj⟩ := Option.bind_eq_some_iff.1 hj
      obtain ⟨hne, hdigits, rfl⟩ := Text.natOfDigits?_eq_some_iff.1 hn
      exact ⟨⟨sign, body, hsign, hne, hdigits⟩, htoken, (int64?_eq_some_iff.1 hj).symm⟩
    · split at h <;>
      · obtain ⟨d, -, h⟩ := Option.map_eq_some_iff.1 h
        cases h
  · rintro ⟨s, hs, hvalue⟩
    rw [← hnumber, hs, number?_spelling, int64?_eq_some_iff.2 hvalue.symm]
    rfl

/-- Only a number with a point or an exponent is a decimal. -/
theorem exists_mem_of_number?_eq_decimal {token : List Char} {d : Decimal}
    (h : number? token = some (.decimal d)) : ∃ c ∈ token, c = '.' ∨ c = 'e' ∨ c = 'E' := by
  obtain ⟨sign, body, rfl, -, -, hnumber⟩ := number?_cases token
  rw [hnumber] at h
  split at h
  · cases h
  split at h
  · obtain ⟨i, -, h⟩ := Option.map_eq_some_iff.1 h
    cases h
  · rename_i hmark
    rw [Bool.not_eq_true, Bool.not_eq_false', List.any_eq_true] at hmark
    obtain ⟨c, hc, hmark⟩ := hmark
    exact ⟨c, List.mem_append_right _ hc, by simpa [or_assoc] using hmark⟩

/-- A literal whose value is a number is read as a number. -/
theorem number?_of_value? {text : String} {v : Value} (h : value? text = .ok v)
    (hv : v.number?.isSome = true) : number? (Text.trim text.toList) = some v := by
  unfold value? at h
  dsimp only at h
  split at h
  · cases h
  split at h
  · cases h
    cases hv
  split at h
  · cases h
    cases hv
  split at h
  · cases hu : unquote? (String.ofList (Text.trim text.toList)) <;> rw [hu] at h <;> cases h
    cases hv
  split at h
  · obtain ⟨body, -, h⟩ := exists_of_bind_eq_ok h
    split at h
    · cases h
      cases hv
    · cases h
  · split at h
    · rename_i hnumber
      cases h
      exact hnumber
    · cases h

end Literal

/-! ## Integers in a statement -/

namespace Statement

variable {k : List Char}

/-- No place and no exponent mark of a number stands here. -/
def EndsDigits (cs : List Char) : Prop := ∀ c ∈ cs.head?, isPlace c = false ∧ isMark c = false

theorem splitNumber_digits {digits : List Char} (h : ∀ c ∈ digits, c.isDigit = true)
    (hk : EndsDigits k) : splitNumber (digits ++ k) = (digits, k) := by
  induction digits with
  | nil =>
    cases k with
    | nil => rfl
    | cons c k =>
      obtain ⟨hplace, hmark⟩ := hk c rfl
      simp only [isPlace, isMark] at hplace hmark
      rw [List.nil_append, splitNumber.eq_def]
      simp only [hplace, hmark, Bool.false_eq_true, if_false]
  | cons c digits ih =>
    rw [List.forall_mem_cons] at h
    rw [List.cons_append, splitNumber.eq_def]
    simp only [h.1, Bool.true_or, if_true, ih h.2]

theorem splitSignedNumber_chars (s : IntegerSpelling) (hk : EndsDigits k) :
    splitSignedNumber (s.chars ++ k) = (s.chars, k) := by
  have hdigits := splitNumber_digits s.isDigit hk
  rw [IntegerSpelling.chars, List.append_assoc]
  cases hsign : s.sign with
  | some c =>
    have hc : (c == '+' || c == '-') = true := by simpa using s.sign_eq c hsign
    simp only [Option.toList_some, List.singleton_append, splitSignedNumber, hc, if_true, hdigits]
  | none =>
    obtain ⟨c, cs, hcs⟩ := List.exists_cons_of_ne_nil s.digits_ne_nil
    have hc : (c == '+' || c == '-') = false := by
      have hdigit : c.isDigit = true := s.isDigit c (hcs ▸ List.mem_cons_self)
      simpa using Text.of_isDigit (fun c => !(c == '+' || c == '-')) (by decide) hdigit
    rw [Option.toList_none, List.nil_append, List.nil_append, ← hdigits, hcs, List.cons_append,
      splitSignedNumber, hc, if_neg Bool.false_ne_true]

/-- An integer is taken as it is written, after any white space. -/
theorem number_run_integer (s : IntegerSpelling) {c : Cursor}
    (hrest : afterBlanks c.rest = s.chars ++ k) (hk : EndsDigits k) :
    number.run c = .ok (s.text, { c with rest := k }) := by
  obtain ⟨d, ds, hchars, -⟩ := s.exists_chars_eq_cons
  have hempty : s.chars.isEmpty = false := by rw [hchars]; rfl
  unfold afterBlanks at hrest
  unfold number skipBlanks
  rw [StateT.run_bind, StateT.run_modify, pure_bind, StateT.run_bind, StateT.run_get, pure_bind]
  simp only [hrest, splitSignedNumber_chars s hk, hempty, Bool.false_eq_true, if_false]
  rfl

end Statement

/-- **Integers are exact.** A literal has the value of an integer if and only if it spells this
integer and 64 bits hold it; what they do not hold is an error. A decimal has a point or an exponent
in its token. In a statement, the lexer takes a spelling as a whole unless a digit, a point or an
exponent mark follows. -/
theorem integer_literals_exact :
    (∀ (text : String) (n : Int),
      (∃ i : Int64, i.toInt = n ∧ Literal.value? text = .ok (.integer i)) ↔
        (∃ s : IntegerSpelling, Text.trim text.toList = s.chars ∧ s.value = n) ∧
          -9223372036854775808 ≤ n ∧ n < 9223372036854775808) ∧
    (∀ (text : String) (s : IntegerSpelling), Text.trim text.toList = s.chars → ¬s.Fits →
      Literal.value? text = .error ⟨text, .unrecognized⟩) ∧
    (∀ (text : String) (d : Decimal), Literal.value? text = .ok (.decimal d) →
      ∃ c ∈ Text.trim text.toList, c = '.' ∨ c = 'e' ∨ c = 'E') ∧
    ∀ (s : IntegerSpelling) (c : Statement.Cursor) (k : List Char),
      Statement.afterBlanks c.rest = s.chars ++ k →
      (∀ d ∈ k.head?, d.isDigit = false ∧ d ≠ '.' ∧ d ≠ 'e' ∧ d ≠ 'E') →
      Statement.number.run c = .ok (s.text, { c with rest := k }) := by
  refine ⟨fun text n => ⟨?_, ?_⟩, ?_, ?_, ?_⟩
  · rintro ⟨i, rfl, h⟩
    have hnumber := Literal.number?_of_value? h rfl
    obtain ⟨s, hs, hvalue⟩ := Literal.number?_eq_integer_iff.1 hnumber
    exact ⟨⟨s, hs, hvalue⟩, i.le_toInt, i.toInt_lt⟩
  · rintro ⟨⟨s, hs, rfl⟩, hlow, hhigh⟩
    have hi : (Int64.ofInt s.value).toInt = s.value := Int64.toInt_ofInt_of_le hlow hhigh
    obtain ⟨c, cs, hchars, hc⟩ := s.exists_chars_eq_cons
    refine ⟨Int64.ofInt s.value, hi, ?_⟩
    rw [Literal.value?_of_trim (hs.trans hchars) hc, ← hchars,
      Literal.number?_eq_integer_iff.2 ⟨s, rfl, hi.symm⟩]
    rfl
  · intro text s hs hfits
    obtain ⟨c, cs, hchars, hc⟩ := s.exists_chars_eq_cons
    rw [Literal.value?_of_trim (hs.trans hchars) hc, ← hchars, Literal.number?_spelling,
      s.int64?_value hfits]
    rfl
  · intro text d h
    exact Literal.exists_mem_of_number?_eq_decimal (Literal.number?_of_value? h rfl)
  · intro s c k hrest hk
    refine Statement.number_run_integer s hrest fun d hd => ?_
    obtain ⟨hdigit, hpoint, he, hE⟩ := hk d hd
    simp [Statement.isPlace, Statement.isMark, hdigit, hpoint, he, hE]

/-- The least integer with white space around it and a zero in front, the first number above the
greatest one, a decimal, and a sum without blanks. -/
theorem integer_literals_exact_ends :
    (∃ i : Int64, i.toInt = -9223372036854775808 ∧
      Literal.value? " -09223372036854775808\n" = .ok (.integer i)) ∧
    Literal.value? "+9223372036854775808" = .error ⟨"+9223372036854775808", .unrecognized⟩ ∧
    (∃ c ∈ Text.trim "-1e0".toList, c = '.' ∨ c = 'e' ∨ c = 'E') ∧
    Statement.number.run (.ofText " +7-1".toList) =
      .ok ("+7", { Statement.Cursor.ofText " +7-1".toList with rest := "-1".toList }) := by
  refine ⟨?_, ?_, ?_, ?_⟩
  · refine (integer_literals_exact.1 _ _).2 ⟨⟨⟨some '-', "09223372036854775808".toList,
      by simp, by decide, by simp⟩, rfl, by decide⟩, by decide, by decide⟩
  · exact integer_literals_exact.2.1 _ ⟨some '+', "9223372036854775808".toList,
      by simp, by decide, by simp⟩ rfl (by decide)
  · have hvalue : Literal.value? "-1e0" = .ok (.decimal ⟨true, 1, 0, by decide, by decide⟩) := by
      rfl
    exact integer_literals_exact.2.2.1 _ _ hvalue
  · exact integer_literals_exact.2.2.2 ⟨some '+', ['7'], by simp, by decide, by simp⟩ _ _ rfl
      (by simp)

end ContentQuery
