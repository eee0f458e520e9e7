import ContentQuery.Arithmetic
import ContentQuery.Text.Digits

/-!
# Binary floating-point numbers

Finite numbers of 64 bits in exact integer arithmetic: rounding a quotient to the nearest number
(`Binary64.ofRatio?`), multiplication and division, and the shortest decimal text that reads back
as the same number (`Binary64.toText`).
-/

set_option autoImplicit false

namespace ContentQuery

/-- The number `± mantissa * 2 ^ exponent`. The mantissa has 53 bits, or fewer if the exponent is
the least one. -/
structure Binary64 where
  negative : Bool
  mantissa : Nat
  exponent : Int
deriving DecidableEq, Repr

namespace Binary64

def leastExponent : Int := -1074

def greatestExponent : Int := 971

/-- The greatest power of two that a mantissa can be. -/
def hiddenBit : Nat := 4503599627370496

def zero : Binary64 := ⟨false, 0, leastExponent⟩

def neg (x : Binary64) : Binary64 := { x with negative := !x.negative }

/-! ## Rounding -/

/-- `n * 2 ^ e` as a quotient, for a quotient `n / d`. -/
def scaleRatio (n d : Nat) (e : Int) : Nat × Nat :=
  if 0 ≤ e then (n * powerOfTwo e.toNat, d) else (n, d * powerOfTwo (-e).toNat)

/-- The integer nearest to `n / d`; a tie goes to the even one. -/
def roundHalfEven (n d : Nat) : Nat :=
  let q := n / d
  let r := n % d
  if 2 * r < d then q else if d < 2 * r then q + 1 else q + q % 2

/-- The exponent with which the quotient `n / d` has an integer part of 53 bits, unless that is
less than the least exponent. -/
def ratioExponent (n d : Nat) : Int :=
  let e : Int := (Nat.log2 n : Int) - Nat.log2 d - 52
  let (a, b) := scaleRatio n d (-e)
  max leastExponent (if a / b < hiddenBit then e - 1 else e)

/-- The number nearest to `n / d`, or none if that is too large. -/
def ofRatio? (negative : Bool) (n d : Nat) : Option Binary64 :=
  if n = 0 then some ⟨negative, 0, leastExponent⟩
  else
    let e := ratioExponent n d
    let (a, b) := scaleRatio n d (-e)
    let m := roundHalfEven a b
    let (m, e) := if m = 2 * hiddenBit then (hiddenBit, e + 1) else (m, e)
    if greatestExponent < e then none else some ⟨negative, m, e⟩

def ofNat? (n : Nat) : Option Binary64 := ofRatio? false n 1

/-- The magnitude of a number as a quotient. -/
def ratio (x : Binary64) : Nat × Nat := scaleRatio x.mantissa 1 x.exponent

/-- The product, rounded. -/
def mul? (x y : Binary64) : Option Binary64 :=
  let (a, b) := x.ratio
  let (c, d) := y.ratio
  ofRatio? (x.negative != y.negative) (a * c) (b * d)

/-- The quotient, rounded. The divisor is not zero. -/
def div? (x y : Binary64) : Option Binary64 :=
  let (a, b) := x.ratio
  let (c, d) := y.ratio
  ofRatio? (x.negative != y.negative) (a * d) (b * c)

/-! ## Reading -/

/-- A number times a power of ten. The power, at most `10 ^ 308`, is rounded first, and a small
number is divided in steps of that size. -/
def scaleByTen? (x : Binary64) (e : Int) : (fuel : Nat) → Option Binary64
  | 0 => some x
  | fuel + 1 =>
    if e.natAbs ≤ 308 then do
      let power ← ofNat? (powerOfTen e.natAbs)
      if 0 ≤ e then x.mul? power else x.div? power
    else if x.mantissa = 0 then some x
    else if 0 ≤ e then none
    else do
      let power ← ofNat? (powerOfTen 308)
      (← x.div? power).scaleByTen? (e + 308) fuel

/-- The number read from decimal digits `significand` and a decimal exponent: the digits are
rounded to a number, which is then scaled. Three steps of scaling make any number zero. -/
def ofDecimal? (negative : Bool) (significand : Nat) (e : Int) : Option Binary64 := do
  let x ← ofNat? significand
  let y ← x.scaleByTen? e 4
  pure (if negative then y.neg else y)

/-! ## The shortest decimal text -/

/-- The exponent of the first decimal digit of a positive quotient. -/
def decimalExponent (n d : Nat) : Int :=
  let k : Int := ((Nat.toDigits 10 n).length : Int) - (Nat.toDigits 10 d).length
  let reached := if 0 ≤ k then d * powerOfTen k.toNat ≤ n else d ≤ n * powerOfTen (-k).toNat
  if reached then k else k - 1

/-- The bounds of the numbers that round to a positive `x`, as multiples of `2 ^ (exponent - 2)`.
Below a power of two the numbers lie closer together. -/
def roundingInterval (x : Binary64) : Nat × Nat :=
  let below := if x.mantissa = hiddenBit ∧ leastExponent < x.exponent then 1 else 2
  (4 * x.mantissa - below, 4 * x.mantissa + 2)

/-- Whether `n * 10 ^ e` rounds to a positive `x`. The bounds round to the even mantissa. -/
def readsBack (x : Binary64) (n : Nat) (e : Int) : Bool :=
  let (low, high) := x.roundingInterval
  -- Both sides as integers: `n * 10 ^ e` against `bound * 2 ^ (exponent - 2)`.
  let q := x.exponent - 2
  let left := n * powerOfTen e.toNat * powerOfTwo (-q).toNat
  let scale := powerOfTen (-e).toNat * powerOfTwo q.toNat
  if x.mantissa % 2 = 0 then low * scale ≤ left && left ≤ high * scale
  else low * scale < left && left < high * scale

/-- A decimal number `digits * 10 ^ exponent` in `count` digits next to a positive `x` that reads
back, the nearer one if both neighbours do. A tie goes to the even one. -/
def neighbour? (x : Binary64) (count : Nat) : Option (Nat × Int) :=
  let (n, d) := x.ratio
  let e := decimalExponent n d + 1 - count
  let (a, b) := if 0 ≤ e then (n, d * powerOfTen e.toNat) else (n * powerOfTen (-e).toNat, d)
  let floor := a / b
  let nearest := roundHalfEven a b
  let candidates := if nearest = floor then [floor, floor + 1] else [floor + 1, floor]
  (candidates.find? fun digits => x.readsBack digits e).map fun digits => (digits, e)

/-- The shortest decimal that reads back as a positive `x`. Seventeen digits always do. -/
def shortest (x : Binary64) : Nat × Int :=
  (((List.range 17).map (· + 1)).findSome? x.neighbour?).getD (0, 0)

/-- Removes the zeros at the end of a number. -/
def stripZeros (n : Nat) (e : Int) : (fuel : Nat) → Nat × Int
  | 0 => (n, e)
  | fuel + 1 => if n ≠ 0 ∧ n % 10 = 0 then stripZeros (n / 10) (e + 1) fuel else (n, e)

/-- The text of a positive decimal: positional with a point from `1e-5` up to below `1e16`, and
with an exponent elsewhere. -/
def decimalText (n : Nat) (e : Int) : List Char :=
  let digits := Nat.toDigits 10 n
  let first := e + digits.length - 1
  if 0 ≤ e ∧ first < 16 then digits ++ List.replicate e.toNat '0' ++ ['.', '0']
  else if 0 ≤ first ∧ first < 16 then
    digits.take (first.toNat + 1) ++ '.' :: digits.drop (first.toNat + 1)
  else if -5 ≤ first ∧ first < 0 then
    '0' :: '.' :: List.replicate (-first - 1).toNat '0' ++ digits
  else
    let places := if digits.length = 1 then [] else '.' :: digits.drop 1
    let sign := if first < 0 then '-' else '+'
    digits.take 1 ++ places ++ 'e' :: sign :: Nat.toDigits 10 first.natAbs

/-- The shortest text that reads back. It always has a point or an exponent. -/
def toText (x : Binary64) : String :=
  let sign := if x.negative then ['-'] else []
  let body :=
    if x.mantissa = 0 then ['0', '.', '0']
    else
      let (n, e) := x.shortest
      let (n, e) := stripZeros n e 20
      decimalText n e
  String.ofList (sign ++ body)

end Binary64

end ContentQuery
