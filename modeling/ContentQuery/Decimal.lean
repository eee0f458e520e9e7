import ContentQuery.Arithmetic
import ContentQuery.Text.Digits

/-!
# Decimal numbers

A `Decimal` is a sign, a coefficient of at most 96 bits and up to 28 decimal places. It keeps its
number of places, so `1.50` and `1.5` are different decimals that compare as equal numbers
(`Decimal.compare`), and so do the two zeros. `Decimal.ofPlain?` reads positional notation and
rounds to the places that fit; `ofScientific?` adds an exact exponent and refuses what does not
fit; `ofText?` reads either notation and rounds.
-/

set_option autoImplicit false

namespace ContentQuery

/-- The least natural number that is too large for a coefficient of 96 bits. -/
def Decimal.coefficientLimit : Nat := 79228162514264337593543950336

/-- The most decimal places a number can have. -/
def Decimal.maxScale : Nat := 28

/-- The number `± coefficient / 10 ^ scale`. Zero has a minus sign only if it was left by rounding a
negative number. -/
structure Decimal where
  negative : Bool
  coefficient : Nat
  scale : Nat
  coefficient_lt : coefficient < Decimal.coefficientLimit := by decide
  scale_le : scale ≤ Decimal.maxScale := by decide
deriving DecidableEq, Repr

namespace Decimal

/-- The decimal of these parts, if they are in range. -/
def ofParts? (negative : Bool) (coefficient scale : Nat) : Option Decimal :=
  if h : coefficient < coefficientLimit ∧ scale ≤ maxScale then
    some ⟨negative, coefficient, scale, h.1, h.2⟩
  else none

/-- An integer of 64 bits, without decimal places. -/
def ofInt64 (n : Int64) : Decimal where
  negative := n < 0
  coefficient := n.toInt.natAbs
  scale := 0
  coefficient_lt := by
    have h₁ := Int64.toInt_lt n
    have h₂ := Int64.le_toInt n
    unfold coefficientLimit
    omega

/-- A small natural number, without decimal places. -/
def ofUInt32 (n : UInt32) : Decimal where
  negative := false
  coefficient := n.toNat
  scale := 0
  coefficient_lt := by
    have h := n.toNat_lt
    unfold coefficientLimit
    omega

def zero : Decimal where
  negative := false
  coefficient := 0
  scale := 0

instance : Inhabited Decimal := ⟨zero⟩

/-- The coefficient with its sign. -/
def numerator (d : Decimal) : Int := if d.negative then -(d.coefficient : Int) else d.coefficient

/-- The order of the two numbers, whatever their scales. -/
def compare (a b : Decimal) : Ordering :=
  Ord.compare (a.numerator * powerOfTen b.scale) (b.numerator * powerOfTen a.scale)

/-! ## Writing -/

/-- Positional notation with exactly `scale` decimal places. -/
def toText (d : Decimal) : String :=
  let digits := Text.digitsOf (d.scale + 1) d.coefficient
  let whole := digits.length - d.scale
  let sign := if d.negative then ['-'] else []
  let places := if d.scale = 0 then [] else '.' :: digits.drop whole
  String.ofList (sign ++ digits.take whole ++ places)

instance : ToString Decimal := ⟨toText⟩

/-! ## Reading -/

/-- A coefficient with its scale, before the sign is known. -/
structure Magnitude where
  coefficient : Nat
  scale : Nat

/-- One unit more in the last place. A coefficient that grows out of range gives up its last
place, and a number without places does not fit. -/
def Magnitude.roundUp? (m : Magnitude) : Option Magnitude :=
  if m.coefficient + 1 < coefficientLimit then some ⟨m.coefficient + 1, m.scale⟩
  else if m.scale = 0 then none
  else some ⟨(m.coefficient + 5) / 10, m.scale - 1⟩

/-- Rounds half up by the first digit for which there is no room. Only digits and low lines can
follow it, and they do not count. -/
def Magnitude.round? (m : Magnitude) (digit : Char) (rest : List Char) : Option Magnitude :=
  if !rest.all fun c => c.isDigit || c == '_' then none
  else if digit < '5' then some m
  else m.roundUp?

/-- Coefficients from here on are too long for the short form, in which a number is read first. -/
def longCoefficient : Nat := 1844674407370954906

/-- Ends a number that has all the places there are. Low lines before the digit that decides the
rounding are passed over in the long form; in the short form they stand for a zero. A second point
is an error. -/
def Magnitude.close? (m : Magnitude) (cs : List Char) : Option Magnitude :=
  let long := longCoefficient ≤ m.coefficient / 10
  match if long then cs.dropWhile (· == '_') else cs with
  | [] => some m
  | c :: rest =>
    if c.isDigit then m.round? c rest
    else if c == '_' then m.round? '0' rest
    else none

/-- Reads the digits of a number from `m` on; `started` says whether a digit has been read and
`inPlaces` whether the point has. A digit for which there is no room decides the rounding. A low
line may follow any digit. -/
def readDigits (inPlaces started : Bool) (m : Magnitude) : List Char → Option Magnitude
  | [] => if started then some m else none
  | c :: rest =>
    if inPlaces && m.scale == maxScale then m.close? (c :: rest)
    else if c.isDigit then
      let coefficient := m.coefficient * 10 + Text.digitValue c
      if coefficient < coefficientLimit then
        readDigits inPlaces true ⟨coefficient, if inPlaces then m.scale + 1 else 0⟩ rest
      else if inPlaces then m.round? c rest
      else none
    else if c == '.' && !inPlaces then readDigits true started m rest
    else if c == '_' && started then readDigits inPlaces started m rest
    else none

/-- Reads positional notation: an optional sign and digits with at most one point. Zero gets no
sign. -/
def ofPlain? (cs : List Char) : Option Decimal :=
  let (negative, body) := match cs with
    | '-' :: rest => (true, rest)
    | '+' :: rest => (false, rest)
    | _ => (false, cs)
  (readDigits false false ⟨0, 0⟩ body).bind fun m =>
    ofParts? (negative && m.coefficient != 0) m.coefficient m.scale

/-- An exponent without its minus sign: digits, with an optional plus sign, that denote a number
of 32 bits. -/
def readExponent? (cs : List Char) : Option Nat :=
  let digits := match cs with
    | '+' :: rest => rest
    | _ => cs
  (Text.natOfDigits? digits).filter (· ≤ 4294967295)

/-- The number times `10 ^ n`: the point moves right as far as there are places, and beyond that
the coefficient grows. -/
def shiftLeft? (d : Decimal) (n : Nat) : Option Decimal :=
  if n ≤ d.scale then ofParts? d.negative d.coefficient (d.scale - n)
  else if n ≤ maxScale then ofParts? d.negative (d.coefficient * powerOfTen (n - d.scale)) 0
  else none

/-- The number divided by `10 ^ n`, exactly. -/
def shiftRight? (d : Decimal) (n : Nat) : Option Decimal :=
  ofParts? d.negative d.coefficient (d.scale + n)

/-- The number divided by `10 ^ n`, rounded half up in magnitude to the places that fit. The sign
stays even if nothing else is left. -/
def shiftRightRounded? (d : Decimal) (n : Nat) : Option Decimal :=
  if maxScale < n then none
  else if d.scale + n ≤ maxScale then ofParts? d.negative d.coefficient (d.scale + n)
  else
    let unit := powerOfTen (d.scale + n - maxScale)
    ofParts? d.negative ((2 * d.coefficient + unit) / (2 * unit)) maxScale

/-- Splits a number at its exponent mark. -/
def splitExponent (cs : List Char) : List Char × Option (List Char) :=
  let base := cs.takeWhile fun c => c != 'e' && c != 'E'
  match cs.drop base.length with
  | [] => (base, none)
  | _ :: exponent => (base, some exponent)

/-- Reads a number with an exponent; `divide` is the division by a power of ten that a negative
exponent asks for. -/
def readScaled? (divide : Decimal → Nat → Option Decimal) (base exponent : List Char) :
    Option Decimal :=
  (ofPlain? base).bind fun d =>
    match exponent with
    | '-' :: digits => (readExponent? digits).bind (divide d)
    | _ => (readExponent? exponent).bind d.shiftLeft?

/-- Reads scientific notation. The exponent is mandatory and is never rounded away. -/
def ofScientific? (cs : List Char) : Option Decimal :=
  match splitExponent cs with
  | (base, some exponent) => readScaled? shiftRight? base exponent
  | (_, none) => none

/-- Reads a number in either notation, rounding to the places that fit. -/
def ofText? (s : String) : Option Decimal :=
  match splitExponent s.toList with
  | (base, some exponent) => readScaled? shiftRightRounded? base exponent
  | (base, none) => ofPlain? base

end Decimal

end ContentQuery
