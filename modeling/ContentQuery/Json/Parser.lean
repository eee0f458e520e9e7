import ContentQuery.Json.Basic

/-!
# Reading JSON

`Json.parse?` reads one value with nothing but white space around it. Recursion is bounded by a
fuel above the length of the text, since every value takes at least one character.
-/

set_option autoImplicit false

namespace ContentQuery.Json

def isBlank (c : Char) : Bool := c == ' ' || c == '\n' || c == '\t' || c == '\r'

/-! ## Strings -/

def hexDigit? (c : Char) : Option Nat :=
  if c.isDigit then some (c.toNat - 48)
  else if 'a' ≤ c ∧ c ≤ 'f' then some (c.toNat - 87)
  else if 'A' ≤ c ∧ c ≤ 'F' then some (c.toNat - 55)
  else none

/-- The number of four hexadecimal digits. -/
def hex4? (a b c d : Char) : Option Nat := do
  pure ((((← hexDigit? a) * 16 + (← hexDigit? b)) * 16 + (← hexDigit? c)) * 16 + (← hexDigit? d))

/-- The character of an escape of one letter. -/
def simpleEscape? (c : Char) : Option Char :=
  if c == '"' || c == '\\' || c == '/' then some c
  else if c == 'b' then some '\x08'
  else if c == 'f' then some '\x0c'
  else if c == 'n' then some '\n'
  else if c == 'r' then some '\r'
  else if c == 't' then some '\t'
  else none

/-- Splits a string after its closing quote, which is dropped; escapes are left as they are. -/
def splitString? : List Char → Option (List Char × List Char)
  | [] => none
  | '\\' :: c :: rest => (splitString? rest).map fun (body, rest) => ('\\' :: c :: body, rest)
  | c :: rest =>
    if c == '"' then some ([], rest)
    else if c.toNat < 0x20 then none
    else (splitString? rest).map fun (body, rest) => (c :: body, rest)

/-- The code points of a string with its escapes resolved. An escape of four digits gives 16 bits,
which may be a surrogate. -/
def codePoints? : List Char → Option (List Nat)
  | [] => some []
  | '\\' :: 'u' :: a :: b :: c :: d :: rest => do
    let n ← hex4? a b c d
    (codePoints? rest).map (n :: ·)
  | '\\' :: c :: rest => do
    let e ← simpleEscape? c
    (codePoints? rest).map (e.toNat :: ·)
  | c :: rest => if c == '\\' then none else (codePoints? rest).map (c.toNat :: ·)

def isLeadingSurrogate (n : Nat) : Bool := 0xd800 ≤ n && n < 0xdc00

def isTrailingSurrogate (n : Nat) : Bool := 0xdc00 ≤ n && n < 0xe000

/-- The characters of code points. A character beyond 16 bits is a pair of surrogates, and a
surrogate alone is none. -/
def decode? : List Nat → Option (List Char)
  | [] => some []
  | n :: m :: rest =>
    if isLeadingSurrogate n && isTrailingSurrogate m then
      (decode? rest).map (Char.ofNat (0x10000 + (n - 0xd800) * 0x400 + (m - 0xdc00)) :: ·)
    else if isLeadingSurrogate n || isTrailingSurrogate n then none
    else (decode? (m :: rest)).map (Char.ofNat n :: ·)
  | [n] => if isLeadingSurrogate n || isTrailingSurrogate n then none else some [Char.ofNat n]

/-- A string behind its opening quote, unless it has half of a surrogate pair, with what follows. -/
def takeString? (cs : List Char) : Option (Option String × List Char) := do
  let (body, rest) ← splitString? cs
  pure ((decode? (← codePoints? body)).map String.ofList, rest)

/-! ## Numbers -/

/-- The digits that count, as a number: as many as fit 64 bits. The second component says how many
digits count. -/
def significand (n count : Nat) : List Char → Nat × Nat
  | [] => (n, count)
  | c :: cs =>
    let next := n * 10 + Text.digitValue c
    if next ≤ maxUInt64 then significand next (count + 1) cs else (n, count)

/-- The number of a sign, digits before the point, digits after it and an exponent. Digits count
as long as they fit 64 bits; those left out before the point still scale the number. -/
def numberOf (negative : Bool) (whole places : List Char) (isInteger : Bool) (exponent : Int) :
    Json :=
  let (n, count) := significand 0 0 whole
  let float := fun (n : Nat) (e : Int) =>
    match Binary64.ofDecimal? negative n e with
    | some x => .number (.float x)
    | none => .unreadable
  if isInteger && count == whole.length then
    if !negative then .number (.integer n)
    else if n ≠ 0 ∧ n ≤ 9223372036854775808 then .number (.integer (-n))
    else float n 0
  else
    let dropped := whole.length - count
    let (n, used) := significand n 0 places
    float n (exponent + dropped - used)

/-- An exponent. One that does not fit 31 bits is too large to be told from any other. -/
def clampExponent (negative : Bool) (digits : List Char) : Int :=
  let n := min (Text.digitsValue digits) 2147483648
  if negative then -(n : Int) else n

/-- An exponent behind its mark, with what follows. -/
def takeExponent? (cs : List Char) : Option (Int × List Char) :=
  let (negative, body) := match cs with
    | '+' :: rest => (false, rest)
    | '-' :: rest => (true, rest)
    | _ => (false, cs)
  let digits := body.takeWhile Char.isDigit
  if digits.isEmpty then none
  else some (clampExponent negative digits, body.drop digits.length)

/-- A number without its sign. -/
def takeUnsigned? (negative : Bool) (cs : List Char) : Option (Json × List Char) := do
  let whole := cs.takeWhile Char.isDigit
  if whole.isEmpty || (whole.head? == some '0' && 1 < whole.length) then none
  let cs := cs.drop whole.length
  let (places, cs) ← match cs with
    | '.' :: rest =>
      let places := rest.takeWhile Char.isDigit
      if places.isEmpty then none else some (some places, rest.drop places.length)
    | _ => some (none, cs)
  let (exponent, cs) ← match cs with
    | 'e' :: rest => (takeExponent? rest).map fun (e, rest) => (some e, rest)
    | 'E' :: rest => (takeExponent? rest).map fun (e, rest) => (some e, rest)
    | _ => some (none, cs)
  let isInteger := places.isNone && exponent.isNone
  pure (numberOf negative whole (places.getD []) isInteger (exponent.getD 0), cs)

/-! ## Values -/

def skipBlanks (cs : List Char) : List Char := cs.dropWhile isBlank

/-- Takes a fixed word off the front. -/
def takeWord? (word : String) (value : Json) (cs : List Char) : Option (Json × List Char) :=
  if word.toList.isPrefixOf cs then some (value, cs.drop word.length) else none

/-- A string, if it was read. -/
def ofString : Option String → Json
  | some s => .string s
  | none => .unreadable

/-- An object, if all its names were read. -/
def ofMembers (members : List (Option String × Json)) : Json :=
  match members.mapM fun (name, value) => name.map (·, value) with
  | some members => .object members
  | none => .unreadable

mutual

def takeValue? : (fuel : Nat) → List Char → Option (Json × List Char)
  | 0, _ => none
  | fuel + 1, cs =>
    match skipBlanks cs with
    | '"' :: rest => (takeString? rest).map fun (s, rest) => (ofString s, rest)
    | '[' :: rest =>
      match skipBlanks rest with
      | ']' :: rest => some (.array [], rest)
      | rest => (takeItems? fuel rest).map fun (items, rest) => (.array items, rest)
    | '\x7b' :: rest =>
      match skipBlanks rest with
      | '\x7d' :: rest => some (.object [], rest)
      | rest => (takeMembers? fuel rest).map fun (members, rest) => (ofMembers members, rest)
    | '-' :: rest => takeUnsigned? true rest
    | 't' :: rest => takeWord? "rue" (.bool true) rest
    | 'f' :: rest => takeWord? "alse" (.bool false) rest
    | 'n' :: rest => takeWord? "ull" .null rest
    | rest => takeUnsigned? false rest

/-- The items of an array up to its closing bracket. -/
def takeItems? : (fuel : Nat) → List Char → Option (List Json × List Char)
  | 0, _ => none
  | fuel + 1, cs => do
    let (item, rest) ← takeValue? fuel cs
    match skipBlanks rest with
    | ',' :: rest =>
      let (items, rest) ← takeItems? fuel rest
      pure (item :: items, rest)
    | ']' :: rest => pure ([item], rest)
    | _ => none

/-- The members of an object up to its closing brace. -/
def takeMembers? : (fuel : Nat) → List Char → Option (List (Option String × Json) × List Char)
  | 0, _ => none
  | fuel + 1, cs => do
    match skipBlanks cs with
    | '"' :: rest =>
      let (name, rest) ← takeString? rest
      match skipBlanks rest with
      | ':' :: rest =>
        let (value, rest) ← takeValue? fuel rest
        match skipBlanks rest with
        | ',' :: rest =>
          let (members, rest) ← takeMembers? fuel rest
          pure ((name, value) :: members, rest)
        | '\x7d' :: rest => pure ([(name, value)], rest)
        | _ => none
      | _ => none
    | _ => none

end

/-- Reads a text that holds one JSON value. -/
def parse? (text : String) : Option Json :=
  let cs := text.toList
  match takeValue? (cs.length + 1) cs with
  | some (value, rest) => if (skipBlanks rest).isEmpty then some value else none
  | none => none

end ContentQuery.Json
