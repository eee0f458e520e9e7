import ContentQuery.Text.Emoji
import ContentQuery.Text.Width

/-!
# The width of a text

How many columns a line of text takes on a terminal (`displayWidth`). It is the sum of the widths
of the characters, except where characters make a unit: joined emoji, emoji with a style or a skin
tone, and the ligatures of some scripts. A text is read from its end, so that each character sees
what it stands before (`Following`). Each printed character in the body of a color sequence, from
the bracket after an escape character to the letter `m`, takes one column less.
-/

set_option autoImplicit false

namespace ContentQuery.Text

/-! ## What a character stands before -/

/-- The end of a ligature. -/
inductive Ligature
  | lamed
  | ya
  | vowelAndYa
  | tifinaghConsonant
  | tifinaghJoiner
  | lisuTone
  | orkhonI
  | coengLetter
deriving DecidableEq

/-- The parts of an emoji that a zero width joiner adds to what stands before it: nothing yet, the
frame of a keycap, letters of flags, or tags of the flag of a region. -/
inductive Joined
  | start
  | keycap
  | oneLetter
  | evenLetters
  | oddLetters
  | tags (letters digits : Nat)
deriving DecidableEq

/-- How a text begins, as far as it bears on the character before it. The flag of a ligature says
whether a zero width joiner stands in front. -/
inductive Beginning
  | plain
  | emoji
  | skinTone
  | flagLetter
  | flagLetters
  | joined (j : Joined)
  | alef
  | ligature (l : Ligature) (joiner : Bool)
deriving DecidableEq

/-- The style that a variation selector asks for. -/
inductive EmojiStyle
  | color
  | text
deriving DecidableEq

/-- What a character stands before. -/
structure Following where
  beginning : Beginning
  style : Option EmojiStyle := none
deriving DecidableEq

/-- A beginning behind a character that a selector does not apply to. -/
def Beginning.withoutStyle : Beginning → Beginning
  | .alef => .alef
  | .ligature l joiner => .ligature l joiner
  | _ => .plain

/-- A beginning behind a selector. -/
def Beginning.withStyle (b : Beginning) (style : EmojiStyle) : Following :=
  match b, style with
  | .joined .start, .color => ⟨.joined .start, some .color⟩
  | .joined .keycap, .color => ⟨.joined .keycap, some .color⟩
  | b, style => ⟨b.withoutStyle, some style⟩

/-! ## Single characters -/

def isArabicAlef (n : Nat) : Bool :=
  n == 0x622 || n == 0x623 || n == 0x625 || n == 0x627 || (0x671 ≤ n && n ≤ 0x673) || n == 0x675
    || n == 0x773 || n == 0x774 || (0x870 ≤ n && n ≤ 0x882)

def isArabicLam (n : Nat) : Bool :=
  n == 0x644 || (0x6b5 ≤ n && n ≤ 0x6b8) || n == 0x76a || n == 0x8a6 || n == 0x8c7

/-- The Khmer letters that a coeng sign makes a subscript of the letter before them. -/
def isCoengLetter (n : Nat) : Bool :=
  inRanges [(0x1780, 0x1782), (0x1784, 0x1787), (0x1789, 0x178c), (0x178e, 0x1793),
    (0x1795, 0x1798), (0x179b, 0x179d), (0x17a0, 0x17a0), (0x17a2, 0x17a2), (0x17a7, 0x17a7),
    (0x17ab, 0x17ac), (0x17af, 0x17af)] n

def isTifinaghConsonant (n : Nat) : Bool := (0x2d31 ≤ n && n ≤ 0x2d65) || n == 0x2d6f

/-- What a character is to the one before it. -/
def beginningOf (c : Char) : Beginning :=
  let n := c.toNat
  if Emoji.isColored c then .emoji
  else if Emoji.isSkinTone c then .skinTone
  else if Emoji.isFlagLetter c then .flagLetter
  else if isArabicAlef n then .alef
  else if n == 0x5dc then .ligature .lamed false
  else if n == 0x1a10 then .ligature .ya false
  else if isTifinaghConsonant n then .ligature .tifinaghConsonant false
  else if n == 0xa4fc || n == 0xa4fd then .ligature .lisuTone false
  else if n == 0x10c03 then .ligature .orkhonI false
  else if isCoengLetter n then .ligature .coengLetter false
  else .plain

/-- A character by itself: its columns, and what it is to the one before it. -/
def alone (c : Char) : Int × Following :=
  if c == Emoji.colorSelector then (0, ⟨.plain, some .color⟩)
  else if c == Emoji.textSelector then (0, ⟨.plain, some .text⟩)
  else (charWidth c, ⟨beginningOf c, none⟩)

/-! ## Units of several characters -/

/-- A character before the end of a ligature: the columns that it adds, and what the two are to the
character before them. -/
def beforeLigature? (n : Nat) : Ligature → (joiner : Bool) → Option (Int × Beginning)
  | .lamed, true => if n == 0x5d0 then some (0, .plain) else none
  | .ya, true => if n == 0x1a17 then some (0, .ligature .vowelAndYa false) else none
  | .vowelAndYa, _ => if n == 0x1a15 then some (0, .plain) else none
  | .tifinaghConsonant, joiner =>
    if n == 0x2d7f then some (1, .ligature .tifinaghJoiner false)
    else if joiner && isTifinaghConsonant n then some (0, .plain)
    else none
  | .tifinaghJoiner, _ => if isTifinaghConsonant n then some (-1, .plain) else none
  | .lisuTone, _ => if 0xa4f8 ≤ n && n ≤ 0xa4fb then some (0, .plain) else none
  | .orkhonI, true => if n == 0x10c32 then some (0, .plain) else none
  | .coengLetter, _ => if n == 0x17d2 then some (-1, .plain) else none
  | _, false => none

/-- A character before a zero width joiner and what it joins. -/
def beforeJoined? (c : Char) : Joined → Option (Int × Beginning)
  | .start =>
    if c == Emoji.keycap then some (0, .joined .keycap)
    else if Emoji.isFlagLetter c then some (1, .joined .oneLetter)
    else if Emoji.isSkinTone c then some (0, .skinTone)
    else if c == Emoji.lastTag then some (0, .joined (.tags 0 0))
    else if Emoji.isColored c then some (0, .emoji)
    else none
  | .keycap => none
  | .oneLetter | .oddLetters =>
    if Emoji.isFlagLetter c then some (-1, .joined .evenLetters) else none
  | .evenLetters => if Emoji.isFlagLetter c then some (3, .joined .oddLetters) else none
  | .tags letters digits =>
    if Emoji.isTagLetter c && digits == 0 && letters < 6 then
      some (0, .joined (.tags (letters + 1) 0))
    else if Emoji.isTagDigit c && digits == 0 && letters < 5 then some (0, .joined (.tags 0 1))
    else if Emoji.isTagDigit c && 0 < digits && digits < 3 then
      some (0, .joined (.tags 0 (digits + 1)))
    else if c == Emoji.flag && (3 ≤ letters || digits == 3) then some (0, .emoji)
    else none

/-- Whether a zero width joiner in front makes a beginning a part of the emoji before it. -/
def Beginning.isJoinable : Beginning → Bool
  | .emoji | .flagLetters | .skinTone | .joined .evenLetters | .joined .oddLetters => true
  | _ => false

/-- A character that makes a unit with what follows: the columns that it adds to it, and what the
two are to the character before them. -/
def unit? (c : Char) (b : Beginning) : Option (Int × Beginning) :=
  let n := c.toNat
  if b.isJoinable && c == Emoji.joiner then some (0, .joined .start)
  else match b with
    | .alef =>
      if isArabicLam n then some (0, .plain)
      else if isTransparent c then some (0, .alef)
      else none
    | .ligature l joiner =>
      if c == Emoji.joiner then some (0, .ligature l true)
      else if isIgnorableMark c then some (0, .ligature l joiner)
      else beforeLigature? n l joiner
    | .skinTone => if Emoji.takesSkinTone c then some (0, .emoji) else none
    | .flagLetter | .flagLetters => if Emoji.isFlagLetter c then some (1, .flagLetters) else none
    | .joined j => beforeJoined? c j
    | .plain | .emoji => none

/-- A character before a beginning that no selector stands in front of. -/
def stepPlain (c : Char) (b : Beginning) : Int × Following :=
  if c.toNat ≤ 0xa0 then (1, ⟨.plain, none⟩)
  else if c == Emoji.colorSelector then (0, b.withStyle .color)
  else if c == Emoji.textSelector then (0, b.withStyle .text)
  else match unit? c b with
    | some (columns, b) => (columns, ⟨b, none⟩)
    | none => alone c

/-- A character before what follows it: the columns that it adds, and what both are to the
character before them. -/
def step (c : Char) (following : Following) : Int × Following :=
  let b := following.beginning
  match following.style with
  | some .color =>
    if Emoji.isStyled c then
      (match b with | .joined _ => 0 | _ => 2, ⟨.emoji, none⟩)
    else stepPlain c b.withoutStyle
  | some .text =>
    if Emoji.isNarrowInText c then (1, ⟨.plain, none⟩) else stepPlain c b.withoutStyle
  | none => stepPlain c b

/-- The columns of a text, and what it is to a character before it. -/
def scan : List Char → Int × Following
  | [] => (0, ⟨.plain, none⟩)
  | c :: cs =>
    let (columns, following) := scan cs
    let (more, following) := step c following
    (columns + more, following)

/-! ## Color sequences -/

/-- How far into a color sequence a text has come. -/
inductive EscapeState
  | outside
  | escape
  | inside
deriving DecidableEq

/-- Whether a character is shown: it takes a column and is no control character. -/
def isPrinted (c : Char) : Bool :=
  0x20 ≤ c.toNat && !(0x7f ≤ c.toNat && c.toNat < 0xa0) && 0 < charWidth c

/-- The number of printed characters in the bodies of color sequences, in a text that starts in
the given state. -/
def hiddenCount (state : EscapeState) : List Char → Nat
  | [] => 0
  | c :: cs =>
    match state with
    | .outside => hiddenCount (if c == '\x1b' then .escape else .outside) cs
    | .escape => if c == '[' then 1 + hiddenCount .inside cs else hiddenCount .outside cs
    | .inside =>
      (if isPrinted c then 1 else 0) + hiddenCount (if c == 'm' then .outside else .inside) cs

/-- The columns of a line of text. -/
def displayWidth (cs : List Char) : Nat := (scan cs).1.toNat - hiddenCount .outside cs

end ContentQuery.Text
