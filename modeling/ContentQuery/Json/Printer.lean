import ContentQuery.Json.Basic

/-!
# Writing JSON

`Json.toCompactText` writes a value on one line with sorted names, `Json.toPrettyText` over lines
with two blanks for each level and names in their order. Only quotes, backslashes and control
characters are escaped. What is unreadable has no text.
-/

set_option autoImplicit false

namespace ContentQuery.Json

/-- A character inside a string. -/
def escapeChar (c : Char) : List Char :=
  if c == '"' || c == '\\' then ['\\', c]
  else if c == '\x08' then ['\\', 'b']
  else if c == '\x0c' then ['\\', 'f']
  else if c == '\n' then ['\\', 'n']
  else if c == '\r' then ['\\', 'r']
  else if c == '\t' then ['\\', 't']
  else if c.toNat < 0x20 then
    '\\' :: 'u' :: '0' :: '0' :: Nat.digitChar (c.toNat / 16) :: [Nat.digitChar (c.toNat % 16)]
  else [c]

def quote (s : String) : String :=
  String.ofList ('"' :: s.toList.flatMap escapeChar ++ ['"'])

/-! ## Sorted names -/

/-- The members of an object by name; the last of several members of one name stays. -/
def insertSorted (name : String) (value : Json) : List (String × Json) → List (String × Json)
  | [] => [(name, value)]
  | (n, v) :: rest =>
    if name < n then (name, value) :: (n, v) :: rest
    else if name == n then (name, value) :: rest
    else (n, v) :: insertSorted name value rest

mutual

/-- A value with the members of all its objects sorted by name. -/
def sorted : Json → Json
  | array items => .array (sortedAll items)
  | object members => .object (sortedMembers [] members)
  | j => j

def sortedAll : List Json → List Json
  | [] => []
  | j :: js => j.sorted :: sortedAll js

def sortedMembers (done : List (String × Json)) : List (String × Json) → List (String × Json)
  | [] => done
  | (name, j) :: js => sortedMembers (insertSorted name j.sorted done) js

end

/-! ## Texts -/

mutual

/-- A value on one line, with its names in their order. -/
def toLine : Json → String
  | null => "null"
  | bool b => if b then "true" else "false"
  | number n => n.toText
  | string s => quote s
  | array items => "[" ++ ",".intercalate (linesOf items) ++ "]"
  | object members => "\x7b" ++ ",".intercalate (linesOfMembers members) ++ "\x7d"
  | unreadable => ""

def linesOf : List Json → List String
  | [] => []
  | j :: js => j.toLine :: linesOf js

def linesOfMembers : List (String × Json) → List String
  | [] => []
  | (name, j) :: js => (quote name ++ ":" ++ j.toLine) :: linesOfMembers js

end

def toCompactText (j : Json) : String := j.sorted.toLine

/-- Items on lines of their own between brackets. -/
def block (opening closing : String) (indent : Nat) (items : List String) : String :=
  if items.isEmpty then opening ++ closing
  else
    let margin := "\n" ++ String.ofList (List.replicate (2 * (indent + 1)) ' ')
    let last := "\n" ++ String.ofList (List.replicate (2 * indent) ' ')
    opening ++ margin ++ ("," ++ margin).intercalate items ++ last ++ closing

mutual

/-- A value over several lines, inside `indent` levels. -/
def toPretty (indent : Nat) : Json → String
  | array items => block "[" "]" indent (prettyAll (indent + 1) items)
  | object members => block "\x7b" "\x7d" indent (prettyMembers (indent + 1) members)
  | null => "null"
  | bool b => if b then "true" else "false"
  | number n => n.toText
  | string s => quote s
  | unreadable => ""

def prettyAll (indent : Nat) : List Json → List String
  | [] => []
  | j :: js => j.toPretty indent :: prettyAll indent js

def prettyMembers (indent : Nat) : List (String × Json) → List String
  | [] => []
  | (name, j) :: js => (quote name ++ ": " ++ j.toPretty indent) :: prettyMembers indent js

end

def toPrettyText (j : Json) : String := j.toPretty 0

end ContentQuery.Json
