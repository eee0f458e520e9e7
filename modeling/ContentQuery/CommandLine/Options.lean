import ContentQuery.Report.Result

/-!
# Command line options

`Options.parse` reads the arguments of the program. A value follows its option as the next
argument, after an equals sign or, for a one-letter option, directly. Every option stands at most
once, and there are no arguments without an option.
-/

set_option autoImplicit false

namespace ContentQuery.CommandLine

/-- What the arguments ask for. -/
structure Options where
  fixture : Option String := none
  catalog : Option String := none
  config : Option String := none
  maxItems : Option UInt64 := none
  skip : Option UInt64 := none
  vertical : Bool := false
  json : Bool := false
  execute : Option String := none
  verbose : Bool := false
deriving DecidableEq, Repr

/-- The options with a value. -/
inductive ValueOption
  | fixture
  | catalog
  | config
  | maxItems
  | skip
  | execute
deriving DecidableEq, Repr

/-- The options without a value. -/
inductive Flag
  | vertical
  | json
  | verbose
  | version
  | help
deriving DecidableEq, Repr

/-- Why the program does not start, or what it shows instead. -/
inductive Stop
  | usage
  | version
  | help
deriving DecidableEq, Repr

def longValueOption? (name : List Char) : Option ValueOption :=
  let names : List (String × ValueOption) :=
    [("fixture", .fixture), ("catalog", .catalog), ("config", .config),
      ("max-items", .maxItems), ("skip", .skip), ("execute", .execute)]
  (names.find? fun n => n.1.toList == name).map (·.2)

def longFlag? (name : List Char) : Option Flag :=
  let names : List (String × Flag) :=
    [("vertical", .vertical), ("json", .json), ("verbose", .verbose), ("version", .version),
      ("help", .help)]
  (names.find? fun n => n.1.toList == name).map (·.2)

def shortValueOption? (c : Char) : Option ValueOption :=
  if c == 'f' then some .fixture
  else if c == 'c' then some .config
  else if c == 'e' then some .execute
  else none

def shortFlag? (c : Char) : Option Flag :=
  if c == 'v' then some .verbose
  else if c == 'V' then some .version
  else if c == 'h' then some .help
  else none

/-! ## Values -/

/-- A natural number of 64 bits, with an optional plus sign. -/
def count? (text : String) : Option UInt64 :=
  let digits := match text.toList with
    | '+' :: rest => rest
    | cs => cs
  (Text.natOfDigits? digits).bind uint64?

/-- Sets what has not been set. -/
def setOnce {α : Type} (current : Option α) (value : Option α) : Except Stop (Option α) :=
  if current.isSome then .error .usage
  else
    match value with
    | some v => .ok (some v)
    | none => .error .usage

/-- The name of a file is not empty. -/
def fileName? (text : String) : Option String :=
  if text.isEmpty then none else some text

def setValue (o : Options) (option : ValueOption) (text : String) : Except Stop Options :=
  match option with
  | .fixture => (setOnce o.fixture (fileName? text)).map fun v => { o with fixture := v }
  | .catalog => (setOnce o.catalog (fileName? text)).map fun v => { o with catalog := v }
  | .config => (setOnce o.config (fileName? text)).map fun v => { o with config := v }
  | .maxItems => (setOnce o.maxItems (count? text)).map fun v => { o with maxItems := v }
  | .skip => (setOnce o.skip (count? text)).map fun v => { o with skip := v }
  | .execute => (setOnce o.execute (some text)).map fun v => { o with execute := v }

def setFlag (o : Options) (flag : Flag) : Except Stop Options :=
  match flag with
  | .vertical => if o.vertical then .error .usage else .ok { o with vertical := true }
  | .json => if o.json then .error .usage else .ok { o with json := true }
  | .verbose => if o.verbose then .error .usage else .ok { o with verbose := true }
  | .version => .error .version
  | .help => .error .help

/-! ## Arguments -/

/-- Whether an argument can be the value of the option before it. -/
def isValue (arg : String) : Bool :=
  match arg.toList with
  | '-' :: _ :: _ => false
  | _ => true

/-- Splits an argument at its first equals sign. -/
def splitEquals (cs : List Char) : List Char × Option (List Char) :=
  let name := cs.takeWhile (· != '=')
  match cs.drop name.length with
  | [] => (name, none)
  | _ :: value => (name, some value)

/-- What an argument with options leaves open: nothing, or an option whose value is the next
argument. -/
abbrev Step := Options × Option ValueOption

/-- Reads an argument behind its two dashes. -/
def readLong (o : Options) (cs : List Char) : Except Stop Step :=
  let (name, value) := splitEquals cs
  match longValueOption? name, longFlag? name, value with
  | some option, _, some value =>
    (setValue o option (String.ofList value)).map fun o => (o, none)
  | some option, _, none => .ok (o, some option)
  | none, some flag, none => (setFlag o flag).map fun o => (o, none)
  | none, _, _ => .error .usage

/-- Reads the letters of an argument behind its one dash. -/
def readShort (o : Options) : List Char → Except Stop Step
  | [] => .ok (o, none)
  | c :: cs =>
    match shortFlag? c, shortValueOption? c with
    | some flag, _ =>
      match setFlag o flag with
      | .ok o => readShort o cs
      | .error stop => .error stop
    | none, some option =>
      match cs with
      | [] => .ok (o, some option)
      | '=' :: value => (setValue o option (String.ofList value)).map fun o => (o, none)
      | value => (setValue o option (String.ofList value)).map fun o => (o, none)
    | none, none => .error .usage

/-- Reads the arguments that follow; `pending` is the option that waits for its value. -/
def readAll (o : Options) (pending : Option ValueOption) : List String → Except Stop Options
  | [] => if pending.isSome then .error .usage else .ok o
  | arg :: args =>
    match pending with
    | some option =>
      if isValue arg then
        match setValue o option arg with
        | .ok o => readAll o none args
        | .error stop => .error stop
      else .error .usage
    | none =>
      let step := match arg.toList with
        | '-' :: '-' :: c :: cs => readLong o (c :: cs)
        | ['-', '-'] => if args.isEmpty then .ok (o, none) else .error .usage
        | '-' :: c :: cs => readShort o (c :: cs)
        | _ => .error .usage
      match step with
      | .ok (o, pending) => readAll o pending args
      | .error stop => .error stop

/-- Reads the arguments of the program. A result has one form. -/
def Options.parse (args : List String) : Except Stop Options :=
  match readAll {} none args with
  | .ok o => if o.vertical && o.json then .error .usage else .ok o
  | .error stop => .error stop

/-- The names of the files to read. -/
def Options.paths (o : Options) : List String :=
  [o.fixture, o.catalog, o.config].filterMap id

/-- The form of the results. -/
def Options.mode (o : Options) : Report.Mode :=
  if o.json then .json else if o.vertical then .vertical else .table

end ContentQuery.CommandLine
