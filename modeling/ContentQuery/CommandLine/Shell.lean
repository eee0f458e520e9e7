import ContentQuery.CommandLine.Options
import ContentQuery.Repository.Fixture

/-!
# The shell

A shell holds a catalog, a repository and a configuration and answers lines of input: commands, and
queries. `Shell.answer` is one line, `run` a whole run of the program on the contents of its files
and of its standard input.
-/

set_option autoImplicit false

namespace ContentQuery

def version : String := "0.1.0"

namespace CommandLine

structure Shell where
  catalog : Catalog
  repository : Repository
  config : Config
  mode : Report.Mode

/-- What a run writes, how it ends, and its error if it fails. -/
structure Outcome where
  output : String
  exitCode : Nat
  error : Option String
deriving DecidableEq, Repr

/-! ## Queries -/

/-- A query without the mark `\G` at its end, and whether there was one. The mark asks for a
vertical result. -/
def splitVerticalMark (text : String) : String × Bool :=
  let trimmed := Text.trim text.toList
  match trimmed.reverse with
  | c :: '\\' :: rest =>
    if c == 'G' || c == 'g' then (String.ofList (Text.trim rest.reverse), true)
    else (String.ofList trimmed, false)
  | _ => (String.ofList trimmed, false)

/-- The report on a query. -/
def Shell.query (sh : Shell) (input : String) : Except QueryError String :=
  let (text, marked) := splitVerticalMark input
  let result := Execution.query sh.catalog sh.repository (none : Option (TextIndex Id)) sh.config
    text
  match Id.run result.run with
  | .error e => .error e
  | .ok r =>
    let mode := if marked && sh.mode != .json then .vertical else sh.mode
    let skipped :=
      if 0 < r.stats.errors then
        toString r.stats.errors ++ " row(s) skipped on evaluation errors\n"
      else ""
    .ok (Report.result mode r 0 ++ skipped)

/-! ## Commands -/

/-- Splits a line at its first blank. -/
def splitCommand (line : List Char) : List Char × List Char :=
  let command := line.takeWhile (· != ' ')
  (command, line.drop (command.length + 1))

def Shell.describe (sh : Shell) (id : String) : String :=
  if id.isEmpty then "用法: describe <类型>\n"
  else
    match sh.catalog.lookup? id with
    | some t => Report.typeDescription t ++ "\n"
    | none => "类型不存在: " ++ id ++ "\n"

/-- What a shell does with a line: it ends, or it goes on after some output. -/
inductive Reply
  | quit
  | continue (sh : Shell) (output : String)

/-- The reply to a trimmed line that is not empty. -/
def Shell.answer (sh : Shell) (line : List Char) : Reply :=
  let (command, rest) := splitCommand line
  let argument := String.ofList (Text.trim rest)
  let command := Text.lowercase (String.ofList command)
  if command == "quit" || command == "exit" || command == "q" then .quit
  else if command == "help" || command == "h" || command == "?" then
    .continue sh (Report.help ++ "\n")
  else if command == "types" then
    .continue sh (String.join (sh.catalog.typeIds.map fun id => "  " ++ id ++ "\n"))
  else if command == "describe" || command == "desc" then .continue sh (sh.describe argument)
  else if command == "mode" then
    match Report.Mode.ofName? argument with
    | some mode => .continue { sh with mode } ""
    | none => .continue sh "用法: mode <table|vertical|json>\n"
  else
    match sh.query (String.ofList line) with
    | .ok output => .continue sh output
    | .error e => .continue sh ("错误: " ++ e.message ++ "\n")

/-- The reply to a line of input. -/
def Shell.reply (sh : Shell) (line : List Char) : Reply :=
  let trimmed := Text.trim line
  if trimmed.isEmpty then .continue sh "" else sh.answer trimmed

def prompt : String := "cmis> "

def greeting (sh : Shell) : String :=
  "cmis-query " ++ version ++ " - CMIS-QL 查询工具\n"
    ++ "  类型数: " ++ toString sh.catalog.typeIds.length ++ "\n"
    ++ "  对象数: " ++ toString sh.repository.size ++ "\n"
    ++ "\n输入 'help' 查看命令列表，'quit' 退出\n\n"

def farewell : String := "再见！\n"

/-- The output of a shell on lines of input, with a prompt before each. -/
def Shell.converse (sh : Shell) : List (List Char) → String
  | [] => prompt ++ farewell
  | line :: lines =>
    match sh.reply line with
    | .quit => prompt ++ farewell
    | .continue sh output => prompt ++ output ++ sh.converse lines

/-! ## The program -/

/-- Loads a file with what reads its text. -/
def load {α : Type} (kind path : String) (readFile : String → Option String)
    (read : String → Except QueryError α) : Except String α :=
  match (readFile path).map read with
  | some (.ok a) => .ok a
  | _ => .error ("failed to load " ++ kind ++ " " ++ path)

/-- The shell that the options ask for. The fixture wins over the catalog. -/
def Shell.ofOptions (o : Options) (readFile : String → Option String) : Except String Shell := do
  let (catalog, repository) ← match o.fixture, o.catalog with
    | some path, _ => load "fixture" path readFile (Fixture.ofText false)
    | none, some path =>
      (load "catalog" path readFile Catalog.ofText).map fun c => (c, Repository.empty false)
    | none, none => .ok (Catalog.base, Repository.empty false)
  let config ← match o.config with
    | some path => load "config" path readFile Config.ofText
    | none => .ok {}
  let config := { config with
    maxItems := o.maxItems.getD config.maxItems
    skipCount := o.skip.getD config.skipCount }
  pure {
    catalog
    repository := { repository with matcher := ⟨config.caseSensitiveText⟩ }
    config
    mode := o.mode }

/-- The outcome for arguments that do not start the program. -/
def Stop.outcome : Stop → Outcome
  | usage => ⟨"", 2, none⟩
  | version => ⟨"cmis-query " ++ ContentQuery.version ++ "\n", 0, none⟩
  | help => ⟨"Usage: cmis-query [OPTIONS]\n", 0, none⟩

/-- What the arguments ask for: a run that is over at once, or a conversation. -/
inductive Start
  | finished (o : Outcome)
  | conversation (sh : Shell)

/-- The start of the program with the given arguments and files. -/
def start (args : List String) (readFile : String → Option String) : Start :=
  match Options.parse args with
  | .error stop => .finished stop.outcome
  | .ok o =>
    match Shell.ofOptions o readFile with
    | .error message => .finished ⟨"", 1, some message⟩
    | .ok sh =>
      match o.execute with
      | some text =>
        match sh.query text with
        | .ok output => .finished ⟨output, 0, none⟩
        | .error e => .finished ⟨"", 1, some e.message⟩
      | none => .conversation sh

/-- A run of the program with the given arguments, files and standard input. -/
def run (args : List String) (readFile : String → Option String) (input : String) : Outcome :=
  match start args readFile with
  | .finished o => o
  | .conversation sh => ⟨greeting sh ++ sh.converse (Text.lines input.toList), 0, none⟩

end CommandLine

end ContentQuery
