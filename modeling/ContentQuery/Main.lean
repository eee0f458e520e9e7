import ContentQuery.CommandLine.Shell

/-!
# The program

Reads the files that the arguments name and either runs one query or answers lines of input one by
one.
-/

set_option autoImplicit false

namespace ContentQuery.CommandLine

/-- The text of a file, if it can be read. -/
def fileText? (path : String) : IO (Option String) := do
  try
    return some (← IO.FS.readFile path)
  catch _ => return none

/-- The texts of the files that the arguments name. -/
def fileTexts (args : List String) : IO (List (String × Option String)) :=
  match Options.parse args with
  | .ok o => o.paths.mapM fun path => return (path, ← fileText? path)
  | .error _ => return []

/-- Answers lines of input up to the end or a command to quit. -/
partial def talk (input output : IO.FS.Stream) (sh : Shell) : IO Unit := do
  output.putStr prompt
  output.flush
  let line ← input.getLine
  if line.isEmpty then output.putStr farewell
  else
    match sh.reply line.toList with
    | .quit => output.putStr farewell
    | .continue sh text =>
      output.putStr text
      talk input output sh

/-- Writes an outcome and gives its exit code. -/
def report (o : Outcome) : IO UInt32 := do
  IO.print o.output
  if let some message := o.error then IO.eprintln ("Error: " ++ message)
  return UInt32.ofNat o.exitCode

end ContentQuery.CommandLine

open ContentQuery.CommandLine in
def main (args : List String) : IO UInt32 := do
  let files ← fileTexts args
  let readFile := fun path => ((files.find? (·.1 == path)).map (·.2)).join
  match start args readFile with
  | .finished o => report o
  | .conversation sh => do
    IO.print (greeting sh)
    talk (← IO.getStdin) (← IO.getStdout) sh
    return 0
