import ConstrainedDecoding.CommandLine.Session
import ConstrainedDecoding.CommandLine.Usage
import ConstrainedDecoding.Text.Duration

/-! The program: it reads the files that a command needs and prints what comes of it. -/

namespace ConstrainedDecoding.CommandLine

/-- The text of a file that can be read. -/
def readText? (path : String) : IO (Option String) := do
  try return some (← IO.FS.readFile path)
  catch _ => return none

def printLines (lines : List String) : IO Unit := lines.forM IO.println

/-- Run a command and print its lines, or the report of its failure. -/
def execute (c : Command) : IO UInt32 := do
  let texts ← c.source.paths.mapM fun path => do return (path, ← readText? path)
  let started ← IO.monoNanosNow
  match c.run fun path => (texts.lookup path).join with
  | .ok lines => do
    let finished ← IO.monoNanosNow
    printLines lines
    if c.action = .compile then
      IO.println s!"build time:         {Duration.text (finished - started)}"
    return 0
  | .error f => do
    IO.eprintln f.message
    return f.exitCode

end ConstrainedDecoding.CommandLine

open ConstrainedDecoding.CommandLine

def main (args : List String) : IO UInt32 := do
  match Request.ofArguments? args with
  | some (.run c) => execute c
  | some .help => do
    printLines Usage.lines
    return 0
  | none => do
    IO.eprintln ("\n".intercalate Usage.lines)
    return 2
