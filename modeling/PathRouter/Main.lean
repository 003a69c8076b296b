import PathRouter.CommandLine

/-!
The command line program.
-/

namespace PathRouter.CommandLine

def readText (path : String) : IO (Except String String) := do
  try
    return .ok (← IO.FS.readFile path)
  catch e => return .error (toString e)

def conclude (outcome : Outcome) : IO UInt32 := do
  IO.print outcome.output
  match outcome with
  | .done _ => pure ()
  | .failed error => IO.eprintln ("error: " ++ error.message)
  | .misused => IO.eprintln Topic.program.text
  return UInt32.ofNat outcome.exitCode

/-- Routes the lines of the input, each by the table in the file as it then is. The text that was last read
tells whether the file has changed. -/
partial def watchLines (path source : String) (shared : SharedRouter String) : IO Unit := do
  let line ← (← IO.getStdin).getLine
  if line.isEmpty then return
  let (source, shared) :=
    match ← readText path with
    | .ok changed =>
      if changed = source then (source, shared) else (changed, (Config.reload shared changed).2)
    | .error _ => (source, shared)
  IO.print (answerPaths shared.load (linePath? line).toList)
  (← IO.getStdout).flush
  watchLines path source shared

end PathRouter.CommandLine

open PathRouter PathRouter.CommandLine

def main (arguments : List String) : IO UInt32 := do
  match Request.ofArguments? arguments with
  | none => conclude .misused
  | some (.help topic) => conclude (.done topic.text)
  | some (.run path _ command) =>
    let content ← readText path
    match command, content, Config.loadFile path content with
    | .watch, .ok source, .ok router =>
      watchLines path source ⟨router⟩
      return 0
    | _, _, _ => conclude (run arguments (fun _ => content) "")
