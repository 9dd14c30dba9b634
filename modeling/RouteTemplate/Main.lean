import RouteTemplate.CommandLine.Run

/-!
The program on the command line. It reads the settings file and writes what is to be written. The engine
that it runs sets no limit to the size of regular expressions.
-/

namespace RouteTemplate.CommandLine

/-- The code of the system for a path that leads through a file. -/
def notADirectory : UInt32 := 20

/-- Reads a file. What exists and cannot be read is taken for a directory. -/
def readContent (path : String) : IO FileContent := do
  try
    return .bytes (← IO.FS.readBinFile path)
  catch
    | .noFileOrDirectory .. => return .missing
    | .inappropriateType _ code _ =>
      return if code = notADirectory then .missing else .directory
    | _ => return .directory

/-- What a variable of the environment is set to, if it is set: `0` is off, and all else is on. -/
def switch? (name : String) : IO (Option Bool) := return (← IO.getEnv name).map (· ≠ "0")

/-- Colours are asked for by the environment, or used on a terminal unless they are turned off. -/
def wantsColour : IO Bool := do
  if (← switch? "CLICOLOR_FORCE") = some true then return true
  if (← IO.getEnv "NO_COLOR").isSome then return false
  if (← switch? "CLICOLOR") = some false then return false
  (← IO.getStdout).isTty

/-- The settings file that a command line names, and its content. -/
def readSettings (words : List (List Char)) : IO FileContent :=
  match Request.ofWords words with
  | some (.run file _) => readContent (String.ofList file)
  | _ => return .missing

end RouteTemplate.CommandLine

open RouteTemplate CommandLine in
def main (args : List String) : IO UInt32 := do
  let words := args.map String.toList
  let content ← readSettings words
  let outcome := run (← wantsColour) (fun _ => content) words
  IO.print (String.ofList outcome.written)
  for message in outcome.error do
    IO.eprintln (String.ofList message)
  return outcome.code.toUInt32
