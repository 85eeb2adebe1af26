import SigningPreview.CommandLine

/-! # The program

Reads the response that the command line names, and prints its report. -/
namespace SigningPreview.CommandLine

/-- The bytes of a file, or of the standard input; nothing if they cannot be read. -/
def readInput (file : Option String) : IO (Option ByteArray) := do
  try
    match file with
    | some path => return some (← IO.FS.readBinFile path)
    | none => return some (← (← IO.getStdin).readBinToEnd)
  catch _ => return none

end SigningPreview.CommandLine

open SigningPreview.CommandLine in
def main (arguments : List String) : IO UInt32 := do
  let ending ← match parse arguments with
    | none => pure Ending.misused
    | some options => pure (options.run (← readInput options.file))
  (← IO.getStdout).putStr ending.output
  return ending.code.toUInt32
