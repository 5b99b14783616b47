import Interdomain.CommandLine

/-!
# The program

The command line on the files of a computer. Whatever goes wrong with a file is all the same to it.
-/

namespace Interdomain

/-- Whether an action is done without an error. -/
def succeeds (action : IO Unit) : IO Bool := do
  try
    action
    return true
  catch _ => return false

instance : FileStore IO where
  read? path := do
    try return some (← IO.FS.readFile path)
    catch _ => return none
  isThere path := do ((← IO.currentDir) / path).pathExists
  remove path := succeeds (IO.FS.removeDirAll path)
  write path contents := succeeds do
    if let some parent := ((← IO.currentDir) / path).parent then IO.FS.createDirAll parent
    IO.FS.writeFile path contents

/-- A random seed. -/
def randomSeed : IO UInt64 := do
  let bytes ← IO.getRandomBytes 8
  return bytes.foldl (fun n b ↦ n * 256 + b.toUInt64) 0

end Interdomain

/-- Run the command line, print its report and leave with its exit code. -/
def main (arguments : List String) : IO UInt32 := do
  let report ← Interdomain.CommandLine.run (m := IO) arguments (← Interdomain.randomSeed)
  (← IO.getStdout).putStr report.output
  (← IO.getStderr).putStr report.complaint
  return report.exitCode.toUInt32
