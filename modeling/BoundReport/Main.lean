import BoundReport.Command.Run
import Std.Time.Format

/-!
# The program

The outermost layer: a disk that is the file system of the machine, the surroundings of the
process, and where the result of a run goes. A report or listing goes to the standard output;
warnings and errors go to the standard error output.
-/

namespace BoundReport.Machine

/-- Whether an action succeeds. -/
def succeeds (action : IO Unit) : IO Bool := do
  try
    action
    return true
  catch _ => return false

/-- The file system of the machine. -/
def disk : Disk IO where
  isFile path := succeeds do
    let handle ← IO.FS.Handle.mk (Text.toString path) .read
    discard <| handle.read 1
  isDirectory path := succeeds do
    -- a dot is a step that can be taken from a directory only
    discard <| IO.FS.realPath (Text.toString (FilePath.join path ['.']))
  read? path := do
    try
      let bytes ← IO.FS.readBinFile (Text.toString path)
      return (String.fromUTF8? bytes).map String.toList
    catch _ => return none
  makeDirectory path := succeeds (IO.FS.createDirAll (Text.toString path))
  write path content := succeeds (IO.FS.writeFile (Text.toString path) (Text.toString content))

/-- The present local time. -/
def localTime : IO Timestamp := do
  let now ← Std.Time.PlainDateTime.now
  return {
    year := now.date.year
    month := now.date.month.val.toNat
    day := now.date.day.val.toNat
    hour := now.time.hour.val.toNat
    minute := now.time.minute.val.toNat
    second := now.time.second.val.toNat }

/-- What the process knows about its surroundings. The environment variable `NO_COLOR`, with
whatever value, turns colors off. -/
def surroundings : IO Surroundings := do
  let directory ← try pure (toString (← IO.currentDir)) catch _ => pure "."
  return {
    workingDirectory := directory.toList
    time := ← localTime
    color := (← IO.getEnv "NO_COLOR").isNone }

end BoundReport.Machine

open BoundReport

/-- Runs the program, and ends with the exit code of the run. -/
def main (arguments : List String) : IO UInt32 := do
  let surroundings ← Machine.surroundings
  let result ← runProgram Machine.disk surroundings (arguments.map String.toList)
  let stdout ← IO.getStdout
  stdout.putStr (Text.toString result.stdout)
  stdout.flush
  for line in result.warnings ++ result.ending.complaint do
    IO.eprintln (Text.toString line)
  return UInt32.ofNat result.ending.exitCode
