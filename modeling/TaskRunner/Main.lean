import TaskRunner.Invocation
import TaskRunner.Shell

/-!
# The command line

Gathers what an invocation may look at, runs it, and hands over what came of it. The machine holds the
Runfiles and settings documents of the working directory and of those around it, as they are when the
invocation begins; commands run in the shell of this library, and the disk stays as it is.
-/

namespace TaskRunner.CommandLine

/-- The bytes of a file, if it can be read. -/
def bytesOf? (path : String) : IO (Option ByteArray) := do
  try return some (← IO.FS.readBinFile path) catch _ => return none

/-- Puts the files of a directory into a tree that an invocation looks at. -/
def gather (fs : FileSystem) (l : Location) : IO FileSystem := do
  let mut fs := fs.makeDirectories l
  for name in [Runfile.fileName, Settings.documentName] do
    match ← bytesOf? ((Location.path l).child name).toString with
    | some bytes => fs := fs.putFile (name :: l) bytes
    | none => pure ()
  return fs

/-- A location and those around it, the root first. -/
def around : Location → List Location
  | [] => [[]]
  | name :: l => around l ++ [name :: l]

/-- All bytes of a stream. -/
partial def readAll (stream : IO.FS.Stream) (read : ByteArray) : IO ByteArray := do
  let block ← stream.read 65536
  if block.isEmpty then return read else readAll stream (read ++ block)

/-- The standard input; a terminal is not waited for. -/
def readInput : IO ByteArray := do
  let stdin ← IO.getStdin
  if ← stdin.isTty then return ByteArray.empty else readAll stdin ByteArray.empty

/-- The variables of the environment that a shell looks at. -/
def readEnvironment : IO (Assoc String String) := do
  let mut found := Assoc.ofList Shell.defaultEnvironment
  for name in ["PATH", "HOME", "PWD", "USER", "LANG", "TERM"] do
    match ← IO.getEnv name with
    | some value => found := found.insert name value
    | none => pure ()
  return found

/-- The machine that the process runs on. -/
def readMachine : IO Machine := do
  let l := (Path.ofString (← IO.currentDir).toString).names.reverse
  let files ← (around l).foldlM gather Shell.installed
  return {
    files
    place := ⟨l, (files.directory? l).getD 0⟩
    input := ⟨[], (← readInput).toList⟩
    environment := ← readEnvironment }

/-- The exit status of the process; a value that is no number is shown. -/
def finish (c : Conclusion) : IO UInt32 := do
  match c.unreported with
  | some stop => IO.eprintln (stop.label ++ ": " ++ stop.message)
  | none => pure ()
  match c.status with
  | .int n => return (n % 256).toNat.toUInt32
  | .null => return 0
  | other =>
    IO.eprintln other.display
    return 1

/-- Runs an invocation with the words of the command line. -/
def run (words : List String) : IO UInt32 := do
  let world := World.initial (← readMachine) ("runx" :: words)
  let (conclusion, after) : Conclusion × World := match Invocation.main Shell.host words world with
    | .ok c after => (c, after)
    | .error stop after => (⟨.int 1, some stop⟩, after)
  (← IO.getStdout).write after.out
  (← IO.getStderr).write after.err
  finish conclusion

end TaskRunner.CommandLine

/-- The command line. -/
def main (words : List String) : IO UInt32 := TaskRunner.CommandLine.run words
