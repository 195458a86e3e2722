import TaskRunner.Failure
import TaskRunner.FileSystem.Resolve
import TaskRunner.Text.Lines

/-!
# The machine a run works on

The files, the directory the process stands in, its standard input and its environment. Every
operation says what changes, or why it is refused. Lines of the input are read ahead in blocks; what
has been read ahead no child process sees.
-/

namespace TaskRunner

/-- The standard input: the bytes that have been read ahead, and those that have not. -/
structure Input where
  held : List UInt8
  rest : List UInt8
  deriving DecidableEq, Repr

/-- The surroundings of a process. -/
structure Machine where
  files : FileSystem
  place : FileSystem.Place
  input : Input
  environment : Assoc String String

namespace Machine

/-- A refusal as a failure that names the path. -/
def refuse {α : Type} (path : String) (result : Except Refusal α) : Except Failure α :=
  if path.toList.contains '\x00' then .error .nullCharacter
  else result.mapError fun r => .refused r (some path)

/-- The directory that the process stands in, if it is still there. -/
def workingDirectory? (m : Machine) : Option Location :=
  if m.files.holds m.place then some m.place.location else none

/-- The directory that the process stands in. -/
def workingDirectory (m : Machine) : Except Failure Location :=
  match m.workingDirectory? with
  | some l => .ok l
  | none => .error (.refused .noEntry none)

/-- Changes the directory that the process stands in. -/
def changeDirectory (m : Machine) (path : String) : Except Failure Machine := do
  let place ← refuse path (m.files.enter m.place path)
  return { m with place }

/-- Makes a directory. -/
def makeDirectory (m : Machine) (path : String) : Except Failure Machine := do
  let files ← refuse path (m.files.makeDirectoryAt m.place path)
  return { m with files }

/-- Removes an empty directory. -/
def removeDirectory (m : Machine) (path : String) : Except Failure Machine := do
  let files ← refuse path (m.files.removeDirectoryAt m.place path)
  return { m with files }

/-- The bytes of a file. -/
def readBytes (m : Machine) (path : String) : Except Failure ByteArray :=
  refuse path (m.files.readAt m.place path)

/-- The text of a file, every line ended by a line feed. -/
def readText (m : Machine) (path : String) : Except Failure String := do
  let bytes ← m.readBytes path
  match Text.Utf8.decode bytes with
  | .ok s => return Text.unifyLineEnds s
  | .error fault => throw (.undecodable fault)

/-- What a path leads to, if it leads anywhere. -/
def lookup (m : Machine) (path : String) : Except Failure (Option Entry) :=
  if path.toList.contains '\x00' then .ok none else refuse path (m.files.lookup m.place path)

/-- Whether a path leads to anything. -/
def pathExists (m : Machine) (path : String) : Except Failure Bool := do
  return (← m.lookup path).isSome

/-- Whether a path leads to a regular file. -/
def isFile (m : Machine) (path : String) : Except Failure Bool := do
  match ← m.lookup path with
  | some (.file _) | some (.program _) => return true
  | _ => return false

/-- The location that a path stands for; links that lead back to themselves are an error. -/
def resolve (m : Machine) (p : Path) : Except Failure Location := do
  if p.names.any fun name => name.toList.contains '\x00' then throw .nullCharacter
  let start ← if p.isAbsolute then pure [] else m.workingDirectory
  let l := m.files.resolveNamesFrom start p.names
  match m.files.walk true m.place (Location.toString l) with
  | .error .tooManyLinks => throw (.linkLoop (Location.path l))
  | _ => return l

/-- How many bytes are read ahead at once. -/
def blockSize : Nat := 8192

/-- The bytes of the first line without its end, and the bytes after it; none if the line may go on. -/
def cutLine (ended : Bool) : List UInt8 → Option (List UInt8 × List UInt8)
  | [] => if ended then some ([], []) else none
  | 10 :: rest => some ([], rest)
  | 13 :: 10 :: rest => some ([], rest)
  | [13] => if ended then some ([], []) else none
  | 13 :: rest => some ([], rest)
  | b :: rest => (cutLine ended rest).map fun (line, after) => (b :: line, after)

/-- Reads a line, at most the given number of blocks ahead. -/
def readLineFrom : Nat → Input → Option (List UInt8 × Input)
  | 0, input =>
    if input.held = [] then none
    else (cutLine true input.held).map fun (line, held) => (line, { input with held })
  | blocks + 1, input =>
    if input.rest = [] ∧ input.held = [] then none
    else match cutLine (input.rest = []) input.held with
      | some (line, held) => some (line, { input with held })
      | none => readLineFrom blocks ⟨input.held ++ input.rest.take blockSize, input.rest.drop blockSize⟩

/-- Reads a line of the standard input, without its end; at the end of the input there is none. -/
def readLine (m : Machine) : Except Failure (String × Machine) :=
  match readLineFrom (m.input.rest.length + 1) m.input with
  | some (line, input) => .ok (Text.Utf8.showBytes ⟨line.toArray⟩, { m with input })
  | none => .error (.endOfInput [.text "EOF when reading a line"])

end Machine

end TaskRunner
