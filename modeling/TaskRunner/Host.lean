import TaskRunner.World

/-!
# Child processes

A command is run by a shell in the surroundings of the process. What becomes of it depends on the
command, the shell, the environment and those surroundings alone, and it can change of them only the
files and how much of the input is left. What a command, a shell or an environment is made of has to
be text without null characters (`Spawn.of`).
-/

namespace TaskRunner

/-- A command to be run. -/
structure Spawn where
  /-- The text of the command, and arguments for it. -/
  command : List String
  /-- The shell that runs it, if the project sets one. -/
  shell : Option String
  environment : Assoc String String

namespace Spawn

/-- The shell of a project that names none. -/
def usualShell : String := "/bin/sh"

/-- The name that the shell is started under. -/
def name (s : Spawn) : String :=
  match s.shell with
  | none | some "" => usualShell
  | some shell => shell

/-- A value where a text is needed. -/
def textOf : Data → Except Failure String
  | .text s => .ok s
  | d => .error (.badCall s!"expected str, bytes or os.PathLike object, not {d.kindName}")

/-- The values that a command is made of: the one text, or the items of a list or the keys of a table. -/
def partsOf : Data → Except Failure (List Data)
  | .text s => .ok [.text s]
  | .list items => .ok items
  | .table fields => .ok (fields.map fun (key, _) => .text key)
  | d => .error (.badCall s!"'{d.kindName}' object is not iterable")

/-- The fields that are put on top of an environment. -/
def fieldsOf : Data → Except Failure (List (String × Data))
  | .null => .ok []
  | .table fields => .ok fields
  | d => .error (.badCall s!"'{d.kindName}' object is not a mapping")

/-- Refuses a text with a null character. -/
def withoutNull (s : String) : Except Failure String :=
  if s.toList.contains '\x00' then .error .nullCharacter else .ok s

/-- A variable of an environment, whose name holds no equals sign. -/
def variableOf (name : String) (value : Data) : Except Failure (String × String) := do
  if name.toList.contains '=' then throw .illegalVariable
  return (name, ← textOf value)

/-- The command of a value, with a shell and with fields on top of an environment, unless one of them is not as it
has to be. -/
def of (command shell env : Data) (environment : Assoc String String) : Except Failure Spawn := do
  let environment : Assoc String Data := Assoc.ofList (environment.toList.map fun (name, value) => (name, .text value))
  let environment := environment.insertAll (← fieldsOf env)
  let parts ← partsOf command
  let shell ← match shell with
    | .null => pure none
    | d => some <$> textOf d
  let vars ← environment.toList.mapM fun (name, value) => variableOf name value
  let _ ← withoutNull (shell.getD usualShell)
  let command ← parts.mapM fun d => do withoutNull (← textOf d)
  for (name, value) in vars do
    let _ ← withoutNull (name ++ value)
  return { command, shell, environment := Assoc.ofList vars }

end Spawn

/-- What became of a command. -/
structure Report where
  /-- The return code, or why the shell could not be started. -/
  result : Except Failure Int
  out : ByteArray
  err : ByteArray
  files : FileSystem
  /-- The bytes of the input that are left. -/
  rest : List UInt8

/-- How commands are run, their output collected or not. -/
abbrev Host := Spawn → Bool → Machine → Report

namespace Host

/-- The text of output that was collected. -/
def collected (bytes : ByteArray) : Except Failure String :=
  match Text.Utf8.decode bytes with
  | .ok s => .ok (Text.unifyLineEnds s)
  | .error fault => .error (.undecodable fault)

/-- Runs a command: its output is collected, or shown as it is. -/
def run (host : Host) (spawn : Spawn) (capture : Bool) : Run Completed := do
  let report := host spawn capture (← get).machine
  modify fun w =>
    { w with machine :=
      { w.machine with files := report.files, input := { w.machine.input with rest := report.rest } } }
  if ¬capture then
    Run.writeOut report.out
    Run.writeErr report.err
  let returncode ← Run.ofExcept report.result
  if capture then
    let out ← Run.ofExcept (collected report.out)
    let err ← Run.ofExcept (collected report.err)
    return ⟨returncode, some out, some err⟩
  else return ⟨returncode, none, none⟩

end Host

end TaskRunner
