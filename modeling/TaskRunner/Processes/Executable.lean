import TaskRunner.Processes.Program

/-!
# What can be executed

A path leads to something that can be executed if it leads to a program, or to a file whose permissions
allow it. A file whose first line begins with `#!` is executed by the program that the line names; any
other file has no form in which it can be executed, and it is for who wanted it to say what becomes of
it. Names without a slash are looked for in the directories of a search path.
-/

namespace TaskRunner.Processes.Executable

/-- Takes blanks away from both ends. -/
def trim (s : String) : String :=
  let isBlank (c : Char) : Bool := c == ' ' || c == '\t'
  String.ofList ((s.toList.dropWhile isBlank).reverse.dropWhile isBlank).reverse

/-- The program that the first line of a file names, and its argument if it has one. -/
def interpreter? (content : ByteArray) : Option (String × Option String) :=
  if content.size < 2 ∨ content.get! 0 ≠ 35 ∨ content.get! 1 ≠ 33 then none
  else
    let line := (Text.Octets.ofBytes (content.extract 2 256)).toList.takeWhile (· != '\n')
    let (name, rest) := (trim (String.ofList line)).toList.span fun c => c != ' ' && c != '\t'
    let argument := trim (String.ofList rest)
    if name = [] then none else some (String.ofList name, if argument = "" then none else some argument)

/-- Whether an entry may be executed. -/
def mayExecute (fs : FileSystem) : Entry → Bool
  | .program _ => true
  | .file node => ((fs.nodes.find? node).map fun n => n.mode &&& 0o111 != 0).getD false
  | _ => false

/-- What executing a path comes to: a program with its arguments, those of the first lines of files in front. -/
def imageFrom (fs : FileSystem) (place : FileSystem.Place) (environment : List (String × String)) :
    Nat → String → String → List String → Except Refusal Image
  | 0, _, _, _ => .error .tooManyLinks
  | n + 1, path, zero, args => do
    let l ← fs.walk true place (Text.Octets.toText path)
    match fs.held? l with
    | some (.program program) => return { program, zero, args, environment }
    | some (.file node) =>
      if ¬ mayExecute fs (.file node) then throw .noPermission
      match interpreter? (fs.content node) with
      | some (name, argument) => imageFrom fs place environment n name name (argument.toList ++ path :: args)
      | none => throw .notExecutable
    | some _ => throw .noPermission
    | none => throw .noEntry

/-- What executing a path comes to. -/
def image (fs : FileSystem) (place : FileSystem.Place) (path zero : String) (args : List String)
    (environment : List (String × String)) : Except Refusal Image :=
  imageFrom fs place environment 5 path zero args

/-- The paths that a name without a slash may stand for. -/
def candidates (searchPath name : String) : List String :=
  (searchPath.splitOn ":").map fun d => if d = "" then name else if d.endsWith "/" then d ++ name else d ++ "/" ++ name

/-- What a search for a program has found. -/
inductive Found where
  | at (path : String)
  /-- Only something that cannot be executed. -/
  | forbidden (path : String)
  | nothing

/-- Looks for a name in the directories of a search path. -/
def find (fs : FileSystem) (place : FileSystem.Place) (searchPath name : String) : Found :=
  let held? (path : String) : Option Entry := match fs.walk true place (Text.Octets.toText path) with
    | .ok l => fs.held? l
    | .error _ => none
  let paths := candidates searchPath name
  match paths.find? fun path => (held? path).any (mayExecute fs) with
  | some path => .at path
  | none => match paths.find? fun path => (held? path).isSome with
    | some path => .forbidden path
    | none => .nothing

/-- What executing a name comes to, which is looked for if it has no slash. -/
def imageOf (fs : FileSystem) (place : FileSystem.Place) (searchPath name : String) (args : List String)
    (environment : List (String × String)) : Except Refusal Image :=
  if name.toList.contains '/' then image fs place name name args environment
  else match find fs place searchPath name with
    | .at path => image fs place path name args environment
    | .forbidden _ => .error .noPermission
    | .nothing => .error .noEntry

end TaskRunner.Processes.Executable
