import TaskRunner.Processes.Executable
import TaskRunner.Shell.Builtins.Usage
import TaskRunner.Shell.Arrays
import TaskRunner.Shell.Quoting

/-!
# What the names of commands stand for

A name is a keyword, an alias, a function, a command of the shell, or a program in one of the directories
of the search path. The places at which programs were found are kept.
-/

namespace TaskRunner.Shell.Builtins

open Processes

/-- The commands of the shell itself. -/
def names : Dialect → List String
  | .plain =>
    [".", ":", "[", "alias", "bg", "break", "cd", "chdir", "command", "continue", "echo", "eval", "exec", "exit",
      "export", "false", "fg", "getopts", "hash", "jobs", "kill", "local", "printf", "pwd", "read", "readonly",
      "return", "set", "shift", "test", "times", "trap", "true", "type", "ulimit", "umask", "unalias", "unset", "wait"]
  | .extended =>
    [".", ":", "[", "alias", "bg", "bind", "break", "builtin", "caller", "cd", "command", "compgen", "complete",
      "compopt", "continue", "declare", "dirs", "disown", "echo", "enable", "eval", "exec", "exit", "export", "false",
      "fc", "fg", "getopts", "hash", "help", "history", "jobs", "kill", "let", "local", "logout", "mapfile", "popd",
      "printf", "pushd", "pwd", "read", "readarray", "readonly", "return", "set", "shift", "shopt", "source", "suspend",
      "test", "times", "trap", "true", "type", "typeset", "ulimit", "umask", "unalias", "unset", "wait"]

/-- Whether a name is one of a command of the shell that is not turned off. -/
def isOwn (s : State) (name : String) : Bool := (names s.dialect).contains name && !s.disabled.contains name

/-- Whether a name is one of a special command, whose assignments stay and whose errors end the shell. -/
def isSpecial (name : String) : Bool := Grammar.isSpecial name || name == "local"

/-- Whether a word of a command that looks like an assignment is expanded like one. -/
def takesAssignments (name : String) : Bool := ["export", "readonly", "local", "alias"].contains name

/-- The search path of a shell whose environment has none. -/
def usualPath : String := "/usr/local/sbin:/usr/local/bin:/usr/sbin:/usr/bin:/sbin:/bin"

/-- The search path that is as good as any. -/
def standardPath : String := "/usr/sbin:/usr/bin:/sbin:/bin"

/-- Notes where a program was found. -/
def note (name path : String) (uses : Nat) : Sh Unit := modify fun s =>
  let before := ((s.hashed.find? name).map Prod.snd).getD 0
  { s with hashed := s.hashed.insert name (path, before + uses) }

/-- Looks for a program. -/
def search (searchPath name : String) : Sh Executable.Found := do
  let (fs, place) ← Proc.files
  return Executable.find fs place searchPath name

/-- Whether a path leads to anything. -/
def leads (path : String) : Sh Bool := do
  let (fs, place) ← Proc.files
  return (fs.walk true place (Text.Octets.toText path)).isOk

/-- Whether a path leads to something that can be executed. -/
def canExecute (path : String) : Sh Bool := do
  let (fs, place) ← Proc.files
  match fs.walk true place (Text.Octets.toText path) with
  | .ok l => return (fs.held? l).any (Executable.mayExecute fs)
  | .error _ => return false

/-- Says what a name stands for in the plain language. -/
def describePlain (verbose : Bool) (path name : String) : Sh Nat := do
  let s ← get
  let say (long short : String) : Sh Nat := do
    Sh.put ((if verbose then name ++ long else short) ++ "\n")
    return 0
  let unknown : Sh Nat := do
    if verbose then Sh.put (name ++ ": not found\n")
    return 127
  if (Tokens.keywords .plain).contains name then say " is a shell keyword" name
  else match s.aliases.find? name with
    | some value => say (" is an alias for " ++ value) ("alias " ++ name ++ "=" ++ Quoting.plain value)
    | none =>
      if s.functions.contains name then say " is a shell function" name
      else if (names .plain).contains name then
        say (if isSpecial name then " is a special shell builtin" else " is a shell builtin") name
      else if name.toList.contains '/' then
        if ← leads name then say (" is " ++ name) name else unknown
      else match ← search path name with
        | .at found =>
          let tracked := s.hashed.contains name
          note name found 0
          say ((if tracked then " is a tracked alias for " else " is ") ++ found) found
        | _ => unknown

/-- Says what names stand for in the plain language. -/
def typePlain (args : List String) : Sh Nat := do
  let path := (Sh.value? (← get) "PATH").getD ""
  let mut status := 0
  for name in args do
    let answer ← describePlain true path name
    status := status ||| answer
  return status

/-- What a name may stand for in the extended language: the kind, and what is said. -/
def meanings (listing : String → String) (name : String) (functions : Bool) (everything : Bool) (path : String) :
    Sh (List (String × String × String)) := do
  let s ← get
  let word := if Sh.isOn s "expand_aliases" then (s.aliases.find? name).map fun v =>
      ("alias", name ++ " is aliased to \x60" ++ v ++ "\x27", "alias " ++ name ++ "='" ++ v ++ "'") else none
  let keyword := if (Tokens.keywords .extended).contains name then
      some ("keyword", name ++ " is a shell keyword", name) else none
  let function := if functions ∧ s.functions.contains name then
      some ("function", name ++ " is a function\n" ++ listing name, name) else none
  let builtin := if isOwn s name then
      some ("builtin", name ++ (if Grammar.isSpecial name ∧ Sh.isOn s "posix" then " is a special shell builtin"
        else " is a shell builtin"), name)
    else none
  let known := [word, keyword, function, builtin].filterMap id
  if known ≠ [] ∧ ¬ everything then return known.take 1
  if name.toList.contains '/' then
    return if ← canExecute name then known ++ [("file", name ++ " is " ++ name, name)] else known
  match s.hashed.find? name, everything with
  | some (found, _), false => return [("file", name ++ " is hashed (" ++ found ++ ")", found)]
  | _, _ =>
    if everything then
      let (fs, place) ← Proc.files
      let found := ((Executable.candidates path name).eraseDups).filter fun p =>
        match fs.walk true place (Text.Octets.toText p) with
        | .ok l => (fs.held? l).any (Executable.mayExecute fs)
        | .error _ => false
      return known ++ found.map fun p => ("file", name ++ " is " ++ p, p)
    else match ← search path name with
      | .at found | .forbidden found => return known ++ [("file", name ++ " is " ++ found, found)]
      | .nothing => return known

/-- Says what names stand for in the extended language. -/
def typeExtended (listing : String → String) (args : List String) : Sh Nat := do
  let (flags, names) ← readOptions "afptP" args
  let has (c : Char) : Bool := flags.any fun (d, _) => d == c
  let path := (Sh.value? (← get) "PATH").getD ""
  let mut status := 0
  for name in names do
    let found ← meanings listing name (!has 'f') (has 'a' || has 'P') path
    let found := if has 'P' then found.filter fun (kind, _, _) => kind == "file" else found
    let found := if has 'P' ∧ ¬ has 'a' then found.take 1 else found
    if found = [] then
      if ¬ (has 't' ∨ has 'p' ∨ has 'P') then Sh.complainAbout (name ++ ": not found")
      status := 1
    for (kind, long, short) in found do
      if has 't' then Sh.put (kind ++ "\n")
      else if ¬ (has 'p' ∨ has 'P') then Sh.put (long ++ "\n")
      else if kind = "file" then Sh.put (short ++ "\n")
  return status

/-- Says briefly or at length what names stand for in the extended language. -/
def describeExtended (listing : String → String) (verbose : Bool) (path : String) (names : List String) : Sh Nat := do
  let mut status := 1
  for name in names do
    let found ← meanings listing name true false path
    match found with
    | [] => if verbose then Sh.complainAbout (name ++ ": not found")
    | (_, long, short) :: _ =>
      Sh.put ((if verbose then long else short) ++ "\n")
      status := 0
  return status

/-- Where the place of a program comes in the list of all. -/
def hashRank (d : Dialect) (name : String) : Nat :=
  match d with
  | .plain => (((name.toList.head?.map Char.toNat).getD 0) * 16 + name.foldl (fun n c => n + c.toNat) 0) % 32768 % 31
  | .extended => Arrays.rank name % 256

/-- Shows the places at which programs were found, or looks for programs. -/
def hash (args : List String) : Sh Nat := do
  let d := (← get).dialect
  let (flags, args) ← readOptions (if d = .plain then "rv" else "dlp:rt") args
  let has (c : Char) : Bool := flags.any fun (e, _) => e == c
  if d = .plain ∧ has 'v' then badOption 'v'
  if has 'r' then modify fun s => { s with hashed := Assoc.empty }
  let s ← get
  let sorted := s.hashed.toList.mergeSort fun a b => hashRank d a.1 ≤ hashRank d b.1
  if args = [] then
    if has 'r' then return 0
    match d with
    | .plain => for (_, path, _) in sorted do Sh.put (path ++ "\n")
    | .extended =>
      if sorted = [] then Sh.put "hash: hash table empty\n"
      else if has 'l' then
        for (name, path, _) in sorted do Sh.put ("builtin hash -p " ++ path ++ " " ++ name ++ "\n")
      else
        Sh.put "hits\tcommand\n"
        for (_, path, uses) in sorted do
          let n := toString uses
          Sh.put (String.ofList (List.replicate (4 - n.length) ' ') ++ n ++ "\t" ++ path ++ "\n")
    return 0
  let path := (Sh.value? s "PATH").getD ""
  let mut status := 0
  for name in args do
    let s ← get
    if has 'd' then set { s with hashed := s.hashed.erase name }
    else if has 't' then
      match s.hashed.find? name with
      | some (p, _) => Sh.put ((if 1 < args.length then name ++ "\t" else "") ++ p ++ "\n")
      | none =>
        Sh.complainAbout (name ++ ": not found")
        status := 1
    else if has 'p' then
      match flags.find? fun (c, _) => c == 'p' with
      | some (_, p) => note name p 0
      | none => pure ()
    else if ¬ (name.toList.contains '/' ∨ isOwn s name ∨ s.functions.contains name) then
      match ← search path name with
      | .at found =>
        modify fun s => { s with hashed := s.hashed.erase name }
        note name found 0
      | _ =>
        Sh.complainAbout (name ++ ": not found")
        status := 1
  return status

end TaskRunner.Shell.Builtins
