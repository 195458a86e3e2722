import TaskRunner.Tools.Accounts
import TaskRunner.Tools.Copying
import TaskRunner.Tools.Running

/-!
# Who runs a program, and on what

The user and the groups that a program runs for, the owners of files, what is known about the machine, where
programs are, and signals to processes. There is one user, who may do everything; names of others are known.
-/

namespace TaskRunner.Tools.Identity

open Processes Accounts

/-! ## Users -/

/-- Writes who a user is. -/
def id (args : List String) : Tool Nat := do
  let known := [flag "a", flag "Z" "context", flag "g" "group", flag "G" "groups", flag "n" "name", flag "r" "real",
    flag "u" "user", flag "z" "zero"]
  let g ← Options.read { known } args
  let choices := ["u", "g", "G", "Z"].filter g.has
  if g.has "Z" then Tool.fail 1 "--context (-Z) works only on an SELinux-enabled kernel"
  if 1 < choices.length then Tool.fail 1 "cannot print \"only\" of more than one choice"
  if choices = [] ∧ (g.has "n" ∨ g.has "r") then Tool.fail 1 "cannot print only names or real IDs in default format"
  if choices = [] ∧ g.has "z" then Tool.fail 1 "option --zero not permitted in default format"
  let ending := if g.has "z" then "\x00" else "\n"
  let shown (names : List (String × Nat)) (n : Nat) : String := if g.has "n" then nameIn names n else toString n
  let tell (user : Nat) : Tool Unit := do
    let group := groupOf user
    let full (names : List (String × Nat)) (n : Nat) : String :=
      match names.find? fun (_, m) => m == n with
      | some (name, _) => toString n ++ "(" ++ name ++ ")"
      | none => toString n
    match choices.head? with
    | some "u" => Tool.emit (shown users user ++ ending)
    | some _ => Tool.emit (shown groupNames group ++ ending)
    | none =>
      Tool.emitLine ("uid=" ++ full users user ++ " gid=" ++ full groupNames group ++ " groups=" ++ full groupNames group)
  if g.operands = [] then
    tell 0
    return 0
  Tool.worst (fun name => do
    match numberIn users name with
    | some user =>
      tell user
      return 0
    | none =>
      Tool.say (Quoting.local_ name ++ ": no such user")
      return 1) g.operands

/-- Writes the name of the user. -/
def whoami (args : List String) : Tool Nat := do
  let g ← Options.read { known := [] } args
  match g.operands with
  | [] =>
    Tool.emitLine "root"
    return 0
  | operand :: _ => Options.extra 1 operand

/-- Writes the groups of users. -/
def groups (args : List String) : Tool Nat := do
  let g ← Options.read { known := [] } args
  if g.operands = [] then
    Tool.emitLine "root"
    return 0
  Tool.worst (fun name => do
    match users.find? fun (n, _) => n == name with
    | some (_, user) =>
      Tool.emitLine (name ++ " : " ++ nameIn groupNames (groupOf user))
      return 0
    | none =>
      Tool.say (Quoting.local_ name ++ ": no such user")
      return 1) g.operands

/-- Writes who has logged in: nobody. -/
def logname (args : List String) : Tool Nat := do
  let g ← Options.read { known := [] } args
  match g.operands with
  | [] => Tool.fail 1 "no login name"
  | operand :: _ => Options.extra 1 operand

/-- Writes who is there: nobody. -/
def present (args : List String) : Tool Nat := do
  let _ ← Options.read { known := [] } args
  return 0

/-- Writes who is there in more detail: nobody. -/
def who (args : List String) : Tool Nat := do
  let known := (["a", "b", "d", "H", "l", "m", "p", "q", "r", "s", "t", "T", "w", "u"].map fun l => flag l)
  let g ← Options.read { known } args
  if g.has "q" then Tool.emit "\n# users=0\n"
  else if g.has "H" then Tool.emitLine "NAME     LINE         TIME             COMMENT"
  return 0

/-! ## Owners -/

/-- What an owner is called in messages. -/
structure Owner where
  /-- The text that names it. -/
  text : String
  /-- Whether it is a group alone. -/
  isGroup : Bool

/-- The owner that a text names, which has to be known. -/
def ownerOf (text : String) : Tool Owner := do
  match text.toList.span (· != ':') with
  | (user, rest) =>
    let user := String.ofList user
    let group := String.ofList (rest.drop 1)
    if rest = [] ∧ (numberIn users user).isNone then
      -- A point is an old way to write a colon.
      match text.toList.span (· != '.') with
      | (user, '.' :: group) =>
        if (numberIn users (String.ofList user)).isSome
            ∧ (group = [] ∨ (numberIn groupNames (String.ofList group)).isSome) then
          Tool.say ("warning: \x27.\x27 should be \x27:\x27: " ++ Quoting.local_ text)
          return ⟨text, false⟩
      | _ => pure ()
    if user ≠ "" ∧ (numberIn users user).isNone then Tool.fail 1 ("invalid user: " ++ Quoting.local_ text)
    if group ≠ "" ∧ (numberIn groupNames group).isNone then Tool.fail 1 ("invalid group: " ++ Quoting.local_ text)
    return ⟨if user = "" then group else text, user == "" && group != ""⟩

/-- The paths of a tree, what is inside a directory before it. -/
def treeOf (fs : FileSystem) : Nat → String → Location → List String
  | 0, path, _ => [path]
  | n + 1, path, l =>
    match fs.held? l with
    | some (.directory _) =>
      ((fs.names l).flatMap fun name =>
        treeOf fs n ((if path.endsWith "/" then path else path ++ "/") ++ Text.Octets.ofName name) (name :: l)) ++ [path]
    | _ => [path]

/-- Gives files to an owner that has been read from the first operand, unless another file says it. -/
def give (ownersOf : String → Tool Owner) (what : String) (args : List String) : Tool Nat := do
  let known := [flag "c" "changes", flag "f" "silent", word "quiet", flag "v" "verbose", word "dereference",
    flag "h" "no-dereference", wordTaking "from", word "no-preserve-root", word "preserve-root", wordTaking "reference",
    flag "R" "recursive", flag "H", flag "L", flag "P"]
  let g ← Options.read { known } args
  let silent := g.has "f" || g.has "quiet"
  let (owner, paths) : Option String × List String := match g.last? "reference", g.operands with
    | some _, paths => (none, paths)
    | none, owner :: paths => (some owner, paths)
    | none, [] => (none, [])
  if g.operands = [] then Tool.misuse 1 "missing operand"
  if paths = [] then Options.missingAfter 1 "operand" g.operands
  let (fs, place) ← Proc.files
  let owner ← match owner with
    | some text => ownersOf text
    | none =>
      let file := (g.last? "reference").getD ""
      match fs.info true place (Copying.text file) with
      | .ok _ => pure ⟨if what = "group" then "root" else "root:root", what == "group"⟩
      | .error r => Tool.fail 1 ("failed to get attributes of " ++ Quoting.always file ++ ": " ++ r.message)
  Tool.worst (fun path => do
    match fs.walk (!g.has "h") place (Copying.text path) with
    | .error r =>
      if ¬ silent then Tool.say ("cannot access " ++ Quoting.always path ++ ": " ++ r.message)
      return 1
    | .ok l =>
      if (fs.held? l).isNone then
        if ¬ silent then Tool.say ("cannot access " ++ Quoting.always path ++ ": " ++ Refusal.noEntry.message)
        return 1
      let all := if g.has "R" then treeOf fs (fs.entries.toList.length + 1) path l else [path]
      if g.has "v" then
        let kind := if owner.isGroup then "group" else "ownership"
        for p in all do Tool.emitLine (kind ++ " of " ++ Quoting.always p ++ " retained as " ++ owner.text)
      return 0) paths

/-- Gives files to a user, a group or both. -/
def chown : List String → Tool Nat := give ownerOf "ownership"

/-- Gives files to a group. -/
def chgrp : List String → Tool Nat := give (fun text => do
  if text ≠ "" ∧ (numberIn groupNames text).isNone then Tool.fail 1 ("invalid group: " ++ Quoting.local_ text)
  return ⟨text, true⟩) "group"

/-! ## The machine -/

/-- What is known about the machine: the letter of each part, and its text. -/
def machine : List (Char × String) :=
  [('s', "Linux"), ('n', "localhost"), ('r', "6.1.0"), ('v', "#1 SMP PREEMPT_DYNAMIC"), ('m', "x86_64"), ('p', "unknown"),
    ('i', "unknown"), ('o', "GNU/Linux")]

/-- Writes what is known about the machine. -/
def uname (args : List String) : Tool Nat := do
  let known := [flag "a" "all", flag "s" "kernel-name", word "sysname", flag "n" "nodename", flag "r" "kernel-release",
    word "release", flag "v" "kernel-version", flag "m" "machine", flag "p" "processor", flag "i" "hardware-platform",
    flag "o" "operating-system"]
  let g ← Options.read { known } args
  match g.operands with
  | operand :: _ => Options.extra 1 operand
  | [] =>
    let parts := machine.filter fun (c, text) =>
      if g.has "a" then text != "unknown"
      else if g.options = [] then c == 's'
      else g.has (String.singleton c) || (c == 's' && g.has "sysname") || (c == 'r' && g.has "release")
    Tool.emitLine (" ".intercalate (parts.map Prod.snd))
    return 0

/-- Writes one text about the machine. -/
def single (text : String) (args : List String) : Tool Nat := do
  let g ← Options.read { known := [] } args
  match g.operands with
  | operand :: _ => Options.extra 1 operand
  | [] =>
    Tool.emitLine text
    return 0

/-- Writes the name of the machine. -/
def hostname (args : List String) : Tool Nat := do
  let letters := ["a", "A", "b", "d", "f", "i", "I", "s", "y"]
  let g ← Options.read { known := letters.map fun l => flag l } args
  if g.operands ≠ [] then Tool.fail 1 "you must be root to change the host name"
  if g.has "i" ∨ g.has "I" then Tool.emitLine "127.0.0.1"
  else if g.has "d" ∨ g.has "y" ∨ g.has "a" then Tool.emitLine ""
  else Tool.emitLine "localhost"
  return 0

/-- Writes how many programs can run at once. -/
def nproc (args : List String) : Tool Nat := do
  let g ← Options.read { known := [word "all", wordTaking "ignore"] } args
  match g.operands with
  | operand :: _ => Options.extra 1 operand
  | [] =>
    let ignored ← match g.last? "ignore" with
      | none => pure 0
      | some s => match Numbers.size s with
        | .ok n => pure n
        | .error _ => Tool.fail 1 ("invalid number: " ++ Quoting.local_ s)
    let wished ← Tool.setting "OMP_NUM_THREADS"
    let wanted : Option Nat := if g.has "all" then none else (wished.bind String.toNat?).filter (0 < ·)
    Tool.emitLine (toString (max 1 (wanted.getD 4 - ignored)))
    return 0

/-- Writes the terminal that the input comes from: none. -/
def tty (args : List String) : Tool Nat := do
  let g ← Options.read { known := [flag "s" "silent", word "quiet"], status := 2 } args
  match g.operands with
  | operand :: _ => Options.extra 2 operand
  | [] =>
    if ¬ (g.has "s" ∨ g.has "quiet") then Tool.emitLine "not a tty"
    return 1

/-- Makes sure that files are kept. -/
def sync (args : List String) : Tool Nat := do
  let g ← Options.read { known := [flag "d" "data", flag "f" "file-system"] } args
  if g.has "d" ∧ g.has "f" then Tool.fail 1 "cannot specify both --data and --file-system"
  if g.has "d" ∧ g.operands = [] then Tool.fail 1 "--data needs at least one argument"
  let (fs, place) ← Proc.files
  Tool.worst (fun path => do
    match fs.info true place (Copying.text path) with
    | .ok _ => return 0
    | .error r =>
      Tool.say ("error opening " ++ Quoting.always path ++ ": " ++ r.message)
      return 1) g.operands

/-! ## Programs and processes -/

/-- Writes where programs are. -/
def which (args : List String) : Tool Nat := do
  let rec letters : Nat → Bool → Bool → List String → Option Char × Bool × Bool × List String
    | 0, all, quiet, rest => (none, all, quiet, rest)
    | _, all, quiet, [] => (none, all, quiet, [])
    | n + 1, all, quiet, arg :: rest =>
      if arg = "--" then (none, all, quiet, rest)
      else if ¬ arg.startsWith "-" ∨ arg = "-" then (none, all, quiet, arg :: rest)
      else match (arg.toList.drop 1).find? fun c => c != 'a' && c != 's' with
        | some c => (some c, all, quiet, rest)
        | none => letters n (all || arg.toList.contains 'a') (quiet || arg.toList.contains 's') rest
  let (wrong, all, quiet, names) := letters (args.length + 1) false false args
  match wrong with
  | some c =>
    Tool.note ("Illegal option -" ++ String.singleton c ++ "\n")
    Tool.emitLine "Usage: /usr/bin/which [-as] args"
    return 2
  | none =>
    let (fs, place) ← Proc.files
    let runs (path : String) : Bool := match fs.walk true place (Copying.text path) with
      | .ok l => (fs.held? l).any (Executable.mayExecute fs)
      | .error _ => false
    let searchPath := (← Tool.setting "PATH").getD ""
    let mut status := if names = [] then 1 else 0
    for name in names do
      let paths :=
        if name.toList.contains '/' then [name]
        else ((searchPath.splitOn ":").map fun d => (if d = "" then "." else d) ++ "/" ++ name)
      let found := paths.filter runs
      let found := if all then found else found.take 1
      if found = [] then status := 1
      if ¬ quiet then for path in found do Tool.emitLine path
    return status

/-- How signals are sent. -/
def killUsage : String :=
  "\nUsage:\n kill [options] <pid> [...]\n\nOptions:\n <pid> [...]            send signal to every <pid> listed\n"
    ++ " -<signal>, -s, --signal <signal>\n                        specify the <signal> to be sent\n"
    ++ " -q, --queue <value>    integer value to be sent with the signal\n"
    ++ " -l, --list=[<signal>]  list all signal names, or convert one to a name\n"
    ++ " -L, --table            list all signal names in a nice table\n\n"
    ++ " -h, --help     display this help and exit\n -V, --version  output version information and exit\n\n"
    ++ "For more details see kill(1).\n"

/-- Sends a signal to processes. -/
def kill (args : List String) : Tool Nat := do
  let wrongly : Tool Nat := do
    Tool.note killUsage
    return 1
  let names := "HUP INT QUIT ILL TRAP ABRT BUS FPE KILL USR1 SEGV USR2 PIPE ALRM TERM STKFLT\n"
    ++ "CHLD CONT STOP TSTP TTIN TTOU URG XCPU XFSZ VTALRM PROF WINCH POLL PWR SYS\n"
  let sendAll (signal : Nat) (pids : List String) : Tool Nat := do
    if pids = [] then return ← wrongly
    Tool.worst (fun text => do
      match Numbers.integer? text with
      | some n =>
        match ← Proc.send n.toNat signal with
        | .ok () => return 0
        | .error r =>
          Tool.say ("(" ++ text ++ "): " ++ r.message)
          return 1
      | none =>
        Tool.say ("failed to parse argument: " ++ Quoting.always text)
        return 1) pids
  let signal? (s : String) : Option Nat := Shell.Signals.ofText .extended 0 s
  match args with
  | [] => wrongly
  | ["-l"] | ["--list"] =>
    Tool.emit names
    return 0
  | "-l" :: s :: _ =>
    match Shell.Signals.ofNumber s, signal? s with
    | some n, _ =>
      Tool.emitLine (Shell.Signals.name .extended n)
      return 0
    | none, some n =>
      Tool.emitLine (toString n)
      return 0
    | none, none =>
      Tool.say ("unknown signal name " ++ s)
      return 0
  | "-s" :: s :: pids | "--signal" :: s :: pids =>
    match signal? s with
    | some n => sendAll n pids
    | none => sendAll 15 pids
  | "--" :: pids => sendAll 15 pids
  | first :: rest =>
    if first.startsWith "-" ∧ first ≠ "-" then
      match signal? (first.drop 1).toString with
      | some n => sendAll n (if rest.head? = some "--" then rest.drop 1 else rest)
      | none =>
        Tool.say ("invalid argument " ++ ((first.drop 1).take 1).toString)
        wrongly
    else sendAll 15 args

end TaskRunner.Tools.Identity
