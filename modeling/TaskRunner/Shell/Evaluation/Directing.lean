import TaskRunner.Shell.Evaluation.Basic

/-!
# Commands that direct the shell

Commands of the shell that leave what is being carried out, carry out a text or a file, or take the place
of other commands.
-/

namespace TaskRunner.Shell.Evaluation

open Processes
open Builtins (readOptions sayUsage number)

/-! ## Leaving -/

/-- The status that is given to a command that leaves something. -/
def givenStatus (usual : Nat) : List String → Sh Nat
  | [] => return usual
  | a :: rest => do
    match (← get).dialect with
    | .plain => number a
    | .extended =>
      match Test.number? a with
      | none =>
        Sh.complainAbout (a ++ ": numeric argument required")
        throw (.exit 2)
      | some n =>
        if rest ≠ [] then
          Sh.complainAbout "too many arguments"
          throw (.discard 1)
        return (n % 256).toNat

/-- Ends the shell. -/
def exit (args : List String) : Sh Nat := do
  let s ← get
  let args := if s.dialect = .extended ∧ args.head? = some "--" then args.drop 1 else args
  throw (.exit (← givenStatus (s.lastStatus.getD s.status) args))

/-- Ends a function or a file that is carried out. -/
def give (args : List String) : Sh Nat := do
  let s ← get
  let args := if s.dialect = .extended ∧ args.head? = some "--" then args.drop 1 else args
  if s.dialect = .extended ∧ s.callers = [] ∧ s.sourced = 0 then
    Sh.complainAbout "can only \x60return\x27 from a function or sourced script"
    return 2
  match s.dialect, args with
  | .extended, a :: _ =>
    if (Test.number? a).isNone then
      Sh.complainAbout (a ++ ": numeric argument required")
      throw (.giveBack 2)
  | _, _ => pure ()
  throw (.giveBack (← givenStatus s.status args))

/-- Leaves loops. -/
def leaveLoops (jump : Nat → Jump) (args : List String) : Sh Nat := do
  let s ← get
  match s.dialect with
  | .plain =>
    let n ← match args with
      | a :: _ => do
        let n ← number a
        if n = 0 then Sh.fail ("Illegal number: " ++ a)
        pure n
      | [] => pure 1
    let n := min n s.loops
    if n = 0 then return 0
    Sh.setStatus 0
    throw (jump n)
  | .extended =>
    if s.loops = 0 then
      if ¬ Sh.isOn s "posix" then Sh.complainAbout "only meaningful in a \x60for\x27, \x60while\x27, or \x60until\x27 loop"
      return 0
    let args := if args.head? = some "--" then args.drop 1 else args
    match args with
    | [] =>
      Sh.setStatus 0
      throw (jump 1)
    | a :: rest =>
      match Test.number? a with
      | none =>
        Sh.complainAbout (a ++ ": numeric argument required")
        throw (.exit (s.status ||| 128))
      | some n =>
        if rest ≠ [] then
          Sh.complainAbout "too many arguments"
          throw (.discard 1)
        if n ≤ 0 then
          Sh.complainAbout (a ++ ": loop count out of range")
          Sh.setStatus 1
          throw (.breakLoop s.loops)
        Sh.setStatus 0
        throw (jump (min n.toNat s.loops))

/-! ## Texts and files -/

/-- Carries out its arguments as a text. -/
def evaluateText (k : Knot) (m : Mode) (args : List String) : Sh Nat := do
  let s ← get
  match s.dialect with
  | .plain =>
    if args = [] then return 0
    let line := s.functionLine
    modify fun s => { s with functionLine := 0 }
    Sh.andFinally (k.text m ⟨"eval", 1⟩ (" ".intercalate args)) (modify fun t => { t with functionLine := line, line := s.line })
    return (← get).status
  | .extended =>
    let args := if args.head? = some "--" then args.drop 1 else args
    if args = [] then return 0
    modify fun s => { s with depth := s.depth + 1, command := none }
    Sh.andFinally (k.text m.goingOn ⟨"eval", s.line⟩ (" ".intercalate args))
      (modify fun t => { t with depth := s.depth, line := s.line })
    return (← get).status

/-- The path of a file that is to be carried out, if there is one. -/
def sourcePath (s : State) (name : String) : Sh (Option String) := do
  if name.toList.contains '/' then return some name
  let (fs, place) ← Proc.files
  let isFile (path : String) : Bool := match fs.lookup place (Text.Octets.toText path) with
    | .ok (some (.file _)) => true
    | _ => false
  match (Executable.candidates ((Sh.value? s "PATH").getD "") name).find? isFile with
  | some path => return some path
  | none => return if s.dialect = .extended ∧ ¬ Sh.isOn s "posix" then some name else none

/-- Carries out a file in this shell. -/
def evaluateFile (k : Knot) (m : Mode) (args : List String) : Sh Nat := do
  let s ← get
  let (_, args) ← readOptions "" args
  match args with
  | [] =>
    match s.dialect with
    | .plain => return 0
    | .extended =>
      Sh.complainAbout "filename argument required"
      sayUsage
      return 2
  | name :: params =>
    match ← sourcePath s name with
    | none =>
      if s.dialect = .plain then Sh.fail (name ++ ": not found")
      Sh.complainAbout (name ++ ": file not found")
      throw (.error 1)
    | some path =>
      let descriptor ← Sh.newPrivate
      let read : Except Refusal ByteArray ← do
        match ← Proc.openAs descriptor Kernel.OpenMode.input path with
        | .error r => pure (.error r)
        | .ok () => do
          let found ← Proc.readAll descriptor
          Proc.close descriptor
          pure found
      let lost : Bool := match read with
        | .error r => Sh.isOn s "posix" && r == .noEntry
        | .ok _ => false
      if lost then
        Sh.complainAbout (name ++ ": file not found")
        throw (.error 1)
      match read, s.dialect with
      | .error r, .plain =>
        Sh.fail (if r = .isDirectory then "cannot read " ++ path else "cannot open " ++ path ++ ": " ++ Redirection.reason .plain false r)
      | .error r, .extended =>
        let why := if r = .isDirectory then "is a directory" else Sh.reason r
        if r = .isDirectory then Sh.complainAbout (path ++ ": " ++ why) else Sh.complain (path ++ ": " ++ why)
        return 1
      | .ok bytes, .plain =>
        let before := s
        modify fun s => { s with command := some path, functionLine := 0 }
        Sh.andFinally
          (tryCatch (k.text .plain ⟨path, 1⟩ (Text.Octets.ofBytes bytes)) fun
            | .giveBack n => Sh.setStatus n
            | jump => throw jump)
          (modify fun s => { s with command := before.command, functionLine := before.functionLine, line := before.line })
        return (← get).status
      | .ok bytes, .extended =>
        let own := s.params
        modify fun s =>
          { s with
            sourced := s.sourced + 1, depth := s.depth + 1, command := none
            sources := path :: s.sources, params := if params = [] then s.params else params }
        Sh.andFinally
          (tryCatch (k.text m.goingOn ⟨path, 1⟩ (Text.Octets.ofBytes bytes)) fun
            | .giveBack n => Sh.setStatus n
            | jump => throw jump)
          (modify fun t =>
            { t with
              sourced := s.sourced, depth := s.depth, sources := s.sources, line := s.line
              params := if params = [] then t.params else own })
        return (← get).status

/-! ## Other commands -/

/-- The times that the shell and others have used, which are none. -/
def times : Sh Nat := do
  let time := if ← Sh.isExtended then "0m0.000s" else "0m0.000000s"
  Sh.put (time ++ " " ++ time ++ "\n" ++ time ++ " " ++ time ++ "\n")
  return 0

/-- Goes on with a process of the shell, which needs a terminal. -/
def resume (args : List String) : Sh Nat := do
  match (← get).dialect with
  | .plain =>
    match args with
    | [] =>
      let s ← get
      if s.jobs.isEmpty then Sh.fail "No current job" else Sh.fail "job %% not created under job control"
    | a :: _ =>
      let _ ← Signals.job a
      Sh.fail ("job " ++ a ++ " not created under job control")
  | .extended =>
    Sh.complainAbout "no job control"
    return 1

/-- Says where the running function was called, or one that called it: with a number, also in which function. -/
def caller (args : List String) : Sh Nat := do
  let s ← get
  let functions := (Parameters.ownArray s "FUNCNAME").getD []
  let sources := (Parameters.ownArray s "BASH_SOURCE").getD []
  match args, s.calls with
  | _, [] => return 1
  | [], line :: _ =>
    Sh.put (toString line ++ " " ++ (sources[1]?).getD "NULL" ++ "\n")
    return 0
  | a :: _, calls =>
    match a.toNat? with
    | none =>
      Sh.complainAbout (a ++ ": invalid number")
      Builtins.sayUsage
      return 2
    | some n =>
      match calls[n]?, functions[n + 1]?, sources[n + 1]? with
      | some line, some function, some source =>
        Sh.put (toString line ++ " " ++ function ++ " " ++ source ++ "\n")
        return 0
      | _, _, _ => return 1

/-- Says what names stand for. -/
def describe (args : List String) : Sh Nat := do
  let s ← get
  match s.dialect with
  | .plain => Builtins.typePlain args
  | .extended => Builtins.typeExtended (Builtins.functionListing s) args

/-- The commands of the shell that need nothing but their arguments. -/
def regular? (d : Dialect) (name : String) : Option (List String → Sh Nat) :=
  match name with
  | ":" | "true" => some fun _ => return 0
  | "false" => some fun _ => return 1
  | "[" | "test" => some Builtins.test
  | "alias" => some Builtins.runAlias
  | "bg" | "fg" => some resume
  | "break" => some (leaveLoops .breakLoop)
  | "cd" | "chdir" => some Builtins.cd
  | "continue" => some (leaveLoops .continueLoop)
  | "echo" => some Builtins.echo
  | "exit" => some exit
  | "getopts" => some Builtins.getopts
  | "hash" => some Builtins.hash
  | "jobs" => some Builtins.jobs
  | "kill" => some Builtins.kill
  | "local" => some Builtins.makeLocal
  | "printf" => some Builtins.printf
  | "pwd" => some Builtins.pwd
  | "read" => some Builtins.read
  | "return" => some give
  | "set" => some Builtins.setOptions
  | "shift" => some Builtins.shift
  | "times" => some fun _ => times
  | "trap" => some Builtins.trap
  | "type" => some describe
  | "ulimit" => some Builtins.ulimit
  | "umask" => some Builtins.umask
  | "unalias" => some Builtins.unalias
  | "unset" => some Builtins.unset
  | "wait" => some Builtins.wait
  | _ =>
    match d with
    | .plain => none
    | .extended =>
      match name with
      | "caller" => some caller
      | "declare" | "typeset" => some (Builtins.declare false)
      | "dirs" => some Builtins.dirs
      | "let" => some Builtins.evaluate
      | "popd" => some Builtins.popd
      | "pushd" => some Builtins.pushd
      | "shopt" => some Builtins.shopt
      | "bind" => some Builtins.bind
      | "complete" => some Builtins.complete
      | "compopt" => some Builtins.compopt
      | "disown" => some Builtins.disown
      | "enable" => some Builtins.enable
      | "help" => some Builtins.help
      | "history" => some Builtins.history
      | "logout" => some fun _ => Builtins.logout
      | "suspend" => some Builtins.suspend
      | _ => none

end TaskRunner.Shell.Evaluation
