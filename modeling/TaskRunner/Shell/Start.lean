import TaskRunner.Shell.Script

/-!
# Starting a shell

A shell begins with what it sees of the process that starts it: the environment, whose names become
variables, and the directory. Its arguments are options, and then a command, the name of a script, or
parameters for what is read from the input.
-/

namespace TaskRunner.Shell

open Processes

namespace Start

open Evaluation

/-! ## What a shell begins with -/

/-- The variables of an environment. A name that no variable can have is lost in the plain language. -/
def imported (d : Dialect) (environment : List (String × String)) : Assoc String Variable :=
  let kept := environment.filter fun (name, _) => d = .extended || isName name
  Assoc.ofList (kept.map fun (name, value) => (name, { content := some (.scalar value), exported := true }))

/-- The functions of an environment, with their texts. -/
def importedFunctions (environment : List (String × String)) : List (String × String) :=
  environment.filterMap fun (name, value) =>
    let inner := ((name.drop "BASH_FUNC_".length).toString.dropEnd 2).toString
    if name = Sh.exportedName inner ∧ value.startsWith "() \x7b" then some (inner, value) else none

/-- Gives a variable a value; whether other programs see it stays as it was. -/
def withValue (name value : String) (vars : Assoc String Variable) : Assoc String Variable :=
  let old := (vars.find? name).getD { content := none }
  vars.insert name { old with content := some (.scalar value) }

/-- Gives a variable a value if it has none. -/
def withDefault (name value : String) (vars : Assoc String Variable) : Assoc String Variable :=
  if vars.contains name then vars else withValue name value vars

/-- How deep a shell is in others, by what its environment says; one that would be too deep is none in others. -/
def nextLevel (level : Option String) : Nat :=
  let next := (((level.bind String.toInt?).getD 0) + 1).toNat
  if 1000 ≤ next then 1 else next

/-- The variables that a shell begins with. -/
def vars (d : Dialect) (zero : String) (environment : List (String × String)) : Assoc String Variable :=
  let given := imported d environment
  match d with
  | .plain =>
    (((((given |> withDefault "PATH" Builtins.usualPath |> withValue "IFS" " \t\n") |> withValue "OPTIND" "1")
      |> withValue "PS1" "# ") |> withValue "PS2" "> ") |> withValue "PS4" "+ ") |> withValue "PPID" "1"
  | .extended =>
    let level := ((given.find? "SHLVL").bind Variable.content).bind Content.first
    let next := nextLevel level
    let path := if zero.startsWith "/" then zero else "/usr/bin/bash"
    let visible := (given.erase "_").insert "SHLVL" { content := some (.scalar (toString next)), exported := true }
    let fixed (content : Content) (integer : Bool) : Variable := { content := some content, readonly := true, integer }
    let version := ["5", "2", "15", "1", "release", "x86_64-pc-linux-gnu"]
    let visible := ((visible.insert "UID" (fixed (.scalar "0") true)).insert "EUID" (fixed (.scalar "0") true)).insert "PPID"
      (fixed (.scalar "1") true)
    let visible := visible.insert "BASH_VERSINFO" (fixed (.array ((List.range 6).zip version)) false)
    [("BASH", path), ("BASH_VERSION", "5.2.15(1)-release"), ("HOSTNAME", "localhost"), ("HOSTTYPE", "x86_64"),
      ("IFS", " \t\n"), ("MACHTYPE", "x86_64-pc-linux-gnu"), ("OPTERR", "1"), ("OPTIND", "1"),
      ("OSTYPE", "linux-gnu"), ("PS4", "+ ")].foldl (fun vs (name, value) => withValue name value vs)
      (visible |> withDefault "PATH" Builtins.usualPath |> withDefault "TERM" "dumb" |> withDefault "SHELL" "/bin/bash")

/-- The state that a shell begins with. -/
def initial (d : Dialect) (image : Image) : State where
  dialect := d
  zero := image.zero
  isArgument := false
  sources := []
  text := ""
  vars := vars d image.zero image.environment
  locals := []
  functions := Assoc.empty
  aliases := Assoc.empty
  disabled := []
  completions := Assoc.empty
  partners := []
  history := {}
  params := []
  documents := #[]
  charset := .ofVariables (fun name => (image.environment.find? fun (n, _) => n == name).map Prod.snd) "LC_CTYPE"
  missing := []
  passing := false
  options := if d = .plain then [] else ["braceexpand", "hashall", "interactive-comments"]
  status := 0
  substituted := none
  statuses := [0]
  line := 0
  command := none
  traps := Assoc.empty
  formerTraps := Assoc.empty
  hooks := Assoc.empty
  trapped := false
  jobs := []
  bygone := []
  background := none
  shellProcess := 0
  isCopy := 0
  isSubstitution := false
  loops := 0
  callers := []
  calls := []
  running := ""
  answering := false
  sourced := 0
  functionLine := 0
  depth := 0
  lastStatus := none
  coprocess := none
  connections := []
  nextPrivate := Kernel.firstPrivate
  out := ""
  directory := ""
  optionIndex := 1
  optionPlace := 0
  hashed := Assoc.empty
  givenUp := []
  seed := 42
  drawn := 0
  began := 0
  lastArgument := image.zero
  directories := []

/-- The path of a location. -/
def pathOf (l : Location) : String := Text.Octets.ofText (Location.toString l)

/-- Finds out where the shell stands, by the name that the environment gives if that leads there. -/
def findDirectory : Sh Unit := do
  let s ← get
  let (fs, place) ← Proc.files
  let here : Option Location := if fs.holds place then some place.location else none
  let given := Sh.valueOf s "PWD"
  let leads : Bool := given.startsWith "/" && (match fs.walk true place (Text.Octets.toText given), here with
    | .ok l, some h => l == h
    | _, _ => false)
  let directory := match leads, here with
    | true, _ => if s.dialect = .plain then given else Builtins.tidy given
    | false, some l => pathOf l
    | false, none => ""
  if here.isNone then
    let why := "No such file or directory\n"
    discard <| Proc.write 2 <| Sh.bytes <| match s.dialect with
      | .plain => "sh: 0: getcwd() failed: " ++ why
      | .extended => "shell-init: error retrieving current directory: getcwd: cannot access parent directories: " ++ why
  let old := (s.vars.find? "OLDPWD").bind Variable.content
  modify fun s =>
    let vars := s.vars.insert "PWD" { content := some (.scalar directory), exported := true }
    let vars := match s.dialect, old with
      | .extended, none => vars.insert "OLDPWD" { content := none, exported := true }
      | _, _ => vars
    { s with directory, vars := if here.isNone ∧ s.dialect = .extended then s.vars.erase "PWD" else vars }

/-- Says what is wrong with what a shell begins with. -/
def complainAtStart (message : String) : Sh Unit := do
  discard <| Proc.write 2 (Sh.bytes ((← get).zero ++ ": " ++ message ++ "\n"))

/-- Takes in a function that another shell has told. A text that is something else stays a variable. -/
def importFunction (name value : String) : Sh Unit := do
  let s ← get
  let text := name ++ " " ++ value
  let origin : Origin := ⟨name, 1⟩
  let found : Option Command ← match Grammar.nextLine (Reader.start .extended Assoc.empty s.documents false 1 text) with
    | .error f _ => do
      Script.refuse origin text (match f with
        | .endsEarly line => .endsEarly (line - 1)
        | f => f)
      pure none
    | .ok (some (some (.define line found body))) after => do
      modify fun s => { s with documents := after.documents }
      pure (if found = name then some (.define line found body) else none)
    | .ok _ _ => do
      complainAtStart ("warning: " ++ name ++ ": ignoring function definition attempt")
      pure none
  match found with
  | some (.define line _ body) =>
    let f : Function := { line, source := "environment", body, exported := true }
    modify fun s => { s with
      functions := s.functions.insert name f
      vars := s.vars.erase (Sh.exportedName name) }
  | _ =>
    complainAtStart ("error importing function definition for \x60" ++ name ++ "\x27")
    set { s with status := 0 }

/-! ## Arguments -/

/-- What a shell is told to do. -/
structure Order where
  /-- Whether the first argument is a command. -/
  commands : Bool
  /-- Whether the input is carried out in any case. -/
  reads : Bool
  args : List String

/-- Ends a shell that cannot begin, with a message. -/
def refuse {α : Type} (status : Nat) (message : String) : Sh α := do
  discard <| Proc.write 2 (Sh.bytes (message ++ "\n"))
  Proc.finish (.exited status)

/-- How the options of the extended shell are written. -/
def usage (zero : String) : String :=
  "Usage:\t" ++ zero ++ " [GNU long option] [option] ...\n\t" ++ zero ++ " [GNU long option] [option] script-file ...\n"
    ++ "GNU long options:\n" ++ String.join (["debug", "debugger", "dump-po-strings", "dump-strings", "help", "init-file",
      "login", "noediting", "noprofile", "norc", "posix", "pretty-print", "rcfile", "restricted", "verbose",
      "version"].map fun o => "\t--" ++ o ++ "\n")
    ++ "Shell options:\n\t-ilrsD or -c command or -O shopt_option\t\t(invocation only)\n"
    ++ "\t-abefhkmnptuvxBCEHPT or -o option"

/-- Reads the letters of an option; the arguments after it are those that are left. -/
def letters (on : Bool) : List Char → List String → Order → Sh (List String × Order)
  | [], args, o => return (args, o)
  | c :: cs, args, o => do
    let s ← get
    match c, s.dialect, args with
    | 'c', _, _ =>
      Sh.turn "command" true
      letters on cs args { o with commands := true }
    | 's', _, _ =>
      Sh.turn "stdin" true
      letters on cs args { o with reads := true }
    | 'l', _, _ | 'i', _, _ | 'D', .extended, _ | 'r', .extended, _ => letters on cs args o
    | 'o', .plain, name :: args | 'O', .extended, name :: args | 'o', .extended, name :: args =>
      if c = 'O' then
        Sh.turn name on
        letters on cs args o
      else if (Options.names s.dialect).contains name then
        Sh.turn name on
        letters on cs args o
      else match s.dialect with
        | .plain => refuse 2 (s.zero ++ ": 0: Illegal option -o " ++ name)
        | .extended => refuse 2 (s.zero ++ ": line 0: " ++ s.zero ++ ": " ++ name ++ ": invalid option name")
    | 'o', _, [] =>
      Builtins.listOptions (!on)
      discard <| Sh.flush
      letters on cs [] o
    | c, d, args =>
      match (Options.lettered d).find? fun (l, _) => l == c with
      | some (_, name) =>
        Sh.turn name on
        letters on cs args o
      | none =>
        let sign := if on then "-" else "+"
        match d with
        | .plain => refuse 2 (s.zero ++ ": 0: Illegal option -" ++ String.singleton c)
        | .extended =>
          refuse 2 (s.zero ++ ": " ++ sign ++ String.singleton c ++ ": invalid option\n" ++ usage s.zero)

/-- Reads the options of a shell. -/
def options : Nat → List String → Order → Sh Order
  | 0, args, o => return { o with args }
  | _, [], o => return { o with args := [] }
  | n + 1, arg :: rest, o => do
    match arg.toList with
    | ['-'] | ['-', '-'] => return { o with args := rest }
    | '-' :: '-' :: name =>
      let s ← get
      match s.dialect with
      | .plain => refuse 2 (s.zero ++ ": 0: Illegal option --")
      | .extended =>
        match String.ofList name with
        | "norc" | "noprofile" | "noediting" | "login" | "debug" | "debugger" | "restricted" => options n rest o
        | "posix" =>
          Sh.turn "posix" true
          options n rest o
        | "verbose" =>
          Sh.turn "verbose" true
          options n rest o
        | "rcfile" | "init-file" => options n (rest.drop 1) o
        | _ => refuse 2 (s.zero ++ ": " ++ arg ++ ": invalid option\n" ++ usage s.zero)
    | '-' :: c :: cs => do
      let (rest, o) ← letters true (c :: cs) rest o
      options n rest o
    | '+' :: cs => do
      let (rest, o) ← letters false cs rest o
      options n rest o
    | _ => return { o with args := arg :: rest }

/-! ## Scripts -/

/-- Why a script cannot be read. -/
inductive Unreadable where
  | refused (r : Refusal)
  | binary

/-- The text of a script. -/
def scriptText (path : String) : Sh (Except Unreadable String) := do
  let descriptor ← Sh.newPrivate
  match ← Proc.openAs descriptor Kernel.OpenMode.input path with
  | .error r => return .error (.refused r)
  | .ok () =>
    let found ← Proc.readAll descriptor
    Proc.close descriptor
    match found with
    | .error r => return .error (.refused r)
    | .ok bytes =>
      if (← Sh.isExtended) && isBinary bytes then return .error .binary
      return .ok (Text.Octets.ofBytes bytes)

/-- The path of a script of the extended language: one that is not there is looked for like a program. -/
def scriptPath (name : String) : Sh String := do
  if name.toList.contains '/' ∨ (← Builtins.leads name) then return name
  else match ← Builtins.search (Sh.valueOf (← get) "PATH") name with
    | .at path => return path
    | _ => return name

/-- Carries out a script. -/
def script (k : Knot) (name : String) : Sh Unit := do
  let s ← get
  match s.dialect with
  | .plain =>
    match ← scriptText name with
    | .error (.refused .isDirectory) => pure ()
    | .error (.refused r) => refuse 2 (s.zero ++ ": 0: cannot open " ++ name ++ ": " ++ Redirection.reason .plain false r)
    | .error .binary => pure ()
    | .ok text =>
      set { s with zero := name }
      k.text .plain ⟨"", 1⟩ text
  | .extended =>
    let path ← scriptPath name
    match ← scriptText path with
    | .error (.refused .isDirectory) => refuse 126 (path ++ ": " ++ path ++ ": Is a directory")
    | .error (.refused r) => refuse 127 (s.zero ++ ": " ++ path ++ ": " ++ Sh.reason r)
    | .error .binary => refuse 126 (path ++ ": " ++ path ++ ": cannot execute binary file")
    | .ok text =>
      set { s with zero := path, sources := [path] }
      k.text .plain ⟨"", 1⟩ text

/-! ## The shell -/

/-- Carries out the file that a variable names before everything else, as far as the shell is not to follow the standard. -/
def prelude (k : Knot) : Sh Unit := do
  let s ← get
  let name := Sh.valueOf s "BASH_ENV"
  if s.dialect = .extended ∧ ¬ Sh.isOn s "posix" ∧ name ≠ "" then
    let path ← match Grammar.textOf? s.dialect s.documents name with
      | some (w, documents) =>
        set { s with documents }
        Expansion.document k.means w
      | none => pure name
    match ← scriptText path with
    | .error _ => pure ()
    | .ok text =>
      modify fun s => { s with sources := path :: s.sources, sourced := s.sourced + 1 }
      Sh.andFinally
        (tryCatch (k.text .plain ⟨"", 1⟩ text) fun
          | .giveBack n => Sh.setStatus n
          | jump => throw jump)
        (modify fun after => { after with sources := s.sources, sourced := s.sourced, line := s.line })

/-- Carries out what a shell is told. -/
def obey (k : Knot) (o : Order) : Sh Unit := do
  let s ← get
  match o.commands, o.args with
  | true, [] =>
    match s.dialect with
    | .plain => refuse 2 (s.zero ++ ": 0: -c requires an argument")
    | .extended => refuse 2 (s.zero ++ ": -c: option requires an argument")
  | true, command :: rest =>
    let zero := rest.headD s.zero
    set { s with zero, params := rest.drop 1, isArgument := true, text := command }
    prelude k
    if s.dialect = .extended then Sh.assign "BASH_EXECUTION_STRING" command
    k.text (if o.reads ∧ s.dialect = .plain then .plain else .last) ⟨"-c", 1⟩ command
    if o.reads ∧ s.dialect = .plain then Script.input k
  | false, name :: params =>
    if o.reads then
      set { s with params := name :: params }
      prelude k
      Script.input k
    else
      set { s with params, zero := name }
      prelude k
      modify fun after => { after with zero := s.zero }
      script k name
  | false, [] =>
    Sh.turn "stdin" true
    prelude k
    Script.input k

/-- A shell. -/
def shell (image : Image) : Sh Unit := do
  let pid ← Proc.self
  let began ← Proc.now
  modify fun s => { s with shellProcess := pid, began }
  findDirectory
  if (← Sh.isExtended) then
    let level := (((image.environment.find? fun (name, _) => name == "SHLVL").bind fun (_, v) => v.toInt?).getD 0) + 1
    if 1000 ≤ level then complainAtStart ("warning: shell level (" ++ toString level ++ ") too high, resetting to 1")
    for (name, value) in importedFunctions image.environment do importFunction name value
    if image.environment.any fun (name, _) => name == "POSIXLY_CORRECT" then Sh.turn "posix" true
    match image.environment.find? fun (name, _) => name == "LC_ALL" with
    | some (_, name) =>
      if name ≠ "" ∧ (Text.Locale.ofName? name).isNone then
        complainAtStart ("warning: setlocale: LC_ALL: cannot change locale (" ++ name ++ ")")
        modify fun s => { s with missing := [name] }
    | none => pure ()
  Signals.watch
  let o ← options (image.args.length + 1) image.args ⟨false, false, []⟩
  let k := Script.knot Script.mostDeep
  conclude k (obey k o)

/-- The program that is a shell of a language. -/
def program (d : Dialect) (image : Image) : Program :=
  let ended (s : State) : Program := .ended (.exited (s.status % 256))
  (shell image).program (initial d image) (fun _ s => ended s) (fun _ s => ended s)

end Start

end TaskRunner.Shell
