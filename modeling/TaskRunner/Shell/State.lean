import TaskRunner.Shell.Arithmetic
import TaskRunner.Shell.Grammar
import TaskRunner.Shell.Listing
import TaskRunner.Processes.Program
import TaskRunner.Text.Classes
import TaskRunner.Shell.Pattern

/-!
# The state of a shell

What a shell knows besides what all processes share: variables, functions, parameters, options, what it
is to do about signals, and the processes that it has begun. `Sh` is a computation of a shell, which may
stop with a `Jump` to where something that is going on ends.
-/

namespace TaskRunner.Shell

open Processes

/-- The value of a variable. -/
inductive Content where
  | scalar (s : String)
  /-- Texts in places that have numbers, in their order. -/
  | array (items : List (Nat × String))
  /-- Texts in places that have names. -/
  | table (items : Assoc String String)

/-- The first text of a value. -/
def Content.first : Content → Option String
  | .scalar s => some s
  | .array items => (items.find? fun (n, _) => n == 0).map Prod.snd
  | .table items => items.find? "0"

/-- A variable. -/
structure Variable where
  content : Option Content
  exported : Bool := false
  readonly : Bool := false
  /-- Whether what is assigned is the value of an expression. -/
  integer : Bool := false
  lower : Bool := false
  upper : Bool := false
  /-- Whether the first letter is large and the others are small. -/
  capital : Bool := false
  traced : Bool := false
  /-- Whether the variable stands for the one that it names. -/
  reference : Bool := false
  /-- Whether the variable is for several texts, but has been given none. -/
  vacant : Bool := false

/-- A process that goes on while the shell does. -/
structure Job where
  number : Nat
  pids : List Nat
  /-- The processes that have ended, with what they left. -/
  ended : List (Nat × Ending)
  text : String
  /-- Whether its end has been waited for. -/
  waited : Bool := false
  /-- Whether it belongs to this shell, and not to one that this shell is a copy of. -/
  isOwn : Bool := true

/-- A function. -/
structure Function where
  line : Nat
  /-- Where it was defined, as messages name it. -/
  source : String
  body : Command
  exported : Bool := false
  readonly : Bool := false
  traced : Bool := false

/-- A command that the shell is connected with: the descriptors that lead from it and to it, unless they are closed. -/
structure Coprocess where
  name : String
  pid : Nat
  reader : Option Nat
  writer : Option Nat

/-- What things were outside a function that is running, as far as it has changed them for itself. -/
structure Frame where
  vars : List (String × Option Variable) := []
  options : Option (List String) := none

/-- A command that goes on beside the shell, connected with it both ways. -/
structure Partner where
  name : String
  pid : Nat
  /-- The descriptors through which it is read from and written to. -/
  descriptors : List Nat

/-- The commands that a shell remembers. -/
structure History where
  lines : List String := []
  /-- The number of the first of them. -/
  first : Nat := 1
  /-- How many of them have not been added to a file. -/
  fresh : Nat := 0
  /-- How many lines of a file have been read. -/
  read : Nat := 0

/-- The state of a shell. -/
structure State where
  dialect : Dialect
  /-- The name that the shell was started under, or that of the script. -/
  zero : String
  /-- Whether the script was given as an argument. -/
  isArgument : Bool
  /-- Where the functions and files that are running came from, as messages name it, the innermost first. -/
  sources : List String
  /-- The text that is being carried out. -/
  text : String
  vars : Assoc String Variable
  /-- What things were outside the functions that are running, the innermost function first. -/
  locals : List Frame
  functions : Assoc String Function
  aliases : Assoc String String
  /-- The commands of the shell that are turned off. -/
  disabled : List String
  /-- How words are completed after commands, as options and the names of the commands. -/
  completions : Assoc String String
  partners : List Partner
  history : History
  params : List String
  /-- The texts of several lines in the script. -/
  documents : Array Document
  /-- The options that are on. -/
  options : List String
  /-- Which bytes are characters. -/
  charset : Text.Locale
  /-- The locales that have been looked for in vain. -/
  missing : List String
  /-- Whether what is put in variables is only for a program, so that it means nothing to the shell. -/
  passing : Bool
  /-- The status of the last command. -/
  status : Nat
  /-- The status of the last command whose output was substituted. -/
  substituted : Option Nat
  /-- The statuses of the commands of the last pipeline. -/
  statuses : List Nat
  line : Nat
  /-- The command of the shell that is running, which messages name. -/
  command : Option String
  /-- What is to be done about signals, by number; zero is the end of the shell. -/
  traps : Assoc Nat String
  /-- What a shell that this one is a copy of was to do about signals. -/
  formerTraps : Assoc Nat String
  /-- What is to be done about other events, by name. -/
  hooks : Assoc String String
  /-- Whether something is being done about a signal. -/
  trapped : Bool
  jobs : List Job
  /-- How processes ended that were left running and belong to no job any more. -/
  bygone : List (Nat × Ending)
  coprocess : Option Coprocess
  /-- The number of the last process that was left running. -/
  background : Option Nat
  /-- The number of the shell that began it all. -/
  shellProcess : Nat
  /-- How many copies of shells led to this one, each made for a command. -/
  isCopy : Nat
  /-- Whether this is a copy of a shell whose output is substituted. -/
  isSubstitution : Bool
  loops : Nat
  /-- The names of the functions that are running. -/
  callers : List String
  /-- The lines on which the functions that are running were called. -/
  calls : List Nat
  /-- The command that is being carried out, as it is written. -/
  running : String
  /-- Whether it is carried out because of a signal or an event. -/
  answering : Bool
  /-- How many files are being carried out as part of this script. -/
  sourced : Nat
  /-- The line of the function that is running; messages of the plain language count from there. -/
  functionLine : Nat
  /-- How deep texts that are carried out lie in one another, for what is shown of commands. -/
  depth : Nat
  /-- The status before what is being done about the end of the shell. -/
  lastStatus : Option Nat
  /-- Descriptors that stand for commands until the running command has ended. -/
  connections : List Nat
  /-- The next descriptor for what the shell does itself. -/
  nextPrivate : Nat
  /-- What a command of the shell has written, as far as it has not been handed on. -/
  out : String
  /-- The directory as it was reached. -/
  directory : String
  /-- The number of the word whose options are read next, the first of them one. -/
  optionIndex : Nat
  /-- How far its options have been read; zero if the word has not been begun. -/
  optionPlace : Nat
  /-- The paths that commands were found at, and how often they were used. -/
  hashed : Assoc String (String × Nat)
  /-- The variables of the shell that have been taken away. -/
  givenUp : List String
  /-- What the next random number is made of. -/
  seed : Nat
  /-- The last random number. -/
  drawn : Nat
  /-- The time at which the shell was started. -/
  began : Nat
  /-- The last argument of the last command. -/
  lastArgument : String
  directories : List String

/-- Why a computation of a shell stops before its end. -/
inductive Jump where
  | exit (status : Nat)
  /-- Something is wrong, and the command that is being carried out cannot go on. -/
  | error (status : Nat)
  /-- Something is wrong, and the text that is being carried out cannot go on. -/
  | discard (status : Nat)
  | breakLoop (depth : Nat)
  | continueLoop (depth : Nat)
  | giveBack (status : Nat)

/-- A computation of a shell. -/
abbrev Sh (α : Type) := Proc Jump State α

namespace Sh

/-! ## Options -/

/-- Whether an option is on. -/
def isOn (s : State) (name : String) : Bool := s.options.contains name

/-- The options that are turned on and off with an option: the standard asks for others too. -/
def together (name : String) : List String :=
  if name = "posix" then [name, "expand_aliases", "inherit_errexit", "shift_verbose"] else [name]

/-- Turns an option on or off. -/
def turn (name : String) (on : Bool) : Sh Unit := modify fun s =>
  let names := together name
  let others := s.options.filter fun other => !names.contains other
  let options :=
    if on then (names.filter fun n => !s.options.contains n) ++ s.options
    else others
  let vars :=
    if name ≠ "posix" then s.vars
    else if ¬ on then s.vars.erase "POSIXLY_CORRECT"
    else if s.vars.contains "POSIXLY_CORRECT" then s.vars
    else s.vars.insert "POSIXLY_CORRECT" { content := some (.scalar "y") }
  { s with options, vars }

/-! ## Characters -/

/-- The locale of a shell; that of the plain language does not depend on variables. -/
def locale (s : State) : Text.Locale := if s.dialect = .plain then .plain else s.charset

/-- The variables that say which locale is used for characters. -/
def localeNames : List String := ["LC_ALL", "LC_CTYPE", "LANG"]

/-- A shell that looks at these variables again: a locale that is not known changes nothing. -/
def relocated (s : State) : State :=
  let valueOf (name : String) : Option String := ((s.vars.find? name).bind Variable.content).bind Content.first
  match Text.Locale.ofName? (Text.Locale.nameFor valueOf "LC_CTYPE") with
  | some charset => { s with charset }
  | none => s

/-- How a shell reads patterns, given whether groups and the case of letters count. -/
def style (s : State) (groups ignoresCase : Bool) : Glob.Style := ⟨s.dialect, locale s, groups, ignoresCase⟩

/-! ## Output -/

/-- The bytes of a text of bytes. -/
def bytes (s : String) : ByteArray := Text.Octets.toBytes s

/-- Adds to what the running command writes. -/
def put (s : String) : Sh Unit := modify fun st => { st with out := st.out ++ s }

/-- What a message of the shell begins with. -/
def origin (s : State) : String :=
  match s.dialect with
  | .plain =>
    let command := match s.command with
      | some c => c ++ ": "
      | none => ""
    s.zero ++ ": " ++ toString s.line ++ ": " ++ command
  | .extended =>
    s.sources.headD s.zero ++ ": line " ++ toString s.line ++ ": "

/-- Says on the error output what is wrong. -/
def complain (message : String) : Sh Unit := do
  discard <| Proc.write 2 (bytes (origin (← get) ++ message ++ "\n"))

/-- Says on the error output what is wrong with what the running command of the shell is to do. -/
def complainAbout (message : String) : Sh Unit := do
  let s ← get
  match s.dialect, s.command with
  | .extended, some c => complain (c ++ ": " ++ message)
  | _, _ => complain message

/-- Stops what is being carried out because something is wrong with it. -/
def fail {α : Type} (message : String) : Sh α := do
  complain message
  throw (.error (if (← get).dialect = .plain then 2 else 1))

/-- Keeps the status of a command. -/
def setStatus (status : Nat) : Sh Unit := modify fun s => { s with status }

/-- Whether the language has additions. -/
def isExtended : Sh Bool := return (← get).dialect = .extended

/-- Hands on what the running command has written; false if that cannot be done. -/
def flush : Sh (Option Refusal) := do
  let s ← get
  if s.out = "" then return none
  set { s with out := "" }
  match ← Proc.write 1 (bytes s.out) with
  | .ok () => return none
  | .error r => return some r

/-! ## Refusals -/

/-- The words of a refusal. -/
def reason : Refusal → String
  | .noEntry => "No such file or directory"
  | .noPermission => "Permission denied"
  | .entryExists => "File exists"
  | .notDirectory => "Not a directory"
  | .isDirectory => "Is a directory"
  | .invalid => "Invalid argument"
  | .nameTooLong => "File name too long"
  | .notEmpty => "Directory not empty"
  | .tooManyLinks => "Too many levels of symbolic links"
  | .busy => "Text file busy"
  | .notExecutable => "Exec format error"
  | .badDescriptor => "Bad file descriptor"
  | .noSpace => "No space left on device"
  | .brokenPipe => "Broken pipe"
  | .noProcess => "No such process"
  | .notPermitted => "Operation not permitted"

/-! ## Variables -/

/-- The variable that a name stands for, references followed. -/
def resolve (s : State) : Nat → String → String
  | 0, name => name
  | n + 1, name =>
    match s.vars.find? name with
    | some v =>
      if v.reference then
        match v.content with
        | some (.scalar target) => if target = "" then name else resolve s n target
        | _ => name
      else name
    | none => name

/-- A variable. -/
def binding? (s : State) (name : String) : Option Variable := s.vars.find? (resolve s 8 name)

/-- The value of a variable. -/
def value? (s : State) (name : String) : Option String := ((binding? s name).bind Variable.content).bind Content.first

/-- The value of a variable, empty if it has none. -/
def valueOf (s : State) (name : String) : String := (value? s name).getD ""

/-- The value of a variable that other programs see. -/
def exportedValue? (s : State) (name : String) : Option String :=
  if (binding? s name).any Variable.exported then value? s name else none

/-- Puts an item in an array. -/
def putItem (key : Nat) (value : String) : List (Nat × String) → List (Nat × String)
  | [] => [(key, value)]
  | (k, v) :: rest =>
    if key < k then (key, value) :: (k, v) :: rest
    else if key = k then (key, value) :: rest
    else (k, v) :: putItem key value rest

/-- Says that a variable cannot be changed. -/
def refuseReadonly {α : Type} (name : String) : Sh α := do
  match (← get).dialect with
  | .plain => fail (name ++ ": is read only")
  | .extended =>
    complain (name ++ ": readonly variable")
    throw (if (← get).command.isSome then .error 1 else .discard 1)

/-- Whether a variable is not to be changed. -/
def isFixed (s : State) (name : String) : Bool :=
  let name := resolve s 8 name
  ((s.vars.find? name).any Variable.readonly) || (s.dialect = .extended && ["SHELLOPTS", "BASHOPTS"].contains name)

/-- Changes a variable, unless it is not to be changed. -/
def change (name : String) (f : Variable → Variable) : Sh Unit := do
  let s ← get
  let name := resolve s 8 name
  let v := (s.vars.find? name).getD { content := none }
  if isFixed s name then refuseReadonly name
  set { s with vars := s.vars.insert name (f v) }

/-- A text with letters changed as a variable asks for. -/
def cased (v : Variable) (s : String) : String :=
  let change (f : Char → Char) : String := Text.Octets.ofCharacters ((Text.Octets.characters s).map f)
  if v.lower then change Text.lowerOne
  else if v.upper then change Text.upperOne
  else if v.capital then
    match Text.Octets.characters s with
    | [] => s
    | c :: cs => Text.Octets.ofCharacters (Text.upperOne c :: cs.map Text.lowerOne)
  else s

/-- The value of a variable after a text has been put in it. -/
def contentWith (v : Variable) (s : String) : Content :=
  match v.content with
  | some (.array items) => .array (putItem 0 s items)
  | some (.table items) => .table (items.insert "0" s)
  | _ => .scalar s

/-- The seed after a seed. -/
def nextSeed (seed : Nat) : Nat :=
  let x := if seed = 0 then 123459876 else seed
  let t : Int := 16807 * (x % 127773 : Nat) - 2836 * (x / 127773 : Nat)
  (if t < 0 then t + 2147483647 else t).toNat

/-- Draws a random number that is not the last one. -/
def drawNumber : Sh Unit := modify fun s =>
  let seed := nextSeed s.seed
  let number (seed : Nat) : Nat := ((seed / 65536) ^^^ (seed % 65536)) % 32768
  let seed := if number seed = s.drawn then nextSeed seed else seed
  { s with seed, drawn := number seed }

/-- The variables that mean more to the shell than their value, unless they have been given up. -/
def owned (s : State) : List String := ["RANDOM", "SECONDS", "BASH_ARGV0"].filter fun name => !s.givenUp.contains name

/-- Puts a text in a variable that is more than its value: the random numbers begin anew, or the seconds that go by. -/
def assignOwn (name text : String) : Sh Unit := do
  let value := text.toInt?.getD 0
  match name with
  | "RANDOM" => modify fun s => { s with seed := (value % 4294967296).toNat, drawn := 0 }
  | "SECONDS" =>
    let now ← Proc.now
    modify fun s => { s with began := ((now : Int) - value * 1000000000).toNat }
  | _ => modify fun s => { s with zero := text }

/-- Uses the locale that a variable names, or says that there is none. -/
def useLocale (name value : String) : Sh Unit := do
  modify relocated
  let s ← get
  let categories := ["LC_ALL", "LC_CTYPE", "LC_COLLATE", "LC_MESSAGES", "LC_NUMERIC", "LC_TIME"]
  let covered := name ≠ "LC_ALL" ∧ valueOf s "LC_ALL" ≠ ""
  if value ≠ "" ∧ categories.contains name ∧ ¬ covered ∧ (Text.Locale.ofName? value).isNone then
    let why := if s.missing.contains value then "" else ": " ++ reason .noEntry
    complain ("warning: setlocale: " ++ name ++ ": cannot change locale (" ++ value ++ ")" ++ why)
    set { s with missing := value :: s.missing }

/-- Puts a text in a variable. -/
def assign (name value : String) : Sh Unit := do
  let s ← get
  if s.dialect = .extended ∧ (owned s).contains name then return ← assignOwn name value
  let exports := isOn s "allexport"
  change name fun v => { v with content := some (contentWith v (cased v value)), exported := v.exported || exports }
  if name = "PATH" then modify fun s => { s with hashed := Assoc.empty }
  if s.passing then return
  if name = "BASH_XTRACEFD" ∧ s.dialect = .extended then
    let isOpen ← match value.toNat? with
      | some n => Proc.isOpen n
      | none => pure false
    if ¬ isOpen then complain (name ++ ": " ++ value ++ ": invalid value for trace file descriptor")
  if s.dialect = .extended ∧ (name.startsWith "LC_" ∨ name = "LANG") then useLocale name value
  if name = "POSIXLY_CORRECT" ∧ s.dialect = .extended ∧ ¬ isOn s "posix" then turn "posix" true
  if name = "GLOBIGNORE" ∧ s.dialect = .extended ∧ value ≠ "" then turn "dotglob" true
  if name = "OPTIND" then modify fun s => { s with optionPlace := 0, optionIndex := max 1 ((value.toNat?).getD 1) }

/-- Sets the parameters. -/
def setParams (params : List String) : Sh Unit := modify fun s =>
  match s.dialect with
  | .plain => { s with params, optionIndex := 1, optionPlace := 0 }
  | .extended => { s with params }

/-- Puts a text in a variable that other programs see. -/
def assignExported (name value : String) : Sh Unit := do
  change name fun v => { v with content := some (.scalar value), exported := true }

/-- What separates fields. -/
def separators (s : State) : String := (value? s "IFS").getD " \t\n"

/-- The environment for other programs. -/
def environment (s : State) : List (String × String) :=
  s.vars.toList.filterMap fun (name, v) =>
    if v.exported then
      match v.content with
      | some (.scalar value) => some (name, value)
      | _ => none
    else none

/-- The functions that other shells are told. -/
def exportedFunctions (s : State) : List (String × String) :=
  s.functions.toList.filterMap fun (name, f) => if f.exported then some (name, Listing.exported s.documents f.body) else none

/-- How a function is named in the environment. -/
def exportedName (name : String) : String := "BASH_FUNC_" ++ name ++ "%%"

/-! ## Descriptors -/

/-- A descriptor that nothing else uses. -/
def newPrivate : Sh Nat := modifyGet fun s => (s.nextPrivate, { s with nextPrivate := s.nextPrivate + 1 })

/-- Runs an action, and another one after it however it ends. -/
def andFinally {α : Type} (action : Sh α) (last : Sh Unit) : Sh α := do
  let a ← tryCatch action fun jump => do
    last
    throw jump
  last
  return a

/-- Whether a descriptor was open, and then the private one that stands for the same. -/
structure Saved where
  descriptor : Nat
  copy : Option Nat

/-- Keeps what a descriptor stands for. -/
def save (descriptor : Nat) : Sh Saved := do
  if ← Proc.isOpen descriptor then
    let copy ← newPrivate
    discard <| Proc.duplicate descriptor copy
    return ⟨descriptor, some copy⟩
  else return ⟨descriptor, none⟩

/-- Lets descriptors stand for what they stood for. -/
def restore : List Saved → Sh Unit
  | [] => pure ()
  | ⟨descriptor, some copy⟩ :: rest => do
    discard <| Proc.duplicate copy descriptor
    Proc.close copy
    restore rest
  | ⟨descriptor, none⟩ :: rest => do
    Proc.close descriptor
    restore rest

end Sh

end TaskRunner.Shell
