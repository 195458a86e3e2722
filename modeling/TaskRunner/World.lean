import TaskRunner.Declarations
import TaskRunner.Log
import TaskRunner.Machine
import TaskRunner.Runfile.Statement

/-!
# The state of a run

A run changes its surroundings: the machine, what has been written to the two outputs, the log, the
words of the command line, and the scopes of the Runfiles that were loaded. It also keeps the events
that Runfiles and bodies leave behind: a body that is entered, a step that succeeds, a failure that is
caught. `Run` is a computation on this state that may stop before its end; what it has changed until
then stays changed.
-/

namespace TaskRunner

/-- What a command left behind: its return code and, if it was collected, its output. -/
structure Completed where
  returncode : Int
  out : Option String
  err : Option String
  deriving DecidableEq, Repr

/-- What can be called. -/
inductive Function where
  /-- Gives the list of its arguments. -/
  | collect
  /-- Holds documentation for the next task of a Runfile. -/
  | describe (scope : ScopeId)
  /-- Declares a task of a Runfile. -/
  | declare (scope : ScopeId)
  /-- Gives a body to a reservation of a Runfile. -/
  | decorate (scope : ScopeId) (r : Reservation)
  /-- Runs a task. -/
  | run
  /-- Runs a command. -/
  | sh
  /-- What every object can do, and no body has a use for. -/
  | general

/-- What a name can be bound to and a step can result in. -/
inductive Value where
  | data (d : Data)
  | arguments (items : List Body)
  | path (p : Path)
  | task (t : Task)
  | completed (c : Completed)
  | function (f : Function)
  /-- A part of the runner itself. -/
  | part

/-- No value. -/
def Value.null : Value := .data .null

/-- The name of the kind of a value, as messages give it. -/
def Value.kindName : Value → String
  | .data d => d.kindName
  | .arguments _ => "list"
  | .path _ => "PosixPath"
  | .task _ => "Task"
  | .completed _ => "CompletedProcess"
  | .function _ => "function"
  | .part => "TaskManager"

/-- What a run leaves behind. -/
inductive Event where
  /-- A body is entered: the task, the arguments, the directory of the task, and the directory of the process. -/
  | entered (task : String) (args : List Data) (directory : Path) (cwd : Option Location)
  /-- A step has a result; the directory of the process is the one after the step. -/
  | done (step : String) (result : Value) (cwd : Option Location)
  /-- The failure of a step is caught. -/
  | recovered (step : String) (f : Failure) (cwd : Option Location)
  /-- A Runfile looked a name up. -/
  | got (v : Value)
  /-- The failure of a statement is caught. -/
  | caught (f : Failure)

/-- The names of a Runfile and its declarations. -/
structure Scope where
  bindings : Assoc String Value
  declarations : Declarations

/-- The state of a run. -/
structure World where
  machine : Machine
  /-- What has been written to the standard output. -/
  out : ByteArray
  /-- What has been written to the standard error output. -/
  err : ByteArray
  log : Log
  /-- The name of the program and the words of the command line. -/
  argv : List String
  events : Array Event
  /-- The scopes of all Runfiles, by their numbers. -/
  scopes : Array Scope
  /-- Lines that stand for statements in a Runfile. -/
  abbreviations : Assoc String (List Runfile.Statement)
  /-- The decorators that the statements which are being executed keep under handles. -/
  handles : Assoc String Value

/-- A computation on the state of a run, which may stop before its end. -/
abbrev Run (α : Type) := EStateM Stop World α

namespace World

/-- The state before a run. -/
def initial (machine : Machine) (argv : List String) : World where
  machine
  out := ByteArray.empty
  err := ByteArray.empty
  log := Log.initial
  argv
  events := #[]
  scopes := #[]
  abbreviations := Assoc.empty
  handles := Assoc.empty

/-- The directory of the process, if it is still there. -/
def cwd? (w : World) : Option Location := w.machine.workingDirectory?

end World

namespace Run

/-- Stops with a failure. -/
def fail {α : Type} (f : Failure) : Run α := throw (.failure f)

/-- Goes on with a result, or stops with its failure. -/
def ofExcept {α : Type} : Except Failure α → Run α
  | .ok a => pure a
  | .error f => fail f

/-- Looks at the machine. -/
def observe {α : Type} (f : Machine → Except Failure α) : Run α := do
  ofExcept (f (← get).machine)

/-- Changes the machine, if it can be changed. -/
def change (f : Machine → Except Failure Machine) : Run Unit := do
  let machine ← ofExcept (f (← get).machine)
  modify fun w => { w with machine }

/-- Writes to the standard output. -/
def writeOut (bytes : ByteArray) : Run Unit := modify fun w => { w with out := w.out ++ bytes }

/-- Writes to the standard error output. -/
def writeErr (bytes : ByteArray) : Run Unit := modify fun w => { w with err := w.err ++ bytes }

/-- Shows a line on the standard error output, without the sequences that only a terminal understands. -/
def notify (line : String) : Run Unit := writeErr (Text.stripSequences line ++ "\n").toUTF8

/-- Sends a message to the log. -/
def log (logger : String) (level : Int) (message : String) : Run Unit := do
  writeErr ((← get).log.render logger level message).toUTF8

/-- Sends a message that says what the runner does. -/
def debug (logger : String) (message : String) : Run Unit := log logger Log.debug message

/-- Sets the log up. -/
def setupLog (level : Data) : Run Unit := do
  let log ← ofExcept ((← get).log.setup level)
  modify fun w => { w with log }

/-- Leaves an event behind. -/
def record (e : Event) : Run Unit := modify fun w => { w with events := w.events.push e }

/-- The directory of the process, if it is still there. -/
def cwd? : Run (Option Location) := do return (← get).cwd?

/-- Makes a new scope. -/
def newScope (make : ScopeId → Scope) : Run ScopeId := do
  let id := (← get).scopes.size
  modify fun w => { w with scopes := w.scopes.push (make id) }
  return id

/-- The bindings of a scope. -/
def bindings (id : ScopeId) : Run (Assoc String Value) := do
  return (((← get).scopes[id]?).map Scope.bindings).getD Assoc.empty

/-- Binds a name in a scope. -/
def bind (id : ScopeId) (name : String) (value : Value) : Run Unit :=
  modify fun w =>
    { w with scopes := w.scopes.modify id fun s => { s with bindings := s.bindings.insert name value } }

/-- The declarations of a scope; a scope that is not there accepts none. -/
def declarations (id : ScopeId) : Run Declarations := do
  return (((← get).scopes[id]?).map Scope.declarations).getD
    (Declarations.initial ⟨0, []⟩ id |>.close)

/-- Puts the declarations of a scope. -/
def putDeclarations (id : ScopeId) (d : Declarations) : Run Unit :=
  modify fun w => { w with scopes := w.scopes.modify id fun s => { s with declarations := d } }

end Run

end TaskRunner
