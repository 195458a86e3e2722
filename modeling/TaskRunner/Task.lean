import TaskRunner.Data
import TaskRunner.Path
import TaskRunner.Text.Casing

/-!
# Tasks and their bodies

A task has a name, perhaps a line of documentation, a body, the directory it runs in and the scope
its body sees. Its key is its name in lower case: two names that differ only in case are the same
task. A body is a list of steps, or a value that cannot be run.
-/

namespace TaskRunner

/-- The scope of a Runfile, by the order in which scopes were made. -/
abbrev ScopeId := Nat

/-- What a command is run with. -/
structure CommandOptions where
  /-- Whether a failing command is an error. -/
  check : Bool
  /-- Whether the output of the command is collected instead of shown. -/
  capture : Bool
  /-- The table that is put on top of the environment; null is none. -/
  env : Data

/-- What a step of a body does. -/
inductive Action where
  /-- Runs the task of a name, with arguments of its own or, without any, with those of the body. -/
  | run (name : Data) (args : Option (List Data))
  /-- Runs the task that the first argument of the body names, with the other arguments. -/
  | chain
  | sh (command : Data) (options : CommandOptions)
  /-- Looks a name up in the run context. -/
  | get (name : String)
  /-- Looks a name up and calls what it finds. -/
  | call (name : String) (args : List Data)
  /-- Binds a name in the scope of the task. -/
  | set (name : String) (value : Data)
  | print (text : Data)
  | input
  | chdir (path : String)
  | mkdir (path : String)
  | rmdir (path : String)
  | raise (label : String) (args : List Data)
  /-- Ends the body with a value. -/
  | give (value : Data)
  /-- Ends the body with the result of the step before. -/
  | giveLast

/-- The word for what a step does. -/
def Action.name : Action → String
  | .run .. => "run"
  | .chain => "chain"
  | .sh .. => "sh"
  | .get _ => "get"
  | .call .. => "call"
  | .set .. => "set"
  | .print _ => "print"
  | .input => "input"
  | .chdir _ => "chdir"
  | .mkdir _ => "mkdir"
  | .rmdir _ => "rmdir"
  | .raise .. => "raise"
  | .give _ => "return"
  | .giveLast => "return_last"

/-- A step: what it does, and whether a failure of it is caught. -/
structure Step where
  action : Action
  catches : Bool

/-- What a task does when it runs: its steps; a value that is no list of steps cannot be run. -/
inductive Body where
  | steps (steps : List Step)
  | data (d : Data)

/-- Whether a body can be run. -/
def Body.isCallable : Body → Bool
  | .steps _ => true
  | .data _ => false

/-- The name of the kind of a body, as messages give it. -/
def Body.kindName : Body → String
  | .steps _ => "function"
  | .data d => d.kindName

/-- The text of a body where a text is wanted. -/
def Body.display : Body → String
  | .steps _ => "<function body>"
  | .data d => d.display

/-- A task. -/
structure Task where
  name : String
  doc : Option String
  body : Body
  directory : Path
  scope : ScopeId

/-- The key of a name: its lower-case form. -/
def keyOf (name : String) : String := Text.lower name

/-- The key of a task. -/
def Task.key (t : Task) : String := keyOf t.name

end TaskRunner
