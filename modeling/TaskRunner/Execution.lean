import TaskRunner.Host
import TaskRunner.Registry
import TaskRunner.Runfile.Evaluation
import TaskRunner.Settings

/-!
# Running tasks

A manager holds the settings and the table of tasks. To run a task is to change to its directory,
execute its body there, and change back however the body ends (`withDirectory`). A body gets a
context: its task, its arguments, and a way to run other tasks, each of which starts in its own
directory. Tasks that call one another are bounded in depth by a number that the run is given.
-/

namespace TaskRunner

/-- How the commands of a run are run: the shell that is to run them, null for the usual one, and whether they are
shown before. -/
structure CommandSettings where
  shell : Data
  echo : Bool

/-- What settings say about commands. -/
def CommandSettings.ofSettings (settings : Settings) : CommandSettings where
  shell := match settings.shell with
    | some shell => .text shell
    | none => .null
  echo := settings.echoCommands

/-- The settings for commands and the tasks of a run. -/
structure Manager where
  commands : CommandSettings
  registry : Registry

/-- What a body is executed with. -/
structure Context where
  commands : CommandSettings
  host : Host
  task : Task
  args : List Data
  /-- Runs the task of a name with arguments. -/
  dispatch : String → List Data → Run Value

/-- Changes to a directory for the time of an action, and back again however the action ends; if the way
back is refused, that is how the whole ends. -/
def withDirectory {α : Type} (path : Path) (action : Run α) : Run α := do
  let previous ← Run.observe Machine.workingDirectory
  Run.change (·.changeDirectory path.toString)
  Run.debug "runx.task" s!"chdir {Location.toString previous} -> {path}"
  let back : Run Unit := do
    Run.change (·.changeDirectory (Location.toString previous))
    Run.debug "runx.task" s!"chdir {Location.toString previous} <- {path}"
  let result ← tryCatch action fun stop => do
    back
    throw stop
  back
  return result

namespace Context

/-- The members of a context itself. -/
def member? (c : Context) (name : String) : Option Value :=
  match name with
  | "task" | "_task" => some (.task c.task)
  | "directory" => some (.path c.task.directory)
  | "run" => some (.function .run)
  | "sh" => some (.function .sh)
  | "_manager" => some .part
  | "__class__" | "__init__" | "__getattr__" => some (.function .general)
  | "__module__" => some (.data (.text "runx.run_context"))
  | _ => none

/-- What a name stands for in a body: a member of the context, else what the scope of the task binds; names
that begin with an underscore are not looked up in the scope. -/
def lookup (c : Context) (name : String) : Run Value :=
  match c.member? name with
  | some v => return v
  | none =>
    if name.startsWith "_" then Run.fail (.hiddenMember name)
    else do
      match (← Run.bindings c.task.scope).find? name with
      | some v => return v
      | none => Run.fail (.notInScope name c.task.name)

/-- Runs the task that a value names. -/
def runNamed (c : Context) (name : Data) (args : List Data) : Run Value :=
  match name with
  | .text name => c.dispatch name args
  | other => Run.fail (.noMember other.kindName "lower")

/-- Runs a command in the working directory; a command that fails is a failure, if it is checked. -/
def command (c : Context) (given : Data) (options : CommandOptions) : Run Value := do
  let line := given.display
  if c.commands.echo then Run.notify ("$ " ++ line)
  let cwd ← Run.observe Machine.workingDirectory
  Run.debug "runx.run_context" s!"sh in {Location.toString cwd}: {line}"
  let spawn ← Run.ofExcept (Spawn.of given c.commands.shell options.env (← get).machine.environment)
  let completed ← c.host.run spawn options.capture
  if options.check ∧ completed.returncode ≠ 0 then Run.fail (.command line (.int completed.returncode))
  return .completed completed

/-- What a command is run with if nothing else is said. -/
def plainOptions : CommandOptions := ⟨true, false, .null⟩

/-- Calls what a name stands for. -/
def call (c : Context) (f : Value) (args : List Data) : Run Value :=
  match f with
  | .function .run =>
    match args with
    | [] => Run.fail (Runfile.missingArgument "RunContext.run" "name")
    | name :: rest => c.runNamed name rest
  | .function .sh =>
    match args with
    | [] => Run.fail (Runfile.missingArgument "RunContext.sh" "command")
    | [line] => c.command line plainOptions
    | _ => Run.fail (Runfile.extraArguments "RunContext.sh" "2 positional arguments" (args.length + 1))
  | other => Runfile.call other (args.map .data)

/-- What a step does, and its result. -/
def perform (c : Context) : Action → Run Value
  | .run name args => c.runNamed name (args.getD c.args)
  | .chain =>
    match c.args with
    | [] => return .null
    | name :: rest => c.runNamed name rest
  | .sh line options => c.command line options
  | .get name => c.lookup name
  | .call name args => do c.call (← c.lookup name) args
  | .set name value => do
    Run.bind c.task.scope name (.data value)
    return .null
  | .print text => do
    Run.writeOut (text.display ++ "\n").toUTF8
    return .null
  | .input => do
    let (line, machine) ← Run.observe Machine.readLine
    modify fun w => { w with machine }
    return .data (.text line)
  | .chdir path => do
    Run.change (·.changeDirectory path)
    return .null
  | .mkdir path => do
    Run.change (·.makeDirectory path)
    return .null
  | .rmdir path => do
    Run.change (·.removeDirectory path)
    return .null
  | .raise label args => throw (Stop.ofLabel label args)
  | .give value => return .data value
  | .giveLast => return .null

/-- Performs a step and leaves its event behind; a failure is caught if the step catches it. -/
def step (c : Context) (s : Step) : Run Value :=
  tryCatch
    (do
      let v ← c.perform s.action
      Run.record (.done s.action.name v (← Run.cwd?))
      return v)
    fun stop =>
      match stop, s.catches with
      | .failure f, true => do
        Run.record (.recovered s.action.name f (← Run.cwd?))
        return .null
      | _, _ => throw stop

/-- Performs the steps of a body; `last` is the result of the step before. -/
def steps (c : Context) (last : Value) : List Step → Run Value
  | [] => return .null
  | s :: rest =>
    match s.action with
    | .give value => return .data value
    | .giveLast => return last
    | _ => do c.steps (← c.step s) rest

/-- Executes the body of the task. -/
def execute (c : Context) : Run Value :=
  match c.task.body with
  | .data d => Run.fail (.notCallable d.kindName)
  | .steps steps => do
    Run.record (.entered c.task.name c.args c.task.directory (← Run.cwd?))
    c.steps .null steps

end Context

namespace Manager

/-- A manager without tasks. -/
def ofSettings (settings : Settings) : Manager := ⟨.ofSettings settings, Registry.empty⟩

/-- Loads a Runfile: its tasks join the table; gives how many they are. -/
def load (m : Manager) (path : Path) : Run (Manager × Nat) := do
  let path := Location.path (← Run.observe (·.resolve path))
  Run.debug "runx.manager" ("Loading " ++ path.toString)
  let scope ← Runfile.openScope path.parent
  let tasks ← Runfile.evaluate scope path
  let (registry, count) ← Run.ofExcept (m.registry.merge tasks)
  return ({ m with registry }, count)

/-- Takes a batch of tasks into the table. -/
def merge (m : Manager) (batch : List Task) : Except Failure (Manager × Nat) := do
  let (registry, count) ← m.registry.merge batch
  return ({ m with registry }, count)

/-- Shows the help. -/
def showHelp (m : Manager) : Run Unit := showAll m.registry.help
where
  /-- Shows lines one after the other. -/
  showAll : List String → Run Unit
    | [] => return ()
    | line :: rest => do
      Run.notify line
      showAll rest

/-- Runs the task of a name, in whatever case it is spelled; tasks may call one another to the given depth. -/
def runTask (m : Manager) (host : Host) : Nat → String → List Data → Run Value
  | 0, _, _ => throw .exhausted
  | depth + 1, name, args =>
    match m.registry.find? name with
    | none => Run.fail (.unknownTask name)
    | some task => do
      Run.debug "runx.manager" s!"Running task {task.name} with args {(Data.list args).inspect}"
      let context : Context :=
        { commands := m.commands, host, task, args, dispatch := runTask m host depth }
      withDirectory task.directory context.execute

/-- How deeply tasks may call one another. -/
def maxDepth : Nat := 1000

end Manager

end TaskRunner
