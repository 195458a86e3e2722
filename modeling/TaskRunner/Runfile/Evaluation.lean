import TaskRunner.Runfile.Reader
import TaskRunner.World

/-!
# Evaluating a Runfile

A Runfile is evaluated in a scope of its own, in which `doc` and `run` are bound to its declarations.
Its statements are executed in order; what they call is whatever the names are bound to at that
moment. However the evaluation ends, the declarations are closed afterwards. A failure of the
runner's own leaves the evaluation as it is; any other failure, that of reading the file included, is
a failure to load the file; an interrupt and an end of the process leave it as they are.
-/

namespace TaskRunner.Runfile

/-- The failure of a function that is called with too few arguments. -/
def missingArgument (function argument : String) : Failure :=
  .badCall s!"{function}() missing 1 required positional argument: '{argument}'"

/-- The failure of a function that is called with too many arguments; the receiver counts as one. -/
def extraArguments (function takes : String) (given : Nat) : Failure :=
  .badCall s!"{function}() takes {takes} but {given} were given"

/-- The body that is given to a declaration; a null body is none. -/
def givenBody : Body → Option Body
  | .data .null => none
  | body => some body

/-- Says in the log that a task has been declared. -/
def announce (t : Task) : Run Unit :=
  let doc := match t.doc with
    | some doc => Text.quoted doc
    | none => "None"
  Run.debug "runx.definition" s!"Registered task {t.name} (doc={doc})"

/-- Holds documentation for the next task. -/
def describe (scope : ScopeId) (text : String) : Run Value := do
  let d ← Run.declarations scope
  Run.putDeclarations scope (← Run.ofExcept (d.describe text))
  return .null

/-- Declares a task; without a body, what comes of it gives the task its body later. -/
def declare (scope : ScopeId) (name : String) (body : Option Body) : Run Value := do
  let (result, d) := (← Run.declarations scope).declare name body
  Run.putDeclarations scope d
  match ← Run.ofExcept result with
  | .task t =>
    announce t
    return .null
  | .reservation r => return .function (.decorate scope r)

/-- Gives a body to a reservation. -/
def decorate (scope : ScopeId) (r : Reservation) (body : Body) : Run Value := do
  let (result, d) := (← Run.declarations scope).apply r body
  Run.putDeclarations scope d
  announce (← Run.ofExcept result)
  return .null

/-- Calls what a name is bound to. -/
def call (f : Value) (args : List Body) : Run Value :=
  match f with
  | .function .collect => return .arguments args
  | .function (.describe scope) =>
    match args with
    | [] => Run.fail (missingArgument "DefinitionContext.doc" "text")
    | [text] => describe scope text.display
    | _ => Run.fail (extraArguments "DefinitionContext.doc" "2 positional arguments" (args.length + 1))
  | .function (.declare scope) =>
    match args with
    | [] => Run.fail (missingArgument "DefinitionContext.run" "name")
    | [name] => declare scope name.display none
    | [name, body] => declare scope name.display (givenBody body)
    | _ => Run.fail (extraArguments "DefinitionContext.run" "from 2 to 3 positional arguments" (args.length + 1))
  | .function (.decorate scope r) =>
    match args with
    | [] => Run.fail (missingArgument "DefinitionContext.run.<locals>.register" "func")
    | [body] => decorate scope r body
    | _ => Run.fail (extraArguments "DefinitionContext.run.<locals>.register" "1 positional argument" args.length)
  | other => Run.fail (.notCallable other.kindName)

/-- What a name is bound to in a scope. -/
def lookup (scope : ScopeId) (name : String) : Run Value := do
  match (← Run.bindings scope).find? name with
  | some v => return v
  | none => Run.fail (.unboundName name)

/-- What a handle keeps. -/
def handled (handle : String) : Run Value := do
  match (← get).handles.find? handle with
  | some v => return v
  | none => Run.fail (.unknownHandle handle)

/-- Calls what a name is bound to in a scope. -/
def callNamed (scope : ScopeId) (name : String) (args : List Body) : Run Value := do
  call (← lookup scope name) args

/-- Declares names one after the other; gives what came of each. -/
def declareAll (scope : ScopeId) : List Data → Run (List Value)
  | [] => return []
  | name :: rest => do
    let v ← callNamed scope "run" [.data name]
    return v :: (← declareAll scope rest)

/-- Gives a body to each of several decorators in turn. -/
def decorateAll (body : Body) : List Value → Run Unit
  | [] => return ()
  | v :: rest => do
    let _ ← call v [body]
    decorateAll body rest

mutual

/-- Executes a statement in a scope. -/
def execute (scope : ScopeId) : Statement → Run Unit
  | .doc text => do
    let _ ← callNamed scope "doc" [.data text]
  | .run name body => do
    let _ ← callNamed scope "run" [.data name, body]
  | .declare name handle => do
    let v ← callNamed scope "run" [.data name]
    modify fun w => { w with handles := w.handles.insert handle v }
  | .apply handle body => do
    let _ ← call (← handled handle) [body]
  | .deco names body => do
    decorateAll body (← declareAll scope names).reverse
  | .set name value => Run.bind scope name (.data value)
  | .define name => Run.bind scope name (.function .collect)
  | .get name => do
    Run.record (.got (← lookup scope name))
  | .raise label args => throw (Stop.ofLabel label args)
  | .attempt body =>
    tryCatch (executeAll scope body) fun
      | .failure f => Run.record (.caught f)
      | stop => throw stop
  | .print text => Run.writeOut (text.display ++ "\n").toUTF8
  | .chdir path => Run.change (·.changeDirectory path)

/-- Executes statements in a scope, up to the first that fails. -/
def executeAll (scope : ScopeId) : List Statement → Run Unit
  | [] => return ()
  | s :: rest => do
    execute scope s
    executeAll scope rest

end

/-- Opens the scope of a Runfile in a directory: `doc` and `run` are bound to its declarations. -/
def openScope (directory : Path) : Run ScopeId := do
  let l ← Run.observe (·.resolve directory)
  Run.newScope fun id =>
    { bindings := Assoc.ofList
        [("__name__", .data (.text "runfile")), ("doc", .function (.describe id)), ("run", .function (.declare id))]
      declarations := Declarations.initial (Location.path l) id }

/-- Reads a Runfile. -/
def readStatements (path : Path) : Run (List Statement) := do
  let text ← Run.observe (·.readText path.toString)
  match read (← get).abbreviations text with
  | .ok statements => return statements
  | .error fault => Run.fail (.raised "SyntaxError" [.text fault.message])

/-- A stop of an evaluation as it leaves the evaluation. -/
def wrapStop (path : Path) : Stop → Stop
  | .failure f => .failure (if f.isOwn then f else .load path f.label f.message true)
  | stop => stop

/-- Accepts no more declarations in a scope. -/
def closeScope (scope : ScopeId) : Run Unit := do
  Run.putDeclarations scope (← Run.declarations scope).close

/-- Runs an action with handles of its own. -/
def withOwnHandles {α : Type} (action : Run α) : Run α := do
  let before := (← get).handles
  modify fun w => { w with handles := Assoc.empty }
  let back : Run Unit := modify fun w => { w with handles := before }
  let result ← tryCatch action fun stop => do
    back
    throw stop
  back
  return result

/-- Evaluates a Runfile in a scope; gives the tasks that it declares. -/
def evaluate (scope : ScopeId) (path : Path) : Run (List Task) := do
  if (← Run.declarations scope).closed then Run.fail .closed
  Run.bind scope "__file__" (.data (.text path.toString))
  tryCatch (withOwnHandles do executeAll scope (← readStatements path)) fun stop => do
    closeScope scope
    throw (wrapStop path stop)
  closeScope scope
  Run.ofExcept (← Run.declarations scope).settle

end TaskRunner.Runfile
