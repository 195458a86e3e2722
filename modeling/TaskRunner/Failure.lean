import TaskRunner.Failure.Signal
import TaskRunner.FileSystem
import TaskRunner.Text.Utf8
import TaskRunner.Toml.Fault

/-!
# Failures

What can go wrong, by cause. Some failures are the runner's own (`isOwn`): it reports them itself,
and each has an exit status. The others come from the files, from child processes, or from the
Runfiles, which may raise any failure they like. `label` names the class of a failure and `message`
says what it says; `exitStatus` is the exit status that goes with the return code of a child.
-/

namespace TaskRunner

/-- The exit status for the return code of a child: the code itself, 1 for a zero that was reported as a
failure, and 128 more than its number for a signal, which arrives as a negative code. -/
def exitStatus (returncode : Int) : Int :=
  if returncode < 0 then 128 - returncode
  else if returncode = 0 then 1
  else returncode

/-- The exit status for the return code of a child as a Runfile may give it, which can be any number. -/
def exitStatusOf (code : Data) : Data :=
  match code with
  | .int n => .int (exitStatus n)
  | .float bits =>
    if code.isNegative then .float (128 - Float.ofBits bits).toBits
    else if code.isTruthy then code
    else .int 1
  | code => if code.isTruthy then code else .int 1

/-- Why settings are refused. The settings of a project are the table `tool.runx` of its settings document. -/
inductive SettingsFault where
  /-- Names that no setting has, in the order of the names. -/
  | unknownKeys (keys : List String)
  | shellNotText
  | echoNotFlag
  /-- The text of what was given for the level of the log. -/
  | unknownLevel (given : String)
  | notTable
  | malformed (path : Path) (fault : Toml.Fault)
  /-- A fault that a Runfile states in its own words. -/
  | stated (message : String)
  deriving DecidableEq, Repr

/-- What the fault says. -/
def SettingsFault.message : SettingsFault → String
  | .unknownKeys keys => "Unknown [tool.runx] keys: " ++ ", ".intercalate keys
  | .shellNotText => "[tool.runx] shell must be a string"
  | .echoNotFlag => "[tool.runx] echo_commands must be true or false"
  | .unknownLevel given => "Unsupported [tool.runx] log_level: " ++ given
  | .notTable => "[tool.runx] must be a table"
  | .malformed path fault => "Invalid " ++ path.toString ++ ": " ++ fault.message
  | .stated message => message

/-- A failure. -/
inductive Failure where
  /-- A failure that a Runfile reports in the name of the runner. -/
  | stated (args : List Data)
  /-- A declaration after the Runfile was loaded. -/
  | closed
  | settings (fault : SettingsFault)
  | noRunfile
  | duplicateTask (name : String)
  | unknownTask (name : String)
  | illFormedTask (name reason : String)
  /-- A Runfile could not be loaded: its path, and the class and the message of what went wrong; `traced`
  when it went wrong in the loading itself, so that a trace of it can be shown. -/
  | load (path : Path) (label message : String) (traced : Bool)
  /-- A checked command failed. -/
  | command (line : String) (returncode : Data)
  /-- A child process failed outside the runner's own commands. -/
  | child (line : String) (returncode : Data)
  | endOfInput (args : List Data)
  /-- An operation on files was refused; the path is the one that was given. -/
  | refused (r : Refusal) (path : Option String)
  /-- Links lead back to themselves. -/
  | linkLoop (path : Path)
  | undecodable (fault : Text.Utf8.Fault)
  /-- A null character where the surroundings cannot take one. -/
  | nullCharacter
  | illegalVariable
  /-- A value of a kind that has no such member. -/
  | noMember (kind name : String)
  /-- A name that the scope of a task does not bind. -/
  | notInScope (name task : String)
  /-- A name with a leading underscore, asked of a run context. -/
  | hiddenMember (name : String)
  | unboundName (name : String)
  | notCallable (kind : String)
  | unknownLevel (name : String)
  | badLevel (given : Data)
  | badCall (message : String)
  /-- A decorator that was never declared. -/
  | unknownHandle (handle : String)
  /-- A number too long to be written out; the number of its digits, where it was to be read. -/
  | longNumber (digits : Option Nat)
  /-- A failure that a Runfile raises, of a class that the runner has no use of its own for. -/
  | raised (label : String) (args : List Data)

namespace Refusal

/-- The number of a refusal. -/
def number : Refusal → Nat
  | .noEntry => 2
  | .noPermission => 13
  | .busy => 16
  | .entryExists => 17
  | .notDirectory => 20
  | .isDirectory => 21
  | .invalid => 22
  | .nameTooLong => 36
  | .notEmpty => 39
  | .tooManyLinks => 40
  | .notExecutable => 8
  | .badDescriptor => 9
  | .noSpace => 28
  | .brokenPipe => 32
  | .noProcess => 3
  | .notPermitted => 1

/-- What a refusal says. -/
def message : Refusal → String
  | .noEntry => "No such file or directory"
  | .noPermission => "Permission denied"
  | .busy => "Device or resource busy"
  | .entryExists => "File exists"
  | .notDirectory => "Not a directory"
  | .isDirectory => "Is a directory"
  | .invalid => "Invalid argument"
  | .nameTooLong => "File name too long"
  | .notEmpty => "Directory not empty"
  | .tooManyLinks => "Too many levels of symbolic links"
  | .notExecutable => "Exec format error"
  | .badDescriptor => "Bad file descriptor"
  | .noSpace => "No space left on device"
  | .brokenPipe => "Broken pipe"
  | .noProcess => "No such process"
  | .notPermitted => "Operation not permitted"

/-- The class of a refusal with the given number. -/
def labelOf (number : Int) : String :=
  match number with
  | 1 | 13 => "PermissionError"
  | 2 => "FileNotFoundError"
  | 3 => "ProcessLookupError"
  | 4 => "InterruptedError"
  | 10 => "ChildProcessError"
  | 11 | 114 | 115 => "BlockingIOError"
  | 17 => "FileExistsError"
  | 20 => "NotADirectoryError"
  | 21 => "IsADirectoryError"
  | 32 | 108 => "BrokenPipeError"
  | 103 => "ConnectionAbortedError"
  | 104 => "ConnectionResetError"
  | 110 => "TimeoutError"
  | 111 => "ConnectionRefusedError"
  | _ => "OSError"

/-- The classes of refusals. -/
def labels : List String :=
  ["OSError", "PermissionError", "FileNotFoundError", "ProcessLookupError", "InterruptedError", "ChildProcessError",
    "BlockingIOError", "FileExistsError", "NotADirectoryError", "IsADirectoryError", "BrokenPipeError",
    "ConnectionAbortedError", "ConnectionResetError", "TimeoutError", "ConnectionRefusedError"]

/-- The arguments that a refusal of a class keeps: its number and what it says, and then the one or two paths that
it is about. Fewer than two or more than five arguments say nothing of the kind; the fourth is not looked at; and
a number in the third place, of a class that knows one, is no path. -/
def argumentsOf (label : String) (args : List Data) : List Data :=
  let isPath (d : Data) : Bool := match d with
    | .null => false
    | .int _ | .flag _ | .float _ => label != "BlockingIOError"
    | _ => true
  match args with
  | [number, message] => [number, message]
  | number :: message :: path :: more =>
    if 2 < more.length then args
    else if ¬ isPath path then [number, message]
    else match more with
      | [_, second] => if isPath second then [number, message, path, second] else [number, message, path]
      | _ => [number, message, path]
  | _ => args

/-- What a refusal says, given what it keeps. -/
def describe? : List Data → Option String
  | [number, message] => some s!"[Errno {number.display}] {message.display}"
  | [number, message, path] => some s!"[Errno {number.display}] {message.display}: {path.inspect}"
  | [number, message, path, second] =>
    some s!"[Errno {number.display}] {message.display}: {path.inspect} -> {second.inspect}"
  | _ => none

end Refusal

namespace Failure

/-- Whether the runner reports a failure itself. -/
def isOwn : Failure → Bool
  | .stated _ | .closed | .settings _ | .noRunfile | .duplicateTask _ | .unknownTask _ | .illFormedTask .. | .load ..
  | .command .. => true
  | _ => false

/-- The exit status of a failure that the runner reports itself: that of the command for a command, and 1. -/
def exitCode : Failure → Data
  | .command _ returncode => exitStatusOf returncode
  | _ => .int 1

/-- The class of a failure. -/
def label : Failure → String
  | .stated _ | .closed => "RunxError"
  | .settings _ => "RunxConfigError"
  | .noRunfile => "RunfileNotFoundError"
  | .duplicateTask _ => "DuplicateTaskError"
  | .unknownTask _ => "TaskNotFoundError"
  | .illFormedTask .. => "IllFormedTaskError"
  | .load .. => "RunfileLoadError"
  | .command .. => "TaskCommandError"
  | .child .. => "CalledProcessError"
  | .endOfInput _ => "EOFError"
  | .refused r _ => Refusal.labelOf r.number
  | .linkLoop _ => "RuntimeError"
  | .undecodable _ => "UnicodeDecodeError"
  | .nullCharacter | .illegalVariable | .unknownLevel _ | .longNumber _ => "ValueError"
  | .noMember .. | .notInScope .. | .hiddenMember _ => "AttributeError"
  | .unboundName _ => "NameError"
  | .notCallable _ | .badLevel _ | .badCall _ => "TypeError"
  | .unknownHandle _ => "NoHandle"
  | .raised label _ => label

/-- What the given arguments of a failure say: nothing, the one argument, or all between brackets. -/
def describe : List Data → String
  | [] => ""
  | [d] => d.display
  | ds => Data.inspectTuple ds

/-- What a failure of a given class says, given its arguments. -/
def describeAs (label : String) (args : List Data) : String :=
  match label, args with
  | "KeyError", [d] => d.inspect
  | _, _ =>
    if Refusal.labels.contains label then (Refusal.describe? args).getD (describe args) else describe args

/-- How a child process ended. -/
def describeChild (line : String) (returncode : Data) : String :=
  let number := (returncode.truncated?).getD 0
  if returncode.isNegative then
    match if returncode.whole?.isSome then Signal.name? number.natAbs else none with
    | some name => s!"Command '{line}' died with <Signals.{name}: {number.natAbs}>."
    | none => s!"Command '{line}' died with unknown signal {number.natAbs}."
  else s!"Command '{line}' returned non-zero exit status {number}."

/-- What a failure says. -/
def message : Failure → String
  | .stated args => describe args
  | .closed => "Task declarations are only allowed while the Runfile loads."
  | .settings fault => fault.message
  | .noRunfile => "No Runfile found."
  | .duplicateTask name => s!"Task '{name}' is already defined."
  | .unknownTask name => s!"Task '{name}' not found."
  | .illFormedTask name reason => s!"Task '{name}' {reason}."
  | .load path label message _ => s!"Failed to load {path}: {label}: {message}"
  | .command line returncode => s!"Command '{line}' exited with status {returncode.display}."
  | .child line returncode => describeChild line returncode
  | .endOfInput args => describe args
  | .refused r none => s!"[Errno {r.number}] {r.message}"
  | .refused r (some path) => s!"[Errno {r.number}] {r.message}: {Text.quoted path}"
  | .linkLoop path => s!"Symlink loop from {Text.quoted path.toString}"
  | .undecodable fault => fault.message
  | .nullCharacter => "embedded null byte"
  | .illegalVariable => "illegal environment variable name"
  | .noMember kind name => s!"'{kind}' object has no attribute '{name}'"
  | .notInScope name task => s!"Runfile scope has no attribute '{name}' (task '{task}')"
  | .hiddenMember name => name
  | .unboundName name => s!"name '{name}' is not defined"
  | .notCallable kind => s!"'{kind}' object is not callable"
  | .unknownLevel name => s!"Unknown level: {Text.quoted name}"
  | .badLevel given => s!"Level not an integer or a valid string: {given.inspect}"
  | .badCall message => message
  | .unknownHandle handle => handle
  | .longNumber none => s!"Exceeds the limit ({Data.mostDigits} digits) for integer string conversion; "
      ++ "use sys.set_int_max_str_digits() to increase the limit"
  | .longNumber (some digits) => s!"Exceeds the limit ({Data.mostDigits} digits) for integer string conversion: "
      ++ s!"value has {digits} digits; use sys.set_int_max_str_digits() to increase the limit"
  | .raised label args => describeAs label args

/-- Whether what reads the output has gone away. -/
def isBrokenPipe : Failure → Bool
  | .raised label args => Refusal.labels.contains label &&
      match args with
      | number :: _ :: _ => args.length ≤ 5 && number.whole? = some 32
      | _ => false
  | _ => false

end Failure

/-- Why a run of statements or steps stops before its end. -/
inductive Stop where
  | failure (f : Failure)
  /-- The user interrupts. -/
  | interrupt (args : List Data)
  /-- The process is to end, with an exit status or, if that is no number, with a value that is shown. -/
  | exit (args : List Data)
  /-- Tasks called one another more deeply than the run allows. -/
  | exhausted

namespace Stop

/-- The class of a stop. -/
def label : Stop → String
  | .failure f => f.label
  | .interrupt _ => "KeyboardInterrupt"
  | .exit _ => "SystemExit"
  | .exhausted => "RecursionError"

/-- What a stop says. -/
def message : Stop → String
  | .failure f => f.message
  | .interrupt args | .exit args => Failure.describe args
  | .exhausted => "maximum recursion depth exceeded"

/-- What the process is to end with: nothing, the one value, or all values. -/
def exitValue : List Data → Data
  | [] => .null
  | [d] => d
  | ds => .list ds

/-- A call of a class with arguments that it does not take. -/
def wrongCall {α : Type} (message : String) : Except Failure α := .error (.badCall message)

/-- Names in a row, the last two joined by a word. -/
def joined : List String → String
  | [] => ""
  | [name] => name
  | [first, second] => first ++ " and " ++ second
  | name :: rest => name ++ ", " ++ joined rest

/-- Refuses too few or too many arguments of a class that takes the named ones, and then at most so many more. -/
def checkArity (label : String) (names : List String) (more : Nat) (args : List Data) : Except Failure Unit :=
  let function := label ++ ".__init__()"
  let least := names.length
  if args.length < least then
    let missing := (names.drop args.length).map fun name => s!"'{name}'"
    let plural := if missing.length = 1 then "" else "s"
    wrongCall s!"{function} missing {missing.length} required positional argument{plural}: {joined missing}"
  else if least + more < args.length then
    let takes := if more = 0 then toString (least + 1) else s!"from {least + 1} to {least + more + 1}"
    let plural := if least + more = 0 then "" else "s"
    wrongCall s!"{function} takes {takes} positional argument{plural} but {args.length + 1} were given"
  else .ok ()

/-- The text that a failure is built with. -/
def textArg (d : Option Data) : String := (d.map Data.display).getD ""

/-- The return code that a failure is built with. -/
def codeArg : Option Data → Except Failure Data
  | some d => if d.isNumber then .ok d else wrongCall s!"'<' not supported between instances of '{d.kindName}' and 'int'"
  | none => .ok (.int 1)

/-- The return code of a child that a failure is built with: one that stands for nothing is only written out. -/
def childCodeArg (d : Data) : Except Failure Data :=
  if d.isNumber ∨ d.isTruthy then codeArg (some d)
  else wrongCall s!"%d format: a real number is required, not {d.kindName}"

/-- The failure of a class of refusals. The bare class stands for the one of its number. -/
def refusal (label : String) (args : List Data) : Except Failure Failure := do
  let label ← match label, args with
    | "OSError", number :: _ :: rest =>
      if 3 < rest.length then pure label
      else match number with
        | .list _ | .table _ => wrongCall s!"unhashable type: '{number.kindName}'"
        | number => pure ((number.whole?.map Refusal.labelOf).getD label)
    | _, _ => pure label
  match label, args with
  | "BlockingIOError", [_, _, .float _] => wrongCall "'float' object cannot be interpreted as an integer"
  | _, _ => return .raised label (Refusal.argumentsOf label args)

/-- What comes of a class and the arguments that it is called with; a call that the class does not take is a
failure of its own. -/
def build (label : String) (args : List Data) : Except Failure Stop := do
  let text (i : Nat) := textArg args[i]?
  match label with
  | "KeyboardInterrupt" => return .interrupt args
  | "SystemExit" => return .exit args
  | "RunxError" => return .failure (.stated args)
  | "RunxConfigError" => return .failure (.settings (.stated (Failure.describe args)))
  | "RunfileNotFoundError" =>
    checkArity label [] 0 args
    return .failure .noRunfile
  | "DuplicateTaskError" =>
    checkArity label ["name"] 0 args
    return .failure (.duplicateTask (text 0))
  | "TaskNotFoundError" =>
    checkArity label ["name"] 0 args
    return .failure (.unknownTask (text 0))
  | "IllFormedTaskError" =>
    checkArity label ["name"] 1 args
    return .failure (.illFormedTask (text 0) ((args[1]?.map Data.display).getD "has no body"))
  | "TaskCommandError" =>
    checkArity label ["command", "returncode"] 0 args
    return .failure (.command (text 0) (← codeArg args[1]?))
  | "CalledProcessError" =>
    checkArity label ["returncode", "cmd"] 2 args
    return .failure (.child (text 1) (← childCodeArg ((args[0]?).getD .null)))
  | "EOFError" => return .failure (.endOfInput args)
  | "RunfileLoadError" =>
    match args with
    | path :: cause :: rest =>
      let stop ← build cause.display rest
      return .failure (.load (Path.ofString path.display) stop.label stop.message false)
    | _ => return .failure (.load (Path.ofString (text 0)) "Exception" "" false)
  | _ =>
    if Refusal.labels.contains label then return .failure (← refusal label args)
    else return .failure (.raised label args)
  termination_by args.length

/-- What a Runfile raises when it names a class and gives arguments. -/
def ofLabel (label : String) (args : List Data) : Stop :=
  match build label args with
  | .ok stop => stop
  | .error f => .failure f

end Stop

end TaskRunner
