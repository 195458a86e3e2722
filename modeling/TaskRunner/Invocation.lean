import TaskRunner.Execution
import TaskRunner.Runfile.Search
import TaskRunner.Settings

/-!
# One invocation of the runner

An invocation finds the nearest Runfile, reads the settings of its directory, loads it, and shows the
help or runs the task that the words of the command line name. What goes wrong on the way is mapped to
an exit status: failures of the runner's own are reported on a line, an interrupt is not reported at
all, and what the runner does not know leaves the invocation.
-/

/-!
## The words of the command line

The first word names a task, the others are its arguments. The words are read from the left, as those of a command that keeps the
options it does not know and takes none behind its first argument; and it knows none. A word that looks like an option may so stand
before the name of the task, and is then the name itself; a double hyphen that only such words precede is dropped, once.
-/

namespace TaskRunner.CommandWords

/-- The options of the runner: there are none, not even one that asks for help. -/
def options : List String := []

/-- Whether a word looks like an option: a hyphen and at least one more character. -/
def isOptionLike (word : String) : Bool := word.startsWith "-" && 2 ≤ word.length

/-- What is left of letters behind one hyphen, each of which may be an option: those that are none, behind the hyphen again. -/
def clusterLeft (hyphen : Char) (letters : List Char) : Option String :=
  match letters.filter fun c => !options.contains (String.ofList [hyphen, c]) with
  | [] => none
  | unknown => some (String.ofList (hyphen :: unknown))

/-- What is left of a word that looks like an option. The part before an equals sign may be the name of one; if it is not, the word
is kept, but for the letters behind a single hyphen, which are taken one by one. -/
def left (word : String) : Option String :=
  if options.contains (String.ofList (word.toList.takeWhile (· ≠ '='))) then none
  else if word.startsWith "--" then some word
  else
    match word.toList with
    | [] => none
    | hyphen :: letters => clusterLeft hyphen letters

/-- The words of a command line when options are no longer looked for: those that were left on the way, and those ahead. -/
structure Scan where
  passed : List String
  ahead : List String

/-- Looks for options, up to a double hyphen or to the first word that does not look like one. -/
def scan (passed : List String) : List String → Scan
  | [] => ⟨passed, []⟩
  | word :: rest =>
    if word = "--" then ⟨passed, rest⟩
    else if isOptionLike word then scan (passed ++ (left word).toList) rest
    else ⟨passed, word :: rest⟩

/-- All words that are kept. -/
def Scan.words (s : Scan) : List String := s.passed ++ s.ahead

/-- The words as they are read: the name of a task, if there is any word, and its arguments. -/
def withoutMarker (words : List String) : List String := (scan [] words).words

end TaskRunner.CommandWords

/-! ## Invocations -/

namespace TaskRunner

/-- How an invocation ends: its exit status, which is a number or what a task ended the process with, and
what left it unreported. -/
structure Conclusion where
  status : Data
  unreported : Option Stop

namespace Invocation

/-- What every line of the runner's own begins with. -/
def lineStart : String := "[runx]"

/-- Shows a line of the runner's own. -/
def say (message : String) : Run Unit := Run.notify (lineStart ++ " " ++ message)

/-- The logger of an invocation. -/
def logger : String := "runx.cli"

/-- The line that stands for the trace of a failure. -/
def traceLine : String := "<traceback>"

/-- Takes the words of the command line away, so that only the name of the program is left. -/
def clearWords : Run Unit := modify fun w => { w with argv := w.argv.take 1 }

/-- Reads the settings of a directory and sets the log up by them. -/
def configure (directory : Path) : Run Settings := do
  let settings ← Run.observe (Settings.load · directory)
  Run.setupLog (.text settings.logLevel)
  Run.debug logger s!"Config for {directory}: {(Data.table settings.toTable).inspect}"
  return settings

/-- Loads a Runfile for a manager with the given settings. -/
def load (settings : Settings) (runfile : Path) : Run Manager := do
  let (manager, count) ← (Manager.ofSettings settings).load runfile
  Run.debug logger s!"Loaded {count} task(s) from {runfile}"
  return manager

/-- Shows the help if there are no words; else runs the task that the first word names, with the others as arguments. -/
def dispatch (host : Host) (manager : Manager) (directory : Path) : List String → Run Unit
  | [] => manager.showHelp
  | name :: args => do
    clearWords
    say s!"In {directory}."
    let _ ← manager.runTask host Manager.maxDepth name (args.map .text)

/-- The stages of an invocation: locate, configure, load, and then show the help or run a task. -/
def stages (host : Host) (words : List String) : Run Unit := do
  let runfile ← Runfile.locate none
  let settings ← configure runfile.parent
  let manager ← load settings runfile
  dispatch host manager runfile.parent words

/-- Reports a failure, if the runner knows it, and says with which status the invocation ends. -/
def concludeFailure (f : Failure) : Run Conclusion := do
  match f with
  | .load _ _ _ traced =>
    Run.debug logger ("Runfile load failed" ++ if traced then "\n" ++ traceLine else "")
  | _ => pure ()
  if f.isOwn then
    say f.message
    return ⟨f.exitCode, none⟩
  match f with
  | .child _ returncode =>
    say f.message
    return ⟨exitStatusOf returncode, none⟩
  | .endOfInput _ =>
    say "Task stopped: end of input."
    return ⟨.int 1, none⟩
  | _ => return ⟨.int 1, if f.isBrokenPipe then none else some (.failure f)⟩

/-- Says with which status an invocation ends that was stopped. -/
def conclude : Stop → Run Conclusion
  | .interrupt _ => return ⟨.int 0, none⟩
  | .exit args =>
    match Stop.exitValue args with
    | .null => return ⟨.int 0, none⟩
    | code => return ⟨code, none⟩
  | .failure f => concludeFailure f
  | .exhausted => return ⟨.int 1, some .exhausted⟩

/-- An invocation with the given words. -/
def main (host : Host) (words : List String) : Run Conclusion := do
  Run.setupLog (.int Log.warning)
  tryCatch
    (do
      stages host (CommandWords.withoutMarker words)
      return ⟨.int 0, none⟩)
    conclude

end Invocation

end TaskRunner
