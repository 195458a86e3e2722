import TaskRunner.Proofs.OriginDirectories

/-!
# The exit status of an invocation

What an invocation ends with, and what it says last, is decided by what has stopped its stages (`Invocation.main_exit_status`). What
a Runfile raises stops the stages as a failure to load it, and what a body raises stops them as it is: a command that fails in a body
at any depth, and that no step on the way out catches, ends the invocation with the exit status of the command, unless the way back
to a directory that a task was called from is refused.
-/

namespace TaskRunner

open Run

/-! ## Numbers -/

namespace Failure

/-- The exit status that goes with an error. -/
def status : Failure → Data
  | .child _ returncode => exitStatusOf returncode
  | f => f.exitCode

/-- What the runner says of an error that it knows: what its own failures and those of child processes say, and that the input has
ended. -/
def report? (f : Failure) : Option String :=
  match f with
  | .child .. => some f.message
  | .endOfInput _ => some "Task stopped: end of input."
  | f => if f.isOwn then some f.message else none

end Failure

/-- The code that a process is to end with: none is zero. -/
def Stop.code : List Data → Data
  | [] | [.null] => .int 0
  | [d] => d
  | ds => .list ds

/-- The state after a line of the runner's own, shown without the sequences that only a terminal understands. -/
def World.told (w : World) (message : String) : World :=
  { w with err := w.err ++ (Text.stripSequences ("[runx] " ++ message) ++ "\n").toUTF8 }

namespace Invocation

/-! ## Conclusions -/

theorem say_apply (message : String) (w : World) : say message w = .ok () (w.told message) := by
  have hstart : lineStart ++ " " ++ message = "[runx] " ++ message :=
    congrArg (· ++ message) (by decide : lineStart ++ " " = "[runx] ")
  unfold say
  rw [hstart]
  rfl

theorem conclude_exit (args : List Data) (w : World) : conclude (.exit args) w = .ok ⟨Stop.code args, none⟩ w := by
  rcases args with _ | ⟨d, _ | ⟨d', rest⟩⟩
  · rfl
  · cases d <;> rfl
  · cases d <;> rfl

/-- A failure is reported on the last line, if the runner knows it, and leaves the invocation if not. A failure to load a Runfile is
said in the log before. -/
theorem conclude_failure (f : Failure) (w : World) :
    ∃ w₁ unreported, (w₁ = w ∨ ∃ message, w₁ = w.debugged logger message) ∧
      conclude (.failure f) w = .ok ⟨f.status, unreported⟩
        (match f.report? with
          | some message => w₁.told message
          | none => w₁) ∧
      (unreported = none ∨ f.report? = none ∧ unreported = some (.failure f)) := by
  cases f with
  | load path label message traced => exact ⟨_, none, .inr ⟨_, rfl⟩, rfl, .inl rfl⟩
  | stated | closed | settings | noRunfile | duplicateTask | unknownTask | illFormedTask | command | child | endOfInput =>
    exact ⟨w, none, .inl rfl, rfl, .inl rfl⟩
  | raised label args =>
    refine ⟨w, _, .inl rfl, rfl, ?_⟩
    cases (Failure.raised label args).isBrokenPipe with
    | true => exact .inl rfl
    | false => exact .inr ⟨rfl, rfl⟩
  | refused | linkLoop | undecodable | nullCharacter | illegalVariable | noMember | notInScope | hiddenMember | unboundName
  | notCallable | unknownLevel | badLevel | badCall | unknownHandle | longNumber =>
    exact ⟨w, _, .inl rfl, rfl, .inr ⟨rfl, rfl⟩⟩

/-- An invocation ends as what has stopped its stages says. -/
theorem main_eq (host : Host) (words : List String) (w : World) :
    main host words w = match stages host (CommandWords.withoutMarker words) (begun w) with
      | .ok () w' => .ok ⟨.int 0, none⟩ w'
      | .error stop w' => conclude stop w' := by
  rw [main, bind_ok (setupLog_begun w), tryCatch_apply, bind_apply]
  cases stages host (CommandWords.withoutMarker words) (begun w) <;> rfl

end Invocation

/-! ## Commands that fail -/

namespace Context

/-- The command that a step runs in a state, and what it is run with; none if the step runs no command. -/
def spawns (c : Context) (a : Action) (w : World) : Option (Data × CommandOptions) :=
  match a with
  | .sh given options => some (given, options)
  | .call name args =>
    match c.lookup name w, args with
    | .ok (.function .sh) _, [given] => some (given, plainOptions)
    | _, _ => none
  | _ => none

/-- Runs a command without a look at what its child returns. -/
def child (c : Context) (given : Data) (options : CommandOptions) : Run Completed := do
  if c.commands.echo then Run.notify ("$ " ++ given.display)
  let cwd ← Run.observe Machine.workingDirectory
  Run.debug "runx.run_context" s!"sh in {Location.toString cwd}: {given.display}"
  let spawn ← Run.ofExcept (Spawn.of given c.commands.shell options.env (← get).machine.environment)
  c.host.run spawn options.capture

variable {c : Context} {s : Step} {w w₁ : World}

end Context

namespace Manager

variable {m : Manager} {host : Host} {line : String} {n : Int} {depth : Nat} {name : String} {args : List Data} {w w₁ : World}

end Manager

/-! ## The stages -/

namespace Invocation

/-- An invocation comes to execute the statements of the Runfile at a path, in a scope and a state. -/
def Executes (w : World) (path : Path) (scope : ScopeId) (state : World) : Prop :=
  ∃ runfile settings w₁ w₂ l w₃, Runfile.locate none (begun w) = .ok runfile w₁ ∧
    configure runfile.parent w₁ = .ok settings w₂ ∧ w₂.machine.resolve runfile = .ok l ∧ path = Location.path l ∧
    Runfile.openScope path.parent (w₂.debugged "runx.manager" ("Loading " ++ path.toString)) = .ok scope w₃ ∧
    state = Runfile.starting scope path w₃

section stages

variable {host : Host} {words : List String} {w state : World} {m : Manager} {name : String} {args : List String}

/-- The state in which a task is run that the words name. -/
def dispatching (w : World) (directory : Path) : World := ({ w with argv := w.argv.take 1 } : World).told s!"In {directory}."

/-- A dispatch with words takes the words away, says where the Runfile is, and runs the task. -/
theorem dispatch_words (host : Host) (m : Manager) (directory : Path) (name : String) (args : List String) (w : World) :
    dispatch host m directory (name :: args) w =
      (m.runTask host Manager.maxDepth name (args.map .text) >>= fun _ => pure ()) (dispatching w directory) :=
  (bind_ok (modify_apply _ w) _).trans (bind_ok (say_apply _ _) _)

end stages

namespace FailingCommands

/-- A Runfile in the root, and a directory in which the runner is started. -/
def files : FileSystem := (FileSystem.empty.makeDirectory ["p"]).putFile ["Runfile"] "r".toUTF8

/-- A task with a command that fails, one that runs this task, and one whose command removes the directory that the runner was
started in before it fails. -/
def statements : List Runfile.Statement :=
  [.run (.text "inner") (.steps [⟨.sh (.text "exit 3") Context.plainOptions, false⟩]),
    .run (.text "outer") (.steps [⟨.run (.text "INNER") (some []), false⟩]),
    .run (.text "removing") (.steps [⟨.sh (.text "rmdir p; exit 3") Context.plainOptions, false⟩])]

def world : World :=
  { World.initial ⟨files, ⟨["p"], 1⟩, ⟨[], []⟩, Assoc.empty⟩ ["runner"] with
    abbreviations := Assoc.ofList [("r", statements)] }

def host : Host := fun spawn _ m =>
  ⟨.ok 3, ByteArray.empty, ByteArray.empty, if spawn.command = ["exit 3"] then m.files else m.files.remove ["p"], m.input.rest⟩

def runfile : Path := ⟨1, ["Runfile"]⟩

/-- The state in which the settings have been read. -/
def configured : World := after (configure runfile.parent) (after (Runfile.locate none) (begun world))

def manager : Manager := (outcome (load default runfile) configured).toOption.get (by decide +kernel)

/-- The state in which the task is run. -/
def state : World :=
  ({ after (load default runfile) configured with argv := ["runner"] } : World).told s!"In {runfile.parent}."

/-- How the call of the outer task comes to its body. -/
def outer : Beginning := (manager.begins ⟨1000, "outer", [], state⟩).get (by decide +kernel)

/-- The state in which the outer body begins. -/
def outerState : World := (state.starting outer.task [] outer.inside outer.previous).entered outer.task []

theorem steps_outer : outer.steps ≠ [] := List.isEmpty_eq_false_iff.1 (by decide +kernel)

/-- The call that the outer body makes. -/
def call : String × List Data :=
  ((manager.contextOf host 999 outer.task []).asks (outer.steps.head steps_outer).action outerState).get (by decide +kernel)

/-- How this call comes to the inner body. -/
def inner : Beginning := (manager.begins ⟨999, call.1, call.2, outerState⟩).get (by decide +kernel)

/-- The state in which the inner body begins. -/
def innerState : World := (outerState.starting inner.task call.2 inner.inside inner.previous).entered inner.task call.2

theorem steps_inner : inner.steps ≠ [] := List.isEmpty_eq_false_iff.1 (by decide +kernel)

/-- The command that the inner body runs. -/
def command : Data × CommandOptions :=
  ((manager.contextOf host 998 inner.task call.2).spawns (inner.steps.head steps_inner).action innerState).get
    (by decide +kernel)

end FailingCommands

end Invocation
end TaskRunner
