import TaskRunner.Invocation
import TaskRunner.Proofs.Lemmas.Histories

/-!
# What a run leaves alone

The parts of an invocation, and what each of them cannot change. The statements of a Runfile write, bind names, declare and move
about, and leave only events of their own behind (`Undisturbed.evaluate`); the stages before a task is run change no file and enter
no body (`Quiet`); and a body can do much, but takes no event back (`Grows`).
-/

namespace TaskRunner
namespace Run

open Runfile

variable {α β : Type} {R : World → World → Prop}

/-! ## Runfiles -/

/-- A relation that is not broken by what is written to the standard error output. -/
structure Written (R : World → World → Prop) : Prop extends Preserving R where
  err : ∀ w more, R w { w with err := w.err ++ more }

/-- A relation that is not broken by what is written, or by what is asked of the declarations of a Runfile. -/
structure Asked (R : World → World → Prop) : Prop extends Written R where
  out : ∀ w more, R w { w with out := w.out ++ more }
  asked : ∀ w scope q, R w (w.withDeclarations scope ((w.declarationsOf scope).perform q))

/-- A relation that nothing breaks which the statements of a Runfile do. -/
structure Undisturbed (R : World → World → Prop) : Prop extends Asked R where
  bound : ∀ w scope name v, R w (w.binding scope name v)
  opened : ∀ w s, R w { w with scopes := w.scopes.push s }
  closed : ∀ w scope, R w (w.withDeclarations scope (w.declarationsOf scope).close)
  handles : ∀ w handles, R w { w with handles }
  place : ∀ w place, R w { w with machine := { w.machine with place } }
  got : ∀ w v, R w { w with events := w.events.push (.got v) }
  caught : ∀ w f, R w { w with events := w.events.push (.caught f) }

theorem Preserving.bindings (h : Preserving R) (scope : ScopeId) : Keeps R (Run.bindings scope) := h.bind h.get fun _ => h.pure _

theorem Preserving.declarations (h : Preserving R) (scope : ScopeId) : Keeps R (Run.declarations scope) :=
  h.bind h.get fun _ => h.pure _

theorem Written.log (h : Written R) (logger : String) (level : Int) (message : String) :
    Keeps R (Run.log logger level message) :=
  h.bind h.get fun _ => .modify fun w => h.err w _

theorem Undisturbed.bindName (h : Undisturbed R) (scope : ScopeId) (name : String) (v : Value) :
    Keeps R (Run.bind scope name v) := fun w => h.bound w scope name v

theorem Undisturbed.changeDirectory (h : Undisturbed R) (path : String) : Keeps R (Run.change (·.changeDirectory path)) := by
  refine h.change fun w m hm => ?_
  unfold Machine.changeDirectory at hm
  cases hp : Machine.refuse path (w.machine.files.enter w.machine.place path) with
  | ok place =>
    rw [hp] at hm
    cases hm
    exact h.place w place
  | error f =>
    rw [hp] at hm
    cases hm

theorem Asked.describe (h : Asked R) (scope : ScopeId) (text : String) : Keeps R (describe scope text) := by
  intro w
  have hask := h.asked w scope (.describe text)
  unfold Runfile.describe
  rw [after_bind_ok (declarations_apply scope w)]
  rw [Declarations.perform, Declarations.answer] at hask
  cases hd : (w.declarationsOf scope).describe text with
  | ok d =>
    rw [hd] at hask
    exact hask
  | error f => exact h.refl w

theorem Asked.declare (h : Asked R) (scope : ScopeId) (name : String) (body : Option Body) :
    Keeps R (declare scope name body) := by
  intro w
  have hask := h.asked w scope (.declare name body)
  have hput (d : Declarations) : Run.putDeclarations scope d w = .ok () (w.withDeclarations scope d) := rfl
  unfold Runfile.declare
  rw [Declarations.perform_declare] at hask
  rw [after_bind_ok (declarations_apply scope w), after_bind_ok (hput _)]
  refine h.trans hask ?_
  cases ((w.declarationsOf scope).declare name body).1 with
  | error f => exact h.refl _
  | ok declared =>
    cases declared with
    | task t => exact h.bind (h.log _ _ _) (fun _ => h.pure _) _
    | reservation r => exact h.refl _

theorem Asked.decorate (h : Asked R) (scope : ScopeId) (r : Reservation) (body : Body) : Keeps R (decorate scope r body) := by
  intro w
  have hask := h.asked w scope (.apply r body)
  have hput (d : Declarations) : Run.putDeclarations scope d w = .ok () (w.withDeclarations scope d) := rfl
  unfold Runfile.decorate
  rw [Declarations.perform_application] at hask
  rw [after_bind_ok (declarations_apply scope w), after_bind_ok (hput _)]
  exact h.trans hask (h.bind (h.ofExcept _) (fun _ => h.bind (h.log _ _ _) fun _ => h.pure _) _)

theorem Asked.call (h : Asked R) (f : Value) (args : List Body) : Keeps R (call f args) := by
  unfold Runfile.call
  split
  · exact h.pure _
  · split
    · exact h.fail _
    · exact h.describe _ _
    · exact h.fail _
  · split
    · exact h.fail _
    · exact h.declare _ _ _
    · exact h.declare _ _ _
    · exact h.fail _
  · split
    · exact h.fail _
    · exact h.decorate _ _ _
    · exact h.fail _
  · exact h.fail _

theorem Preserving.lookup (h : Preserving R) (scope : ScopeId) (name : String) : Keeps R (lookup scope name) := by
  refine h.bind (h.bindings scope) fun names => ?_
  split
  · exact h.pure _
  · exact h.fail _

theorem Preserving.handled (h : Preserving R) (handle : String) : Keeps R (handled handle) := by
  refine h.bind h.get fun w => ?_
  split
  · exact h.pure _
  · exact h.fail _

theorem Asked.callNamed (h : Asked R) (scope : ScopeId) (name : String) (args : List Body) :
    Keeps R (callNamed scope name args) :=
  h.bind (h.lookup scope name) fun f => h.call f args

theorem Asked.declareAll (h : Asked R) (scope : ScopeId) (names : List Data) :
    Keeps R (declareAll scope names) := by
  induction names with
  | nil => exact h.pure _
  | cons name rest ih => exact h.bind (h.callNamed scope "run" _) fun _ => h.bind ih fun _ => h.pure _

theorem Asked.decorateAll (h : Asked R) (body : Body) (vs : List Value) : Keeps R (decorateAll body vs) := by
  induction vs with
  | nil => exact h.pure _
  | cons v rest ih => exact h.bind (h.call v _) fun _ => ih

mutual

theorem Undisturbed.execute (h : Undisturbed R) (scope : ScopeId) (st : Statement) : Keeps R (execute scope st) := by
  cases st with
  | doc text => exact h.bind (h.callNamed scope "doc" _) fun _ => h.pure _
  | run name body => exact h.bind (h.callNamed scope "run" _) fun _ => h.pure _
  | declare name handle => exact h.bind (h.callNamed scope "run" _) fun v => .modify fun w => h.handles w _
  | apply handle body => exact h.bind (h.handled handle) fun v => h.bind (h.call v _) fun _ => h.pure _
  | deco names body => exact h.bind (h.declareAll scope names) fun vs => h.decorateAll body _
  | set name value => exact h.bindName scope name _
  | define name => exact h.bindName scope name _
  | get name => exact h.bind (h.lookup scope name) fun v => .modify fun w => h.got w v
  | raise label args => exact h.throw _
  | attempt body =>
    refine h.tryCatch (h.executeAll scope body) fun stop => ?_
    cases stop with
    | failure f => exact .modify fun w => h.caught w f
    | interrupt | exit | exhausted => exact h.throw _
  | print text => exact fun w => h.out w _
  | chdir path =>
    rw [Runfile.execute]
    exact h.changeDirectory path

theorem Undisturbed.executeAll (h : Undisturbed R) (scope : ScopeId) (sts : List Statement) :
    Keeps R (executeAll scope sts) := by
  cases sts with
  | nil => exact h.pure _
  | cons st rest => exact h.bind (h.execute scope st) fun _ => h.executeAll scope rest

end

theorem Preserving.readStatements (h : Preserving R) (path : Path) : Keeps R (readStatements path) := by
  refine h.bind (h.observe _) fun text => h.bind h.get fun w => ?_
  split
  · exact h.pure _
  · exact h.fail _

theorem Undisturbed.closeScope (h : Undisturbed R) (scope : ScopeId) : Keeps R (closeScope scope) :=
  fun w => h.closed w scope

theorem Undisturbed.withOwnHandles (h : Undisturbed R) {action : Run α} (ha : Keeps R action) :
    Keeps R (withOwnHandles action) :=
  have hput (handles : Assoc String Value) : Keeps R (modify fun w : World => { w with handles }) :=
    .modify fun w => h.handles w _
  h.bind h.get fun w => h.bind (hput Assoc.empty) fun _ =>
    h.bind (h.tryCatch ha fun stop => h.bind (hput w.handles) fun _ => h.throw stop) fun _ =>
      h.bind (hput w.handles) fun _ => h.pure _

theorem Undisturbed.openScope (h : Undisturbed R) (directory : Path) : Keeps R (openScope directory) :=
  h.bind (h.observe _) fun _ w => h.opened w _

/-- The evaluation of a Runfile keeps what its statements do not disturb. -/
theorem Undisturbed.evaluate (h : Undisturbed R) (scope : ScopeId) (path : Path) : Keeps R (evaluate scope path) := by
  have hload : Keeps R (do Runfile.executeAll scope (← Runfile.readStatements path)) :=
    h.bind (h.readStatements path) fun sts => h.executeAll scope sts
  have htry (stop : Stop) : Keeps R (do Runfile.closeScope scope; throw (wrapStop path stop) : Run Unit) :=
    h.bind (h.closeScope scope) fun _ => h.throw _
  have hend : Keeps R (do Runfile.closeScope scope; Run.ofExcept (← Run.declarations scope).settle) :=
    h.bind (h.closeScope scope) fun _ => h.bind (h.declarations scope) fun _ => h.ofExcept _
  refine h.bind (h.declarations scope) fun d => ?_
  split
  · exact h.bind (h.fail _) fun _ => h.bind (h.bindName scope _ _) fun _ =>
      h.bind (h.tryCatch (h.withOwnHandles hload) htry) fun _ => hend
  · exact h.bind (h.bindName scope _ _) fun _ => h.bind (h.tryCatch (h.withOwnHandles hload) htry) fun _ => hend

/-! ## The stages of an invocation -/

theorem Written.notify (h : Written R) (line : String) : Keeps R (Run.notify line) := fun w => h.err w _

theorem Written.look (h : Written R) (l : Location) : Keeps R (searchUp.look l) := by
  refine h.bind (h.log _ _ _) fun _ => h.bind (h.observe _) fun found => ?_
  split
  · exact h.pure _
  · exact h.pure _

theorem Written.searchUp (h : Written R) (l : Location) : Keeps R (searchUp l) := by
  induction l with
  | nil => exact h.look []
  | cons name around ih =>
    refine h.bind (h.look (name :: around)) fun found => ?_
    cases found with
    | some path => exact h.pure _
    | none => exact ih

theorem Written.locate (h : Written R) (start : Option Path) : Keeps R (locate start) := by
  have hfrom (p : Path) : Keeps R (do Runfile.searchUp (← Run.observe (·.resolve p))) :=
    h.bind (h.observe _) fun l => h.searchUp l
  refine h.bind ?_ fun found => ?_
  · cases start with
    | some p => exact hfrom p
    | none => exact h.bind (h.observe _) fun _ => hfrom _
  · cases found with
    | some path => exact h.pure _
    | none => exact h.fail _

theorem Undisturbed.load (h : Undisturbed R) (m : Manager) (path : Path) : Keeps R (m.load path) :=
  h.bind (h.observe _) fun _ => h.bind (h.log _ _ _) fun _ => h.bind (h.openScope _) fun scope =>
    h.bind (h.evaluate scope _) fun _ => h.bind (h.ofExcept _) fun _ => h.pure _

theorem Written.showHelp (h : Written R) (m : Manager) : Keeps R m.showHelp := by
  unfold Manager.showHelp
  induction m.registry.help with
  | nil => exact h.pure _
  | cons line rest ih => exact h.bind (h.notify line) fun _ => ih

theorem Preserving.setupLog (h : Preserving R) (hlog : ∀ w log, R w { w with log }) (level : Data) :
    Keeps R (Run.setupLog level) :=
  h.bind h.get fun _ => h.bind (h.ofExcept _) fun log => .modify fun w => hlog w log

theorem Written.configure (h : Written R) (hlog : ∀ w log, R w { w with log }) (directory : Path) :
    Keeps R (Invocation.configure directory) :=
  h.bind (h.observe _) fun _ => h.bind (h.setupLog hlog _) fun _ => h.bind (h.log _ _ _) fun _ => h.pure _

theorem Undisturbed.loadRunfile (h : Undisturbed R) (settings : Settings) (runfile : Path) :
    Keeps R (Invocation.load settings runfile) :=
  h.bind (h.load _ _) fun _ => h.bind (h.log _ _ _) fun _ => h.pure _

/-- A failure is reported without further changes. -/
theorem Written.concludeFailure (h : Written R) (f : Failure) : Keeps R (Invocation.concludeFailure f) := by
  have hsay (message : String) (c : Conclusion) : Keeps R (do Invocation.say message; return c) :=
    h.bind (h.notify _) fun _ => h.pure _
  cases f with
  | load => exact h.bind (h.log _ _ _) fun _ => hsay _ _
  | stated | closed | settings | noRunfile | duplicateTask | unknownTask | illFormedTask | command => exact hsay _ _
  | child | endOfInput => exact hsay _ _
  | refused | linkLoop | undecodable | nullCharacter | illegalVariable | noMember | notInScope | hiddenMember | unboundName
  | notCallable | unknownLevel | badLevel | badCall | unknownHandle | longNumber | raised => exact h.pure _

theorem Written.conclude (h : Written R) (stop : Stop) : Keeps R (Invocation.conclude stop) := by
  cases stop with
  | failure f => exact h.concludeFailure f
  | interrupt args => exact h.pure _
  | exit args =>
    unfold Invocation.conclude
    dsimp only
    split
    · exact h.pure _
    · exact h.pure _
  | exhausted => exact h.pure _

end Run

/-- Whether an event says that a body is entered. -/
def Event.isEntered : Event → Bool
  | .entered .. => true
  | _ => false

/-- No file is changed, and no body is entered. -/
def Quiet (w w' : World) : Prop :=
  w'.machine.files = w.machine.files ∧
    ∃ more, w'.events.toList = w.events.toList ++ more ∧ ∀ e ∈ more, e.isEntered = false

/-- No event is taken back. -/
def Grows (w w' : World) : Prop := w.events.toList <+: w'.events.toList

namespace Run

theorem quiet_of_eq {w w' : World} (hfiles : w'.machine.files = w.machine.files) (hevents : w'.events = w.events) :
    Quiet w w' := ⟨hfiles, [], by rw [hevents, List.append_nil], nofun⟩

theorem quiet_push {w : World} {e : Event} (h : e.isEntered = false) : Quiet w { w with events := w.events.push e } :=
  ⟨rfl, [e], Array.toList_push, fun e' he' => by rw [List.mem_singleton.1 he', h]⟩

theorem undisturbed_quiet : Undisturbed Quiet where
  refl := fun _ => quiet_of_eq rfl rfl
  trans := by
    rintro w w' w'' ⟨hfiles, more, hevents, hmore⟩ ⟨hfiles', more', hevents', hmore'⟩
    refine ⟨hfiles'.trans hfiles, more ++ more', by rw [hevents', hevents, List.append_assoc], fun e he => ?_⟩
    exact (List.mem_append.1 he).elim (hmore e) (hmore' e)
  err := fun _ _ => quiet_of_eq rfl rfl
  out := fun _ _ => quiet_of_eq rfl rfl
  asked := fun _ _ _ => quiet_of_eq rfl rfl
  bound := fun _ _ _ _ => quiet_of_eq rfl rfl
  opened := fun _ _ => quiet_of_eq rfl rfl
  closed := fun _ _ => quiet_of_eq rfl rfl
  handles := fun _ _ => quiet_of_eq rfl rfl
  place := fun _ _ => quiet_of_eq rfl rfl
  got := fun _ _ => quiet_push rfl
  caught := fun _ _ => quiet_push rfl

/-! ## Bodies -/

/-- A relation that is not broken by what is written to the standard error output, or by a change of the machine. -/
structure Moved (R : World → World → Prop) : Prop extends Written R where
  machine : ∀ w machine, R w { w with machine }

/-- A relation that nothing breaks which a step of a body does by itself, unless it binds a name. -/
structure Stepping (R : World → World → Prop) : Prop extends Asked R, Moved R where
  done : ∀ w step v cwd, R w { w with events := w.events.push (.done step v cwd) }
  recovered : ∀ w step f cwd, R w { w with events := w.events.push (.recovered step f cwd) }

/-- A relation that nothing breaks which a step of a body or a statement of a Runfile does by itself. -/
structure Bodily (R : World → World → Prop) : Prop extends Undisturbed R, Stepping R

/-- A relation that looks at nothing but the scopes is not broken by a step, if it is not broken by a request. -/
theorem stepping_of_scopes (h : Preserving R) (hsame : ∀ {w w' : World}, w'.scopes = w.scopes → R w w')
    (asked : ∀ w scope q, R w (w.withDeclarations scope ((w.declarationsOf scope).perform q))) : Stepping R where
  toPreserving := h
  err := fun _ _ => hsame rfl
  out := fun _ _ => hsame rfl
  asked := asked
  machine := fun _ _ => hsame rfl
  done := fun _ _ _ _ => hsame rfl
  recovered := fun _ _ _ _ => hsame rfl

/-- It is not broken by a statement either, if it is not broken by what a statement does to a scope. -/
theorem bodily_of_scopes (h : Preserving R) (hsame : ∀ {w w' : World}, w'.scopes = w.scopes → R w w')
    (asked : ∀ w scope q, R w (w.withDeclarations scope ((w.declarationsOf scope).perform q)))
    (bound : ∀ w scope name v, R w (w.binding scope name v)) (opened : ∀ w s, R w { w with scopes := w.scopes.push s })
    (closed : ∀ w scope, R w (w.withDeclarations scope (w.declarationsOf scope).close)) : Bodily R where
  toStepping := stepping_of_scopes h hsame asked
  bound := bound
  opened := opened
  closed := closed
  handles := fun _ _ => hsame rfl
  place := fun _ _ => hsame rfl
  got := fun _ _ => hsame rfl
  caught := fun _ _ => hsame rfl

/-- No scope is taken away. -/
theorem bodily_scopes : Bodily fun w w' => w.scopes.size ≤ w'.scopes.size :=
  have hsame {scopes scopes' : Array Scope} (h : scopes'.size = scopes.size) : scopes.size ≤ scopes'.size := Nat.le_of_eq h.symm
  bodily_of_scopes ⟨fun _ => Nat.le_refl _, Nat.le_trans⟩ (fun h => hsame (congrArg Array.size h))
    (fun _ _ _ => hsame Array.size_modify) (fun _ _ _ _ => hsame Array.size_modify)
    (fun _ s => Nat.le_trans (Nat.le_succ _) (Nat.le_of_eq (Array.size_push s).symm)) (fun _ _ => hsame Array.size_modify)

theorem Stepping.changeMachine (h : Stepping R) (f : Machine → Except Failure Machine) : Keeps R (Run.change f) :=
  h.change fun w m _ => h.machine w m

theorem Stepping.host (h : Stepping R) (host : Host) (spawn : Spawn) (capture : Bool) : Keeps R (host.run spawn capture) := by
  refine h.bind h.get fun w => h.bind (.modify fun w => h.machine w _) fun _ => ?_
  cases capture with
  | true =>
    exact h.bind (h.ofExcept _) fun _ => h.bind (h.ofExcept _) fun _ => h.bind (h.ofExcept _) fun _ => h.pure _
  | false =>
    exact h.bind (.modify fun w => h.out w _) fun _ => h.bind (.modify fun w => h.err w _) fun _ =>
      h.bind (h.ofExcept _) fun _ => h.pure _

theorem Stepping.command (h : Stepping R) (c : Context) (given : Data) (options : CommandOptions) :
    Keeps R (c.command given options) := by
  have hrun : Keeps R (do
      let cwd ← Run.observe Machine.workingDirectory
      Run.debug "runx.run_context" s!"sh in {Location.toString cwd}: {given.display}"
      let spawn ← Run.ofExcept (Spawn.of given c.commands.shell options.env (← MonadState.get).machine.environment)
      let completed ← c.host.run spawn options.capture
      if options.check ∧ completed.returncode ≠ 0 then Run.fail (.command given.display (.int completed.returncode))
      return Value.completed completed) := by
    refine h.bind (h.observe _) fun _ => h.bind (h.log _ _ _) fun _ => h.bind h.get fun _ =>
      h.bind (h.ofExcept _) fun _ => h.bind (h.host _ _ _) fun completed => ?_
    split
    · exact h.bind (h.fail _) fun _ => h.pure _
    · exact h.pure _
  unfold Context.command
  dsimp only
  split
  · exact h.bind (h.notify _) fun _ => hrun
  · exact hrun

theorem Preserving.lookupMember (h : Preserving R) (c : Context) (name : String) : Keeps R (c.lookup name) := by
  unfold Context.lookup
  split
  · exact h.pure _
  · split
    · exact h.fail _
    · refine h.bind (h.bindings _) fun names => ?_
      split
      · exact h.pure _
      · exact h.fail _

/-- To look a name up is to change nothing. -/
theorem after_lookup (c : Context) (name : String) (w : World) : after (c.lookup name) w = w := by
  have hp : Preserving fun w w' : World => w' = w := ⟨fun _ => rfl, fun h h' => h'.trans h⟩
  exact hp.lookupMember c name w

end Run

/-- Whether a step ends the body. -/
def Action.isEnd : Action → Bool
  | .give _ | .giveLast => true
  | _ => false

namespace Context

/-- A step that does not end the body is performed, and the rest of the body goes on with its result. -/
theorem steps_next (c : Context) {s : Step} (h : s.action.isEnd = false) (last : Value) (rest : List Step) :
    c.steps last (s :: rest) = c.step s >>= fun v => c.steps v rest := by
  rw [Context.steps]
  split
  · rename_i heq
    rw [heq] at h
    cases h
  · rename_i heq
    rw [heq] at h
    cases h
  · rfl

/-- A step that ends the body has no effect. -/
theorem steps_end {s : Step} (h : s.action.isEnd = true) (last : Value) (rest : List Step) :
    ∃ v, ∀ c : Context, c.steps last (s :: rest) = pure v := by
  unfold Context.steps
  cases hs : s.action with
  | give value => exact ⟨_, fun _ => rfl⟩
  | giveLast => exact ⟨_, fun _ => rfl⟩
  | run | chain | sh | get | call | set | print | input | chdir | mkdir | rmdir | raise =>
    rw [hs] at h
    cases h

/-- The task that a value names, and arguments for it. -/
def named : Data → List Data → Option (String × List Data)
  | .text name, args => some (name, args)
  | _, _ => none

/-- The task that a step runs in a state, and the arguments that it runs it with; none if the step runs no task. -/
def asks (c : Context) (a : Action) (w : World) : Option (String × List Data) :=
  match a with
  | .run name args => named name (args.getD c.args)
  | .chain =>
    match c.args with
    | [] => none
    | name :: rest => named name rest
  | .call name args =>
    match c.lookup name w, args with
    | .ok (.function .run) _, task :: rest => named task rest
    | _, _ => none
  | _ => none

end Context

namespace Run

variable {α β : Type} {R : World → World → Prop} {c : Context} {a : Action} {w : World}

theorem runNamed_of_named {value : Data} {args args' : List Data} {name : String}
    (h : Context.named value args = some (name, args')) : c.runNamed value args = c.dispatch name args' := by
  cases value with
  | text => cases h; rfl
  | null | flag | int | float | moment | list | table => cases h

theorem runNamed_of_not_named {value : Data} {args : List Data} (h : Context.named value args = none) (w : World) :
    ∃ f, c.runNamed value args w = .error (.failure f) w := by
  cases value with
  | text => cases h
  | null | flag | int | float | moment | list | table => exact ⟨_, rfl⟩

/-- A step that runs a task runs it in the state that the step begins in. -/
theorem perform_of_asks {name : String} {args : List Data} (h : c.asks a w = some (name, args)) :
    c.perform a w = c.dispatch name args w := by
  cases a with
  | run value given => exact congrFun (runNamed_of_named h) w
  | chain =>
    unfold Context.asks at h
    unfold Context.perform
    dsimp only at h ⊢
    cases hargs : c.args with
    | nil =>
      rw [hargs] at h
      cases h
    | cons value rest =>
      rw [hargs] at h
      exact congrFun (runNamed_of_named h) w
  | call member given =>
    unfold Context.asks at h
    dsimp only at h
    split at h
    · rename_i w' value rest hlookup
      have hw : after (c.lookup member) w = w := after_lookup c member w
      rw [after_of_ok hlookup] at hw
      rw [hw] at hlookup
      exact (bind_ok hlookup _).trans (congrFun (runNamed_of_named h) w)
    · cases h
  | sh | get | set | print | input | chdir | mkdir | rmdir | raise | give | giveLast => cases h

/-- A step that runs no task keeps what steps do not break by themselves, where this is so of a name that it binds. -/
theorem Stepping.unasked (h : Stepping R)
    (hbinds : ∀ name value, a = .set name value → R w (w.binding c.task.scope name (.data value)))
    (hnone : c.asks a w = none) : R w (after (c.perform a) w) := by
  have hnamed {value : Data} {args : List Data} (hn : Context.named value args = none) :
      R w (after (c.runNamed value args) w) := by
    obtain ⟨f, hf⟩ := runNamed_of_not_named (c := c) hn w
    rw [after_of_error hf]
    exact h.refl w
  cases a with
  | run value args => exact hnamed hnone
  | chain =>
    unfold Context.asks at hnone
    unfold Context.perform
    dsimp only at hnone ⊢
    cases hargs : c.args with
    | nil => exact h.refl w
    | cons value rest =>
      rw [hargs] at hnone
      exact hnamed hnone
  | call member args =>
    have hw := after_lookup c member w
    show R w (after (c.lookup member >>= fun f => c.call f args) w)
    cases hl : c.lookup member w with
    | error stop w' =>
      rw [after_of_error hl] at hw
      rw [after_bind_error hl, hw]
      exact h.refl w
    | ok f w' =>
      rw [after_of_ok hl] at hw
      rw [after_bind_ok hl, hw]
      unfold Context.asks at hnone
      dsimp only at hnone
      rw [hl] at hnone
      unfold Context.call
      split
      · cases args with
        | nil => exact h.refl w
        | cons value rest => exact hnamed hnone
      · split
        · exact h.refl w
        · exact h.command c _ _ w
        · exact h.refl w
      · exact h.call _ _ w
  | sh line options => exact h.command c _ _ w
  | get name => exact h.lookupMember c name w
  | set name value => exact hbinds name value rfl
  | print text => exact h.bind (.modify fun w => h.out w _) (fun _ => h.pure _) w
  | input => exact h.bind (h.observe _) (fun _ => h.bind (.modify fun w => h.machine w _) fun _ => h.pure _) w
  | chdir path | mkdir path | rmdir path => exact h.bind (h.changeMachine _) (fun _ => h.pure _) w
  | raise label args => exact h.throw _ w
  | give value | giveLast => exact h.pure _ w

theorem Bodily.perform (h : Bodily R) (hdispatch : ∀ name args, Keeps R (c.dispatch name args)) (a : Action) :
    Keeps R (c.perform a) := by
  intro w
  cases hasks : c.asks a w with
  | none => exact h.unasked (fun name value _ => h.bound w _ name _) hasks
  | some call =>
    rw [after_congr (perform_of_asks hasks)]
    exact hdispatch _ _ w

/-- After what a step does it only leaves its event behind. -/
theorem Stepping.recorded (h : Stepping R) (c : Context) (s : Step) (w : World) :
    R (after (c.perform s.action) w) (after (c.step s) w) := by
  unfold Context.step
  cases hp : c.perform s.action w with
  | ok v w' =>
    have hbody : (do
        let v ← c.perform s.action
        Run.record (.done s.action.name v (← Run.cwd?))
        return v) w = .ok v { w' with events := w'.events.push (.done s.action.name v w'.cwd?) } := bind_ok hp _
    rw [after_of_ok hp, after, tryCatch_apply, hbody]
    exact h.done w' _ _ _
  | error stop w' =>
    rw [after_of_error hp, after, tryCatch_apply, bind_error hp]
    dsimp only
    cases stop with
    | failure f =>
      cases s.catches with
      | true => exact h.recovered w' _ _ _
      | false => exact h.refl w'
    | interrupt | exit | exhausted => exact h.refl w'

theorem Bodily.step (h : Bodily R) (hdispatch : ∀ name args, Keeps R (c.dispatch name args)) (s : Step) :
    Keeps R (c.step s) :=
  fun w => h.trans (h.perform hdispatch s.action w) (h.recorded c s w)

theorem Bodily.steps (h : Bodily R) (hdispatch : ∀ name args, Keeps R (c.dispatch name args)) (body : List Step) :
    ∀ last, Keeps R (c.steps last body) := by
  induction body with
  | nil => exact fun _ => h.pure _
  | cons s rest ih =>
    intro last
    rcases Bool.eq_false_or_eq_true s.action.isEnd with hend | hend
    · obtain ⟨v, hv⟩ := Context.steps_end hend last rest
      rw [hv]
      exact h.pure v
    · rw [c.steps_next hend]
      exact h.bind (h.step hdispatch s) fun v => ih v

theorem Bodily.execute (h : Bodily R)
    (hentered : ∀ w, R w { w with events := w.events.push (.entered c.task.name c.args c.task.directory w.cwd?) })
    (hdispatch : ∀ name args, Keeps R (c.dispatch name args)) : Keeps R c.execute := by
  unfold Context.execute
  split
  · exact h.fail _
  · refine fun w => ?_
    rw [after_bind_ok (cwd?_apply w), after_bind_ok (record_apply _ w)]
    exact h.trans (hentered w) (h.steps hdispatch _ _ _)

theorem Stepping.withDirectory (h : Stepping R) (path : Path) {action : Run α} (ha : Keeps R action) :
    Keeps R (withDirectory path action) := by
  have hback (previous : Location) : Keeps R (do
      Run.change (·.changeDirectory (Location.toString previous))
      Run.debug "runx.task" s!"chdir {Location.toString previous} <- {path}") :=
    h.bind (h.changeMachine _) fun _ => h.log _ _ _
  exact h.bind (h.observe _) fun previous => h.bind (h.changeMachine _) fun _ => h.bind (h.log _ _ _) fun _ =>
    h.bind (h.tryCatch ha fun stop => h.bind (hback previous) fun _ => h.throw stop) fun _ =>
      h.bind (hback previous) fun _ => h.pure _

/-- Whatever tasks run, and whatever they run in turn, keeps what steps do not break by themselves and an entry does not break. -/
theorem Bodily.runTask (h : Bodily R)
    (hentered : ∀ w task args directory cwd, R w { w with events := w.events.push (.entered task args directory cwd) })
    (m : Manager) (host : Host) (depth : Nat) : ∀ name args, Keeps R (m.runTask host depth name args) := by
  induction depth with
  | zero => exact fun _ _ => h.throw _
  | succ depth ih =>
    intro name args
    unfold Manager.runTask
    split
    · exact h.fail _
    · exact h.bind (h.log _ _ _) fun _ => h.withDirectory _ (h.execute (fun w => hentered w _ _ _ _) ih)

/-! ## No event is taken back -/

theorem grows_of_eq {w w' : World} (h : w'.events = w.events) : Grows w w' := ⟨[], by rw [List.append_nil, h]⟩

theorem grows_push (w : World) (e : Event) : Grows w { w with events := w.events.push e } := by
  show w.events.toList <+: (w.events.push e).toList
  rw [Array.toList_push]
  exact List.prefix_append _ _

theorem undisturbed_grows : Undisturbed Grows where
  refl := fun _ => grows_of_eq rfl
  trans := List.IsPrefix.trans
  err := fun _ _ => grows_of_eq rfl
  out := fun _ _ => grows_of_eq rfl
  asked := fun _ _ _ => grows_of_eq rfl
  bound := fun _ _ _ _ => grows_of_eq rfl
  opened := fun _ _ => grows_of_eq rfl
  closed := fun _ _ => grows_of_eq rfl
  handles := fun _ _ => grows_of_eq rfl
  place := fun _ _ => grows_of_eq rfl
  got := fun w _ => grows_push w _
  caught := fun w _ => grows_push w _

theorem bodily_grows : Bodily Grows where
  toUndisturbed := undisturbed_grows
  machine := fun _ _ => grows_of_eq rfl
  done := fun w _ _ _ => grows_push w _
  recovered := fun w _ _ _ => grows_push w _

theorem grows_modify {f : World → World} (h : ∀ w, (f w).events = w.events) : Keeps Grows (modify f : Run Unit) :=
  .modify fun w => grows_of_eq (h w)

/-- Whatever tasks run, and whatever they run in turn, no event is taken back. -/
theorem grows_runTask (m : Manager) (host : Host) (depth : Nat) :
    ∀ name args, Keeps Grows (m.runTask host depth name args) :=
  bodily_grows.runTask (fun w _ _ _ _ => grows_push w _) m host depth

end Run

/-! ## The first body that is entered -/

/-- The first entry of a body between a state and a later one. -/
def World.firstEntered (w w' : World) : Option Event := (w'.events.toList.drop w.events.size).find? Event.isEntered

namespace Run

variable {α β : Type} {w w₁ w' : World} {e : Event}

theorem new_events {more : List Event} (h : w'.events.toList = w.events.toList ++ more) :
    w'.events.toList.drop w.events.size = more := by
  rw [h, ← Array.length_toList, List.drop_left]

/-- Which body is entered first is said by the events alone. -/
theorem firstEntered_congr {w₂ w'' : World} (h : w.events = w₂.events) (h' : w'.events = w''.events) :
    w.firstEntered w' = w₂.firstEntered w'' := by
  rw [World.firstEntered, World.firstEntered, h, h']

theorem firstEntered_self (w : World) : w.firstEntered w = none := by
  rw [World.firstEntered, new_events (List.append_nil _).symm]
  rfl

theorem find?_isEntered_eq_none {more : List Event} (h : ∀ e ∈ more, e.isEntered = false) :
    more.find? Event.isEntered = none := by
  rw [List.find?_eq_none]
  intro e he
  rw [h e he]
  exact Bool.false_ne_true

/-- What is quiet enters no body. -/
theorem firstEntered_of_quiet (h : Quiet w w') : w.firstEntered w' = none := by
  obtain ⟨-, more, hmore, hnone⟩ := h
  rw [World.firstEntered, new_events hmore, find?_isEntered_eq_none hnone]

/-- The first body is entered after what is quiet before. -/
theorem firstEntered_after_quiet (h : Quiet w w₁) (hg : Grows w₁ w') : w.firstEntered w' = w₁.firstEntered w' := by
  obtain ⟨-, more, hmore, hnone⟩ := h
  obtain ⟨rest, hrest⟩ := hg
  have hall : w'.events.toList = w.events.toList ++ (more ++ rest) := by
    rw [← hrest, hmore, List.append_assoc]
  rw [World.firstEntered, World.firstEntered, new_events hall, new_events hrest.symm, List.find?_append,
    find?_isEntered_eq_none hnone, Option.none_or]

/-- Where a body is entered after a quiet stage, the stage has ended. -/
theorem firstEntered_bind {x : Run α} {f : α → Run β} (hx : Keeps Quiet x) (hf : ∀ a, Keeps Grows (f a))
    (h : w.firstEntered (after (x >>= f) w) = some e) :
    ∃ a w₁, x w = .ok a w₁ ∧ Quiet w w₁ ∧ w₁.firstEntered (after (f a) w₁) = some e := by
  have hq := hx w
  cases hxw : x w with
  | ok a w₁ =>
    rw [after_of_ok hxw] at hq
    rw [after_bind_ok hxw] at h
    exact ⟨a, w₁, rfl, hq, (firstEntered_after_quiet hq (hf a w₁)).symm.trans h⟩
  | error stop w₁ =>
    rw [after_of_error hxw] at hq
    rw [after_bind_error hxw, firstEntered_of_quiet hq] at h
    cases h

theorem after_map (x : Run α) (g : α → β) (w : World) : after (x >>= fun a => pure (g a)) w = after x w := by
  cases h : x w with
  | ok a w₁ =>
    rw [after_of_ok h, after_bind_ok h]
    rfl
  | error stop w₁ => rw [after_of_error h, after_bind_error h]

/-- The first body that is entered when a body is executed is that body. -/
theorem firstEntered_execute (c : Context) (hdispatch : ∀ name args, Keeps Grows (c.dispatch name args))
    (h : w.firstEntered (after c.execute w) = some e) :
    e = .entered c.task.name c.args c.task.directory w.cwd? := by
  unfold Context.execute at h
  split at h
  · rw [after_of_error (fail_apply _ w), firstEntered_of_quiet (undisturbed_quiet.refl w)] at h
    cases h
  · rename_i body _
    rw [after_bind_ok (cwd?_apply w), after_bind_ok (record_apply _ w)] at h
    obtain ⟨rest, hrest⟩ := bodily_grows.steps hdispatch body .null
      { w with events := w.events.push (.entered c.task.name c.args c.task.directory w.cwd?) }
    change (w.events.push _).toList ++ rest = _ at hrest
    rw [Array.toList_push, List.append_assoc] at hrest
    rw [World.firstEntered, new_events hrest.symm, List.cons_append, List.find?_cons_of_pos rfl] at h
    exact (Option.some.inj h).symm

end Run
end TaskRunner
