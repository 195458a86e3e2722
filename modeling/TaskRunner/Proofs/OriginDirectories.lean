import TaskRunner.FileSystem.Change
import TaskRunner.Proofs.Directories
import TaskRunner.Proofs.TaskTable

/-!
# The directories that bodies are entered in

A task belongs to the directory around the Runfile that declares it, and every call of the task begins with a change to that
directory. `runTask_enters_origin_directories` says this of each body that is entered while a task runs, at any depth: the entries
that the run leaves behind are those of the calls that are made in it, one after the other, and each call enters its body with its
own arguments, in the directory that the path of the task leads to at that moment.
-/

namespace TaskRunner

open Run

/-! ## Calls of tasks -/

/-- A call of a task: how deeply tasks may still call one another, the name, the arguments, and the state that it is made in. -/
structure TaskCall where
  depth : Nat
  name : String
  args : List Data
  state : World

/-- The steps of a body that can be run. -/
def Body.steps? : Body → Option (List Step)
  | .steps body => some body
  | .data _ => none

/-- How a call comes to its body: the task, the steps of the body, the directory that the call was made in, and the machine inside
the directory of the task. -/
structure Beginning where
  task : Task
  steps : List Step
  previous : Location
  inside : Machine

/-- The state in which the steps of a body begin. -/
def World.entered (w : World) (task : Task) (args : List Data) : World :=
  { w with events := w.events.push (.entered task.name args task.directory w.cwd?) }

/-- The calls that steps make, each followed by those that are made in it, in order; `inner` gives them for a call. -/
def Context.calls (c : Context) (inner : String → List Data → World → List TaskCall) : List Step → World → List TaskCall
  | [], _ => []
  | s :: rest, w =>
    if s.action.isEnd then []
    else
      (match c.asks s.action w with
        | some (name, args) => inner name args w
        | none => []) ++
      match c.step s w with
      | .ok _ w' => c.calls inner rest w'
      | .error _ _ => []

namespace Manager

/-- How a call comes to the body of its task, if it does. -/
def begins (m : Manager) (call : TaskCall) : Option Beginning :=
  match call.depth, m.registry.find? call.name with
  | _ + 1, some task =>
    match task.body.steps?, call.state.cwd?, call.state.machine.changeDirectory task.directory.toString with
    | some steps, some previous, .ok inside => some ⟨task, steps, previous, inside⟩
    | _, _, _ => none
  | _, _ => none

/-- The entry of a body that a call leaves behind, if it comes to the body. -/
def entered? (m : Manager) (call : TaskCall) : Option Event :=
  (m.begins call).map fun b => .entered b.task.name call.args b.task.directory b.inside.workingDirectory?

/-- A call and all that are made in it, in order. -/
def calls (m : Manager) (host : Host) : Nat → String → List Data → World → List TaskCall
  | 0, name, args, w => [⟨0, name, args, w⟩]
  | depth + 1, name, args, w =>
    ⟨depth + 1, name, args, w⟩ ::
      match m.begins ⟨depth + 1, name, args, w⟩ with
      | some b =>
        (m.contextOf host depth b.task args).calls (m.calls host depth) b.steps
          ((w.starting b.task args b.inside b.previous).entered b.task args)
      | none => []

end Manager

/-! ## Entries -/

/-- The entries of bodies that have been left behind. -/
def World.entries (w : World) : List Event := w.events.toList.filter Event.isEntered

theorem entries_congr {w w' : World} (h : w'.events = w.events) : w'.entries = w.entries := by
  rw [World.entries, World.entries, h]

theorem entries_push (w : World) (e : Event) :
    ({ w with events := w.events.push e } : World).entries = w.entries ++ [e].filter Event.isEntered := by
  show (w.events.push e).toList.filter _ = _
  rw [Array.toList_push, List.filter_append]
  rfl

theorem entries_push_other (w : World) {e : Event} (h : e.isEntered = false) :
    ({ w with events := w.events.push e } : World).entries = w.entries := by
  rw [entries_push, List.filter_cons_of_neg (by rw [h]; exact Bool.false_ne_true), List.filter_nil, List.append_nil]

/-- What a step does by itself enters no body. -/
theorem bodily_entries : Bodily fun w w' => w'.entries = w.entries where
  refl := fun _ => rfl
  trans := fun h h' => h'.trans h
  err := fun _ _ => rfl
  out := fun _ _ => rfl
  asked := fun _ _ _ => rfl
  bound := fun _ _ _ _ => rfl
  opened := fun _ _ => rfl
  closed := fun _ _ => rfl
  handles := fun _ _ => rfl
  place := fun _ _ => rfl
  got := fun w _ => entries_push_other w rfl
  caught := fun w _ => entries_push_other w rfl
  machine := fun _ _ => rfl
  done := fun w _ _ _ => entries_push_other w rfl
  recovered := fun w _ _ _ => entries_push_other w rfl

section steps

variable {c : Context} {inner : String → List Data → World → List TaskCall} {entered? : TaskCall → Option Event}

/-- A step that runs a task enters what the call enters, and any other step enters nothing. -/
theorem entries_step
    (hinner : ∀ name args w, (after (c.dispatch name args) w).entries = w.entries ++ (inner name args w).filterMap entered?)
    (s : Step) (w : World) :
    (after (c.step s) w).entries = w.entries ++
      (match c.asks s.action w with
        | some (name, args) => inner name args w
        | none => []).filterMap entered? := by
  rw [bodily_entries.recorded c s w]
  cases hasks : c.asks s.action w with
  | none => rw [bodily_entries.unasked (fun _ _ _ => rfl) hasks, List.filterMap_nil, List.append_nil]
  | some call =>
    rw [after_congr (perform_of_asks hasks), hinner]

/-- A body enters what its steps enter. -/
theorem entries_steps
    (hinner : ∀ name args w, (after (c.dispatch name args) w).entries = w.entries ++ (inner name args w).filterMap entered?)
    (body : List Step) (last : Value) (w : World) :
    (after (c.steps last body) w).entries = w.entries ++ (c.calls inner body w).filterMap entered? := by
  induction body generalizing last w with
  | nil => exact (List.append_nil _).symm
  | cons s rest ih =>
    rw [Context.calls]
    rcases Bool.eq_false_or_eq_true s.action.isEnd with hend | hend
    · obtain ⟨v, hv⟩ := Context.steps_end hend last rest
      rw [hv, if_pos hend]
      exact (List.append_nil _).symm
    · rw [c.steps_next hend, if_neg (by rw [hend]; exact Bool.false_ne_true), List.filterMap_append, ← List.append_assoc,
        ← entries_step hinner s w]
      cases hs : c.step s w with
      | ok v w' =>
        rw [after_bind_ok hs, after_of_ok hs]
        exact ih v w'
      | error stop w' =>
        rw [after_bind_error hs, after_of_error hs]
        exact (List.append_nil _).symm

end steps

namespace Manager

variable {m : Manager} {host : Host} {call : TaskCall} {t : Task} {inside : Machine} {f : Failure}

/-- What it takes for a call to come to its body. -/
theorem begins_eq_some {b : Beginning} (h : m.begins call = some b) :
    (∃ depth, call.depth = depth + 1) ∧ m.registry.find? call.name = some b.task ∧ b.task.body = .steps b.steps ∧
      call.state.cwd? = some b.previous ∧
      call.state.machine.changeDirectory b.task.directory.toString = .ok b.inside := by
  unfold begins at h
  split at h
  · rename_i depth task hdepth hfind
    split at h
    · rename_i body previous inside hbody hprevious hinside
      cases h
      refine ⟨⟨depth, hdepth⟩, hfind, ?_, hprevious, hinside⟩
      cases htask : task.body with
      | steps body' =>
        rw [htask] at hbody
        cases hbody
        rfl
      | data d =>
        rw [htask] at hbody
        cases hbody
    · cases h
  · cases h

/-- A call that does not come to its body does nothing but say so. -/
theorem keeps_of_not_begun {R : World → World → Prop} (h : Moved R) {depth : Nat} {name : String} {args : List Data} {w : World}
    (hb : m.begins ⟨depth, name, args, w⟩ = none) : R w (after (m.runTask host depth name args) w) := by
  cases depth with
  | zero => exact h.refl w
  | succ depth =>
    cases hfind : m.registry.find? name with
    | none =>
      rw [after_of_error (runTask_unknown hfind host depth args w)]
      exact h.refl w
    | some task =>
      have hrun := runTask_eq host depth args w hfind
      have hsaid : R w (w.dispatching task args) := h.err w _
      rw [after_congr hrun]
      cases hp : w.cwd? with
      | none =>
        have hp' : (w.dispatching task args).cwd? = none := hp
        rw [after_of_error (withDirectory_nowhere hp')]
        exact hsaid
      | some p =>
        have hp' : (w.dispatching task args).cwd? = some p := hp
        cases hm : w.machine.changeDirectory task.directory.toString with
        | error f =>
          rw [after_of_error (withDirectory_refused hp' hm)]
          exact hsaid
        | ok inside =>
          cases hbody : task.body with
          | steps body =>
            simp only [begins, hfind, hp, hm, hbody] at hb
            cases hb
          | data d =>
            have hbody' : (m.contextOf host depth task args).task.body = .data d := hbody
            have hexecute : after (m.contextOf host depth task args).execute (w.starting task args inside p) =
                w.starting task args inside p := by
              rw [Context.execute, hbody']
              rfl
            have hleft := h.directoryLeft (m.contextOf host depth task args).execute hp' hm
            change R (after _ (w.starting task args inside p)) _ at hleft
            rw [hexecute] at hleft
            exact h.trans hsaid (h.trans (h.machine _ inside) (h.trans (h.err _ _) hleft))

/-- A call that comes to its body executes the steps of the body in the directory of the task, once the body has been entered. -/
theorem runTask_of_begins {depth : Nat} {name : String} {args : List Data} {w : World} {b : Beginning}
    (h : m.begins ⟨depth + 1, name, args, w⟩ = some b) (host : Host) :
    m.runTask host (depth + 1) name args w =
        withDirectory b.task.directory (m.contextOf host depth b.task args).execute (w.dispatching b.task args) ∧
      (w.dispatching b.task args).cwd? = some b.previous ∧
      (w.dispatching b.task args).machine.changeDirectory b.task.directory.toString = .ok b.inside ∧
      (m.contextOf host depth b.task args).execute (w.starting b.task args b.inside b.previous) =
        (m.contextOf host depth b.task args).steps .null b.steps
          ((w.starting b.task args b.inside b.previous).entered b.task args) := by
  obtain ⟨-, hfind, hbody, hp, hm⟩ := begins_eq_some h
  refine ⟨runTask_eq host depth args w hfind, hp, hm, ?_⟩
  have hbody' : (m.contextOf host depth b.task args).task.body = .steps b.steps := hbody
  rw [Context.execute, hbody']
  rfl

/-- A call that comes to its body leaves the entry behind, and what the steps leave. -/
theorem entries_of_begun {depth : Nat} {name : String} {args : List Data} {w : World} {b : Beginning}
    (h : m.begins ⟨depth + 1, name, args, w⟩ = some b) :
    (after (m.runTask host (depth + 1) name args) w).entries =
      (after ((m.contextOf host depth b.task args).steps .null b.steps)
        ((w.starting b.task args b.inside b.previous).entered b.task args)).entries := by
  obtain ⟨hrun, hp, hm, hexecute⟩ := runTask_of_begins h host
  rw [after_congr hrun, ← after_congr hexecute]
  exact entries_congr (moved_events.directoryLeft _ hp hm)

/-- The bodies that are entered while a task runs are those that the calls made in the run come to, in order. -/
theorem entries_runTask (m : Manager) (host : Host) (depth : Nat) (name : String) (args : List Data) (w : World) :
    (after (m.runTask host depth name args) w).entries = w.entries ++ (m.calls host depth name args w).filterMap m.entered? := by
  -- by induction on the depth: the calls that the steps of a body make are less deep
  induction depth generalizing name args w with
  | zero => exact (List.append_nil _).symm
  | succ depth ih =>
    rw [calls, List.filterMap_cons]
    cases hb : m.begins ⟨depth + 1, name, args, w⟩ with
    | none =>
      have hentry : m.entered? ⟨depth + 1, name, args, w⟩ = none := by rw [entered?, hb]; rfl
      rw [hentry, entries_congr (keeps_of_not_begun moved_events hb)]
      exact (List.append_nil _).symm
    | some b =>
      have hentry : m.entered? ⟨depth + 1, name, args, w⟩ =
          some (.entered b.task.name args b.task.directory b.inside.workingDirectory?) := by rw [entered?, hb]; rfl
      have hstart : ((w.starting b.task args b.inside b.previous).entered b.task args).entries =
          w.entries ++ [.entered b.task.name args b.task.directory b.inside.workingDirectory?] := entries_push _ _
      have hsteps := @entries_steps (m.contextOf host depth b.task args) (m.calls host depth) m.entered? ih b.steps .null
      rw [hentry, entries_of_begun hb, hsteps, hstart, List.append_assoc]
      rfl

/-! ## One call -/

/-- Where the directory of its task can be changed to, a call enters the body, if there is one that can be run and the process is
somewhere. -/
theorem entered?_of_changed (hfind : m.registry.find? call.name = some t)
    (hm : call.state.machine.changeDirectory t.directory.toString = .ok inside) :
    m.entered? call = if 0 < call.depth ∧ t.body.isCallable ∧ call.state.cwd?.isSome then
      some (.entered t.name call.args t.directory inside.workingDirectory?) else none := by
  obtain ⟨depth, name, args, w⟩ := call
  cases depth with
  | zero => rfl
  | succ depth =>
    dsimp only at hfind hm ⊢
    unfold entered? begins
    dsimp only
    rw [hfind]
    dsimp only
    rw [hm]
    cases t.body <;> cases w.cwd? <;> rfl

/-- Where the directory of its task cannot be changed to, a call comes to no body, leaves no event behind and fails. -/
theorem fails_of_refused (hfind : m.registry.find? call.name = some t)
    (hf : call.state.machine.changeDirectory t.directory.toString = .error f) :
    m.entered? call = none ∧
      (after (m.runTask host call.depth call.name call.args) call.state).events = call.state.events ∧
      (0 < call.depth → outcome (m.runTask host call.depth call.name call.args) call.state =
        .error (.failure (if call.state.cwd?.isSome then f else .refused .noEntry none))) := by
  obtain ⟨depth, name, args, w⟩ := call
  have hbegins : m.begins ⟨depth, name, args, w⟩ = none := by
    cases hb : m.begins ⟨depth, name, args, w⟩ with
    | none => rfl
    | some b =>
      obtain ⟨-, hfind', -, -, hm⟩ := begins_eq_some hb
      cases hfind.symm.trans hfind'
      cases hf.symm.trans hm
  refine ⟨by rw [entered?, hbegins]; rfl, keeps_of_not_begun moved_events hbegins, fun hdepth => ?_⟩
  obtain ⟨depth, rfl⟩ := Nat.exists_eq_succ_of_ne_zero hdepth.ne'
  exact outcome_of_error (runTask_refused host depth args hfind hf)

end Manager

/-- A process that has changed to the path of a location is in the directory that the path leads to: the location itself if and only
if no link is on the way to it. -/
theorem Machine.leads_of_changeDirectory {m inside : Machine} {d : Location} (hnamed : d.Named)
    (h : m.changeDirectory d.toString = .ok inside) :
    ∃ g, m.files.walk true m.place d.toString = .ok g ∧ inside.workingDirectory? = some g ∧ (g = d ↔ m.files.Clear d) := by
  obtain ⟨place, henter, hinside⟩ := changeDirectory_eq_ok h
  obtain ⟨hholds, hwalk⟩ := FileSystem.holds_of_enter_toString henter
  refine ⟨place.location, hwalk, ?_, fun hg => ?_, fun hclear => ?_⟩
  · rw [hinside, workingDirectory?, if_pos hholds]
  · rw [← hg]
    exact (FileSystem.goes_of_walk_toString hnamed hwalk).2.1
  · have hcwd := workingDirectory?_of_changeDirectory hclear hnamed h
    rw [hinside, workingDirectory?, if_pos hholds] at hcwd
    exact Option.some.inj hcwd

/-! ## The directory of a Runfile -/

/-- A task was declared by the Runfile at a path, in the state in which it was loaded: the path leads to `runfile`, and the directory
around this, with all links resolved, is `directory`. -/
structure Task.DeclaredBy (t : Task) (path : Path) (w : World) (runfile directory : Location) : Prop where
  resolved : w.machine.resolve path = .ok runfile
  around : w.machine.resolve (Location.path runfile).parent = .ok directory
  clear : w.machine.files.Clear directory
  declared : ∃ tasks w', Runfile.declaredBy path w = .ok tasks w' ∧ t ∈ tasks

/-- A path as it can be written, and a state in which the process is at a location as there can be one. -/
structure Path.ProperIn (path : Path) (w : World) : Prop where
  names : ∀ name ∈ path.names, '/' ∉ name.toList
  place : w.machine.place.location.Named

namespace Machine

variable {m : Machine} {path : Path} {l : Location}

/-- A path is resolved to a location as there can be one. -/
theorem named_of_resolve (hnames : ∀ name ∈ path.names, '/' ∉ name.toList) (hplace : m.place.location.Named)
    (h : m.resolve path = .ok l) : l.Named := by
  have hresolved {start : Location} (hstart : start.Named) : (m.files.resolveNamesFrom start path.names).Named :=
    FileSystem.named_resolveNamesFrom hstart hnames
  unfold resolve at h
  simp only [Bind.bind, Except.bind, Pure.pure, Except.pure] at h
  split at h
  · cases h
  · split at h
    · split at h
      · cases h
      · cases h
        exact hresolved Location.named_root
    · split at h
      · cases h
      · rename_i start hstart
        split at h
        · cases h
        · cases h
          exact hresolved (named_of_workingDirectory hplace hstart)

/-- The path of a text that can be read can be walked along. -/
theorem walk_of_readText {path text : String} (h : m.readText path = .ok text) :
    ∃ f, m.files.walk true m.place path = .ok f := by
  cases hw : m.files.walk true m.place path with
  | ok f => exact ⟨f, rfl⟩
  | error r =>
    have hread : m.files.readAt m.place path = .error r := by
      unfold FileSystem.readAt
      rw [hw]
      rfl
    unfold readText readBytes refuse at h
    rw [hread] at h
    split at h <;> cases h

end Machine

/-- The tasks that a Runfile declares are of the directory around it. -/
theorem declaredBy_eq_ok {path : Path} {w w' : World} {tasks : List Task} {t : Task} (hproper : path.ProperIn w)
    (h : Runfile.declaredBy path w = .ok tasks w') (ht : t ∈ tasks) :
    ∃ l d, t.DeclaredBy path w l d ∧ d.Named ∧ t.directory = Location.path d := by
  have hdeclared := h
  unfold Runfile.declaredBy at h
  obtain ⟨l, w₁, hresolve, h⟩ := bind_eq_ok h
  obtain ⟨hl, rfl⟩ := observe_eq_ok hresolve
  rw [bind_ok (debug_apply _ _ _)] at h
  obtain ⟨scope, w₂, hscope, h⟩ := bind_eq_ok h
  obtain ⟨d, hd, hid, hopened⟩ := Runfile.openScope_eq_ok hscope
  have hlnamed := Machine.named_of_resolve hproper.names hproper.place hl
  obtain ⟨f, hwalk⟩ : ∃ f, w.machine.files.walk true w.machine.place l.toString = .ok f := by
    obtain ⟨w₃, hload, -⟩ := Runfile.evaluate_eq_ok (by rw [hopened, hid, declarationsOf_eq (Runfile.scope_opened _ d)]; rfl) h
    obtain ⟨statements, w₄, hread, -⟩ := bind_eq_ok hload
    obtain ⟨text, w₅, htext, -⟩ := bind_eq_ok hread
    have htext' := (observe_eq_ok htext).1
    rw [hopened] at htext'
    exact Machine.walk_of_readText htext'
  have hd' : w.machine.files.resolveNamesFrom [] l.tail.reverse = d := by
    have hd₁ : w.machine.resolve (Location.path l.tail) = .ok d := by
      rw [← Location.parent_path]
      exact hd
    exact Machine.resolve_path_eq_ok hd₁
  refine ⟨l, d, ⟨hl, hd, ?_, tasks, w', hdeclared, ht⟩, ?_, (Runfile.owned_of_evaluate hd hscope h ht).1⟩
  · rw [← hd']
    exact FileSystem.clear_resolve_tail hlnamed hwalk
  · rw [← hd']
    exact FileSystem.named_resolveNamesFrom Location.named_root
      fun name hn => (hlnamed name (List.mem_of_mem_tail (List.mem_reverse.1 hn))).slash

namespace Manager

/-- A manager that has loaded Runfiles, each in a state of its own; loads that have failed are among them. -/
def loading (commands : CommandSettings) (history : List (Path × World)) : Manager :=
  (⟨commands, Registry.empty⟩ : Manager).afterCalls (history.map fun (path, w) => (.load path, w))

/-- Every task of a manager that has loaded Runfiles was declared by one of them. -/
theorem declared_of_loading {commands : CommandSettings} {history : List (Path × World)}
    (hproper : ∀ c ∈ history, c.1.ProperIn c.2) {name : String} {t : Task}
    (h : (loading commands history).registry.find? name = some t) :
    ∃ c ∈ history, ∃ l d, t.DeclaredBy c.1 c.2 l d ∧ d.Named ∧ t.directory = Location.path d := by
  rcases mem_afterCalls (Assoc.mem_toList_of_find? h) with he | ⟨c, hc, tasks, w', hbrings, ht⟩
  · cases he
  · obtain ⟨load, hload, rfl⟩ := List.mem_map.1 hc
    exact ⟨load, hload, declaredBy_eq_ok (hproper load hload) hbrings ht⟩

end Manager

/-- The directories in which bodies are entered. Let a manager have loaded any Runfiles, and let it run a task with any arguments in
any state. The bodies that are entered, at any depth, are those that the calls made in the run come to, in order. For each call of a
task there is the directory `d` around the Runfile that declared the task, with all links resolved when it was loaded, and this is
the directory of the task. Where the path of `d` can be changed to, it leads to a directory `g`, and the body is entered in `g` with
the arguments of the call; `g` is `d` if and only if no link has come to be on the way. Where it cannot be changed to, the body is
not entered, no event is left behind, and the call fails with the refusal, or with that of a process whose own directory is gone. -/
theorem runTask_enters_origin_directories {commands : CommandSettings} {history : List (Path × World)}
    (hproper : ∀ c ∈ history, c.1.ProperIn c.2) (host : Host) (depth : Nat) (name : String) (args : List Data) (w : World) :
    let m := Manager.loading commands history
    (after (m.runTask host depth name args) w).entries = w.entries ++ (m.calls host depth name args w).filterMap m.entered? ∧
    ∀ call ∈ m.calls host depth name args w, ∀ t, m.registry.find? call.name = some t →
      ∃ c ∈ history, ∃ l d, t.DeclaredBy c.1 c.2 l d ∧ t.directory = Location.path d ∧
        (∀ inside, call.state.machine.changeDirectory d.toString = .ok inside →
          ∃ g, call.state.machine.files.walk true call.state.machine.place d.toString = .ok g ∧
            m.entered? call = (if 0 < call.depth ∧ t.body.isCallable ∧ call.state.cwd?.isSome then
              some (.entered t.name call.args t.directory (some g)) else none) ∧
            (g = d ↔ call.state.machine.files.Clear d)) ∧
        (∀ f, call.state.machine.changeDirectory d.toString = .error f →
          ((∃ r, f = .refused r (some d.toString)) ∨ '\x00' ∈ d.toString.toList) ∧
            m.entered? call = none ∧
            (after (m.runTask host call.depth call.name call.args) call.state).events = call.state.events ∧
            (0 < call.depth → outcome (m.runTask host call.depth call.name call.args) call.state =
              .error (.failure (if call.state.cwd?.isSome then f else .refused .noEntry none)))) := by
  intro m
  refine ⟨Manager.entries_runTask m host depth name args w, fun call _ t hfind => ?_⟩
  obtain ⟨c, hc, l, d, hdeclared, hnamed, hdirectory⟩ := Manager.declared_of_loading hproper hfind
  refine ⟨c, hc, l, d, hdeclared, hdirectory, fun inside hm => ?_, fun f hf => ⟨?_, ?_⟩⟩
  · obtain ⟨g, hwalk, hg, hclear⟩ := Machine.leads_of_changeDirectory hnamed hm
    have hm' : call.state.machine.changeDirectory t.directory.toString = .ok inside := by
      rw [hdirectory]
      exact hm
    refine ⟨g, hwalk, ?_, hclear⟩
    rw [Manager.entered?_of_changed hfind hm', hg]
  · exact (Machine.changeDirectory_eq_error hf).imp_left fun ⟨r, _, hr⟩ => ⟨r, hr⟩
  · have hf' : call.state.machine.changeDirectory t.directory.toString = .error f := by
      rw [hdirectory]
      exact hf
    exact Manager.fails_of_refused hfind hf'

namespace TwoOrigins

/-- A Runfile in a directory below the root, and one in the root. -/
def files : FileSystem :=
  ((FileSystem.empty.makeDirectory ["d"]).putFile ["Runfile", "d"] "below".toUTF8).putFile ["Runfile"] "root".toUTF8

/-- The Runfile below: a task that does nothing. -/
def below : List Runfile.Statement := [.run (.text "x") (.steps [])]

/-- A task that puts a link in the place of the directory below before it runs the task from there. -/
def swap : List Runfile.Statement :=
  [.run (.text "swap") (.steps [⟨.sh (.text "mv d e && ln -s e d") Context.plainOptions, false⟩,
    ⟨.run (.text "x") (some []), false⟩])]

/-- A task that goes to another directory before it runs the task from below. -/
def visit : List Runfile.Statement :=
  [.run (.text "visit") (.steps [⟨.mkdir "o", false⟩, ⟨.chdir "o", false⟩,
    ⟨.run (.text "X") (some [.text "1", .text "2"]), false⟩])]

def world (root : List Runfile.Statement) : World :=
  { World.initial ⟨files, ⟨[], 0⟩, ⟨[], []⟩, Assoc.empty⟩ ["runner"] with
    abbreviations := Assoc.ofList [("below", below), ("root", root)] }

/-- Both Runfiles are loaded. -/
def history (root : List Runfile.Statement) : List (Path × World) :=
  [(⟨1, ["d", "Runfile"]⟩, world root), (⟨1, ["Runfile"]⟩, world root)]

def manager (root : List Runfile.Statement) : Manager := .loading ⟨.null, false⟩ (history root)

/-- The one command there is moves the directory and makes the link. -/
def host : Host := fun _ _ m =>
  ⟨.ok 0, ByteArray.empty, ByteArray.empty, (m.files.moveTree ["d"] ["e"]).makeLink ["d"] "e", m.input.rest⟩

/-- What an entry says, with the arguments as they are shown. -/
structure Shown where
  task : String
  args : List String
  directory : Path
  cwd : Option Location
  deriving DecidableEq

def shown : Event → Option Shown
  | .entered task args directory cwd => some ⟨task, args.map Data.display, directory, cwd⟩
  | _ => none

end TwoOrigins

open TwoOrigins in
/-- A body is entered in another directory than that of its task, once a link to that one stands under its path. -/
theorem runTask_enters_origin_directories_false :
    (after ((manager swap).runTask host 2 "swap" []) (world swap)).entries.filterMap shown =
      [⟨"swap", [], Location.path [], some []⟩, ⟨"x", [], Location.path ["d"], some ["e"]⟩] := by
  decide +kernel

open TwoOrigins in
/-- Where no link comes into the way, a task is entered in its own directory, from wherever it is run, and with the arguments that it
is run with. -/
theorem runTask_enters_origin_directories_visited :
    (∀ c ∈ history visit, c.1.ProperIn c.2) ∧
      (after ((manager visit).runTask host 2 "visit" []) (world visit)).entries.filterMap shown =
        [⟨"visit", [], Location.path [], some []⟩, ⟨"x", ["1", "2"], Location.path ["d"], some ["d"]⟩] := by
  have hproper : ∀ c ∈ history visit, c.1.ProperIn c.2 := by
    intro c hc
    refine ⟨?_, ?_⟩
    · rcases List.mem_cons.1 hc with rfl | hc
      · decide
      · rw [List.mem_singleton.1 hc]
        decide
    · rcases List.mem_cons.1 hc with rfl | hc
      · exact Location.named_root
      · rw [List.mem_singleton.1 hc]
        exact Location.named_root
  refine ⟨hproper, ?_⟩
  have h := (@runTask_enters_origin_directories ⟨.null, false⟩ _ hproper host 2 "visit" [] (world visit)).1
  rw [manager, h]
  decide +kernel

end TaskRunner
