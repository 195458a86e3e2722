import TaskRunner.Proofs.Lemmas.Place
import TaskRunner.Proofs.Lemmas.Run

/-!
# The working directory

To run a task is to change to its directory, to execute its body there and to change back. `runTask_comes_back` says what
becomes of the working directory and of the outcome, whatever the body does: the statement is about any state a run may start
in, so it holds of a run that the body of another task makes as well, and of each of them by itself.
-/

namespace TaskRunner

open Run

/-- The state inside a directory that was changed to from another one. -/
def World.entering (w : World) (inside : Machine) (previous : Location) (path : Path) : World :=
  ({ w with machine := inside } : World).debugged "runx.task" s!"chdir {Location.toString previous} -> {path}"

/-- The state after the change back. -/
def World.leaving (w : World) (back : Machine) (previous : Location) (path : Path) : World :=
  ({ w with machine := back } : World).debugged "runx.task" s!"chdir {Location.toString previous} <- {path}"

/-! ## Changing to a directory for a time -/

theorem observe_workingDirectory {w : World} {p : Location} (h : w.cwd? = some p) :
    observe Machine.workingDirectory w = .ok p w := by
  refine observe_ok ?_
  have h' : w.machine.workingDirectory? = some p := h
  rw [Machine.workingDirectory, h']

/-- The change back to a location from a directory. -/
def wayBack (p : Location) (path : Path) : Run Unit := do
  change (·.changeDirectory (Location.toString p))
  debug "runx.task" s!"chdir {Location.toString p} <- {path}"

theorem wayBack_apply (p : Location) (path : Path) (w : World) :
    wayBack p path w = match w.machine.changeDirectory (Location.toString p) with
      | .ok back => .ok () (w.leaving back p path)
      | .error f => .error (.failure f) w := by
  unfold wayBack
  cases h : w.machine.changeDirectory (Location.toString p) with
  | ok back => exact bind_ok (change_ok h) _
  | error f => exact bind_error (change_error h) _

section withDirectory

variable {α : Type} {path : Path} {action : Run α} {w : World} {p : Location} {inside back : Machine} {f : Failure}

/-- A process whose directory is gone cannot change to another one for a time. -/
theorem withDirectory_nowhere (hp : w.cwd? = none) :
    withDirectory path action w = .error (.failure (.refused .noEntry none)) w := by
  have hlost : w.machine.workingDirectory = .error (.refused .noEntry none) := by
    have hp' : w.machine.workingDirectory? = none := hp
    rw [Machine.workingDirectory, hp']
  unfold withDirectory
  exact bind_error (observe_error hlost) _

/-- Where the directory cannot be changed to, nothing has happened. -/
theorem withDirectory_refused (hp : w.cwd? = some p) (hf : w.machine.changeDirectory path.toString = .error f) :
    withDirectory path action w = .error (.failure f) w := by
  unfold withDirectory
  rw [bind_ok (observe_workingDirectory hp), bind_error (change_error hf)]

/-- Where the directory can be changed to, the action is executed inside, and the change back follows it however it ends. -/
theorem withDirectory_entered (action : Run α) (hp : w.cwd? = some p) (hm : w.machine.changeDirectory path.toString = .ok inside) :
    withDirectory path action w =
      match action (w.entering inside p path) with
      | .ok a w₁ =>
        match w₁.machine.changeDirectory (Location.toString p) with
        | .ok back => .ok a (w₁.leaving back p path)
        | .error f => .error (.failure f) w₁
      | .error stop w₁ =>
        match w₁.machine.changeDirectory (Location.toString p) with
        | .ok back => .error stop (w₁.leaving back p path)
        | .error f => .error (.failure f) w₁ := by
  unfold withDirectory
  rw [bind_ok (observe_workingDirectory hp), bind_ok (change_ok hm), bind_ok (debug_apply _ _ _)]
  show (tryCatch action (fun stop => do wayBack p path; throw stop) >>= fun a => do wayBack p path; pure a)
    (w.entering inside p path) = _
  rw [bind_apply, tryCatch_apply]
  cases action (w.entering inside p path) with
  | ok a w₁ =>
    dsimp only
    rw [bind_apply, wayBack_apply]
    cases w₁.machine.changeDirectory (Location.toString p) <;> rfl
  | error stop w₁ =>
    dsimp only
    rw [bind_apply, wayBack_apply]
    cases w₁.machine.changeDirectory (Location.toString p) <;> rfl

/-- Where the change back is allowed, the whole comes out as the action did. -/
theorem withDirectory_restored (hp : w.cwd? = some p) (hm : w.machine.changeDirectory path.toString = .ok inside)
    (hb : (after action (w.entering inside p path)).machine.changeDirectory (Location.toString p) = .ok back) :
    outcome (withDirectory path action) w = outcome action (w.entering inside p path) ∧
      after (withDirectory path action) w = (after action (w.entering inside p path)).leaving back p path := by
  have h := withDirectory_entered action hp hm
  cases ha : action (w.entering inside p path) with
  | ok a w₁ =>
    rw [after_of_ok ha] at hb ⊢
    rw [ha] at h
    simp only [hb] at h
    rw [outcome_of_ok h, outcome_of_ok ha, after_of_ok h]
    exact ⟨rfl, rfl⟩
  | error stop w₁ =>
    rw [after_of_error ha] at hb ⊢
    rw [ha] at h
    simp only [hb] at h
    rw [outcome_of_error h, outcome_of_error ha, after_of_error h]
    exact ⟨rfl, rfl⟩

/-- Where the change back is refused, that is how the whole comes out, and the process stays where the action left it. -/
theorem withDirectory_stranded (hp : w.cwd? = some p) (hm : w.machine.changeDirectory path.toString = .ok inside)
    (hb : (after action (w.entering inside p path)).machine.changeDirectory (Location.toString p) = .error f) :
    withDirectory path action w = .error (.failure f) (after action (w.entering inside p path)) := by
  have h := withDirectory_entered action hp hm
  cases ha : action (w.entering inside p path) with
  | ok a w₁ =>
    rw [after_of_ok ha] at hb ⊢
    rw [ha] at h
    simpa only [hb] using h
  | error stop w₁ =>
    rw [after_of_error ha] at hb ⊢
    rw [ha] at h
    simpa only [hb] using h

end withDirectory

/-! ## Running a task -/

/-- What the body of a task is executed with when the task is run: the tasks that the body runs may call one another to the given
depth. -/
def Manager.contextOf (m : Manager) (host : Host) (depth : Nat) (task : Task) (args : List Data) : Context :=
  { commands := m.commands, host, task, args, dispatch := m.runTask host depth }

/-- The state in which a task that is run changes to its directory. -/
def World.dispatching (w : World) (task : Task) (args : List Data) : World :=
  w.debugged "runx.manager" s!"Running task {task.name} with args {(Data.list args).inspect}"

/-- The state in which the body of a task begins, once the process has changed from a location to the directory of the task. -/
def World.starting (w : World) (task : Task) (args : List Data) (inside : Machine) (previous : Location) : World :=
  (w.dispatching task args).entering inside previous task.directory

/-- To run a task is to execute its body in its directory. -/
theorem runTask_eq {m : Manager} {name : String} {task : Task} (host : Host) (depth : Nat) (args : List Data) (w : World)
    (h : m.registry.find? name = some task) :
    m.runTask host (depth + 1) name args w =
      withDirectory task.directory (m.contextOf host depth task args).execute (w.dispatching task args) := by
  rw [Manager.runTask, h]
  exact bind_ok (debug_apply _ _ _) _

/-- A task that is not there is not run. -/
theorem Manager.runTask_unknown {m : Manager} {name : String} (h : m.registry.find? name = none) (host : Host) (depth : Nat)
    (args : List Data) (w : World) :
    m.runTask host (depth + 1) name args w = .error (.failure (.unknownTask name)) w := by
  rw [Manager.runTask, h]
  rfl

/-- Where the directory of a task cannot be changed to, running the task does no more than to be refused; a process whose own
directory is gone is refused because of that. -/
theorem runTask_refused {m : Manager} {name : String} {task : Task} {w : World} {f : Failure} (host : Host) (depth : Nat)
    (args : List Data) (h : m.registry.find? name = some task)
    (hf : w.machine.changeDirectory task.directory.toString = .error f) :
    m.runTask host (depth + 1) name args w =
      .error (.failure (if w.cwd?.isSome then f else .refused .noEntry none)) (w.dispatching task args) := by
  rw [runTask_eq host depth args w h]
  cases hp : w.cwd? with
  | none => exact withDirectory_nowhere hp
  | some p => exact withDirectory_refused hp hf

/-- A run of a task is stopped with no event left behind, or it comes to execute the body. -/
theorem runTask_cases (m : Manager) (host : Host) (depth : Nat) (name : String) (args : List Data) (w : World) :
    (∃ stop w', m.runTask host depth name args w = .error stop w' ∧ w'.events = w.events) ∨
      ∃ depth' task p inside, depth = depth' + 1 ∧ m.registry.find? name = some task ∧ w.cwd? = some p ∧
        w.machine.changeDirectory task.directory.toString = .ok inside ∧
        m.runTask host depth name args w =
          withDirectory task.directory (m.contextOf host depth' task args).execute (w.dispatching task args) := by
  cases depth with
  | zero => exact .inl ⟨.exhausted, w, rfl, rfl⟩
  | succ depth =>
    cases hfind : m.registry.find? name with
    | none => exact .inl ⟨.failure (.unknownTask name), w, Manager.runTask_unknown hfind host depth args w, rfl⟩
    | some task =>
      cases hm : w.machine.changeDirectory task.directory.toString with
      | error f => exact .inl ⟨_, _, runTask_refused host depth args hfind hm, rfl⟩
      | ok inside =>
        have hrun := runTask_eq host depth args w hfind
        cases hp : w.cwd? with
        | none => exact .inl ⟨_, _, hrun.trans (withDirectory_nowhere hp), rfl⟩
        | some p => exact .inr ⟨depth, task, p, inside, rfl, rfl, rfl, hm, hrun⟩

/-- The working directory of a run. Let a process stand in `p` when it runs a task. If the directory of the task cannot be changed
to, the run is stopped by that refusal, the body is not entered, and the process still stands in `p`. Otherwise the body is
executed, and however it ends: if `p` is a directory then, with no link on the way, the process stands in `p` after the run, and
the run comes out as the body did, with the same value or the same stop; if the change back to `p` is refused, the run is stopped
by that refusal. The stop of a body may come from a task that it has run, and may be a refused change back. -/
theorem runTask_comes_back (m : Manager) (host : Host) (depth : Nat) (name : String) (args : List Data) (task : Task)
    (w : World) (p : Location) (hfind : m.registry.find? name = some task) (hp : w.cwd? = some p) :
    (∀ f, w.machine.changeDirectory task.directory.toString = .error f →
      outcome (m.runTask host (depth + 1) name args) w = .error (.failure f) ∧
        (after (m.runTask host (depth + 1) name args) w).events = w.events ∧
        (after (m.runTask host (depth + 1) name args) w).machine = w.machine ∧
        (after (m.runTask host (depth + 1) name args) w).cwd? = some p) ∧
    (∀ inside, w.machine.changeDirectory task.directory.toString = .ok inside →
      ((after (m.contextOf host depth task args).execute (w.starting task args inside p)).machine.files.Stands p →
        outcome (m.runTask host (depth + 1) name args) w =
            outcome (m.contextOf host depth task args).execute (w.starting task args inside p) ∧
          (after (m.runTask host (depth + 1) name args) w).cwd? = some p) ∧
      (∀ f, (after (m.contextOf host depth task args).execute (w.starting task args inside p)).machine.changeDirectory
          (Location.toString p) = .error f →
        outcome (m.runTask host (depth + 1) name args) w = .error (.failure f))) := by
  have hrun : ∀ w', m.runTask host (depth + 1) name args w' = _ := fun w' => runTask_eq host depth args w' hfind
  have hp' : (w.dispatching task args).cwd? = some p := hp
  refine ⟨fun f hf => ?_, fun inside hm => ⟨fun hs => ?_, fun f hf => ?_⟩⟩
  · have h := (hrun w).trans (withDirectory_refused hp' hf)
    rw [outcome_of_error h, after_of_error h]
    exact ⟨rfl, rfl, rfl, hp⟩
  · obtain ⟨back, hb, -, hback⟩ := Machine.changeDirectory_of_stands hs
    obtain ⟨ho, ha⟩ := withDirectory_restored hp' hm hb
    constructor
    · rw [outcome, hrun]
      exact ho
    · rw [after, hrun]
      exact (congrArg World.cwd? ha).trans hback
  · have h := (hrun w).trans (withDirectory_stranded hp' hm hf)
    exact outcome_of_error h

namespace LostDirectory

/-- Three directories below the root. -/
def files : FileSystem := (((FileSystem.empty.makeDirectory ["work"]).makeDirectory ["outer"]).makeDirectory ["inner"])

/-- A task that makes a directory, goes there and runs the other task. -/
def outer : Task :=
  { name := "Outer", doc := none, directory := ⟨1, ["outer"]⟩, scope := 0
    body := .steps [⟨.mkdir "/outer/lost", false⟩, ⟨.chdir "lost", false⟩, ⟨.run (.text "INNER") none, false⟩] }

/-- A task that removes the directory that the other one stands in. -/
def inner : Task :=
  { name := "Inner", doc := none, directory := ⟨1, ["inner"]⟩, scope := 0
    body := .steps [⟨.rmdir "/outer/lost", false⟩] }

def manager : Manager := ⟨⟨.null, false⟩, ⟨(Assoc.empty.insert "outer" outer).insert "inner" inner⟩⟩

/-- Commands do nothing here. -/
def host : Host := fun _ _ m => ⟨.ok 0, ByteArray.empty, ByteArray.empty, m.files, m.input.rest⟩

def world : World := World.initial ⟨files, ⟨["work"], 1⟩, ⟨[], []⟩, Assoc.empty⟩ ["runner"]

/-- The machine inside the directory of the outer task. -/
def inside : Machine := ⟨files, ⟨["outer"], 2⟩, ⟨[], []⟩, Assoc.empty⟩

/-- The refusal that a run was stopped by. -/
def refusal? : Except Stop Value → Option (Refusal × Option String)
  | .error (.failure (.refused r path)) => some (r, path)
  | _ => none

/-- The working directory still stands when the body of the outer task has ended. -/
theorem stands : (after (manager.contextOf host 1 outer []).execute
    (world.starting outer [] inside ["work"])).machine.files.Stands ["work"] where
  plain := by
    intro around h
    rw [List.suffix_cons_iff, List.suffix_nil] at h
    rcases h with rfl | rfl
    · decide +kernel
    · decide +kernel
  named := by
    intro name h
    rw [List.mem_singleton] at h
    subst h
    exact ⟨by decide, by decide, by decide, by decide⟩
  names := by
    intro name h
    rw [List.mem_singleton] at h
    subst h
    decide
  short := by decide +kernel
  noNull := by decide +kernel

end LostDirectory

open LostDirectory in
/-- The inner task removes the directory that it was called from, so that its own change back is refused and stops the outer body;
the change back of the outer task goes through all the same, and the run comes out with the refusal. -/
theorem runTask_comes_back_past_lost :
    manager.registry.find? "OUTER" = some outer ∧ world.cwd? = some ["work"] ∧
      refusal? (outcome (manager.runTask host 2 "OUTER" []) world) = some (.noEntry, some "/outer/lost") ∧
      (after (manager.runTask host 2 "OUTER" []) world).cwd? = some ["work"] := by
  have hfind : manager.registry.find? "OUTER" = some outer := by rfl
  have hp : world.cwd? = some ["work"] := by rfl
  have hm : world.machine.changeDirectory outer.directory.toString = .ok inside :=
    Machine.changeDirectory_ok (by decide) (by decide +kernel)
  have h := ((runTask_comes_back manager host 1 "OUTER" [] outer world ["work"] hfind hp).2 inside hm).1 stands
  refine ⟨hfind, hp, ?_, h.2⟩
  rw [h.1]
  decide +kernel

end TaskRunner
