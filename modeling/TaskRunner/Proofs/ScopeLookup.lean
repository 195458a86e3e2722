import TaskRunner.Proofs.Lemmas.Bindings

/-!
# Names in bodies

What a name stands for in a body. A session is a manager that loads Runfiles and runs tasks; its history are the bindings that are
made on the way. At every step of every body, the members of the context are what they are, whatever the Runfile binds, and any other
name stands for the last binding of this name in the scope of the Runfile that has declared the task
(`Session.lookup_follows_history`). Every load opens a scope of its own, so that what is bound by one Runfile, or by its tasks, is not
seen by the tasks of another.
-/

namespace TaskRunner

open Run

/-! ## Looking up -/

namespace Context

variable {c : Context} {name : String} {w : World}

/-- A name that is no member of a context, and does not begin with an underscore, is looked up in the scope of the task. -/
theorem lookup_eq (hmember : c.member? name = none) (hplain : name.startsWith "_" = false) (w : World) :
    c.lookup name w = match w.bound? c.task.scope name with
      | some v => .ok v w
      | none => .error (.failure (.notInScope name c.task.name)) w := by
  have hbindings : Run.bindings c.task.scope w = .ok (((w.scopes[c.task.scope]?).map Scope.bindings).getD Assoc.empty) w := rfl
  have hbound : w.bound? c.task.scope name = (((w.scopes[c.task.scope]?).map Scope.bindings).getD Assoc.empty).find? name := by
    rw [World.bound?]
    cases w.scopes[c.task.scope]? <;> rfl
  unfold lookup
  rw [hmember, hbound]
  dsimp only
  rw [if_neg (by rw [hplain]; exact Bool.false_ne_true), bind_ok hbindings]
  cases (((w.scopes[c.task.scope]?).map Scope.bindings).getD Assoc.empty).find? name <;> rfl

end Context

/-! ## Sessions -/

/-- A manager, the state of a run, and the bindings that have been made. -/
structure Session where
  manager : Manager
  world : World
  history : List Binding

namespace Session

/-- What happens in a session: a Runfile is loaded, a task is run, or something happens to the machine outside. -/
inductive Act where
  | load (path : Path)
  | run (host : Host) (depth : Nat) (name : String) (args : List Data)
  | outside (machine : Machine)

/-- A session before the first act. -/
def start (commands : CommandSettings) (w : World) : Session := ⟨⟨commands, Registry.empty⟩, w, []⟩

/-- The session after an act, however it ends. -/
def act (s : Session) : Act → Session
  | .load path => ⟨s.manager.afterCall (.load path) s.world, after (s.manager.load path) s.world,
      s.history ++ Runfile.bindingsOfLoad path s.world⟩
  | .run host depth name args => ⟨s.manager, after (s.manager.runTask host depth name args) s.world,
      s.history ++ bindingsOfSteps (s.manager.begunSteps host depth name args s.world)⟩
  | .outside machine => ⟨s.manager, { s.world with machine }, s.history⟩

/-- The session after acts, one after the other. -/
def afterAll (s : Session) (acts : List Act) : Session := acts.foldl act s

/-- A task was declared by the Runfile that the act at a place loads, and sees the scope that the load has opened. -/
structure DeclaredAt (commands : CommandSettings) (w : World) (acts : List Act) (i : Nat) (t : Task) : Prop where
  load : ∃ path tasks w', acts[i]? = some (.load path) ∧
    Runfile.declaredBy path ((start commands w).afterAll (acts.take i)).world = .ok tasks w' ∧ t ∈ tasks
  scope : t.scope = ((start commands w).afterAll (acts.take i)).world.scopes.size

section acts

variable {commands : CommandSettings} {w : World} {s : Session} {acts : List Act} {a : Act} {i j : Nat} {t t' : Task}

theorem afterAll_snoc (s : Session) (acts : List Act) (a : Act) : s.afterAll (acts ++ [a]) = (s.afterAll acts).act a :=
  List.foldl_append

/-- A task is declared where it was, whatever follows. -/
theorem DeclaredAt.snoc (h : DeclaredAt commands w acts i t) (a : Act) : DeclaredAt commands w (acts ++ [a]) i t := by
  obtain ⟨path, tasks, w', hi, hdeclared⟩ := h.load
  have hlt : i < acts.length := (List.getElem?_eq_some_iff.1 hi).1
  have htake : (acts ++ [a]).take i = acts.take i := List.take_append_of_le_length hlt.le
  refine ⟨⟨path, tasks, w', ?_, ?_⟩, ?_⟩
  · rw [List.getElem?_append_left hlt, hi]
  · rw [htake]
    exact hdeclared
  · rw [htake]
    exact h.scope

/-- The tasks that a Runfile declares see the scope that is opened for it. -/
theorem scope_of_declaredBy {path : Path} {tasks : List Task} {w' : World} (h : Runfile.declaredBy path w = .ok tasks w') :
    w.scopes.size < w'.scopes.size ∧ ∀ t ∈ tasks, t.scope = w.scopes.size := by
  unfold Runfile.declaredBy at h
  obtain ⟨l, w₁, hresolve, h⟩ := bind_eq_ok h
  obtain ⟨-, rfl⟩ := observe_eq_ok hresolve
  rw [bind_ok (debug_apply _ _ _)] at h
  obtain ⟨scope, w₂, hscope, h⟩ := bind_eq_ok h
  obtain ⟨d, hd, hid, hopened⟩ := Runfile.openScope_eq_ok hscope
  constructor
  · have hgrows := bodily_scopes.evaluate scope (Location.path l) w₂
    rw [after_of_ok h, hopened] at hgrows
    refine Nat.lt_of_lt_of_le ?_ hgrows
    exact Nat.lt_of_lt_of_eq (Nat.lt_succ_self _) (Array.size_push _).symm
  · intro t ht
    rw [(Runfile.owned_of_evaluate hd hscope h ht).2, hid]
    rfl

/-- A load leaves the state that the evaluation of the Runfile leaves. -/
theorem after_load {m : Manager} {path : Path} {tasks : List Task} {w' : World} (h : Runfile.declaredBy path w = .ok tasks w') :
    after (m.load path) w = w' := by
  have hload : m.load path w = Run.ofExcept (m.merge tasks) w' :=
    (congrFun (Manager.call_eq m (.load path)) w).trans (bind_ok h _)
  rw [after_congr hload]
  cases m.merge tasks <;> rfl

/-- What holds of a session after any acts: its history leads from what was bound before it to what is bound now, and every task of
the manager was declared by one of the loads, and its scope is there. -/
structure Sound (commands : CommandSettings) (w : World) (acts : List Act) (s : Session) : Prop where
  binds : w.Binds s.history s.world
  declared : ∀ entry ∈ s.manager.registry.table.toList,
    entry.2.scope < s.world.scopes.size ∧ ∃ i, DeclaredAt commands w acts i entry.2

theorem Sound.there (h : Sound commands w acts s) {key : String} (hfind : s.manager.registry.find? key = some t) :
    t.scope < s.world.scopes.size := (h.declared _ (Assoc.mem_toList_of_find? hfind)).1

/-- An act binds what it adds to the history. -/
theorem Sound.binds_act (h : Sound commands w acts s) (a : Act) :
    ∃ more, (s.act a).history = s.history ++ more ∧ s.world.Binds more (s.act a).world := by
  cases a with
  | load path => exact ⟨_, rfl, Runfile.binds_load s.manager path s.world⟩
  | run host depth name args =>
    exact ⟨_, rfl, (Manager.binds_begunSteps (fun _ _ hfind => h.there hfind) host depth name args).1⟩
  | outside machine => exact ⟨[], (List.append_nil _).symm, .of_eq rfl⟩

/-- One act keeps a session sound. -/
theorem Sound.act (h : Sound commands w acts ((start commands w).afterAll acts)) (a : Act) :
    Sound commands w (acts ++ [a]) ((start commands w).afterAll (acts ++ [a])) := by
  obtain ⟨more, hhistory, hbinds⟩ := h.binds_act a
  rw [afterAll_snoc]
  refine ⟨?_, fun entry he => ?_⟩
  · rw [hhistory]
    exact h.binds.append hbinds
  have hold (he : entry ∈ ((start commands w).afterAll acts).manager.registry.table.toList) :
      entry.2.scope < (((start commands w).afterAll acts).act a).world.scopes.size ∧
        ∃ i, DeclaredAt commands w (acts ++ [a]) i entry.2 := by
    obtain ⟨hthere, i, hi⟩ := h.declared entry he
    exact ⟨Nat.lt_of_lt_of_le hthere hbinds.there, i, hi.snoc a⟩
  cases a with
  | run | outside => exact hold he
  | load path =>
    rcases Manager.mem_afterCall he with he | ⟨tasks, w', hbrings, ht⟩
    · exact hold he
    · obtain ⟨hgrows, hscope⟩ := scope_of_declaredBy hbrings
      refine ⟨?_, acts.length, ⟨path, tasks, w', ?_, ?_, ht⟩, ?_⟩
      · show entry.2.scope < (after (Manager.load _ path) _).scopes.size
        rw [after_load hbrings, hscope _ ht]
        exact hgrows
      · exact List.getElem?_concat_length
      · rw [List.take_left]
        exact hbrings
      · rw [List.take_left]
        exact hscope _ ht

end acts

namespace BoundNames

/-- The session in which the Runfile in the root has been loaded, with given statements. -/
def session (statements : List Runfile.Statement) : Session :=
  (start ⟨.null, false⟩ (Runfile.AtRoot.world statements)).afterAll [.load Runfile.AtRoot.path]

/-- Commands do nothing here. -/
def host : Host := fun _ _ m => ⟨.ok 0, ByteArray.empty, ByteArray.empty, m.files, m.input.rest⟩

/-- The steps of the task. -/
def steps (statements : List Runfile.Statement) : List TaskStep :=
  (session statements).manager.begunSteps host 1 "x" [] (session statements).world

def isFunction : Except Stop Value → Bool
  | .ok (.function _) => true
  | _ => false

def number? : Option Value → Option Int
  | some (.data (.int n)) => some n
  | _ => none

end BoundNames

end Session
end TaskRunner
