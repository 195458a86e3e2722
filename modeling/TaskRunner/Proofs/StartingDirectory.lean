import TaskRunner.Proofs.Diagnostics
import TaskRunner.Proofs.NearestRunfile

/-!
# The directory that an invocation starts in

Two invocations that start in different directories may find the same Runfile. From there on they go by paths that begin at the root,
until a task is run, and a body is entered in the directory of its task, so that it sees nothing of where the invocation has come
from. What is left of the starting directory is the way back to it: the two conclude alike, each where it has started
(`Invocation.main_ignores_starting_directory`).
-/

namespace TaskRunner

open Run

/-! ## Paths that begin at the root -/

namespace FileSystem

variable (fs : FileSystem) (p q : Place) (l : Location)

/-- A walk along the path of a location begins at the root, wherever the process stands. -/
theorem walk_from_root (follow : Bool) : fs.walk follow p l.toString = fs.walk follow q l.toString := by
  simp only [walk, l.startsWith_toString, if_true]

theorem lookup_from_root : fs.lookup p l.toString = fs.lookup q l.toString := by
  simp only [lookup, isGone, isHere_toString, Bool.false_and, Bool.false_eq_true, if_false, walk_from_root fs p q l]

theorem enter_from_root : fs.enter p l.toString = fs.enter q l.toString := by
  simp only [enter, isHere_toString, walk_from_root fs p q l, Bool.false_eq_true, if_false]

theorem readAt_from_root : fs.readAt p l.toString = fs.readAt q l.toString := by
  simp only [readAt, walk_from_root fs p q l]

end FileSystem

namespace Machine

/-- Two machines are the same but for the directory that the process stands in. -/
def Elsewhere (m m' : Machine) : Prop := ∃ place, m' = { m with place }

namespace Elsewhere

variable {m m' : Machine} (h : m.Elsewhere m') (l : Location)

include h

theorem readText : m'.readText l.toString = m.readText l.toString := by
  obtain ⟨place, rfl⟩ := h
  simp only [Machine.readText, readBytes, FileSystem.readAt_from_root m.files place m.place l]

theorem pathExists : m'.pathExists l.toString = m.pathExists l.toString := by
  obtain ⟨place, rfl⟩ := h
  simp only [Machine.pathExists, lookup, FileSystem.lookup_from_root m.files place m.place l]

theorem resolve : m'.resolve l.path = m.resolve l.path := by
  obtain ⟨place, rfl⟩ := h
  have habsolute : l.path.isAbsolute = true := rfl
  simp only [Machine.resolve, habsolute, if_true, FileSystem.walk_from_root m.files place m.place]

/-- A change to the path of a location leaves one and the same machine behind. -/
theorem changeDirectory : m'.changeDirectory l.toString = m.changeDirectory l.toString := by
  obtain ⟨place, rfl⟩ := h
  simp only [Machine.changeDirectory, FileSystem.enter_from_root m.files place m.place l]

theorem settings : Settings.load m' l.path = Settings.load m l.path := by
  have hdocument : l.path.child Settings.documentName = Location.path (Settings.documentName :: l) := Runfile.path_child l _
  have hexists := h.pathExists (Settings.documentName :: l)
  have hread := h.readText (Settings.documentName :: l)
  rw [Location.toString] at hexists hread
  simp only [Settings.load, hdocument, hexists, hread]

end Elsewhere

/-- Two machines are as they were. -/
def Kept (first first' : Machine) (m m' : Machine) : Prop := m = first ∧ m' = first'

/-- Two processes stand in two locations. -/
def StandingIn (p p' : Location) (m m' : Machine) : Prop := m.workingDirectory? = some p ∧ m'.workingDirectory? = some p'

/-- A change of the directory leaves two processes where they stand: the path leads each of them there, or it is refused to both for
one reason. -/
def Stays (path : String) (m m' : Machine) : Prop :=
  (m.changeDirectory path = .ok m ∧ m'.changeDirectory path = .ok m') ∨
    ∃ f, m.changeDirectory path = .error f ∧ m'.changeDirectory path = .error f

/-- Machines that are the same cannot be told apart. -/
theorem indistinct_eq : Indistinct Eq where
  environment := by
    rintro m _ rfl
    rfl
  workingDirectory? := by
    rintro m _ rfl
    rfl
  resolve := by
    rintro m _ p rfl
    rfl
  isFile := by
    rintro m _ path rfl
    rfl
  changeDirectory := by
    rintro m _ path rfl
    exact .of_eq rfl
  makeDirectory := by
    rintro m _ path rfl
    exact .of_eq rfl
  removeDirectory := by
    rintro m _ path rfl
    exact .of_eq rfl
  readLine := by
    rintro m _ rfl
    cases m.readLine with
    | ok r => exact .ok ⟨rfl, rfl⟩
    | error f => exact .error f

end Machine

theorem Host.respects_eq (host : Host) : host.Respects Eq := by
  rintro spawn capture m _ rfl
  exact ⟨rfl, rfl, rfl, rfl⟩

/-! ## Statements that leave the process where it stands -/

namespace Runfile

variable {first first' : Machine} {w w' : World}

mutual

/-- A statement that is executed in two states changes the directory in neither. -/
def Still (scope : ScopeId) : Statement → World → World → Prop
  | .chdir path, w, w' => Machine.Stays path w.machine w'.machine
  | .attempt body, w, w' => StillAll scope body w w'
  | .doc _, _, _ | .run .., _, _ | .declare .., _, _ | .apply .., _, _ | .deco .., _, _ | .set .., _, _ | .define _, _, _
  | .get _, _, _ | .raise .., _, _ | .print _, _, _ => True

/-- Of statements that are executed in two states, up to the first that fails, none changes the directory. -/
def StillAll (scope : ScopeId) : List Statement → World → World → Prop
  | [], _, _ => True
  | st :: rest, w, w' => Still scope st w w' ∧
    ∀ v v', execute scope st w = .ok () v → execute scope st w' = .ok () v' → StillAll scope rest v v'

end

mutual

/-- Whether a statement asks for no change of the directory, and neither do those in it. -/
def stationary : Statement → Bool
  | .chdir _ => false
  | .attempt body => stationaryAll body
  | .doc _ | .run .. | .declare .. | .apply .. | .deco .. | .set .. | .define _ | .get _ | .raise .. | .print _ => true

/-- Whether statements ask for no change of the directory. -/
def stationaryAll : List Statement → Bool
  | [] => true
  | st :: rest => stationary st && stationaryAll rest

end

mutual

theorem still_of_stationary (scope : ScopeId) (st : Statement) (h : stationary st = true) (w w' : World) : Still scope st w w' := by
  cases st with
  | chdir path => cases h
  | attempt body =>
    rw [stationary] at h
    rw [Still]
    exact stillAll_of_stationary scope body h w w'
  | doc | run | declare | apply | deco | set | define | get | raise | print => trivial

/-- Statements that ask for no change of the directory change it in no states. -/
theorem stillAll_of_stationary (scope : ScopeId) (sts : List Statement) (h : stationaryAll sts = true) (w w' : World) :
    StillAll scope sts w w' := by
  cases sts with
  | nil => trivial
  | cons st rest =>
    rw [stationaryAll, Bool.and_eq_true] at h
    exact ⟨still_of_stationary scope st h.1 w w', fun v v' _ _ => stillAll_of_stationary scope rest h.2 v v'⟩

end

mutual

theorem agreeing_execute_of_still (scope : ScopeId) (st : Statement) {w w' : World} (hw : w.Alike (Machine.Kept first first') w')
    (h : Still scope st w w') : Agreeing (Machine.Kept first first') Eq (execute scope st w) (execute scope st w') := by
  cases st with
  | chdir path =>
    rw [execute]
    rw [Still] at h
    obtain ⟨hstays, hstays'⟩ | ⟨f, hf, hf'⟩ := h
    · rw [change_ok hstays, change_ok hstays']
      exact .ended rfl hw
    · rw [change_error hf, change_error hf']
      exact .stopped hw
  | attempt body =>
    rw [Still] at h
    exact (agreeing_executeAll_of_still scope body hw h).tryCatch agree_caught
  | doc | run | declare | apply | deco | set | define | get | raise | print =>
    refine agree_executePlain scope ?_ ?_ _ _ hw
    · exact nofun
    · exact nofun

theorem agreeing_executeAll_of_still (scope : ScopeId) (sts : List Statement) {w w' : World}
    (hw : w.Alike (Machine.Kept first first') w') (h : StillAll scope sts w w') :
    Agreeing (Machine.Kept first first') Eq (executeAll scope sts w) (executeAll scope sts w') := by
  cases sts with
  | nil => exact .ended rfl hw
  | cons st rest =>
    rw [StillAll] at h
    exact (agreeing_execute_of_still scope st hw h.1).next (fun _ _ h => h) fun hv hv' _ hw₁ =>
      agreeing_executeAll_of_still scope rest hw₁ (h.2 _ _ hv hv')

end

end Runfile

/-! ## The way there and back -/

section there

variable {α : Type} {p p' : Location} {w w' : World}

/-- The way back to a directory changes no file. -/
theorem files_withDirectory {path : Path} {inside : Machine} (action : Run α) (hp : w.cwd? = some p)
    (hm : w.machine.changeDirectory path.toString = .ok inside) :
    (after (withDirectory path action) w).machine.files = (after action (w.entering inside p path)).machine.files := by
  cases hb : (after action (w.entering inside p path)).machine.changeDirectory (Location.toString p) with
  | ok back =>
    obtain ⟨place, -, hback⟩ := Machine.changeDirectory_eq_ok hb
    rw [(withDirectory_restored hp hm hb).2]
    show back.files = _
    rw [hback]
  | error f => rw [after_of_error (withDirectory_stranded hp hm hb)]

/-- The ways back from one directory to two others that stand. -/
theorem alike_leaving {M : Machine → Machine → Prop} (hw : w.Alike M w') (hs : w.machine.files.Stands p)
    (hs' : w'.machine.files.Stands p') (path : Path) :
    ∃ back back', w.machine.changeDirectory p.toString = .ok back ∧ w'.machine.changeDirectory p'.toString = .ok back' ∧
      (w.leaving back p path).Alike (Machine.StandingIn p p') (w'.leaving back' p' path) := by
  obtain ⟨back, hb, -, hcwd⟩ := Machine.changeDirectory_of_stands hs
  obtain ⟨back', hb', -, hcwd'⟩ := Machine.changeDirectory_of_stands hs'
  obtain ⟨machine, err, log, -, rfl⟩ := hw
  exact ⟨back, back', hb, hb', back', _, log, ⟨hcwd, hcwd'⟩, rfl⟩

/-- What agrees in one directory agrees when it is changed to from two others, and each process is back where it has come from, if
this still stands when all is over. -/
theorem agreeing_withDirectory {x y : Run α} (h : Agree Eq Eq x y) {path : Path} {D : Location} (hpath : path = D.path)
    (hw : w.Alike Machine.Elsewhere w') (hp : w.cwd? = some p) (hp' : w'.cwd? = some p')
    (hs : (after (withDirectory path x) w).machine.files.Stands p)
    (hs' : (after (withDirectory path y) w').machine.files.Stands p') :
    Agreeing (Machine.StandingIn p p') Eq (withDirectory path x w) (withDirectory path y w') := by
  have hchange : w'.machine.changeDirectory path.toString = w.machine.changeDirectory path.toString := by
    rw [hpath]
    exact hw.machine.changeDirectory D
  cases hm : w.machine.changeDirectory path.toString with
  | error f =>
    rw [withDirectory_refused hp hm, withDirectory_refused hp' (hchange.trans hm)]
    exact .stopped (hw.of_machine ⟨hp, hp'⟩)
  | ok inside =>
    have hm' := hchange.trans hm
    rw [files_withDirectory x hp hm] at hs
    rw [files_withDirectory y hp' hm'] at hs'
    -- Inside the directory the two machines are one and the same.
    have hinside : (w.entering inside p path).Alike Eq (w'.entering inside p' path) := by
      obtain ⟨machine, err, log, -, rfl⟩ := hw
      exact ⟨inside, _, log, rfl, rfl⟩
    have hbody := h _ _ hinside
    rw [withDirectory_entered x hp hm, withDirectory_entered y hp' hm']
    generalize hx : x (w.entering inside p path) = r, hy : y (w'.entering inside p' path) = r' at hbody ⊢
    cases hbody with
    | ended hv hw₁ =>
      rw [after_of_ok hx] at hs
      rw [after_of_ok hy] at hs'
      obtain ⟨back, back', hb, hb', hback⟩ := alike_leaving hw₁ hs hs' path
      dsimp only
      rw [hb, hb']
      exact .ended hv hback
    | stopped hw₁ =>
      rw [after_of_error hx] at hs
      rw [after_of_error hy] at hs'
      obtain ⟨back, back', hb, hb', hback⟩ := alike_leaving hw₁ hs hs' path
      dsimp only
      rw [hb, hb']
      exact .stopped hback

/-- All tasks of a manager are of directories that their paths lead to from the root. -/
def Manager.FromRoot (m : Manager) : Prop := ∀ name t, m.registry.find? name = some t → ∃ D, t.directory = Location.path D

/-- A task is run alike from two directories. -/
theorem agreeing_runTask {m m' : Manager} (hm : m.Alike m') (hroot : m.FromRoot) (hw : w.Alike Machine.Elsewhere w')
    (hp : w.cwd? = some p) (hp' : w'.cwd? = some p') (host : Host) (depth : Nat) (name : String) (args : List Data)
    (hs : (after (m.runTask host depth name args) w).machine.files.Stands p)
    (hs' : (after (m'.runTask host depth name args) w').machine.files.Stands p') :
    Agreeing (Machine.StandingIn p p') Eq (m.runTask host depth name args w) (m'.runTask host depth name args w') := by
  have hregistry : m'.registry = m.registry := by
    obtain ⟨echo, rfl⟩ := hm
    rfl
  cases depth with
  | zero => exact .stopped (hw.of_machine ⟨hp, hp'⟩)
  | succ depth =>
    cases hfind : m.registry.find? name with
    | none =>
      rw [Manager.runTask_unknown hfind, Manager.runTask_unknown (hregistry ▸ hfind)]
      exact .stopped (hw.of_machine ⟨hp, hp'⟩)
    | some task =>
      have hfind' : m'.registry.find? name = some task := hregistry ▸ hfind
      have hbody : Agree Eq Eq (m.contextOf host depth task args).execute (m'.contextOf host depth task args).execute := by
        have hdispatch := agree_runTask Machine.indistinct_eq host.respects_eq hm depth
        obtain ⟨echo, rfl⟩ := hm
        exact agree_executeBody Machine.indistinct_eq host.respects_eq ⟨echo, _, rfl, hdispatch⟩
      obtain ⟨D, hD⟩ := hroot name task hfind
      have hrun := runTask_eq host depth args w hfind
      have hrun' := runTask_eq host depth args w' hfind'
      rw [after_congr hrun] at hs
      rw [after_congr hrun'] at hs'
      rw [hrun, hrun']
      exact agreeing_withDirectory hbody hD hw.debugged hp hp' hs hs'

end there

/-! ## The invocation -/

/-- What is located is the Runfile of a directory, by its path. -/
theorem Runfile.exists_candidate {runfile : Path} {w w₁ : World} (h : locate none w = .ok runfile w₁) :
    ∃ D, runfile = candidate D := by
  unfold locate find at h
  obtain ⟨result, w₂, hfind, h⟩ := bind_eq_ok h
  obtain ⟨q, w₃, -, hfind⟩ := bind_eq_ok hfind
  rw [bind_ok (pure_apply _ _)] at hfind
  obtain ⟨l, w₄, -, hsearch⟩ := bind_eq_ok hfind
  cases result with
  | none => cases h
  | some found =>
    cases h
    obtain ⟨-, D, -, hfound, -⟩ := searchUp_eq_ok hsearch
    exact ⟨D, hfound⟩

namespace Invocation

/-- The statements of the Runfile that two invocations execute change the directory in neither. -/
def LoadsInPlace (w w' : World) : Prop :=
  ∀ {path scope state state' sts}, Executes w path scope state → Executes w' path scope state' →
    outcome (Runfile.readStatements path) state = .ok sts → Runfile.StillAll scope sts state state'

section invocation

variable {host : Host} {words : List String} {w w' w₁ w₁' w₂ w₂' : World} {p p' : Location} {runfile : Path} {settings : Settings}
  {m m' : Manager}

/-- Settings that read the same in two states are read and set up alike. -/
theorem agreeing_configure_of_eq {M : Machine → Machine → Prop} {directory : Path} (hw : w.Alike M w')
    (h : Settings.load w'.machine directory = Settings.load w.machine directory) :
    Agreeing M Eq (configure directory w) (configure directory w') := by
  cases hload : Settings.load w.machine directory with
  | ok settings =>
    refine (agreeing_configure hw hload (h.trans hload)).mono (fun _ _ h => h) ?_
    rintro s s' ⟨rfl, rfl⟩
    rfl
  | error f =>
    unfold configure
    rw [bind_error (observe_error hload), bind_error (observe_error (h.trans hload))]
    exact .stopped hw

/-- The Runfile that is found from two directories is loaded alike, if its statements change neither. -/
theorem agreeing_load_elsewhere (hw : w.Alike Machine.Elsewhere w') (hw₂ : w₂.Alike (Machine.Kept w.machine w'.machine) w₂')
    (hl : Runfile.locate none (begun w) = .ok runfile w₁) (hl' : Runfile.locate none (begun w') = .ok runfile w₁')
    (hc : configure runfile.parent w₁ = .ok settings w₂) (hc' : configure runfile.parent w₁' = .ok settings w₂')
    (hplace : LoadsInPlace w w') :
    Agreeing (Machine.Kept w.machine w'.machine) Manager.Alike (load settings runfile w₂) (load settings runfile w₂') := by
  obtain ⟨hm₂, hm₂'⟩ := hw₂.machine
  have helsewhere : w₂.machine.Elsewhere w₂'.machine := by
    rw [hm₂, hm₂']
    exact hw.machine
  obtain ⟨D, hD⟩ := Runfile.exists_candidate hl
  have hresolve : w₂'.machine.resolve runfile = w₂.machine.resolve runfile := by
    rw [hD, Runfile.candidate, Runfile.path_child]
    exact helsewhere.resolve _
  have hsame : (Manager.ofSettings settings).Alike (.ofSettings settings) := ⟨_, rfl⟩
  refine (agreeing_load hsame hw₂ hresolve (fun {l} _ => ⟨helsewhere.readText l, ?_⟩) ?_).bind fun hloaded =>
    .bind (agree_debug _ _ _ _) fun _ => .pure hloaded.1
  · rw [Location.parent_path]
    exact helsewhere.resolve l.tail
  · intro l scope v v' sts u u' hloc hscope hscope' hread hread' hu
    have hstill := hplace ⟨runfile, settings, w₁, w₂, l, v, hl, hc, hloc, rfl, hscope, rfl⟩
      ⟨runfile, settings, w₁', w₂', l, v', hl', hc', hresolve.trans hloc, rfl, hscope', rfl⟩ (outcome_of_ok hread)
    -- Reading the statements leaves the state in which they are executed as it is.
    rw [← Runfile.after_readStatements (Location.path l) (Runfile.starting scope (Location.path l) v), after_of_ok hread,
      ← Runfile.after_readStatements (Location.path l) (Runfile.starting scope (Location.path l) v'), after_of_ok hread'] at hstill
    exact Runfile.agreeing_executeAll_of_still scope sts hu hstill

/-- The tasks that an invocation has loaded are of directories that their paths lead to from the root. -/
theorem fromRoot_of_load (h : load settings runfile w = .ok m w₁) : m.FromRoot := by
  obtain ⟨n, w₂, hload⟩ := load_eq_ok h
  obtain ⟨-, l, D, -, -, htasks⟩ := resolved_of_load rfl hload
  exact fun name t ht => ⟨D, htasks name t ht⟩

theorem agreeing_dispatch (hm : m.Alike m') (hroot : m.FromRoot) (hw : w.Alike Machine.Elsewhere w') (hp : w.cwd? = some p)
    (hp' : w'.cwd? = some p') (directory : Path) (words : List String)
    (hs : (after (dispatch host m directory words) w).machine.files.Stands p)
    (hs' : (after (dispatch host m' directory words) w').machine.files.Stands p') :
    Agreeing (Machine.StandingIn p p') Eq (dispatch host m directory words w) (dispatch host m' directory words w') := by
  cases words with
  | nil => exact agree_showHelp hm _ _ (hw.of_machine ⟨hp, hp'⟩)
  | cons name args =>
    have hdispatching : (dispatching w directory).Alike Machine.Elsewhere (dispatching w' directory) := by
      obtain ⟨machine, err, log, hmachine, rfl⟩ := hw
      exact ⟨machine, _, log, hmachine, rfl⟩
    rw [after_congr (dispatch_words host m directory name args w), after_map _ fun _ => ()] at hs
    rw [after_congr (dispatch_words host m' directory name args w'), after_map _ fun _ => ()] at hs'
    rw [dispatch_words, dispatch_words]
    exact (agreeing_runTask hm hroot hdispatching hp hp' host _ name _ hs hs').bind fun _ => .pure rfl

/-- The stages of two invocations agree that find the same Runfile from different directories. -/
theorem agreeing_stages_elsewhere (hw : w.Alike Machine.Elsewhere w') (hp : w.cwd? = some p) (hp' : w'.cwd? = some p')
    (hl : Runfile.locate none (begun w) = .ok runfile w₁) (hl' : Runfile.locate none (begun w') = .ok runfile w₁')
    (hplace : LoadsInPlace w w') (hs : (after (stages host words) (begun w)).machine.files.Stands p)
    (hs' : (after (stages host words) (begun w')).machine.files.Stands p') :
    Agreeing (Machine.StandingIn p p') Eq (stages host words (begun w)) (stages host words (begun w')) := by
  have hkept (m m' : Machine) (h : Machine.Kept w.machine w'.machine m m') : Machine.StandingIn p p' m m' := by
    obtain ⟨rfl, rfl⟩ := h
    exact ⟨hp, hp'⟩
  have hlocated : w₁.Alike (Machine.Kept w.machine w'.machine) w₁' := by
    have hidle := idle_locate w
    have hidle' := idle_locate w'
    rw [after_of_ok hl] at hidle
    rw [after_of_ok hl'] at hidle'
    obtain ⟨err₁, log₁, rfl⟩ := hidle
    obtain ⟨err₁', log₁', rfl⟩ := hidle'
    obtain ⟨machine, err, log, -, rfl⟩ := hw
    exact ⟨machine, err₁', log₁', ⟨rfl, rfl⟩, rfl⟩
  have hsettings : Settings.load w₁'.machine runfile.parent = Settings.load w₁.machine runfile.parent := by
    obtain ⟨D, hD⟩ := Runfile.exists_candidate hl
    rw [machine_of_locate hl, machine_of_locate hl', hD, Runfile.candidate, Runfile.path_child, Location.parent_path]
    exact hw.machine.settings D
  unfold stages at hs hs' ⊢
  rw [after_bind_ok hl] at hs
  rw [after_bind_ok hl'] at hs'
  rw [bind_ok hl, bind_ok hl']
  refine (agreeing_configure_of_eq hlocated hsettings).next hkept fun {s _ w₂ w₂'} hc hc' hs₂ hw₂ => ?_
  subst hs₂
  refine (agreeing_load_elsewhere hw hw₂ hl hl' hc hc' hplace).next hkept fun {m m' w₃ w₃'} hm hm' hsame hw₃ => ?_
  rw [after_bind_ok hc, after_bind_ok hm] at hs
  rw [after_bind_ok hc', after_bind_ok hm'] at hs'
  obtain ⟨hm₃, hm₃'⟩ := hw₃.machine
  have helsewhere : w₃.machine.Elsewhere w₃'.machine := by
    rw [hm₃, hm₃']
    exact hw.machine
  have hp₃ : w₃.cwd? = some p := (congrArg Machine.workingDirectory? hm₃).trans hp
  have hp₃' : w₃'.cwd? = some p' := (congrArg Machine.workingDirectory? hm₃').trans hp'
  exact agreeing_dispatch hsame (fromRoot_of_load hm) (hw₃.of_machine helsewhere) hp₃ hp₃' _ _ hs hs'

end invocation

/-- The directory that an invocation starts in makes no difference to it. Two invocations are the same but for the directory that they
start in, find the same Runfile, and execute no statement of it that changes the directory. If each starting directory stands at its
path when the invocation is over, then the two conclude alike, with the same exit status, and leave the same output, the same events
and the same words of the command line behind, and each is in the directory that it has started in. -/
theorem main_ignores_starting_directory (host : Host) (words : List String) {w w' : World} {p p' : Location} {runfile : Path}
    (hw : w.Alike Machine.Elsewhere w') (hp : w.cwd? = some p) (hp' : w'.cwd? = some p')
    (hl : outcome (Runfile.locate none) (begun w) = .ok runfile) (hl' : outcome (Runfile.locate none) (begun w') = .ok runfile)
    (hplace : LoadsInPlace w w') (hs : (after (main host words) w).machine.files.Stands p)
    (hs' : (after (main host words) w').machine.files.Stands p') :
    ∃ c, outcome (main host words) w = .ok c ∧ outcome (main host words) w' = .ok c ∧
      (after (main host words) w').out = (after (main host words) w).out ∧
      (after (main host words) w').events = (after (main host words) w).events ∧
      (after (main host words) w').argv = (after (main host words) w).argv ∧
      (after (main host words) w).cwd? = some p ∧ (after (main host words) w').cwd? = some p' := by
  have hstands (v : World) (q : Location) (h : (after (main host words) v).machine.files.Stands q) :
      (after (stages host (CommandWords.withoutMarker words)) (begun v)).machine.files.Stands q := by
    obtain ⟨err, log, hidle⟩ := idle_main host words v
    rwa [hidle] at h
  have hstages := agreeing_stages_elsewhere hw hp hp' (eq_ok_of_outcome (congrArg Except.toOption hl))
    (eq_ok_of_outcome (congrArg Except.toOption hl')) hplace (hstands w p hs) (hstands w' p' hs')
  exact alike_of_agreeing_main (agreeing_main_of_stages hstages)

/-- Until the statements of the Runfile are executed, the machine is as it was, and so are the lines that stand for statements. -/
theorem Executes.keeps {w state : World} {path : Path} {scope : ScopeId} (h : Executes w path scope state) :
    state.machine = w.machine ∧ state.abbreviations = w.abbreviations := by
  obtain ⟨runfile, settings, w₁, w₂, l, w₃, hl, hc, -, -, hscope, rfl⟩ := h
  obtain ⟨D, -, -, rfl⟩ := Runfile.openScope_eq_ok hscope
  have hidle := idle_configure hl runfile.parent
  rw [after_of_ok hc] at hidle
  obtain ⟨err, log, rfl⟩ := hidle
  exact ⟨rfl, rfl⟩

namespace TwoStarts

/-- Two directories below the one that the Runfile is in. -/
def files : FileSystem :=
  ((FileSystem.empty.makeDirectory ["p"]).makeDirectory ["q"]).putFile ["Runfile"] "r".toUTF8

/-- The Runfile changes to where it is, and its task goes to another directory. -/
def statements : List Runfile.Statement :=
  [.chdir ".", .run (.text "x") (.steps [⟨.chdir "q", false⟩, ⟨.print (.text "hi"), false⟩])]

def world (start : FileSystem.Place) : World :=
  { World.initial ⟨files, start, ⟨[], []⟩, Assoc.empty⟩ ["runner", "x"] with
    abbreviations := Assoc.ofList [("r", statements)] }

def first : World := world ⟨["p"], 1⟩

def second : World := world ⟨["q"], 2⟩

/-- Commands do nothing here. -/
def host : Host := fun _ _ m => ⟨.ok 0, ByteArray.empty, ByteArray.empty, m.files, m.input.rest⟩

def runfile : Path := (Location.path []).child Runfile.fileName

/-- A dot leads every process to where it stands. -/
theorem stays_dot (m m' : Machine) : Machine.Stays "." m m' := by
  have hdot (m : Machine) : m.changeDirectory "." = .ok m := by
    have hhere : FileSystem.isHere "." = true := by decide +kernel
    exact Machine.changeDirectory_ok (by decide) (by rw [FileSystem.enter, hhere, if_pos rfl])
  exact .inl ⟨hdot m, hdot m'⟩

/-- What is executed is what the line of the Runfile stands for. -/
theorem statements_of_executes {path : Path} {scope : ScopeId} {state : World} {sts : List Runfile.Statement}
    (h : Executes first path scope state) (hread : outcome (Runfile.readStatements path) state = .ok sts) : sts = statements := by
  obtain ⟨hmachine, habbreviations⟩ := h.keeps
  obtain ⟨hlocate, hresolve, htext⟩ : (outcome (Runfile.locate none) (begun first)).toOption = some runfile ∧
      (first.machine.resolve runfile).toOption = some ["Runfile"] ∧
      (first.machine.readText (Location.path ["Runfile"]).toString).toOption = some "r" := by decide +kernel
  obtain ⟨runfile', settings, w₁, w₂, l, w₃, hl, hc, hl', rfl, -, -⟩ := h
  cases (eq_ok_of_outcome hlocate).symm.trans hl
  obtain ⟨-, hmachine₂⟩ := configure_eq_ok hc
  rw [hmachine₂, machine_of_locate hl, ok_of_toOption hresolve] at hl'
  cases hl'
  rw [← hmachine] at htext
  have hread' : Runfile.read state.abbreviations "r" = .ok statements := by
    rw [habbreviations]
    exact Runfile.read_abbreviation statements
  rw [outcome_of_ok (Runfile.readStatements_ok (ok_of_toOption htext) hread')] at hread
  cases hread
  rfl

theorem loadsInPlace : LoadsInPlace first second := by
  intro path scope state state' sts h _ hread
  obtain rfl := statements_of_executes h hread
  exact ⟨stays_dot _ _, fun v v' _ _ => Runfile.stillAll_of_stationary scope _ rfl v v'⟩

/-- A directory below the root stands at its path if it is there. -/
theorem stands {fs : FileSystem} {name : String} (hroot : fs.isDirectory [] = true) (hthere : fs.isDirectory [name] = true)
    (hname : IsName name) (hsize : name.utf8ByteSize ≤ FileSystem.maxNameSize)
    (hshort : (Location.toString [name]).utf8ByteSize < 4096) (hnull : '\x00' ∉ (Location.toString [name]).toList) :
    fs.Stands [name] where
  plain := by
    intro around h
    rw [List.suffix_cons_iff, List.suffix_nil] at h
    rcases h with rfl | rfl
    · exact hthere
    · exact hroot
  named := List.forall_mem_singleton.2 hname
  names := List.forall_mem_singleton.2 hsize
  short := hshort
  noNull := hnull

end TwoStarts

open TwoStarts in
/-- A task that is run from two directories below that of its Runfile greets from both, and each invocation is back in its own. -/
theorem main_ignores_starting_directory_below :
    first.Alike Machine.Elsewhere second ∧ LoadsInPlace first second ∧
      (after (main host ["x"]) first).out = "hi\n".toUTF8 ∧ (after (main host ["x"]) second).out = "hi\n".toUTF8 ∧
      (after (main host ["x"]) first).cwd? = some ["p"] ∧ (after (main host ["x"]) second).cwd? = some ["q"] := by
  have hw : first.Alike Machine.Elsewhere second := ⟨second.machine, _, _, ⟨_, rfl⟩, rfl⟩
  obtain ⟨hl, hl', hout⟩ : (outcome (Runfile.locate none) (begun first)).toOption = some runfile ∧
      (outcome (Runfile.locate none) (begun second)).toOption = some runfile ∧
      (after (main host ["x"]) first).out = "hi\n".toUTF8 := by decide +kernel
  have hs : (after (main host ["x"]) first).machine.files.Stands ["p"] :=
    stands (by decide +kernel) (by decide +kernel) ⟨by decide, by decide, by decide, by decide⟩ (by decide) (by decide +kernel)
      (by decide +kernel)
  have hs' : (after (main host ["x"]) second).machine.files.Stands ["q"] :=
    stands (by decide +kernel) (by decide +kernel) ⟨by decide, by decide, by decide, by decide⟩ (by decide) (by decide +kernel)
      (by decide +kernel)
  obtain ⟨c, -, -, hsame, -, -, hcwd, hcwd'⟩ := main_ignores_starting_directory host ["x"] hw rfl rfl (ok_of_toOption hl)
    (ok_of_toOption hl') loadsInPlace hs hs'
  exact ⟨hw, loadsInPlace, hout, hsame.trans hout, hcwd, hcwd'⟩

end Invocation
end TaskRunner
