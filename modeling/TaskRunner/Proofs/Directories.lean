import TaskRunner.Proofs.Lemmas.Batches
import TaskRunner.Proofs.Lemmas.Frames
import TaskRunner.Proofs.Lemmas.Histories
import TaskRunner.Proofs.Lemmas.Links
import TaskRunner.Proofs.WorkingDirectory

/-!
# The directory of an invocation

An invocation names a directory in its output, takes its settings from there, and runs the task that was asked for in a directory.
The first is the one that the nearest Runfile was found in, by its name; the last is the one that the Runfile is in once its links
are resolved. They are the same unless the Runfile that was found is a link to one in another directory.
-/

namespace TaskRunner

open Run

/-! ## The nearest Runfile -/

namespace Runfile

/-- A look for a Runfile changes nothing but the log, and finds one only where there is one. -/
theorem look_eq_ok {l : Location} {result : Option Path} {w w' : World} (h : searchUp.look l w = .ok result w') :
    w'.machine = w.machine ∧ (result = none ∨ result = some ((Location.path l).child fileName) ∧
      w.machine.isFile ((Location.path l).child fileName).toString = .ok true) := by
  unfold searchUp.look at h
  rw [bind_ok (debug_apply _ _ _)] at h
  obtain ⟨isFile, w₂, hlook, h⟩ := bind_eq_ok h
  obtain ⟨hfile, rfl⟩ := observe_eq_ok hlook
  cases isFile with
  | true =>
    cases h
    exact ⟨rfl, .inr ⟨rfl, hfile⟩⟩
  | false =>
    cases h
    exact ⟨rfl, .inl rfl⟩

/-- A Runfile that is found is one of its name in a directory at or around the place where the search starts. -/
theorem searchUp_eq_ok {l : Location} {found : Path} {w w' : World} (h : searchUp l w = .ok (some found) w') :
    w'.machine = w.machine ∧ ∃ D, D <:+ l ∧ found = (Location.path D).child fileName ∧
      w.machine.isFile found.toString = .ok true := by
  induction l generalizing w with
  | nil =>
    obtain ⟨hmachine, hnone | ⟨hfound, hfile⟩⟩ := look_eq_ok h
    · cases hnone
    · cases hfound
      exact ⟨hmachine, [], List.suffix_rfl, rfl, hfile⟩
  | cons name around ih =>
    unfold searchUp at h
    obtain ⟨result, w₁, hlook, h⟩ := bind_eq_ok h
    obtain ⟨hmachine, rfl | ⟨rfl, hfile⟩⟩ := look_eq_ok hlook
    · obtain ⟨hmachine', D, hD, hfound, hfile⟩ := ih h
      rw [hmachine] at hfile hmachine'
      exact ⟨hmachine', D, hD.trans (List.suffix_cons name around), hfound, hfile⟩
    · cases h
      exact ⟨hmachine, name :: around, List.suffix_rfl, rfl, hfile⟩

/-- The path of a location and a name below it are the path of the location of that name. -/
theorem path_child (l : Location) (name : String) : (Location.path l).child name = Location.path (name :: l) := by
  rw [Location.path, Location.path, Path.child, List.reverse_cons]

theorem isName_fileName : IsName fileName := by
  constructor <;> decide

/-- The nearest Runfile is in a directory of that name, and its path leads to a file. -/
theorem locate_eq_ok {found : Path} {w w' : World} (hnamed : w.machine.place.location.Named)
    (h : locate none w = .ok found w') :
    w'.machine = w.machine ∧ ∃ D, found = (Location.path D).child fileName ∧ Location.Named (fileName :: D) ∧
      ∃ f, w.machine.files.walk true w.machine.place found.toString = .ok f := by
  unfold locate find at h
  obtain ⟨result, w₁, hfind, h⟩ := bind_eq_ok h
  obtain ⟨p, w₂, hcwd, hfind⟩ := bind_eq_ok hfind
  obtain ⟨hp, rfl⟩ := observe_eq_ok hcwd
  rw [bind_ok (pure_apply _ _)] at hfind
  obtain ⟨l, w₃, hstart, hfind⟩ := bind_eq_ok hfind
  obtain ⟨hl, rfl⟩ := observe_eq_ok hstart
  cases result with
  | none => cases h
  | some path =>
    cases h
    obtain ⟨hmachine, D, hD, rfl, hfile⟩ := searchUp_eq_ok hfind
    have hpnamed : p.Named := Machine.named_of_workingDirectory hnamed hp
    have hlnamed : l.Named := by
      rw [← Machine.resolve_path_eq_ok hl]
      exact FileSystem.named_resolveNamesFrom Location.named_root fun name hn => (hpnamed name (List.mem_reverse.1 hn)).slash
    refine ⟨hmachine, D, rfl, fun name hn => ?_, Machine.walk_of_isFile hfile⟩
    rcases List.mem_cons.1 hn with rfl | hn
    · exact isName_fileName
    · exact hlnamed name (hD.subset hn)

end Runfile

/-! ## The tasks of a Runfile -/

/-- The path around the path of a location is that of the location around it. -/
theorem Location.parent_path (l : Location) : (Location.path l).parent = Location.path l.tail := by
  rw [Location.path, Location.path, Path.parent, List.dropLast_reverse]

/-- The tasks that a manager without tasks has after a load are of the directory around the location that the path stands for. -/
theorem resolved_of_load {m m' : Manager} {path : Path} {n : Nat} {w w' : World} (hempty : m.registry = Registry.empty)
    (h : m.load path w = .ok (m', n) w') :
    m'.commands = m.commands ∧ ∃ l D, w.machine.resolve path = .ok l ∧ w.machine.resolve (Location.path l.tail) = .ok D ∧
      ∀ name t, m'.registry.find? name = some t → t.directory = Location.path D := by
  unfold Manager.load at h
  obtain ⟨l, w₁, hpath, h⟩ := bind_eq_ok h
  obtain ⟨hl, rfl⟩ := observe_eq_ok hpath
  rw [bind_ok (debug_apply _ _ _)] at h
  obtain ⟨scope, w₂, hscope, h⟩ := bind_eq_ok h
  obtain ⟨tasks, w₃, htasks, h⟩ := bind_eq_ok h
  obtain ⟨⟨registry, count⟩, w₄, hmerge, h⟩ := bind_eq_ok h
  cases h
  rw [Location.parent_path] at hscope
  obtain ⟨D, hD, -⟩ := Runfile.openScope_eq_ok hscope
  refine ⟨rfl, l, D, hl, hD, fun name t ht => ?_⟩
  have hmem : t ∈ tasks := by
    rcases Registry.mem_of_merge (ofExcept_eq_ok hmerge).1 (Assoc.mem_toList_of_find? ht) with he | he
    · rw [hempty] at he
      cases he
    · exact he
  exact (Runfile.owned_of_evaluate hD hscope htasks hmem).1

/-- The tasks of a Runfile that a manager without tasks loads are of the directory that the Runfile is in when its links are
resolved. -/
theorem directory_of_load {m m' : Manager} {l f : Location} {n : Nat} {w w' : World} (hempty : m.registry = Registry.empty)
    (hnamed : l.Named) (hwalk : w.machine.files.walk true w.machine.place l.toString = .ok f)
    (h : m.load (Location.path l) w = .ok (m', n) w') :
    m'.commands = m.commands ∧ ∀ name t, m'.registry.find? name = some t → t.directory = Location.path f.tail := by
  obtain ⟨hresolve, hclear, hfnamed⟩ := FileSystem.goes_of_walk_toString hnamed hwalk
  obtain ⟨hcommands, l', D, hl, hD, htasks⟩ := resolved_of_load hempty h
  obtain rfl : f = l' := hresolve.symm.trans (Machine.resolve_path_eq_ok hl)
  have htail : D = f.tail := by
    rw [← Machine.resolve_path_eq_ok hD]
    exact FileSystem.resolveNamesFrom_reverse hclear.tail fun name hn => hfnamed name (List.mem_of_mem_tail hn)
  rw [← htail]
  exact ⟨hcommands, htasks⟩

/-! ## Entering the body -/

namespace Run

/-- What happens in a directory is followed by no more than the way back. -/
theorem Moved.directoryLeft {α : Type} {R : World → World → Prop} (h : Moved R) (action : Run α) {path : Path} {w : World} {p : Location}
    {inside : Machine} (hp : w.cwd? = some p) (hm : w.machine.changeDirectory path.toString = .ok inside) :
    R (after action (w.entering inside p path)) (after (TaskRunner.withDirectory path action) w) := by
  cases hb : (after action (w.entering inside p path)).machine.changeDirectory (Location.toString p) with
  | ok back =>
    rw [(withDirectory_restored hp hm hb).2]
    exact h.trans (h.machine _ back) (h.err _ _)
  | error f =>
    rw [after_of_error (withDirectory_stranded hp hm hb)]
    exact h.refl _

theorem moved_events : Moved fun w w' => w'.events = w.events where
  refl := fun _ => rfl
  trans := fun h h' => h'.trans h
  err := fun _ _ => rfl
  machine := fun _ _ => rfl

end Run

/-- The first body that is entered when a task is run is that of the task, in the directory of the task. -/
theorem firstEntered_runTask {m : Manager} {host : Host} {depth : Nat} {name : String} {args : List Data} {w : World}
    {e : Event} (h : w.firstEntered (after (m.runTask host depth name args) w) = some e) :
    ∃ task inside, m.registry.find? name = some task ∧
      w.machine.changeDirectory task.directory.toString = .ok inside ∧
      e = .entered task.name args task.directory inside.workingDirectory? := by
  rcases runTask_cases m host depth name args w with
    ⟨stop, w', hrun, hevents⟩ | ⟨depth, task, p, inside, rfl, hfind, hp, hm, hrun⟩
  · rw [after_of_error hrun, firstEntered_congr rfl hevents, firstEntered_self] at h
    cases h
  · have hp' : (w.dispatching task args).cwd? = some p := hp
    have hentering : (w.starting task args inside p).firstEntered
        (after (m.contextOf host depth task args).execute (w.starting task args inside p)) = some e := by
      rw [after_congr hrun] at h
      rw [← h]
      exact firstEntered_congr rfl (moved_events.directoryLeft _ hp' hm).symm
    exact ⟨task, inside, hfind, hm, firstEntered_execute _ (grows_runTask m host depth) hentering⟩

/-! ## The invocation -/

namespace Invocation

/-- The state in which the stages of an invocation begin. -/
def begun (w : World) : World := { w with log := ⟨Log.warning, w.log.handlers.filter (· ≠ .own) ++ [.own]⟩ }

theorem setupLog_begun (w : World) : setupLog (.int Log.warning) w = .ok () (begun w) := rfl

/-- The line that names a directory in the output. -/
def directoryLine (directory : Location) : String :=
  Text.stripSequences (lineStart ++ " " ++ s!"In {Location.path directory}.") ++ "\n"

/-- How an invocation comes to run the task that was asked for. -/
structure Dispatch where
  /-- The directory that is named in the output. -/
  directory : Location
  settings : Settings
  manager : Manager
  name : String
  args : List String
  /-- The state in which the task is run. -/
  state : World

/-- The way of an invocation from a state to a dispatch: the nearest Runfile is in the directory, the settings are those of the
directory, and the line about the directory is the last that is written before the task is run. -/
structure Dispatch.From (d : Dispatch) (words : List String) (w : World) : Prop where
  words : CommandWords.withoutMarker words = d.name :: d.args
  located : ∃ w₁, Runfile.locate none (begun w) = .ok ((Location.path d.directory).child Runfile.fileName) w₁
  configured : Settings.load w.machine (Location.path d.directory) = .ok d.settings
  commands : d.manager.commands = .ofSettings d.settings
  announced : ∃ before, d.state.err = before ++ (directoryLine d.directory).toUTF8

/-- The settings are those of the directory that is read, and the machine stays as it is. -/
theorem configure_eq_ok {directory : Path} {settings : Settings} {w w' : World}
    (h : configure directory w = .ok settings w') :
    Settings.load w.machine directory = .ok settings ∧ w'.machine = w.machine := by
  unfold configure at h
  obtain ⟨settings', w₁, hobserve, h⟩ := bind_eq_ok h
  obtain ⟨hload, rfl⟩ := observe_eq_ok hobserve
  obtain ⟨_, w₂, hset, h⟩ := bind_eq_ok h
  cases h
  refine ⟨hload, ?_⟩
  unfold setupLog at hset
  rw [bind_ok (get_apply w)] at hset
  obtain ⟨log, w₃, hlog, hset⟩ := bind_eq_ok hset
  obtain ⟨-, rfl⟩ := ofExcept_eq_ok hlog
  cases hset
  rfl

theorem load_eq_ok {settings : Settings} {runfile : Path} {m : Manager} {w w' : World}
    (h : load settings runfile w = .ok m w') :
    ∃ n w₁, (Manager.ofSettings settings).load runfile w = .ok (m, n) w₁ := by
  unfold load at h
  obtain ⟨⟨m', n⟩, w₁, hload, h⟩ := bind_eq_ok h
  cases h
  exact ⟨n, w₁, hload⟩

/-- The events of a computation whose stops are handled without any event are those of the computation. -/
theorem events_tryCatch {α : Type} {x : Run α} {handle : Stop → Run α}
    (hh : ∀ stop, Keeps (fun w w' => w'.events = w.events) (handle stop)) (w : World) :
    (after (tryCatch x handle) w).events = (after x w).events := by
  rw [after, tryCatch_apply]
  cases h : x w with
  | ok a w' => rw [after_of_ok h]
  | error stop w' =>
    rw [after_of_error h]
    exact hh stop w'

/-- The events of an invocation are those of its stages. -/
theorem events_main (host : Host) (words : List String) (w : World) :
    (after (main host words) w).events = (after (stages host (CommandWords.withoutMarker words)) (begun w)).events := by
  rw [main, after_bind_ok (setupLog_begun w), events_tryCatch moved_events.conclude]
  exact congrArg World.events (after_map _ (fun _ => (⟨.int 0, none⟩ : Conclusion)) (begun w))

theorem quiet_configure (directory : Path) : Keeps Quiet (configure directory) :=
  undisturbed_quiet.configure (fun _ _ => quiet_of_eq rfl rfl) directory

theorem grows_configure (directory : Path) : Keeps Grows (configure directory) :=
  undisturbed_grows.configure (fun _ _ => grows_of_eq rfl) directory

theorem grows_dispatch (host : Host) (m : Manager) (directory : Path) (words : List String) :
    Keeps Grows (dispatch host m directory words) := by
  have h := undisturbed_grows
  cases words with
  | nil => exact h.showHelp m
  | cons name args =>
    exact h.bind (grows_modify fun _ => rfl) fun _ => h.bind (h.notify _) fun _ =>
      h.bind (grows_runTask m host _ _ _) fun _ => h.pure _

/-- The state in which a task is run, after the line about the directory. -/
def announced (w : World) (directory : Location) : World :=
  { w with argv := w.argv.take 1, err := w.err ++ (directoryLine directory).toUTF8 }

/-- A dispatch with words is the run of the task that the first one names. -/
theorem after_dispatch (host : Host) (m : Manager) (directory : Location) (name : String) (args : List String) (w : World) :
    after (dispatch host m (Location.path directory) (name :: args)) w =
      after (m.runTask host Manager.maxDepth name (args.map .text)) (announced w directory) := by
  show after (do let _ ← m.runTask host Manager.maxDepth name (args.map .text)) (announced w directory) = _
  exact after_map _ (fun _ => ()) _

/-- Stages that enter a body have come to the dispatch, and enter it there. -/
theorem stages_of_firstEntered {host : Host} {words : List String} {w : World} {e : Event}
    (h : w.firstEntered (after (stages host words) w) = some e) :
    ∃ runfile settings m w₁ w₂ w₃, Runfile.locate none w = .ok runfile w₁ ∧ configure runfile.parent w₁ = .ok settings w₂ ∧
      load settings runfile w₂ = .ok m w₃ ∧ Quiet w₂ w₃ ∧
      after (stages host words) w = after (dispatch host m runfile.parent words) w₃ ∧
      w₃.firstEntered (after (dispatch host m runfile.parent words) w₃) = some e := by
  have hdispatch (m : Manager) (directory : Path) := grows_dispatch host m directory words
  have hload (settings : Settings) (runfile : Path) :=
    undisturbed_grows.bind (undisturbed_grows.loadRunfile settings runfile) fun m => hdispatch m runfile.parent
  unfold stages at h ⊢
  obtain ⟨runfile, w₁, hlocated, -, h⟩ := firstEntered_bind (undisturbed_quiet.locate none)
    (fun runfile => undisturbed_grows.bind (grows_configure runfile.parent) fun settings => hload settings runfile) h
  obtain ⟨settings, w₂, hconfigured, -, h⟩ := firstEntered_bind (quiet_configure _) (fun settings => hload settings runfile) h
  obtain ⟨m, w₃, hloaded, hquiet, h⟩ := firstEntered_bind (undisturbed_quiet.loadRunfile _ _)
    (fun m => hdispatch m runfile.parent) h
  refine ⟨runfile, settings, m, w₁, w₂, w₃, hlocated, hconfigured, hloaded, hquiet, ?_, h⟩
  rw [after_bind_ok hlocated, after_bind_ok hconfigured, after_bind_ok hloaded]

/-- An invocation that enters a body has come to a dispatch, and its tasks are of the directory that the path of the Runfile leads
to, with no link on the way. -/
theorem dispatch_of_firstEntered {host : Host} {words : List String} {w : World} {e : Event}
    (hnamed : w.machine.place.location.Named) (h : w.firstEntered (after (main host words) w) = some e) :
    ∃ (d : Dispatch) (f : Location), d.From words w ∧
      (after (main host words) w).events =
        (after (d.manager.runTask host Manager.maxDepth d.name (d.args.map .text)) d.state).events ∧
      d.state.firstEntered (after (d.manager.runTask host Manager.maxDepth d.name (d.args.map .text)) d.state) = some e ∧
      w.machine.files.walk true w.machine.place ((Location.path d.directory).child Runfile.fileName).toString = .ok f ∧
      d.state.machine.files.Clear f ∧ f.Named ∧
      ∀ name t, d.manager.registry.find? name = some t → t.directory = Location.path f.tail := by
  rw [events_main]
  have hstages : (begun w).firstEntered (after (stages host (CommandWords.withoutMarker words)) (begun w)) = some e := by
    rw [← h]
    exact firstEntered_congr rfl (events_main host words w).symm
  obtain ⟨found, settings, m, w₂, w₃, w₄, hlocate, hsettings, hm, hquiet, hafter, hdispatch⟩ := stages_of_firstEntered hstages
  rw [hafter]
  have hbegun : (begun w).machine.place.location.Named := hnamed
  obtain ⟨hmachine, D, rfl, hDnamed, f, hwalk⟩ := Runfile.locate_eq_ok hbegun hlocate
  have hparent : ((Location.path D).child Runfile.fileName).parent = Location.path D := by
    rw [Runfile.path_child, Location.parent_path]
    rfl
  rw [hparent] at hsettings hdispatch ⊢
  obtain ⟨hconfigured, hmachine'⟩ := configure_eq_ok hsettings
  rw [hmachine] at hconfigured
  have hw₃ : w₃.machine = w.machine := hmachine'.trans hmachine
  obtain ⟨n, w₅, hmanager⟩ := load_eq_ok hm
  have hwalk₃ : w₃.machine.files.walk true w₃.machine.place (Location.toString (Runfile.fileName :: D)) = .ok f := by
    rw [hw₃, Location.toString, ← Runfile.path_child]
    exact hwalk
  rw [Runfile.path_child] at hmanager
  obtain ⟨hcommands, htasks⟩ := directory_of_load rfl hDnamed hwalk₃ hmanager
  obtain ⟨-, hclear, hfnamed⟩ := FileSystem.goes_of_walk_toString hDnamed hwalk₃
  cases hwords : CommandWords.withoutMarker words with
  | nil =>
    have hhelp : w₄.firstEntered (after (dispatch host m (Location.path D) []) w₄) = none :=
      firstEntered_of_quiet (undisturbed_quiet.showHelp m w₄)
    rw [hwords, hhelp] at hdispatch
    cases hdispatch
  | cons name args =>
    rw [hwords, after_dispatch] at hdispatch
    rw [after_dispatch]
    refine ⟨⟨D, settings, m, name, args, announced w₄ D⟩, f, ⟨hwords, ⟨w₂, hlocate⟩, hconfigured, hcommands, ⟨w₄.err, rfl⟩⟩,
      rfl, ?_, hwalk, ?_, hfnamed, htasks⟩
    · rw [← hdispatch]
      exact firstEntered_congr rfl rfl
    · show w₄.machine.files.Clear f
      rw [hquiet.1]
      exact hclear

/-- The directories of an invocation. Let an invocation enter a body: the first one is that of the task that was asked for. The
directory that the output names is the one that the nearest Runfile is in by its path, and the settings are those of this directory;
the body is entered in the directory of the file that the path leads to, which is also the directory of the task. They are one and
the same directory if and only if the path leads to a file in the directory that it names. -/
theorem main_enters_directory_of_runfile {host : Host} {words : List String} {w : World} {task : String} {args : List Data}
    {directory : Path} {cwd : Option Location} (hnamed : w.machine.place.location.Named)
    (h : w.firstEntered (after (main host words) w) = some (.entered task args directory cwd)) :
    ∃ (d : Dispatch) (f : Location), d.From words w ∧
      (after (main host words) w).events =
        (after (d.manager.runTask host Manager.maxDepth d.name (d.args.map .text)) d.state).events ∧
      w.machine.files.walk true w.machine.place ((Location.path d.directory).child Runfile.fileName).toString = .ok f ∧
      directory = Location.path f.tail ∧ cwd = some f.tail ∧
      ((directory = Location.path d.directory ∧ cwd = some d.directory) ↔ f.tail = d.directory) := by
  obtain ⟨d, f, hd, hevents, hfirst, hwalk, hclear, hfnamed, htasks⟩ := dispatch_of_firstEntered hnamed h
  obtain ⟨t, inside, ht, hinside, hentered⟩ := firstEntered_runTask hfirst
  cases hentered
  have hdirectory := htasks d.name t ht
  have hcwd : inside.workingDirectory? = some f.tail := by
    rw [hdirectory] at hinside
    exact Machine.workingDirectory?_of_changeDirectory hclear.tail
      (fun name hn => hfnamed name (List.mem_of_mem_tail hn)) hinside
  refine ⟨d, f, hd, hevents, hwalk, hdirectory, hcwd, ?_⟩
  rw [hdirectory, hcwd]
  constructor
  · rintro ⟨-, hsame⟩
    exact Option.some.inj hsame
  · intro hsame
    rw [hsame]
    exact ⟨rfl, rfl⟩

namespace LinkedRunfile
open Runfile

/-- A directory in which the Runfile is a link to a file in another directory. -/
def files : FileSystem :=
  (((FileSystem.empty.makeDirectory ["p"]).makeDirectory ["real"]).putFile ["Rf", "real"] "r".toUTF8).makeLink
    ["Runfile", "p"] "../real/Rf"

/-- A task that does nothing. -/
def statements : List Statement := [.run (.text "x") (.steps [])]

def world : World :=
  { World.initial ⟨files, ⟨["p"], 1⟩, ⟨[], []⟩, Assoc.empty⟩ ["runner", "x"] with
    abbreviations := Assoc.ofList [("r", statements)] }

/-- Commands do nothing here. -/
def host : Host := fun _ _ m => ⟨.ok 0, ByteArray.empty, ByteArray.empty, m.files, m.input.rest⟩

def task : Task := ⟨"x", none, .steps [], Location.path ["real"], 0⟩

def manager : Manager := ⟨.ofSettings default, ⟨Assoc.empty.insert "x" task⟩⟩

/-- The state in which the Runfile has been found. -/
def located : World := after (locate none) (begun world)

/-- The state in which the settings have been read. -/
def configured : World := after (configure (Location.path ["p"])) located

/-- The state in which the Runfile gets a scope. -/
def opening : World := configured.debugged "runx.manager" ("Loading " ++ (Location.path ["Rf", "real"]).toString)

/-- The state in which the statements have been executed. -/
def executed : World :=
  after (executeAll 0 statements) (starting 0 (Location.path ["Rf", "real"]) (opened opening ["real"]))

/-- The state in which the Runfile has been loaded. -/
def loaded : World :=
  let count := 1
  let runfile := (Location.path ["p"]).child fileName
  (ended 0 (opened opening ["real"]) executed).debugged logger s!"Loaded {count} task(s) from {runfile}"

theorem abbreviations_opening : opening.abbreviations = world.abbreviations := by
  have hR : Written fun w w' : World => w'.abbreviations = w.abbreviations :=
    { refl := fun _ => rfl, trans := fun h h' => h'.trans h, err := fun _ _ => rfl }
  have hlocated : located.abbreviations = (begun world).abbreviations := hR.locate none _
  have hconfigured : configured.abbreviations = located.abbreviations := hR.configure (fun _ _ => rfl) _ _
  exact hconfigured.trans hlocated

theorem size_opening : opening.scopes.size = 0 := by decide +kernel

theorem evaluate_world : evaluate 0 (Location.path ["Rf", "real"]) (opened opening ["real"]) =
    .ok [task] (ended 0 (opened opening ["real"]) executed) := by
  have hread : readStatements (Location.path ["Rf", "real"])
      (starting 0 (Location.path ["Rf", "real"]) (opened opening ["real"])) =
        .ok statements (starting 0 (Location.path ["Rf", "real"]) (opened opening ["real"])) := by
    have htext : (starting 0 (Location.path ["Rf", "real"]) (opened opening ["real"])).machine.readText
        (Location.path ["Rf", "real"]).toString = .ok "r" := ok_of_toOption (by decide +kernel)
    refine readStatements_ok htext ?_
    have habbreviations : (starting 0 (Location.path ["Rf", "real"]) (opened opening ["real"])).abbreviations =
        Assoc.ofList [("r", statements)] := abbreviations_opening
    rw [habbreviations]
    exact read_abbreviation statements
  exact evaluate_of_statements (by decide +kernel) hread (eq_ok_of_outcome (by decide +kernel)) (by with_unfolding_all rfl)

theorem load_world : load default ((Location.path ["p"]).child fileName) configured = .ok manager loaded := by
  have hresolve : configured.machine.resolve ((Location.path ["p"]).child fileName) = .ok ["Rf", "real"] :=
    ok_of_toOption (by decide +kernel)
  have hopen : opening.machine.resolve (Location.path ["real"]) = .ok ["real"] := ok_of_toOption (by decide +kernel)
  have hmanager : (Manager.ofSettings default).load ((Location.path ["p"]).child fileName) configured =
      .ok (manager, 1) (ended 0 (opened opening ["real"]) executed) := by
    unfold Manager.load
    rw [bind_ok (observe_ok hresolve), bind_ok (debug_apply _ _ _)]
    show (openScope (Location.path ["real"]) >>= _) opening = _
    rw [bind_ok (openScope_ok hopen), size_opening]
    show (evaluate 0 (Location.path ["Rf", "real"]) >>= _) (opened opening ["real"]) = _
    rw [bind_ok evaluate_world]
    with_unfolding_all rfl
  unfold Invocation.load
  rw [bind_ok hmanager]
  rfl

/-- What the first entry of a body says of its directories. -/
def directories? : Option Event → Option (Path × Option Location)
  | some (.entered _ _ directory cwd) => some (directory, cwd)
  | _ => none

theorem locate_world : locate none (begun world) = .ok ((Location.path ["p"]).child fileName) located :=
  eq_ok_of_outcome (by decide +kernel)

/-- The invocation leaves what its dispatch leaves. -/
theorem after_main_world :
    after (main host ["x"]) world = after (dispatch host manager (Location.path ["p"]) ["x"]) loaded := by
  have hconfigure : configure (Location.path ["p"]) located = .ok default configured :=
    eq_ok_of_outcome (by decide +kernel)
  have hdispatch : dispatch host manager (Location.path ["p"]) ["x"] loaded =
      .ok () (after (dispatch host manager (Location.path ["p"]) ["x"]) loaded) := eq_ok_of_outcome (by decide +kernel)
  have hstages : stages host ["x"] (begun world) =
      .ok () (after (dispatch host manager (Location.path ["p"]) ["x"]) loaded) := by
    unfold stages
    rw [bind_ok locate_world]
    show (configure (Location.path ["p"]) >>= _) located = _
    rw [bind_ok hconfigure, bind_ok load_world]
    exact hdispatch
  have hwords : CommandWords.withoutMarker ["x"] = ["x"] := by decide +kernel
  rw [main, after_bind_ok (setupLog_begun world), hwords]
  refine after_of_ok (a := ⟨.int 0, none⟩) ?_
  rw [tryCatch_apply, bind_ok hstages]
  rfl

theorem firstEntered_world : directories? (world.firstEntered (after (main host ["x"]) world)) =
    some (Location.path ["real"], some ["real"]) := by
  rw [after_main_world]
  decide +kernel

end LinkedRunfile

open LinkedRunfile in
/-- The directory that the output names may be another one than the directory that the body is entered in. -/
theorem main_enters_named_directory_false :
    (after (main host ["x"]) world).err = (directoryLine ["p"]).toUTF8 ∧
      directories? (world.firstEntered (after (main host ["x"]) world)) = some (Location.path ["real"], some ["real"]) := by
  refine ⟨?_, firstEntered_world⟩
  rw [after_main_world]
  decide +kernel

open LinkedRunfile in
/-- The way of that invocation: it names the directory of the link, and the link leads to a file in the other one. -/
theorem main_enters_directory_of_linked_runfile :
    ∃ (d : Dispatch) (f : Location), d.From ["x"] world ∧ d.directory = ["p"] ∧
      world.machine.files.walk true world.machine.place ((Location.path ["p"]).child Runfile.fileName).toString = .ok f ∧
      f.tail = ["real"] := by
  have hnamed : world.machine.place.location.Named := by
    intro name hn
    rw [List.mem_singleton.1 hn]
    constructor <;> decide
  obtain ⟨task, args, hentered⟩ : ∃ task args, world.firstEntered (after (main host ["x"]) world) =
      some (.entered task args (Location.path ["real"]) (some ["real"])) := by
    have h := firstEntered_world
    unfold directories? at h
    split at h
    · rename_i heq
      cases h
      exact ⟨_, _, heq⟩
    · cases h
  obtain ⟨d, f, hd, -, hwalk, -, hcwd, -⟩ := main_enters_directory_of_runfile hnamed hentered
  obtain ⟨w₁, hlocated⟩ := hd.located
  have hdirectory : d.directory = ["p"] := by
    rw [locate_world] at hlocated
    injection hlocated with hpaths
    rw [Runfile.path_child, Runfile.path_child] at hpaths
    have hnames : (Runfile.fileName :: ["p"]).reverse = (Runfile.fileName :: d.directory).reverse :=
      congrArg Path.names hpaths
    exact (List.cons.inj (List.reverse_injective hnames)).2.symm
  rw [hdirectory] at hwalk
  exact ⟨d, f, hd, hdirectory, hwalk, (Option.some.inj hcwd).symm⟩

end Invocation
end TaskRunner
