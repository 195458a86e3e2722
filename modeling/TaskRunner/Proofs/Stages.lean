import TaskRunner.Proofs.ExitStatus
import TaskRunner.Proofs.Lemmas.Steps

/-!
# The stages of an invocation

An invocation locates a Runfile, reads the settings, loads the Runfile, and then shows the help or runs a task. A stage that is
stopped is the last one, and `Invocation.main_gates_stages` says what has happened until then: nothing but lines in the error output
before the Runfile is loaded, and no body and no change of the words of the command line before it has been loaded. The bodies of a
run are entered with the words taken away, after the line about the directory.
-/

namespace TaskRunner

open Run

/-- Nothing has changed but what is in the error output and how the log is set up. -/
def World.Idle (w w' : World) : Prop := ∃ err log, w' = { w with err, log }

/-- The words of the command line are the same, and the error output has only grown. -/
def World.Announced (w w' : World) : Prop := w'.argv = w.argv ∧ ∃ more, w'.err = w.err ++ more

/-- The state after lines have been shown, one after the other, without the sequences that only a terminal understands. -/
def World.showing (w : World) (lines : List String) : World :=
  lines.foldl (fun w line => { w with err := w.err ++ (Text.stripSequences line ++ "\n").toUTF8 }) w

namespace Run

theorem written_idle : Written World.Idle where
  refl := fun w => ⟨w.err, w.log, rfl⟩
  trans := by
    rintro w _ _ ⟨err, log, rfl⟩ ⟨err', log', rfl⟩
    exact ⟨err', log', rfl⟩
  err := fun w more => ⟨w.err ++ more, w.log, rfl⟩

theorem idle_log (w : World) (log : Log) : w.Idle { w with log } := ⟨w.err, log, rfl⟩

/-- A relation that looks at nothing but the words of the command line and the error output is not broken by a body or by the
statements of a Runfile, if it is not broken by what is written to the error output. -/
theorem bodily_of_written {R : World → World → Prop} (h : Written R)
    (hsame : ∀ {w w' : World}, w'.argv = w.argv → w'.err = w.err → R w w') : Bodily R where
  toWritten := h
  out := fun _ _ => hsame rfl rfl
  asked := fun _ _ _ => hsame rfl rfl
  bound := fun _ _ _ _ => hsame rfl rfl
  opened := fun _ _ => hsame rfl rfl
  closed := fun _ _ => hsame rfl rfl
  handles := fun _ _ => hsame rfl rfl
  place := fun _ _ => hsame rfl rfl
  got := fun _ _ => hsame rfl rfl
  caught := fun _ _ => hsame rfl rfl
  machine := fun _ _ => hsame rfl rfl
  done := fun _ _ _ _ => hsame rfl rfl
  recovered := fun _ _ _ _ => hsame rfl rfl

/-- No stage but the last touches the words of the command line. -/
theorem bodily_argv : Bodily fun w w' => w'.argv = w.argv :=
  bodily_of_written ⟨⟨fun _ => rfl, fun h h' => h'.trans h⟩, fun _ _ => rfl⟩ fun h _ => h

theorem announced_of_eq {w w' : World} (hargv : w'.argv = w.argv) (herr : w'.err = w.err) : w.Announced w' :=
  ⟨hargv, ByteArray.empty, by rw [herr, ByteArray.append_empty]⟩

theorem bodily_announced : Bodily World.Announced := by
  refine bodily_of_written ⟨⟨fun _ => announced_of_eq rfl rfl, ?_⟩, fun _ more => ⟨rfl, more, rfl⟩⟩ announced_of_eq
  rintro w w' w'' ⟨hargv, more, herr⟩ ⟨hargv', more', herr'⟩
  exact ⟨hargv'.trans hargv, more ++ more', by rw [herr', herr, ByteArray.append_assoc]⟩

end Run

namespace Manager

/-- The help is shown line by line. -/
theorem showHelp_apply (m : Manager) (w : World) : m.showHelp w = .ok () (w.showing m.registry.help) := by
  have hall (lines : List String) : showHelp.showAll lines w = .ok () (w.showing lines) := by
    induction lines generalizing w with
    | nil => rfl
    | cons line rest ih => exact ih _
  exact hall _

end Manager

namespace World

variable {w w' : World}

theorem Idle.argv (h : w.Idle w') : w'.argv = w.argv := by
  obtain ⟨err, log, rfl⟩ := h
  rfl

theorem Idle.out (h : w.Idle w') : w'.out = w.out := by
  obtain ⟨err, log, rfl⟩ := h
  rfl

theorem Idle.entries (h : w.Idle w') : w'.entries = w.entries := by
  obtain ⟨err, log, rfl⟩ := h
  rfl

end World

namespace Invocation

section stages

variable {host : Host} {words : List String} {w w' w₁ w₂ w₃ : World} {runfile directory : Path} {settings : Settings} {m : Manager}

/-! ## What the stages leave -/

theorem idle_locate (w : World) : w.Idle (after (Runfile.locate none) (begun w)) :=
  written_idle.trans (idle_log w _) (written_idle.locate none (begun w))

theorem idle_configure (hl : Runfile.locate none (begun w) = .ok runfile w₁) (directory : Path) :
    w.Idle (after (configure directory) w₁) := by
  have hlocate := idle_locate w
  rw [after_of_ok hl] at hlocate
  exact written_idle.trans hlocate (written_idle.configure idle_log directory w₁)

/-- The end of an invocation adds no more than a report to what its stages leave. -/
theorem idle_main (host : Host) (words : List String) (w : World) :
    (after (stages host (CommandWords.withoutMarker words)) (begun w)).Idle (after (main host words) w) := by
  have hmain := main_eq host words w
  cases hs : stages host (CommandWords.withoutMarker words) (begun w) with
  | ok u w' =>
    rw [hs] at hmain
    rw [after_of_ok hs, after_of_ok hmain]
    exact written_idle.refl w'
  | error stop w' =>
    rw [hs] at hmain
    rw [after_of_error hs, after_congr hmain]
    exact written_idle.conclude stop w'

/-- What stops the stages is what the invocation concludes with, and nothing but the report comes after it. -/
theorem main_of_stopped (host : Host) (words : List String) {stop : Stop}
    (h : stages host (CommandWords.withoutMarker words) (begun w) = .error stop w') :
    main host words w = conclude stop w' ∧ w'.Idle (after (main host words) w) := by
  have hmain := idle_main host words w
  rw [after_of_error h] at hmain
  exact ⟨by rw [main_eq, h], hmain⟩

/-- A Runfile that is loaded changes no words and enters no body. -/
theorem load_keeps (h : w.Idle w₂) (settings : Settings) (runfile : Path) :
    (after (load settings runfile) w₂).argv = w.argv ∧ (after (load settings runfile) w₂).entries = w.entries :=
  ⟨(bodily_argv.loadRunfile settings runfile w₂).trans h.argv, (bodily_entries.loadRunfile settings runfile w₂).trans h.entries⟩

/-! ## The dispatch -/

/-- Stages that come to a dispatch without words show the help. -/
theorem main_of_help
    (h : stages host (CommandWords.withoutMarker words) (begun w) = dispatch host m directory [] w₃) :
    main host words w = .ok ⟨.int 0, none⟩ (w₃.showing m.registry.help) ∧ w₃.Idle (after (main host words) w) := by
  have hdispatch : dispatch host m directory [] w₃ = .ok () (w₃.showing m.registry.help) := m.showHelp_apply w₃
  have hidle := written_idle.showHelp m w₃
  have hmain : main host words w = .ok ⟨.int 0, none⟩ (w₃.showing m.registry.help) := by rw [main_eq, h, hdispatch]
  rw [after_of_ok (m.showHelp_apply w₃)] at hidle
  rw [after_of_ok hmain]
  exact ⟨hmain, hidle⟩

/-- Stages that come to a dispatch with words run the task that these name, with the words taken away. -/
theorem main_of_words {name : String} {args : List String}
    (h : stages host (CommandWords.withoutMarker words) (begun w) = dispatch host m directory (name :: args) w₃) :
    let state := dispatching w₃ directory
    let calls := m.calls host Manager.maxDepth name (args.map .text) state
    (main host words w = match m.runTask host Manager.maxDepth name (args.map .text) state with
      | .ok _ w' => .ok ⟨.int 0, none⟩ w'
      | .error stop w' => conclude stop w') ∧
    (after (main host words) w).argv = w₃.argv.take 1 ∧
    (after (main host words) w).entries = w₃.entries ++ calls.filterMap m.entered? ∧
    (∀ call ∈ calls, call.state.argv = w₃.argv.take 1 ∧ ∃ more, call.state.err = state.err ++ more) ∧
    (m.registry.find? name = none →
      main host words w = conclude (.failure (.unknownTask name)) state ∧ (after (main host words) w).entries = w₃.entries) := by
  intro state calls
  have hmain : main host words w = match m.runTask host Manager.maxDepth name (args.map .text) state with
      | .ok _ w' => .ok ⟨.int 0, none⟩ w'
      | .error stop w' => conclude stop w' := by
    rw [main_eq, h, dispatch_words, bind_apply]
    cases m.runTask host Manager.maxDepth name (args.map .text) state <;> rfl
  have hidle := idle_main host words w
  rw [after_congr (h.trans (dispatch_words host m directory name args w₃)), after_map _ fun _ => ()] at hidle
  have hargv : (after (m.runTask host Manager.maxDepth name (args.map .text)) state).argv = w₃.argv.take 1 :=
    bodily_argv.runTask (fun _ _ _ _ _ => rfl) m host _ _ _ state
  have hentries : (after (m.runTask host Manager.maxDepth name (args.map .text)) state).entries =
      w₃.entries ++ calls.filterMap m.entered? := Manager.entries_runTask m host _ name _ state
  refine ⟨hmain, hidle.argv.trans hargv, hidle.entries.trans hentries, fun call hcall => ?_, fun hunknown => ?_⟩
  · exact Manager.calls_keep bodily_announced (fun _ _ _ _ _ => announced_of_eq rfl rfl) hcall
  · have hrun := Manager.runTask_unknown hunknown host 999 (args.map .text) state
    have hstop : main host words w = conclude (.failure (.unknownTask name)) state := by
      rw [hmain, show Manager.maxDepth = 999 + 1 from rfl, hrun]
    refine ⟨hstop, ?_⟩
    rw [after_congr hstop]
    exact (written_idle.conclude _ state).entries

/-- The stages of an invocation. Where no Runfile is found, or its settings are refused, nothing has changed but what is in the error
output, and the Runfile has not been loaded. Where the Runfile cannot be loaded, the words of the command line are as they were and
no body has been entered. Where it has been loaded and there are no words, the help is shown on the error output, and that is all. With
words, the invocation is that of the task which they name, in a state with the words taken away and the line about the directory
written: the bodies that are entered are those that the calls of the run come to, and each of these calls is made in a state with the
words taken away, after that line. A name that has no task enters no body. The invocation concludes as the stage that was stopped. -/
theorem main_gates_stages (host : Host) (words : List String) (w : World) :
    match Runfile.locate none (begun w) with
    | .error stop w₁ => main host words w = conclude stop w₁ ∧ w.Idle (after (main host words) w)
    | .ok runfile w₁ =>
      match configure runfile.parent w₁ with
      | .error stop w₂ => main host words w = conclude stop w₂ ∧ w.Idle (after (main host words) w)
      | .ok settings w₂ => w.Idle w₂ ∧
        match load settings runfile w₂ with
        | .error stop w₃ => main host words w = conclude stop w₃ ∧
            (after (main host words) w).argv = w.argv ∧ (after (main host words) w).entries = w.entries
        | .ok m w₃ => w₃.argv = w.argv ∧ w₃.entries = w.entries ∧
          match CommandWords.withoutMarker words with
          | [] => main host words w = .ok ⟨.int 0, none⟩ (w₃.showing m.registry.help) ∧
              (after (main host words) w).out = w₃.out ∧
              (after (main host words) w).argv = w.argv ∧ (after (main host words) w).entries = w.entries
          | name :: args =>
            let state := ({ w₃ with argv := w.argv.take 1 } : World).told s!"In {runfile.parent}."
            let calls := m.calls host Manager.maxDepth name (args.map .text) state
            (main host words w = match m.runTask host Manager.maxDepth name (args.map .text) state with
              | .ok _ w' => .ok ⟨.int 0, none⟩ w'
              | .error stop w' => conclude stop w') ∧
            (after (main host words) w).argv = w.argv.take 1 ∧
            (after (main host words) w).entries = w.entries ++ calls.filterMap m.entered? ∧
            (∀ call ∈ calls, call.state.argv = w.argv.take 1 ∧ ∃ more, call.state.err = state.err ++ more) ∧
            (m.registry.table.find? (Text.lower name) = none →
              main host words w = conclude (.failure (.unknownTask name)) state ∧
                (after (main host words) w).entries = w.entries) := by
  cases hl : Runfile.locate none (begun w) with
  | error stop w₁ =>
    have hlocate := idle_locate w
    rw [after_of_error hl] at hlocate
    have hmain := main_of_stopped host words (bind_error hl _)
    exact hmain.imp_right (written_idle.trans hlocate)
  | ok runfile w₁ =>
    have hconfigure := idle_configure hl runfile.parent
    dsimp only
    cases hc : configure runfile.parent w₁ with
    | error stop w₂ =>
      rw [after_of_error hc] at hconfigure
      have hmain := main_of_stopped host words ((bind_ok hl _).trans (bind_error hc _))
      exact hmain.imp_right (written_idle.trans hconfigure)
    | ok settings w₂ =>
      rw [after_of_ok hc] at hconfigure
      refine ⟨hconfigure, ?_⟩
      have hload := load_keeps hconfigure settings runfile
      cases hx : load settings runfile w₂ with
      | error stop w₃ =>
        rw [after_of_error hx] at hload
        have hmain := main_of_stopped host words
          ((bind_ok hl _).trans ((bind_ok hc _).trans (bind_error hx _)))
        exact ⟨hmain.1, hmain.2.argv.trans hload.1, hmain.2.entries.trans hload.2⟩
      | ok m w₃ =>
        rw [after_of_ok hx] at hload
        obtain ⟨hargv, hentries⟩ := hload
        refine ⟨hargv, hentries, ?_⟩
        have hstages : stages host (CommandWords.withoutMarker words) (begun w) =
            dispatch host m runfile.parent (CommandWords.withoutMarker words) w₃ :=
          (bind_ok hl _).trans ((bind_ok hc _).trans (bind_ok hx _))
        cases hwords : CommandWords.withoutMarker words with
        | nil =>
          obtain ⟨hmain, hidle⟩ := main_of_help (hstages.trans (by rw [hwords]))
          exact ⟨hmain, hidle.out, hidle.argv.trans hargv, hidle.entries.trans hentries⟩
        | cons name args =>
          have hmain := main_of_words (hstages.trans (by rw [hwords]))
          rw [dispatching, hargv, hentries] at hmain
          exact hmain

end stages

namespace EscapedDirectory

/-- A Runfile in a directory whose name has a sequence in it that only a terminal understands. -/
def files : FileSystem :=
  (FileSystem.empty.makeDirectory ["\x1b[1md"]).putFile ["Runfile", "\x1b[1md"] "r".toUTF8

def world (words : List String) : World :=
  { World.initial ⟨files, ⟨["\x1b[1md"], 1⟩, ⟨[], []⟩, Assoc.empty⟩ ("runner" :: words) with
    abbreviations := Assoc.ofList [("r", [.run (.text "x") (.steps [])])] }

/-- Commands do nothing here. -/
def host : Host := fun _ _ m => ⟨.ok 0, ByteArray.empty, ByteArray.empty, m.files, m.input.rest⟩

def runfile : Path := (Location.path ["\x1b[1md"]).child "Runfile"

/-- The state in which the settings have been read, with the word for a task that is not there. -/
def configured : World := after (configure runfile.parent) (after (Runfile.locate none) (begun (world ["Y"])))

def manager : Manager := (outcome (load default runfile) configured).toOption.get (by decide +kernel)

end EscapedDirectory

open EscapedDirectory in
/-- A body is entered after a line that does not name the directory of the Runfile, if the name of this has a sequence in it that
only a terminal understands. -/
theorem main_gates_stages_false :
    (after (main host ["x"]) (world ["x"])).err = "[runx] In /d.\n".toUTF8 ∧
      (after (main host ["x"]) (world ["x"])).entries.filterMap TwoOrigins.shown =
        [⟨"x", [], Location.path ["\x1b[1md"], some ["\x1b[1md"]⟩] := by
  decide +kernel

open EscapedDirectory in
/-- A name that has no task takes the words away, and enters no body. -/
theorem main_gates_stages_unknown_task :
    manager.registry.table.find? (Text.lower "Y") = none ∧
      (after (main host ["Y"]) (world ["Y"])).argv = ["runner"] ∧ (after (main host ["Y"]) (world ["Y"])).entries = [] := by
  obtain ⟨hwords, hlocate, hconfigure, hunknown⟩ : CommandWords.withoutMarker ["Y"] = ["Y"] ∧
      (outcome (Runfile.locate none) (begun (world ["Y"]))).toOption = some runfile ∧
      (outcome (configure runfile.parent) (after (Runfile.locate none) (begun (world ["Y"])))).toOption = some default ∧
      (manager.registry.table.find? (Text.lower "Y")).isNone = true := by decide +kernel
  have hload : load default runfile configured = .ok manager _ := eq_ok_of_outcome (Option.some_get _).symm
  have h := main_gates_stages host ["Y"] (world ["Y"])
  rw [eq_ok_of_outcome hlocate] at h
  dsimp only at h
  rw [eq_ok_of_outcome hconfigure] at h
  dsimp only at h
  rw [show after (configure runfile.parent) (after (Runfile.locate none) (begun (world ["Y"]))) = configured from rfl, hload,
    hwords] at h
  obtain ⟨-, -, -, -, hargv, -, -, hnone⟩ := h
  have hunknown' := Option.isNone_iff_eq_none.1 hunknown
  exact ⟨hunknown', hargv, (hnone hunknown').2⟩

end Invocation
end TaskRunner
