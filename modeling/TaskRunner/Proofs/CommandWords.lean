import TaskRunner.Proofs.Stages

/-!
# The words of a command line

No word of a command line is an option of the runner. The words are kept as they are and in their order, but for a double hyphen that
nothing precedes but words that look like options: the first one is dropped. The first word that is kept is the name of a task, and
the others are the arguments that its body is entered with (`Invocation.main_reads_words`).
-/

namespace TaskRunner

/-! ## The scan -/

namespace CommandWords

variable {word : String} {words passed before : List String}

/-- No letter behind a hyphen is an option, so that all of them are put together again. -/
theorem clusterLeft_eq (hyphen : Char) {letters : List Char} (h : letters ≠ []) :
    clusterLeft hyphen letters = some (String.ofList (hyphen :: letters)) := by
  have hall : (letters.filter fun c => !options.contains (String.ofList [hyphen, c])) = letters :=
    List.filter_eq_self.2 fun _ _ => rfl
  rw [clusterLeft, hall]
  cases letters with
  | nil => exact absurd rfl h
  | cons c rest => rfl

/-- A word that looks like an option is kept as it is, whether it is a cluster of letters or one long name, with a value or without. -/
theorem left_of_isOptionLike (h : isOptionLike word = true) : left word = some word := by
  have hnone (name : String) : options.contains name = false := rfl
  unfold left
  rw [hnone, if_neg Bool.false_ne_true]
  split
  · rfl
  · have hlength : 2 ≤ word.toList.length := by
      rw [isOptionLike, Bool.and_eq_true, decide_eq_true_iff] at h
      rw [String.length_toList]
      exact h.2
    cases hword : word.toList with
    | nil =>
      rw [hword, List.length_nil] at hlength
      omega
    | cons hyphen letters =>
      have hletters : letters ≠ [] := by
        rintro rfl
        rw [hword, List.length_singleton] at hlength
        omega
      dsimp only
      rw [clusterLeft_eq hyphen hletters, ← hword, String.ofList_toList]

/-- A scan passes words that look like options, and keeps them. -/
theorem scan_append (h : ∀ word ∈ before, isOptionLike word = true ∧ word ≠ "--") (passed rest : List String) :
    scan passed (before ++ rest) = scan (passed ++ before) rest := by
  induction before generalizing passed with
  | nil => rw [List.nil_append, List.append_nil]
  | cons word before ih =>
    obtain ⟨hlike, hmarker⟩ := h word List.mem_cons_self
    rw [List.cons_append, scan, if_neg hmarker, if_pos hlike, left_of_isOptionLike hlike,
      ih fun word hword => h word (List.mem_cons_of_mem _ hword)]
    show scan (passed ++ [word] ++ before) rest = _
    rw [List.append_assoc, List.singleton_append]

theorem scan_marker (passed rest : List String) : scan passed ("--" :: rest) = ⟨passed, rest⟩ := if_pos rfl

/-- Where no double hyphen has nothing but words before it that look like options, a scan keeps all words. -/
theorem words_scan (h : ∀ before after, words = before ++ "--" :: after → ∃ word ∈ before, isOptionLike word = false)
    (passed : List String) : (scan passed words).words = passed ++ words := by
  -- by induction on the words: as long as they look like options the condition is passed on to the rest
  induction words generalizing passed with
  | nil => rfl
  | cons word rest ih =>
    have hmarker : word ≠ "--" := by
      rintro rfl
      obtain ⟨word, hword, -⟩ := h [] rest rfl
      cases hword
    rw [scan, if_neg hmarker]
    cases hlike : isOptionLike word with
    | false => rfl
    | true =>
      have hrest (before after : List String) (hb : rest = before ++ "--" :: after) :
          ∃ word ∈ before, isOptionLike word = false := by
        obtain ⟨word', hword', hplain⟩ := h (word :: before) after (by rw [hb, List.cons_append])
        rcases List.mem_cons.1 hword' with rfl | hword'
        · rw [hlike] at hplain
          cases hplain
        · exact ⟨word', hword', hplain⟩
      rw [if_pos rfl, left_of_isOptionLike hlike, ih hrest]
      show passed ++ [word] ++ rest = _
      rw [List.append_assoc, List.singleton_append]

/-- The first double hyphen is dropped if every word before it looks like an option. -/
theorem withoutMarker_of_marked {after : List String} (hfirst : "--" ∉ before)
    (hlike : ∀ word ∈ before, isOptionLike word = true) : withoutMarker (before ++ "--" :: after) = before ++ after := by
  have hpassed (word : String) (hword : word ∈ before) : isOptionLike word = true ∧ word ≠ "--" :=
    ⟨hlike word hword, fun h => hfirst (h ▸ hword)⟩
  rw [withoutMarker, scan_append hpassed, scan_marker, List.nil_append]
  rfl

/-- All words are kept where there is no such double hyphen. -/
theorem withoutMarker_of_unmarked
    (h : ∀ before after, words = before ++ "--" :: after → ∃ word ∈ before, isOptionLike word = false) :
    withoutMarker words = words := words_scan h []

/-- All words are kept if the first does not look like an option. -/
theorem withoutMarker_of_plain (h : isOptionLike word = false) (rest : List String) :
    withoutMarker (word :: rest) = word :: rest := by
  refine withoutMarker_of_unmarked fun before after hwords => ?_
  cases before with
  | nil =>
    obtain ⟨rfl, -⟩ := List.cons.inj hwords
    exact absurd h (by decide +kernel)
  | cons first before =>
    obtain ⟨rfl, -⟩ := List.cons.inj hwords
    exact ⟨word, List.mem_cons_self, h⟩

end CommandWords

/-! ## The first entry -/

namespace Manager

variable {m : Manager} {call : TaskCall} {e : Event}

/-- What a call enters is the body of the task of its name, with its arguments. -/
theorem entered?_eq_some (h : m.entered? call = some e) :
    ∃ t cwd, m.registry.find? call.name = some t ∧ e = .entered t.name call.args t.directory cwd := by
  obtain ⟨b, hb, rfl⟩ := Option.map_eq_some_iff.1 h
  obtain ⟨-, hfind, -⟩ := begins_eq_some hb
  exact ⟨b.task, _, hfind, rfl⟩

/-- The first body that is entered while a task runs is that of the task, if any is. -/
theorem entered_calls (m : Manager) (host : Host) (depth : Nat) (name : String) (args : List Data) (w : World) :
    (m.entered? ⟨depth, name, args, w⟩ = none ∧ (m.calls host depth name args w).filterMap m.entered? = []) ∨
      ∃ e more, m.entered? ⟨depth, name, args, w⟩ = some e ∧
        (m.calls host depth name args w).filterMap m.entered? = e :: more := by
  cases depth with
  | zero => exact .inl ⟨rfl, rfl⟩
  | succ depth =>
    rw [calls, List.filterMap_cons]
    cases hb : m.begins ⟨depth + 1, name, args, w⟩ with
    | none =>
      have hentry : m.entered? ⟨depth + 1, name, args, w⟩ = none := by rw [entered?, hb]; rfl
      rw [hentry]
      exact .inl ⟨rfl, rfl⟩
    | some b =>
      have hentry : m.entered? ⟨depth + 1, name, args, w⟩ =
          some (.entered b.task.name args b.task.directory b.inside.workingDirectory?) := by rw [entered?, hb]; rfl
      rw [hentry]
      exact .inr ⟨_, _, rfl, rfl⟩

end Manager

/-! ## The invocation -/

namespace Invocation

open Run CommandWords

/-- An invocation has loaded a Runfile, into a manager and a state. -/
def Loaded (w : World) (runfile : Path) (m : Manager) (w' : World) : Prop :=
  ∃ settings w₁ w₂, Runfile.locate none (begun w) = .ok runfile w₁ ∧ configure runfile.parent w₁ = .ok settings w₂ ∧
    load settings runfile w₂ = .ok m w'

section loaded

variable {words : List String} {w w' : World} {runfile : Path} {m : Manager}

/-- Stages that have loaded the Runfile come to the dispatch. -/
theorem Loaded.stages (h : Loaded w runfile m w') (host : Host) (words : List String) :
    stages host words (begun w) = dispatch host m runfile.parent words w' := by
  obtain ⟨settings, w₁, w₂, hl, hc, hx⟩ := h
  exact (bind_ok hl _).trans ((bind_ok hc _).trans (bind_ok hx _))

/-- To load a Runfile is to enter no body. -/
theorem Loaded.entries (h : Loaded w runfile m w') : w'.entries = w.entries := by
  obtain ⟨settings, w₁, w₂, hl, hc, hx⟩ := h
  have hconfigure := idle_configure hl runfile.parent
  rw [after_of_ok hc] at hconfigure
  have hload := load_keeps hconfigure settings runfile
  rw [after_of_ok hx] at hload
  exact hload.2

/-- An invocation with words is the run of the task that the first one names, and its entries begin with that of this task. -/
theorem main_of_loaded (host : Host) {name : String} {args : List String} (h : Loaded w runfile m w')
    (hwords : withoutMarker words = name :: args) :
    (main host words w = match m.runTask host Manager.maxDepth name (args.map .text) (dispatching w' runfile.parent) with
      | .ok _ w'' => .ok ⟨.int 0, none⟩ w''
      | .error stop w'' => conclude stop w'') ∧
    ((m.entered? ⟨Manager.maxDepth, name, args.map .text, dispatching w' runfile.parent⟩ = none ∧
        (after (main host words) w).entries = w.entries) ∨
      ∃ e more, m.entered? ⟨Manager.maxDepth, name, args.map .text, dispatching w' runfile.parent⟩ = some e ∧
        (after (main host words) w).entries = w.entries ++ e :: more) := by
  obtain ⟨hmain, -, hentries, -⟩ := main_of_words ((h.stages host _).trans (by rw [hwords]))
  rw [h.entries] at hentries
  refine ⟨hmain, ?_⟩
  rw [hentries]
  rcases m.entered_calls host Manager.maxDepth name (args.map .text) (dispatching w' runfile.parent) with
    ⟨hnone, hcalls⟩ | ⟨e, more, hsome, hcalls⟩
  · exact .inl ⟨hnone, by rw [hcalls, List.append_nil]⟩
  · exact .inr ⟨e, more, hsome, by rw [hcalls]⟩

end loaded

/-- How the words of a command line are read. They are kept as they are, in their order, but for the first double hyphen, if every
word before it looks like an option; so all of them are kept if the first does not. An invocation that has loaded the Runfile shows
the help if no word is kept. Otherwise it runs the task that the first of them names with the others as arguments: if any body is
entered, the first is that of this task, with these arguments, and it is entered wherever it can be. -/
theorem main_reads_words (host : Host) (words : List String) (w : World) :
    (∀ before after, words = before ++ "--" :: after → "--" ∉ before → (∀ word ∈ before, isOptionLike word = true) →
      withoutMarker words = before ++ after) ∧
    ((∀ before after, words = before ++ "--" :: after → ∃ word ∈ before, isOptionLike word = false) →
      withoutMarker words = words) ∧
    (∀ first rest, words = first :: rest → isOptionLike first = false → withoutMarker words = first :: rest) ∧
    ∀ runfile m w', Loaded w runfile m w' →
      match withoutMarker words with
      | [] => main host words w = .ok ⟨.int 0, none⟩ (w'.showing m.registry.help)
      | name :: args =>
        let state := dispatching w' runfile.parent
        (main host words w = match m.runTask host Manager.maxDepth name (args.map .text) state with
          | .ok _ w'' => .ok ⟨.int 0, none⟩ w''
          | .error stop w'' => conclude stop w'') ∧
        (∀ e more, (after (main host words) w).entries = w.entries ++ e :: more →
          ∃ t cwd, m.registry.find? name = some t ∧ e = .entered t.name (args.map .text) t.directory cwd) ∧
        ∀ t inside, m.registry.find? name = some t → t.body.isCallable = true → state.cwd?.isSome = true →
          state.machine.changeDirectory t.directory.toString = .ok inside →
          ∃ more, (after (main host words) w).entries =
            w.entries ++ .entered t.name (args.map .text) t.directory inside.workingDirectory? :: more := by
  refine ⟨?_, withoutMarker_of_unmarked, ?_, fun runfile m w' hloaded => ?_⟩
  · rintro before after rfl hfirst hlike
    exact withoutMarker_of_marked hfirst hlike
  · rintro first rest rfl hplain
    exact withoutMarker_of_plain hplain rest
  · cases hwords : withoutMarker words with
    | nil => exact (main_of_help ((hloaded.stages host _).trans (by rw [hwords]))).1
    | cons name args =>
      obtain ⟨hmain, hentries⟩ := main_of_loaded host hloaded hwords
      refine ⟨hmain, fun e more he => ?_, fun t inside hfind hbody hcwd hinside => ?_⟩
      · rcases hentries with ⟨-, hnone⟩ | ⟨e', more', hsome, hmore⟩
        · rw [hnone] at he
          cases List.append_right_eq_self.1 he.symm
        · rw [hmore] at he
          obtain ⟨rfl, -⟩ := List.cons.inj (List.append_cancel_left he)
          obtain ⟨t, cwd, hfind, hentry⟩ := Manager.entered?_eq_some hsome
          exact ⟨t, cwd, hfind, hentry⟩
      · have hentered := @Manager.entered?_of_changed m
          ⟨Manager.maxDepth, name, args.map .text, dispatching w' runfile.parent⟩ t inside hfind hinside
        have hdepth : 0 < Manager.maxDepth := by decide
        rw [if_pos ⟨hdepth, hbody, hcwd⟩] at hentered
        rcases hentries with ⟨hnone, -⟩ | ⟨e, more, hsome, hmore⟩
        · rw [hentered] at hnone
          cases hnone
        · rw [hentered] at hsome
          cases hsome
          exact ⟨more, hmore⟩

namespace PlainWords

open FailingCommands

/-- A name in capitals, and arguments that look like options. -/
def words : List String := ["INNER", "--", "-n=1", "--help", ""]

/-- The state in which the Runfile has been loaded. -/
def reached : World := after (load default runfile) configured

theorem loaded : Loaded world runfile manager reached := by
  obtain ⟨hlocate, hconfigure⟩ : (outcome (Runfile.locate none) (begun world)).toOption = some runfile ∧
      (outcome (configure runfile.parent) (after (Runfile.locate none) (begun world))).toOption = some default := by
    decide +kernel
  exact ⟨default, _, configured, eq_ok_of_outcome hlocate, eq_ok_of_outcome hconfigure,
    eq_ok_of_outcome (Option.some_get _).symm⟩

/-- The task that the name stands for. -/
def named : Task := (manager.registry.find? "INNER").get (by decide +kernel)

/-- The machine inside the directory of the task. -/
def inside : Machine :=
  ((dispatching reached runfile.parent).machine.changeDirectory named.directory.toString).toOption.get (by decide +kernel)

end PlainWords

open FailingCommands PlainWords in
/-- A body gets all words behind the name of its task, and a double hyphen before the name is dropped once. -/
theorem main_reads_words_plain :
    isOptionLike "INNER" = false ∧ withoutMarker words = words ∧ Loaded world runfile manager reached ∧
      (∃ more, (after (main host words) world).entries =
        .entered "inner" [.text "--", .text "-n=1", .text "--help", .text ""] (Location.path []) (some []) :: more) ∧
      withoutMarker ["-v", "--", "--", "x"] = ["-v", "--", "x"] := by
  have hplain : isOptionLike "INNER" = false := by decide +kernel
  obtain ⟨-, -, hwords, hrun⟩ := main_reads_words host words world
  have hkept := hwords "INNER" _ rfl hplain
  have hentered := hrun runfile manager reached loaded
  rw [hkept] at hentered
  obtain ⟨-, -, hentered⟩ := hentered
  obtain ⟨hcallable, hcwd, hname, hdirectory, hinside⟩ : named.body.isCallable = true ∧
      (dispatching reached runfile.parent).cwd?.isSome = true ∧ named.name = "inner" ∧
      named.directory = Location.path [] ∧ inside.workingDirectory? = some [] := by decide +kernel
  obtain ⟨more, hmore⟩ := hentered named inside (Option.some_get _).symm hcallable hcwd
    (ok_of_toOption (Option.some_get _).symm)
  rw [hname, hdirectory, hinside] at hmore
  obtain ⟨hmarked, -⟩ := main_reads_words host ["-v", "--", "--", "x"] world
  exact ⟨hplain, hkept, loaded, ⟨more, hmore⟩,
    hmarked ["-v"] ["--", "x"] rfl (by decide) (by decide +kernel)⟩

end Invocation
end TaskRunner
