import Mathlib.Data.List.Induction
import TaskRunner.Proofs.Lemmas.Run
import TaskRunner.Proofs.Lemmas.Table

/-!
# Histories of the log

The log is set up again and again, to levels that there are and to names of none, while others add handlers of their own and messages
come. `log_of_requests` says what it is after any such history: it has one handler of the runner's as soon as it has been set up, all
foreign ones in the order in which they came, and the level that was set last; and from then on it writes each message of the runner's
loggers once, if the message has the level, and not at all if it has not.
-/

namespace TaskRunner

open Run

namespace Log

/-! ## Requests -/

/-- What can be asked of the log. -/
inductive Request where
  /-- To be set up to a level. -/
  | setup (level : Data)
  /-- To have a foreign handler added. -/
  | addForeign (number : Nat)
  /-- To take a message of a logger. -/
  | message (logger : String) (level : Int) (text : String)

namespace Request

/-- Carries a request out. -/
def perform : Request → Run Unit
  | .setup level => Run.setupLog level
  | .addForeign number => modify fun w => { w with log := w.log.addForeign number }
  | .message logger level text => Run.log logger level text

/-- The level that a request sets. -/
def sets? : Request → Option Int
  | .setup level => (levelOfData level).toOption
  | .addForeign _ | .message .. => none

/-- The foreign handler that a request adds. -/
def adds? : Request → Option Nat
  | .addForeign number => some number
  | .setup _ | .message .. => none

end Request

/-- The state after requests, each of which may have failed. -/
def afterAll (requests : List Request) (w : World) : World := requests.foldl (fun w r => after r.perform w) w

/-- The foreign handlers, in order. -/
def foreign (log : Log) : List Nat := log.handlers.filterMap Handler.number?

theorem afterAll_append (requests more : List Request) (w : World) :
    afterAll (requests ++ more) w = afterAll more (afterAll requests w) := List.foldl_append

theorem afterAll_snoc (requests : List Request) (r : Request) (w : World) :
    afterAll (requests ++ [r]) w = after r.perform (afterAll requests w) := afterAll_append requests [r] w

/-! ## One request -/

theorem perform_message (logger : String) (level : Int) (text : String) (w : World) :
    (Request.message logger level text).perform w =
      .ok () { w with err := w.err ++ (w.log.render logger level text).toUTF8 } := rfl

theorem foreign_addForeign (log : Log) (number : Nat) :
    (log.addForeign number).foreign = if number ∈ log.foreign then log.foreign else log.foreign ++ [number] := by
  have hmem : .foreign number ∈ log.handlers ↔ number ∈ log.foreign := by
    rw [foreign, List.mem_filterMap]
    constructor
    · exact fun h => ⟨_, h, rfl⟩
    · rintro ⟨_ | other, h, hother⟩
      · cases hother
      · cases hother
        exact h
  unfold addForeign
  by_cases h : Handler.foreign number ∈ log.handlers
  · rw [if_pos h, if_pos (hmem.1 h)]
  · rw [if_neg h, if_neg fun hn => h (hmem.2 hn), foreign, List.filterMap_append]
    rfl

/-- To set the log up is to leave the foreign handlers as they are. -/
theorem foreign_setup (handlers : List Handler) (n : Int) :
    foreign ⟨n, handlers.filter (· ≠ .own) ++ [.own]⟩ = foreign ⟨n, handlers⟩ := by
  have hfilter : foreign ⟨n, handlers.filter (· ≠ .own)⟩ = foreign ⟨n, handlers⟩ := by
    induction handlers with
    | nil => rfl
    | cons h rest ih =>
      cases h with
      | own => exact ih
      | foreign number => exact congrArg (number :: ·) ih
  rw [← hfilter, foreign, foreign, List.filterMap_append]
  exact List.append_nil _

theorem count_setup (handlers : List Handler) :
    (handlers.filter (· ≠ Handler.own) ++ [Handler.own]).count Handler.own = 1 := by
  have hnone : (handlers.filter (· ≠ Handler.own)).count Handler.own = 0 :=
    List.count_eq_zero.2 fun hmem => by simpa using (List.mem_filter.1 hmem).2
  rw [List.count_append, hnone]
  rfl

theorem count_addForeign (log : Log) (number : Nat) :
    (log.addForeign number).handlers.count .own = log.handlers.count .own := by
  unfold addForeign
  split
  · rfl
  · exact List.count_append

/-- What one request does to the level, the handler of the runner's and the foreign handlers. -/
theorem log_perform (r : Request) (w : World) :
    (after r.perform w).log.level = r.sets?.getD w.log.level ∧
      (after r.perform w).log.handlers.count .own = (if r.sets?.isSome then 1 else w.log.handlers.count .own) ∧
      (after r.perform w).log.foreign = (match r.adds? with
        | some number => if number ∈ w.log.foreign then w.log.foreign else w.log.foreign ++ [number]
        | none => w.log.foreign) := by
  cases r with
  | setup level =>
    cases h : levelOfData level with
    | ok n =>
      have hsets : (Request.setup level).sets? = some n := by rw [Request.sets?, h]; rfl
      rw [Request.perform, after_of_ok (setupLog_of_level h w), hsets]
      exact ⟨rfl, count_setup _, foreign_setup w.log.handlers n⟩
    | error f =>
      have hsets : (Request.setup level).sets? = none := by rw [Request.sets?, h]; rfl
      rw [Request.perform, after_of_error (setupLog_refused h w), hsets]
      exact ⟨rfl, rfl, rfl⟩
  | addForeign number =>
    refine ⟨?_, count_addForeign w.log number, foreign_addForeign w.log number⟩
    show (w.log.addForeign number).level = w.log.level
    unfold addForeign
    split <;> rfl
  | message logger level text => exact ⟨rfl, rfl, rfl⟩

/-- No request takes a foreign handler away or changes the order of those that are there. -/
theorem foreign_prefix_perform (r : Request) (w : World) : w.log.foreign <+: (after r.perform w).log.foreign := by
  rw [(log_perform r w).2.2]
  cases r.adds? with
  | none => exact List.prefix_refl _
  | some number =>
    dsimp only
    split
    · exact List.prefix_refl _
    · exact List.prefix_append _ _

/-! ## Histories -/

section history

variable {w : World} (requests : List Request)

/-- The level is the one that was set last. -/
theorem level_afterAll : (afterAll requests w).log.level = ((requests.filterMap Request.sets?).getLast?).getD w.log.level := by
  -- by induction from the end, since the request that comes last decides
  induction requests using List.reverseRecOn with
  | nil => rfl
  | append_singleton requests r ih =>
    rw [afterAll_snoc, (log_perform r _).1, ih, List.filterMap_append, List.getLast?_append]
    cases hr : r.sets? with
    | none =>
      rw [List.filterMap_cons_none hr]
      rfl
    | some n =>
      rw [List.filterMap_cons_some hr]
      rfl

/-- Of the runner's handlers there is one as soon as the log has been set up. -/
theorem count_afterAll (hnone : w.log.handlers.count .own = 0) :
    (afterAll requests w).log.handlers.count .own = if requests.filterMap Request.sets? = [] then 0 else 1 := by
  induction requests using List.reverseRecOn with
  | nil => exact hnone
  | append_singleton requests r ih =>
    rw [afterAll_snoc, (log_perform r _).2.1, ih, List.filterMap_append]
    cases hr : r.sets? with
    | none =>
      rw [List.filterMap_cons_none hr, List.filterMap_nil, List.append_nil]
      rfl
    | some n =>
      rw [List.filterMap_cons_some hr, if_neg (List.append_ne_nil_of_right_ne_nil _ (List.cons_ne_nil _ _))]
      rfl

/-- The foreign handlers are those that have been added, in the order in which they came. -/
theorem foreign_afterAll (hnone : w.log.foreign = []) :
    (afterAll requests w).log.foreign = (requests.filterMap Request.adds?).eraseDups := by
  induction requests using List.reverseRecOn with
  | nil => exact hnone
  | append_singleton requests r ih =>
    rw [afterAll_snoc, (log_perform r _).2.2, ih, List.filterMap_append]
    cases hr : r.adds? with
    | none => rw [List.filterMap_cons_none hr, List.filterMap_nil, List.append_nil]
    | some number =>
      rw [List.filterMap_cons_some hr, List.filterMap_nil, eraseDups_concat]
      simp only [List.mem_eraseDups]

theorem foreign_prefix_afterAll : w.log.foreign <+: (afterAll requests w).log.foreign := by
  induction requests using List.reverseRecOn with
  | nil => exact List.prefix_refl _
  | append_singleton requests r ih =>
    rw [afterAll_snoc]
    exact ih.trans (foreign_prefix_perform r _)

end history

/-! ## Messages -/

/-- Each handler of the runner's writes the line of a message, and no other handler writes anything. -/
theorem join_written (handlers : List Handler) (line : String) :
    String.join (handlers.map (Handler.written line)) = String.join (List.replicate (handlers.count .own) line) := by
  induction handlers with
  | nil => rfl
  | cons h rest ih =>
    cases h with
    | own =>
      rw [List.map_cons, String.join_cons, ih, List.count_cons_self, List.replicate_succ, String.join_cons]
      rfl
    | foreign number =>
      have hne : Handler.foreign number ≠ .own := by simp only [ne_eq, reduceCtorEq, not_false_eq_true]
      rw [List.map_cons, String.join_cons, ih, List.count_cons_of_ne hne]
      exact String.empty_append

/-- With one handler of the runner's, a message of one of its loggers is written once if it has the level, and else not at all. -/
theorem render_of_count {log : Log} (hone : log.handlers.count .own = 1) {logger : String} (hown : isOwnLogger logger = true)
    {level : Int} (hlevel : 0 < level) (text : String) :
    log.render logger level text = if log.effective ≤ level then format logger level text else "" := by
  have hhandlers : log.handlers ≠ [] := by
    rintro h
    rw [h] at hone
    cases hone
  unfold render
  rw [if_pos hown]
  by_cases heffective : log.effective ≤ level
  · rw [if_pos heffective, if_neg (by omega), if_neg hhandlers, join_written, hone]
    exact String.empty_append
  · rw [if_neg heffective, if_pos (by omega)]

end Log

/-- The log after any requests. Of the runner's handlers there is one if it has been set up, and none before. The foreign handlers are
those that have been added, in the order in which they came, and stay so whatever comes after. The level is that of the last request
that has set one. A name sets the level that it has in upper case, and a number sets itself; where a value gives no level the request
fails and the state is as before. Once the log has been set up, a message of the runner's logger or of one below it, of a level above
zero, is written in one line if the level is at least the one that was set, or that of warnings where zero was set; else nothing is
written. -/
theorem log_of_requests (machine : Machine) (argv : List String) (requests : List Log.Request) :
    let w := Log.afterAll requests (World.initial machine argv)
    let levels := requests.filterMap Log.Request.sets?
    w.log.handlers.count .own = (if levels = [] then 0 else 1) ∧
    (w.log.foreign = (requests.filterMap Log.Request.adds?).eraseDups ∧
      ∀ more, w.log.foreign <+: (Log.afterAll more w).log.foreign) ∧
    w.log.level = levels.getLast?.getD 0 ∧
    ((∀ name, (Log.Request.setup (.text name)).sets? = Log.levelOf? (Text.upper name)) ∧
      (∀ n, (Log.Request.setup (.int n)).sets? = some n) ∧
      ∀ level, (Log.Request.setup level).sets? = none →
        ∃ f, (Log.Request.setup level).perform w = .error (.failure f) w) ∧
    (Log.isOwnLogger Log.ownLogger = true ∧ ∀ logger part, Log.isOwnLogger logger = true →
      logger.toList.getLast? ≠ some '.' → '.' ∉ part.toList → Log.isOwnLogger (logger ++ "." ++ part) = true) ∧
    ∀ n, levels.getLast? = some n → ∀ logger level text, Log.isOwnLogger logger = true → 0 < level →
      (Log.Request.message logger level text).perform w =
        if (if n = 0 then 30 else n) ≤ level then
          .ok () { w with err := w.err ++ (Log.showLevel level ++ " " ++ logger ++ ": " ++ text ++ "\n").toUTF8 }
        else .ok () w := by
  intro w levels
  have hcount : w.log.handlers.count .own = if levels = [] then 0 else 1 := Log.count_afterAll requests rfl
  have hlevel : w.log.level = levels.getLast?.getD 0 := Log.level_afterAll requests
  refine ⟨hcount, ⟨Log.foreign_afterAll requests rfl, fun more => Log.foreign_prefix_afterAll more⟩, hlevel,
    ⟨fun name => ?_, fun n => rfl, fun level hnone => ?_⟩, ⟨by decide +kernel, fun _ _ => Log.isOwnLogger_child⟩,
    fun n hn logger level text hown hpositive => ?_⟩
  · rw [Log.Request.sets?, Log.levelOfData]
    cases Log.levelOf? (Text.upper name) <;> rfl
  · cases h : Log.levelOfData level with
    | ok n =>
      rw [Log.Request.sets?, h] at hnone
      cases hnone
    | error f => exact ⟨f, setupLog_refused h w⟩
  · have hone : w.log.handlers.count .own = 1 := by
      rw [hcount, if_neg]
      rintro hempty
      rw [hempty] at hn
      cases hn
    have heffective : w.log.effective = if n = 0 then 30 else n := by
      rw [Log.effective, hlevel, hn]
      rfl
    rw [Log.perform_message, Log.render_of_count hone hown hpositive, heffective]
    by_cases hmeets : (if n = 0 then 30 else n) ≤ level
    · rw [if_pos hmeets, if_pos hmeets]
      rfl
    · rw [if_neg hmeets, if_neg hmeets]
      show EStateM.Result.ok () { w with err := w.err ++ ByteArray.empty } = _
      rw [ByteArray.append_empty]

namespace MixedHistory

/-- A log that is set up between foreign handlers, to names of levels and of none. -/
def requests : List Log.Request :=
  [.addForeign 7, .message "runx" 10 "early", .setup (.text "Debug"), .addForeign 3, .setup (.text "nope"), .setup (.int 0),
    .addForeign 7, .setup (.text "\u0131nfo")]

def machine : Machine := ⟨FileSystem.empty, ⟨[], 0⟩, ⟨[], []⟩, Assoc.empty⟩

/-- The state after all of them. -/
def state : World := Log.afterAll requests (World.initial machine [])

theorem last_level : (requests.filterMap Log.Request.sets?).getLast? = some 20 := by decide +kernel

end MixedHistory

open MixedHistory in
/-- The log has been set up three times, at last to a name with a letter beyond ASCII whose upper form is the name of a level. -/
theorem log_of_requests_mixed :
    state.log.handlers.count .own = 1 ∧ state.log.foreign = [7, 3] ∧ state.log.level = 20 ∧
      Log.isOwnLogger "runx.cli.deep" = true ∧
      (Log.Request.message "runx.cli.deep" 25 "m").perform state =
        .ok () { state with err := state.err ++ "Level 25 runx.cli.deep: m\n".toUTF8 } ∧
      (Log.Request.message "runx.cli.deep" 15 "m").perform state = .ok () state := by
  obtain ⟨hcount, ⟨hforeign, -⟩, hlevel, -, ⟨hown, hchild⟩, hmessages⟩ := log_of_requests machine [] requests
  have hdeep : Log.isOwnLogger "runx.cli.deep" = true :=
    hchild "runx.cli" "deep" (hchild "runx" "cli" hown (by decide) (by decide)) (by decide) (by decide)
  have htaken := hmessages 20 last_level "runx.cli.deep" 25 "m" hdeep (by decide)
  have hleft := hmessages 20 last_level "runx.cli.deep" 15 "m" hdeep (by decide)
  refine ⟨hcount.trans (by decide +kernel), hforeign.trans (by decide +kernel), hlevel.trans (by decide +kernel), hdeep, ?_, hleft⟩
  exact htaken

end TaskRunner
