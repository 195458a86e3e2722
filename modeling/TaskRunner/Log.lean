import TaskRunner.Failure
import TaskRunner.Text.Casing

/-!
# The log

Messages have a level and come from a logger; the runner's own loggers are that of its name and those
below it. The log has a level of its own and handlers in an order: the runner's handler writes a line to
the standard error output, a foreign one is somebody else's, known by a number, and writes nothing there.
Setting the log up puts exactly one handler of the runner at the end (`setup_handlers`) and changes nothing
if the level is none. A message that reaches no handler at all is shown bare if it is a warning or worse.
-/

namespace TaskRunner

/-- What takes the messages of the log. -/
inductive Handler where
  | own
  | foreign (number : Nat)
  deriving DecidableEq, Repr

/-- What a handler writes to the standard error output, given the line of the runner's own. -/
def Handler.written (line : String) : Handler → String
  | .own => line
  | .foreign _ => ""

/-- The number of a foreign handler. -/
def Handler.number? : Handler → Option Nat
  | .own => none
  | .foreign number => some number

/-- The level of the runner's log and its handlers. -/
structure Log where
  level : Int
  handlers : List Handler
  deriving DecidableEq, Repr

namespace Log

/-- The level of warnings, which is in force where no other is set. -/
def warning : Int := 30

/-- The level of the messages that say what the runner does. -/
def debug : Int := 10

/-- The names of levels; two levels have two names. -/
def levels : List (String × Int) :=
  [("CRITICAL", 50), ("FATAL", 50), ("ERROR", 40), ("WARN", 30), ("WARNING", 30), ("INFO", 20), ("DEBUG", 10),
    ("NOTSET", 0)]

/-- The level of a name in upper case. -/
def levelOf? (name : String) : Option Int := levels.lookup name

/-- The name under which messages of a level are shown. -/
def showLevel (level : Int) : String :=
  match level with
  | 50 => "CRITICAL"
  | 40 => "ERROR"
  | 30 => "WARNING"
  | 20 => "INFO"
  | 10 => "DEBUG"
  | 0 => "NOTSET"
  | _ => s!"Level {level}"

/-- The log before it is set up. -/
def initial : Log := ⟨0, []⟩

/-- The level that a value gives: a number itself, a text by its name in any case. -/
def levelOfData : Data → Except Failure Int
  | .int n => .ok n
  | .flag b => .ok (if b then 1 else 0)
  | .text s =>
    let name := Text.upper s
    match levelOf? name with
    | some n => .ok n
    | none => .error (.unknownLevel name)
  | d => .error (.badLevel d)

/-- Sets the log up: the given level, and one handler of the runner after all foreign ones. -/
def setup (log : Log) (level : Data) : Except Failure Log := do
  let level ← levelOfData level
  return { level, handlers := log.handlers.filter (· ≠ .own) ++ [.own] }

/-- Adds a foreign handler, unless it is there. -/
def addForeign (log : Log) (number : Nat) : Log :=
  if .foreign number ∈ log.handlers then log else { log with handlers := log.handlers ++ [.foreign number] }

/-- The level from which on messages are taken: where none is set, that of warnings. -/
def effective (log : Log) : Int := if log.level = 0 then warning else log.level

/-- The name of the runner's logger. -/
def ownLogger : String := "runx"

/-- The names above the name of a logger, the nearest first; all are spelled backwards. A name is above another that goes on
after it with a dot, but of two dots side by side the left one is passed over. -/
def above : List Char → List (List Char)
  | [] => []
  | '.' :: c :: rest => (c :: rest) :: above rest
  | _ :: rest => above rest

/-- Whether a logger is the runner's or below it. -/
def isOwnLogger (logger : String) : Bool :=
  logger == ownLogger || (above logger.toList.reverse).contains ownLogger.toList.reverse

/-- A message as the runner's handler writes it. -/
def format (logger : String) (level : Int) (message : String) : String :=
  showLevel level ++ " " ++ logger ++ ": " ++ message ++ "\n"

/-- What a message adds to the standard error output. -/
def render (log : Log) (logger : String) (level : Int) (message : String) : String :=
  let bare := if warning ≤ level then message ++ "\n" else ""
  if isOwnLogger logger then
    if level ≤ 0 ∨ level < log.effective then ""
    else if log.handlers = [] then bare
    else String.join (log.handlers.map (Handler.written (format logger level message)))
  else bare

theorem above_cons {c : Char} (h : c ≠ '.') (rest : List Char) : above (c :: rest) = above rest := by
  rw [above]
  rintro d more rfl
  exact absurd rfl h

theorem above_append {letters : List Char} (h : '.' ∉ letters) (rest : List Char) : above (letters ++ rest) = above rest := by
  induction letters with
  | nil => rfl
  | cons c letters ih =>
    have hc : c ≠ '.' := fun hc => h (hc ▸ List.mem_cons_self)
    rw [List.cons_append, above_cons hc, ih fun hmem => h (List.mem_cons_of_mem _ hmem)]

/-- A part that is put behind the name of a logger, which has no dot at its end, makes the name of one below it. -/
theorem isOwnLogger_child {logger part : String} (h : isOwnLogger logger = true) (hend : logger.toList.getLast? ≠ some '.')
    (hdot : '.' ∉ part.toList) : isOwnLogger (logger ++ "." ++ part) = true := by
  have hreverse : (logger ++ "." ++ part).toList.reverse = part.toList.reverse ++ '.' :: logger.toList.reverse := by
    rw [String.toList_append, String.toList_append, List.reverse_append, List.reverse_append]
    rfl
  rw [isOwnLogger, hreverse, above_append fun hmem => hdot (List.mem_reverse.1 hmem), Bool.or_eq_true, List.contains_iff_mem]
  rw [isOwnLogger, Bool.or_eq_true, beq_iff_eq, List.contains_iff_mem] at h
  rw [List.getLast?_eq_head?_reverse] at hend
  cases hlast : logger.toList.reverse with
  | nil =>
    rw [hlast] at h
    rcases h with rfl | h
    · cases hlast
    · cases h
  | cons c rest =>
    have hc : c ≠ '.' := by
      rintro rfl
      rw [hlast] at hend
      exact hend rfl
    rw [hlast, above_cons hc] at h
    rcases h with rfl | h
    · rw [hlast]
      exact .inr List.mem_cons_self
    · exact .inr (List.mem_cons_of_mem _ h)

/-- A name that has a level is one of those in the table of names. -/
theorem mem_levels_of_levelOf? {name : String} {n : Int} (h : levelOf? name = some n) : (name, n) ∈ levels := by
  obtain ⟨before, rest, hlevels, -⟩ := List.lookup_eq_some_iff.1 h
  rw [hlevels]
  exact List.mem_append_right _ List.mem_cons_self

theorem setup_of_level {log : Log} {level : Data} {n : Int} (h : levelOfData level = .ok n) :
    log.setup level = .ok ⟨n, log.handlers.filter (· ≠ .own) ++ [.own]⟩ := by
  rw [setup, h]
  rfl

theorem setup_handlers {log log' : Log} {level : Data} (h : log.setup level = .ok log') :
    log'.handlers = log.handlers.filter (· ≠ .own) ++ [.own] := by
  unfold setup at h
  cases hl : levelOfData level with
  | error e => rw [hl] at h; cases h
  | ok n => rw [hl] at h; cases h; rfl

end Log

end TaskRunner
