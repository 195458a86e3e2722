import TaskRunner.Shell.State

/-!
# Signals in a shell

The names of signals as the two languages know them, what is said about a process that a signal has
ended, and what a shell has set up to be done when a signal comes.
-/

namespace TaskRunner.Shell.Signals

open Processes

/-- One more than the greatest signal. -/
def count : Nat := 65

/-- The name of a signal. -/
def name (d : Dialect) (n : Nat) : String :=
  if n = 0 then (if d = .plain then "0" else "EXIT")
  else if n = 16 ∧ d = .plain then "16"
  else if 34 < n ∧ n < 50 then "RTMIN+" ++ toString (n - 34)
  else if 50 ≤ n ∧ n < 64 then "RTMAX-" ++ toString (64 - n)
  else match Signal.name? n with
    | some s => (s.drop 3).toString
    | none => toString n

/-- The signal that a number stands for. -/
def ofNumber (s : String) : Option Nat :=
  if s ≠ "" ∧ s.toList.all Char.isDigit then (s.toNat?).filter (· < count) else none

/-- The signal that a name or a number stands for, the least of them given. -/
def ofText (d : Dialect) (least : Nat) (s : String) : Option Nat :=
  match ofNumber s with
  | some n => some n
  | none =>
    let s := s.map Char.toUpper
    let s := if d = .extended ∧ s.startsWith "SIG" then (s.drop 3).toString else s
    if s = "EXIT" then (if least = 0 then some 0 else none)
    else ((List.range count).drop (max least 1)).find? fun n => name d n == s

/-- What is said about a process that a signal has ended. -/
def describe (n : Nat) : String :=
  match n with
  | 1 => "Hangup"
  | 2 => "Interrupt"
  | 3 => "Quit"
  | 4 => "Illegal instruction"
  | 5 => "Trace/breakpoint trap"
  | 6 => "Aborted"
  | 7 => "Bus error"
  | 8 => "Floating point exception"
  | 9 => "Killed"
  | 10 => "User defined signal 1"
  | 11 => "Segmentation fault"
  | 12 => "User defined signal 2"
  | 13 => "Broken pipe"
  | 14 => "Alarm clock"
  | 15 => "Terminated"
  | 16 => "Stack fault"
  | 24 => "CPU time limit exceeded"
  | 25 => "File size limit exceeded"
  | 26 => "Virtual timer expired"
  | 27 => "Profiling timer expired"
  | 29 => "I/O possible"
  | 30 => "Power failure"
  | 31 => "Bad system call"
  | n => if n < 34 then "Unknown signal " ++ toString n else "Real-time signal " ++ toString (n - 34)

/-- The status that says how a process ended. -/
def statusOf : Ending → Nat
  | .exited n => n % 256
  | .killed n => 128 + n

/-- The signals with their numbers in five columns. -/
def table : String :=
  let known := ((List.range count).drop 1).filter fun n => n ≠ 32 ∧ n ≠ 33
  let cell (n : Nat) : String := (if n < 10 then " " else "") ++ toString n ++ ") SIG" ++ name .extended n
  let lines := rows (known.length + 1) (known.map cell)
  String.join lines
where
  /-- The cells in lines. -/
  rows : Nat → List String → List String
    | 0, _ => []
    | _, [] => []
    | n + 1, cells =>
      let line := "\t".intercalate (cells.take 5)
      (line ++ (if (cells.take 5).length = 5 then "\n" else "\t\n")) :: rows n (cells.drop 5)

/-- The signals that end a shell of the extended language only after what is to be done about its end. -/
def final : List Nat := [1, 2, 4, 5, 6, 7, 8, 10, 11, 12, 13, 14, 15, 24, 25, 26, 31]

/-- The signals that the shell asks to be told of although nothing else is to be done about them: those that end it, if
something is to be done about its end, and one that the extended language passes over outside of copies of the shell. -/
def watched (s : State) : List Nat :=
  match s.dialect with
  | .plain => []
  | .extended =>
    let hasEnd : Bool := match s.traps.find? 0 with
      | some action => action != ""
      | none => false
    ((if hasEnd then final else []) ++ if s.isCopy = 0 then [3] else []).filter fun n => !s.traps.contains n

/-- Asks to be told of the signals that are watched. -/
def watch : Sh Unit := do
  let more := watched (← get)
  if more ≠ [] then
    Proc.change fun pid k => k.modifyProcess pid fun p =>
      { p with caught := p.caught ++ more.filter fun n => !p.ignored.contains n && !p.caught.contains n }

/-- Sets up what is done about a signal: nothing is left to be done if there is no action, and an empty one is to
pass over it. -/
def setUp (n : Nat) (action : Option String) : Sh Unit := do
  if n ≠ 0 then
    Proc.change fun pid k => k.modifyProcess pid fun p =>
      let ignored := p.ignored.filter (· != n)
      let caught := p.caught.filter (· != n)
      match action with
      | none => { p with ignored, caught }
      | some "" => { p with ignored := n :: ignored, caught }
      | some _ => { p with ignored, caught := n :: caught }
  watch

/-- The signals that have come, in the order of their numbers. They are not told of again. -/
def arrived : Sh (List Nat) := Proc.call fun pid k =>
  match (k.process? pid).map Process.arrived with
  | none | some [] => ([], k)
  | some signals => ((signals.eraseDups).mergeSort (· ≤ ·), k.modifyProcess pid fun p => { p with arrived := [] })

/-- Waits for the end of a process; none if a signal that counts comes before. -/
def reapUnless (counts : Nat → Bool) (child : Nat) : Sh (Option Ending) := Proc.await fun pid k =>
  if ((k.process? pid).map Process.arrived).any fun signals => signals.any counts then .done none k
  else match k.reap child with
    | .done e k => .done (some e) k
    | .waiting k => .waiting k

/-- Waits for the end of a process; none if a signal comes before that something is to be done about. -/
def reapUnlessSignalled (child : Nat) : Sh (Option Ending) := do
  let s ← get
  reapUnless (fun n => !(s.dialect == .extended && n == 3 && !s.traps.contains 3)) child

/-! ## Jobs -/

/-- Whether all processes of a job have ended. -/
def isDone (j : Job) : Bool := j.pids.all fun pid => j.ended.any fun (n, _) => n == pid

/-- How the last process of a job ended. -/
def endingOf (j : Job) : Ending :=
  ((j.pids.getLast?).bind fun pid => (j.ended.find? fun (n, _) => n == pid).map Prod.snd).getD (.exited 0)

/-- Notes how a process of a job ended. -/
def note (pid : Nat) (e : Ending) : Sh Unit := modify fun s =>
  { s with jobs := s.jobs.map fun j => if j.pids.contains pid then { j with ended := (pid, e) :: j.ended } else j }

/-- Notes the processes that have ended. -/
def look : Sh Unit := do
  for j in (← get).jobs do
    for pid in j.pids do
      if ¬ j.ended.any fun (n, _) => n == pid then
        let found : Option Ending ← Proc.call fun _ k =>
          match k.reap pid with
          | .done e k => (some e, k)
          | .waiting k => (none, k)
        match found with
        | some e => note pid e
        | none => pure ()

/-- Gives up jobs that have ended; how their processes ended is still known. -/
def retire (which : Job → Bool) : Sh Unit := modify fun s =>
  let (old, jobs) := s.jobs.partition which
  { s with jobs, bygone := old.flatMap Job.ended ++ s.bygone }

/-- A new job. -/
def newJob (pids : List Nat) (text : String) : Sh Unit := modify fun s =>
  let jobs := s.jobs
  let number := (((List.range (jobs.length + 1)).map (· + 1)).find? fun n => !jobs.any fun j => j.number == n).getD 1
  { s with jobs := { number, pids, ended := [], text } :: jobs }

/-- Forgets a job that has been waited for, since its place is needed. -/
def reuse : Sh Unit := modify fun s =>
  match s.dialect with
  | .extended => s
  | .plain =>
    match (s.jobs.filter fun j => isDone j && j.waited).getLast? with
    | some j => { s with jobs := s.jobs.filter fun k => k.number != j.number }
    | none => s

/-- The jobs that a text names. -/
def jobsNamed (s : State) (text : String) : List Job :=
  let rest := (text.drop 1).toString
  if rest = "" ∨ rest = "%" ∨ rest = "+" then s.jobs.head?.toList
  else if rest = "-" then (s.jobs[1]? <|> s.jobs.head?).toList
  else match rest.toNat? with
    | some n => s.jobs.filter fun j => j.number == n
    | none =>
      if rest.startsWith "?" then s.jobs.filter fun j => 1 < (j.text.splitOn (rest.drop 1).toString).length
      else s.jobs.filter fun j => j.text.startsWith rest

/-- The job that a text names. -/
def job? (s : State) (text : String) : Option Job := (jobsNamed s text).head?

/-- The job that a text names, which has to be there. -/
def job (text : String) : Sh Job := do
  let s ← get
  match jobsNamed s text, s.dialect with
  | [j], _ => return j
  | j :: _, .plain => if text.startsWith "%?" then Sh.fail ("Ambiguous job: " ++ text) else return j
  | [], .plain =>
    if text = "%%" ∨ text = "%+" ∨ text = "%" then Sh.fail "No current job"
    else Sh.fail ("No such job: " ++ text)
  | found, .extended =>
    if found ≠ [] then Sh.complainAbout ((text.drop (if text.startsWith "%?" then 2 else 1)).toString ++ ": ambiguous job spec")
    Sh.complainAbout (text ++ ": no such job")
    throw (.error 127)

end TaskRunner.Shell.Signals
