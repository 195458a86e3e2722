import TaskRunner.Shell.Builtins.Variables
import TaskRunner.Shell.Coprocess
import TaskRunner.Shell.Quoting
import TaskRunner.Shell.Signals

/-!
# Commands of the shell for signals and processes

What is to be done when a signal comes, the sending of signals, and the processes that go on while the
shell does.
-/

namespace TaskRunner.Shell.Builtins

open Processes

/-! ## What is done about signals -/

/-- The events besides signals that something can be done about. -/
def hookNames : List String := ["DEBUG", "ERR", "RETURN"]

/-- What something can be done about. -/
inductive Occasion where
  | signal (n : Nat)
  | hook (name : String)

/-- What a text names. -/
def occasion? (d : Dialect) (text : String) : Option Occasion :=
  match Signals.ofText d 0 text with
  | some n => some (.signal n)
  | none =>
    let upper := text.map Char.toUpper
    let upper := if upper.startsWith "SIG" then (upper.drop 3).toString else upper
    if d = .extended ∧ hookNames.contains upper then some (.hook upper) else none

/-- The name of a signal in a list of what is done. -/
def listedName (s : State) (n : Nat) : String :=
  if n = 0 then "EXIT"
  else match s.dialect with
    | .plain => Signals.name .plain n
    | .extended => (if Sh.isOn s "posix" then "" else "SIG") ++ Signals.name .extended n

/-- Lists what is done about signals that satisfy a condition. -/
def listTraps (keep : Occasion → Bool) : Sh Unit := do
  let s ← get
  let d := s.dialect
  let quote (action : String) : String := match d with
    | .plain => Quoting.plain action
    | .extended => if action = "" then "''" else "'" ++ action.replace "'" "'\\''" ++ "'"
  let traps := s.traps.insertAll (s.formerTraps.toList.filter fun (n, _) => !s.traps.contains n)
  for n in List.range Signals.count do
    match traps.find? n with
    | some action =>
      if keep (.signal n) then Sh.put ("trap -- " ++ quote action ++ " " ++ listedName s n ++ "\n")
    | none => pure ()
  for name in hookNames do
    match s.hooks.find? name with
    | some action => if keep (.hook name) then Sh.put ("trap -- " ++ quote action ++ " " ++ name ++ "\n")
    | none => pure ()

/-- Sets what is done on an occasion. -/
def setTrap (o : Occasion) (action : Option String) : Sh Unit := do
  modify fun s => { s with formerTraps := Assoc.empty }
  match o with
  | .signal n =>
    modify fun s =>
      { s with traps := match action with
          | some a => s.traps.insert n a
          | none => s.traps.erase n }
    Signals.setUp n action
  | .hook name =>
    modify fun s =>
      { s with hooks := match action with
          | some a => s.hooks.insert name a
          | none => s.hooks.erase name }

/-- Says what is to be done when a signal comes, or shows it. -/
def trap (args : List String) : Sh Nat := do
  let s ← get
  let d := s.dialect
  let (flags, args) ← readOptions (if d = .plain then "" else "lp") args
  if flags.any fun (c, _) => c == 'l' then
    Sh.put Signals.table
    return 0
  if args = [] then
    listTraps fun _ => true
    return 0
  if flags ≠ [] then
    let mut status := 0
    for a in args do
      match occasion? d a with
      | some (.signal n) => listTraps fun o => match o with
        | .signal m => m == n
        | .hook _ => false
      | some (.hook name) => listTraps fun o => match o with
        | .signal _ => false
        | .hook other => other == name
      | none =>
        Sh.complainAbout (a ++ ": invalid signal specification")
        status := 1
    return status
  match d, args with
  | .plain, first :: rest =>
    if rest = [] ∨ (Signals.ofNumber first).isSome then setPlain none args
    else setPlain (if first = "-" then none else some first) rest
  | .extended, [only] =>
    match occasion? d only with
    | some o =>
      setTrap o none
      return 0
    | none =>
      sayUsage
      return 2
  | .extended, first :: rest =>
    if (Signals.ofNumber first).isSome then setExtended none args
    else setExtended (if first = "-" then none else some first) rest
  | _, [] => return 0
where
  /-- Sets an action, up to a name that is none. -/
  setPlain (action : Option String) : List String → Sh Nat
    | [] => return 0
    | a :: rest => do
      match occasion? .plain a with
      | some o =>
        setTrap o action
        setPlain action rest
      | none =>
        discard <| Proc.write 2 (Sh.bytes ("trap: " ++ a ++ ": bad trap\n"))
        return 1
  /-- Sets an action, names that are none left out. -/
  setExtended (action : Option String) (names : List String) : Sh Nat := do
    let mut status := 0
    for a in names do
      match occasion? .extended a with
      | some o => setTrap o action
      | none =>
        Sh.complainAbout (a ++ ": invalid signal specification")
        status := 1
    return status

/-! ## Sending signals -/

/-- A signal that is to be sent. -/
def badSignal {α : Type} (text : String) : Sh α := do
  match (← get).dialect with
  | .plain => Sh.fail ("invalid signal number or name: " ++ text)
  | .extended =>
    Sh.complainAbout (text ++ ": invalid signal specification")
    throw (.error 1)

/-- How the plain command for signals is used. -/
def killUsage {α : Type} : Sh α :=
  Sh.fail "Usage: kill [-s sigspec | -signum | -sigspec] [pid | job]... or\nkill -l [exitstatus]"

/-- Sends a signal to processes. -/
def kill (args : List String) : Sh Nat := do
  if ← Sh.isExtended then Signals.look
  match (← get).dialect with
  | .plain =>
    if args = [] then killUsage
    let first := args.headD ""
    let direct := if first.startsWith "-" then Signals.ofText .plain 1 (first.drop 1).toString else none
    let (lists, signal, targets) ← match direct with
      | some n => pure (false, some n, args.drop 1)
      | none =>
        if first.startsWith "-" then do
          let (flags, targets) ← readOptions "ls:" args
          let lists := flags.any fun (c, _) => c == 'l'
          let signal ← match (flags.reverse.find? fun (c, _) => c == 's') with
            | some (_, text) =>
              match Signals.ofText .plain 1 text with
              | some n => pure (some n)
              | none => badSignal text
            | none => pure none
          pure (lists, signal, targets)
        else pure (false, none, args)
    if lists then
      if signal.isSome then killUsage
      match targets with
      | [] =>
        Sh.put ("0\n" ++ String.join (((List.range Signals.count).drop 1).map fun n => Signals.name .plain n ++ "\n"))
        return 0
      | a :: _ =>
        let n ← number a
        let m := if 128 < n then n - 128 else n
        if 0 < m ∧ m < Signals.count then
          Sh.put (Signals.name .plain m ++ "\n")
          return 0
        else Sh.fail ("invalid signal number or exit status: " ++ a)
    if targets = [] then killUsage
    sendPlain (signal.getD 15) 0 targets
  | .extended =>
    match args with
    | [] =>
      sayUsage
      return 2
    | "-l" :: rest => listExtended rest
    | "-L" :: rest => listExtended rest
    | first :: rest =>
      if first = "-s" ∨ first = "-n" then
        match rest with
        | [] =>
          Sh.complainAbout (first ++ ": option requires an argument")
          return 1
        | text :: targets =>
          match Signals.ofText .extended 0 text with
          | some n => sendAll n targets
          | none => badSignal text
      else if first = "--" then sendAll 15 rest
      else if first.startsWith "-" ∧ first ≠ "-" then
        let text := (first.drop 1).toString
        match Signals.ofText .extended 0 text with
        | some n => sendAll n (if rest.head? = some "--" then rest.drop 1 else rest)
        | none => badSignal text
      else sendAll 15 args
where
  /-- Sends a signal to the processes of the plain language. -/
  sendPlain (signal status : Nat) : List String → Sh Nat
    | [] => return status
    | a :: rest => do
      let answer : Except Refusal Unit ←
        if a.startsWith "%" then do
          let _ ← Signals.job a
          pure (.error .noProcess)
        else if a.startsWith "-" then do
          let _ ← number (a.drop 1).toString
          pure (.error .noProcess)
        else do
          let pid ← number a
          let own ← Proc.self
          Proc.send (if pid = 0 then own else pid) signal
      match answer with
      | .ok () => sendPlain signal status rest
      | .error r =>
        Sh.complain (Sh.reason r ++ "\n")
        sendPlain signal 1 rest
  /-- Lists names and numbers of signals. -/
  listExtended (args : List String) : Sh Nat := do
    if args = [] then
      let known := ((List.range Signals.count).drop 1).filter fun n => n ≠ 32 ∧ n ≠ 33
      Sh.put (if Sh.isOn (← get) "posix" then " ".intercalate (known.map (Signals.name .extended)) ++ "\n" else Signals.table)
      return 0
    let mut status := 0
    for a in args do
      match a.toNat? with
      | some n =>
        let m := if 128 < n then n - 128 else n
        if m < Signals.count then Sh.put (Signals.name .extended m ++ "\n")
        else
          Sh.complainAbout (a ++ ": invalid signal specification")
          status := 1
      | none =>
        match Signals.ofText .extended 0 a with
        | some n => Sh.put (toString n ++ "\n")
        | none =>
          Sh.complainAbout (a ++ ": invalid signal specification")
          status := 1
    return status
  /-- Sends a signal to the processes of the extended language. -/
  sendAll (signal : Nat) (targets : List String) : Sh Nat := do
    if targets = [] then
      sayUsage
      return 2
    let mut sent := false
    for a in targets do
      if a.startsWith "%" then
        match Signals.job? (← get) a with
        | none => Sh.complainAbout (a ++ ": no such job")
        | some j =>
          for pid in j.pids do
            discard <| Proc.send pid signal
          sent := true
      else
        match a.toInt? with
        | none => Sh.complainAbout (a ++ ": arguments must be process or job IDs")
        | some n =>
          let answer ← if n < 0 then pure (.error .noProcess) else Proc.send n.toNat signal
          match answer with
          | .ok () => sent := true
          | .error r => Sh.complainAbout ("(" ++ toString n ++ ") - " ++ Sh.reason r)
    return if sent then 0 else 1

/-! ## Waiting -/

/-- A text with blanks up to a width. -/
def padded (width : Nat) (s : String) : String := s ++ String.ofList (List.replicate (width - s.length) ' ')

/-- Says on a descriptor that a signal has ended a process that was waited for. -/
def sayKilled (errors pid signal : Nat) (text : String) : Sh Unit := do
  if signal ≠ 2 ∧ signal ≠ 13 then
    let what := Signals.describe signal
    match (← get).dialect with
    | .plain => discard <| Proc.write errors (Sh.bytes (what ++ "\n"))
    | .extended =>
      if signal = 15 then discard <| Proc.write errors (Sh.bytes (what ++ "\n"))
      else
        let number := toString pid
        let pad := String.ofList (List.replicate (5 - number.length) ' ')
        discard <| Proc.write errors (Sh.bytes (Sh.origin (← get) ++ pad ++ number ++ " " ++ padded 24 what ++ text ++ "\n"))

/-- Notes the jobs that have ended, as a shell that nobody talks to does after a command: it says which signal ended
one, and gives up those that are done, but for those that a script has to ask for. -/
def settle : Sh Unit := do
  if ← Sh.isExtended then
    Signals.look
    let s ← get
    if ¬ s.isSubstitution then
      for j in s.jobs do
        if Signals.isDone j then
          let gone : Bool ← match Signals.endingOf j with
            | .killed n => do
              if n ≠ 15 then sayKilled 2 (j.pids.headD 0) n j.text
              pure true
            | .exited _ => pure s.isArgument
          if gone then Signals.retire fun other => other.number == j.number
    Coprocess.giveUp

/-- Waits for the processes of a job that are given; the signal that came before, if one did. -/
def waitForEach (tells : Bool) : List Nat → Sh (Option Nat)
  | [] => return none
  | pid :: rest => do
    match ← Signals.reapUnlessSignalled pid with
    | none =>
      let signal ← Proc.observe fun pid k => (((k.process? pid).map Process.arrived).getD []).head?
      return signal
    | some e =>
      Signals.note pid e
      match e, (← get).dialect with
      | .killed n, .plain =>
        if tells ∧ n ≠ 2 ∧ n ≠ 13 then discard <| Proc.write 2 (Sh.bytes (Signals.describe n ++ "\n"))
      | _, _ => pure ()
      waitForEach tells rest

/-- The processes of a job that have not ended. -/
def going (j : Job) : List Nat := j.pids.filter fun pid => !j.ended.any fun (n, _) => n == pid

/-- Waits for a job, and gives how it ended; or a signal that came before. -/
def waitForJob (j : Job) : Sh (Except Nat Nat) := do
  match ← waitForEach true (going j) with
  | some signal => return .error signal
  | none =>
    let s ← get
    let now := (s.jobs.find? fun k => k.number == j.number).getD j
    match s.dialect with
    | .plain =>
      set { s with jobs := s.jobs.map fun (k : Job) => if k.number = j.number then { k with waited := true } else k }
    | .extended =>
      settle
      Signals.retire fun k => k.number == j.number
    return .ok (Signals.statusOf (Signals.endingOf now))

/-- Waits for one job after another; the status of the last that is known. -/
def waitForNamed : List String → Nat → Sh Nat
  | [], status => return status
  | a :: rest, status => do
    let s ← get
    let found : Option Job ←
      if a.startsWith "%" then some <$> Signals.job a
      else match s.dialect with
        | .plain => do
          let pid ← number a
          pure (s.jobs.find? fun j => j.pids.getLast? == some pid)
        | .extended =>
          if a ≠ "" ∧ a.toList.all Char.isDigit then pure (s.jobs.find? fun j => j.pids.contains ((a.toNat?).getD 0))
          else do
            Sh.complainAbout ("\x60" ++ a ++ "\x27: not a pid or valid job spec")
            throw (.error 1)
    match found with
    | some j =>
      match ← waitForJob j with
      | .ok status => waitForNamed rest status
      | .error signal => return 128 + signal
    | none =>
      match s.dialect with
      | .plain => waitForNamed rest status
      | .extended =>
        match s.bygone.find? fun (pid, _) => toString pid == a with
        | some (_, e) => waitForNamed rest (Signals.statusOf e)
        | none =>
          Sh.complainAbout ("pid " ++ a ++ " is not a child of this shell")
          waitForNamed rest 127

/-- Waits until one of some jobs has ended: which process was its last, and the status. -/
def waitForAny (jobs : List Job) : Sh (Option Nat × Nat) := do
  let pids := jobs.flatMap going
  if pids = [] then return (none, 127)
  let ended : Option (Nat × Ending) ← Proc.await fun pid k =>
    match (k.process? pid).map Process.arrived with
    | some (_ :: _) => .done none k
    | _ =>
      match pids.find? fun n => match k.process? n with
        | some p => p.ended.isSome
        | none => true with
      | some n => match k.reap n with
        | .done e k => .done (some (n, e)) k
        | .waiting k => .waiting k
      | none => .waiting k
  match ended with
  | none => return (none, 128)
  | some (n, e) =>
    Signals.note n e
    settle
    Signals.retire fun j => j.pids.contains n
    return (some n, Signals.statusOf e)

/-- The jobs that texts name, for waiting; none, with a message, if one of them is none. -/
def jobsNamed : List String → Sh (Option (List Job))
  | [] => return some []
  | a :: rest => do
    let s ← get
    match if a.startsWith "%" then Signals.job? s a else s.jobs.find? fun j => j.pids.any fun p => toString p == a with
    | some j => return (← jobsNamed rest).map (j :: ·)
    | none =>
      Sh.complainAbout (a ++ ": no such job")
      return none

/-- Waits for processes that go on while the shell does. -/
def wait (args : List String) : Sh Nat := do
  let s ← get
  let (flags, args) ← readOptions (if s.dialect = .plain then "" else "fnp:") args
  let target := (flags.reverse.find? fun (c, _) => c == 'p').map Prod.snd
  match target with
  | some name =>
    if ¬ isName (String.ofList (name.toList.takeWhile (· != '['))) then
      Sh.complainAbout ("\x60" ++ name ++ "\x27: not a valid identifier")
      return 1
    if (← unset ["-v", name]) ≠ 0 then return 1
  | none => pure ()
  let say (pid : Nat) : Sh Unit := target.forM fun name => putIn name false (toString pid)
  if flags.any fun (c, _) => c == 'n' then
    match ← if args.isEmpty then pure (some s.jobs) else jobsNamed args with
    | none => return 127
    | some jobs =>
      let (found, status) ← waitForAny jobs
      found.forM say
      return status
  else if args = [] then
    match ← waitForEach false ((s.jobs.filter Job.isOwn).flatMap going) with
    | some signal => return 128 + signal
    | none =>
      modify fun s => { s with jobs := s.jobs.map fun j => { j with waited := true } }
      if s.dialect = .extended then
        settle
        modify fun s => { s with jobs := [], bygone := [] }
      return 0
  else
    let last := args.getLast?.bind fun a =>
      ((if a.startsWith "%" then Signals.job? s a else s.jobs.find? fun j => j.pids.contains ((a.toNat?).getD 0)).bind
        fun j => j.pids.getLast?)
    let status ← waitForNamed args 127
    last.forM say
    return status

/-- Gives up jobs, so that they are not known any more. -/
def disown (args : List String) : Sh Nat := do
  let (flags, names) ← readOptions "ahr" args
  let has (c : Char) : Bool := flags.any fun (d, _) => d == c
  let giveUp (keep : Job → Bool) : Sh Unit := do
    if ¬ has 'h' then modify fun s => { s with jobs := s.jobs.filter keep }
  if names = [] ∧ (has 'a' ∨ has 'r') then
    Signals.look
    giveUp fun j => has 'r' && Signals.isDone j
    return 0
  let mut status := 0
  for name in if names = [] then ["current"] else names do
    let s ← get
    let found : Option Job :=
      if names.isEmpty then s.jobs.head?
      else match name.toNat? with
        | some pid => s.jobs.find? fun j => j.pids.contains pid
        | none => Signals.job? s (if name.startsWith "%" then name else "%" ++ name)
    match found with
    | some j => giveUp fun other => other.number != j.number
    | none =>
      Sh.complainAbout (name ++ ": no such job")
      status := 1
  return status

/-! ## Listing -/

/-- What is said about a job. -/
def stateOf (d : Dialect) (j : Job) : String :=
  if ¬ Signals.isDone j then "Running"
  else match Signals.endingOf j with
    | .exited 0 => "Done"
    | .exited n => if d = .plain then "Done(" ++ toString n ++ ")" else "Exit " ++ toString n
    | .killed n => Signals.describe n

/-- Lists the processes that go on, and those that have ended since they were listed. -/
def jobs (args : List String) : Sh Nat := do
  let s ← get
  let plain := s.dialect = .plain
  let (flags, args) ← readOptions (if plain then "lp" else "lnprsx") args
  let has (c : Char) : Bool := flags.any fun (d, _) => d == c
  Signals.look
  let s ← get
  let mut status := 0
  let mut chosen : List Job := if plain then s.jobs else s.jobs.reverse
  if args ≠ [] then
    chosen := []
    for a in args do
      if plain then chosen := chosen ++ [← Signals.job a]
      else match ← namedJob a with
        | some j => chosen := chosen ++ [j]
        | none => status := 1
  chosen := chosen.filter fun j =>
    (!has 'r' || !Signals.isDone j) && !has 's'
  for j in chosen do
    let mark := if (s.jobs.head?.map Job.number) = some j.number then "+"
      else if ((s.jobs[1]?).map Job.number) = some j.number then "-" else " "
    let state := stateOf s.dialect j
    if has 'p' then Sh.put (toString (j.pids.headD 0) ++ "\n")
    else if plain then
      let lead := "[" ++ toString j.number ++ "] " ++ mark ++ " " ++ (if has 'l' then toString (j.pids.headD 0) ++ " " else "") ++ state
      let others := String.join ((j.pids.drop 1).map fun pid => if has 'l' then " |\n      " ++ toString pid ++ " " else " | ")
      Sh.put (lead ++ String.ofList (List.replicate (33 - lead.length) ' ') ++ others ++ "\n")
    else
      let lead := "[" ++ toString j.number ++ "]" ++ mark ++ "  " ++ (if has 'l' then toString (j.pids.headD 0) ++ " " else "")
      Sh.put (lead ++ padded 24 state ++ j.text ++ (if Signals.isDone j then "" else " &") ++ "\n")
  let listed := chosen.map Job.number
  Signals.retire fun j => Signals.isDone j && listed.contains j.number
  return status
where
  /-- The job that a text names; none, with a message, if it names none. -/
  namedJob (text : String) : Sh (Option Job) :=
    tryCatch (some <$> Signals.job text) fun
      | .error _ => return none
      | jump => throw jump

end TaskRunner.Shell.Builtins
