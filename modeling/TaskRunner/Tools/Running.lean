import TaskRunner.Tools.Options
import TaskRunner.Tools.Numbers
import TaskRunner.Shell.Signals

/-!
# Programs that run another program

What is run takes the place of the program that runs it, or is watched by it: with another environment, in
another directory, only for some time, less urgently, or out of the reach of a signal. If it cannot be run, the
status tells whether it was found.
-/

namespace TaskRunner.Tools.Running

open Processes

/-! ## What is run -/

/-- Where programs are looked for if the environment does not say. -/
def usualSearchPath : String := "/bin:/usr/bin"

/-- What running a name comes to. A file that has no form in which it can be executed is a script. -/
def imageOf (environment : List (String × String)) (name : String) (args : List String) :
    Tool (Except Refusal Image) := do
  if name = "" then return .error .noEntry
  let (fs, place) ← Proc.files
  let searchPath := ((environment.find? fun (n, _) => n == "PATH").map Prod.snd).getD usualSearchPath
  match Executable.imageOf fs place searchPath name args environment with
  | .error .notExecutable =>
    let path := if name.toList.contains '/' then name else match Executable.find fs place searchPath name with
      | .at found => found
      | _ => name
    return Executable.image fs place "/bin/sh" "/bin/sh" (path :: args) environment
  | found => return found

/-- The status that tells why a program is not run. -/
def statusOf (r : Refusal) : Nat := if r = .noEntry then 127 else 126

/-- Becomes another program, or tells why that cannot be. -/
def become (environment : List (String × String)) (command : List String) (whyNot : String → Refusal → String) :
    Tool Nat := do
  let name := command.headD ""
  match ← imageOf environment name (command.drop 1) with
  | .ok image =>
    Tool.flush
    Proc.become image
  | .error r =>
    Tool.say (whyNot name r)
    return statusOf r

/-- What running a command by a shell comes to. -/
def shellImage (command : String) : Tool (Except Refusal Image) := do
  let (fs, place) ← Proc.files
  return Executable.image fs place "/bin/sh" "sh" ["-c", command] (← get).environment

/-- Begins a process that does something and then becomes a program. -/
def begin (wiring : Tool Unit) (image : Image) : Tool Nat := Proc.spawn fun s =>
  let whole : Tool Unit := do
    wiring
    Proc.become image
  Proc.program whole { s with out := ByteArray.empty } (fun _ _ => .become image) (fun _ _ => .become image)

/-- What a shell command writes, and how it ends. -/
def outputOf (command : String) : Tool (ByteArray × Ending) := do
  Tool.flush
  match ← shellImage command with
  | .error _ => return (ByteArray.empty, .exited 127)
  | .ok image =>
    let source ← Tool.newDescriptor
    let drain ← Tool.newDescriptor
    Proc.pipe source drain
    let child ← begin (discard <| Proc.duplicate drain 1) image
    Proc.close drain
    let found ← Proc.readAll source
    Proc.close source
    return (found.toOption.getD ByteArray.empty, ← Proc.reap child)

/-- Why a program is not run, its name in the quotation marks of the language. -/
def failedToRun (name : String) (r : Refusal) : String := "failed to run command " ++ Quoting.local_ name ++ ": " ++ r.message

/-! ## Environments -/

/-- Gives a variable a value, where it stands if it is there. -/
def assign (environment : List (String × String)) (name value : String) : List (String × String) :=
  if environment.any fun (n, _) => n == name then environment.map fun (n, v) => if n = name then (n, value) else (n, v)
  else environment ++ [(name, value)]

/-- The name and the value of an assignment. -/
def assignment? (s : String) : Option (String × String) :=
  match s.toList.span (· != '=') with
  | (name, _ :: value) => some (String.ofList name, String.ofList value)
  | _ => none

/-- What is read while a text is split into words: the words before, the last first, the word that is being read, its
last character first, and the quotation mark that is open. -/
structure Splitting where
  done : List String
  word : Option (List Char)
  mark : Option Char

namespace Splitting

/-- Begins a word, unless one has begun. -/
def begin (w : Splitting) : Splitting := { w with word := some (w.word.getD []) }

/-- Reads a character of a word. -/
def push (w : Splitting) (c : Char) : Splitting := { w with word := some (c :: w.word.getD []) }

/-- Ends the word that is being read. -/
def close (w : Splitting) : Splitting :=
  match w.word with
  | some cs => { w with done := String.ofList cs.reverse :: w.done, word := none }
  | none => w

end Splitting

/-- Splits a text into words, with quotation marks, escapes and variables in braces. -/
def splitFrom (environment : List (String × String)) : Nat → Splitting → List Char → Except String (List String)
  | 0, w, _ => .ok w.done.reverse
  | _, w, [] => if w.mark.isSome then .error "no terminating quote in -S string" else .ok w.close.done.reverse
  | n + 1, w, c :: cs =>
    let literal : Except String (List String) := splitFrom environment n (w.push c) cs
    let ended : Except String (List String) :=
      if w.mark.isSome then .error "no terminating quote in -S string" else .ok w.close.done.reverse
    if c = '\x27' ∨ c = '"' then
      if w.mark = some c then splitFrom environment n { w with mark := none } cs
      else if w.mark.isSome then literal
      else splitFrom environment n { w.begin with mark := some c } cs
    else if c = ' ' ∨ ('\t' ≤ c ∧ c ≤ '\r') then
      if w.mark.isSome then literal else splitFrom environment n w.close cs
    else if c = '#' ∧ w.word.isNone then ended
    else if c = '\x5c' then
      match cs with
      | [] => .error "invalid backslash at end of string in -S"
      | e :: rest =>
        if w.mark = some '\x27' ∧ e ≠ '\x5c' ∧ e ≠ '\x27' then literal
        else if "\"#$\x27\\".toList.contains e then splitFrom environment n (w.push e) rest
        else if e = '_' then
          if w.mark.isSome then splitFrom environment n (w.push ' ') rest else splitFrom environment n w.close rest
        else if e = 'c' then
          if w.mark.isSome then .error "\x27\\c\x27 must not appear in double-quoted -S string" else ended
        else match "fnrtv".toList.idxOf? e with
          | some i => splitFrom environment n (w.push (['\x0c', '\n', '\r', '\t', '\x0b'][i]?.getD ' ')) rest
          | none => .error ("invalid sequence \x27\\" ++ String.singleton e ++ "\x27 in -S")
    else if c = '$' ∧ w.mark ≠ some '\x27' then
      let wrong := "only $\x7bVARNAME\x7d expansion is supported, error at: " ++ String.ofList (c :: cs)
      match cs with
      | '\x7b' :: rest =>
        let (name, after) := rest.span fun c => c.isAlphanum || c == '_'
        match after with
        | '\x7d' :: after =>
          if name = [] ∨ (name.head?.map Char.isDigit).getD false then .error wrong
          else
            match environment.find? fun (n, _) => n == String.ofList name with
            | some (_, value) => splitFrom environment n (value.toList.foldl Splitting.push w.begin) after
            | none => splitFrom environment n w after
        | _ => .error wrong
      | _ => .error wrong
    else literal

/-- Splits a text into words, and tells of it if that is wanted. -/
def splitWords (loud : Bool) (s : String) : Tool (List String) := do
  match splitFrom (← get).environment (s.length + 1) ⟨[], none, none⟩ s.toList with
  | .error why => Tool.fail 125 why
  | .ok words =>
    if loud then
      Tool.note ("split -S:  " ++ Quoting.local_ s ++ "\n")
      for (word, i) in words.zipIdx do
        Tool.note ((if i = 0 then " into:    " else "     &    ") ++ Quoting.local_ word ++ "\n")
    return words

/-- The letters before the one that splits the next text, whether one of them makes the program tell what it does, and
whether one of them takes what follows as its argument, which is not read then. -/
def beforeSplit : List Char → List Char → Bool → Option (List Char × List Char × Bool) × Bool
  | [], _, _ => (none, false)
  | c :: cs, before, loud =>
    if c = 'S' then (some (before.reverse, cs, loud), false)
    else if c = 'u' ∨ c = 'C' then (none, cs == [])
    else beforeSplit cs (c :: before) (loud || c == 'v')

/-- Puts the words of texts that are to be split in their places. -/
def splitArguments : Nat → Bool → List String → Tool (List String)
  | 0, _, args => return args
  | _, _, [] => return []
  | n + 1, loud, arg :: rest => do
    if arg = "--" ∨ ¬ arg.startsWith "-" ∨ arg = "-" then return arg :: rest
    else if arg.startsWith "--" then
      match assignment? arg, rest with
      | some ("--split-string", text), rest => splitArguments n loud ((← splitWords loud text) ++ rest)
      | _, text :: rest =>
        if arg = "--split-string" then splitArguments n loud ((← splitWords loud text) ++ rest)
        else if arg = "--unset" ∨ arg = "--chdir" then return arg :: text :: (← splitArguments n loud rest)
        else return arg :: (← splitArguments n (loud || arg == "--debug") (text :: rest))
      | _, [] => return [arg]
    else
      match beforeSplit (arg.toList.drop 1) [] loud, rest with
      | (some (before, text, loud), _), rest =>
        let front := if before = [] then [] else [String.ofList ('-' :: before)]
        match text, rest with
        | [], [] => return [arg]
        | [], text :: rest => return front ++ (← splitArguments n loud ((← splitWords loud text) ++ rest))
        | text, rest => return front ++ (← splitArguments n loud ((← splitWords loud (String.ofList text)) ++ rest))
      | (none, true), value :: rest => return arg :: value :: (← splitArguments n loud rest)
      | (none, _), rest => return arg :: (← splitArguments n (loud || arg.toList.contains 'v') rest)

/-- The signal that a text names, which has to be one. -/
def signalOf (text : String) : Tool Nat := do
  match Shell.Signals.ofText .extended 0 text with
  | some n => return n
  | none => Tool.misuse 125 (Quoting.local_ text ++ ": invalid signal")

/-- The signals of a list with commas; all of them if there is no list. -/
def signalsOf : Option String → Tool (List Nat)
  | none => return (List.range Shell.Signals.count).filter fun n => n ≠ 0 ∧ n ≠ 9 ∧ n ≠ 19
  | some list => (list.splitOn ",").mapM signalOf

/-- Runs a program in another environment, or writes that environment. -/
def env (args : List String) : Tool Nat := do
  let args ← splitArguments (args.foldl (fun n a => n + a.length + 1) 1) false args
  let known := [flag "i" "ignore-environment", flag "0" "null", taking "u" "unset", taking "C" "chdir",
    taking "S" "split-string", flag "v" "debug", wordMayTake "block-signal", wordMayTake "default-signal",
    wordMayTake "ignore-signal", word "list-signal-handling"]
  let g ← Options.read { known, status := 125, first := true } args
  let loud := g.has "v"
  let told (s : String) : Tool Unit := if loud then Tool.note (s ++ "\n") else pure ()
  let ignored ← (g.options.filter fun (key, _) => key == "ignore-signal").mapM fun (_, list) => signalsOf list
  let restored ← (g.options.filter fun (key, _) => key == "default-signal").mapM fun (_, list) => signalsOf list
  for (key, list) in g.options do if key = "block-signal" then discard <| signalsOf list
  let (bare, operands) : Bool × List String := match g.operands with
    | "-" :: rest => (true, rest)
    | operands => (g.has "i", operands)
  let mut environment := (← get).environment
  if bare then
    told "cleaning environ"
    environment := []
  else
    for name in g.all "u" do
      told ("unset:    " ++ name)
      if name = "" ∨ name.toList.contains '=' then
        Tool.fail 125 ("cannot unset " ++ Quoting.local_ name ++ ": " ++ Refusal.invalid.message)
      environment := environment.filter fun (n, _) => n != name
  let settings := operands.takeWhile fun s => (assignment? s).isSome
  let command := operands.drop settings.length
  for setting in settings do
    told ("setenv:   " ++ setting)
    match assignment? setting with
    | some (name, value) => environment := assign environment name value
    | none => pure ()
  if g.has "0" ∧ command ≠ [] then Tool.misuse 125 "cannot specify --null (-0) with command"
  if (g.last? "C").isSome ∧ command = [] then Tool.misuse 125 "must specify command with --chdir (-C)"
  if command = [] then
    let ending := if g.has "0" then "\x00" else "\n"
    for (name, value) in environment do Tool.emit (name ++ "=" ++ value ++ ending)
    return 0
  Proc.change fun pid k => k.modifyProcess pid fun p =>
    { p with ignored := (p.ignored.filter fun n => !restored.flatten.contains n) ++ ignored.flatten }
  match g.last? "C" with
  | none => pure ()
  | some path =>
    told ("chdir:    " ++ Quoting.always path)
    match ← Proc.enter path with
    | .ok () => pure ()
    | .error r => Tool.fail 125 ("cannot change directory to " ++ Quoting.always path ++ ": " ++ r.message)
  told ("executing: " ++ command.headD "")
  for (word, i) in command.zipIdx do told ("   arg[" ++ toString i ++ "]= " ++ Quoting.local_ word)
  let status ← become environment command fun name r => Quoting.local_ name ++ ": " ++ r.message
  if status = 127 ∧ (command.headD "").toList.contains ' ' then
    Tool.say "use -[v]S to pass options in shebang lines"
  return status

/-- Writes variables of the environment. -/
def printenv (args : List String) : Tool Nat := do
  let g ← Options.read { known := [flag "0" "null"], status := 2, first := true } args
  let ending := if g.has "0" then "\x00" else "\n"
  let environment := (← get).environment
  if g.operands = [] then
    for (name, value) in environment do Tool.emit (name ++ "=" ++ value ++ ending)
    return 0
  let mut status := 0
  for name in g.operands do
    match if name.toList.contains '=' then none else environment.find? fun (n, _) => n == name with
    | some (_, value) => Tool.emit (value ++ ending)
    | none => status := 1
  return status

/-! ## Time -/

/-- A time to wait in billionths of a second: a number of seconds, minutes, hours or days. -/
def duration? (s : String) : Option Nat :=
  let (digits, unit) : String × Nat := match s.toList.getLast? with
    | some 's' => ((s.dropEnd 1).toString, 1)
    | some 'm' => ((s.dropEnd 1).toString, 60)
    | some 'h' => ((s.dropEnd 1).toString, 3600)
    | some 'd' => if s.startsWith "0x" then (s, 1) else ((s.dropEnd 1).toString, 86400)
    | _ => (s, 1)
  let lower := digits.map Char.toLower
  if ["inf", "+inf", "infinity", "+infinity"].contains lower then some (Nat.pow 1000000000 3)
  else match Numbers.decimal? digits with
    | none => none
    | some e =>
      if e.parts < 0 then none
      else
        let parts := e.parts.toNat * unit * 1000000000
        let divisor := Nat.pow 10 e.places
        some ((parts + divisor - 1) / divisor)

/-- Waits. -/
def sleep (args : List String) : Tool Nat := do
  let g ← Options.read { known := [] } args
  if g.operands = [] then Tool.misuse 1 "missing operand"
  let mut total := 0
  let mut wrong := false
  for s in g.operands do
    match duration? s with
    | some time => total := total + time
    | none =>
      Tool.say ("invalid time interval " ++ Quoting.local_ s)
      wrong := true
  if wrong then
    Tool.hint
    return 1
  let start ← Proc.now
  Proc.waitUntil (start + total)
  return 0

/-- What a program is told that watches another one. -/
inductive Event where
  | ended (e : Ending)
  | signalled (signal : Nat)
  | late

/-- Waits for a process, a signal or a time. -/
def eventOf (child : Nat) (deadline : Option Nat) : Tool Event := Proc.await fun pid k =>
  let awake (k : Kernel) : Kernel := k.modifyProcess pid fun p => { p with wake := none }
  match (k.process? pid).map Process.arrived with
  | some (signal :: rest) => .done (.signalled signal) ((awake k).modifyProcess pid fun p => { p with arrived := rest })
  | _ => match k.reap child with
    | .done e k => .done (.ended e) (awake k)
    | .waiting k => match deadline with
      | none => .waiting (awake k)
      | some time =>
        if time ≤ k.files.clock then .done .late (awake k)
        else .waiting (k.modifyProcess pid fun p => { p with wake := some time })

/-- The processes that processes have begun, and those that these have. -/
def descendants (k : Kernel) : Nat → List Nat → List Nat
  | 0, found => found
  | n + 1, found =>
    let more := k.processes.toList.filterMap fun (pid, p) =>
      if found.contains p.parent ∧ ¬ found.contains pid then some pid else none
    if more = [] then found else descendants k n (found ++ more)

/-- How a program is watched. -/
structure Watch where
  child : Nat
  command : String
  /-- The signal that is sent when the time is over. -/
  signal : Nat
  /-- The time after which it is killed. -/
  killAfter : Option Nat
  /-- Whether only the program itself is sent signals. -/
  alone : Bool
  loud : Bool

/-- Sends a signal to what is watched. -/
def Watch.send (w : Watch) (signal : Nat) : Tool Unit := Proc.change fun _ k =>
  let pids := if w.alone then [w.child] else descendants k (k.processes.toList.length + 1) [w.child]
  pids.foldl (fun k pid => k.post pid signal) k

/-- Watches a program until it has ended: whether its time was over, and how it ended. -/
def Watch.follow (w : Watch) : Nat → Bool → Option Nat → Tool (Bool × Ending)
  | 0, late, _ => return (late, .exited 124)
  | n + 1, late, deadline => do
    match ← eventOf w.child deadline with
    | .ended e => return (late, e)
    | event =>
      let (late, signal) : Bool × Nat := match event with
        | .signalled signal => (late, signal)
        | _ => (true, w.signal)
      if w.loud then
        Tool.say ("sending signal " ++ Shell.Signals.name .extended signal ++ " to command " ++ Quoting.local_ w.command)
      w.send signal
      if signal = 9 ∧ ¬ w.alone then Proc.finish (.killed 9)
      let now ← Proc.now
      match w.killAfter with
      | some time => ({ w with signal := 9, killAfter := none } : Watch).follow n late (some (now + time))
      | none => w.follow n late none

/-- Runs a program for some time at most. -/
def timeout (args : List String) : Tool Nat := do
  let known := [taking "k" "kill-after", taking "s" "signal", flag "v" "verbose", word "foreground", word "preserve-status"]
  let g ← Options.read { known, status := 125, first := true } args
  let time (s : String) : Tool Nat := match duration? s with
    | some time => return time
    | none => Tool.misuse 125 ("invalid time interval " ++ Quoting.local_ s)
  let killAfter ← (g.last? "k").mapM time
  let signal ← ((g.last? "s").mapM signalOf)
  match g.operands with
  | limit :: name :: rest =>
    let limit ← time limit
    match ← imageOf (← get).environment name rest with
    | .error r =>
      Tool.say (failedToRun name r)
      return statusOf r
    | .ok image =>
      let child ← Proc.spawn fun _ => .become image
      Proc.change fun pid k => k.modifyProcess pid fun p => { p with caught := [1, 2, 3, 15] }
      let start ← Proc.now
      let killAfter := killAfter.filter (· != 0)
      let w : Watch := ⟨child, name, signal.getD 15, killAfter, g.has "foreground", g.has "v"⟩
      let (late, e) ← w.follow Proc.endless false (if limit = 0 then none else some (start + limit))
      match e with
      | .exited status => return if late && !g.has "preserve-status" then 124 else status
      | .killed signal =>
        if ¬ late then Proc.finish (.killed signal)
        return if signal = 9 ∨ g.has "preserve-status" then 128 + signal else 124
  | _ =>
    Tool.hint
    throw 125

/-! ## Other surroundings -/

/-- Writes every adjustment as an option with an argument: a number after a hyphen, perhaps with a sign, is one too. -/
def adjustments : List String → List String
  | "-n" :: n :: rest => "-n" :: n :: adjustments rest
  | a :: rest =>
    let number? : Option (List Char) := match a.toList with
      | '-' :: '+' :: c :: cs => some (c :: cs)
      | '-' :: '-' :: c :: cs => if c.isDigit then some ('-' :: c :: cs) else none
      | '-' :: c :: cs => some (c :: cs)
      | _ => none
    match number? with
    | some cs =>
      if (cs.filter (· != '-')).all Char.isDigit then "-n" :: String.ofList cs :: adjustments rest
      else if a.startsWith "-" then a :: adjustments rest
      else a :: rest
    | none => if a ≠ "--" ∧ a.startsWith "--" then a :: adjustments rest else a :: rest
  | [] => []

/-- Runs a program that is more or less willing to let others go first, or writes how willing one is. -/
def nice (args : List String) : Tool Nat := do
  let args := adjustments args
  let g ← Options.read { known := [taking "n" "adjustment"], status := 125, first := true } args
  let now : Int ← Proc.observe fun pid k => ((k.process? pid).map Process.niceness).getD 0
  let change : Option Int ← (g.last? "n").mapM fun s => match Numbers.integer? s with
    | some n => pure n
    | none => Tool.fail 125 ("invalid adjustment " ++ Quoting.local_ s)
  if g.operands = [] then
    if change.isSome then Tool.misuse 125 "a command must be given with an adjustment"
    Tool.emitLine (toString now)
    return 0
  Proc.change fun pid k => k.modifyProcess pid fun p => { p with niceness := max (-20) (min 19 (now + change.getD 10)) }
  become (← get).environment g.operands fun name r => Quoting.local_ name ++ ": " ++ r.message

/-- Runs a program that goes on when who wanted it has gone. -/
def nohup (args : List String) : Tool Nat := do
  let g ← Options.read { known := [], status := 125, first := true } args
  if g.operands = [] then Tool.misuse 125 "missing operand"
  Proc.change fun pid k => k.modifyProcess pid fun p => { p with ignored := 1 :: p.ignored }
  become (← get).environment g.operands fun name r => "failed to run command " ++ Quoting.always name ++ ": " ++ r.message

/-- Runs a program that holds back more or less of what it writes. -/
def stdbuf (args : List String) : Tool Nat := do
  let known := [taking "i" "input", taking "o" "output", taking "e" "error"]
  let g ← Options.read { known, status := 125, first := true } args
  let mut environment := (← get).environment
  for (key, value) in g.options do
    let mode := value.getD ""
    if mode = "L" then
      if key = "i" then Tool.misuse 125 "line buffering stdin is meaningless"
      environment := assign environment ("_STDBUF_" ++ key.map Char.toUpper) "L"
    else match Numbers.size mode with
      | .ok n => environment := assign environment ("_STDBUF_" ++ key.map Char.toUpper) (toString n)
      | .error _ => Tool.fail 125 ("invalid mode " ++ Quoting.local_ mode)
  if g.operands = [] then Tool.misuse 125 "missing operand"
  if g.options = [] then Tool.misuse 125 "you must specify a buffering mode option"
  become (assign environment "LD_PRELOAD" "/usr/libexec/coreutils/libstdbuf.so") g.operands failedToRun

/-- Runs a program that belongs to nobody else. -/
def setsid (args : List String) : Tool Nat := do
  let g ← Options.read { known := [flag "c" "ctty", flag "f" "fork", flag "w" "wait"], first := true } args
  if g.operands = [] then Tool.misuse 1 "no command specified"
  become (← get).environment g.operands fun name r => "failed to execute " ++ name ++ ": " ++ r.message

end TaskRunner.Tools.Running
