import TaskRunner.Shell.Builtins.Completion
import TaskRunner.Shell.Builtins.History
import TaskRunner.Shell.Builtins.Input
import TaskRunner.Shell.Builtins.Jobs
import TaskRunner.Shell.Builtins.Manual
import TaskRunner.Shell.Redirection

/-!
# What carrying out commands is made of

Commands lie in one another, and texts that are carried out may be made by commands. Every function here
takes the two that all of this comes down to, carrying out a command and carrying out a text, from a
`Knot`. Besides it holds what all kinds of commands need: copies of the shell, waiting for them, what is
done about signals and failures, and what is shown of commands.
-/

namespace TaskRunner.Shell.Evaluation

open Processes

/-- How a command is carried out. -/
structure Mode where
  /-- Whether its failure is looked at, so that it ends nothing. -/
  tested : Bool
  /-- Whether the shell ends with it. -/
  exits : Bool
  /-- Whether a program that takes the place of the shell is one level less deep than the shell. -/
  rises : Bool

/-- As a command on its own. -/
def Mode.plain : Mode := ⟨false, false, false⟩

/-- As a condition. -/
def Mode.condition : Mode := ⟨true, false, false⟩

/-- As the last command of a shell. -/
def Mode.last : Mode := ⟨false, true, true⟩

/-- The same, but with something to do afterwards. -/
def Mode.goingOn (m : Mode) : Mode := { m with exits := false }

/-- Where a text that is carried out comes from. -/
structure Origin where
  /-- The name of the text in messages about its syntax. -/
  tag : String
  line : Nat

/-- How commands and texts are carried out. -/
structure Knot where
  run : Mode → Command → Sh Unit
  text : Mode → Origin → String → Sh Unit
  means : Means

/-! ## The end of a shell -/

/-- Carries out an action; however it ends, only its status is left. -/
def absorb (action : Sh Unit) : Sh Unit := tryCatch action fun
  | .exit n | .error n | .discard n | .giveBack n => do
    Sh.setStatus n
    modify fun s => { s with out := "" }
  | .breakLoop _ | .continueLoop _ => Sh.setStatus 0

/-- Carries out an action and ends the shell, after what was to be done about its end. -/
def conclude (k : Knot) (action : Sh Unit) : Sh Unit := do
  absorb action
  let s ← get
  match s.traps.find? 0 with
  | some last =>
    if last ≠ "" then
      set { s with traps := s.traps.erase 0, lastStatus := some s.status, command := none, answering := true }
      tryCatch (do
        k.text .plain ⟨"exit trap", 1⟩ last
        Sh.setStatus s.status) fun
        | .exit n | .error n | .discard n => Sh.setStatus n
        | _ => Sh.setStatus s.status
  | none => pure ()
  let status := (← get).status
  Proc.finish (.exited (status % 256))

/-- Does what was to be done about the end of the shell, and ends it by a signal. -/
def die {α : Type} (k : Knot) (signal : Nat) : Sh α := do
  let s ← get
  match s.traps.find? 0 with
  | some last =>
    if last ≠ "" then
      set { s with traps := s.traps.erase 0, lastStatus := some s.status, command := none, answering := true }
      absorb (k.text .plain ⟨"exit trap", 1⟩ last)
  | none => pure ()
  Proc.finish (.killed signal)

/-! ## Copies of the shell -/

/-- The state of a copy of a shell. It does not do what the shell was to do about signals. -/
def copyOf (s : State) : State :=
  let kept : Assoc Nat String := ⟨s.traps.toList.filter fun (_, action) => action == ""⟩
  let copy := { s with isCopy := s.isCopy + 1, out := "", coprocess := none, connections := [], lastStatus := none, traps := kept }
  match s.dialect with
  | .plain => { copy with jobs := [] }
  | .extended =>
    { copy with
      formerTraps := s.traps
      jobs := s.jobs.map fun j => { j with isOwn := false }
      hooks := ⟨s.hooks.toList.filter fun (name, _) => Sh.isOn s (if name = "ERR" then "errtrace" else "functrace")⟩ }

/-- Begins a copy of the shell, which does something and ends. -/
def fork (k : Knot) (action : Sh Unit) : Sh Nat := do
  Signals.reuse
  Proc.spawn fun s => (conclude k action).program (copyOf s) (fun _ s => .ended (.exited (s.status % 256)))
    (fun _ s => .ended (.exited (s.status % 256)))

/-- Waits for a process, unless a signal ends the shell before. -/
def reap (k : Knot) (pid : Nat) : Sh Ending := do
  let watched := Signals.watched (← get)
  let deadly (n : Nat) : Bool := n != 3 && watched.contains n
  match ← Signals.reapUnless deadly pid with
  | some e => return e
  | none => die k (((← Signals.arrived).find? deadly).getD 15)

/-- Waits for a process, and says on a descriptor how it ended if a signal did it. -/
def waitFor (k : Knot) (errors pid : Nat) (text : String) : Sh Ending := do
  let e ← reap k pid
  match e with
  | .killed signal => Builtins.sayKilled errors pid signal text
  | .exited _ => pure ()
  Builtins.settle
  return e

/-! ## Signals and failures -/

/-- Does what is to be done about the signals that have come. -/
def answerSignals (k : Knot) : Sh Unit := do
  let s ← get
  let watched := Signals.watched s
  if watched ≠ [] ∨ s.traps.toList.any fun (n, action) => n != 0 && action != "" then
    for n in ← Signals.arrived do
      let s ← get
      match s.traps.find? n with
      | some action =>
        if action ≠ "" then
          set { s with lastStatus := some s.status, answering := true }
          k.text .plain ⟨"trap", s.line⟩ action
          modify fun t => { t with status := s.status, lastStatus := s.lastStatus, line := s.line, answering := s.answering }
      | none => if n ≠ 3 ∧ s.dialect = .extended then die k n

/-- Keeps what is being carried out, unless it is an answer to a signal or an event. -/
def noteCommand (text : String) : Sh Unit := modify fun s => if s.answering then s else { s with running := text }

/-- Does what is to be done about an event. -/
def answerEvent (k : Knot) (name : String) : Sh Unit := do
  let s ← get
  match s.hooks.find? name with
  | some action =>
    if action ≠ "" ∧ ¬ s.trapped then
      set { s with trapped := true, answering := true }
      Sh.andFinally (k.text .plain ⟨"trap", s.line⟩ action)
        (modify fun t => { t with trapped := false, answering := s.answering, status := s.status, line := s.line })
  | none => pure ()

/-- Looks at the status that a command has left: a failure may have to be answered, and may end the shell. -/
def checkFailure (k : Knot) (m : Mode) : Sh Unit := do
  let s ← get
  if s.status ≠ 0 ∧ ¬ m.tested then
    if s.callers.isEmpty ∨ Sh.isOn s "errtrace" then answerEvent k "ERR"
    if Sh.isOn s "errexit" then throw (.exit s.status)

/-! ## What is shown of commands -/

/-- What is put in front of commands that are shown. -/
def traceLead (means : Means) : Sh String := do
  let s ← get
  let text := (Sh.value? s "PS4").getD ""
  if ¬ text.toList.any ['$', '\x60', '\x5c'].contains then return raised s text
  Sh.turn "xtrace" false
  let lead ← Expansion.prompt means text
  Sh.turn "xtrace" true
  modify fun after => { after with status := s.status, substituted := s.substituted }
  return raised s lead
where
  /-- With its first character repeated for how deep the shell is in texts. -/
  raised (s : State) (lead : String) : String :=
    match s.dialect with
    | .plain => lead
    | .extended =>
      match Text.Octets.characters lead with
      | c :: rest => Text.Octets.ofCharacters (List.replicate (s.depth + 1) c ++ rest)
      | [] => ""

/-- Shows a command, on a descriptor for errors. -/
def trace (means : Means) (descriptor : Nat) (text : String) : Sh Unit := do
  if Sh.isOn (← get) "xtrace" then
    let lead ← traceLead means
    let descriptor ← match (Sh.value? (← get) "BASH_XTRACEFD").bind String.toNat? with
      | some n => do pure (if (← Sh.isExtended) && (← Proc.isOpen n) then n else descriptor)
      | none => pure descriptor
    discard <| Proc.write descriptor (Sh.bytes (lead ++ text ++ "\n"))

/-- The descriptor for errors as it was before redirections. -/
def errorsBefore (saved : List Sh.Saved) : Nat :=
  ((saved.find? fun v => v.descriptor == 2).bind Sh.Saved.copy).getD 2

/-- A word as it is shown. -/
def shown (d : Dialect) (s : String) : String :=
  match d with
  | .plain => s
  | .extended => Quoting.traced s

/-! ## What words need -/

/-- The output of a command without the line ends at its end. -/
def withoutLineEnds (bytes : ByteArray) : String :=
  let rec size : Nat → Nat
    | 0 => 0
    | n + 1 => if bytes.get! n == 10 then size n else n + 1
  Text.Octets.ofBytes (bytes.extract 0 (size bytes.size))

/-- The file whose bytes stand for the output of a command that is nothing but a redirection of the input. -/
def inputOnly? : Command → Option Word
  | .simple _ [] [] [.file 0 .input name] [] => some name
  | _ => none

/-- Writes the bytes of a file. -/
def copyFile (k : Knot) (name : Word) : Sh Unit := do
  match ← Redirection.pathOf k.means name with
  | .error message =>
    Sh.complain message
    Sh.setStatus 1
  | .ok path =>
    let source ← Sh.newPrivate
    match ← Proc.openAs source Kernel.OpenMode.input path with
    | .error r =>
      Sh.complain (path ++ ": " ++ Sh.reason r)
      Sh.setStatus 1
    | .ok () =>
      match ← Proc.readAll source with
      | .ok bytes => discard <| Proc.write 1 bytes
      | .error r => Sh.complain ("read error: " ++ path ++ ": " ++ Sh.reason r)
      Sh.setStatus 0

/-- The output of a command. -/
def output (k : Knot) : Option Command → Sh String
  | none => return ""
  | some c => do
    let extended ← Sh.isExtended
    let source ← Sh.newPrivate
    let drain ← Sh.newPrivate
    Proc.pipe source drain
    let child ← fork k do
      discard <| Proc.duplicate drain 1
      Proc.close source
      Proc.close drain
      if extended then
        modify fun s => { s with depth := s.depth + 1, isSubstitution := true }
        if ¬ Sh.isOn (← get) "inherit_errexit" then Sh.turn "errexit" false
      match if extended then inputOnly? c else none with
      | some name => copyFile k name
      | none => k.run .last c
    Proc.close drain
    let bytes ← match ← Proc.readAll source with
      | .ok bytes => pure bytes
      | .error _ => pure ByteArray.empty
    Proc.close source
    let e ← Proc.reap child
    match e with
    | .killed signal => if ¬ extended then Builtins.sayKilled 2 child signal ""
    | .exited _ => pure ()
    modify fun s => { s with substituted := some (Signals.statusOf e) }
    let text := withoutLineEnds bytes
    if text.toList.contains '\x00' then
      if extended then Sh.complain "warning: command substitution: ignored null byte in input"
      return String.ofList (text.toList.filter (· != '\x00'))
    else return text

/-- The name of a file that a command is connected with. -/
def connection (k : Knot) (reads : Bool) (c : Option Command) : Sh String := do
  let here := ((← Coprocess.free 1).head?).getD 10
  let other ← Sh.newPrivate
  if reads then Proc.pipe here other else Proc.pipe other here
  let child ← fork k do
    discard <| Proc.duplicate other (if reads then 1 else 0)
    Proc.close here
    Proc.close other
    match c with
    | some c => k.run .last c
    | none => pure ()
  Proc.close other
  modify fun s => { s with connections := here :: s.connections, background := some child }
  return "/dev/fd/" ++ toString here

/-- What words need. -/
def meansOf (k : Knot) : Means := ⟨output k, connection k⟩

/-- Gives up the descriptors that stand for commands, except those that were there before. -/
def disconnect (before : List Nat) : Sh Unit := do
  for n in (← get).connections do
    if ¬ before.contains n then Proc.close n
  modify fun s => { s with connections := before }

/-! ## Loops -/

/-- How a round of a loop ends. -/
inductive Round (α : Type) where
  | done (a : α)
  | again
  | leave

/-- Carries out a round of a loop. -/
def inRound {α : Type} (action : Sh α) : Sh (Round α) :=
  tryCatch (do return .done (← action)) fun
    | .breakLoop depth => if depth ≤ 1 then return .leave else throw (.breakLoop (depth - 1))
    | .continueLoop depth => if depth ≤ 1 then return .again else throw (.continueLoop (depth - 1))
    | jump => throw jump

/-- Carries out a loop. -/
def looping (action : Sh Unit) : Sh Unit := do
  modify fun s => { s with loops := s.loops + 1 }
  Sh.andFinally action (modify fun s => { s with loops := s.loops - 1 })

/-! ## Redirections around commands -/

/-- The status of a command whose redirections cannot be followed. -/
def redirectionStatus : Dialect → Nat
  | .plain => 2
  | .extended => 1

/-- Carries out an action while redirections hold. -/
def redirected (k : Knot) (m : Mode) (line : Nat) (rs : List Redirect) (action : Sh Unit) : Sh Unit := do
  modify fun s => { s with line := if s.functionLine = 0 then line else line - (s.functionLine - 1) }
  let before := (← get).connections
  let ready ← rs.mapM (Redirection.ready k.means)
  let (followed, saved) ← Redirection.enter ready []
  if followed then Sh.andFinally action (do Sh.restore saved; disconnect before)
  else
    Sh.restore saved
    disconnect before
    Sh.setStatus (redirectionStatus (← get).dialect)
    checkFailure k m

end TaskRunner.Shell.Evaluation
