import TaskRunner.Shell.Arrays

/-!
# The command that a shell is connected with

A shell can be connected with a command that goes on while the shell does: one descriptor leads from
what the command writes, another one to what it reads. Both are told in an array that has a name.
-/

namespace TaskRunner.Shell.Coprocess

open Processes

/-- The highest descriptors that stand for nothing, below those that are not usual any more. -/
def free (howMany : Nat) : Sh (List Nat) := Proc.observe fun pid k =>
  (((List.range 54).map (63 - ·)).filter fun n => (k.index? pid n).isNone).take howMany

/-- The descriptors that lead from the command and to it. -/
def descriptors (s : State) : List Nat := match s.coprocess with
  | some c => c.reader.toList ++ c.writer.toList
  | none => []

/-- The name of the variable that tells the number of the process. -/
def processVariable (name : String) : String := name ++ "_PID"

/-- Tells the descriptors in the array. -/
def tell (c : Coprocess) : Sh Unit :=
  let text (n : Option Nat) : String := (n.map toString).getD "-1"
  Arrays.putAll c.name [text c.reader, text c.writer]

/-- Keeps a new command, and tells of it. -/
def keep (c : Coprocess) : Sh Unit := do
  modify fun s => { s with coprocess := some c }
  if Sh.isFixed (← get) c.name then Sh.complain (c.name ++ ": readonly variable")
  else
    tell c
    Sh.assign (processVariable c.name) (toString c.pid)

/-- Notes that a descriptor has been closed. -/
def noteClosed (n : Nat) : Sh Unit := do
  match (← get).coprocess with
  | none => pure ()
  | some c =>
    if c.reader = some n ∨ c.writer = some n then
      let c := { c with reader := c.reader.filter (· != n), writer := c.writer.filter (· != n) }
      modify fun s => { s with coprocess := some c }
      tell c

/-- Gives up the command if it has ended: its descriptors are closed, and its variables are no more. -/
def giveUp : Sh Unit := do
  let s ← get
  match s.coprocess with
  | none => pure ()
  | some c =>
    let hasEnded := (s.jobs.flatMap Job.ended ++ s.bygone).any fun (pid, _) => pid == c.pid
    if hasEnded then
      for n in descriptors s do Proc.close n
      modify fun s =>
        { s with coprocess := none, vars := (s.vars.erase c.name).erase (processVariable c.name) }

end TaskRunner.Shell.Coprocess
