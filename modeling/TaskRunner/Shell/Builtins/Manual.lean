import TaskRunner.Shell.Builtins.Names

/-!
# Commands of the shell about itself

Commands of the shell can be turned off, and described.
-/

namespace TaskRunner.Shell.Builtins

open Processes

/-- A line for one of two columns: a star if the command is turned off, and as much of how it is written as has room. -/
def topicCell (s : State) (room : Nat) (t : Topic) : String :=
  let cut := if t.synopsis.length < room then t.synopsis else (t.synopsis.take (room - 1)).toString ++ ">"
  (if s.disabled.contains t.name then "*" else " ") ++ cut

/-- All topics in two columns. -/
def allTopics (s : State) : String :=
  let columns := ((Sh.value? s "COLUMNS").bind String.toNat?).getD 80
  let width := if columns / 2 ≤ 3 then 40 else columns / 2
  let height := (topics.length + 1) / 2
  let head := "GNU bash, version 5.2.15(1)-release (x86_64-pc-linux-gnu)\nThese shell commands are defined internally.  "
    ++ "Type \x60help\x27 to see this list.\nType \x60help name\x27 to find out more about the function \x60name\x27.\n"
    ++ "Use \x60info bash\x27 to find out more about the shell in general.\nUse \x60man -k\x27 or \x60info\x27 to find out "
    ++ "more about commands not in this list.\n\nA star (*) next to a name means that the command is disabled.\n\n"
  let rows := (List.range height).map fun i =>
    let left := (topics[i]?).elim "" (topicCell s (width - 2))
    match topics[i + height]? with
    | some t => left ++ String.ofList (List.replicate (width - left.length) ' ') ++ topicCell s (width - 3) t ++ "\n"
    | none => left ++ "\n"
  head ++ String.join rows

/-- The topics that a pattern names; those whose names begin with it if none has it as its name. -/
def topicsFor (pattern : String) : List Topic :=
  let cells : List Glob.Cell := pattern.toList.map fun c => (c, false)
  let style : Glob.Style := ⟨.extended, .unicode, true, false⟩
  match topics.filter fun t => t.name == pattern || Glob.matchesText style cells t.name with
  | [] => topics.filter fun t => t.name.startsWith pattern
  | found => found

/-- Describes commands. -/
def help (args : List String) : Sh Nat := do
  let (flags, patterns) ← readOptions "dms" args
  let has (c : Char) : Bool := flags.any fun (d, _) => d == c
  if patterns = [] then
    Sh.put (allTopics (← get))
    return 0
  if Glob.isSpecial false ((patterns.headD "").toList.map fun c => (c, false)) then
    Sh.put ("Shell commands matching keyword" ++ (if 1 < patterns.length then "s" else "") ++ " \x60" ++ ", ".intercalate patterns
      ++ "\x27\n\n")
  for pattern in patterns do
    for t in topicsFor pattern do
      if has 'd' then Sh.put (t.name ++ " - " ++ t.summary ++ "\n")
      else if has 'm' then
        Sh.put ("NAME\n    " ++ t.name ++ " - " ++ t.summary ++ "\n\nSYNOPSIS\n    " ++ t.synopsis ++ "\n\nDESCRIPTION\n    "
          ++ t.summary ++ "\n    \n")
      else
        Sh.put (t.name ++ ": " ++ t.synopsis ++ "\n")
        if ¬ has 's' then Sh.put ("    " ++ t.summary ++ "\n    \n")
  if patterns.all fun pattern => (topicsFor pattern).isEmpty then
    let last := patterns.getLast?.getD ""
    Sh.complainAbout ("no help topics match \x60" ++ last ++ "\x27.  Try \x60help help\x27 or \x60man -k " ++ last
      ++ "\x27 or \x60info " ++ last ++ "\x27.")
    return 1
  return 0

/-- Lists commands of the shell, those that are turned on or those that are not. -/
def listCommands (on off special : Bool) : Sh Unit := do
  let s ← get
  for name in names .extended do
    let isOff := s.disabled.contains name
    if (¬ special ∨ name = "source" ∨ Grammar.isSpecial name) ∧ (if isOff then off else on) then
      Sh.put ((if isOff then "enable -n " else "enable ") ++ name ++ "\n")

/-- Turns commands of the shell on or off, or lists them. -/
def enable (args : List String) : Sh Nat := do
  let (flags, wanted) ← readOptions "adnpsf:" args
  let has (c : Char) : Bool := flags.any fun (d, _) => d == c
  if wanted = [] ∨ has 'p' then
    listCommands (has 'a' || !has 'n') (has 'a' || has 'n') (has 's')
    return 0
  match flags.find? fun (c, _) => c == 'f' with
  | some (_, file) =>
    Sh.complainAbout ("cannot open shared object " ++ file ++ ": " ++ file
      ++ ": cannot open shared object file: No such file or directory")
    return 1
  | none => pure ()
  let mut status := 0
  for name in wanted do
    let known := (names .extended).contains name && (!has 's' || Grammar.isSpecial name)
    if ¬ known ∨ has 'd' then
      Sh.complainAbout (name ++ (if known then ": not dynamically loaded" else ": not a shell builtin"))
      status := 1
    else
      modify fun s =>
        let others := s.disabled.filter (· != name)
        { s with disabled := if has 'n' then name :: others else others }
  return status

/-- Says how lines are edited, which a script does not need. -/
def bind (args : List String) : Sh Nat := do
  Sh.complainAbout "warning: line editing not enabled"
  let (_, rest) ← readOptions "lvpVPsSXf:q:u:m:r:x:" args
  for keys in rest do
    if ¬ keys.toList.contains ':' then
      discard <| Proc.write 2 (Sh.bytes ("readline: " ++ keys ++ ": no key sequence terminator\n"))
  return 0

/-- Stops the shell until a signal comes, which needs control over jobs. -/
def suspend (args : List String) : Sh Nat := do
  let (_, rest) ← readOptions "f" args
  if rest ≠ [] then
    Sh.complainAbout "too many arguments"
    throw (.discard 1)
  Sh.complainAbout "cannot suspend: no job control"
  return 1

/-- Ends a shell that a session began with. -/
def logout : Sh Nat := do
  Sh.complainAbout "not login shell: use \x60exit\x27"
  return 1

end TaskRunner.Shell.Builtins
