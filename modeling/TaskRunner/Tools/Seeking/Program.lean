import TaskRunner.Tools.Running
import TaskRunner.Tools.Seeking.Reader

/-!
# The program that finds files

Directories are gone through with all that is in them, and a query is answered for every file, which does
something with those that it is about.
-/

namespace TaskRunner.Tools.Seeking

open Processes

/-- What has come of a search so far. -/
structure Progress where
  status : Nat
  /-- Whether what is in the directory at hand is left out. -/
  pruned : Bool
  /-- The files that are gathered for a program, the last first: the number of the action, the directory, if the program
  runs beside them, and the program. -/
  gathered : List (Nat × Option String × List String × List String)
  /-- How deep the file before was. -/
  depth : Nat

/-! ## Running programs -/

/-- What stands for a file in arguments. -/
def mark : String := "\x7b\x7d"

/-- Runs a program in a directory and waits for it: whether it succeeded. -/
def launch (directory : Option String) (withoutInput : Bool) (command : List String) : Tool Bool := do
  Tool.flush
  let name := command.headD ""
  let whole : Tool Nat := do
    match directory with
    | some path => discard <| Proc.enter path
    | none => pure ()
    if withoutInput then discard <| Proc.openAs 0 Kernel.OpenMode.input "/dev/null"
    match ← Running.imageOf (← get).environment name (command.drop 1) with
    | .ok image => Proc.become image
    | .error r => Tool.fail 1 (shown name ++ ": " ++ r.message)
  let ended (status : Nat) (_ : State) : Program := .ended (.exited status)
  let child ← Proc.spawn fun s => Proc.program whole { s with out := ByteArray.empty } ended ended
  return (← Proc.reap child) == .exited 0

/-- The name of a file for a program that runs beside it. -/
def besideName (v : Visit) : String :=
  let name := v.name
  if name = "/" then name else "./" ++ name ++ (if v.path.endsWith "/" then "/" else "")

/-- The directory of a file, for a program that runs beside it. -/
def besidePlace (v : Visit) : String :=
  let s := Visit.trimmed v.path
  match s.toList.reverse.dropWhile (· != '/') with
  | [] => "."
  | [_] => "/"
  | _ :: cs => String.ofList cs.reverse

/-- Runs the programs for which files have been gathered, all or those that run beside files. -/
def runGathered (onlyBeside : Bool) (p : Progress) : Tool Progress := do
  let (due, kept) := p.gathered.partition fun (_, place, _, _) => !onlyBeside || place.isSome
  let mut status := p.status
  for (_, place, command, files) in due.mergeSort fun a b => a.1 ≤ b.1 do
    if ¬ (← launch place false (command ++ files.reverse)) then status := 1
  return { p with status, gathered := kept }

/-- How many bytes the arguments of a program may take. -/
def mostBytes : Nat := 129024

/-- Gathers a file for a program, which is run when there is no room for more. -/
def gather (n : Nat) (command : List String) (place : Option String) (file : String) (p : Progress) : Tool Progress := do
  let size (words : List String) : Nat := words.foldl (fun n s => n + s.utf8ByteSize + 1) 0
  match p.gathered.find? fun (m, _) => m == n with
  | some (_, _, _, files) =>
    let full : Bool := mostBytes < size command + size files + size [file]
    let status ←
      if full then do
        let done ← launch place false (command ++ files.reverse)
        pure (if done then p.status else 1)
      else pure p.status
    let files := if full then [file] else file :: files
    return { p with status, gathered := (n, place, command, files) :: p.gathered.filter fun (m, _) => m != n }
  | none => return { p with gathered := (n, place, command, [file]) :: p.gathered }

/-! ## Answers -/

/-- Writes where it is wanted. -/
def emitTo (o : Outlet) (text : String) : Tool Unit := do
  match o with
  | .output => Tool.emit text
  | .descriptor n path =>
    match ← Proc.write n (Text.Octets.toBytes text) with
    | .ok () => return
    | .error r => Tool.fail 1 (shown path ++ ": " ++ r.message)

/-- Small letters. -/
def folded (ignoresCase : Bool) (s : String) : String := if ignoresCase then s.map Char.toLower else s

/-- The answer of a test. -/
def answer (fs : FileSystem) (s : Settings) (v : Visit) : Test → Bool
  | .always b => b
  | .name w ignores => w.isMatch (folded ignores v.name)
  | .path w ignores => w.isMatch (folded ignores v.path)
  | .target w ignores =>
    match v.info.kind with
    | .link target => w.isMatch (folded ignores (Text.Octets.ofName target))
    | _ => false
  | .matched r ignores =>
    let cs := Text.Octets.characters v.path
    (r.stops (Regex.Subject.ofList cs ignores) 0).contains cs.length
  | .kind letters false => letters.contains (letterOf v.info)
  | .kind letters true =>
    if s.follows then letters.contains (letterOf v.own)
    else letters.contains (match v.beyond with
      | .ok i => letterOf i
      | .error _ => letterOf v.info)
  | .size b unit => b.holds ((v.info.size + unit - 1) / unit)
  | .isEmpty =>
    match v.info.kind with
    | .file => v.info.size == 0
    | .directory => (fs.names v.location).isEmpty
    | _ => false
  | .mode sign plain directory =>
    let wanted := if v.info.kind = .directory then directory else plain
    match sign with
    | none => v.info.mode == wanted
    | some '-' => v.info.mode &&& wanted == wanted
    | some _ => wanted == 0 || v.info.mode &&& wanted != 0
  | .timed used w => w.holds (v.info.time used)
  | .count .links b => b.holds v.info.names
  | .count .serial b => b.holds v.info.serial
  | .count .owner b => b.holds 0
  | .same serial => v.info.serial == serial
  | .isExecutable =>
    match v.beyond with
    | .ok i => i.kind == .directory || i.mode &&& 0o111 != 0
    | .error _ => false

/-- Asks whether something is to be done. -/
def isGranted (name : String) (v : Visit) : Tool Bool := do
  Tool.flush
  Tool.note ("< " ++ name ++ " ... " ++ v.path ++ " > ? ")
  match ← Proc.readThrough 0 10 with
  | .ok bytes => return match (Text.Octets.ofBytes bytes).toList with
    | c :: _ => c == 'y' || c == 'Y'
    | [] => false
  | .error _ => return false

/-- Does something with a file: the answer, and what has come of it. -/
def perform (s : Settings) (v : Visit) (a : Action) (p : Progress) : Tool (Bool × Progress) := do
  match a with
  | .write ending o =>
    emitTo o (v.path ++ ending)
    return (true, p)
  | .writeAs pieces o =>
    emitTo o (written s.zone v pieces)
    return (true, p)
  | .list o =>
    emitTo o (listed s.zone (← Proc.now) v)
    return (true, p)
  | .delete =>
    if v.path = "." then return (true, p)
    let path := Text.Octets.toText v.path
    match ← Proc.changeFiles fun fs place =>
        if v.info.kind = .directory then fs.removeDirectoryAt place path else fs.unlinkAt place path with
    | .ok () => return (true, p)
    | .error r =>
      Tool.say ("cannot delete " ++ shown v.path ++ ": " ++ r.message)
      return (false, { p with status := 1 })
  | .prune => return (true, { p with pruned := !s.late })
  | .quit =>
    let p ← runGathered false p
    throw p.status
  | .run command beside asks =>
    let granted ← if asks then isGranted (command.headD "") v else pure true
    if ¬ granted then return (false, p)
    let name := if beside then besideName v else v.path
    let done ← launch (if beside then some (besidePlace v) else none) asks (command.map fun a => a.replace mark name)
    return (done, p)
  | .gather n command beside =>
    let name := if beside then besideName v else v.path
    return (true, ← gather n command (if beside then some (besidePlace v) else none) name p)

/-- The answer of a query for a file, and what has come of what it does. -/
def Query.answer (s : Settings) (v : Visit) : Query → Progress → Tool (Bool × Progress)
  | .test t, p => do
    let (fs, _) ← Proc.files
    return (Seeking.answer fs s v t, p)
  | .act a, p => perform s v a p
  | .negated q, p => do
    let (b, p) ← q.answer s v p
    return (!b, p)
  | .both q r, p => do
    let (b, p) ← q.answer s v p
    if b then r.answer s v p else return (false, p)
  | .either q r, p => do
    let (b, p) ← q.answer s v p
    if b then return (true, p) else r.answer s v p
  | .list q r, p => do
    let (_, p) ← q.answer s v p
    r.answer s v p

/-! ## Going through directories -/

/-- What is found at a path; links are followed if they lead to something. -/
def visitOf (s : Settings) (start path : String) (depth : Nat) : Tool (Except Refusal Visit) := do
  let follows := s.follows || (s.followsStart && depth == 0)
  let own ← Making.known false path
  let beyond ← Making.known true path
  return match own, beyond with
    | .ok (l, i), .error r =>
      if follows ∧ r = .tooManyLinks then .error r else .ok ⟨path, start, depth, l, i, i, .error r⟩
    | .ok (l, i), .ok (l', i') => 
      .ok (if follows then ⟨path, start, depth, l', i', i, .ok i'⟩ else ⟨path, start, depth, l, i, i, .ok i'⟩)
    | .error r, _ => .error r

mutual

/-- Goes through a file and what is in it. -/
def seek (s : Settings) (q : Query) (start : String) :
    Nat → List Nat → String → Nat → Progress → Tool Progress
  | 0, _, _, _, p => return p
  | n + 1, above, path, depth, p => do
    Proc.step
    match ← visitOf s start path depth with
    | .error r =>
      Tool.say (shown path ++ ": " ++ r.message)
      return { p with status := 1 }
    | .ok v =>
      let isDirectory : Bool := v.info.kind == .directory
      if isDirectory ∧ above.contains v.info.serial then
        let outer := (path.splitOn "/").take ((path.splitOn "/").length - (above.takeWhile (· != v.info.serial)).length - 1)
        Tool.say ("File system loop detected; " ++ shown path ++ " is part of the same file system loop as "
          ++ shown ("/".intercalate outer) ++ ".")
        return { p with status := 1 }
      let asked (p : Progress) : Tool Progress := do
        if depth < s.least then return p
        let p ← if p.depth = depth then pure p else runGathered true p
        let (_, p) ← q.answer s v { p with depth }
        return p
      let descends : Bool := isDirectory && s.most.all fun most => depth < most
      if s.late then
        let p ← if descends then inside s q start n v above p else pure p
        asked p
      else
        let p ← asked { p with pruned := false }
        if descends ∧ ¬ p.pruned then inside s q start n v above p else return { p with pruned := false }

/-- Goes through what is in a directory. -/
def inside (s : Settings) (q : Query) (start : String) :
    Nat → Visit → List Nat → Progress → Tool Progress
  | 0, _, _, p => return p
  | n + 1, v, above, p => do
    let (fs, _) ← Proc.files
    match fs.held? v.location with
    | some (.directory _) =>
      seekAll s q start n (v.info.serial :: above) (v.depth + 1)
        ((fs.names v.location).map fun name => Making.inside v.path (Text.Octets.ofName name)) p
    | _ =>
      -- Nothing is left in a directory that was removed.
      if v.location = FileSystem.nowhere then return p
      Tool.say (shown v.path ++ ": " ++ Refusal.noEntry.message)
      return { p with status := 1 }

/-- Goes through some files. -/
def seekAll (s : Settings) (q : Query) (start : String) :
    Nat → List Nat → Nat → List String → Progress → Tool Progress
  | 0, _, _, _, p => return p
  | _, _, _, [], p => return p
  | n + 1, above, depth, path :: rest, p => do
    let p ← seek s q start n above path depth p
    seekAll s q start n above depth rest p

end

/-- Reads options before everything else: whether links are followed, also only where the search begins, and the
arguments that are left. -/
def readOptions : List String → Bool → Bool → Tool (Bool × Bool × List String)
  | [], follows, start => return (follows, start, [])
  | arg :: rest, follows, start => do
    match arg, rest with
    | "-L", rest => readOptions rest true true
    | "-H", rest => readOptions rest false true
    | "-P", rest => readOptions rest false false
    | "--", rest => return (follows, start, rest)
    | "-D", [] => Tool.misuse 1 "Missing argument after the -D option."
    | "-D", _ :: rest => readOptions rest follows start
    | arg, rest =>
      if arg.startsWith "-O" then
        let level := (arg.drop 2).toString
        if level = "" then Tool.fail 1 "The -O option must be immediately followed by a decimal integer"
        if ¬ (level.toList.headD 'x').isDigit then Tool.fail 1 "Please specify a decimal number immediately after -O"
        if ¬ level.toList.all Char.isDigit then Tool.fail 1 ("Invalid optimisation level " ++ level)
        readOptions rest follows start
      else return (follows, start, arg :: rest)

/-- Finds files. -/
def find (args : List String) : Tool Nat := do
  Tool.ifUnwritten fun r => shown "standard output" ++ ": " ++ r.message ++ "\nfind: write error"
    ++ (if r = .badDescriptor then ": " ++ r.message else "")
  let (follows, followsStart, args) ← readOptions args false false
  let starts := args.takeWhile fun a => !isWord true a
  let now ← Proc.now
  let origin : Int := (now : Int) - 86400 * Dates.perSecond
  let settings : Settings := { follows, followsStart, starts, origin, zone := ← Dates.zone }
  let words := args.drop starts.length
  let d ← readQuery (words.length + 1) ⟨settings, []⟩ none words
  let q ← match Query.ofWords d.words with
    | .ok q => pure q
    | .error why => Tool.fail 1 why
  let s := d.settings
  if s.deletes ∧ s.prunes ∧ ¬ s.asksLate then
    Tool.fail 1 ("The -delete action automatically turns on -depth, but -prune does nothing when -depth is in effect.  "
      ++ "If you want to carry on anyway, just explicitly use the -depth option.")
  let search (p : Progress) (start : String) : Tool Progress := do
    let p ← seek s q start Proc.endless [] start 0 p
    runGathered true p
  let p ← (if starts = [] then ["."] else starts).foldlM search ⟨0, false, [], 0⟩
  let p ← runGathered false p
  return p.status

end TaskRunner.Tools.Seeking
