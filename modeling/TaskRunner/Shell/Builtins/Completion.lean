import TaskRunner.Shell.Builtins.Names
import TaskRunner.Shell.Builtins.Variables
import TaskRunner.Shell.Signals

/-!
# Commands of the shell that complete words

How words are completed after a command is said by options: kinds of names, lists of words, patterns, and what is
put around what is found. What has been said for a command is kept as it would be said again.
-/

namespace TaskRunner.Shell.Builtins

open Processes

/-- The kinds of names that letters stand for. -/
def actionLetters : List (Char × String) :=
  [('a', "alias"), ('b', "builtin"), ('c', "command"), ('d', "directory"), ('e', "export"), ('f', "file"), ('g', "group"),
    ('j', "job"), ('k', "keyword"), ('s', "service"), ('u', "user"), ('v', "variable")]

/-- All kinds of names, in the order in which those without letters are shown. -/
def actionNames : List String :=
  ["arrayvar", "binding", "disabled", "enabled", "function", "helptopic", "hostname", "running", "setopt", "shopt",
    "signal", "stopped"] ++ actionLetters.map Prod.snd

/-- What else can be asked for. -/
def completionOptions : List String :=
  ["bashdefault", "default", "dirnames", "filenames", "noquote", "nosort", "nospace", "plusdirs"]

/-- How words are completed. -/
structure Completing where
  options : List String := []
  actions : List String := []
  pattern : Option String := none
  words : Option String := none
  lead : Option String := none
  trail : Option String := none
  filter : Option String := none
  command : Option String := none
  function : Option String := none

/-- Reads what options say about completing words. -/
def completingOf : List (Char × String) → Completing → Sh Completing
  | [], c => return c
  | (letter, value) :: rest, c => do
    let c ← match letter with
      | 'o' =>
        if completionOptions.contains value then pure { c with options := value :: c.options }
        else
          Sh.complainAbout (value ++ ": invalid option name")
          throw (.error 2)
      | 'A' =>
        if actionNames.contains value then pure { c with actions := value :: c.actions }
        else
          Sh.complainAbout (value ++ ": invalid action name")
          throw (.error 2)
      | 'G' => pure { c with pattern := some value }
      | 'W' => pure { c with words := some value }
      | 'P' => pure { c with lead := some value }
      | 'S' => pure { c with trail := some value }
      | 'X' => pure { c with filter := some value }
      | 'C' => pure { c with command := some value }
      | 'F' =>
        if value.toList.any fun c => "()<>;&| \t\n\\\"'\x60$".toList.contains c then
          Sh.complainAbout ("\x60" ++ value ++ "\x27: not a valid identifier")
          throw (.error 2)
        pure { c with function := some value }
      | letter => pure (match actionLetters.lookup letter with
        | some name => { c with actions := name :: c.actions }
        | none => c)
    completingOf rest c

/-- How something would be said again. -/
def Completing.written (c : Completing) : String :=
  let options := (completionOptions.filter c.options.contains).map ("-o " ++ ·)
  let letters := (actionLetters.filter fun (_, name) => c.actions.contains name).map fun (l, _) => "-" ++ String.singleton l
  let lettered (name : String) : Bool := actionLetters.any fun (_, other) => other == name
  let names := (actionNames.filter fun name => c.actions.contains name && !lettered name).map ("-A " ++ ·)
  let one (letter : String) (value : Option String) : List String :=
    value.toList.map fun v => letter ++ " '" ++ v.replace "'" "'\\''" ++ "'"
  let function := c.function.toList.map ("-F " ++ ·)
  " ".intercalate (options ++ letters ++ names ++ one "-G" c.pattern ++ one "-W" c.words ++ one "-P" c.lead ++ one "-S" c.trail
    ++ one "-X" c.filter ++ one "-C" c.command ++ function)

/-! ## What is found -/

/-- The words of a list as a shell reads them. -/
def listedWords (means : Means) (text : String) : Sh (List String) := do
  let s ← get
  let separators := (Sh.separators s).toList
  if text.toList.any fun c => "\"'\\$\x60".toList.contains c then
    let r := { Reader.start .extended Assoc.empty s.documents false 1 (": " ++ text) with line := s.line }
    match Grammar.nextLine r with
    | .ok (some (some (.simple _ _ words _ _))) after =>
      modify fun s => { s with documents := after.documents }
      return (← (words.drop 1).mapM (Expansion.fields means)).flatten
    | _ => return []
  else
    return ((text.toList.splitBy fun a b => separators.contains a == separators.contains b).filter fun run =>
      !run.any separators.contains).map String.ofList

/-- The names of files that begin with a text, with the directory that it names. -/
def filesFrom (text : String) (directories : Bool) : Sh (List String) := do
  let (fs, place) ← Proc.files
  let names := (text.splitOn "/").dropLast
  let start := if names = [] then "" else "/".intercalate names ++ "/"
  let found := (Paths.namesIn fs place start).filter fun name => name != "." && name != ".."
  return ((found.mergeSort (· ≤ ·)).map (start ++ ·)).filter fun path =>
    path.startsWith text && (!directories || Paths.isDirectory fs place path)

/-- The names of one kind that begin with a text. -/
def namesOf (action text : String) : Sh (List String) := do
  let s ← get
  let sorted (names : List String) : List String := names.mergeSort (· ≤ ·)
  let begins (names : List String) : List String := names.filter fun n => n.startsWith text
  let set (keep : Variable → Bool) : List String :=
    begins (((Parameters.listed s).filter fun (_, v) => keep v && (v.content.isSome || v.integer)).map Prod.fst)
  let isArray (v : Variable) : Bool := match v.content with
    | some (.array _) | some (.table _) => true
    | _ => false
  let keywords := ["if", "then", "else", "elif", "fi", "case", "esac", "for", "select", "while", "until", "do", "done", "in",
    "function", "time", "\x7b", "\x7d", "!", "[[", "]]", "coproc"]
  match action with
  | "alias" => return begins (sorted (s.aliases.toList.map Prod.fst))
  | "arrayvar" => return set isArray
  | "builtin" => return begins (names .extended)
  | "disabled" => return begins ((names .extended).filter s.disabled.contains)
  | "enabled" => return begins ((names .extended).filter fun n => !s.disabled.contains n)
  | "export" => return set Variable.exported
  | "function" => return begins (sorted (s.functions.toList.map Prod.fst))
  | "helptopic" => return begins (topics.map Topic.name)
  | "keyword" => return begins keywords
  | "setopt" => return begins (Options.names .extended)
  | "shopt" => return begins (Options.further.map Prod.fst)
  | "signal" =>
    let all := ((List.range Signals.count).filter fun n => n ≠ 32 ∧ n ≠ 33).map fun n =>
      if n = 0 then "EXIT" else "SIG" ++ Signals.name .extended n
    return begins (all ++ ["DEBUG", "ERR", "RETURN"])
  | "variable" => return set fun _ => true
  | "job" | "running" =>
    return begins (((s.jobs.filter fun j => action = "job" ∨ ¬ Signals.isDone j).map fun j => (j.text.splitOn " ").headD ""))
  | "file" => filesFrom text false
  | "directory" => filesFrom text true
  | "user" | "group" => return begins ["root"]
  | "command" =>
    let (fs, place) ← Proc.files
    let here := (Sh.valueOf s "PATH").splitOn ":"
    let programs := here.flatMap fun d =>
      ((Paths.namesIn fs place (d ++ "/")).filter fun n => n != "." && n != "..").mergeSort (· ≤ ·)
    return begins (sorted (s.aliases.toList.map Prod.fst) ++ keywords ++ sorted (s.functions.toList.map Prod.fst)
      ++ names .extended ++ programs.eraseDups)
  | _ => return []

/-- The order in which kinds of names are found. -/
def actionOrder : List String :=
  ["alias", "arrayvar", "binding", "builtin", "disabled", "enabled", "export", "function", "helptopic", "hostname", "job",
    "keyword", "running", "setopt", "shopt", "signal", "stopped", "variable", "command", "file", "user", "group", "service",
    "directory"]

/-- Whether a word is left out by a filter, in which an ampersand stands for the text that is completed. -/
def isFiltered (text filter word : String) : Bool :=
  let (negated, filter) := if filter.startsWith "!" then (true, (filter.drop 1).toString) else (false, filter)
  let rec cells : List Char → List Glob.Cell
    | '\x5c' :: '&' :: rest => ('&', true) :: cells rest
    | '&' :: rest => (text.toList.map fun c => (c, true)) ++ cells rest
    | c :: rest => (c, false) :: cells rest
    | [] => []
  Glob.matchesText ⟨.extended, .unicode, true, false⟩ (cells filter.toList) word != negated

/-- The words that complete a text. -/
def Completing.found (means : Means) (c : Completing) (text : String) : Sh (List String) := do
  let named ← (actionOrder.filter c.actions.contains).mapM fun a => namesOf a text
  let matching : List String ← match c.pattern with
    | none => pure []
    | some p => do
      let (fs, place) ← Proc.files
      pure (Paths.find (Expansion.pathManner (← get)) fs place (p.toList.map fun c => (c, false)))
  let listed : List String ← match c.words with
    | none => pure []
    | some ws => do pure ((← listedWords means ws).filter fun w => w.startsWith text)
  let all := named.flatten ++ matching ++ listed
  let all := match c.filter with
    | some f => all.filter fun w => !isFiltered text f w
    | none => all
  let all := all.map fun w => c.lead.getD "" ++ w ++ c.trail.getD ""
  if c.options.contains "plusdirs" ∨ (all = [] ∧ c.options.contains "dirnames") then return all ++ (← filesFrom text true)
  else if all = [] ∧ c.options.contains "default" then filesFrom text false
  else return all

/-- Writes the words that complete a text. -/
def compgen (means : Means) (args : List String) : Sh Nat := do
  let (flags, rest) ← readOptions "abcdefgjksuvo:A:G:W:P:S:X:F:C:" args
  let c ← completingOf flags {}
  if c.function.isSome then Sh.complainAbout "warning: -F option may not work as you expect"
  if c.command.isSome then Sh.complainAbout "warning: -C option may not work as you expect"
  let found ← c.found means (rest.headD "")
  for w in found do Sh.put (w ++ "\n")
  return if flags = [] then 0 else if found = [] then 1 else 0

/-! ## What is kept -/

/-- The names that stand for no command, an empty one and the first word. -/
def reservedNames : List (Char × String) := [('D', "_DefaultCmD_"), ('E', "_EmptycmD_"), ('I', "_InitialWorD_")]

/-- What has been said for a command, as it would be said again. -/
def keptLine (name text : String) : String :=
  let shown := match reservedNames.find? fun (_, n) => n == name with
    | some (letter, _) => "-" ++ String.singleton letter
    | none => if name = "" then "''" else Quoting.ifNeeded name
  "complete " ++ (if text = "" then "" else text ++ " ") ++ shown ++ "\n"

/-- Says that nothing has been said for a command. -/
def nothingKept (name : String) : Sh Unit := Sh.complainAbout (name ++ ": no completion specification")

/-- Keeps how words are completed after commands, shows it, or forgets it. -/
def complete (args : List String) : Sh Nat := do
  let (flags, names) ← readOptions "abcdefgjksuvo:A:G:W:P:S:X:F:C:prDEI" args
  let has (c : Char) : Bool := flags.any fun (d, _) => d == c
  let c ← completingOf flags {}
  let names := (reservedNames.filter fun (letter, _) => has letter).map Prod.snd ++ names
  let s ← get
  if has 'r' then
    if names = [] then
      set { s with completions := Assoc.empty }
      return 0
    let mut status := 0
    for name in names do
      let s ← get
      if s.completions.contains name then set { s with completions := s.completions.erase name }
      else
        nothingKept name
        status := 1
    return status
  if has 'p' ∨ (flags = [] ∧ names = []) then
    let mut status := 0
    if names = [] then
      let sorted := s.completions.toList.reverse.mergeSort fun a b => Arrays.rank a.1 % 512 ≤ Arrays.rank b.1 % 512
      for (name, text) in sorted do Sh.put (keptLine name text)
    for name in names do
      match s.completions.find? name with
      | some text => Sh.put (keptLine name text)
      | none =>
        nothingKept name
        status := 1
    return status
  if names = [] then
    sayUsage
    return 2
  for name in names do
    modify fun s => { s with completions := (s.completions.erase name).insert name c.written }
  return 0

/-- Changes how words are completed after commands. -/
def compopt (args : List String) : Sh Nat := do
  let (minus, plus, names) := go args [] [] []
  match (minus ++ plus).find? fun o => !completionOptions.contains o with
  | some o =>
    Sh.complainAbout (o ++ ": invalid option name")
    return 2
  | none => pure ()
  if names = [] then
    Sh.complainAbout "not currently executing completion function"
    return 1
  let mut status := 0
  for name in names do
    match (← get).completions.find? name with
    | none =>
      nothingKept name
      status := 1
    | some text =>
      let parts := text.splitOn " -o " |>.flatMap fun p => if p.startsWith "-o " then [(p.drop 3).toString] else [p]
      let on := completionOptions.filter fun o => text.startsWith ("-o " ++ o) || (parts.contains o)
      if minus = [] ∧ plus = [] then
        Sh.put ("compopt " ++ " ".intercalate (completionOptions.map fun o => (if on.contains o then "-o " else "+o ") ++ o)
          ++ " " ++ name ++ "\n")
      else
        let rest := on.foldl (fun t o => (t.replace ("-o " ++ o ++ " ") "").replace ("-o " ++ o) "") text
        let now := completionOptions.filter fun o => (on.contains o || minus.contains o) && !plus.contains o
        let text := " ".intercalate (now.map ("-o " ++ ·) ++ (if rest = "" then [] else [rest]))
        modify fun s => { s with completions := s.completions.insert name text }
  return status
where
  /-- The options that are turned on and off, and the names. -/
  go : List String → List String → List String → List String → List String × List String × List String
    | "-o" :: o :: rest, minus, plus, names => go rest (o :: minus) plus names
    | "+o" :: o :: rest, minus, plus, names => go rest minus (o :: plus) names
    | "-D" :: rest, minus, plus, names => go rest minus plus ("_DefaultCmD_" :: names)
    | "-E" :: rest, minus, plus, names => go rest minus plus ("_EmptycmD_" :: names)
    | "-I" :: rest, minus, plus, names => go rest minus plus ("_InitialWorD_" :: names)
    | rest, minus, plus, names => (minus, plus, names.reverse ++ rest)

end TaskRunner.Shell.Builtins
