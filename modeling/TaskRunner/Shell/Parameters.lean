import TaskRunner.Shell.Arrays
import TaskRunner.Shell.Escapes
import TaskRunner.Shell.Options
import TaskRunner.Shell.Pattern
import TaskRunner.Shell.Quoting

/-!
# The values of parameters

A parameter has one text, several, or none. Besides variables there are parameters that the shell keeps
itself: those that it was given, the status of the last command, its own number, and so on.
-/

namespace TaskRunner.Shell.Parameters

/-- What a parameter stands for. -/
structure Found where
  items : List String
  /-- Whether there may be several texts. -/
  many : Bool
  /-- Whether several texts in quotes are fields of their own. -/
  separately : Bool
  isSet : Bool

/-- One text, or none. -/
def Found.ofOption : Option String → Found
  | some s => ⟨[s], false, false, true⟩
  | none => ⟨[], false, false, false⟩

/-- The letters of options that are on, in the order in which they are shown. -/
def optionLetters (s : State) : String :=
  let known : List (String × Char) := match s.dialect with
    | .plain =>
      [("errexit", 'e'), ("noglob", 'f'), ("ignoreeof", 'I'), ("interactive", 'i'), ("monitor", 'm'), ("noexec", 'n'),
        ("stdin", 's'), ("xtrace", 'x'), ("verbose", 'v'), ("vi", 'V'), ("emacs", 'E'), ("noclobber", 'C'),
        ("allexport", 'a'), ("notify", 'b'), ("nounset", 'u')]
    | .extended =>
      [("allexport", 'a'), ("notify", 'b'), ("errexit", 'e'), ("noglob", 'f'), ("hashall", 'h'), ("interactive", 'i'),
        ("keyword", 'k'), ("monitor", 'm'), ("noexec", 'n'), ("privileged", 'p'), ("onecmd", 't'), ("nounset", 'u'),
        ("verbose", 'v'), ("xtrace", 'x'), ("braceexpand", 'B'), ("noclobber", 'C'), ("errtrace", 'E'),
        ("histexpand", 'H'), ("physical", 'P'), ("functrace", 'T'), ("command", 'c'), ("stdin", 's')]
  String.ofList ((known.filter fun (name, _) => Sh.isOn s name).map Prod.snd)

/-- The numbered parameter; zero is the name of the shell. -/
def numbered (s : State) (n : Nat) : Option String := if n = 0 then some s.zero else s.params[n - 1]?

/-- The items of an array that the shell keeps itself. -/
def ownArray (s : State) (name : String) : Option (List String) :=
  match name with
  | "PIPESTATUS" => some (s.statuses.map toString)
  | "FUNCNAME" => some (if s.callers = [] then [] else s.callers ++ (if s.isArgument then [] else ["main"]))
  | "BASH_LINENO" => some ((s.calls ++ (if s.isArgument ∨ s.callers = [] then [] else [0])).map toString)
  | "DIRSTACK" => some (s.directory :: s.directories)
  | "BASH_SOURCE" => some s.sources
  | "GROUPS" => some ["0"]
  | _ => none

/-- A variable that the shell keeps itself. -/
def own (s : State) (now : Nat) (name : String) : Option String :=
  match s.dialect with
  | .plain => none
  | .extended =>
    if s.givenUp.contains name then none else
    match name with
    | "LINENO" => some (toString s.line)
    | "SECONDS" => some (toString ((now - s.began) / 1000000000))
    | "EPOCHSECONDS" => some (toString (now / 1000000000))
    | "EPOCHREALTIME" =>
      some (toString (now / 1000000000) ++ "." ++ (toString (1000000 + now / 1000 % 1000000)).drop 1)
    | "SRANDOM" => some (toString (Sh.nextSeed (s.seed + now % 1000000007)))
    | "HISTCMD" => some "0"
    | "COMP_WORDBREAKS" => some " \t\n\"'@><=;|&(:"
    | "BASH_ARGV0" => some s.zero
    | "BASH_COMMAND" => some s.running
    | "RANDOM" => some (toString s.drawn)
    | "BASHPID" => some (toString (s.shellProcess + s.isCopy))
    | "BASH_SUBSHELL" => some (toString s.isCopy)
    | "BASHOPTS" => some (Options.furtherShown s)
    | "SHELLOPTS" => some (Options.shown s)
    | "_" => some s.lastArgument
    | _ => (ownArray s name).bind List.head?

/-- The variables that the shell keeps itself, as they are listed: most of them have no value until they are asked for. -/
def kept (s : State) : List (String × Variable) :=
  let text (value : String) : Variable := { content := some (.scalar value) }
  let array : Variable := { content := some (.array []) }
  let table : Variable := { content := some (.table Assoc.empty) }
  let silent : Variable := { content := none }
  let number : Variable := { content := none, integer := true }
  [("BASHOPTS", { text (Options.furtherShown s) with readonly := true }), ("BASHPID", number), ("BASH_ALIASES", table),
    ("BASH_ARGC", array), ("BASH_ARGV", array), ("BASH_ARGV0", silent), ("BASH_CMDS", table), ("BASH_COMMAND", silent),
    ("BASH_LINENO", array),
    ("BASH_LOADABLES_PATH", text "/usr/local/lib/bash:/usr/lib/bash:/opt/local/lib/bash:/usr/pkg/lib/bash:/opt/pkg/lib/bash:."),
    ("BASH_SOURCE", array), ("BASH_SUBSHELL", silent), ("COMP_WORDBREAKS", silent), ("DIRSTACK", array),
    ("EPOCHREALTIME", silent), ("EPOCHSECONDS", silent), ("FUNCNAME", { array with vacant := true }), ("GROUPS", array),
    ("HISTCMD", number), ("LINENO", silent), ("RANDOM", number), ("SECONDS", silent),
    ("SHELLOPTS", { text (Options.shown s) with readonly := true }), ("SRANDOM", number), ("_", text s.lastArgument)]

/-- All variables in the order of their names. -/
def listed (s : State) : List (String × Variable) :=
  let others := match s.dialect with
    | .plain => []
    | .extended => (kept s).filter fun (name, _) => !s.vars.contains name
  (others ++ s.vars.toList).mergeSort fun a b => a.1 ≤ b.1

/-- A parameter by its name. -/
def named (s : State) (now : Nat) (name : String) : Found :=
  match name with
  | "@" => ⟨s.params, true, true, s.params ≠ []⟩
  | "*" => ⟨s.params, true, false, s.params ≠ []⟩
  | "#" => .ofOption (some (toString s.params.length))
  | "?" => .ofOption (some (toString s.status))
  | "$" => .ofOption (some (toString s.shellProcess))
  | "!" => .ofOption (s.background.map toString)
  | "-" => .ofOption (some (optionLetters s))
  | name =>
    if (name.toList.head?.map Char.isDigit).getD false then .ofOption (numbered s ((name.toNat?).getD 0))
    else match Sh.value? s name with
      | some v => .ofOption (some v)
      | none => if s.vars.contains (Sh.resolve s 8 name) then .ofOption none else .ofOption (own s now name)

/-- All items of an array. -/
def all (s : State) (name : String) (separately : Bool) : Found :=
  let items := match ownArray s name with
    | some items => if s.vars.contains name then (Arrays.items s name).map Prod.snd else items
    | none => (Arrays.items s name).map Prod.snd
  ⟨items, true, separately, items ≠ []⟩

/-- What separates several texts that become one; none if nothing does. -/
def joiner (s : State) : String :=
  match Sh.value? s "IFS" with
  | none => " "
  | some ifs => String.ofList (ifs.toList.take 1)

/-! ## Changes of values -/

/-- A part of a text: from a place on, so many characters or up to a place before the end. -/
def slice (s : List Char) (offset : Int) (length : Option Int) : Except Int (List Char) :=
  let size : Int := s.length
  let start := if offset < 0 then size + offset else offset
  if start < 0 ∨ size < start then .ok []
  else match length with
    | none => .ok (s.drop start.toNat)
    | some n =>
      if 0 ≤ n then .ok ((s.drop start.toNat).take n.toNat)
      else
        let stop := size + n
        if stop < start then .error n else .ok ((s.drop start.toNat).take (stop - start).toNat)

/-- What stands for a match in a replacement, bytes quoted or not: an ampersand, unless it is quoted. -/
def substituted (replacement : List Glob.Cell) (found : List Char) : List Char :=
  let rec go : List Glob.Cell → List Char
    | [] => []
    | ('\x5c', false) :: ('&', _) :: rest => '&' :: go rest
    | ('&', false) :: rest => found ++ go rest
    | (c, _) :: rest => c :: go rest
  go replacement

/-- Replaces what a pattern matches. -/
def replace (place : Char) (pattern : List Glob) (replacement : List Glob.Cell) (s : List Char) : List Char :=
  match place with
  | '#' =>
    match Glob.longestStart pattern s with
    | some (found, rest) => substituted replacement found ++ rest
    | none => s
  | '%' =>
    match Glob.longestStart (Glob.backwards pattern []) s.reverse with
    | some (found, rest) => rest.reverse ++ substituted replacement found.reverse
    | none => s
  | _ => if pattern.isEmpty then s else go (s.length + 1) s
where
  /-- Goes through the text. -/
  go : Nat → List Char → List Char
    | 0, s => s
    | n + 1, s =>
      match Glob.longestStart pattern s with
      | some (found, rest) =>
        if found = [] then
          match s with
          | [] => []
          | c :: cs => c :: go n cs
        else
          let new := substituted replacement found
          if place = '/' then new ++ go n rest else new ++ rest
      | none =>
        match s with
        | [] => []
        | c :: cs => c :: go n cs

/-- A letter in the other case, as one of `^`, `,` and `~` says. -/
def casedChar (kind c : Char) : Char :=
  match kind with
  | '^' => Text.upperOne c
  | ',' => Text.lowerOne c
  | _ => if Text.lowerOne c ≠ c then Text.lowerOne c else Text.upperOne c

/-- Changes the case of letters that a pattern matches. -/
def casing (kind : Char) (every : Bool) (pattern : Option (List Glob)) (s : List Char) : List Char :=
  let change (c : Char) : Char := match pattern with
    | some p => if Glob.matchAll p [c] then casedChar kind c else c
    | none => casedChar kind c
  match s with
  | [] => []
  | c :: cs => if every then (c :: cs).map change else change c :: cs

/-- The letters that say what a variable is like. -/
def attributes (v : Variable) : String :=
  let kind := match v.content with
    | some (.array _) => "a"
    | some (.table _) => "A"
    | _ => ""
  let letters := [(v.integer, "i"), (v.reference, "n"), (v.readonly, "r"), (v.traced, "t"), (v.exported, "x"),
    (v.capital, "c"), (v.lower, "l"), (v.upper, "u")]
  kind ++ String.join ((letters.filter Prod.fst).map Prod.snd)

/-- A variable as it would be declared. -/
def declaration (name : String) (v : Variable) : String :=
  let letters := attributes v
  let head := "declare -" ++ (if letters = "" then "-" else letters) ++ " " ++ name
  match v.content with
  | none => head
  | some (.scalar s) => head ++ "=" ++ Quoting.double s
  | some (.array []) | some (.table ⟨[]⟩) => if v.vacant then head else head ++ "=()"
  | some (.array items) =>
    head ++ "=(" ++ " ".intercalate (items.map fun (n, s) => "[" ++ toString n ++ "]=" ++ Quoting.double s) ++ ")"
  | some (.table items) =>
    head ++ "=(" ++ String.join ((Arrays.inOrder items).map fun (k, s) =>
      "[" ++ (if k.toList.any Quoting.isSpecial then Quoting.double k else k) ++ "]=" ++ Quoting.double s ++ " ") ++ ")"

/-- The items of an array with their places, in the way in which arrays are written. -/
def pairs (s : State) (name : String) : String :=
  let key (k : String) : String := if k.toList.any Quoting.isSpecial then Quoting.double k else k
  match (Sh.binding? s name).bind Variable.content with
  | some (.table items) => String.join ((Arrays.inOrder items).map fun (k, v) => key k ++ " " ++ Quoting.double v ++ " ")
  | _ => " ".intercalate ((Arrays.items s name).map fun (k, v) => k ++ " " ++ Quoting.double v)

/-- A text changed as a letter says. -/
def transformed (letter : Char) (s : String) : Option String :=
  match letter with
  | 'Q' => some (Quoting.single s)
  | 'U' => some (changed (casing '^' true none))
  | 'L' => some (changed (casing ',' true none))
  | 'u' => some (changed (casing '^' false none))
  | 'E' => some (Escapes.ofQuotation s)
  | 'K' | 'k' => some (Quoting.single s)
  | _ => none
where
  /-- The text with its characters changed. -/
  changed (f : List Char → List Char) : String := Text.Octets.ofCharacters (f (Text.Octets.characters s))

end TaskRunner.Shell.Parameters
