import TaskRunner.Tools.Identity
import TaskRunner.Tools.Seeking.Format

/-!
# How queries are read

The words of a query are arguments: tests and what is to be done, options that hold for the whole search, and
signs. Files that something is written to are opened as soon as they are named.
-/

namespace TaskRunner.Tools.Seeking

open Processes

/-! ## What has been read -/

/-- How expressions are written. -/
inductive Writing where
  /-- Some signs repeat without a backslash, and none counts repetitions. -/
  | editor
  | basic
  | extended
  deriving DecidableEq

/-- The names of the ways in which expressions are written. -/
def writings : List (String × Writing) :=
  [("findutils-default", .editor), ("ed", .basic), ("emacs", .editor), ("gnu-awk", .extended), ("grep", .basic),
    ("posix-awk", .extended), ("awk", .extended), ("posix-basic", .basic), ("posix-egrep", .extended),
    ("egrep", .extended), ("posix-extended", .extended), ("posix-minimal-basic", .basic), ("sed", .basic)]

/-- What holds for the whole search. -/
structure Settings where
  /-- Whether links are followed. -/
  follows : Bool
  /-- Whether links are followed where the search begins. -/
  followsStart : Bool
  starts : List String
  least : Nat := 0
  most : Option Nat := none
  /-- Whether directories come after what is in them. -/
  late : Bool := false
  /-- Whether that was asked for. -/
  asksLate : Bool := false
  deletes : Bool := false
  prunes : Bool := false
  /-- The time that days are counted back from. -/
  origin : Int
  zone : Calendar.Zone
  writing : Writing := .editor
  /-- The files that are written to, with their descriptors. -/
  files : List (String × Nat) := []
  /-- How many actions gather files. -/
  gathered : Nat := 0

/-- What has been read of a query, the last word first. -/
structure Draft where
  settings : Settings
  words : List Word

namespace Draft

/-- Adds a word. -/
def push (d : Draft) (w : Word) : Draft := { d with words := Word.push d.words w }

/-- Adds a test. -/
def test (d : Draft) (t : Test) : Draft := d.push (.plain (.test t))

/-- Adds something to be done. -/
def act (d : Draft) (a : Action) : Draft := d.push (.plain (.act a))

/-- Changes what holds for the whole search. -/
def set (d : Draft) (f : Settings → Settings) : Draft := ({ d with settings := f d.settings } : Draft).test (.always true)

end Draft

/-- A name in the quotation marks of the language. -/
def shown (s : String) : String := Quoting.local_ s

/-! ## Arguments of words -/

/-- The argument of a word, and those after it. -/
def argumentOf (word : String) : List String → Tool (String × List String)
  | a :: rest => return (a, rest)
  | [] => Tool.fail 1 ("missing argument to \x60" ++ word ++ "'")

/-- Stops because of the argument of a word. -/
def refused {α : Type} (word argument : String) : Tool α :=
  Tool.fail 1 ("invalid argument \x60" ++ argument ++ "' to \x60" ++ word ++ "'")

/-- A number that is wanted. -/
def boundOf (word argument : String) : Tool Bound := do
  match Bound.ofString argument with
  | some b => return b
  | none => refused word argument

/-- A number of billionths of a second. -/
def spanOf (unit : Nat) (s : String) : Option Int :=
  (Numbers.decimal? s).map fun e => Int.fdiv (e.parts * Int.ofNat (unit * Dates.perSecond)) (Int.pow 10 e.places)

/-- Times that are so long ago. -/
def windowOf (d : Draft) (word : String) (unit : Nat) (argument : String) : Tool Window := do
  let (sense, digits) := Bound.senseOf argument
  match spanOf unit digits with
  | none => refused word argument
  | some span =>
    let second : Int := Dates.perSecond
    let days : Bool := unit == 86400
    let start := if days then d.settings.origin else d.settings.origin + 86400 * second
    -- Less than so many days ago counts to the end of a day.
    let start := if days ∧ sense = .lt then start + 86399 * second else start
    return ⟨sense.swap, start - span, unit * Dates.perSecond⟩

/-- The kinds that are named with commas between them. -/
def kindsOf (word : String) : List Char → List Char → Tool (List Char)
  | [], _ => Tool.fail 1 ("Arguments to " ++ word ++ " should contain at least one letter")
  | c :: rest, read => do
    if ¬ "bcdpflsD".toList.contains c then Tool.fail 1 ("Unknown argument to " ++ word ++ ": " ++ String.singleton c)
    if read.contains c then
      Tool.fail 1 ("Duplicate file type '" ++ String.singleton c ++ "' in the argument list to " ++ word ++ ".")
    match rest with
    | [] => return c :: read
    | [','] =>
      Tool.fail 1 ("Last file type in list argument to " ++ word ++ " is missing, i.e., list is ending on: ','")
    | ',' :: rest => kindsOf word rest (c :: read)
    | _ => Tool.fail 1 ("Must separate multiple arguments to " ++ word ++ " using: ','")

/-- A size, and what it is counted in. -/
def sizeOf (argument : String) : Tool Test := do
  match argument.toList.reverse with
  | [] => Tool.fail 1 "invalid null argument to -size"
  | c :: before =>
    let unit ← match c with
      | 'b' => pure 512
      | 'c' => pure 1
      | 'w' => pure 2
      | 'k' => pure 1024
      | 'M' => pure 1048576
      | 'G' => pure 1073741824
      | c =>
        if c.isDigit then pure 512 else Tool.fail 1 ("invalid -size type \x60" ++ String.singleton c ++ "'")
    let digits := if c.isDigit then argument else String.ofList before.reverse
    match Bound.ofString digits with
    | some b => return .size b unit
    | none => Tool.fail 1 ("Invalid argument \x60" ++ argument ++ "' to -size")

/-- Permissions. -/
def modeOf (argument : String) : Tool Test := do
  let (sign, text) : Option Char × String := match argument.toList with
    | '-' :: cs => (some '-', String.ofList cs)
    | '/' :: cs => (some '/', String.ofList cs)
    | cs => (none, String.ofList cs)
  let wrong : Bool := match argument.toList with
    | '+' :: c :: _ => c.isDigit
    | _ => false
  match if wrong then none else Modes.read text with
  | none => Tool.fail 1 ("invalid mode " ++ shown argument)
  | some changes =>
    let plain := Modes.adjusted changes false 0 0
    let directory := Modes.adjusted changes true 0 0
    if sign = some '/' ∧ plain = 0 ∧ directory = 0 then
      Tool.say ("warning: you have specified a mode pattern " ++ argument ++ " (which is equivalent to /000). "
        ++ "The meaning of -perm /000 has now been changed to be consistent with -perm -000; that is, "
        ++ "while it used to match no files, it now matches all files.")
    return .mode sign plain directory

/-- A user. -/
def userOf (argument : String) : Tool Nat := do
  if argument = "" then Tool.fail 1 "The argument to -user should not be empty"
  match Accounts.numberIn Accounts.users argument with
  | some n =>
    if 4294967295 < n then Tool.fail 1 (argument ++ ": Numerical result out of range")
    return n
  | none => Tool.fail 1 (shown argument ++ " is not the name of a known user")

/-- A group. -/
def groupOf (argument : String) : Tool Nat := do
  if argument = "" then Tool.fail 1 "argument to -group is empty, but should be a group name"
  match Accounts.numberIn Accounts.groupNames argument with
  | some n => return n
  | none =>
    let rest := argument.toList.dropWhile Char.isDigit
    let why := if rest.length = argument.length then ""
      else " and it does not look like a numeric group ID because it has the unexpected suffix " ++ shown (String.ofList rest)
    Tool.fail 1 (shown argument ++ " is not the name of an existing group" ++ why)

/-- What is known about a file that an argument names. -/
def factsOf (d : Draft) (path : String) : Tool FileSystem.Info := do
  match ← Making.known (d.settings.follows || d.settings.followsStart) path with
  | .ok (_, i) => return i
  | .error r => Tool.fail 1 (shown path ++ ": " ++ r.message)

/-- Expressions in which some signs repeat without a backslash, as basic ones. -/
def plainly : Nat → List Char → List Char
  | 0, _ | _, [] => []
  | n + 1, '\x5c' :: c :: rest =>
    if ['+', '?', '\x7b', '\x7d'].contains c then c :: plainly n rest else '\x5c' :: c :: plainly n rest
  | n + 1, '[' :: rest =>
    let (sign, rest) := match rest with
      | '^' :: more => (['^'], more)
      | rest => ([], rest)
    let (start, rest) := match rest with
      | ']' :: more => ([']'], more)
      | rest => ([], rest)
    let (inner, rest) := rest.span (· != ']')
    '[' :: sign ++ start ++ inner ++ rest.take 1 ++ plainly n (rest.drop 1)
  | n + 1, c :: rest => if c = '+' ∨ c = '?' then '\x5c' :: c :: plainly n rest else c :: plainly n rest

/-- An expression for whole paths. -/
def regexOf (d : Draft) (argument : String) : Tool Regex := do
  let cs := Text.Octets.characters argument
  let cells := if d.settings.writing = .editor then plainly (cs.length + 1) cs else cs
  match Regex.ofList ⟨d.settings.writing = .extended, false, false, true, false⟩ cells with
  | .ok (r, _) => return r
  | .error f =>
    let why := if f = .bracket ∧ (argument.endsWith "[" ∨ argument.endsWith "[^") then "Invalid regular expression"
      else f.message
    Tool.fail 1 ("failed to compile regular expression '" ++ argument ++ "': " ++ why)

/-- A file that is written to. -/
def outletOf (d : Draft) (path : String) : Tool (Outlet × Draft) := do
  if path = "/dev/stdout" then return (.output, d)
  if path = "/dev/stderr" then return (.descriptor 2 path, d)
  match d.settings.files.find? fun (p, _) => p == path with
  | some (_, n) => return (.descriptor n path, d)
  | none =>
    let n ← Tool.newDescriptor
    match ← Proc.openAs n Kernel.OpenMode.output path with
    | .ok () => return (.descriptor n path, { d with settings := { d.settings with files := (path, n) :: d.settings.files } })
    | .error r => Tool.fail 1 (shown path ++ ": " ++ r.message)

/-! ## Programs that are run -/

/-- The words of a program up to its end, whether it takes many files at once, and the arguments after it. -/
def programOf (word : String) (together : Bool) :
    List String → List String → Tool (List String × Bool × List String)
  | [], _ => Tool.fail 1 ("missing argument to \x60" ++ word ++ "'")
  | a :: rest, read => do
    if a = ";" then
      if read = [] then refused word a
      return (read.reverse, false, rest)
    let follows : Bool := match read with
      | last :: _ => (last.splitOn "\x7b\x7d").length != 1
      | [] => false
    if together ∧ a = "+" ∧ follows then return (read.reverse, true, rest)
    programOf word together rest (a :: read)

/-- Stops if programs would be looked for where files are found. -/
def checkSearchPath (word : String) : Tool Unit := do
  let entries := ((← Tool.setting "PATH").getD "").splitOn ":"
  for entry in entries do
    let because := " included in the PATH environment variable, which is insecure in combination with the " ++ word
      ++ " action of find.  Please remove "
    if entry = "" ∨ entry = "." then
      Tool.fail 1 ("The current directory is" ++ because ++ "the current directory from your $PATH "
        ++ "(that is, remove \".\", doubled colons, or leading or trailing colons)")
    if ¬ entry.startsWith "/" then
      Tool.fail 1 ("The relative path " ++ shown entry ++ " is" ++ because ++ "that entry from $PATH")

/-- Reads a program that is run for files. -/
def runOf (d : Draft) (word : String) (beside asks : Bool) (args : List String) : Tool (Draft × List String) := do
  if args = [] then discard <| argumentOf word args
  let (command, together, rest) ← programOf word (!asks) args []
  if beside then checkSearchPath word
  let mark := "\x7b\x7d"
  if together then
    let suffix := if beside then "dir" else ""
    if 1 < (command.filter fun a => (a.splitOn mark).length ≠ 1).length then
      Tool.fail 1 ("Only one instance of " ++ mark ++ " is supported with -exec" ++ suffix ++ " ... +")
    let last := command.getLastD ""
    if last ≠ mark then
      Tool.fail 1 ("In " ++ shown ("-exec" ++ suffix ++ " ... " ++ mark ++ " +") ++ " the " ++ shown mark
        ++ " must appear by itself, but you specified " ++ shown last)
    let n := d.settings.gathered
    return (({ d with settings := { d.settings with gathered := n + 1 } } : Draft).act
      (.gather n command.dropLast beside), rest)
  return (d.act (.run command beside asks), rest)

/-! ## Words -/

/-- Reads a test that compares times of files, named by the two kinds of time. -/
def newerOf (d : Draft) (word : String) (args : List String) : Tool (Draft × List String) := do
  match (word.toList.reverse.take 2).reverse with
  | [x, y] =>
    if word.length ≠ 8 ∨ ¬ "aBcm".toList.contains x ∨ ¬ "aBcmt".toList.contains y then
      Tool.fail 1 ("invalid predicate \x60" ++ word ++ "'")
    match args with
    | [] => Tool.fail 1 ("The " ++ shown word ++ " test needs an argument")
    | a :: rest =>
      if y = 't' then
        let now ← Proc.now
        match Calendar.read d.settings.zone (now / Dates.perSecond : Nat) (now % Dates.perSecond) a with
        | some (seconds, nanos) => return (d.test (.timed (x == 'a') ⟨.gt, seconds * Dates.perSecond + nanos, 0⟩), rest)
        | none => Tool.fail 1 ("I cannot figure out how to interpret " ++ shown a ++ " as a date or time")
      else return (d.test (.timed (x == 'a') ⟨.gt, (← factsOf d a).time (y == 'a'), 0⟩), rest)
  | _ => Tool.fail 1 ("invalid predicate \x60" ++ word ++ "'")

/-- The number of levels that an argument says. -/
def depthOf (word argument : String) : Tool Nat := do
  if argument ≠ "" ∧ argument.toList.all Char.isDigit then return argument.toNat?.getD 0
  Tool.fail 1 ("Expected a positive decimal integer argument to " ++ word ++ ", but got " ++ shown argument)

/-- Reads a word that takes no argument. -/
def plainWord? (d : Draft) (word : String) : String → Option Draft
  | "(" => some (d.push (.opening true))
  | ")" => some { d with words := .closing true :: d.words }
  | "!" | "not" => some (d.push (.negation word))
  | "," => some { d with words := .sign .list word :: d.words }
  | "a" | "and" => some { d with words := .sign .both word :: d.words }
  | "o" | "or" => some { d with words := .sign .either word :: d.words }
  | "true" | "readable" | "writable" => some (d.test (.always true))
  | "false" | "nouser" | "nogroup" => some (d.test (.always false))
  | "noleaf" | "xdev" | "mount" | "warn" | "nowarn" | "ignore_readdir_race" | "noignore_readdir_race" => some (d.set id)
  | "daystart" => some (d.set fun s =>
    let day : Int := 86400 * Dates.perSecond
    let ahead := (s.zone.clockAt (s.origin.fdiv Dates.perSecond)).ahead
    { s with origin := (s.origin + day) - (s.origin + day + ahead * Dates.perSecond).fmod day })
  | "depth" | "d" => some (d.set fun s => { s with late := true, asksLate := true })
  | "follow" => some (d.set fun s => { s with follows := true })
  | "empty" => some (d.test .isEmpty)
  | "executable" => some (d.test .isExecutable)
  | "print" => some (d.act (.write "\n" .output))
  | "print0" => some (d.act (.write "\x00" .output))
  | "ls" => some (d.act (.list .output))
  | "delete" =>
    some (({ d with settings := { d.settings with late := true, deletes := true } } : Draft).act .delete)
  | "prune" => some (({ d with settings := { d.settings with prunes := true } } : Draft).act .prune)
  | "quit" => some (d.act .quit)
  | _ => none

/-- Reads a word that takes an argument; none if there is no such word. -/
def wordWith? (d : Draft) (word key argument : String) : Option (Tool Draft) :=
  let w := Wildcard.ofString argument
  let folded := Wildcard.ofString (String.map Char.toLower argument)
  let written (make : Outlet → Action) : Tool Draft := do
    let (o, d) ← outletOf d argument
    return d.act (make o)
  match key with
  | "name" => some (pure (d.test (.name w false)))
  | "iname" => some (pure (d.test (.name folded true)))
  | "path" | "wholename" | "ipath" | "iwholename" => some do
    let ignores := key.startsWith "i"
    if argument.endsWith "/" ∧ ¬ d.settings.starts.any fun s => w.isMatch s then
      Tool.say ("warning: " ++ word ++ " " ++ argument ++ " will not match anything because it ends with /.")
    return d.test (.path (if ignores then folded else w) ignores)
  | "lname" => some (pure (d.test (.target w false)))
  | "ilname" => some (pure (d.test (.target folded true)))
  | "regex" => some do return d.test (.matched (← regexOf d argument) false)
  | "iregex" => some do return d.test (.matched (← regexOf d argument) true)
  | "regextype" => some do
    match writings.find? fun (name, _) => name == argument with
    | some (_, writing) => return d.set fun s => { s with writing }
    | none =>
      Tool.fail 1 ("Unknown regular expression type " ++ shown argument ++ "; valid types are "
        ++ ", ".intercalate (writings.map fun (name, _) => shown name) ++ ".")
  | "type" => some do return d.test (.kind (← kindsOf word argument.toList []) false)
  | "xtype" => some do return d.test (.kind (← kindsOf word argument.toList []) true)
  | "size" => some do return d.test (← sizeOf argument)
  | "perm" => some do return d.test (← modeOf argument)
  | "mtime" | "ctime" | "atime" => some do return d.test (.timed (key == "atime") (← windowOf d word 86400 argument))
  | "mmin" | "cmin" | "amin" => some do return d.test (.timed (key == "amin") (← windowOf d word 60 argument))
  | "newer" | "anewer" | "cnewer" => some do return d.test (.timed (key == "anewer") ⟨.gt, (← factsOf d argument).modified, 0⟩)
  | "samefile" => some do return d.test (.same (← factsOf d argument).serial)
  | "links" => some do return d.test (.count .links (← boundOf word argument))
  | "inum" => some do return d.test (.count .serial (← boundOf word argument))
  | "uid" | "gid" => some do return d.test (.count .owner (← boundOf word argument))
  | "used" => some do
    discard <| boundOf word argument
    return d.test (.always false)
  | "user" => some do return d.test (.count .owner ⟨.eq, ← userOf argument⟩)
  | "group" => some do return d.test (.count .owner ⟨.eq, ← groupOf argument⟩)
  | "fstype" => some (pure (d.test (.always (argument == "overlay"))))
  | "context" => some (Tool.fail 1 ("invalid predicate " ++ word ++ ": SELinux is not enabled."))
  | "maxdepth" => some do
    let n ← depthOf word argument
    return d.set fun s => { s with most := some n }
  | "mindepth" => some do
    let n ← depthOf word argument
    return d.set fun s => { s with least := n }
  | "printf" => some do return d.act (.writeAs (← readFormat (argument.length + 1) argument.toList) .output)
  | "fprint" => some (written (.write "\n"))
  | "fprint0" => some (written (.write "\x00"))
  | "fls" => some (written .list)
  | _ => none

/-- Reads a word and its arguments. -/
def readWord (d : Draft) (word : String) (args : List String) : Tool (Draft × List String) := do
  let key := if word.startsWith "-" then (word.drop 1).toString else word
  match plainWord? d word key with
  | some d => return (d, args)
  | none =>
    match key with
    | "exec" => runOf d word false false args
    | "execdir" => runOf d word true false args
    | "ok" => runOf d word false true args
    | "okdir" => runOf d word true true args
    | "fprintf" =>
      let (path, rest) ← argumentOf word args
      let (format, rest) ← argumentOf word rest
      let (o, d) ← outletOf d path
      return (d.act (.writeAs (← readFormat (format.length + 1) format.toList) o), rest)
    | _ =>
      if (wordWith? d word key "").isSome then
        let (argument, rest) ← argumentOf word args
        match wordWith? d word key argument with
        | some read => return (← read, rest)
        | none => return (d, rest)
      else if key.startsWith "newer" then newerOf d word args
      else Tool.fail 1 ("unknown predicate \x60" ++ word ++ "'")

/-- Whether an argument begins or goes on with a query, and is no place to begin at. -/
def isWord (leading : Bool) (s : String) : Bool :=
  match s with
  | "-" => false
  | ")" | "," => !leading
  | "(" | "!" => true
  | s => s.startsWith "-"

/-- Reads the words of a query. -/
def readQuery : Nat → Draft → Option String → List String → Tool Draft
  | 0, d, _, _ | _, d, _, [] => return d
  | n + 1, d, last, word :: args => do
    if ¬ isWord false word then
      Tool.say ("paths must precede expression: \x60" ++ word ++ "'")
      match last, ← Making.known true word with
      | some name, .ok _ => Tool.say ("possible unquoted pattern after predicate \x60" ++ name ++ "'?")
      | _, _ => pure ()
      throw 1
    let (d, rest) ← readWord d word args
    readQuery n d (some word) rest

end TaskRunner.Tools.Seeking
