import TaskRunner.Tools.Differences.Report
import TaskRunner.Tools.Listing

/-!
# The program that tells what differs

Files are compared line by line, and directories file by file.
-/

namespace TaskRunner.Tools.Differences

open Processes

/-- How much blanks count when lines are compared. -/
structure Blanks where
  /-- Whether tabs are the same as the blanks up to where they lead. -/
  expands : Bool
  /-- Whether blanks at the end count for nothing. -/
  trims : Bool
  /-- Whether all blanks between words are the same. -/
  joins : Bool
  /-- Whether blanks count for nothing. -/
  drops : Bool

/-- What is compared, and how it is told. -/
structure Settings where
  look : Look
  blanks : Blanks
  ignoresCase : Bool
  dropsReturns : Bool
  /-- Whether a file is text whatever is in it. -/
  alwaysText : Bool
  minimal : Bool
  /-- How many lines of a common beginning or end are compared nevertheless. -/
  horizon : Nat
  brief : Bool
  tellsSame : Bool
  recursive : Bool
  /-- Whether a file that is only in the second directory, or only in the first one, counts as an empty one in the other. -/
  newInSecond : Bool
  newInFirst : Bool
  followsLinks : Bool
  labels : List String
  excluded : List Wildcard
  /-- The name that a comparison of directories begins with. -/
  from_ : Option String
  /-- The options that were given. -/
  options : List String
  zone : Calendar.Zone

/-! ## Lines -/

/-- Whether a character is a blank. -/
def isBlank (c : Char) : Bool := c == ' ' || ('\t' ≤ c && c ≤ '\r')

/-- One blank for blanks that stand together. -/
def joined : Bool → List Char → List Char
  | _, [] => []
  | before, c :: rest =>
    if isBlank c then (if before then joined true rest else ' ' :: joined true rest) else c :: joined false rest

/-- What counts of a line. -/
def Settings.keyOf (s : Settings) (line : String) : String :=
  let hasEnd := line.endsWith "\n"
  let cs := if hasEnd then line.toList.dropLast else line.toList
  let cs := if s.dropsReturns ∧ hasEnd ∧ cs.getLast? = some '\r' then cs.dropLast else cs
  let cs := if s.ignoresCase then cs.map Char.toLower else cs
  let trimmed (cs : List Char) : List Char := (cs.reverse.dropWhile isBlank).reverse
  let cs :=
    if s.blanks.drops then cs.filter fun c => !isBlank c
    else if s.blanks.joins then joined false (trimmed cs)
    else
      let cs := if s.blanks.expands then expanded s.look.tab 0 cs else cs
      if s.blanks.trims then trimmed cs else cs
  let free := s.blanks.drops || s.blanks.joins || s.blanks.trims
  String.ofList cs ++ if hasEnd ∨ free then "\n" else ""

/-- The lines of a file, with their ends. -/
def linesOf (bytes : ByteArray) : Array String :=
  let (lines, ended) := Tool.linesOf 10 bytes
  let texts := (lines.map Text.Octets.ofBytes).toArray
  let count := texts.size
  texts.mapIdx fun i s => if i + 1 = count ∧ ¬ ended then s else s.push '\n'

/-- Classes of lines that are the same: numbers for keys. -/
def classesOf (keys : Array String) : Array Nat :=
  let order := (keys.zipIdx.toList).mergeSort fun a b => a.1 ≤ b.1
  let (found, _, _) := order.foldl (fun (found, n, last) (key, i) =>
    let n := if last = some key then n else n + 1
    (found.set! i n, n, some key)) (Array.replicate keys.size 0, 0, (none : Option String))
  found

/-- How many lines two rows have in common from their beginning. -/
def commonLines (a b : List String) : Nat := ((a.zip b).takeWhile fun (s, t) => s == t).length

/-- The changes between two files, if what counts of their lines is as said. -/
def changesOf (keyOf : String → String) (minimal : Bool) (margin : Nat) (a b : Side) : List Change :=
  let classes := classesOf ((a.lines ++ b.lines).map keyOf)
  let start := commonLines a.lines.toList b.lines.toList
  let ends (x : Side) : Bool := x.lines.back?.all fun l => l.endsWith "\n"
  let stop := if ends a = ends b then commonLines a.lines.toList.reverse b.lines.toList.reverse else 0
  changesBetween minimal margin start stop (classes.extract 0 a.lines.size) (classes.extract a.lines.size classes.size)

/-- The changes between two files. -/
def Settings.changes (s : Settings) (a b : Side) : List Change :=
  changesOf s.keyOf s.minimal (max s.look.around s.horizon) a b

/-! ## Files -/

/-- A file that is compared: its path, and what is known about it if it is there. -/
structure Item where
  path : String
  info : Option FileSystem.Info

/-- What stands for a name in headings: the name, with escapes in quotation marks if it needs them. -/
def headed (name : String) : String :=
  let isPlain (c : Char) : Bool := ' ' < c && c.toNat < 128 && c != '\x22' && c != '\x5c'
  let escaped (c : Char) : String :=
    if isPlain c || c == ' ' then String.singleton c
    else if c == '\x22' || c == '\x5c' then "\\" ++ String.singleton c
    else if c.toNat < 128 then Quoting.escapeOf c
    else "\\" ++ Shell.Quoting.octal c.toNat
  if name.toList.all isPlain then name else "\"" ++ String.join (name.toList.map escaped) ++ "\""

/-- How a file is named: by its label, if it has one. -/
def Settings.nameOf (s : Settings) (second : Bool) (path : String) : String :=
  (s.labels[if second then 1 else 0]?).getD path

/-- The bytes of a file. -/
def bytesOf (i : Item) : Tool (Except Refusal ByteArray) :=
  if i.info.isNone then return .ok ByteArray.empty else Tool.contentOf i.path

/-- When a file was changed. -/
def timeOf (s : Settings) (i : Item) : Tool String := do
  let now ← Proc.now
  let time := if i.path = "-" then now else (i.info.map FileSystem.Info.modified).getD 0
  return Calendar.written (Calendar.partsOf s.zone (time / Dates.perSecond : Nat) (time % Dates.perSecond))
    "%Y-%m-%d %H:%M:%S.%N %z"

/-- The lines that a report begins with. -/
def Settings.headings (s : Settings) (inside : Bool) (a b : Item) : Tool String := do
  let first := headed (s.nameOf false a.path)
  let second := headed (s.nameOf true b.path)
  let options := String.join (s.options.map fun o => " " ++ Quoting.ifNeeded o)
  let start := if inside then "diff" ++ options ++ " " ++ first ++ " " ++ second ++ "\n" else ""
  let line (sign : String) (place : Nat) (i : Item) : Tool String := do
    match s.labels[place]? with
    | some label => return sign ++ " " ++ label ++ "\n"
    | none => return sign ++ " " ++ headed i.path ++ "\t" ++ (← timeOf s i) ++ "\n"
  match s.look.style with
  | .unified => return start ++ (← line "---" 0 a) ++ (← line "+++" 1 b)
  | .context => return start ++ (← line "***" 0 a) ++ (← line "---" 1 b)
  | _ => return start

/-- Tells whether two files are the same, in one line. -/
def Settings.verdict (s : Settings) (differ : Bool) (what : String) (a b : Item) : Tool Nat := do
  let first := s.nameOf false a.path
  let second := s.nameOf true b.path
  if differ then Tool.emitLine (what ++ " " ++ first ++ " and " ++ second ++ " differ")
  else if s.tellsSame then Tool.emitLine ("Files " ++ first ++ " and " ++ second ++ " are identical")
  return if differ then 1 else 0

/-- Compares two files. -/
def Settings.compareFiles (s : Settings) (inside : Bool) (a b : Item) : Tool Nat := do
  match ← bytesOf a, ← bytesOf b with
  | .error r, .error t =>
    Tool.say (a.path ++ ": " ++ r.message)
    Tool.say (b.path ++ ": " ++ t.message)
    return 2
  | .error r, _ =>
    Tool.say (a.path ++ ": " ++ r.message)
    return 2
  | _, .error r =>
    Tool.say (b.path ++ ": " ++ r.message)
    return 2
  | .ok x, .ok y =>
    let isBinary (bytes : ByteArray) : Bool := !s.alwaysText && bytes.toList.contains 0
    let same : Bool := x == y
    if isBinary x ∨ isBinary y then return ← s.verdict (!same) (if s.brief then "Files" else "Binary files") a b
    if same ∧ s.look.style ≠ .besides then return ← s.verdict false "" a b
    let isLoose : Bool := s.ignoresCase || s.blanks.expands || s.blanks.trims || s.blanks.joins || s.blanks.drops
      || s.dropsReturns || s.look.skipsBlank || s.look.skips.isSome
    if s.brief ∧ ¬ isLoose then return ← s.verdict (!same) "Files" a b
    let robust := s.look.style.isRobust
    let side (bytes : ByteArray) : Side :=
      let lines := linesOf bytes
      ⟨if robust then lines else lines.map fun l => if l.endsWith "\n" then l else l.push '\n'⟩
    let (first, second) := (side x, side y)
    let changes := s.changes first second
    let differ : Bool := changes.any fun c => !s.look.isIdle first second c
    if s.brief then return ← s.verdict differ "Files" a b
    let report := s.look.report first second changes
    if differ ∨ s.look.style = .besides then
      Tool.emit (← s.headings inside a b)
      Tool.emit report
    else discard <| s.verdict false "" a b
    let mut status := if differ then 1 else 0
    if ¬ robust then
      for (bytes, i, second) in [(x, a, false), (y, b, true)] do
        if ¬ (bytes.isEmpty ∨ bytes.get! (bytes.size - 1) = 10) then
          Tool.say (s.nameOf second i.path ++ ": No newline at end of file\n")
          status := 2
    return status

/-! ## Directories -/

/-- The name of a kind of file. -/
def kindOf (i : FileSystem.Info) : String :=
  match i.kind with
  | .directory => "directory"
  | .file => if i.size = 0 then "regular empty file" else "regular file"
  | .link _ => "symbolic link"
  | .device _ => "character special file"
  | .pipe => "fifo"

/-- What is known about a path. -/
def Settings.itemOf (s : Settings) (path : String) : Tool (Except Refusal Item) := do
  if path = "-" then
    return .ok ⟨path, some ⟨.file, 0, 0, 1, 1, 0, 0⟩⟩
  match ← Making.known s.followsLinks path with
  | .ok (_, i) => return .ok ⟨path, some i⟩
  | .error r => return .error r

/-- The names in a directory, in order. -/
def Settings.namesIn (s : Settings) (top : Bool) (i : Item) : Tool (List String) := do
  if i.info.isNone then return []
  match ← Making.known true i.path with
  | .error _ => return []
  | .ok (l, _) =>
    let (fs, _) ← Proc.files
    let names := (fs.names l).map Text.Octets.ofName
    let wanted (name : String) : Bool :=
      !(s.excluded.any fun w => w.isMatch name) && (!top || s.from_.all fun start => start ≤ name)
    return (names.filter wanted).mergeSort fun a b => a ≤ b

/-- Names of two directories: those that one of them or both have. -/
def merged : Nat → List String → List String → List (Option String × Option String)
  | 0, _, _ => []
  | n + 1, x :: xs, y :: ys =>
    if x = y then (some x, some y) :: merged n xs ys
    else if x < y then (some x, none) :: merged n xs (y :: ys)
    else (none, some y) :: merged n (x :: xs) ys
  | _, xs, [] => xs.map fun x => (some x, none)
  | _, [], ys => ys.map fun y => (none, some y)

mutual

/-- Compares what two paths lead to; in a directory, the names that the directories have. -/
def Settings.compare (s : Settings) : Nat → Option (String × String × Option String × Option String) → String → String → Tool Nat
  | 0, _, _, _ => return 2
  | n + 1, inside, x, y => do
    let isNew : Refusal → Bool := fun r => r == .noEntry
    let only : Bool := match inside with
      | some (_, _, first, second) =>
        !((first.isSome && second.isSome) || (s.newInSecond && second.isSome) || s.newInFirst)
      | none => false
    if only then
      match inside with
      | some (dir, dir', first, second) =>
        Tool.emitLine ("Only in " ++ (if first.isSome then dir else dir') ++ ": " ++ (first <|> second).getD "")
      | none => pure ()
      return 1
    let find (path : String) (missing : Bool) (mayBeNew : Bool) : Tool (Except Refusal Item) := do
      if missing then return .ok ⟨path, none⟩
      match ← s.itemOf path with
      | .error r => return if inside.isNone ∧ mayBeNew ∧ isNew r then .ok ⟨path, none⟩ else .error r
      | found => return found
    let (missing, missing') := match inside with
      | some (_, _, first, second) => (first.isNone, second.isNone)
      | none => (false, false)
    let a ← find x missing (s.newInFirst || s.newInSecond)
    let b ← find y missing' s.newInFirst
    let complain (path : String) (r : Refusal) : Tool Unit := Tool.say (path ++ ": " ++ r.message)
    match a, b with
    | .error r, .error t =>
      complain x r
      complain y t
      return 2
    | .error r, .ok _ =>
      complain x r
      return 2
    | .ok _, .error r =>
      complain y r
      return 2
    | .ok a, .ok b =>
      let isDirectory (i : Item) : Bool := i.info.any fun f => f.kind == .directory
      let bothMissing : Bool := a.info.isNone && b.info.isNone
      if bothMissing then
        complain x .noEntry
        complain y .noEntry
        return 2
      -- What is missing counts as what the other one is.
      let first := isDirectory a || (a.info.isNone && isDirectory b)
      let second := isDirectory b || (b.info.isNone && isDirectory a)
      let sameFile : Bool := match a.info, b.info with
        | some i, some j => i.serial == j.serial && (x == "-") == (y == "-")
        | _, _ => false
      if first ∧ second then
        if sameFile then return 0
        if inside.isSome ∧ ¬ s.recursive then
          Tool.emitLine ("Common subdirectories: " ++ a.path ++ " and " ++ b.path)
          return 0
        s.compareDirectories n inside.isNone a b
      else if first ∨ second then
        match inside with
        | none =>
          let name (path : String) : String := Making.inside "" ((path.splitOn "/").getLastD path) |>.drop 1 |>.toString
          if x = "-" ∨ y = "-" then
            Tool.fail 2 "cannot compare '-' to a directory"
          if first then s.compare n none (Making.inside x (name y)) y
          else s.compare n none x (Making.inside y (name x))
        | some _ =>
          let shown (i : Item) (second : Bool) : String := "ile " ++ s.nameOf second i.path ++ " is a "
            ++ ((i.info.map kindOf).getD "")
          Tool.emitLine ("F" ++ shown a false ++ " while f" ++ shown b true)
          return 1
      else
        let links := match a.info.map FileSystem.Info.kind, b.info.map FileSystem.Info.kind with
          | some (.link t), some (.link u) => some (t == u)
          | _, _ => none
        match links with
        | some same => s.verdict (!same) "Symbolic links" a b
        | none =>
          if sameFile ∧ s.look.style ≠ .besides then s.verdict false "" a b
          else s.compareFiles inside.isSome a b

/-- Compares two directories, file by file. -/
def Settings.compareDirectories (s : Settings) : Nat → Bool → Item → Item → Tool Nat
  | 0, _, _, _ => return 2
  | n + 1, top, a, b => do
    let names := merged Proc.endless (← s.namesIn top a) (← s.namesIn top b)
    s.compareAll n a.path b.path names

/-- Compares files of two directories. -/
def Settings.compareAll (s : Settings) : Nat → String → String → List (Option String × Option String) → Tool Nat
  | 0, _, _, _ => return 2
  | _, _, _, [] => return 0
  | n + 1, dir, dir', (first, second) :: rest => do
    Proc.step
    let name := (first <|> second).getD ""
    let status ← s.compare n (some (dir, dir', first, second)) (Making.inside dir name) (Making.inside dir' name)
    return max status (← s.compareAll n dir dir' rest)

end

/-! ## The program -/

/-- What is said after a message about how the program was called. -/
def usage (name : String) : String := name ++ ": Try '" ++ name ++ " --help' for more information.\n"

/-- Stops because of how the program was called. -/
def wrong {α : Type} (message : String) : Tool α := do
  Tool.say message
  Tool.note (usage (← Tool.name))
  throw 2

/-- The options. -/
def known : List Known :=
  [flag "a" "text", flag "b" "ignore-space-change", flag "B" "ignore-blank-lines", mayTake "context" "context", flag "c",
    taking "C", flag "d" "minimal", flag "e" "ed", flag "E" "ignore-tab-expansion", flag "f" "forward-ed",
    taking "F" "show-function-line", flag "h", flag "H" "speed-large-files", flag "i" "ignore-case",
    taking "I" "ignore-matching-lines", flag "l" "paginate", taking "L" "label", flag "n" "rcs", flag "N" "new-file",
    flag "p" "show-c-function", flag "P", word "unidirectional-new-file", flag "q" "brief", flag "r" "recursive",
    flag "s" "report-identical-files", taking "S" "starting-file", flag "t" "expand-tabs", flag "T" "initial-tab",
    flag "u", mayTake "unified" "unified", taking "U", flag "w" "ignore-all-space", taking "W" "width",
    taking "x" "exclude", taking "X" "exclude-from", flag "y" "side-by-side", flag "Z" "ignore-trailing-space",
    wordMayTake "color", wordTaking "from-file", wordTaking "to-file", word "normal", word "left-column",
    word "suppress-common-lines", word "strip-trailing-cr", word "no-dereference", wordTaking "tabsize",
    wordTaking "horizon-lines", word "suppress-blank-empty", word "no-ignore-file-name-case",
    word "ignore-file-name-case"] ++ (List.range 10).map fun n => flag (toString n)

/-- The style that options ask for. -/
def styleOf : List (String × Option String) → Option Style → Tool (Option Style)
  | [], found => return found
  | (key, _) :: rest, found => do
    let style : Option Style := match key with
      | "c" | "C" | "context" => some .context
      | "u" | "U" | "unified" => some .unified
      | "e" => some .commands
      | "f" => some .inOrder
      | "n" => some .counted
      | "y" => some .besides
      | "normal" => some .normal
      | _ => none
    match style, found with
    | none, _ => styleOf rest found
    | some s, none => styleOf rest (some s)
    | some s, some t => if s = t then styleOf rest found else wrong "conflicting output style options"

/-- How many lines stand around changes, as options say. -/
def aroundOf (options : List (String × Option String)) : Tool Nat := do
  let mut most := 0
  let mut asked := false
  for (key, value) in options do
    if ["C", "U", "context", "unified"].contains key then
      match value with
      | some s =>
        match Numbers.integer? s with
        | some n =>
          if n < 0 then wrong ("invalid context length '" ++ s ++ "'")
          most := max most n.toNat
        | none => wrong ("invalid context length '" ++ s ++ "'")
        asked := true
      | none => most := max most 3
    else if key = "c" ∨ key = "u" then most := max most 3
  let digits := (options.map Prod.fst).filter fun k => k.length = 1 ∧ k.toList.all Char.isDigit
  if digits ≠ [] ∧ ¬ asked then return (String.join digits).toNat?.getD 3
  return most

/-- An expression for lines. -/
def regexOf (pattern : String) : Tool Regex := do
  match Regex.ofList ⟨false, false, false, true, false⟩ ((← Tool.locale).characters pattern) with
  | .ok (r, _) => return r
  | .error f => Tool.fail 2 (pattern ++ ": " ++ f.message)

/-- An expression that one of some expressions makes. -/
def regexesOf (patterns : List String) : Tool (Option Regex) := do
  match ← patterns.mapM regexOf with
  | [] => return none
  | r :: rest => return some (rest.foldl Regex.either r)

/-- The options and operands of a comparison, and what they ask for. -/
def settingsOf (args : List String) : Tool (Given × Settings) := do
  let g ← Options.read { known, status := 2, usage := some (usage "diff") } args
  let style ← styleOf g.options none
  let around ← aroundOf g.options
  let width ← match g.last? "W" with
    | none => pure 130
    | some s => match Numbers.integer? s with
      | some n => if n < 1 then wrong ("invalid width '" ++ s ++ "'") else pure n.toNat
      | none => wrong ("invalid width '" ++ s ++ "'")
  let tabs ← (g.all "tabsize").mapM fun s => match Numbers.integer? s with
    | some n => if n < 1 then wrong ("invalid tabsize '" ++ s ++ "'") else pure n.toNat
    | none => wrong ("invalid tabsize '" ++ s ++ "'")
  if 1 < tabs.eraseDups.length then Tool.fail 2 "conflicting tabsize options"
  if 1 < (g.all "W").eraseDups.length then Tool.fail 2 "conflicting width options"
  let horizons ← (g.all "horizon-lines").mapM fun s => match Numbers.integer? s with
    | some n => if n < 0 then wrong ("invalid horizon length '" ++ s ++ "'") else pure n.toNat
    | none => wrong ("invalid horizon length '" ++ s ++ "'")
  let horizon := horizons.foldl max 0
  if 2 < (g.all "L").length then Tool.fail 2 "too many file label options"
  let style := style.getD (if g.has "p" then .context else .normal)
  let around := if g.has "p" ∧ around = 0 ∧ ¬ (["C", "U", "context", "unified"].any g.has) then 3 else around
  let heading ← match g.last? "F" with
    | some p => some <$> regexOf p
    | none => if g.has "p" then some <$> regexOf "^[[:alpha:]$_]" else pure none
  let skips ← regexesOf (g.all "I")
  let listed ← (g.all "X").mapM fun path => do
    match ← Tool.contentOf path with
    | .ok bytes => pure ((Tool.linesOf 10 bytes).1.map Text.Octets.ofBytes)
    | .error r => Tool.fail 2 (path ++ ": " ++ r.message)
  let trims := g.has "Z" || g.has "b" || g.has "w"
  let look : Look :=
    { style, around := if style = .unified ∨ style = .context then around else 0, expands := g.has "t"
      tab := tabs.headD 8, locale := ← Tool.locale, startsWithTab := g.has "T", width
      leftOnly := g.has "left-column", hidesCommon := g.has "suppress-common-lines"
      heading, skipsBlank := g.has "B", skipsBlanks := trims, skips }
  let operands := g.operands
  -- The options are shown as they were given, each argument before or between the operands.
  let given := args.takeWhile (· != "--")
  let shownOptions := (given.foldl (fun (shown, left) a =>
    match left with
    | o :: rest => if a = o ∧ ¬ (a.startsWith "-" ∧ a ≠ "-") then (shown, rest) else (shown ++ [a], left)
    | [] => (shown ++ [a], [])) (([] : List String), operands)).1
  let s : Settings :=
    { look, blanks := ⟨g.has "E", g.has "Z", g.has "b", g.has "w"⟩, ignoresCase := g.has "i"
      dropsReturns := g.has "strip-trailing-cr", alwaysText := g.has "a", minimal := g.has "d", horizon, brief := g.has "q"
      tellsSame := g.has "s", recursive := g.has "r", newInSecond := g.has "N" || g.has "P" || g.has "unidirectional-new-file"
      newInFirst := g.has "N", followsLinks := !g.has "no-dereference", labels := g.all "L"
      excluded := (g.all "x" ++ listed.flatten).map Wildcard.ofString, from_ := g.last? "S", options := shownOptions
      zone := ← Dates.zone }
  return (g, s)

/-- Tells what differs between files. -/
def diff (args : List String) : Tool Nat := do
  let (g, s) ← settingsOf args
  let operands := g.operands
  let compare (x y : String) : Tool Nat := s.compare Proc.endless none x y
  match g.last? "from-file", g.last? "to-file", operands with
  | some _, some _, _ => Tool.fail 2 "--from-file and --to-file both specified"
  | some x, none, ys => Tool.worst (fun y => compare x y) ys
  | none, some y, xs => Tool.worst (fun x => compare x y) xs
  | none, none, [x, y] => compare x y
  | none, none, _ :: _ :: extra :: _ => wrong ("extra operand '" ++ extra ++ "'")
  | none, none, _ => wrong ("missing operand after '" ++ (args.getLast?.getD (← Tool.name)) ++ "'")

end TaskRunner.Tools.Differences
