import TaskRunner.Regex.Reader
import TaskRunner.Regex.RichReader
import TaskRunner.Tools.Making
import TaskRunner.Tools.Numbers
import TaskRunner.Tools.Wildcard

/-!
# Lines that match

The lines of files in which one of some patterns is found are written, with those around them if that is
wanted, or counted, or only the names of their files are written.
-/

namespace TaskRunner.Tools.Matching

open Processes

/-! ## Patterns -/

/-- What is looked for. -/
structure Search where
  patterns : List Regex
  /-- The one rich pattern, if that is looked for. -/
  rich : Option Regex.Rich
  ignoresCase : Bool
  /-- Whether a match has to be whole words. -/
  words : Bool
  /-- Whether a match has to be the whole line. -/
  whole : Bool
  /-- Whether lines without a match are wanted. -/
  inverted : Bool
  locale : Text.Locale

namespace Search

/-- Whether a match may stand between two places. -/
def allows (s : Search) (t : Regex.Subject) (i j : Nat) : Bool :=
  (!s.whole || (i == 0 && j == t.chars.size)) && (!s.words || !((i != 0 && t.isWordAt (i - 1)) || t.isWordAt j))

/-- Where the longest match ends that begins at a place. -/
def stopAt (s : Search) (t : Regex.Subject) (i : Nat) : Option Nat :=
  (s.patterns.flatMap fun r => (r.stops t i).filter (s.allows t i)).max?

/-- The first match that begins at a place or after it, in so many steps. -/
def findFrom (s : Search) (t : Regex.Subject) : Nat → Nat → Option (Nat × Nat)
  | 0, _ => none
  | n + 1, i =>
    match s.stopAt t i with
    | some j => some (i, j)
    | none => findFrom s t n (i + 1)

/-- The first match that begins at a place or after it. -/
def find (s : Search) (t : Regex.Subject) (start : Nat) : Option (Nat × Nat) :=
  match s.rich with
  | some r => r.find t start
  | none => findFrom s t (if s.whole then 1 - start else t.chars.size + 1 - start) start

/-- The matches that are not empty, one after the other. -/
def findAll (s : Search) (t : Regex.Subject) : Nat → Nat → List (Nat × Nat)
  | 0, _ => []
  | n + 1, start =>
    match s.find t start with
    | none => []
    | some (i, j) => if j ≤ i then findAll s t n (max start i + 1) else (i, j) :: findAll s t n j

/-- A line in which matches are looked for. -/
def subject (s : Search) (line : ByteArray) : Regex.Subject :=
  Regex.Subject.ofList (s.locale.characters (Text.Octets.ofBytes line)) s.ignoresCase

end Search

/-- The ways in which patterns are written. -/
inductive Writing where
  | basic
  | extended
  | fixed
  | rich
  deriving DecidableEq

/-- Reads a pattern. -/
def patternOf (w : Writing) (line : String) : Tool Regex := do
  let cs := (← Tool.locale).characters line
  match w with
  | .fixed => return Regex.ofText cs
  | w =>
    match Regex.readCells ⟨w = .extended, false, true, false, false⟩ (cs.map fun c => (c, false)) with
    | .ok (r, state) =>
      for c in state.idle.reverse do
        let sign := if c = '\x7b' then "\x7b...\x7d" else String.singleton c
        Tool.say ("warning: " ++ sign ++ " at start of expression")
      return r
    | .error f => Tool.fail 2 f.message

/-- Reads the one rich pattern, which stands between what makes it match words or lines. -/
def richOf (ignoresCase words whole : Bool) (lines : List String) : Tool Regex.Rich := do
  match lines with
  | [line] =>
    let cs := (← Tool.locale).characters line
    let cs := if whole then "^(?:".toList ++ cs ++ ")$".toList
      else if words then "(?<!\\w)(?:".toList ++ cs ++ ")(?!\\w)".toList else cs
    match Regex.Rich.ofList ignoresCase cs with
    | .ok r => return r
    | .error f => Tool.fail 2 f.message
  | _ => Tool.fail 2 "the -P option only supports a single pattern"

/-! ## How lines are shown -/

/-- How lines are shown. -/
structure Look where
  numbers : Bool
  offsets : Bool
  /-- Whether lines begin where there is a stop for tabs. -/
  aligned : Bool
  /-- Whether names end with a null character. -/
  nullNames : Bool
  onlyMatches : Bool
  colors : Bool
  /-- The color of matches. -/
  matchColor : String
  /-- How many lines around those that are wanted are shown. -/
  before : Nat
  after : Nat
  /-- What stands between lines that do not follow each other. -/
  separator : Option String
  ending : Char
  /-- Whether bytes that are no text are shown. -/
  showsBinary : Bool

namespace Look

/-- A text in a color. -/
def painted (o : Look) (color s : String) : String :=
  if o.colors ∧ s ≠ "" then "\x1b[" ++ color ++ "m\x1b[K" ++ s ++ "\x1b[m\x1b[K" else s

/-- What stands before a line. -/
def heading (o : Look) (name : Option String) (number offset : Nat) (sign : String) : String :=
  let mark := o.painted "36" sign
  let placed (n : Nat) : String := if o.aligned then Numbers.right 2 (toString n) else toString n
  let first := match name with
    | some s => o.painted "35" s ++ (if o.nullNames then "\x00" else mark)
    | none => ""
  let second := if o.numbers then o.painted "32" (placed number) ++ mark else ""
  let third := if o.offsets then o.painted "32" (placed offset) ++ mark else ""
  let all := first ++ second ++ third
  if o.aligned ∧ all ≠ "" then all ++ "\t" else all

/-- The bytes of characters between two places of a line. -/
def part (t : Regex.Subject) (i j : Nat) : String := Text.Octets.ofCharacters (t.chars.extract i j).toList

/-- A line with its matches in color. -/
def colored (o : Look) (t : Regex.Subject) : Nat → List (Nat × Nat) → String
  | start, [] => part t start t.chars.size
  | start, (i, j) :: rest => part t start i ++ o.painted o.matchColor (part t i j) ++ colored o t j rest

end Look

/-! ## Searching -/

/-- What becomes of the lines. -/
inductive Purpose where
  | lines
  | count
  /-- The names of files with lines that are wanted. -/
  | names
  /-- The names of files without such lines. -/
  | otherNames
  | nothing
  deriving DecidableEq

/-- A search, and what becomes of it. -/
structure Task where
  search : Search
  look : Look
  purpose : Purpose
  /-- How many lines are wanted. -/
  most : Option Nat
  /-- Whether files that hold no text are passed over. -/
  skipsBinary : Bool
  silent : Bool
  label : String

/-- Where a search is. -/
structure Progress where
  /-- How many lines have been read, and how many bytes. -/
  number : Nat
  offset : Nat
  selected : Nat
  /-- How many lines are still to be shown because of the one before. -/
  pending : Nat
  /-- The lines held back, the last first, with their numbers and places. -/
  held : List (Nat × Nat × ByteArray)
  /-- The number of the line that was shown last, and whether any line was ever shown. -/
  last : Nat
  used : Bool
  /-- How many bytes have been read after the last line that was wanted. -/
  spare : Nat
  /-- Whether something was not shown since it is no text. -/
  hidden : Bool

/-- Whether bytes are no text. -/
def isNoText (l : Text.Locale) (s : String) : Bool := (l.characters s).any fun c => (Text.Octets.strayByte? c).isSome

/-- Shows a line. -/
def Task.show (k : Task) (name : Option String) (selected : Bool) (number offset : Nat) (line : ByteArray) (p : Progress) :
    Tool Progress := do
  let o := k.look
  if o.separator.isSome ∧ p.used ∧ number ≠ p.last + 1 then
    Tool.emit (o.painted "36" (o.separator.getD "") ++ "\n")
  let sign := if selected then ":" else "-"
  let p := { p with last := number, used := true }
  let matching := selected != k.search.inverted
  if ¬ o.onlyMatches ∧ ¬ (o.colors ∧ matching) then
    let text := Text.Octets.ofBytes line
    if ¬ o.showsBinary ∧ isNoText k.search.locale text then return { p with hidden := true }
    Tool.emit ((o.heading name number offset sign ++ text).push o.ending)
    return p
  else
    let t := k.search.subject line
    let found := if matching then k.search.findAll t (t.chars.size + 2) 0 else []
    if o.onlyMatches then
      if ¬ selected then return p
      let mut hidden := p.hidden
      for (i, j) in found do
        let text := Look.part t i j
        if ¬ o.showsBinary ∧ isNoText k.search.locale text then hidden := true
        else
          let place := offset + (Look.part t 0 i).length
          Tool.emit ((o.heading name number place sign ++ o.painted o.matchColor text).push o.ending)
      return { p with hidden }
    else
      Tool.emit ((o.heading name number offset sign ++ o.colored t 0 found).push o.ending)
      return p

/-- Deals with a line. -/
def Task.meet (k : Task) (name : Option String) (binary : Bool) (p : Progress) (line : ByteArray) (ended : Bool) :
    Tool (Tool.Next Progress) := do
  let size := line.size + (if ended then 1 else 0)
  let number := p.number + 1
  let offset := p.offset
  let selected := (k.search.find (k.search.subject line) 0).isSome != k.search.inverted
  let next : Progress := { p with number, offset := offset + size }
  let shows := k.purpose = .lines && !binary
  if k.most = some p.selected then
    -- Only lines after the last one that was wanted are shown.
    if p.pending = 0 then return .enough { next with spare := p.spare + size }
    let next ← if shows then k.show name false number offset line next else pure next
    return .more { next with spare := p.spare + size, pending := p.pending - 1 }
  else if selected then
    let next := { next with selected := p.selected + 1, pending := k.look.after, held := [] }
    let next ←
      if shows then do
        let next ← p.held.reverse.foldlM (fun next (n, place, line) => k.show name false n place line next) next
        k.show name true number offset line next
      else pure next
    let enough : Bool := match k.purpose with
      | .lines => binary
      | .count => false
      | _ => true
    if enough ∨ (k.most = some next.selected ∧ (next.pending = 0 ∨ ¬ shows)) then return .enough next
    return .more next
  else if p.pending ≠ 0 then
    let next ← if shows then k.show name false number offset line next else pure next
    return .more { next with pending := p.pending - 1 }
  else
    let held := if k.look.before = 0 then [] else ((number, offset, line) :: p.held).take k.look.before
    return .more { next with held }

/-- What a search of a file came to. -/
structure Result where
  selected : Bool
  failed : Bool
  used : Bool

/-- Searches a descriptor. -/
def Task.searchIn (k : Task) (descriptor : Nat) (shown : String) (named used : Bool) : Tool Result := do
  let o := k.look
  let output ← Tool.isSameFile descriptor 1
  if output ∧ k.purpose ∈ [.lines, .count] ∧ k.most ≠ some 1 then
    Tool.say (shown ++ ": input file is also the output")
    return ⟨false, true, used⟩
  match ← Proc.read descriptor Proc.blockSize with
  | .error r =>
    if ¬ k.silent then Tool.say (shown ++ ": " ++ r.message)
    if k.purpose = .count then Tool.emitLine ((if named then shown ++ ":" else "") ++ "0")
    return ⟨false, true, used⟩
  | .ok first =>
    let binary := !o.showsBinary && o.ending == '\n' && first.toList.any (· == 0)
    if binary ∧ k.skipsBinary then return ⟨false, false, used⟩
    let name := if named then some shown else none
    let start : Progress := ⟨0, 0, 0, 0, [], 0, used, 0, false⟩
    let passed ← Tool.eachLineFrom descriptor o.ending.toNat.toUInt8 (k.meet name binary) Proc.endless start first
    let p := passed.known
    if k.most = some p.selected ∧ passed.unused + p.spare ≠ 0 then
      Proc.change fun pid kernel => kernel.giveBack pid descriptor (passed.unused + p.spare)
    match passed.refused with
    | some r => if ¬ k.silent then Tool.say (shown ++ ": " ++ r.message)
    | none => pure ()
    let selected := p.selected != 0
    let paintedName := o.painted "35" shown
    match k.purpose with
    | .count =>
      let mark := if o.nullNames then "\x00" else o.painted "36" ":"
      Tool.emitLine ((if named then paintedName ++ mark else "") ++ toString p.selected)
    | .names => if selected then Tool.emit (paintedName ++ (if o.nullNames then "\x00" else "\n"))
    | .otherNames => if ¬ selected then Tool.emit (paintedName ++ (if o.nullNames then "\x00" else "\n"))
    | _ => pure ()
    if k.purpose = .lines ∧ (p.hidden ∨ (binary ∧ selected)) then Tool.say (shown ++ ": binary file matches")
    return ⟨selected, passed.refused.isSome, p.used⟩

/-! ## Files -/

/-- Which files are searched. -/
structure Scope where
  recursive : Bool
  /-- Whether links are followed inside directories. -/
  follows : Bool
  skipsDirectories : Bool
  included : List Wildcard
  excluded : List Wildcard
  excludedDirectories : List Wildcard

/-- Whether one of some patterns matches a path or its last name. -/
def matchesAny (patterns : List Wildcard) (path : String) : Bool :=
  let last := ((path.splitOn "/").filter (· != "")).getLast?.getD path
  patterns.any fun w => w.isMatch path || w.isMatch last

/-- Whether a file is passed over. -/
def Scope.leavesOut (c : Scope) (path : String) : Bool :=
  matchesAny c.excluded path || (!c.included.isEmpty && !matchesAny c.included path)

/-- The files below a directory, with their names. -/
def Scope.filesIn (c : Scope) (fs : FileSystem) : Nat → String → Location → List String
  | 0, _, _ => []
  | n + 1, path, l =>
    (fs.names l).flatMap fun name =>
      let whole := if path = "" then Text.Octets.ofName name else
        (if path.endsWith "/" then path else path ++ "/") ++ Text.Octets.ofName name
      let place : Option Location := match fs.held? (name :: l) with
        | some (.link _ _) =>
          if c.follows then (fs.walk true ⟨l, 0⟩ name).toOption else none
        | some _ => some (name :: l)
        | none => none
      match place with
      | none => []
      | some inner =>
        match fs.held? inner with
        | some (.directory _) =>
          if matchesAny c.excludedDirectories whole then [] else filesIn c fs n whole inner
        | some (.file _) => if c.leavesOut whole then [] else [whole]
        | _ => []

/-- Searches files: whether a line was wanted, and whether something failed. -/
def Task.searchFiles (k : Task) : List (String × Bool) → Result → Tool Result
  | [], r => return r
  | (path, named) :: rest, r => do
    let shown := if path = "-" then k.label else path
    match ← Tool.openInput path with
    | .error refusal =>
      if ¬ k.silent then Tool.say (shown ++ ": " ++ refusal.message)
      k.searchFiles rest { r with failed := true }
    | .ok descriptor =>
      let found ← k.searchIn descriptor shown named r.used
      Tool.closeInput descriptor
      if found.selected ∧ k.purpose = .nothing then
        return { r with selected := true, failed := false }
      k.searchFiles rest ⟨r.selected || found.selected, r.failed || found.failed, found.used⟩

/-- The options. -/
def known : List Known :=
  [flag "E" "extended-regexp", flag "F" "fixed-strings", flag "G" "basic-regexp", flag "P" "perl-regexp",
    taking "e" "regexp", taking "f" "file", flag "i" "ignore-case", flag "y", word "no-ignore-case",
    flag "w" "word-regexp", flag "x" "line-regexp", flag "z" "null-data", flag "s" "no-messages",
    flag "v" "invert-match", taking "m" "max-count", flag "b" "byte-offset", flag "n" "line-number",
    word "line-buffered", flag "H" "with-filename", flag "h" "no-filename", wordTaking "label",
    flag "o" "only-matching", flag "q" "quiet", word "silent", wordTaking "binary-files", flag "a" "text", flag "I",
    taking "d" "directories", taking "D" "devices", flag "r" "recursive", flag "R" "dereference-recursive",
    wordTaking "include", wordTaking "exclude", wordTaking "exclude-from", wordTaking "exclude-dir",
    flag "L" "files-without-match", flag "l" "files-with-matches", flag "c" "count", flag "T" "initial-tab",
    flag "Z" "null", taking "B" "before-context", taking "A" "after-context", taking "C" "context",
    wordMayTake "color", wordMayTake "colour", flag "U" "binary", flag "u" "unix-byte-offsets", taking "X",
    wordTaking "group-separator", word "no-group-separator", taking "numbered-context"]

/-- Writes a number after a hyphen as an option with an argument. -/
def withContexts (args : List String) : List String :=
  match args.span (· != "--") with
  | (options, rest) =>
    let one (a : String) : List String := match a.toList with
      | '-' :: c :: cs =>
        if c.isDigit then
          let (digits, more) := (c :: cs).span Char.isDigit
          ["--context=" ++ String.ofList digits] ++ (if more = [] then [] else [String.ofList ('-' :: more)])
        else [a]
      | _ => [a]
    options.flatMap one ++ rest

/-- Searches, with patterns that are written in some way unless an option says another. -/
def searchAs (usual : Writing) (args : List String) : Tool Nat := do
  let shortName := ((← Tool.name).splitOn "/").getLast?.getD ""
  let usage := "Usage: " ++ shortName ++ " [OPTION]... PATTERNS [FILE]...\nTry \x27" ++ shortName
    ++ " --help\x27 for more information.\n"
  let g ← Options.read { known, status := 2, usage := some usage } (withContexts args)
  let number (s : String) : Tool Nat := match Numbers.size s with
    | .ok n => return n
    | .error _ => Tool.fail 2 (s ++ ": invalid context length argument")
  let context ← (g.last? "C").mapM number
  let after ← (g.last? "A").mapM number
  let before ← (g.last? "B").mapM number
  let most : Option Int ← (g.last? "m").mapM fun s => match Numbers.integer? s with
    | some n => pure n
    | none => Tool.fail 2 "invalid max count"
  let binaryFiles := if g.lastOf? ["a", "binary-files", "I"] = some "a" then "text"
    else if g.lastOf? ["a", "binary-files", "I"] = some "I" then "without-match"
    else (g.last? "binary-files").getD "binary"
  if ¬ ["binary", "text", "without-match"].contains binaryFiles then Tool.fail 2 "unknown binary-files type"
  if ¬ ["read", "skip"].contains ((g.last? "D").getD "read") then Tool.fail 2 "unknown devices method"
  let directories ← Options.choice 2 "--directories" [["read"], ["recurse"], ["skip"]] ((g.last? "d").getD "read")
  let writings := (g.options.filterMap fun (key, _) => match key with
    | "E" => some Writing.extended
    | "F" => some .fixed
    | "G" => some .basic
    | "P" => some .rich
    | _ => none).eraseDups
  if 1 < writings.length then Tool.fail 2 "conflicting matchers specified"
  if g.has "u" then Tool.say "warning: --unix-byte-offsets (-u) is obsolete"
  let writing := writings.head?.getD usual
  let lists ← g.options.mapM fun (key, value) => do
    match key, value with
    | "e", some s => return some (s.splitOn "\n")
    | "f", some path =>
      match ← Tool.contentOf path with
      | .ok bytes => return some (Text.Octets.lines bytes)
      | .error r => Tool.fail 2 (path ++ ": " ++ r.message)
    | _, _ => return none
  let given := lists.filterMap fun list => list
  let (lines, operands) ← match given, g.operands with
    | [], [] =>
      Tool.note usage
      throw 2
    | [], first :: rest => pure (first.splitOn "\n", rest)
    | given, operands => pure (given.flatten, operands)
  let ignoresCase := match g.lastOf? ["i", "y", "no-ignore-case"] with
    | some key => key != "no-ignore-case"
    | none => false
  let rich ← if writing = .rich then some <$> richOf ignoresCase (g.has "w") (g.has "x") lines else pure none
  let patterns ← if writing = .rich then pure [] else lines.mapM (patternOf writing)
  if most = some 0 then return 1
  let purpose : Purpose :=
    if g.has "q" ∨ g.has "silent" then .nothing
    else match g.lastOf? ["l", "L"] with
      | some "l" => .names
      | some _ => .otherNames
      | none => if g.has "c" then .count else .lines
  let colorMode := match g.options.reverse.find? fun (key, _) => key == "color" || key == "colour" with
    | some (_, some mode) => mode
    | some (_, none) => "auto"
    | none => "never"
  let wishes := (((← Tool.setting "GREP_COLORS").getD "").splitOn ":").filterMap fun s =>
    if s.startsWith "mt=" ∨ s.startsWith "ms=" then some (s.drop 3).toString else none
  let matchColor := wishes.getLast?.getD "01;31"
  let around := (after <|> context).isSome || (before <|> context).isSome
  let separator := match g.options.reverse.find? fun (key, _) => key == "group-separator" || key == "no-group-separator" with
    | some ("group-separator", text) => text
    | some _ => none
    | none => some "--"
  let locale ← Tool.locale
  let recursive := g.has "r" || g.has "R" || directories = "recurse"
  let task : Task :=
    { search := ⟨patterns, rich, ignoresCase, g.has "w", g.has "x", g.has "v", locale⟩,
      look :=
        { numbers := g.has "n", offsets := g.has "b", aligned := g.has "T", nullNames := g.has "Z",
          onlyMatches := g.has "o", matchColor, colors := colorMode = "always" || colorMode = "yes" || colorMode = "force",
          before := (before <|> context).getD 0, after := (after <|> context).getD 0,
          separator := if around then separator else none, ending := if g.has "z" then '\x00' else '\n',
          showsBinary := binaryFiles = "text" },
      purpose, most := (most.filter (0 < ·)).map Int.toNat, skipsBinary := binaryFiles = "without-match",
      silent := g.has "s", label := (g.last? "label").getD "(standard input)" }
  let scope : Scope :=
    { recursive, follows := g.has "R", skipsDirectories := directories = "skip",
      included := (g.all "include").map Wildcard.ofString, excluded := (g.all "exclude").map Wildcard.ofString,
      excludedDirectories := (g.all "exclude-dir").map fun s => Wildcard.ofString (if s = "/" then s else (s.dropEndWhile (· == '/')).toString) }
  let operands := if operands ≠ [] then operands else if recursive then [""] else ["-"]
  let several := 1 < operands.length
  let namesAlways := g.lastOf? ["H", "h"] = some "H"
  let namesNever := g.lastOf? ["H", "h"] = some "h"
  let (fs, place) ← Proc.files
  let files ← operands.mapM fun path => do
    let name := if path = "" ∧ g.operands.length < 2 then "." else path
    match fs.info true place (Text.Octets.toText name) with
    | .ok (l, ⟨.directory, _, _, _, _, _, _⟩) =>
      if path = "-" then return [(path, namesAlways || (several && !namesNever))]
      else if matchesAny scope.excludedDirectories path ∧ path ≠ "" then return []
      else if recursive then
        return (scope.filesIn fs (fs.entries.toList.length + 1) path l).map fun file => (file, !namesNever)
      else if scope.skipsDirectories then return []
      else return [(path, namesAlways || (several && !namesNever))]
    | _ =>
      if path ≠ "-" ∧ scope.leavesOut path then return []
      else return [(path, namesAlways || (several && !namesNever))]
  let r ← task.searchFiles files.flatten ⟨false, false, false⟩
  return if r.failed then 2 else if r.selected then 0 else 1

/-- Searches with basic patterns. -/
def grep : List String → Tool Nat := searchAs .basic

/-- Searches with extended patterns. -/
def egrep : List String → Tool Nat := searchAs .extended

/-- Searches for texts. -/
def fgrep : List String → Tool Nat := searchAs .fixed

end TaskRunner.Tools.Matching
