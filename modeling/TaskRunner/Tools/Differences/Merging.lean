import TaskRunner.Tools.Differences.Program

/-!
# Changes of three files

Two files that were made from a third one, and what changed in each. Both are compared with one of the three; changes at
the same places of that one belong together. The report tells of every such place which of the files is odd, or the
changes are merged, by a script or to a file in which places that changed in both ways are marked.
-/

namespace TaskRunner.Tools.Differences

open Processes

/-- Which of the files is odd at a place. -/
inductive Odd where
  | none
  /-- The file with a number from 0 on. -/
  | file (n : Nat)
  deriving DecidableEq

/-- Some lines of a file: the first one and the one after the last. -/
structure Lines where
  start : Nat
  stop : Nat
  deriving DecidableEq

namespace Lines

/-- How many lines there are. -/
def count (l : Lines) : Nat := l.stop - l.start

/-- The lines. -/
def of (l : Lines) (s : Side) : List String := s.part l.start l.count

end Lines

/-- A place at which files differ: the lines of each of the files, and which is odd. -/
structure Threefold where
  lines : List Lines
  odd : Odd

namespace Threefold

/-- The lines of one of the files. -/
def linesOf (t : Threefold) (file : Nat) : Lines := (t.lines[file]?).getD ⟨0, 0⟩

end Threefold

/-! ## Putting changes together -/

/-- Changes that are taken together: of the first pair of files and of the second one, the last first. -/
abbrev Together := List Change × List Change

/-- Takes all changes up to a line of the common file, and those that begin before what these reach. -/
def reached : Nat → Nat → Together → List Change → List Change → Together × List Change × List Change
  | 0, _, taken, a, b => (taken, a, b)
  | n + 1, stop, taken, a, b =>
    match a, b with
    | c :: a', b =>
      if c.second ≤ stop then reached n (max stop (c.second + c.inserted)) (c :: taken.1, taken.2) a' b
      else match b with
        | d :: b' =>
          if d.second ≤ stop then reached n (max stop (d.second + d.inserted)) (taken.1, d :: taken.2) a b'
          else (taken, a, b)
        | [] => (taken, a, b)
    | [], d :: b' =>
      if d.second ≤ stop then reached n (max stop (d.second + d.inserted)) (taken.1, d :: taken.2) [] b' else (taken, a, b)
    | [], [] => (taken, a, b)

/-- The changes of two files against a common one, those together that touch each other. -/
def gathered : Nat → List Change → List Change → List Together
  | 0, _, _ => []
  | _, [], [] => []
  | n + 1, a, b =>
    let stop := match a, b with
      | c :: _, d :: _ => if d.second < c.second then d.second + d.inserted else c.second + c.inserted
      | c :: _, [] => c.second + c.inserted
      | [], d :: _ => d.second + d.inserted
      | [], [] => 0
    let (taken, a', b') := reached (a.length + b.length + 1) stop ([], []) a b
    (taken.1.reverse, taken.2.reverse) :: gathered n a' b'

/-- The lines of a file at a place of the common one; `before` is the place after the last change, in both files. -/
def linesAt (changes : List Change) (before : Nat × Nat) (common : Lines) : Lines :=
  match changes, changes.getLast? with
  | first :: _, some last =>
    ⟨first.first - (first.second - common.start), last.first + last.deleted + (common.stop - (last.second + last.inserted))⟩
  | _, _ => ⟨before.1 + (common.start - before.2), before.1 + (common.stop - before.2)⟩

/-- The places at which three files differ. The last one is the common file; changes are those of the first and of the
second against it. -/
def threefold (a b : Side) : Nat × Nat × Nat → List Together → List Threefold
  | _, [] => []
  | (i, j, k), (x, y) :: rest =>
    let all := x ++ y
    let start := all.foldl (fun n c => min n c.second) (((all.head?).map Change.second).getD 0)
    let stop := all.foldl (fun n c => max n (c.second + c.inserted)) 0
    let common : Lines := ⟨start, stop⟩
    let first := linesAt x (i, k) common
    let second := linesAt y (j, k) common
    let odd : Odd :=
      if x = [] then .file 1
      else if y = [] then .file 0
      else if first.of a = second.of b then .file 2
      else .none
    ⟨[first, second, common], odd⟩ :: threefold a b (first.stop, second.stop, stop) rest

/-- One of some files. -/
def sideOf (files : List Side) (n : Nat) : Side := (files[n]?).getD ⟨#[]⟩

/-- Three files, of which the second or the third one is common to both comparisons, with the changes of the other ones
against it. -/
structure Trio where
  files : List Side
  common : Nat
  changes : List Change
  otherChanges : List Change

/-- The file that is neither the first nor the common one. -/
def otherThan (common : Nat) : Nat := 3 - common

/-- Compares three files. -/
def Trio.of (files : List Side) (common : Nat) : Trio :=
  let otherChanges := changesOf id false 10 (sideOf files (otherThan common)) (sideOf files common)
  let margin := otherChanges.foldl (fun n c => max n (max c.deleted c.inserted)) 10
  ⟨files, common, changesOf id false margin (sideOf files 0) (sideOf files common), otherChanges⟩

/-- How often a comparison tells of lines without an end. -/
def Trio.unended (t : Trio) : Nat :=
  let isOpen (lines : List String) : Bool := (lines.getLast?).any fun s => !s.endsWith "\n"
  let count (file : Nat) (changes : List Change) : Nat :=
    changes.foldl (fun n c =>
      n + (if isOpen ((sideOf t.files file).part c.first c.deleted) then 1 else 0)
        + (if isOpen ((sideOf t.files t.common).part c.second c.inserted) then 1 else 0)) 0
  count (otherThan t.common) t.otherChanges + count 0 t.changes

/-- The places at which three files differ. -/
def Trio.places (t : Trio) : List Threefold :=
  let other := otherThan t.common
  let found := threefold (sideOf t.files 0) (sideOf t.files other) (0, 0, 0)
    (gathered (t.changes.length + t.otherChanges.length + 1) t.changes t.otherChanges)
  -- The files are put back in their order.
  let number (n : Nat) : Nat := if n = 1 then other else if n = 2 then t.common else 0
  found.map fun p =>
    let lines (n : Nat) : Lines := p.linesOf (if n = other then 1 else if n = t.common then 2 else 0)
    let odd : Odd := match p.odd with
      | .none => .none
      | .file n => .file (number n)
    ⟨[lines 0, lines 1, lines 2], odd⟩

/-! ## Reports -/

/-- How places are told or merged. -/
structure Merging where
  labels : List String
  /-- Whether the second file is shown where files differ. -/
  showsSecond : Bool
  /-- Whether places that changed in both ways are marked. -/
  marks : Bool
  /-- Whether only places that changed in both ways count, or only those that did not. -/
  onlyOverlaps : Bool
  onlySimple : Bool
  startsWithTab : Bool
  /-- Whether a script ends by writing the file. -/
  saves : Bool

namespace Merging

/-- The label of a file. -/
def label (m : Merging) (file : Nat) : String := (m.labels[file]?).getD ""

/-- What is done about a place: whether it is marked, if it counts. -/
def conflict? (m : Merging) (t : Threefold) : Option Bool :=
  match t.odd with
  | .file 1 => if m.showsSecond then some true else none
  | .file 2 => if m.onlyOverlaps then none else some false
  | .none => if m.onlySimple then none else some m.marks
  | .file _ => none

/-- Lines that may have no end. -/
def joined (lines : List String) : String := String.join lines

/-- What is told about a place. -/
def told (m : Merging) (files : List Side) (t : Threefold) : String :=
  let own (n : Nat) : String :=
    let l := t.linesOf n
    let place :=
      if l.count = 0 then toString l.start ++ "a"
      else if l.count = 1 then toString l.stop ++ "c"
      else toString (l.start + 1) ++ "," ++ toString l.stop ++ "c"
    let isHidden : Bool := match t.odd with
      | .none => false
      | .file 0 => n == 1
      | .file _ => n == 0
    let lines := l.of (sideOf files n)
    let missing := if (lines.getLast?.map fun s => s.endsWith "\n").getD true then "" else "\n\\ No newline at end of file\n"
    toString (n + 1) ++ ":" ++ place ++ "\n" ++
      if isHidden then ""
      else joined (lines.map fun s => (if m.startsWithTab then "\t" else "  ") ++ s) ++ missing
  let (sign, order) := match t.odd with
    | .none => ("", [0, 1, 2])
    | .file n => (toString (n + 1), if n = 1 then [0, 2, 1] else [0, 1, 2])
  "====" ++ sign ++ "\n" ++ joined (order.map own)

/-- Lines for an editor, of which a point alone ends them: points at their beginnings are doubled. -/
def dotted (lines : List String) : String × Bool :=
  (joined (lines.map fun s => if s.startsWith "." then "." ++ s else s), lines.any fun s => s.startsWith ".")

/-- The end of lines for an editor, which takes doubled points back. -/
def undotted (hasPoint : Bool) (start count : Nat) : String :=
  ".\n" ++
    if ¬ hasPoint then ""
    else if count = 1 then toString start ++ "s/^\\.//\n"
    else toString start ++ "," ++ toString (start + count - 1) ++ "s/^\\.//\n"

/-- The commands for a place. -/
def commandsFor (m : Merging) (files : List Side) (t : Threefold) (conflict : Bool) : String :=
  let lines (n : Nat) : List String := (t.linesOf n).of (sideOf files n)
  let own := t.linesOf 0
  let second := dotted (lines 1)
  let third := dotted (lines 2)
  let count (n : Nat) : Nat := (t.linesOf n).count
  if conflict then
    let isAll := t.odd == .none
    let shown := isAll && m.showsSecond
    toString own.stop ++ "a\n"
      ++ (if shown then "||||||| " ++ m.label 1 ++ "\n" ++ second.1 else "")
      ++ (if isAll then "=======\n" ++ third.1 else "")
      ++ ">>>>>>> " ++ m.label 2 ++ "\n"
      ++ undotted ((shown && second.2) || (isAll && third.2)) (own.stop + 2) (count 1 + count 2 + 1)
      ++ toString own.start ++ "a\n<<<<<<< " ++ (if isAll then m.label 0 else m.label 1) ++ "\n"
      ++ (if isAll then "" else second.1 ++ "=======\n")
      ++ undotted (!isAll && second.2) (own.start + 2) (count 1)
  else if count 2 = 0 then
    (if own.count = 1 then toString own.stop else toString (own.start + 1) ++ "," ++ toString own.stop) ++ "d\n"
  else
    (if own.count = 0 then toString own.stop ++ "a\n"
      else if own.count = 1 then toString own.stop ++ "c\n"
      else toString (own.start + 1) ++ "," ++ toString own.stop ++ "c\n")
      ++ third.1 ++ undotted third.2 (own.start + 1) (count 2)

/-- The script that merges the changes, the last one first. -/
def script (m : Merging) (files : List Side) (places : List Threefold) : String × Bool :=
  let counted := places.reverse.filterMap fun t => (m.conflict? t).map fun conflict => (t, conflict)
  (joined (counted.map fun (t, conflict) => m.commandsFor files t conflict) ++ (if m.saves then "w\nq\n" else ""),
    counted.any Prod.snd)

/-- The first file from a line on with the changes merged. -/
def merged (m : Merging) (files : List Side) : Nat → List Threefold → String × Bool
  | i, [] =>
    let side := sideOf files 0
    (joined (side.part i (side.lines.size - i)), false)
  | i, t :: rest =>
    match m.conflict? t with
    | none => merged m files i rest
    | some conflict =>
      let lines (n : Nat) : String := joined ((t.linesOf n).of (sideOf files n))
      let own := t.linesOf 0
      let before := joined ((sideOf files 0).part i (own.start - i))
      let isAll := t.odd == .none
      let marked :=
        if ¬ conflict then ""
        else (if isAll then "<<<<<<< " ++ m.label 0 ++ "\n" ++ lines 0 else "")
          ++ (if m.showsSecond then (if isAll then "||||||| " else "<<<<<<< ") ++ m.label 1 ++ "\n" ++ lines 1 else "")
          ++ "=======\n"
      let (text, found) := merged m files own.stop rest
      (before ++ marked ++ lines 2 ++ (if conflict then ">>>>>>> " ++ m.label 2 ++ "\n" else "") ++ text, conflict || found)

end Merging

/-! ## Programs -/

/-- The options of a comparison of three files. -/
def knownOfThree : List Known :=
  [flag "a" "text", flag "A" "show-all", flag "e" "ed", flag "E" "show-overlap", flag "x" "overlap-only", flag "X",
    flag "3" "easy-only", flag "i", taking "L" "label", flag "m" "merge", flag "T" "initial-tab", word "strip-trailing-cr",
    wordTaking "diff-program"]

/-- Compares three files. -/
def diff3 (args : List String) : Tool Nat := do
  let g ← Options.read { known := knownOfThree, status := 2, usage := some (usage "diff3") } args
  let kinds := (g.options.filter fun (k, _) => ["A", "e", "E", "x", "X", "3"].contains k).length
  let merges := g.has "m"
  let scripts := kinds ≠ 0 ∧ ¬ merges
  let whole := kinds = 0 ∧ merges
  let marks := g.has "A" || g.has "E" || whole
  if 3 < (g.all "L").length then wrong "too many file label options"
  if 1 < kinds ∨ (g.has "i" ∧ merges) ∨ (g.has "L" ∧ ¬ marks) then wrong "incompatible options"
  match g.operands with
  | [x, y, z] =>
    let names := [x, y, z]
    let usual := if scripts ∨ merges then 1 else 2
    let common := if names[usual]? = some "-" then 3 - usual else usual
    if common ≠ usual ∧ (x = "-" ∨ names[common]? = some "-") then
      Tool.fail 2 "'-' specified for more than one input file"
    for name in names do
      if name ≠ "-" then
        match ← Making.known true name with
        | .error r => Tool.fail 2 (name ++ ": " ++ r.message)
        | .ok (_, i) => if i.kind = .directory then Tool.fail 2 (name ++ ": " ++ Refusal.isDirectory.message)
    let other := otherThan common
    let nameOf (n : Nat) : String := (names[n]?).getD ""
    let read (n : Nat) : Tool ByteArray := do
      match ← Tool.contentOf (nameOf n) with
      | .ok bytes => return bytes
      | .error r => Tool.fail 2 (nameOf n ++ ": " ++ r.message)
    -- The other file is compared first.
    let second ← read other
    let shared ← read common
    let first ← read 0
    let isBinary (b : ByteArray) : Bool := !g.has "a" && b.toList.contains 0
    for (n, bytes) in [(other, second), (0, first)] do
      if (isBinary bytes ∨ isBinary shared) ∧ bytes.data ≠ shared.data then
        Tool.note ("diff3: diff failed: Binary files " ++ nameOf n ++ " and " ++ nameOf common ++ " differ\n")
        throw 2
    let strip (s : String) : String :=
      if g.has "strip-trailing-cr" ∧ s.endsWith "\r\n" then (s.dropEnd 2).toString ++ "\n" else s
    let side (b : ByteArray) : Side := ⟨(linesOf b).map strip⟩
    let files := [side first] ++ if common = 1 then [side shared, side second] else [side second, side shared]
    let trio := Trio.of files common
    let places := trio.places
    let m : Merging :=
      { labels := g.all "L" ++ names.drop (g.all "L").length, showsSecond := g.has "A" || whole, marks
        onlyOverlaps := g.has "x" || g.has "X", onlySimple := g.has "3", startsWithTab := g.has "T", saves := g.has "i" }
    if merges ∧ x = "-" then
      Tool.fail 2 ("failed to reopen " ++ Quoting.local_ "-" ++ " with mode " ++ Quoting.local_ "r" ++ ": "
        ++ Refusal.noEntry.message)
    let ended (s : Side) : Side := ⟨s.lines.map fun l => if l.endsWith "\n" then l else l ++ "\n"⟩
    if scripts then Tool.note (String.join (List.replicate trio.unended "diff3: No newline at end of file\n"))
    let (text, conflicts) :=
      if scripts then m.script (files.map ended) places
      else if merges then m.merged files 0 places
      else (String.join (places.map (m.told files)), false)
    Tool.emit text
    return if conflicts then 1 else 0
  | _ :: _ :: _ :: extra :: _ => wrong ("extra operand '" ++ extra ++ "'")
  | _ => wrong ("missing operand after '" ++ args.getLast?.getD (← Tool.name) ++ "'")

/-! ## Merging by hand -/

/-- The options of a comparison side by side. -/
def knownBeside : List Known :=
  [flag "a" "text", flag "b" "ignore-space-change", flag "B" "ignore-blank-lines", flag "d" "minimal",
    wordTaking "diff-program", flag "E" "ignore-tab-expansion", flag "H" "speed-large-files", flag "i" "ignore-case",
    taking "I" "ignore-matching-lines", flag "l" "left-column", taking "o" "output", flag "s" "suppress-common-lines",
    flag "t" "expand-tabs", wordTaking "tabsize", taking "w" "width", flag "W" "ignore-all-space",
    flag "Z" "ignore-trailing-space", word "strip-trailing-cr"]

/-- An option as the comparison knows it. -/
def besideOption : String × Option String → List String
  | ("l", _) => ["--left-column"]
  | ("w", value) => ["-W", value.getD ""]
  | ("W", _) => ["-w"]
  | ("I", value) => ["-I", value.getD ""]
  | ("tabsize", value) => ["--tabsize", value.getD ""]
  | ("strip-trailing-cr", _) => ["--strip-trailing-cr"]
  | ("o", _) | ("s", _) | ("diff-program", _) => []
  | (key, _) => ["-" ++ key]

/-- The commands that may be given while files are merged. -/
def besideHelp : String :=
  "ed:\tEdit then use both versions, each decorated with a header.\neb:\tEdit then use both versions.\n"
    ++ "el or e1:\tEdit then use the left version.\ner or e2:\tEdit then use the right version.\n"
    ++ "e:\tDiscard both versions then edit a new one.\nl or 1:\tUse the left version.\nr or 2:\tUse the right version.\n"
    ++ "s:\tSilently include common lines.\nv:\tVerbosely include common lines.\nq:\tQuit.\n"

/-- What is chosen at a place. -/
inductive Choice where
  | left
  | right
  | quit

/-- Asks what to take at a place: the choice, and whether common lines are shown from now on. -/
def choose : Nat → Bool → Tool (Choice × Bool)
  | 0, shows => return (.quit, shows)
  | n + 1, shows => do
    Tool.emit "%"
    Tool.flush
    match ← Proc.readThrough 0 10 with
    | .error _ => return (.quit, shows)
    | .ok bytes =>
      if bytes.isEmpty then return (.quit, shows)
      let word := String.ofList ((Text.Octets.ofBytes bytes).toList.filter fun c => !(c == ' ' || ('\t' ≤ c && c ≤ '\r')))
      match word with
      | "l" | "1" => return (.left, shows)
      | "r" | "2" => return (.right, shows)
      | "s" => choose n false
      | "v" => choose n true
      | "q" => return (.quit, shows)
      | "e" | "e1" | "e2" | "eb" | "ed" | "el" | "er" =>
        let editor := (← Tool.setting "EDITOR").getD "ed"
        Tool.fail 2 ("subsidiary program '" ++ editor ++ "' not found")
      | _ =>
        Tool.note besideHelp
        choose n shows

/-- Merges what is shown, asking at every place: what has been merged, and whether all of it is. -/
def mergeBeside : Bool → List Look.Piece → Tool (String × Bool)
  | _, [] => return ("", true)
  | shows, p :: rest => do
    if shows ∨ p.differs then Tool.emit p.text
    if ¬ p.differs then
      let (text, all) ← mergeBeside shows rest
      return (String.join p.left ++ text, all)
    let (choice, shows) ← choose Proc.endless shows
    match choice with
    | .quit => return ("", false)
    | .left | .right =>
      let (text, all) ← mergeBeside shows rest
      let taken := match choice with
        | .left => p.left
        | _ => p.right
      return (String.join taken ++ text, all)

/-- Compares two files side by side, and merges them if that is asked for. -/
def sdiff (args : List String) : Tool Nat := do
  let g ← Options.read { known := knownBeside, status := 2, usage := some (usage "sdiff") } args
  match g.operands with
  | [x, y] =>
    let options := g.options.flatMap besideOption
    match g.last? "o" with
    | none =>
      modify fun s => { s with zero := "diff" }
      diff (options ++ (if g.has "s" then ["--suppress-common-lines"] else []) ++ ["-y", "--", x, y])
    | some output =>
      let read (path : String) : Tool ByteArray := do
        match ← Tool.contentOf path with
        | .ok bytes => return bytes
        | .error r => Tool.fail 2 (path ++ ": " ++ r.message)
      let a : Side := ⟨linesOf (← read x)⟩
      let b : Side := ⟨linesOf (← read y)⟩
      if let .error r := ← Tool.writeFile { writes := true, create := true, truncate := true } output ByteArray.empty then
        Tool.fail 2 (output ++ ": " ++ r.message)
      let (_, s) ← settingsOf (options ++ ["-y"])
      let changes := (s.changes a b).filter fun c => !s.look.isIdle a b c
      let (text, all) ← mergeBeside (!g.has "s") (s.look.pieces a b 0 0 changes)
      discard <| Tool.writeFile { writes := true, create := true, truncate := true } output (Text.Octets.toBytes text)
      return if ¬ all then 2 else if changes = [] then 0 else 1
  | _ :: _ :: extra :: _ => wrong ("extra operand '" ++ extra ++ "'")
  | _ => wrong ("missing operand after '" ++ args.getLast?.getD (← Tool.name) ++ "'")

end TaskRunner.Tools.Differences
