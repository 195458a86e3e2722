import TaskRunner.Regex.Reader
import TaskRunner.Text.Locale
import TaskRunner.Tools.Differences.Script

/-!
# How changes are written

Changes are written as they are, with lines around them, as commands that make them, or with both files side by side.
-/

namespace TaskRunner.Tools.Differences

/-- How changes are written. -/
inductive Style where
  | normal
  | context
  | unified
  /-- Commands for an editor, the last change first. -/
  | commands
  /-- Commands in the order of the lines. -/
  | inOrder
  /-- Commands that count lines. -/
  | counted
  | besides
  deriving DecidableEq

/-- Whether a style can say that the last line has no end. -/
def Style.isRobust (s : Style) : Bool := s != commands && s != inOrder

/-- How a report looks. -/
structure Look where
  style : Style
  /-- How many lines stand around changes. -/
  around : Nat
  expands : Bool
  /-- How far tabs are from each other. -/
  tab : Nat
  startsWithTab : Bool
  width : Nat
  leftOnly : Bool
  hidesCommon : Bool
  /-- Lines that headings repeat. -/
  heading : Option Regex
  /-- Whether changes of blank lines do not count. -/
  skipsBlank : Bool
  /-- Whether lines of blanks are blank lines. -/
  skipsBlanks : Bool
  /-- Changes of such lines do not count. -/
  skips : Option Regex
  locale : Text.Locale

/-- A file with its lines, which have their ends. -/
structure Side where
  lines : Array String

namespace Side

/-- A line. -/
def line (s : Side) (i : Nat) : String := s.lines[i]!

/-- Some lines. -/
def part (s : Side) (start count : Nat) : List String := (List.range count).map fun i => s.line (start + i)

end Side

/-! ## Lines -/

/-- Puts blanks in the place of tabs. -/
def expanded (tab : Nat) : Nat → List Char → List Char
  | _, [] => []
  | column, '\t' :: rest =>
    let count := tab - column % tab
    List.replicate count ' ' ++ expanded tab (column + count) rest
  | column, '\x08' :: rest => '\x08' :: expanded tab (column - 1) rest
  | _, '\r' :: rest => '\r' :: expanded tab 0 rest
  | column, c :: rest => c :: expanded tab (if c < ' ' ∨ c = '\x7f' then column else column + 1) rest

namespace Look

/-- The text of a line. -/
def textOf (o : Look) (s : String) : String := if o.expands then String.ofList (expanded o.tab 0 s.toList) else s

/-- What is said after a line without an end. -/
def endOf (s : String) : String := if s.endsWith "\n" then "" else "\n\\ No newline at end of file\n"

/-- A line after a sign. -/
def line (o : Look) (sign s : String) : String :=
  sign ++ (if o.startsWithTab then "\t" else " ") ++ o.textOf s ++ endOf s

/-- A line that both sides have. -/
def plainLine (o : Look) (s : String) : String := (if o.startsWithTab then "\t" else " ") ++ o.textOf s ++ endOf s

/-- A line right after a sign. -/
def tightLine (o : Look) (sign s : String) : String :=
  sign ++ (if o.startsWithTab ∧ s ≠ "\n" then "\t" else "") ++ o.textOf s ++ endOf s

/-! ## Changes -/

/-- Whether a change does not count. -/
def isIdle (o : Look) (a b : Side) (c : Change) : Bool :=
  let isBlank (s : String) : Bool :=
    let cs := s.toList.filter (· != '\n')
    o.skipsBlank && (cs.isEmpty || (o.skipsBlanks && cs.all fun c => c == ' ' || ('\t' ≤ c && c ≤ '\r')))
  let isSkipped (s : String) : Bool :=
    match o.skips with
    | some r =>
      let s := if s.endsWith "\n" then (s.dropEnd 1).toString else s
      (r.search (Regex.Subject.ofList (o.locale.characters s) false) false 0).isSome
    | none => false
  (o.skipsBlank || o.skips.isSome) &&
    (a.part c.first c.deleted ++ b.part c.second c.inserted).all fun s => isBlank s || isSkipped s

/-- Some lines as two numbers, the last one if they are one or none. -/
def range (separator : String) (start count : Nat) : String :=
  if count ≤ 1 then toString (start + count)
  else toString (start + 1) ++ separator ++ toString (start + count)

/-- The letter of a change. -/
def letter (c : Change) : String :=
  if c.deleted = 0 then "a" else if c.inserted = 0 then "d" else "c"

/-- A change as it is. -/
def normal (o : Look) (a b : Side) (c : Change) : String :=
  range "," c.first c.deleted ++ letter c ++ range "," c.second c.inserted ++ "\n"
    ++ String.join ((a.part c.first c.deleted).map (o.line "<"))
    ++ (if c.deleted = 0 ∨ c.inserted = 0 then "" else "---\n")
    ++ String.join ((b.part c.second c.inserted).map (o.line ">"))

/-- Lines for an editor that ends with a point; a line that is only a point is made from two. -/
def typed : Bool → List String → String
  | inserting, [] => if inserting then ".\n" else ""
  | inserting, s :: rest =>
    (if inserting then "" else "a\n") ++
      if s = ".\n" then "..\n.\ns/.//\n" ++ typed false rest else s ++ typed true rest

/-- A change as a command. -/
def command (b : Side) (c : Change) : String :=
  range "," c.first c.deleted ++ letter c ++ "\n"
    ++ if c.inserted = 0 then "" else typed true (b.part c.second c.inserted)

/-- A change as a command that begins with its letter. -/
def commandInOrder (b : Side) (c : Change) : String :=
  letter c ++ range " " c.first c.deleted ++ "\n"
    ++ if c.inserted = 0 then "" else String.join (b.part c.second c.inserted) ++ ".\n"

/-- A change as commands that count lines. -/
def commandCounted (b : Side) (c : Change) : String :=
  (if c.deleted = 0 then "" else "d" ++ toString (c.first + 1) ++ " " ++ toString c.deleted ++ "\n")
    ++ if c.inserted = 0 then ""
      else "a" ++ toString (c.first + c.deleted) ++ " " ++ toString c.inserted ++ "\n"
        ++ String.join (b.part c.second c.inserted)

/-! ## Changes with lines around them -/

/-- Changes that are near to each other, together; told of each whether it counts. -/
def grouped (o : Look) : List (Change × Bool) → List (List Change)
  | [] => []
  | (c, idle) :: rest =>
    match rest, grouped o rest with
    | (next, nextIdle) :: _, group :: groups =>
      let far := if idle || nextIdle then o.around else 2 * o.around + 1
      if next.first - (c.first + c.deleted) < far then (c :: group) :: groups else [c] :: group :: groups
    | _, groups => [c] :: groups

/-- The lines that are shown of a side for changes. -/
structure Span where
  start : Nat
  count : Nat

/-- The lines that are shown of both sides. -/
def spans (o : Look) (a b : Side) (group : List Change) : Span × Span :=
  match group, group.getLast? with
  | first :: _, some last =>
    let span (s : Side) (start stop : Nat) : Span :=
      let from_ := start - o.around
      ⟨from_, min s.lines.size (stop + o.around) - from_⟩
    (span a first.first (last.first + last.deleted), span b first.second (last.second + last.inserted))
  | _, _ => (⟨0, 0⟩, ⟨0, 0⟩)

/-- The last line before a place that headings repeat. -/
def headingFor (o : Look) (a : Side) (place : Nat) : String :=
  match o.heading with
  | none => ""
  | some r =>
    let found := (List.range place).reverse.find? fun i =>
      let cs := (o.locale.characters (a.line i)).filter (· != '\n')
      (r.search (Regex.Subject.ofList cs false) false 0).isSome
    match found with
    | none => ""
    | some i =>
      let isBlank (c : Char) : Bool := c == ' ' || ('\t' ≤ c && c ≤ '\r')
      let cs := ((a.line i).toList.dropWhile fun c => isBlank c && c != '\n').takeWhile (· != '\n')
      " " ++ String.ofList ((cs.take 40).reverse.dropWhile isBlank).reverse

/-- Lines from a place on with the changes between them. -/
def unifiedLines (o : Look) (a b : Side) : Nat → Nat → Nat → List Change → String
  | 0, _, _, _ => ""
  | n + 1, i, stop, group =>
    match group with
    | c :: rest =>
      if i < c.first then o.plainLine (a.line i) ++ unifiedLines o a b n (i + 1) stop group
      else
        String.join ((a.part c.first c.deleted).map (o.tightLine "-"))
          ++ String.join ((b.part c.second c.inserted).map (o.tightLine "+"))
          ++ unifiedLines o a b n (c.first + c.deleted) stop rest
    | [] =>
      if i < stop then o.plainLine (a.line i) ++ unifiedLines o a b n (i + 1) stop []
      else ""

/-- Changes with lines around them, both sides in one. -/
def unified (o : Look) (a b : Side) (group : List Change) : String :=
  let (x, y) := o.spans a b group
  let numbers (s : Span) : String :=
    if s.count = 0 then toString s.start ++ ",0"
    else if s.count = 1 then toString (s.start + 1)
    else toString (s.start + 1) ++ "," ++ toString s.count
  "@@ -" ++ numbers x ++ " +" ++ numbers y ++ " @@" ++ o.headingFor a x.start ++ "\n"
    ++ unifiedLines o a b (x.count + y.count + group.length + 1) x.start (x.start + x.count) group

/-- Changes with lines around them, one side after the other. -/
def context (o : Look) (a b : Side) (group : List Change) : String :=
  let (x, y) := o.spans a b group
  let lines (s : Side) (span : Span) (start count : Change → Nat) (alone : String) (other : Change → Nat) : String :=
    String.join <| (List.range span.count).map fun k =>
      let i := span.start + k
      let sign := match group.find? fun c => start c ≤ i && i < start c + count c with
        | some c => if other c = 0 then alone else "!"
        | none => " "
      o.line sign (s.line i)
  "***************" ++ o.headingFor a x.start ++ "\n*** " ++ range "," x.start x.count ++ " ****\n"
    ++ (if group.any fun c => c.deleted ≠ 0 then lines a x Change.first Change.deleted "-" Change.inserted else "")
    ++ "--- " ++ range "," y.start y.count ++ " ----\n"
    ++ (if group.any fun c => c.inserted ≠ 0 then lines b y Change.second Change.inserted "+" Change.deleted else "")

/-! ## Both files side by side -/

/-- Blanks, or tabs and blanks, from one column to another. -/
def gap (o : Look) : Nat → Nat → Nat → String
  | 0, _, _ => ""
  | n + 1, from_, dest =>
    let stop := from_ + o.tab - from_ % o.tab
    if ¬ o.expands ∧ stop ≤ dest then "\t" ++ gap o n stop dest
    else String.ofList (List.replicate (dest - from_) ' ')

/-- A half of a line that is being written. -/
structure Half where
  /-- What has been written. -/
  text : String
  /-- The column that the line has been read to, from its own beginning. -/
  column : Nat
  /-- The column that has been written to. -/
  out : Nat

/-- A half with one more character of a line: as long as there is room, it is written. -/
def Half.push (o : Look) (room indent : Nat) (h : Half) (c : Char) : Half :=
  let write (h : Half) : Half := { h with text := h.text ++ Text.Octets.ofChar c }
  match c with
  | '\t' =>
    let count := o.tab - h.column % o.tab
    let passed := { h with column := h.column + count }
    if h.column ≠ h.out then passed
    else if o.expands then
      let stop := min (h.out + count) (max h.out room)
      { passed with text := h.text ++ String.ofList (List.replicate (stop - h.out) ' '), out := stop }
    else if h.out + count < room then { write passed with out := h.out + count }
    else passed
  | '\r' => ⟨h.text ++ "\r" ++ gap o (indent + 1) 0 indent, 0, 0⟩
  | '\x08' =>
    if h.column = 0 then h
    else
      let back := { h with column := h.column - 1 }
      if room ≤ back.column then back
      else if back.out ≤ back.column then
        { back with text := h.text ++ String.ofList (List.replicate (back.column - back.out) ' '), out := back.column }
      else { write back with out := back.column }
  | c =>
    if (Text.Octets.byte? c).isSome ∨ c = '\x0b' ∨ c = '\x0c' then if h.column < room then write h else h
    else
      let h := { h with column := h.column + (Text.width? c).getD 0 }
      if h.column ≤ room then { write h with out := h.column } else h

/-- As much of a line as there is room for, and the column after it; the line begins after an indentation. -/
def half (o : Look) (room indent : Nat) (line : String) : String × Nat :=
  let cs := (o.locale.characters line).takeWhile (· != '\n')
  let h := cs.foldl (Half.push o room indent) ⟨"", 0, 0⟩
  (h.text, h.out)

/-- The room of a half, and the column of the second one. -/
def halves (o : Look) : Nat × Nat :=
  let tab := if o.expands then 1 else o.tab
  let more := tab + 3
  let loose := o.width / 2 + more / 2 + (if o.width % 2 = 1 ∧ more % 2 = 1 then 1 else 0)
  let second := loose - loose % tab
  let room := min (second - 3) (o.width - second)
  (room, if room = 0 then o.width else second)

/-- A line of both sides, with a sign between them. -/
def pair (o : Look) (left : Option String) (sign : Char) (right : Option String) : String :=
  let (room, second) := o.halves
  let ends (s : Option String) : Bool := s.any fun s => s.endsWith "\n"
  let (first, column) := match left with
    | some s => o.half room 0 s
    | none => ("", 0)
  let sign := if sign = '|' ∧ ends left ≠ ends right then (if ends left then '/' else '\x5c') else sign
  let middle := (room + second - 1) / 2
  let (between, column) :=
    if sign = ' ' then ("", column) else (o.gap (middle + 1) column middle ++ String.singleton sign, middle + 1)
  let rest := match right with
    | some s => if s.startsWith "\n" then "" else o.gap (second + 1) column second ++ (o.half room (max column second) s).1
    | none => ""
  first ++ between ++ rest ++ if ends left || ends right then "\n" else ""

/-- Lines that both sides have, up to places. -/
def common (o : Look) (a b : Side) (i j stop stop' : Nat) : String :=
  if o.hidesCommon then ""
  else if o.leftOnly then String.join ((a.part i (stop - i)).map fun s => o.pair (some s) '(' none)
  else
    let both := min (stop - i) (stop' - j)
    String.join (((a.part i both).zip (b.part j both)).map fun (s, t) => o.pair (some s) ' ' (some t))
      ++ String.join ((b.part (j + both) (stop' - j - both)).map fun t => o.pair none ')' (some t))
      ++ String.join ((a.part (i + both) (stop - i - both)).map fun s => o.pair (some s) '(' none)

/-- Lines of both sides as they are shown together. -/
structure Piece where
  /-- Whether the lines differ. -/
  differs : Bool
  text : String
  left : List String
  right : List String

/-- Both sides from places on, piece by piece. -/
def pieces (o : Look) (a b : Side) : Nat → Nat → List Change → List Piece
  | i, j, [] =>
    let piece := commonPiece o i j a.lines.size b.lines.size
    if piece.left = [] ∧ piece.right = [] then [] else [piece]
  | i, j, c :: rest =>
    let before := commonPiece o i j c.first c.second
    let both := min c.deleted c.inserted
    let text := String.join (((a.part c.first both).zip (b.part c.second both)).map fun (s, t) => o.pair (some s) '|' (some t))
      ++ String.join ((b.part (c.second + both) (c.inserted - both)).map fun t => o.pair none '>' (some t))
      ++ String.join ((a.part (c.first + both) (c.deleted - both)).map fun s => o.pair (some s) '<' none)
    (if before.left = [] ∧ before.right = [] then [] else [before])
      ++ ⟨true, text, a.part c.first c.deleted, b.part c.second c.inserted⟩
      :: pieces o a b (c.first + c.deleted) (c.second + c.inserted) rest
where
  /-- The lines that both sides have, up to places. -/
  commonPiece (o : Look) (i j stop stop' : Nat) : Piece :=
    ⟨false, o.common a b i j stop stop', a.part i (stop - i), b.part j (stop' - j)⟩

/-- Both sides. -/
def besides (o : Look) (a b : Side) (changes : List Change) : String :=
  String.join ((o.pieces a b 0 0 changes).map Piece.text)

/-! ## Reports -/

/-- The report of changes. -/
def report (o : Look) (a b : Side) (changes : List Change) : String :=
  let counted := changes.filter fun c => !o.isIdle a b c
  match o.style with
  | .normal => String.join (counted.map (o.normal a b))
  | .commands => String.join (counted.reverse.map (command b))
  | .inOrder => String.join (counted.map (commandInOrder b))
  | .counted => String.join (counted.map (commandCounted b))
  | .unified | .context =>
    let groups := (o.grouped (changes.map fun c => (c, o.isIdle a b c))).filter fun g => g.any fun c => !o.isIdle a b c
    String.join (groups.map fun g => if o.style = .unified then o.unified a b g else o.context a b g)
  | .besides => o.besides a b counted

end Look

end TaskRunner.Tools.Differences
