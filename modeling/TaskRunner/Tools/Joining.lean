import TaskRunner.Tools.Fields

/-!
# Files in order

Programs that read two files side by side whose lines are in order: one puts together the lines that have a field in
common, the other tells which lines are in both. That a line comes too early is noticed when it is read, and as long as
every line has had a partner nothing is said about it.
-/

namespace TaskRunner.Tools.Joining

open Processes

/-- Whether the order of lines is looked at. -/
inductive Scrutiny where
  /-- Once a line was found without a partner. -/
  | later
  | always
  | never
  deriving DecidableEq

/-- The scrutiny that options ask for. -/
def Scrutiny.of (g : Given) : Scrutiny := match g.lastOf? ["check-order", "nocheck-order"] with
  | some "check-order" => .always
  | some _ => .never
  | none => .later

/-- A line and its fields. -/
structure Row where
  text : String
  fields : List String

/-- A file that is read line by line. -/
structure Source where
  name : String
  /-- The lines that have not been taken. -/
  rest : List String
  /-- How many have been taken. -/
  taken : Nat := 0
  /-- The one that was taken last. -/
  last : Option Row := none
  /-- The one that was taken before it. -/
  former : Option Row := none
  /-- Whether it has been said that they are not in order. -/
  told : Bool := false

/-- Compares two texts byte by byte. -/
def compareTexts (a b : String) : Ordering := compareOfLessAndEq a b

/-- Complains about a line that comes too early; `wrong` is what is said, and it is the end if the order is always looked
at. -/
def complain (scrutiny : Scrutiny) (wrong : String) (s : Source) : Tool Source := do
  if scrutiny = .always then Tool.fail 1 wrong
  Tool.say wrong
  return { s with told := true }

/-- Stops if it was said of a file that it is not in order. -/
def conclude (a b : Source) : Tool Nat := do
  if a.told || b.told then Tool.fail 1 "input is not in sorted order"
  return 0

/-! ## Lines of both -/

/-- What is written of the lines of two files. -/
structure Columns where
  first : Bool
  second : Bool
  both : Bool
  separator : String
  ending : Char
  scrutiny : Scrutiny

/-- Writes a line in a column. -/
def Columns.write (c : Columns) (column : Ordering) (line : String) : Tool Unit := do
  let lead : String := match column with
    | .lt => ""
    | .gt => if c.first then c.separator else ""
    | .eq => (if c.first then c.separator else "") ++ if c.second then c.separator else ""
  let wanted : Bool := match column with
    | .lt => c.first
    | .gt => c.second
    | .eq => c.both
  if wanted then Tool.emit ((lead ++ line).push c.ending)

/-- Complains if a line comes before another one that was read earlier. -/
def Columns.check (c : Columns) (lonely : Bool) (number : Nat) (s : Source) (a b : Option Row) : Tool Source := do
  match a, b with
  | some a, some b =>
    if (c.scrutiny = .always ∨ (c.scrutiny = .later ∧ lonely)) ∧ ¬ s.told ∧ b.text < a.text then
      complain c.scrutiny ("file " ++ toString number ++ " is not in sorted order") s
    else return s
  | _, _ => return s

/-- Takes the next line. At the end the last two are looked at again, since a line without a partner may have been found in
between. -/
def Columns.step (c : Columns) (lonely : Bool) (number : Nat) (s : Source) : Tool Source := do
  match s.rest with
  | line :: rest =>
    let row : Row := ⟨line, []⟩
    c.check lonely number { s with rest, last := some row, former := s.last } s.last (some row)
  | [] => c.check lonely number s s.former s.last

/-- Writes the lines of both files in their order: how many there were in each column. -/
def Columns.run (c : Columns) : Nat → Bool → Source → Source → Option String → Option String → Nat × Nat × Nat →
    Tool (Source × Source × (Nat × Nat × Nat))
  | 0, _, a, b, _, _, counts => return (a, b, counts)
  | n + 1, lonely, a, b, x, y, (one, two, three) => do
    Proc.step
    let order? : Option (Ordering × String) := match x, y with
      | none, none => none
      | some x, none => some (.lt, x)
      | none, some y => some (.gt, y)
      | some x, some y => some (compareTexts x y, if y < x then y else x)
    match order? with
    | none => return (a, b, (one, two, three))
    | some (order, line) =>
      c.write order line
      let lonely := lonely || order != .eq
      let (x, a) ← if order = .gt then pure (x, a) else pure (a.rest.head?, ← c.step lonely 1 a)
      let (y, b) ← if order = .lt then pure (y, b) else pure (b.rest.head?, ← c.step lonely 2 b)
      c.run n lonely a b x y (match order with
        | .lt => (one + 1, two, three)
        | .gt => (one, two + 1, three)
        | .eq => (one, two, three + 1))

/-- A file, and its first line. -/
def beginning (name : String) (lines : List String) : Source × Option String :=
  ({ name, rest := lines.drop 1, last := lines.head?.map fun l => ⟨l, []⟩ }, lines.head?)

/-- Two paths; `quoted` is how one too many is shown. -/
def pathsOf (quoted : String → String) (operands : List String) : Tool (String × String) :=
  match operands with
  | [a, b] => pure (a, b)
  | _ :: _ :: extra :: _ => Tool.misuse 1 ("extra operand " ++ quoted extra)
  | few => Options.missingAfter 1 "operand" few

/-- Tells which lines two files have in common. -/
def comm (args : List String) : Tool Nat := do
  let g ← Options.read
    { known := [flag "1", flag "2", flag "3", word "check-order", word "nocheck-order", wordTaking "output-delimiter",
        word "total", flag "z" "zero-terminated"] } args
  let separator ← match g.all "output-delimiter" with
    | [] => pure "\t"
    | s :: more =>
      if more.any (· != s) then Tool.fail 1 "multiple output delimiters specified"
      else pure (if s = "" then "\x00" else s)
  let (a, b) ← pathsOf Quoting.local_ g.operands
  let ending : UInt8 := if g.has "z" then 0 else 10
  let c : Columns := ⟨!g.has "1", !g.has "2", !g.has "3", separator, Char.ofNat ending.toNat, Scrutiny.of g⟩
  let (one, failed) ← Fields.linesOf ending a
  if failed ≠ 0 then throw 1
  let (two, failed) ← Fields.linesOf ending b
  if failed ≠ 0 then throw 1
  let (first, x) := beginning a one
  let (second, y) := beginning b two
  let (first, second, n₁, n₂, n₃) ← c.run (one.length + two.length + 1) false first second x y (0, 0, 0)
  if g.has "total" then
    Tool.emit ((separator.intercalate [toString n₁, toString n₂, toString n₃, "total"]).push c.ending)
  conclude first second

/-! ## Lines with a field in common -/

/-- A column of what is written. -/
inductive Cell where
  /-- The field that the lines have in common. -/
  | key
  | field (first : Bool) (place : Nat)

/-- How lines are put together. -/
structure Layout where
  /-- What parts fields; blanks if there is none. -/
  mark : Option Char
  /-- Which fields are compared. -/
  key₁ : Nat
  key₂ : Nat
  folds : Bool
  lonely₁ : Bool
  lonely₂ : Bool
  pairs : Bool
  filler : String
  cells : Option (List Cell)
  /-- How many fields every line is written with. -/
  sizes : Option (Nat × Nat)
  ending : Char
  scrutiny : Scrutiny

/-- The runs between blanks; blanks at the end of a line stand before an empty one. -/
def blankFields (cs : List Char) : List String :=
  let isBlank (c : Char) : Bool := c == ' ' || c == '\t' || c == '\n'
  let rec go : Nat → List Char → List String
    | 0, _ => []
    | n + 1, cs =>
      match cs.span fun c => !isBlank c with
      | (run, []) => [String.ofList run]
      | (run, rest) => String.ofList run :: go n (rest.dropWhile isBlank)
  match cs.dropWhile isBlank with
  | [] => []
  | cs => go (cs.length + 1) cs

/-- The parts of a line. -/
def Layout.row (o : Layout) (line : String) : Row :=
  ⟨line, match o.mark with
    | none => blankFields line.toList
    | some c => if line = "" then [] else line.splitOn (String.singleton c)⟩

/-- Compares fields; one that is missing is as good as an empty one. -/
def Layout.compare (o : Layout) (i : Nat) (a : Row) (j : Nat) (b : Row) : Ordering :=
  let folded (s : String) : String := if o.folds then s.map Char.toUpper else s
  compareTexts (folded ((a.fields[i]?).getD "")) (folded ((b.fields[j]?).getD ""))

/-- A field as it is written. -/
def Layout.shown (o : Layout) (row : Option Row) (place : Nat) : String :=
  match row.bind fun r => r.fields[place]? with
  | some "" | none => o.filler
  | some s => s

/-- Writes two lines as one. -/
def Layout.write (o : Layout) (a b : Option Row) : Tool Unit := do
  let key : String := if a.isSome then o.shown a o.key₁ else o.shown b o.key₂
  let others (row : Option Row) (key : Nat) (size : Option Nat) : List String :=
    let size := size.getD ((row.map fun r => r.fields.length).getD 0)
    ((List.range size).filter (· != key)).map (o.shown row)
  let cells := match o.cells with
    | some cells => cells.map fun
      | .key => key
      | .field first place => o.shown (if first then a else b) place
    | none => key :: (others a o.key₁ (o.sizes.map Prod.fst) ++ others b o.key₂ (o.sizes.map Prod.snd))
  Tool.emit (((String.singleton (o.mark.getD ' ')).intercalate cells).push o.ending)

/-- Takes a line, and complains if it comes too early. -/
def Layout.take (o : Layout) (lonely first : Bool) (s : Source) : Tool (Option Row × Source) := do
  match s.rest with
  | [] => return (none, s)
  | line :: rest =>
    let row := o.row line
    let next : Source := { s with rest, taken := s.taken + 1, last := some row }
    let key := if first then o.key₁ else o.key₂
    let early : Bool := match s.last with
      | some before => o.compare key before key row == .gt
      | none => false
    if (o.scrutiny = .always ∨ (o.scrutiny = .later ∧ lonely)) ∧ ¬ s.told ∧ early then
      let wrong := s.name ++ ":" ++ toString next.taken ++ ": is not sorted: " ++ line
      return (some row, ← complain o.scrutiny wrong next)
    else return (some row, next)

/-- Takes lines as long as their field is the same: these, and the first that is different. -/
def Layout.group (o : Layout) (lonely first : Bool) (other : Row) : Nat → List Row → Source →
    Tool (List Row × Option Row × Source)
  | 0, read, s => return (read.reverse, none, s)
  | n + 1, read, s => do
    let (row, s) ← o.take lonely first s
    match row with
    | none => return (read.reverse, none, s)
    | some row =>
      let order := if first then o.compare o.key₁ row o.key₂ other else o.compare o.key₁ other o.key₂ row
      if order = .eq then o.group lonely first other n (row :: read) s else return (read.reverse, some row, s)

/-- What is left when one of the files is at its end. -/
structure Left where
  lonely : Bool
  a : Source
  b : Source
  x : Option Row
  y : Option Row

/-- Puts lines together until one of the files is at its end. -/
def Layout.run (o : Layout) : Nat → Left → Tool Left
  | 0, s => return s
  | n + 1, s => do
    Proc.step
    match s.x, s.y with
    | some x, some y =>
      match o.compare o.key₁ x o.key₂ y with
      | .lt =>
        if o.lonely₁ then o.write (some x) none
        let (next, a) ← o.take s.lonely true s.a
        o.run n { s with a, x := next, lonely := true }
      | .gt =>
        if o.lonely₂ then o.write none (some y)
        let (next, b) ← o.take s.lonely false s.b
        o.run n { s with b, y := next, lonely := true }
      | .eq =>
        let (xs, nextX, a) ← o.group s.lonely true y (s.a.rest.length + 1) [x] s.a
        let (ys, nextY, b) ← o.group s.lonely false x (s.b.rest.length + 1) [y] s.b
        if o.pairs then
          for x in xs do
            for y in ys do o.write (some x) (some y)
        o.run n { s with a, b, x := nextX, y := nextY }
    | _, _ => return s

/-- Reads what is left of a file, whose lines have no partners. -/
def Layout.drain (o : Layout) (lonely first shows : Bool) : Nat → Source → Tool Source
  | 0, s => return s
  | n + 1, s => do
    let (row, s) ← o.take lonely first s
    match row with
    | none => return s
    | some row =>
      if shows then if first then o.write (some row) none else o.write none (some row)
      if s.told ∧ ¬ shows then return s else o.drain lonely first shows n s

/-- Reads what is left of both files. -/
def Layout.finish (o : Layout) (s : Left) : Tool (Source × Source) := do
  let checks := o.scrutiny != .never && !(s.a.told && s.b.told)
  let (lonely, a) ← match s.x with
    | some x =>
      if o.lonely₁ || checks then
        if o.lonely₁ then o.write (some x) none
        let lonely := s.lonely || s.y.isSome
        pure (lonely, ← o.drain lonely true o.lonely₁ (s.a.rest.length + 1) s.a)
      else pure (s.lonely, s.a)
    | none => pure (s.lonely, s.a)
  let b ← match s.y with
    | some y =>
      if o.lonely₂ || checks then
        if o.lonely₂ then o.write none (some y)
        o.drain (lonely || s.x.isSome) false o.lonely₂ (s.b.rest.length + 1) s.b
      else pure s.b
    | none => pure s.b
  return (a, b)

/-- The place of a field, counted from one. -/
def placeOf (s : String) : Tool Nat := match Numbers.whole s with
  | .ok (n + 1) => pure n
  | _ => Tool.fail 1 ("invalid field number: " ++ Quoting.local_ s)

/-- A column, by its name. -/
def cellOf (s : String) : Tool Cell := do
  match s.toList with
  | ['0'] => return .key
  | '0' :: _ => Tool.fail 1 ("invalid field specifier: " ++ Quoting.local_ s)
  | c :: rest =>
    if c != '1' && c != '2' then Tool.fail 1 ("invalid file number in field spec: " ++ Quoting.local_ s)
    match rest with
    | '.' :: place => return .field (c == '1') (← placeOf (String.ofList place))
    | _ => Tool.fail 1 ("invalid field specifier: " ++ Quoting.local_ s)
  | [] => Tool.fail 1 "invalid field specifier: ''"

/-- Settings that cannot be given twice with different values. -/
structure Settings where
  mark : Option String := none
  key₁ : Option Nat := none
  key₂ : Option Nat := none
  lonely₁ : Bool := false
  lonely₂ : Bool := false
  pairs : Bool := true
  filler : Option String := none
  cells : Option (List Cell) := none
  automatic : Bool := false

/-- Sets the place of the field that is compared. -/
def agreed (old : Option Nat) (new : Nat) : Tool (Option Nat) := do
  match old with
  | some n =>
    if n ≠ new then Tool.fail 1 ("incompatible join fields " ++ toString n ++ ", " ++ toString new)
    return old
  | none => return some new

/-- Takes an option into account. -/
def Settings.add (s : Settings) (option : String × Option String) : Tool Settings := do
  let value := option.2.getD ""
  match option.1 with
  | "1" => return { s with key₁ := ← agreed s.key₁ (← placeOf value) }
  | "2" => return { s with key₂ := ← agreed s.key₂ (← placeOf value) }
  | "j" =>
    let n ← placeOf value
    return { s with key₁ := ← agreed s.key₁ n, key₂ := ← agreed s.key₂ n }
  | "a" | "v" =>
    let s := { s with pairs := s.pairs && option.1 == "a" }
    match Numbers.whole value with
    | .ok 1 => return { s with lonely₁ := true }
    | .ok 2 => return { s with lonely₂ := true }
    | _ => Tool.fail 1 ("invalid field number: " ++ Quoting.local_ value)
  | "e" =>
    if s.filler.isSome ∧ s.filler ≠ some value then Tool.fail 1 "conflicting empty-field replacement strings"
    return { s with filler := some value }
  | "t" =>
    let mark ← match value.toList with
      | [] => pure "\n"
      | [_] => pure value
      | ['\x5c', '0'] => pure "\x00"
      | _ => Tool.fail 1 ("multi-character tab " ++ Quoting.local_ value)
    if s.mark.isSome ∧ s.mark ≠ some mark then Tool.fail 1 "incompatible tabs"
    return { s with mark := some mark }
  | "o" =>
    if value = "auto" then return { s with automatic := true }
    let names := (value.split fun c => c == ',' || c == ' ' || c == '\t').toList.map (·.toString)
    return { s with cells := some ((s.cells.getD []) ++ (← names.mapM cellOf)) }
  | _ => return s

/-- Puts the lines of two files together that have a field in common. -/
def join (args : List String) : Tool Nat := do
  let g ← Options.read
    { known := [taking "1", taking "2", taking "a", taking "e", flag "i" "ignore-case", taking "j", taking "o", taking "t",
        taking "v", word "check-order", word "nocheck-order", word "header", flag "z" "zero-terminated"] } args
  let s ← g.options.foldlM Settings.add ({} : Settings)
  let (a, b) ← pathsOf Quoting.always g.operands
  if a = "-" ∧ b = "-" then Tool.fail 1 ("both files cannot be standard input: " ++ Refusal.noEntry.message)
  let ending : UInt8 := if g.has "z" then 0 else 10
  let lines (path : String) : Tool (List String) := do
    match ← Tool.openInput path with
    | .error r => Tool.fail 1 (Quoting.file path ++ ": " ++ r.message)
    | .ok d =>
      match ← Proc.readAll d with
      | .error r => Tool.fail 1 ("read error: " ++ r.message)
      | .ok bytes =>
        Tool.closeInput d
        return (Tool.linesOf ending bytes).1.map Text.Octets.ofBytes
  let one ← lines a
  let two ← lines b
  let o : Layout :=
    { mark := s.mark.bind fun m => m.toList.head?, key₁ := s.key₁.getD 0, key₂ := s.key₂.getD 0, folds := g.has "i"
      lonely₁ := s.lonely₁, lonely₂ := s.lonely₂, pairs := s.pairs, filler := s.filler.getD "", cells := s.cells
      sizes := none, ending := Char.ofNat ending.toNat, scrutiny := Scrutiny.of g }
  let (x, first) ← o.take false true { name := a, rest := one }
  let (y, second) ← o.take false false { name := b, rest := two }
  let count (r : Option Row) : Nat := (r.map fun r => r.fields.length).getD 0
  let o := if s.automatic then { o with sizes := some (count x, count y), cells := none } else o
  let start : Left ← if g.has "header" ∧ (x.isSome ∨ y.isSome) then do
      o.write x y
      let (x, first) ← o.take false true { first with last := none }
      let (y, second) ← o.take false false { second with last := none }
      pure ⟨false, first, second, x, y⟩
    else pure ⟨false, first, second, x, y⟩
  let left ← o.run (one.length + two.length + 1) start
  let (first, second) ← o.finish left
  conclude first second

end TaskRunner.Tools.Joining
