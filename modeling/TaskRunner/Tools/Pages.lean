import TaskRunner.Text.Classes
import TaskRunner.Text.Octets

/-!
# Text on pages

Text is set in columns on pages. Columns are filled one after the other from one text, or line by line across, or each from
a text of its own. A page has a heading and a foot of empty lines, unless these are left out; a form feed ends a page.
-/

namespace TaskRunner.Tools.Pages

/-! ## Settings -/

/-- How characters that cannot be shown are written. -/
inductive Odd where
  | asTheyAre
  /-- By their numbers. -/
  | numbers
  /-- By a letter after a sign, or by their numbers. -/
  | carets
  deriving DecidableEq

/-- Numbers before lines. -/
structure Numbers where
  separator : Char
  digits : Nat
  /-- How many places a number takes with what separates it. -/
  width : Nat

/-- How pages are set. -/
structure Manner where
  /-- How many lines a page has without its heading and foot. -/
  body : Nat
  /-- Whether there are headings and feet. -/
  framed : Bool
  /-- Whether form feeds of the text are kept. -/
  keepsFeeds : Bool
  doubleSpaced : Bool
  /-- Whether every column has a text of its own. -/
  parallel : Bool
  /-- Whether columns are filled one after the other. -/
  storing : Bool
  separates : Bool
  separator : List Char
  truncates : Bool
  expands : Bool
  inTab : Char
  inWidth : Nat
  /-- Whether blanks are written as tabs where these lead as far. -/
  tabs : Bool
  outTab : Char
  outWidth : Nat
  numbers : Option Numbers
  /-- How many places a column has. -/
  room : Nat
  margin : Nat
  /-- Whether a form feed ends a page. -/
  feeds : Bool
  odd : Odd
  /-- The heading of a page, given its number. -/
  heading : Nat → String
  firstPage : Nat
  lastPage : Nat
  /-- Whether lines of pages that are left out count. -/
  countsSkipped : Bool
  firstLine : Int

/-! ## What is being printed -/

/-- Whether more can be read for a column. -/
inductive Status where
  | opened
  /-- A form feed ends the page for all columns that are being filled. -/
  | atFeed
  /-- Nothing more is read for this page. -/
  | held
  | closed
  deriving DecidableEq, Inhabited

/-- A column. -/
structure Column where
  /-- Which of the texts it is from. -/
  source : Nat
  status : Status := .opened
  /-- How many lines of the page are left to print. -/
  toPrint : Int := 0
  /-- How many lines are kept. -/
  stored : Nat := 0
  /-- The next line that is kept. -/
  current : Nat := 0
  numbered : Bool := false
  start : Nat := 0
  /-- Whether the last page was full. -/
  full : Bool := false
  deriving Inhabited

/-- A press: what has been printed and what is known about the page. -/
structure Press where
  columns : Array Column
  sources : Array (List Char)
  out : String := ""
  page : Nat := 1
  line : Int := 1
  /-- How many columns can be read from. -/
  ready : Nat := 0
  /-- The place in the line of the text, and in the line that is printed. -/
  input : Nat := 0
  output : Int := 0
  /-- Blanks, places and separators that come before what is printed next. -/
  blanks : Int := 0
  padding : Nat := 0
  separators : Nat := 0
  /-- Whether the line has to be ended, and whether nothing is on it. -/
  needsEnd : Bool := false
  isEmpty : Bool := true
  alignsEmpty : Bool := false
  needsHeading : Bool := false
  needsFeed : Bool := false
  feedOnly : Bool := false
  /-- Lines that are kept, each with the place after it. -/
  kept : Array (List Char × Nat) := #[]
  /-- The line that is being kept, the last character first. -/
  keeping : List Char := []

/-- A step of printing. -/
abbrev Printing (α : Type) := StateM Press α

/-! ## Writing -/

/-- Writes a character. -/
def put (c : Char) : Printing Unit := modify fun s => { s with out := s.out.push c }

/-- Writes a character so many times. -/
def putMany : Nat → Char → Printing Unit
  | 0, _ => return
  | n + 1, c => do
    put c
    putMany n c

/-- How many places a tab takes. -/
def tabAt (width place : Nat) : Nat := if width = 0 then 0 else width - place % width

/-- Tabs and blanks up to a place. -/
def blanksTo (m : Manner) : Nat → Int → Int → Printing Unit
  | 0, _, _ => return
  | n + 1, place, goal => do
    let stop : Int := place + tabAt m.outWidth place.toNat
    if 1 < goal - place ∧ stop ≤ goal ∧ m.outWidth ≠ 0 then
      put m.outTab
      blanksTo m n stop goal
    else putMany (goal - place).toNat ' '

/-- Writes blanks that have been held back. -/
def putBlanks (m : Manner) : Printing Unit := do
  let s ← get
  let goal := s.output + s.blanks
  blanksTo m (s.blanks.toNat + 1) s.output goal
  modify fun s => { s with output := goal, blanks := 0 }

/-- Goes to a place of the line. -/
def goTo (m : Manner) (place : Nat) : Printing Unit := do
  let s ← get
  if m.tabs then modify fun s => { s with blanks := place - s.output }
  else
    putMany (place - s.output).toNat ' '
    modify fun s => { s with output := place }

/-- Whether a byte can be shown. -/
def isShown (c : Char) : Bool := ' ' ≤ c && c ≤ '~'

/-- Prints a character, blanks perhaps later. -/
def print (m : Manner) (c : Char) : Printing Unit := do
  if ¬ m.tabs then put c
  else if c = ' ' then modify fun s => { s with blanks := s.blanks + 1 }
  else
    if 0 < (← get).blanks then putBlanks m
    let step : Int := if isShown c then 1 else if c = '\x08' then -1 else 0
    modify fun s => { s with output := s.output + step }
    put c

/-- Prints or keeps a character. -/
def set (m : Manner) (c : Char) : Printing Unit :=
  if m.storing then modify fun s => { s with keeping := c :: s.keeping } else print m c

/-- Writes a separator: blanks of it may become tabs. -/
def putSeparator (m : Manner) : List Char → Printing Unit
  | [] => do if 0 < (← get).blanks then putBlanks m
  | ' ' :: rest => do
    modify fun s => { s with blanks := s.blanks + 1 }
    putSeparator m rest
  | c :: rest => do
    if 0 < (← get).blanks then putBlanks m
    put c
    modify fun s => { s with output := s.output + 1 }
    putSeparator m rest

/-- Writes the separators that are due. All but the first of them are nothing but the blanks before them. -/
def putSeparators (m : Manner) : Printing Unit := do
  if (← get).separators = 0 then
    if 0 < (← get).blanks then putBlanks m
  else
    putSeparator m m.separator
    modify fun s => { s with separators := 0 }

/-- Writes the heading of a page. -/
def putHeading (m : Manner) : Printing Unit := do
  modify fun s => { s with output := 0 }
  goTo m m.margin
  putBlanks m
  modify fun s => { s with out := s.out ++ m.heading s.page, needsHeading := false, output := 0 }

/-- The characters that a character is set as; the place moves on. -/
def clump (m : Manner) (c : Char) : Printing (List Char) := do
  let s ← get
  let number : List Char := '\x5c' :: (Nat.toDigits 8 c.toNat |> fun ds => List.replicate (3 - ds.length) '0' ++ ds)
  let move (n : Nat) : Printing Unit := modify fun s => { s with input := s.input + n }
  if c = m.inTab ∨ c = '\t' then
    let width := tabAt (if c = m.inTab then m.inWidth else 8) s.input
    move width
    return if m.expands then List.replicate width ' ' else [c]
  else if isShown c then
    move 1
    return [c]
  else match m.odd with
    | .numbers =>
      move 4
      return number
    | .carets =>
      if c.toNat < 128 then
        move 2
        return ['^', Char.ofNat (c.toNat ^^^ 64)]
      else
        move 4
        return number
    | .asTheyAre =>
      if c = '\x08' then
        modify fun s => { s with input := s.input - 1 }
        return if s.input = 0 then [] else [c]
      else return [c]

/-! ## Reading -/

/-- Changes a column. -/
def change (i : Nat) (f : Column → Column) : Printing Unit := modify fun s => { s with columns := s.columns.modify i f }

/-- Changes all columns. -/
def changeAll (f : Column → Column) : Printing Unit := modify fun s => { s with columns := s.columns.map f }

/-- A column. -/
def column (i : Nat) : Printing Column := return (← get).columns[i]!

/-- The next character of a text. -/
def next (source : Nat) : Printing (Option Char) := do
  match (← get).sources[source]? with
  | some (c :: rest) =>
    modify fun s => { s with sources := s.sources.set! source rest }
    return some c
  | _ => return none

/-- Leaves out a line feed. -/
def skipEnd (source : Nat) : Printing Unit := do
  match (← get).sources[source]? with
  | some ('\n' :: rest) => modify fun s => { s with sources := s.sources.set! source rest }
  | _ => return

/-- Holds a column, because of a form feed; all of them if they have one text. -/
def hold (m : Manner) (i : Nat) : Printing Unit := do
  if m.parallel then change i fun c => { c with status := .held }
  else changeAll fun c => { c with status := if m.storing then .atFeed else .held }
  change i fun c => { c with toPrint := 0 }
  modify fun s => { s with ready := s.ready - 1 }

/-- Closes a column; all of them if they have one text. -/
def close (m : Manner) (i : Nat) : Printing Unit := do
  if (← column i).status = .closed then return
  if m.parallel then change i fun c => { c with status := .closed, toPrint := 0 }
  else changeAll fun c => { c with status := .closed, toPrint := if c.stored = 0 then 0 else c.toPrint }
  modify fun s => { s with ready := s.ready - 1 }

/-- A form feed in the middle of a line was read. -/
def feed (m : Manner) (i : Nat) : Printing Unit := do
  skipEnd (← column i).source
  if m.keepsFeeds then modify fun s => { s with needsFeed := true }
  hold m i

/-- Reads what is left of a line. -/
def skipLine (m : Manner) (i : Nat) : Nat → Printing Unit
  | 0 => return
  | n + 1 => do
    match ← next (← column i).source with
    | some '\n' => return
    | some '\x0c' => feed m i
    | none => close m i
    | some _ => skipLine m i n

/-- Sets the number of a line. -/
def setNumber (m : Manner) : Printing Unit := do
  let some n := m.numbers | return
  let s ← get
  let digits := toString s.line
  let text := String.ofList (List.replicate (n.digits - digits.length) ' ') ++ digits
  modify fun s => { s with line := s.line + 1 }
  for c in (text.drop (text.length - n.digits)).toString.toList do set m c
  if 1 < s.columns.size ∧ n.separator = '\t' then
    for _ in List.range (n.width - n.digits) do set m ' '
  else
    set m n.separator
    if n.separator = '\t' ∧ s.columns.size ≤ 1 then
      modify fun s => { s with output := s.output + tabAt m.outWidth s.output.toNat }
  if m.truncates ∧ ¬ m.parallel then modify fun s => { s with input := s.input + n.width }

/-- Goes to where a column begins, if something has to be left free before it. -/
def goToColumn (m : Manner) : Printing Unit := do
  let s ← get
  if m.separator.length < s.padding then
    goTo m (s.padding - m.separator.length)
    modify fun s => { s with padding := 0 }

/-- Leaves a column free. -/
def align (m : Manner) (i : Nat) : Printing Unit := do
  let c ← column i
  modify fun s => { s with padding := c.start }
  goToColumn m
  if m.separates then putSeparators m
  if c.numbered then setNumber m

/-- Leaves the columns free that had nothing to print when the line was empty. -/
def alignBefore (m : Manner) (i : Nat) : Printing Unit := do
  let count := (← get).separators
  modify fun s => { s with separators := 0 }
  for j in List.range count do
    align m j
    modify fun s => { s with separators := s.separators + 1 }
  let c ← column i
  modify fun s => { s with padding := c.start, blanks := if m.truncates then m.room else 0, alignsEmpty := false }

/-- Sets what is left of a line: whether all of it was read. -/
def setRest (m : Manner) (i : Nat) : Nat → Printing Bool
  | 0 => return true
  | n + 1 => do
    match ← next (← column i).source with
    | some '\n' => return true
    | some '\x0c' =>
      feed m i
      return true
    | none =>
      close m i
      return true
    | some c =>
      let place := (← get).input
      let text ← clump m c
      if m.truncates ∧ m.room < (← get).input then
        modify fun s => { s with input := place }
        return false
      for c in text do set m c
      setRest m i n

/-- Sets a line of a column: whether all of it was read. -/
def setLine (m : Manner) (fuel i : Nat) : Printing Bool := do
  let source := (← column i).source
  let mut c ← next source
  if c = some '\x0c' ∧ (← column i).full then
    c ← next source
    if c = some '\n' then c ← next source
  change i fun c => { c with full := false }
  let place := (← get).input
  let mut text : List Char := []
  match c with
  | some '\x0c' =>
    skipEnd source
    modify fun s => { s with feedOnly := true }
    if (← get).needsHeading ∧ ¬ m.storing then
      modify fun s => { s with needsEnd := true }
      putHeading m
    else if m.keepsFeeds then modify fun s => { s with needsFeed := true }
    hold m i
    return true
  | none =>
    close m i
    return true
  | some '\n' => pure ()
  | some first => text ← clump m first
  if m.truncates ∧ m.room < (← get).input then
    modify fun s => { s with input := place }
    return false
  if ¬ m.storing then
    modify fun s => { s with needsEnd := true }
    if (← get).needsHeading then putHeading m
    if m.parallel ∧ (← get).alignsEmpty then alignBefore m i
    goToColumn m
    if m.separates then putSeparators m
  if (← column i).numbered then setNumber m
  modify fun s => { s with isEmpty := false }
  if c = some '\n' then return true
  for d in text do set m d
  setRest m i fuel

/-- Prints a line of a column that was kept. -/
def printKept (m : Manner) (i : Nat) : Printing Bool := do
  let n := (← column i).current
  change i fun c => { c with current := c.current + 1 }
  let (text, stop) := ((← get).kept[n]?).getD ([], 0)
  modify fun s => { s with needsEnd := true }
  if (← get).needsHeading then putHeading m
  if (← column i).status = .atFeed then
    changeAll fun c => { c with status := .held }
    if (← column 0).toPrint ≤ 0 then
      if ¬ m.framed then modify fun s => { s with needsEnd := false }
      return true
  goToColumn m
  if m.separates then putSeparators m
  for c in text do print m c
  let start := (← column i).start
  if (← get).blanks = 0 then
    let place : Int := start + stop
    let place := if start = m.margin + m.separator.length then place - m.separator.length else place
    modify fun s => { s with output := place }
  return true

/-! ## Pages -/

/-- How many columns have something to print. -/
def readyColumns (m : Manner) : Printing Nat := do
  return ((← get).columns.filter fun c =>
    c.status == .opened || c.status == .atFeed || (m.storing && 0 < c.stored && 0 < c.toPrint)).size

/-- Keeps lines for a column. -/
def keepLines (m : Manner) (fuel i : Nat) : Nat → Printing Unit
  | 0 => return
  | n + 1 => do
    if (← get).ready = 0 then return
    if (← column i).status = .opened then
      modify fun s => { s with input := 0, keeping := [] }
      if ¬ (← setLine m fuel i) then skipLine m i fuel
      let s ← get
      if (← column i).status = .opened ∨ s.keeping ≠ [] then
        change i fun c => { c with stored := c.stored + 1 }
        modify fun s => { s with kept := s.kept.push (s.keeping.reverse, s.input) }
    keepLines m fuel i n

/-- Keeps the lines of a page, so many in each column as in the others. -/
def keepAll (m : Manner) (fuel : Nat) : Printing Unit := do
  changeAll fun c => { c with stored := 0 }
  modify fun s => { s with kept := #[] }
  let count := (← get).columns.size
  for i in List.range count do
    let line := (← get).kept.size
    if 0 < (← get).ready then
      change i fun c => { c with current := line }
      keepLines m fuel i m.body
  let total := (← get).kept.size
  for i in List.range count do
    let start := total / count * i + min i (total % count)
    change i fun c => { c with stored := total / count + (if i < total % count then 1 else 0), current := start }

/-- Prints one line of a page in the columns from one on: whether there was more to print in the end. -/
def printAcross (m : Manner) (fuel : Nat) : Nat → Nat → Bool → Printing Bool
  | 0, _, printed => return printed
  | n + 1, i, printed => do
    if i ≥ (← get).columns.size then return printed
    modify fun s => { s with input := 0 }
    let c ← column i
    let separated : Printing Unit := do
      if m.separates then modify fun s => { s with separators := s.separators + 1 }
    if 0 < c.toPrint ∨ c.status = .atFeed then
      modify fun s => { s with feedOnly := false, padding := c.start }
      if m.storing then discard <| printKept m i
      else if ¬ (← setLine m fuel i) then skipLine m i fuel
      let printed := printed || (← get).needsEnd
      change i fun c => { c with toPrint := c.toPrint - 1 }
      if (← column i).toPrint ≤ 0 ∧ (← readyColumns m) = 0 then return printed
      let now ← column i
      if m.parallel ∧ now.status ≠ .opened then
        let s ← get
        if s.isEmpty then modify fun s => { s with alignsEmpty := true }
        else if now.status = .closed ∨ (now.status = .held ∧ s.feedOnly) then align m i
      separated
      printAcross m fuel n (i + 1) printed
    else
      if m.parallel then
        if (← get).isEmpty then modify fun s => { s with alignsEmpty := true }
        else align m i
      separated
      printAcross m fuel n (i + 1) printed

/-- Prints the lines of a page: how many lines are left of it, and whether something was printed. -/
def printLines (m : Manner) (fuel : Nat) : Nat → Nat → Bool → Printing (Nat × Bool)
  | 0, left, printed => return (left, printed)
  | n + 1, left, printed => do
    if left = 0 ∨ (← readyColumns m) = 0 then return (left, printed)
    modify fun s => { s with
      output := 0, blanks := 0, separators := 0, needsEnd := false, alignsEmpty := false, isEmpty := true }
    let printed ← printAcross m fuel ((← get).columns.size + 1) 0 printed
    let ends := (← get).needsEnd
    if ends then put '\n'
    let left := if ends then left - 1 else left
    if (← readyColumns m) = 0 ∧ ¬ m.framed then return (left, printed)
    if m.doubleSpaced ∧ printed then
      put '\n'
      printLines m fuel n (left - 1) printed
    else printLines m fuel n left printed

/-- Opens the columns that were held. -/
def reopen (m : Manner) : Printing Unit := do
  let held := ((← get).columns.filter fun c => c.status == .held).size
  changeAll fun c => if c.status = .held then { c with status := .opened } else c
  modify fun s => { s with ready := s.ready + held }
  if m.storing then
    let closed := (← column 0).status == .closed
    modify fun s => { s with ready := if closed then 0 else 1 }

/-- How many lines the heading and the foot have, each. -/
def frame : Nat := 5

/-- Prints a page: whether there is another one. -/
def printPage (m : Manner) (fuel : Nat) : Printing Bool := do
  if m.storing then
    keepAll m fuel
    changeAll fun c => { c with toPrint := c.stored }
  else changeAll fun c => { c with toPrint := if c.status = .opened then m.body else 0 }
  if (← readyColumns m) = 0 then return false
  modify fun s => { s with needsHeading := s.needsHeading || m.framed, needsEnd := false }
  let (left, printed) ← printLines m fuel fuel (if m.doubleSpaced then 2 * m.body else m.body) false
  if left = 0 then changeAll fun c => if c.status = .opened then { c with full := true } else c
  if printed ∧ m.framed then
    if m.feeds then put '\x0c' else putMany (left + frame) '\n'
  else if m.keepsFeeds ∧ (← get).needsFeed then
    put '\x0c'
    modify fun s => { s with needsFeed := false }
  modify fun s => { s with page := s.page + 1 }
  if m.lastPage < (← get).page then return false
  reopen m
  return true

/-- Prints pages as long as there are any. -/
def printPages (m : Manner) (fuel : Nat) : Nat → Printing Unit
  | 0 => return
  | n + 1 => do if ← printPage m fuel then printPages m fuel n

/-- Leaves out a line of a column. -/
def skipRead (m : Manner) (isLast : Bool) (fuel i : Nat) : Printing Unit := do
  let source := (← column i).source
  let mut c ← next source
  if c = some '\x0c' ∧ (← column i).full then
    c ← next source
    if c = some '\n' then c ← next source
  change i fun c => { c with full := isLast }
  let isFeed := c == some '\x0c'
  let rec go : Nat → Option Char → Printing Unit
    | 0, _ => return
    | _, some '\n' => return
    | _, some '\x0c' => do
      if isLast then
        if m.parallel then change i fun c => { c with full := false } else changeAll fun c => { c with full := false }
      skipEnd source
      hold m i
    | _, none => close m i
    | n + 1, some _ => do go n (← next source)
  go fuel c
  if m.countsSkipped ∧ (¬ m.parallel ∨ i = 0) ∧ ¬ isFeed then modify fun s => { s with line := s.line + 1 }

/-- Leaves out pages: the number of pages that there are if there are no more. -/
def skipPages (m : Manner) (fuel : Nat) : Nat → Nat → Printing (Option Nat)
  | 0, _ => return none
  | left + 1, n => do
    let row (isLast : Bool) : Printing Unit := do
      for i in List.range (← get).columns.size do
        if (← column i).status = .opened then skipRead m isLast fuel i
    for _ in List.range (m.body - 1) do row false
    row true
    if m.storing then changeAll fun c => if c.status = .closed then c else { c with status := .held }
    reopen m
    if (← get).ready = 0 then return some n
    skipPages m fuel left (n + 1)

/-- Prints texts on pages: what is printed, and the number of pages that there are if the first one that is wanted is not
among them. -/
def press (m : Manner) (texts : List (List Char)) (columns : Nat) : String × Option Nat :=
  let fuel := texts.foldl (fun n t => n + t.length) 0 + 2 * m.body + columns + 10
  let last := columns - 1
  let widths (i : Nat) : Nat :=
    let own := m.room + m.separator.length
    let wider := if m.parallel then (m.numbers.map fun n => n.width).getD 0 else 0
    if i = 0 then m.margin + m.separator.length
    else if ¬ m.truncates then 0
    else m.margin + i * own + wider
  let column (i : Nat) : Column :=
    { source := if m.parallel then i else 0, start := widths i, numbered := m.numbers.isSome && (!m.parallel || i == 0) }
  let start : Press :=
    { columns := (List.range (last + 1)).toArray.map column, sources := texts.toArray, line := m.firstLine
      ready := if m.parallel then columns else 1 }
  let work : Printing (Option Nat) := do
    let found ← if 1 < m.firstPage then skipPages m fuel (m.firstPage - 1) 1 else pure none
    if found.isSome then return found
    modify fun s => { s with page := m.firstPage }
    printPages m fuel fuel
    return none
  let (found, s) := work.run start
  (s.out, found)

end TaskRunner.Tools.Pages
