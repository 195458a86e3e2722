import TaskRunner.Text.Locale
import TaskRunner.Tools.Dates
import TaskRunner.Tools.Making
import TaskRunner.Tools.Pages

/-!
# The program that sets text on pages

Options say how large pages are, how many columns they have and what stands around the text.
-/

namespace TaskRunner.Tools.Pages

open Processes

/-- What options ask for. -/
structure Wishes where
  lines : Nat := 66
  width : Nat := 72
  columns : Nat := 1
  /-- Whether the number of columns was given. -/
  hasColumns : Bool := false
  across : Bool := false
  parallel : Bool := false
  joins : Bool := false
  doubleSpaced : Bool := false
  date : Option String := none
  expands : Bool := false
  inTab : Char := '\t'
  inWidth : Nat := 8
  tabs : Bool := false
  outTab : Char := '\t'
  outWidth : Nat := 8
  feeds : Bool := false
  header : Option String := none
  numbered : Bool := false
  numberTab : Char := '\t'
  digits : Nat := 5
  firstLine : Int := 1
  countsSkipped : Bool := true
  margin : Nat := 0
  quiet : Bool := false
  /-- Whether there is an old option for the width or the separator, which means more than it says. -/
  isOld : Bool := false
  oldSeparator : Bool := false
  oldWidth : Bool := false
  separates : Bool := false
  separator : String := ""
  framed : Bool := true
  keepsFeeds : Bool := false
  odd : Odd := .asTheyAre
  truncates : Bool := false
  pages : Option (Nat × Nat) := none

/-- A character and a number, both of which may be missing. -/
def pairOf (option : String) (s : String) (usual : Char × Nat) : Tool (Char × Nat) := do
  match s.toList with
  | [] => Tool.misuse 1 ("'-" ++ option ++ "': Invalid argument: " ++ Quoting.local_ s)
  | c :: rest =>
    let (sign, digits) := if c.isDigit then (usual.1, s.toList) else (c, rest)
    if digits = [] then return (sign, usual.2)
    let text := String.ofList digits
    let wrong (why : String) : Tool (Char × Nat) :=
      Tool.misuse 1 ("'-" ++ option ++ "' extra characters or invalid number in the argument: " ++ Quoting.local_ text ++ why)
    match Numbers.integer? text with
    | some n =>
      if 2147483647 < n then wrong ": Value too large for defined data type"
      else if n ≤ 0 then wrong ""
      else return (sign, n.toNat)
    | none => wrong ""

/-- Reads a range of pages, which an option names; nothing if it is none but might be something else. -/
def pagesOf (option s : String) : Tool (Option (Nat × Nat)) := do
  let wrong {α : Type} (what : String) : Tool α :=
    Tool.fail 1 ("invalid " ++ what ++ option ++ " argument " ++ "'" ++ s ++ "'")
  let number (cs : List Char) : Tool (Nat × List Char) := do
    let cs := match cs with
      | '+' :: rest => rest
      | cs => cs
    let (digits, rest) := cs.span Char.isDigit
    let n := Decimal.natOf 10 digits
    if digits = [] then wrong ""
    if Tools.Numbers.most < n then Tool.fail 1 (option ++ " argument " ++ "'" ++ s ++ "'" ++ " too large")
    return (n, rest)
  let (first, rest) ← number s.toList
  if first = 0 then return none
  match rest with
  | [] => return some (first, Tools.Numbers.most)
  | ':' :: rest =>
    let (last, rest) ← number rest
    if rest ≠ [] then wrong "suffix in "
    return if last < first then none else some (first, last)
  | _ => return none

/-- Takes an option. -/
def Wishes.take (w : Wishes) (key : String) (value : Option String) : Tool Wishes := do
  let s := value.getD ""
  let number (label : String) (least : Option Int) : Tool Nat := return (← Options.integer label least 2147483647 s).toNat
  match key with
  | "pages" =>
    match ← pagesOf "--pages" s with
    | some pages => return { w with pages := some pages }
    | none => Tool.fail 1 ("invalid page range " ++ Quoting.local_ s)
  | "columns" => return { w with columns := ← number "invalid number of columns" (some 1), hasColumns := true }
  | "a" => return { w with across := true }
  | "c" => return { w with odd := if w.odd = .numbers then .numbers else .carets }
  | "d" => return { w with doubleSpaced := true }
  | "D" => return { w with date := some s }
  | "e" =>
    let (inTab, inWidth) ← match value with
      | some s => pairOf key s (w.inTab, w.inWidth)
      | none => pure (w.inTab, w.inWidth)
    return { w with inTab, inWidth, expands := true }
  | "f" | "F" => return { w with feeds := true }
  | "h" => return { w with header := some s }
  | "i" =>
    let (outTab, outWidth) ← match value with
      | some s => pairOf key s (w.outTab, w.outWidth)
      | none => pure (w.outTab, w.outWidth)
    return { w with outTab, outWidth, tabs := true }
  | "J" => return { w with joins := true }
  | "l" => return { w with lines := ← number "'-l PAGE_LENGTH' invalid number of lines" (some 1) }
  | "m" => return { w with parallel := true }
  | "n" =>
    let (numberTab, digits) ← match value with
      | some s => pairOf key s (w.numberTab, w.digits)
      | none => pure (w.numberTab, w.digits)
    return { w with numberTab, digits, numbered := true }
  | "N" =>
    let n ← Options.integer "'-N NUMBER' invalid starting line number" (some (-2147483648)) 2147483647 s
    return { w with firstLine := n, countsSkipped := false }
  | "o" => return { w with margin := ← number "'-o MARGIN' invalid line offset" (some 0) }
  | "r" => return { w with quiet := true }
  | "s" =>
    let separator := if w.separates then w.separator else value.getD w.separator
    return { w with isOld := true, oldSeparator := true, separator }
  | "S" => return { w with oldSeparator := false, separator := s, separates := true }
  | "t" => return { w with framed := false, keepsFeeds := true }
  | "T" => return { w with framed := false, keepsFeeds := false }
  | "v" => return { w with odd := .numbers }
  | "w" =>
    let n ← number "'-w PAGE_WIDTH' invalid number of characters" (some 1)
    return { w with isOld := true, oldWidth := true, width := if w.truncates then w.width else n }
  | "W" =>
    let n ← number "'-W PAGE_WIDTH' invalid number of characters" (some 1)
    return { w with oldWidth := false, truncates := true, width := n }
  | _ => return w

/-- Takes options in order; digits that follow each other are a number of columns, of which the last counts. -/
def takeAll : List (String × Option String) → Option String → Bool → Wishes → Tool Wishes
  | [], none, _, w => return w
  | [], some digits, _, w => w.take "columns" (some digits)
  | (key, value) :: rest, digits, follows, w => do
    if key.length = 1 ∧ key.toList.all Char.isDigit then
      takeAll rest (some (if follows then digits.getD "" ++ key else key)) true w
    else
      let w ← w.take key value
      takeAll rest (if key = "columns" then none else digits) false w

/-- Takes the first operand that is a range of pages, if no option was: the other operands. -/
def Wishes.withoutPages (w : Wishes) : List String → Tool (List String × Wishes)
  | [] => return ([], w)
  | path :: rest => do
    if w.pages.isNone ∧ path.startsWith "+" then
      if let some pages ← pagesOf "+" (path.drop 1).toString then return (rest, { w with pages := some pages })
    let (paths, w) ← w.withoutPages rest
    return (path :: paths, w)

/-- What old options mean. -/
def Wishes.settled (w : Wishes) : Wishes :=
  let many := w.parallel || w.hasColumns
  if ¬ w.isOld then w
  else if w.oldWidth then
    if many then { w with truncates := true, separates := w.separates || w.oldSeparator }
    else { w with joins := true }
  else if w.separates ∨ ¬ (w.oldSeparator ∧ many) then w
  else if w.truncates then { w with separates := true }
  else { w with joins := true, separates := w.separator != "" }

/-- How many places a text takes, every sign that cannot be shown one. -/
def widthOf (l : Text.Locale) (s : String) : Nat :=
  (l.characters s).foldl (fun n c => n + match Text.width? c with
    | some w => w
    | none => if c.toNat < 32 ∨ c.toNat = 127 then 0 else 1) 0

/-- The heading of a page with a number. -/
def headingOf (l : Text.Locale) (w : Wishes) (date file : String) (page : Nat) : String :=
  let text := "Page " ++ toString page
  let free := w.width - widthOf l date - widthOf l file - text.length
  let blanks (n : Nat) : String := String.ofList (List.replicate (max 1 n) ' ')
  let margin := String.ofList (List.replicate w.margin ' ')
  "\n\n" ++ margin ++ date ++ blanks (free / 2) ++ file ++ blanks (free - free / 2) ++ text ++ "\n\n\n"

/-- How pages are set with so many columns. -/
def Wishes.manner (w : Wishes) (columns : Nat) (parallel : Bool) (heading : Nat → String) : Tool Manner := do
  let short := w.lines ≤ 2 * frame
  let framed := w.framed && !short
  let body := if framed then w.lines - 2 * frame else w.lines
  let body := if w.doubleSpaced then max 1 (body / 2) else body
  let many := 1 < columns
  let separator :=
    if ¬ many then w.separator
    else if ¬ w.separates then (if w.joins then "\t" else " ")
    else if ¬ w.joins ∧ w.separator = "\t" then " "
    else w.separator
  let numbers : Option Numbers := if ¬ w.numbered then none else
    some ⟨w.numberTab, w.digits, w.digits + (if w.numberTab = '\t' then tabAt 8 w.digits else 1)⟩
  let used := if parallel then (numbers.map fun n => n.width).getD 0 else 0
  let room := (w.width - used - (columns - 1) * separator.length) / columns
  if room < 1 then Tool.fail 1 "page width too narrow"
  let (firstPage, lastPage) := w.pages.getD (1, Tools.Numbers.most)
  return {
    body, framed, keepsFeeds := w.keepsFeeds || short, doubleSpaced := w.doubleSpaced, parallel
    storing := many && !w.across && !w.parallel, separates := w.separates || many, separator := separator.toList
    truncates := (w.truncates || many) && !w.joins, expands := w.expands || (many && separator != "\t"), inTab := w.inTab, inWidth := w.inWidth
    tabs := w.tabs || many, outTab := w.outTab, outWidth := w.outWidth, numbers, room, margin := w.margin
    feeds := w.feeds, odd := w.odd, heading, firstPage, lastPage, countsSkipped := w.countsSkipped
    firstLine := if w.numbered then w.firstLine else 1 }

/-- The text of a file that is to be printed, if it can be opened. -/
def textOf (w : Wishes) (path : String) : Tool (Option (List Char)) := do
  match ← Tool.contentOf path with
  | .ok bytes => return some (Text.Octets.ofBytes bytes).toList
  | .error r =>
    if r = .isDirectory ∨ r = .badDescriptor then
      Tool.fail 1 (Quoting.file (if path = "-" then "standard input" else path) ++ ": " ++ r.message)
    if ¬ w.quiet then Tool.say (Quoting.file path ++ ": " ++ r.message)
    return none

/-- Prints texts on pages. -/
def printTexts (m : Manner) (texts : List (List Char)) (columns : Nat) : Tool Unit := do
  let (text, missing) := press m texts columns
  Tool.emit text
  if let some n := missing then
    Tool.say ("starting page number " ++ toString m.firstPage ++ " exceeds page count " ++ toString n)

/-- Sets text on pages. -/
def pr (args : List String) : Tool Nat := do
  let known := [wordTaking "pages", wordTaking "columns", flag "a" "across", flag "b", flag "c" "show-control-chars",
    flag "d" "double-space", taking "D" "date-format", mayTake "e" "expand-tabs", flag "f" "form-feed", flag "F",
    taking "h" "header", mayTake "i" "output-tabs", flag "J" "join-lines", taking "l" "length", flag "m" "merge",
    mayTake "n" "number-lines", taking "N" "first-line-number", taking "o" "indent", flag "r" "no-file-warnings",
    mayTake "s" "separator", mayTake "S" "sep-string", flag "t" "omit-header", flag "T" "omit-pagination",
    flag "v" "show-nonprinting", taking "w" "width", taking "W" "page-width"]
    ++ (List.range 10).map fun n => flag (toString n)
  let g ← Options.read { known } args
  let w ← takeAll g.options none false {}
  let (paths, w) ← w.withoutPages g.operands
  if w.parallel ∧ w.hasColumns then Tool.fail 1 "cannot specify number of columns when printing in parallel"
  if w.parallel ∧ w.across then Tool.fail 1 "cannot specify both printing across and printing in parallel"
  let w := w.settled
  let strict := (← Tool.setting "POSIXLY_CORRECT").isSome
  let format := w.date.getD (if strict then "%b %e %H:%M %Y" else "%Y-%m-%d %H:%M")
  let zone ← Dates.zone
  let l ← Tool.locale
  let heading (time : Nat) (name : String) (page : Nat) : String :=
    let date := Calendar.written (Calendar.partsOf zone (time / Dates.perSecond : Nat) (time % Dates.perSecond)) format
    headingOf l w date (w.header.getD name) page
  let now ← Proc.now
  if paths = [] then
    let m ← w.manner w.columns false (heading now "")
    match ← textOf w "-" with
    | some text =>
      printTexts m [text] w.columns
      return 0
    | none => return 1
  if w.parallel then
    let m ← w.manner paths.length true (heading now "")
    let texts ← paths.mapM (textOf w)
    let found := texts.filterMap id
    if found ≠ [] then printTexts m found found.length
    return if texts.all Option.isSome then 0 else 1
  else
    Tool.worst (fun path => do
      let (time, name) ← if path = "-" then pure (now, "") else
        match ← Making.known true path with
        | .ok (_, i) => pure (i.modified, path)
        | .error _ => pure (now, path)
      let m ← w.manner w.columns false (heading time name)
      match ← textOf w path with
      | some text =>
        printTexts m [text] w.columns
        return 0
      | none => return 1) paths

end TaskRunner.Tools.Pages
