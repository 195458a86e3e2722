import TaskRunner.Tools.Linking
import TaskRunner.FileSystem.Canonical
import TaskRunner.Tools.Making
import TaskRunner.Tools.Styles
import TaskRunner.Tools.Sorting
import TaskRunner.Tools.Wildcard

/-!
# Programs that show what there is

Programs that list directories, show what is known about files, how much place they take, and where paths
lead.
-/

namespace TaskRunner.Tools.Listing

open Processes
open Making (known inside)

/-- How many blocks of 512 bytes something takes. -/
def blocksOf (i : FileSystem.Info) : Nat :=
  match i.kind with
  | .directory => 8
  | .file => (i.size + 4095) / 4096 * 8
  | _ => 0

/-- The letter of a kind. -/
def kindLetter (i : FileSystem.Info) : String :=
  match i.kind with
  | .directory => "d"
  | .file => "-"
  | .link _ => "l"
  | .device _ => "c"
  | .pipe => "p"

/-- The bits of a kind. -/
def kindBits (i : FileSystem.Info) : Nat :=
  match i.kind with
  | .directory => 0o40000
  | .file => 0o100000
  | .link _ => 0o120000
  | .device _ => 0o20000
  | .pipe => 0o10000

/-- The numbers of a device. -/
def deviceNumbers : Device → Nat × Nat
  | .null => (1, 3)
  | .zero => (1, 5)
  | .full => (1, 7)
  | .random => (1, 8)

/-- A size with a letter for what it is counted in. -/
def shortSize (base n : Nat) : String :=
  let letters := ["", "K", "M", "G", "T", "P", "E"]
  let rec go : Nat → Nat → List String → String
    | 0, _, _ => toString n
    | _, _, [] => toString n
    | fuel + 1, unit, letter :: rest =>
      if n < unit * base then
        if letter = "" then toString n
        else
          -- Sizes are rounded up, to tenths below ten.
          let tenths := (n * 10 + unit - 1) / unit
          if tenths < 100 then toString (tenths / 10) ++ "." ++ toString (tenths % 10) ++ letter
          else
            let whole := (n + unit - 1) / unit
            if whole = base ∧ rest ≠ [] then "1.0" ++ rest.headD "" else toString whole ++ letter
      else go fuel (unit * base) rest
  let s := go 8 1 letters
  if base = 1000 then s.replace "K" "k" else s

/-! ## Lists -/

/-- What is listed: the name as given, and what is known about it. -/
structure Item where
  name : String
  location : Location
  info : FileSystem.Info
  /-- What a link leads to, if it leads to something. -/
  target : Option FileSystem.Info
  /-- Whether nothing is known, since what the name leads to was wanted and is not there. -/
  lost : Bool := false

/-- A number that is not known of what is not there. -/
def Item.number (i : Item) (n : String) : String := if i.lost then "?" else n

/-- How names are arranged. -/
inductive Layout where
  | single
  | long
  | columns
  | rows
  | commas
  deriving DecidableEq

/-- What stands after names. -/
inductive Marks where
  | none
  | slash
  | types
  | all
  deriving DecidableEq

/-- The width of lines without end. -/
def unlimited : Nat := 1000000

/-- How a list looks. -/
structure Look where
  layout : Layout
  /-- 0 for neither those that begin with a dot, 1 for all but the two directories, 2 for all. -/
  hidden : Nat
  ignored : List Wildcard
  hides : List Wildcard
  sort : String
  reverse : Bool
  directoriesFirst : Bool
  marks : Marks
  quoting : Quoting.Style
  locale : Text.Locale
  question : Bool
  /-- Whether there is a place before names that are not quoted. -/
  leavesPlace : Bool
  serials : Bool
  blocks : Bool
  numbers : Bool
  owner : Bool
  group : Bool
  author : Bool
  human : Option Nat
  /-- What sizes are counted in, and what stands after them. -/
  unit : Nat
  /-- What blocks are counted in. -/
  blockUnit : Nat
  suffix : String
  /-- Whether the time is that of the last use. -/
  byUse : Bool
  timeStyle : String
  recursive : Bool
  asFile : Bool
  follows : Bool
  followsFirst : Bool
  width : Nat
  tabs : Nat
  ending : String
  colored : Bool
  context : Bool

/-- A name as it is shown, and whether it is quoted; `more` are characters that are not written as they are. -/
def Look.quoted (o : Look) (more : List Char) (name : String) : String × Bool :=
  let (text, isQuoted) := o.quoting.write o.locale more name
  let masks : Bool := o.question && match o.quoting with
    | .literal | .shell _ false => true
    | _ => false
  (if masks then Quoting.masked o.locale text else text, isQuoted)

/-- A name as it is shown, under others that may be quoted. -/
def Look.nameOf (o : Look) (name : String) : String :=
  let (text, isQuoted) := o.quoted [] name
  if o.leavesPlace ∧ ¬ isQuoted then " " ++ text else text

/-- What stands after the name of something. -/
def Look.markOf (o : Look) (i : FileSystem.Info) : String :=
  if o.marks = .none then ""
  else match i.kind with
    | .directory => "/"
    | .link _ => if o.marks = .slash then "" else "@"
    | .file => if o.marks = .all ∧ i.mode &&& 0o111 ≠ 0 then "*" else ""
    | .pipe => if o.marks = .slash then "" else "|"
    | _ => ""

/-- A name in the color of its kind. -/
def Look.painted (o : Look) (i : FileSystem.Info) (name : String) : String :=
  let color := match i.kind with
    | .directory =>
      if i.mode &&& 0o1002 = 0o1002 then "30;42" else if i.mode &&& 0o2 ≠ 0 then "34;42"
      else if i.mode &&& 0o1000 ≠ 0 then "37;44" else "01;34"
    | .link _ => "01;36"
    | .device _ => "40;33;01"
    | .pipe => "40;33"
    | .file =>
      if i.mode &&& 0o4000 ≠ 0 then "37;41" else if i.mode &&& 0o2000 ≠ 0 then "30;43"
      else if i.mode &&& 0o111 ≠ 0 then "01;32" else ""
  if o.colored ∧ color ≠ "" then "\x1b[" ++ color ++ "m" ++ name ++ "\x1b[0m" else name

/-- What is shown of an item when it is not listed at length. -/
def Look.cell (o : Look) (serialWidth blockWidth : Nat) (i : Item) : String × Nat :=
  let serial := if o.serials then Numbers.right serialWidth (i.number (toString i.info.serial)) ++ " " else ""
  let blocks := if o.blocks then Numbers.right blockWidth (i.number (blockText i.info)) ++ " " else ""
  let context := if o.context then "? " else ""
  let name := o.nameOf i.name
  let mark := o.markOf i.info
  let before := serial ++ blocks ++ context
  (before ++ o.painted i.info name ++ mark, before.length + Quoting.placesOf o.locale name + mark.length)
where
  /-- How much place something takes. -/
  blockText (i : FileSystem.Info) : String := match o.human with
    | some base => shortSize base (blocksOf i * 512)
    | none => toString ((blocksOf i * 512 + o.blockUnit - 1) / o.blockUnit) ++ o.suffix

/-- The ending of a name after its last point. -/
def extensionOf (name : String) : String :=
  match (name.splitOn ".").reverse with
  | last :: _ :: _ => "." ++ last
  | _ => ""

/-- Puts items in order. -/
def Look.sorted (o : Look) (items : List Item) : List Item :=
  let byName (a b : Item) : Ordering := compare a.name b.name
  let sizeOf (i : Item) : Nat := if i.lost then 0 else i.info.size
  let timeOf (i : Item) : Nat := if i.lost then 0 else i.info.time o.byUse
  let order (a b : Item) : Ordering := match o.sort with
    | "size" => (compare (sizeOf b) (sizeOf a)).then (byName a b)
    | "time" => (compare (timeOf b) (timeOf a)).then (byName a b)
    | "extension" => (compare (extensionOf a.name) (extensionOf b.name)).then (byName a b)
    | "version" => (Sorting.compareNames a.name b.name).then (byName a b)
    | "width" => (compare a.name.length b.name.length).then (byName a b)
    | _ => byName a b
  let isFirst (i : Item) : Bool := i.info.kind == .directory || (i.target.any fun t => t.kind == .directory)
  let whole (a b : Item) : Bool :=
    let o' := order a b
    let o' := if o.reverse then o'.swap else o'
    if o.directoriesFirst && isFirst a != isFirst b then isFirst a else o' != .gt
  if o.sort = "none" then items else items.mergeSort whole

/-- The width of every column, if so many columns are filled; none if they do not fit. -/
def columnWidths (byRows : Bool) (lineWidth count : Nat) (lengths : Array Nat) : Option (List Nat) :=
  let rows := (lengths.size + count - 1) / count
  let widths := (List.range count).map fun c =>
    let places := if byRows then (List.range rows).map fun r => r * count + c else (List.range rows).map fun r => c * rows + r
    let longest := places.foldl (fun m p => match lengths[p]? with
      | some n => max m (n + if c + 1 = count then 0 else 2)
      | none => m) 3
    longest
  if widths.foldl (· + ·) 0 < lineWidth then some widths else none

/-- Blanks and tabs from one place to another. -/
def gap (tabs : Nat) : Nat → Nat → Nat → String
  | 0, _, _ => ""
  | n + 1, start, stop =>
    if stop ≤ start then ""
    else if tabs ≠ 0 ∧ (start + 1) / tabs < stop / tabs then "\t" ++ gap tabs n (start + tabs - start % tabs) stop
    else " " ++ gap tabs n (start + 1) stop

/-- Names in columns. -/
def Look.table (o : Look) (byRows : Bool) (cells : Array (String × Nat)) : Tool Unit := do
  let lengths := cells.map Prod.snd
  let most := max 1 (min cells.size (o.width / 3))
  let found := (List.range most).reverse.findSome? fun k =>
    (columnWidths byRows o.width (k + 1) lengths).map fun w => (k + 1, w)
  let (count, widths) := found.getD (1, [0])
  let rows := (cells.size + count - 1) / count
  for r in List.range rows do
    let places := (List.range count).filterMap fun c =>
      let p := if byRows then r * count + c else c * rows + r
      (cells[p]?).map fun cell => (cell, (widths[c]?).getD 0)
    let rec write : Nat → List ((String × Nat) × Nat) → Tool Unit
      | _, [] => pure ()
      | _, [((s, _), _)] => Tool.emit s
      | place, ((s, n), w) :: rest => do
        Tool.emit s
        Tool.emit (gap o.tabs (w + 1) (place + n) (place + w))
        write (place + w) rest
    write 0 places
    Tool.emit o.ending

/-- Names with commas between them. -/
def Look.commas (o : Look) (cells : List (String × Nat)) : Tool Unit := do
  let rec write : Nat → Bool → List (String × Nat) → Tool Unit
    | _, _, [] => pure ()
    | place, first, (s, n) :: rest => do
      let place ←
        if first then pure place
        else if o.width = 0 ∨ place + n + 2 < o.width then do
          Tool.emit ", "
          pure (place + 2)
        else do
          Tool.emit ",\n"
          pure 0
      Tool.emit s
      write (place + n) false rest
  write 0 true cells
  if cells ≠ [] then Tool.emit o.ending

/-- The time of an item. -/
def Look.timeText (o : Look) (zone : Calendar.Zone) (now : Nat) (i : FileSystem.Info) : String :=
  let time := i.time o.byUse
  let parts := Calendar.partsOf zone (time / Dates.perSecond : Nat) (time % Dates.perSecond)
  let half := 31556952 / 2 * Dates.perSecond
  let recent := now < time + half ∧ time ≤ now
  let form := match o.timeStyle with
    | "full-iso" => "%Y-%m-%d %H:%M:%S.%N %z"
    | "long-iso" => "%Y-%m-%d %H:%M"
    | "iso" => if recent then "%m-%d %H:%M" else "%Y-%m-%d "
    | "locale" => if recent then "%b %e %H:%M" else "%b %e  %Y"
    | s =>
      let forms := (s.drop 1).toString.splitOn "\n"
      if s.startsWith "+" then if recent then (forms[1]?).getD (forms.headD "") else forms.headD "" else "%b %e %H:%M"
  Calendar.written parts form

/-- Items at length. -/
def Look.lines (o : Look) (serialWidth blockWidth : Nat) (items : List Item) : Tool Unit := do
  let zone ← Dates.zone
  let now ← Proc.now
  let sizeText (i : FileSystem.Info) : String := match i.kind with
    | .device d => toString (deviceNumbers d).1 ++ ", " ++ toString (deviceNumbers d).2
    | _ => match o.human with
      | some base => shortSize base i.size
      | none => toString ((i.size + o.unit - 1) / o.unit) ++ o.suffix
  let widest (f : FileSystem.Info → String) : Nat :=
    items.foldl (fun m i => max m (if i.lost then 1 else (f i.info).length)) 0
  let linkWidth := widest fun i => toString i.names
  let sizeWidth := widest sizeText
  let first : FileSystem.Info := ⟨.file, 0, 0, 0, 0, 0, 0⟩
  let timeWidth := (o.timeText zone now first).length
  let owner := if o.numbers then "0" else "root"
  let ownerWidth := if items.any fun i => !i.lost then owner.length else 1
  for i in items do
    let time := if i.lost then Numbers.right timeWidth "?" else o.timeText zone now i.info
    let user := Numbers.left ownerWidth (i.number owner)
    let serial := if o.serials then Numbers.right serialWidth (i.number (toString i.info.serial)) ++ " " else ""
    let blocks := if o.blocks then Numbers.right blockWidth (i.number (Look.cell.blockText o i.info)) ++ " " else ""
    let owners := (if o.owner then user ++ " " else "") ++ (if o.group then user ++ " " else "")
      ++ (if o.author then user ++ " " else "") ++ (if o.context then "? " else "")
    let after := if i.lost then o.markOf i.info else match i.info.kind with
      | .link target =>
        " -> " ++ (o.quoted [] (Text.Octets.ofName target)).1 ++ (match i.target with
          | some t => o.markOf t
          | none => "")
      | _ => o.markOf i.info
    Tool.emit (serial ++ blocks ++ kindLetter i.info ++ (if i.lost then "?????????" else Modes.letters i.info.mode) ++ " "
      ++ Numbers.right linkWidth (i.number (toString i.info.names)) ++ " " ++ owners
      ++ Numbers.right sizeWidth (i.number (sizeText i.info)) ++ " " ++ time ++ " " ++ o.painted i.info (o.nameOf i.name) ++ after ++ o.ending)

/-- Shows items. -/
def Look.write (o : Look) (items : List Item) : Tool Unit := do
  let aligned : Bool := o.layout == .long || ((o.layout == .columns || o.layout == .rows) && o.width != unlimited)
  let o := { o with leavesPlace := aligned && o.quoting.isUneven && items.any fun i => (o.quoted [] i.name).2 }
  let widest (f : FileSystem.Info → String) : Nat :=
    items.foldl (fun m i => max m (if i.lost then 1 else (f i.info).length)) 0
  let serialWidth := widest fun i => toString i.serial
  let blockWidth := widest (Look.cell.blockText o)
  -- The first color is taken back before anything is shown.
  if o.colored ∧ items.any fun i => (o.painted i.info "").length ≠ 0 then Tool.emit "\x1b[0m"
  match o.layout with
  | .long => o.lines serialWidth blockWidth items
  | .single =>
    for i in items do
      Proc.step
      Tool.emit ((o.cell (if o.serials then serialWidth else 0) blockWidth i).1 ++ o.ending)
  | .columns => if items.isEmpty then pure () else o.table false (items.map (o.cell serialWidth blockWidth)).toArray
  | .rows => if items.isEmpty then pure () else o.table true (items.map (o.cell serialWidth blockWidth)).toArray
  | .commas => o.commas (items.map (o.cell 0 0))

/-- An item. -/
def itemOf (fs : FileSystem) (name : String) (l : Location) (e : Entry) : Item :=
  let target : Option FileSystem.Info := match e with
    | .link goal _ =>
      match fs.walk true ⟨l.tail, (fs.directory? l.tail).getD 0⟩ goal with
      | .ok k => (fs.held? k).map (fs.infoOf k)
      | .error _ => none
    | _ => none
  { name, location := l, info := fs.infoOf l e, target }

/-- Whether more than the name of a file is looked at. -/
def Look.looksAt (o : Look) : Bool :=
  o.layout == .long || o.blocks || o.sort == "time" || o.sort == "size" || o.serials || o.recursive || o.colored ||
    o.context || o.directoriesFirst || o.marks != .none

/-- The items of a directory. -/
def Look.itemsOf (o : Look) (fs : FileSystem) (l : Location) : List Item :=
  let matches_ (patterns : List Wildcard) (name : String) : Bool := patterns.any fun p => p.isMatch name
  let shown (name : String) : Bool :=
    (0 < o.hidden || !(name.startsWith "." || matches_ o.hides name)) && !matches_ o.ignored name
  let item (name : String) (l : Location) : Option Item := (fs.held? l).map fun e =>
    let i := itemOf fs name l e
    match o.follows, i.target, i.info.kind with
    | true, some info, _ => { i with info }
    | true, none, .link _ => { i with lost := o.looksAt }
    | _, _, _ => i
  let dots := if o.hidden = 2 ∧ fs.isDirectory l then [item "." l, item ".." l.tail].filterMap id else []
  dots ++ ((fs.names l).map fun n => (Text.Octets.ofName n, n)).filterMap fun (name, n) =>
    if shown name then item name (n :: l) else none

/-- Lists directories, and those below them if that is wanted. -/
def Look.directories (o : Look) (headers : Bool) : Nat → Bool → List (String × Location) → Tool Nat
  | 0, _, _ => return 0
  | _, _, [] => return 0
  | n + 1, first, (path, l) :: rest => do
    Proc.step
    let (fs, _) ← Proc.files
    let items := o.itemsOf fs l
    let lost := items.filter Item.lost
    for i in lost do
      Tool.say ("cannot access " ++ Quoting.always (inside path i.name) ++ ": " ++ Refusal.noEntry.message)
    let items := o.sorted items
    if headers ∨ o.recursive then Tool.emit ((if first then "" else "\n") ++ (o.quoted [':'] path).1 ++ ":\n")
    if o.layout = .long ∨ o.blocks then
      let total := ((items.filter fun i => !i.lost).map fun i => blocksOf i.info).foldl (· + ·) 0
      let shown := match o.human with
        | some base => shortSize base (total * 512)
        | none => toString ((total * 512 + o.blockUnit - 1) / o.blockUnit) ++ o.suffix
      Tool.emit ("total " ++ shown ++ o.ending)
    o.write items
    let inner := if o.recursive then
        items.filterMap fun i =>
          if i.info.kind = .directory ∧ i.name ≠ "." ∧ i.name ≠ ".." then some (inside path i.name, i.location) else none
      else []
    let status ← o.directories headers n false (inner ++ rest)
    return if lost = [] then status else max 1 status

/-- What sizes are counted in, and what stands after them. -/
def unitOf (status : Nat) (option s : String) : Tool (Nat × String) := do
  match Numbers.size s, Numbers.size ("1" ++ s) with
  | .ok (n + 1), _ => return (n + 1, "")
  | .error .tooLarge, _ => Tool.fail status (option ++ " argument '" ++ s ++ "' too large")
  | .error .invalid, .ok n => return (n, s)
  | found, _ =>
    let isSuffix : Bool := match s.toList, found with
      | c :: _, .error _ => c.isDigit || "eEgGkKmMpPtTyYzZ".toList.contains c
      | _, _ => false
    Tool.fail status ("invalid " ++ (if isSuffix then "suffix in " else "") ++ option ++ " argument '" ++ s ++ "'")

/-- The style of times that is asked for. -/
def timeStyleOf (g : Given) : Tool String := do
  if g.lastOf? ["full-time", "time-style"] = some "full-time" then return "full-iso"
  let asked := (g.last? "time-style") <|> ((← Tool.setting "TIME_STYLE").filter (· ≠ ""))
  match asked with
  | none => return "locale"
  | some s =>
    let s := if s.startsWith "posix-" then "locale" else s
    if s.startsWith "+" then
      let forms := (s.drop 1).toString.splitOn "\n"
      if 2 < forms.length then Tool.fail 2 ("invalid time style format " ++ Quoting.local_ (String.intercalate "\n" forms))
      return s
    let styles := ["full-iso", "long-iso", "iso", "locale"]
    match styles.filter (· = s), styles.filter fun w => w.startsWith s with
    | [w], _ | [], [w] => return w
    | _, found =>
      Tool.say ((if found = [] then "invalid" else "ambiguous") ++ " argument " ++ Quoting.local_ s ++ " for "
        ++ Quoting.local_ "time style")
      Tool.note ("Valid arguments are:\n" ++ String.join (styles.map fun w => "  - [posix-]" ++ w ++ "\n")
        ++ "  - +FORMAT (e.g., +%H:%M) for a 'date'-style format\n")
      Tool.hint
      throw 2

/-- The patterns of options. -/
def patternsOf (g : Given) (key : String) : List Wildcard := (g.all key).map fun s => Wildcard.ofString s

/-- Lists what paths lead to. `usual` is the layout if none is asked for. -/
def list (usual : Layout) (usualQuoting : Quoting.Style) (args : List String) : Tool Nat := do
  let g ← Options.read
    { known := [flag "a" "all", flag "A" "almost-all", word "author", flag "b" "escape", wordTaking "block-size",
        flag "B" "ignore-backups", flag "c", flag "C", wordMayTake "color", flag "d" "directory", flag "D" "dired", flag "f",
        wordMayTake "classify", flag "F", word "file-type", wordTaking "format", word "full-time", flag "g",
        word "group-directories-first", flag "G" "no-group", flag "h" "human-readable", word "si",
        flag "H" "dereference-command-line", word "dereference-command-line-symlink-to-dir", wordTaking "hide",
        wordMayTake "hyperlink", wordTaking "indicator-style", flag "i" "inode", taking "I" "ignore", flag "k" "kibibytes",
        flag "l", flag "L" "dereference", flag "m", flag "n" "numeric-uid-gid", flag "N" "literal", flag "o", flag "p",
        flag "q" "hide-control-chars", word "show-control-chars", flag "Q" "quote-name", wordTaking "quoting-style",
        flag "r" "reverse", flag "R" "recursive", flag "s" "size", flag "S", wordTaking "sort", wordTaking "time",
        wordTaking "time-style", flag "t", taking "T" "tabsize", flag "u", flag "U", flag "v", taking "w" "width", flag "x",
        flag "X", flag "Z" "context", flag "1", word "zero"], status := 2 } args
  let choose (key : String) (groups : List (List String)) : Tool (Option String) := do
    match g.last? key with
    | some w => some <$> Options.choice 1 ("--" ++ key) groups w
    | none => pure none
  let color ← choose "color" [["always", "yes", "force"], ["never", "no", "none"], ["auto", "tty", "if-tty"]]
  let sortWord ← choose "sort" [["none"], ["time"], ["size"], ["extension"], ["version"], ["width"]]
  let form ← choose "format" [["verbose", "long"], ["commas"], ["horizontal", "across"], ["vertical"], ["single-column"]]
  let indicator ← choose "indicator-style" [["none"], ["slash"], ["file-type"], ["classify"]]
  let quotingWord ← choose "quoting-style" (Quoting.Style.all.map fun (name, _) => [name])
  let timeGiven ← choose "time"
    [["atime", "access", "use"], ["ctime", "status"], ["mtime", "modification"], ["birth", "creation"]]
  let timeWord : Option String := match g.lastOf? ["c", "u", "time"] with
    | some "c" => some "ctime"
    | some "u" => some "atime"
    | some _ => timeGiven
    | none => none
  let isFlat := g.lastOf? ["l", "g", "o", "n", "C", "x", "m", "1", "format", "f", "full-time", "zero"]
  let long := ["l", "g", "o", "n", "full-time"].any g.has
  let layout : Layout := match isFlat with
    | some "C" => .columns
    | some "x" => .rows
    | some "m" => .commas
    | some "1" | some "zero" => if long then .long else .single
    | some "f" => if long then .long else usual
    | some "format" => match form with
      | some "verbose" => .long
      | some "commas" => .commas
      | some "horizontal" => .rows
      | some "vertical" => .columns
      | _ => .single
    | some _ => .long
    | none => usual
  let sort : String := match g.lastOf? ["t", "S", "X", "v", "U", "f", "sort"] with
    | some "t" => "time"
    | some "S" => "size"
    | some "X" => "extension"
    | some "v" => "version"
    | some "U" | some "f" => "none"
    | some _ => sortWord.getD "name"
    | none => if timeWord.isSome ∧ layout ≠ .long then "time" else "name"
  let marks : Marks := match g.lastOf? ["F", "classify", "p", "file-type", "indicator-style"] with
    | some "F" | some "classify" => .all
    | some "p" => .slash
    | some "file-type" => .types
    | some _ => match indicator with
      | some "slash" => .slash
      | some "file-type" => .types
      | some "classify" => .all
      | _ => .none
    | none => .none
  let asked := (← Tool.setting "QUOTING_STYLE").filter (· ≠ "")
  match asked with
  | some name =>
    if (Quoting.Style.ofName? name).isNone then
      Tool.say ("ignoring invalid value of environment variable QUOTING_STYLE: " ++ Quoting.local_ name)
  | none => pure ()
  let quoting : Quoting.Style := match g.lastOf? ["b", "N", "Q", "quoting-style"] with
    | some "b" => .backslashes
    | some "N" => .literal
    | some "Q" => .string true
    | some _ => (quotingWord.bind Quoting.Style.ofName?).getD .literal
    | none => (asked.bind Quoting.Style.ofName?).getD usualQuoting
  let width ← match g.last? "w" with
    | some s => match Numbers.whole s with
      | .ok n => pure (if n = 0 then unlimited else n)
      | .error _ => Tool.fail 2 ("invalid line width: " ++ Quoting.local_ s)
    | none => do
      let own := ((← Tool.setting "COLUMNS").bind String.toNat?).getD 80
      pure (if own = 0 then 80 else own)
  let tabs ← match g.last? "T" with
    | some s => match Numbers.whole s with
      | .ok n => pure n
      | .error _ => Tool.fail 2 ("invalid tab size: " ++ Quoting.local_ s)
    | none => pure 8
  let (unit, blockUnit, suffix) ← match g.last? "block-size" with
    | some s => do
      let (n, suffix) ← unitOf 2 "--block-size" s
      pure (n, n, suffix)
    | none => pure (1, 1024, "")
  let locale ← Tool.locale
  let timeStyle ← if layout = .long then timeStyleOf g else pure "locale"
  -- Colors are for those who say what they look at.
  let paints ← ["LS_COLORS", "COLORTERM", "TERM"].anyM fun name => do return (← Tool.setting name).any (· ≠ "")
  let o : Look :=
    { layout
      hidden := if g.has "a" ∨ g.has "f" then (match g.lastOf? ["a", "A", "f"] with
        | some "A" => 1
        | _ => 2) else if g.has "A" then 1 else 0
      ignored := patternsOf g "I" ++ (if g.has "B" then [Wildcard.ofString "*~"] else [])
      hides := patternsOf g "hide", sort, reverse := g.has "r", directoriesFirst := g.has "group-directories-first", marks
      quoting, locale, leavesPlace := false, question := g.has "q" && !g.has "show-control-chars", serials := g.has "i", blocks := g.has "s"
      numbers := g.has "n", owner := !g.has "g", group := !(g.has "o" || g.has "G"), author := g.has "author"
      human := if g.has "h" then some 1024 else if g.has "si" then some 1000 else none
      unit, blockUnit, suffix, byUse := timeWord == some "atime", timeStyle
      recursive := g.has "R", asFile := g.has "d", follows := g.has "L"
      followsFirst := g.has "L" || g.has "H" || !(layout == .long || g.has "d" || marks == .all)
      width, tabs, ending := if g.has "zero" then "\x00" else "\n", colored := color == some "always" && paints && !g.has "zero"
      context := g.has "Z" }
  let (fs, place) ← Proc.files
  let mut items : List Item := []
  let mut folders : List Item := []
  let mut status := 0
  for path in if g.operands = [] then ["."] else g.operands do
    let follow := o.follows ∨ o.followsFirst ∨ g.has "dereference-command-line-symlink-to-dir"
    let plain : Except Refusal (Location × FileSystem.Info) := fs.info false place (Text.Octets.toText path)
    let found : Except Refusal (Location × FileSystem.Info) := fs.info follow place (Text.Octets.toText path)
    let isLink : Bool := match plain with
      | .ok (_, i) => (match i.kind with
        | .link _ => true
        | _ => false)
      | .error _ => false
    -- Links that are followed only to directories are listed themselves otherwise.
    let found : Except Refusal (Location × FileSystem.Info) := match found with
      | .ok (l, i) => if isLink ∧ i.kind ≠ .directory ∧ ¬ o.follows ∧ ¬ g.has "H" then plain else .ok (l, i)
      | .error r => if isLink ∧ ¬ o.follows ∧ ¬ g.has "H" then plain else .error r
    match found with
    | .error r =>
      Tool.say ("cannot access " ++ Quoting.always path ++ ": " ++ r.message)
      status := 2
    | .ok (l, i) =>
      let target : Option FileSystem.Info := match fs.info true place (Text.Octets.toText path) with
        | .ok (_, t) => some t
        | .error _ => none
      let item : Item := { name := path, location := l, info := i, target }
      if i.kind = .directory ∧ ¬ o.asFile then folders := folders ++ [item] else items := items ++ [item]
  o.write (o.sorted items)
  if ¬ items.isEmpty ∧ ¬ folders.isEmpty then Tool.emit "\n"
  let headers : Bool := !items.isEmpty || 1 < g.operands.length
  let more ← o.directories headers Proc.endless true ((o.sorted folders).map fun i => (i.name, i.location))
  return max status more

/-- Lists what paths lead to. -/
def ls : List String → Tool Nat := list .single .literal

/-- Lists what paths lead to, in columns. -/
def dir : List String → Tool Nat := list .columns .backslashes

/-- Lists what paths lead to, at length. -/
def vdir : List String → Tool Nat := list .long .backslashes

/-! ## What is known about files -/

/-- What a letter stands for; whether it is a number. -/
def statPiece (l : Text.Locale) (path : String) (zone : Calendar.Zone) (i : FileSystem.Info) (c : Char) : Option (String × Bool) :=
  let instant : Nat := if c = 'x' ∨ c = 'X' then i.accessed else i.modified
  let parts := Calendar.partsOf zone (instant / Dates.perSecond : Nat) (instant % Dates.perSecond)
  let numbers := match i.kind with
    | .device d => deviceNumbers d
    | _ => (0, 0)
  let hex (n : Nat) : String := String.ofList (Nat.toDigits 16 n)
  match c with
  | 'a' => some (Modes.octal 1 i.mode, true)
  | 'A' => some (kindLetter i ++ Modes.letters i.mode, false)
  | 'b' => some (toString (blocksOf i), true)
  | 'B' => some ("512", true)
  | 'd' => some ("65024", true)
  | 'D' => some ("fe00", true)
  | 'f' => some (hex (kindBits i ||| i.mode), true)
  | 'F' => some (Making.kindName i, false)
  | 'g' | 'u' => some ("0", true)
  | 'G' | 'U' => some ("root", false)
  | 'h' => some (toString i.names, true)
  | 'i' => some (toString i.serial, true)
  | 'm' => some ("/", false)
  | 'n' => some (path, false)
  | 'N' => some (Quoting.shellQuoted (l.characters path) ++ (match i.kind with
    | .link target => " -> " ++ Quoting.shellQuoted (l.characters (Text.Octets.ofName target))
    | _ => ""), false)
  | 'o' => some ("4096", true)
  | 's' => some (toString i.size, true)
  | 't' => some (hex numbers.1, true)
  | 'T' => some (hex numbers.2, true)
  | 'w' | 'x' | 'y' | 'z' => some (Calendar.written parts "%Y-%m-%d %H:%M:%S.%N %z", false)
  | 'W' | 'X' | 'Y' | 'Z' => some (toString (instant / Dates.perSecond), true)
  | _ => none

/-- Writes what a format says about a file. -/
def statText (l : Text.Locale) (path : String) (zone : Calendar.Zone) (i : FileSystem.Info) : Nat → List Char → String
  | 0, _ => ""
  | _, [] => ""
  | n + 1, '%' :: rest =>
    let (flags, after) := rest.span fun c => ['-', '0', '#', '+', ' ', '\x27'].contains c
    let (width, after) := after.span Char.isDigit
    let (precision, after) : Option (List Char) × List Char := match after with
      | '.' :: more => let (p, after) := more.span Char.isDigit; (some p, after)
      | after => (none, after)
    match after with
    | [] => "%"
    | '%' :: after => "%" ++ statText l path zone i n after
    | c :: after =>
      let isSeconds := c = 'Y' ∨ c = 'X' ∨ c = 'W' ∨ c = 'Z'
      let text := match statPiece l path zone i c, precision with
        | none, _ => "?"
        | some (s, number), some p =>
          if isSeconds then
            let places := if p = [] then 9 else Decimal.natOf 10 p
            let nanos := toString ((if c = 'X' then i.accessed else i.modified) % Dates.perSecond)
            s ++ "." ++ ((String.ofList (List.replicate (9 - nanos.length) '0') ++ nanos).take places).toString
          else if number then String.ofList (List.replicate (Decimal.natOf 10 p - s.length) '0') ++ s
          else (s.take (Decimal.natOf 10 p)).toString
        | some (s, _), none => if flags.contains '#' ∧ c = 'a' then "0" ++ s else s
      let isNumber : Bool := match statPiece l path zone i c with
        | some (_, number) => number
        | none => false
      let places := Decimal.natOf 10 width
      let padded := if flags.contains '-' then Numbers.left places text
        else if flags.contains '0' ∧ isNumber then String.ofList (List.replicate (places - text.length) '0') ++ text
        else Numbers.right places text
      padded ++ statText l path zone i n after
  | n + 1, c :: rest => String.singleton c ++ statText l path zone i n rest

/-- The usual text about a file. -/
def statUsual (i : FileSystem.Info) : String :=
  let name := match i.kind with
    | .link _ => "%N"
    | _ => "%n"
  let device := match i.kind with
    | .device _ => " Device type: %t,%T"
    | _ => ""
  "  File: " ++ name ++ "\n  Size: %-10s\tBlocks: %-10b IO Block: %-6o %F\nDevice: 254,0\tInode: %-11i Links: "
    ++ (if device = "" then "%h" else "%-5h") ++ device ++ "\nAccess: (%04a/%10.10A)  Uid: (%5u/%8U)   Gid: (%5g/%8G)\n"
    ++ "Access: %x\nModify: %y\nChange: %z\n Birth: %w\n"

/-- Shows what is known about files. -/
def stat (args : List String) : Tool Nat := do
  let g ← Options.read
    { known := [taking "c" "format", flag "L" "dereference", flag "f" "file-system", wordTaking "printf", flag "t" "terse",
        wordTaking "cached"] } args
  if g.operands = [] then Tool.misuse 1 "missing operand"
  let zone ← Dates.zone
  let l ← Tool.locale
  Tool.worst (fun path => do
    let found ← if path = "-" then do
        let node ← Proc.observe fun pid k => (k.index? pid 0).bind fun i => k.descriptions[i]?
        let (fs, _) ← Proc.files
        pure (match node with
          | some ⟨.file n, _, _, _, _⟩ => .ok ([], fs.infoOf [] (.file n))
          | some ⟨.device d, _, _, _, _⟩ => .ok ([], fs.infoOf [] (.device d))
          | some d => .ok ([], fs.infoOf [] (.pipe (d.channel.serial)))
          | none => .error .badDescriptor)
      else known (g.has "L") path
    match found with
    | .error r =>
      Tool.say (if g.has "f" then "cannot read file system information for " ++ Quoting.always path ++ ": " ++ r.message
        else "cannot statx " ++ Quoting.always path ++ ": " ++ r.message)
      return 1
    | .ok (_, i) =>
      let text (s : String) : String := statText l path zone i (s.length + 1) s.toList
      match g.last? "printf", g.last? "c" with
      | some s, _ =>
        let (converted, _) := Shell.Escapes.convert Shell.Escapes.ofFormat s
        Tool.emit (text converted)
      | none, some s => Tool.emitLine (text s)
      | none, none =>
        Tool.emit (if g.has "t" then text "%n %s %b %f %u %g %D %i %h %t %T %X %Y %Z %W %o\n" else text (statUsual i))
      return 0) g.operands

/-! ## How much place files take -/

/-- How sizes are added up. -/
structure Sums where
  every : Bool
  deepest : Option Nat
  separate : Bool
  bytes : Bool
  shown : Nat → String
  ending : String

/-- Shows the sizes of what is at a path: its own size with all below it, and the serial numbers that have been met. -/
def sizesAt (o : Sums) (n depth : Nat) (path : String) (l : Location) (met : List Nat) : Tool (Nat × Nat × List Nat) := do
  match n with
  | 0 => return (0, 0, met)
  | n + 1 =>
    Proc.step
    let (fs, _) ← Proc.files
    match fs.held? l with
    | none => return (0, 0, met)
    | some e =>
      let i := fs.infoOf l e
      if met.contains i.serial ∧ (1 < i.names ∨ depth = 0) then return (0, 0, met)
      let met := i.serial :: met
      let own := if o.bytes then (if i.kind = .directory then 0 else i.size) else blocksOf i * 512
      let line (size : Nat) : Tool Unit := Tool.emit (o.shown size ++ "\t" ++ path ++ o.ending)
      let isShown : Bool := match o.deepest with
        | some d => depth ≤ d
        | none => true
      if i.kind = .directory then
        let (inner, direct, met) ← below n (fs.names l) met
        let total := own + inner
        if isShown then line (if o.separate then own + direct else total)
        return (total, 0, met)
      else
        if isShown ∧ (o.every ∨ depth = 0) then line own
        return (own, own, met)
where
  /-- The sizes of what is in a directory: all of them, and those of files alone. -/
  below (n : Nat) : List String → List Nat → Tool (Nat × Nat × List Nat)
    | [], met => return (0, 0, met)
    | name :: rest, met => do
      let (a, f, met) ← sizesAt o n (depth + 1) (inside path (Text.Octets.ofName name)) (name :: l) met
      let (b, g, met) ← below n rest met
      return (a + b, f + g, met)

/-- Shows how much place files take. -/
def du (args : List String) : Tool Nat := do
  let g ← Options.read
    { known := [flag "0" "null", flag "a" "all", word "apparent-size", taking "B" "block-size", flag "b" "bytes",
        flag "c" "total", flag "D" "dereference-args", flag "H", taking "d" "max-depth", wordTaking "files0-from",
        flag "h" "human-readable", word "si", wordTaking "exclude", flag "k", flag "L" "dereference", flag "l" "count-links",
        flag "m", flag "P" "no-dereference", flag "S" "separate-dirs", flag "s" "summarize", taking "t" "threshold",
        flag "x" "one-file-system", wordMayTake "time", wordTaking "time-style", word "inodes"] } args
  let deepest ← match g.last? "d" with
    | some s => match Numbers.whole s with
      | .ok n => pure (some n)
      | .error _ => Tool.misuse 1 ("invalid maximum depth " ++ Quoting.local_ s)
    | none => pure (if g.has "s" then some 0 else none)
  let (unit, suffix) ← match g.lastOf? ["b", "k", "m", "B"] with
    | some "b" => pure (1, "")
    | some "k" => pure (1024, "")
    | some "m" => pure (1048576, "")
    | some _ => unitOf 1 "--block-size" ((g.last? "B").getD "")
    | none => pure (1024, "")
  let human := g.has "h"
  let o : Sums :=
    { every := g.has "a", deepest, separate := g.has "S", bytes := g.has "b" || g.has "apparent-size"
      shown := fun n => if human then shortSize 1024 n else if g.has "si" then shortSize 1000 n else toString ((n + unit - 1) / unit) ++ suffix
      ending := if g.has "0" then "\x00" else "\n" }
  let depth ← Making.depth
  let mut met : List Nat := []
  let mut total := 0
  let mut status := 0
  let listed ← match g.last? "files0-from" with
    | some list => pure (some (← Options.listedIn 1 "cannot open" list g.operands))
    | none => pure none
  if (listed.map Prod.snd).getD true = false then status := 1
  for path in (listed.map Prod.fst).getD (if g.operands = [] then ["."] else g.operands) do
    match ← known (g.has "D" || g.has "H" || g.has "L") path with
    | .error r =>
      Tool.say ("cannot access " ++ Quoting.always path ++ ": " ++ r.message)
      status := 1
    | .ok (l, _) =>
      let (size, _, seen) ← sizesAt o depth 0 path l met
      met := seen
      total := total + size
  if g.has "c" then Tool.emit (o.shown total ++ "\ttotal" ++ o.ending)
  return status

/-! ## Where paths lead -/

/-- The path of a location, as bytes. -/
def pathOf (l : Location) : String := Text.Octets.ofName l.toString

/-- Shows where links lead. -/
def readlink (args : List String) : Tool Nat := do
  let g ← Options.read
    { known := [flag "f" "canonicalize", flag "e" "canonicalize-existing", flag "m" "canonicalize-missing",
        flag "n" "no-newline", flag "q" "quiet", flag "s" "silent", flag "v" "verbose", flag "z" "zero"] } args
  if g.operands = [] then Tool.misuse 1 "missing operand"
  let presence : Option FileSystem.Presence := match g.lastOf? ["f", "e", "m"] with
    | some "f" => some .around
    | some "e" => some .all
    | some _ => some .nothing
    | none => none
  let bare := g.has "n"
  if bare ∧ 1 < g.operands.length then Tool.say "ignoring --no-newline with multiple arguments"
  let ending := if g.has "z" then "\x00" else if bare ∧ g.operands.length = 1 then "" else "\n"
  Tool.worst (fun path => do
    let (fs, place) ← Proc.files
    let found : Except Refusal String := match presence with
      | some p => (fs.canonical p true place (Text.Octets.toText path)).map pathOf
      | none => match fs.info false place (Text.Octets.toText path) with
        | .ok (_, ⟨.link target, _, _, _, _, _, _⟩) => .ok (Text.Octets.ofName target)
        | .ok _ => .error .invalid
        | .error r => .error r
    match found with
    | .ok s =>
      Tool.emit (s ++ ending)
      return 0
    | .error r =>
      if g.has "v" then Tool.say (Quoting.file path ++ ": " ++ r.message)
      return 1) g.operands

/-- Shows the locations behind paths. -/
def realpath (args : List String) : Tool Nat := do
  let g ← Options.read
    { known := [flag "e" "canonicalize-existing", flag "m" "canonicalize-missing", flag "L" "logical", flag "P" "physical",
        flag "q" "quiet", wordTaking "relative-to", wordTaking "relative-base", flag "s" "strip", ⟨"s", some "no-symlinks", .none⟩,
        flag "z" "zero"] } args
  if g.operands = [] then Tool.misuse 1 "missing operand"
  let presence : FileSystem.Presence := match g.lastOf? ["e", "m"] with
    | some "e" => .all
    | some _ => .nothing
    | none => .around
  let ending := if g.has "z" then "\x00" else "\n"
  let locate (path : String) : Tool (Except Refusal Location) := do
    let (fs, place) ← Proc.files
    let path := Text.Octets.toText path
    if g.has "L" ∧ ¬ g.has "s" then
      return match fs.canonical .nothing false place path with
        | .ok l => fs.canonical presence true place (l.toString)
        | .error r => .error r
    else return fs.canonical (if g.has "s" then .nothing else presence) (!g.has "s") place path
  let start (key : String) : Tool (Option Location) := match g.last? key with
    | none => pure none
    | some path => do
      match ← locate path with
      | .ok l => pure (some l)
      | .error r => Tool.fail 1 (Quoting.file path ++ ": " ++ r.message)
  let dest ← start "relative-to"
  let base ← start "relative-base"
  Tool.worst (fun path => do
    match ← locate path with
    | .ok l =>
      let within : Bool := match base with
        | some b => FileSystem.isWithin l b && (dest.all fun t => FileSystem.isWithin t b)
        | none => true
      let s := match dest <|> base with
        | some t => if within then Linking.relativePath t l else pathOf l
        | none => pathOf l
      Tool.emit (s ++ ending)
      return 0
    | .error r =>
      if ¬ g.has "q" then Tool.say (Quoting.file path ++ ": " ++ r.message)
      return 1) g.operands

/-- Shows the directory that the program stands in. -/
def pwd (args : List String) : Tool Nat := do
  let g ← Options.read { known := [flag "L" "logical", flag "P" "physical"] } args
  if g.operands ≠ [] then Tool.say "ignoring non-option arguments"
  let (fs, place) ← Proc.files
  let own ← Tool.setting "PWD"
  let named : Option String := own.filter fun s =>
    s.startsWith "/" && !(s.splitOn "/").any (fun n => n == "." || n == "..") &&
      (match fs.walk true place (Text.Octets.toText s) with
        | .ok l => l == place.location
        | .error _ => false)
  if ¬ fs.holds place then Tool.fail 1 ("couldn't find directory entry in " ++ Quoting.local_ ".." ++ " with matching i-node")
  match g.lastOf? ["L", "P"], named with
  | some "L", some s => Tool.emitLine s
  | _, _ => Tool.emitLine (pathOf place.location)
  return 0

end TaskRunner.Tools.Listing
