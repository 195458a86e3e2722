import TaskRunner.Tools.Running

/-!
# Programs that work in blocks

Bytes are copied block by block, or cut into files.
-/

namespace TaskRunner.Tools.Blocks

open Processes

/-! ## Copying in blocks -/

/-- What blocks are copied, and how. -/
structure Copy where
  input : Option String := none
  output : Option String := none
  inSize : Nat := 512
  outSize : Nat := 512
  /-- Whether blocks are written as they are read. -/
  direct : Bool := false
  recordSize : Nat := 0
  skip : Nat := 0
  seek : Nat := 0
  count : Option Nat := none
  skipsBytes : Bool := false
  seeksBytes : Bool := false
  countsBytes : Bool := false
  conversions : List String := []
  inFlags : List String := []
  outFlags : List String := []
  status : String := ""

/-- What a suffix multiplies by. -/
def factorOf : String → Option Nat
  | "" | "c" | "B" => some 1
  | "w" => some 2
  | s => Numbers.factor? s

/-- A number of bytes or blocks, perhaps a product. -/
def numberOf (s : String) : Option Nat :=
  (s.splitOn "x").foldl (fun product part => do
    let product ← product
    let (digits, suffix) := part.toList.span Char.isDigit
    if digits = [] then none
    else
      let factor ← factorOf (String.ofList suffix)
      some (product * Decimal.natOf 10 digits * factor)) (some 1)

/-- The conversions that there are. -/
def knownConversions : List String :=
  ["ascii", "ebcdic", "ibm", "block", "unblock", "lcase", "ucase", "sparse", "swab", "sync", "excl", "nocreat", "notrunc",
    "noerror", "fdatasync", "fsync"]

/-- The ways in which files are read and written. -/
def fileFlags : List String :=
  ["append", "binary", "cio", "direct", "directory", "dsync", "noatime", "nocache", "noctty", "nofollow", "nolinks",
    "nonblock", "sync", "text", "fullblock", "count_bytes", "skip_bytes", "seek_bytes"]

/-- Words with commas between them, each one of some. -/
def wordsOf (known : List String) (label value : String) : Tool (List String) := do
  let words := value.splitOn ","
  match words.find? fun w => !known.contains w with
  | none => return words
  | some w => Tool.misuse 1 ("invalid " ++ label ++ ": " ++ Quoting.local_ w)

/-- Reads an argument. -/
def Copy.read (c : Copy) (arg : String) : Tool Copy := do
  let unknown {α : Type} : Tool α := Tool.misuse 1 ("unrecognized operand " ++ Quoting.local_ arg)
  match arg.toList.span (· != '=') with
  | (_, []) => unknown
  | (name, _ :: value) =>
    let value := String.ofList value
    let number (least : Nat) : Tool Nat := do
      match numberOf value with
      | some n =>
        if n < least then Tool.fail 1 ("invalid number: " ++ Quoting.local_ value)
        if 9223372036854775807 < n then
          Tool.fail 1 ("invalid number: " ++ Quoting.local_ value ++ ": Value too large for defined data type")
        return n
      | none => Tool.fail 1 ("invalid number: " ++ Quoting.local_ value)
    match String.ofList name with
    | "if" => return { c with input := some value }
    | "of" => return { c with output := some value }
    | "ibs" => do return { c with inSize := ← number 1 }
    | "obs" => do return { c with outSize := ← number 1 }
    | "bs" => do
      let n ← number 1
      return { c with inSize := n, outSize := n, direct := true }
    | "cbs" => do return { c with recordSize := ← number 1 }
    | "skip" | "iseek" => do return { c with skip := ← number 0, skipsBytes := c.skipsBytes || value.endsWith "B" }
    | "seek" | "oseek" => do return { c with seek := ← number 0, seeksBytes := c.seeksBytes || value.endsWith "B" }
    | "count" => do
      let n ← number 0
      return { c with count := some n, countsBytes := c.countsBytes || value.endsWith "B" }
    | "conv" => do return { c with conversions := c.conversions ++ (← wordsOf knownConversions "conversion" value) }
    | "iflag" => do return { c with inFlags := c.inFlags ++ (← wordsOf fileFlags "input flag" value) }
    | "oflag" => do return { c with outFlags := c.outFlags ++ (← wordsOf fileFlags "output flag" value) }
    | "status" => do return { c with status := (← wordsOf ["none", "noxfer", "progress"] "status level" value).headD "" }
    | _ => unknown

/-- How many blocks were whole and how many were not. -/
structure Tally where
  whole : Nat := 0
  partial_ : Nat := 0

/-- Counts a block. -/
def Tally.add (t : Tally) (full : Bool) : Tally :=
  if full then { t with whole := t.whole + 1 } else { t with partial_ := t.partial_ + 1 }

/-- What has been copied so far. -/
structure Copied where
  read : Tally := {}
  written : Tally := {}
  bytes : Nat := 0
  /-- What waits until there is a block of it. -/
  held : ByteArray := ByteArray.empty
  /-- How far the record that is being read has come. -/
  column : Nat := 0
  /-- Blanks at the end of what has been read of a record. -/
  blanks : Nat := 0

/-- Changes the order of bytes that stand together. -/
def swapped : List UInt8 → List UInt8
  | a :: b :: rest => b :: a :: swapped rest
  | rest => rest

/-- Changes bytes as it is wanted. -/
def Copy.converted (c : Copy) (bytes : ByteArray) : ByteArray :=
  let has (s : String) : Bool := c.conversions.contains s
  let cased (b : UInt8) : UInt8 :=
    if has "ucase" && 97 ≤ b && b ≤ 122 then b - 32 else if has "lcase" && 65 ≤ b && b ≤ 90 then b + 32 else b
  let l := bytes.toList.map cased
  ((if has "swab" then swapped l else l)).toByteArray

/-- Makes lines records of one size, with blanks at their ends. -/
def toRecords (size : Nat) : Nat → List UInt8 → List UInt8 × Nat
  | column, [] => ([], column)
  | column, b :: rest =>
    if b = 10 then
      let (more, column') := toRecords size 0 rest
      (List.replicate (size - column) 32 ++ more, column')
    else
      let (more, column') := toRecords size (column + 1) rest
      (if column < size then b :: more else more, column')

/-- Makes records lines, without the blanks at their ends. -/
def toLines (size : Nat) : Nat → Nat → List UInt8 → List UInt8 × Nat × Nat
  | column, blanks, [] => ([], column, blanks)
  | column, blanks, b :: rest =>
    let (before, column, blanks) := if column = size then ([10], 0, 0) else ([], column, blanks)
    if b = 32 then
      let (more, state) := toLines size (column + 1) (blanks + 1) rest
      (before ++ more, state)
    else
      let (more, state) := toLines size (column + 1) 0 rest
      (before ++ List.replicate blanks 32 ++ b :: more, state)

/-- Stops, telling what has been copied. -/
def Copy.summary (c : Copy) (s : Copied) : Tool Unit := do
  if c.status = "none" then return
  let line (t : Tally) (what : String) : String := toString t.whole ++ "+" ++ toString t.partial_ ++ " records " ++ what ++ "\n"
  Tool.note (line s.read "in" ++ line s.written "out")
  if c.status ≠ "noxfer" then
    let scaled (base : Nat) (unit : List String) : String :=
      let rec go : Nat → Nat → List String → String
        | n + 1, factor, u :: rest =>
          if s.bytes < factor * base ∨ rest = [] then
            let tenths := (s.bytes * 10 + factor / 2) / factor
            (if tenths < 100 then toString (tenths / 10) ++ "." ++ toString (tenths % 10)
              else toString ((s.bytes + factor / 2) / factor)) ++ " " ++ u
          else go n (factor * base) rest
        | _, _, _ => ""
      go 8 base unit
    let sizes := if s.bytes < 1000 then "" else
      " (" ++ scaled 1000 ["kB", "MB", "GB", "TB"] ++ (if s.bytes < 1024 then "" else ", " ++ scaled 1024 ["KiB", "MiB", "GiB", "TiB"])
        ++ ")"
    Tool.note (toString s.bytes ++ (if s.bytes = 1 then " byte" else " bytes") ++ sizes ++ " copied, 0.0001 s, "
      ++ toString (s.bytes / 100 * 1) ++ ".0 MB/s\n")

/-- Writes a block. -/
def Copy.put (c : Copy) (descriptor : Nat) (s : Copied) (block : ByteArray) : Tool Copied := do
  if block.isEmpty then return s
  match ← Proc.write descriptor block with
  | .ok () => return { s with written := s.written.add (block.size = c.outSize), bytes := s.bytes + block.size }
  | .error r =>
    let name := Quoting.always (c.output.getD "standard output")
    Tool.say ("error writing " ++ name ++ ": " ++ r.message)
    if r = .badDescriptor then Tool.say ("closing output file " ++ name ++ ": " ++ r.message)
    else c.summary s
    throw 1

/-- Writes as many whole blocks as there are. -/
def Copy.putWhole (c : Copy) (descriptor : Nat) : Nat → Copied → Tool Copied
  | 0, s => return s
  | n + 1, s => do
    if s.held.size < c.outSize then return s
    let block := s.held.extract 0 c.outSize
    let s ← c.put descriptor { s with held := s.held.extract c.outSize s.held.size } block
    c.putWhole descriptor n s

/-- Takes what has been read. -/
def Copy.take (c : Copy) (descriptor : Nat) (s : Copied) (bytes : ByteArray) : Tool Copied := do
  let has (w : String) : Bool := c.conversions.contains w
  let changed := c.converted bytes
  let (changed, s) :=
    if has "block" ∧ c.recordSize ≠ 0 then
      let (l, column) := toRecords c.recordSize s.column changed.toList
      (l.toByteArray, { s with column })
    else if has "unblock" ∧ c.recordSize ≠ 0 then
      let (l, column, blanks) := toLines c.recordSize s.column s.blanks changed.toList
      (l.toByteArray, { s with column, blanks })
    else (changed, s)
  if c.direct ∧ c.conversions.all (fun w => !(["block", "unblock"]).contains w) then c.put descriptor s changed
  else c.putWhole descriptor (changed.size + s.held.size + 1) { s with held := s.held ++ changed }

/-- Reads so many bytes, as many at once as there are, until there are enough or the end has come. -/
def readFully (descriptor : Nat) : Nat → Nat → ByteArray → Tool (Except Refusal ByteArray)
  | 0, _, held => return .ok held
  | n + 1, most, held => do
    if most ≤ held.size then return .ok held
    match ← Proc.read descriptor (most - held.size) with
    | .error r => return .error r
    | .ok bytes => if bytes.isEmpty then return .ok held else readFully descriptor n most (held ++ bytes)

/-- Copies blocks until there are no more. -/
def Copy.run (c : Copy) (source target : Nat) : Nat → Nat → Copied → Tool Copied
  | 0, _, s => return s
  | n + 1, left, s => do
    if left = 0 ∧ c.count.isSome then return s
    let size := if c.countsBytes ∧ c.count.isSome then min left c.inSize else c.inSize
    let found ← if c.inFlags.contains "fullblock" then readFully source (size + 1) size ByteArray.empty
      else Proc.read source size
    match found with
    | .error r =>
      Tool.say ("error reading " ++ Quoting.always (c.input.getD "standard input") ++ ": " ++ r.message)
      if r = .badDescriptor then
        Tool.fail 1 ("closing input file " ++ Quoting.always (c.input.getD "standard input") ++ ": " ++ r.message)
      c.summary s
      throw 1
    | .ok bytes =>
      if bytes.isEmpty then return s
      let full : Bool := bytes.size == c.inSize
      let padded := if ¬ full ∧ c.conversions.contains "sync" then
          let fill : UInt8 := if c.conversions.any fun w => w = "block" ∨ w = "unblock" then 32 else 0
          (List.replicate (c.inSize - bytes.size) fill).foldl ByteArray.push bytes
        else bytes
      let s ← c.take target { s with read := s.read.add full } padded
      c.run source target n (left - if c.countsBytes then bytes.size else 1) s

/-- Copies in blocks. -/
def dd (args : List String) : Tool Nat := do
  let g ← Options.read { known := [] } args
  let c ← g.operands.foldlM Copy.read ({} : Copy)
  let c : Copy := { c with
    skipsBytes := c.skipsBytes || c.inFlags.contains "skip_bytes"
    countsBytes := c.countsBytes || c.inFlags.contains "count_bytes"
    seeksBytes := c.seeksBytes || c.outFlags.contains "seek_bytes" }
  let has (w : String) : Bool := c.conversions.contains w
  if has "lcase" ∧ has "ucase" then Tool.fail 1 "cannot combine lcase and ucase"
  if has "block" ∧ has "unblock" then Tool.fail 1 "cannot combine block and unblock"
  if has "excl" ∧ has "nocreat" then Tool.fail 1 "cannot combine excl and nocreat"
  let opened (path : String) (d : Nat) (mode : Kernel.OpenMode) : Tool Nat := do
    match ← Proc.openAs d mode path with
    | .ok () => return d
    | .error r => Tool.fail 1 ("failed to open " ++ Quoting.always path ++ ": " ++ r.message)
  let source ← match c.input with
    | none => pure 0
    | some path => do opened path (← Tool.newDescriptor) Kernel.OpenMode.input
  let start := if c.seeksBytes then c.seek else c.seek * c.outSize
  let target ← match c.output with
    | none => pure 1
    | some path => do
      let truncates := !has "notrunc"
      let mode : Kernel.OpenMode :=
        { writes := true, create := !has "nocreat", exclusive := has "excl", append := c.outFlags.contains "append"
          truncate := truncates && start == 0 }
      let d ← opened path (← Tool.newDescriptor) mode
      if truncates ∧ start ≠ 0 then Proc.change fun pid k => k.resize pid d start
      pure d
  if start ≠ 0 then Proc.change fun pid k => k.goTo pid target start
  let skipped := if c.skipsBytes then c.skip else c.skip * c.inSize
  if skipped ≠ 0 then
    let place ← Proc.observe fun pid k => (k.fileOf? pid source).map fun node => (k.files.content node).size
    let name := Quoting.always (c.input.getD "standard input")
    match place with
    | some size =>
      Proc.change fun pid k => k.goTo pid source skipped
      if size < skipped then Tool.say ((if c.input.isSome then Quoting.file (c.input.getD "") else name) ++ ": cannot skip to specified offset")
    | none =>
      match ← readFully source (skipped + 1) skipped ByteArray.empty with
      | .ok bytes => if bytes.size < skipped then Tool.say (name ++ ": cannot skip to specified offset")
      | .error r => Tool.fail 1 (name ++ ": cannot skip: " ++ r.message)
  let s ← c.run source target Proc.endless (c.count.getD 0) {}
  -- What is left of records and blocks.
  let rest : List UInt8 :=
    if c.recordSize == 0 || s.column == 0 then []
    else if has "block" then List.replicate (c.recordSize - s.column) 32
    else if has "unblock" then [10]
    else []
  let held := s.held ++ rest.toByteArray
  let s ← c.putWhole target (held.size + 1) { s with held }
  let s ← c.put target { s with held := ByteArray.empty } s.held
  c.summary s
  return 0

/-! ## Cutting into files -/

/-- How names of files are counted. -/
structure Naming where
  start : String
  letters : List Char
  length : Nat
  /-- Whether names become longer when they run out. -/
  grows : Bool
  first : Nat
  ending : String

namespace Naming

/-- A number in letters, at least so many. -/
def digits (n : Naming) : Nat → Nat → List Char
  | 0, _ => []
  | count + 1, k => digits n count (k / n.letters.length) ++ [(n.letters[k % n.letters.length]?).getD 'a']

/-- The name of a file, if there is one. -/
def name? (n : Naming) (k : Nat) : Option String :=
  let base := n.letters.length
  let rec go : Nat → String → Nat → Nat → Option String
    | 0, _, _, _ => none
    | fuel + 1, start, length, k =>
      let room := if n.grows then (base - 1) * Nat.pow base (length - 1) else Nat.pow base length
      if k < room then some (start ++ String.ofList (n.digits length k) ++ n.ending)
      else if n.grows then go fuel (start.push ((n.letters.getLast?).getD 'z')) (length + 1) (k - room)
      else none
  go 16 n.start n.length (k + n.first)

end Naming

/-- How bytes are cut. -/
inductive Cut where
  | lines (n : Nat)
  | bytes (n : Nat)
  /-- As many whole lines as there is room for. -/
  | linesIn (n : Nat)
  /-- So many parts, by bytes, by lines, or line by line in turn; perhaps only one of them is wanted. -/
  | parts (kind : Char) (n : Nat) (one : Option Nat)

/-- Pieces of some size. -/
def pieces (size : Nat) (bytes : ByteArray) : List ByteArray :=
  (List.range ((bytes.size + size - 1) / size)).map fun i => bytes.extract (i * size) (min bytes.size ((i + 1) * size))

/-- Lines together, so many at once. -/
def together (n : Nat) : Nat → List ByteArray → List ByteArray
  | 0, _ | _, [] => []
  | fuel + 1, lines => (lines.take n).foldl (· ++ ·) ByteArray.empty :: together n fuel (lines.drop n)

/-- Lines together, as many as there is room for; what is left of a line that is too long goes on. -/
def packed (size : Nat) : Nat → ByteArray → List ByteArray → List ByteArray
  | 0, _, _ => []
  | _, held, [] => if held.isEmpty then [] else [held]
  | n + 1, held, line :: rest =>
    if held.size + line.size ≤ size then packed size n (held ++ line) rest
    else if held.isEmpty then line.extract 0 size :: packed size n ByteArray.empty (line.extract size line.size :: rest)
    else held :: packed size n ByteArray.empty (line :: rest)

/-- Parts of which each ends with the first line that reaches so far. -/
def lineParts (size : Nat) (lines : List ByteArray) : Nat → Nat → Nat → List ByteArray
  | 0, _, _ => []
  | 1, _, _ => [lines.foldl (· ++ ·) ByteArray.empty]
  | n + 1, place, stop =>
    let (_, taken) := lines.foldl (fun (s : Nat × Nat) line =>
      if s.1 < stop then (s.1 + line.size, s.2 + 1) else s) (place, 0)
    let mine := (lines.take taken).foldl (· ++ ·) ByteArray.empty
    mine :: lineParts size (lines.drop taken) n (place + mine.size) (stop + size)

/-- Lines with their ends. -/
def wholeLines (ending : UInt8) (bytes : ByteArray) : List ByteArray :=
  let (lines, ended) := Tool.linesOf ending bytes
  let count := lines.length
  lines.mapIdx fun i l => if i + 1 = count ∧ ¬ ended then l else l.push ending

/-- The pieces of bytes. -/
def Cut.apply (c : Cut) (ending : UInt8) (bytes : ByteArray) : List ByteArray :=
  let lines := wholeLines ending bytes
  match c with
  | .lines n => together n (lines.length + 1) lines
  | .bytes n => pieces n bytes
  | .linesIn n => packed n (bytes.size + lines.length + 2) ByteArray.empty lines
  | .parts 'l' n _ => lineParts (bytes.size / n) lines n 0 (bytes.size / n)
  | .parts 'r' n _ =>
    (List.range n).map fun k => ((lines.zipIdx.filter fun (_, i) => i % n = k).map Prod.fst).foldl (· ++ ·) ByteArray.empty
  | .parts _ n _ =>
    (List.range n).map fun k =>
      bytes.extract (k * (bytes.size / n)) (if k + 1 = n then bytes.size else (k + 1) * (bytes.size / n))

/-- The parts that an argument asks for. -/
def partsOf (s : String) : Tool Cut := do
  let (kind, rest) : Char × List String := match s.splitOn "/" with
    | "l" :: rest => ('l', rest)
    | "r" :: rest => ('r', rest)
    | rest => ('b', rest)
  let count (text : String) : Tool Nat := Options.amount "invalid number of chunks" 1 Numbers.most false text
  match rest with
  | [n] => return .parts kind (← count n) none
  | [k, n] =>
    let n ← count n
    return .parts kind n (some (← Options.amount "invalid chunk number" 1 n false k))
  | _ => Tool.fail 1 ("invalid number of chunks: " ++ Quoting.local_ s)

/-- Cuts a file into files. -/
def split (args : List String) : Tool Nat := do
  let known := [taking "a" "suffix-length", wordTaking "additional-suffix", taking "b" "bytes", taking "C" "line-bytes",
    flag "d", wordMayTake "numeric-suffixes", flag "x", wordMayTake "hex-suffixes", flag "e" "elide-empty-files",
    wordTaking "filter", taking "l" "lines", taking "n" "number", taking "t" "separator", flag "u" "unbuffered",
    word "verbose"] ++ (List.range 10).map fun n => flag (toString n)
  let g ← Options.read { known } args
  let amount (label key : String) : Tool Nat :=
    let most := if key = "l" then Numbers.most else Options.mostBytes
    Options.amount ("invalid number of " ++ label) 1 most (key != "l") ((g.last? key).getD "")
  let digits := (g.options.map Prod.fst).filter fun k => k.length = 1 ∧ k.toList.all Char.isDigit
  let ways := (["b", "C", "l", "n"].filter g.has).length + (if digits = [] then 0 else 1)
  let repeated : Bool := ["b", "C", "l", "n"].any fun k => 1 < (g.all k).length
  if 1 < ways ∨ repeated then Tool.misuse 1 "cannot split in more than one way"
  let cut : Cut ←
    if g.has "b" then Cut.bytes <$> amount "bytes" "b"
    else if g.has "C" then Cut.linesIn <$> amount "bytes" "C"
    else if g.has "n" then partsOf ((g.last? "n").getD "")
    else if g.has "l" then Cut.lines <$> amount "lines" "l"
    else if digits ≠ [] then pure (.lines ((String.join digits).toNat?.getD 1000))
    else pure (.lines 1000)
  let length ← match g.last? "a" with
    | none => pure none
    | some s => do
      let n ← Options.amount "invalid suffix length" 0 (Numbers.most / 8) false s
      pure (if n = 0 then none else some n)
  let ending : UInt8 ← match g.last? "t" with
    | none => pure 10
    | some "\\0" => pure 0
    | some s => match s.toList with
      | [c] => pure c.toNat.toUInt8
      | [] => Tool.fail 1 "empty record separator"
      | _ => Tool.fail 1 ("multi-character separator " ++ Quoting.local_ s)
  let more := (g.last? "additional-suffix").getD ""
  if more.toList.contains '/' then
    Tool.misuse 1 ("invalid suffix " ++ Quoting.local_ more ++ ", contains directory separator")
  let style := g.lastOf? ["d", "numeric-suffixes", "x", "hex-suffixes"]
  let isHex : Bool := style == some "x" || style == some "hex-suffixes"
  let letters := if style.isNone then "abcdefghijklmnopqrstuvwxyz".toList
    else if isHex then "0123456789abcdef".toList else "0123456789".toList
  let startText := if isHex then g.last? "hex-suffixes" else g.last? "numeric-suffixes"
  let first ← match startText with
    | none => pure 0
    | some s =>
      let good : Bool := s != "" && s.toList.all fun c => if isHex then Decimal.isHexDigit c else c.isDigit
      if good then pure (Decimal.natOf (if isHex then 16 else 10) s.toList)
      else Tool.misuse 1 (Quoting.local_ s ++ ": invalid start value for " ++ (if isHex then "hexadecimal" else "numerical") ++ " suffix")
  let (path, start) ← match g.operands with
    | [] => pure ("-", "x")
    | [path] => pure (path, "x")
    | [path, start] => pure (path, start)
    | _ :: _ :: extra :: _ => Options.extra 1 extra
  let (one, many) : Option Nat × Option Nat := match cut with
    | .parts _ n one => (one, some n)
    | _ => (none, none)
  if one.isSome ∧ g.has "filter" then Tool.misuse 1 "--filter does not process a chunk extracted to stdout"
  let bytes ← match ← Tool.contentOf path with
    | .ok bytes => pure bytes
    | .error .isDirectory => Tool.fail 1 (Quoting.file path ++ ": " ++ Refusal.isDirectory.message)
    | .error .badDescriptor => Tool.fail 1 (Quoting.file path ++ ": " ++ Refusal.badDescriptor.message)
    | .error r => Tool.fail 1 ("cannot open " ++ Quoting.always path ++ " for reading: " ++ r.message)
  let found := cut.apply ending bytes
  match one with
  | some k =>
    Tool.emitBytes ((found[k - 1]?).getD ByteArray.empty)
    return 0
  | none =>
    let needed : Nat := match many with
      | some n =>
        let rec places : Nat → Nat → Nat
          | 0, _ => 1
          | fuel + 1, k => if k < letters.length then 1 else places fuel (k / letters.length) + 1
        max 2 (places 20 (n - 1 + if n ≤ first then 0 else first))
      | none => 2
    let grows := length.isNone && many.isNone && startText.isNone
    let naming : Naming := ⟨start, letters, length.getD needed, grows, first, more⟩
    let found := if g.has "e" then found.filter fun b => !b.isEmpty else found
    for (piece, k) in found.zipIdx do
      Proc.step
      match naming.name? k with
      | none => Tool.fail 1 "output file suffixes exhausted"
      | some name =>
        match g.last? "filter" with
        | none =>
          if g.has "verbose" then Tool.emitLine ("creating file " ++ Quoting.always name)
          match ← Tool.writeFile Kernel.OpenMode.output name piece with
          | .ok () => pure ()
          | .error r => Tool.fail 1 (Quoting.file name ++ ": " ++ r.message)
        | some command =>
          if g.has "verbose" then Tool.emitLine ("executing with FILE=" ++ Quoting.always name)
          Tool.flush
          match ← Running.shellImage command with
          | .error _ => throw 1
          | .ok image =>
            let source ← Tool.newDescriptor
            let drain ← Tool.newDescriptor
            Proc.pipe source drain
            let wiring : Tool Unit := do
              discard <| Proc.duplicate source 0
              Proc.close source
              Proc.close drain
            let child ← Running.begin wiring { image with environment := Running.assign image.environment "FILE" name }
            Proc.close source
            discard <| Proc.write drain piece
            Proc.close drain
            match ← Proc.reap child with
            | .exited 0 => pure ()
            | .exited n => Tool.fail 1 ("with FILE=" ++ Quoting.file name ++ ", exit " ++ toString n ++ " from command: " ++ command)
            | .killed n =>
              Tool.fail 1 ("with FILE=" ++ Quoting.file name ++ ", signal " ++ Shell.Signals.name .plain n ++ " from command: " ++ command)
    return 0

end TaskRunner.Tools.Blocks
