import TaskRunner.FileSystem.Info
import TaskRunner.Tools.Numbers
import TaskRunner.Tools.Options

/-!
# Programs that pass bytes on

Programs that write what they read: all of it, one end of it, in another order, with something added, or
only how much it is.
-/

namespace TaskRunner.Tools.Streams

open Processes

/-- Passes on blocks as long as there are any; `change` makes of a block what is written. -/
def passBlocks {α : Type} (descriptor : Nat) (change : α → ByteArray → α × ByteArray) : Nat → α → Tool (Except Refusal α)
  | 0, a => return .ok a
  | n + 1, a => do
    match ← Proc.read descriptor Proc.blockSize with
    | .error r => return .error r
    | .ok bytes =>
      if bytes.isEmpty then return .ok a
      else
        let (a, out) := change a bytes
        Tool.emitBytes out
        Tool.flush
        passBlocks descriptor change n a

/-! ## Whole files -/

/-- What is added to lines when files are shown. -/
structure Show where
  numbers : Bool
  /-- Whether empty lines have no number. -/
  numbersFull : Bool
  ends : Bool
  tabs : Bool
  hidden : Bool
  squeezes : Bool

/-- How far files have been shown. -/
structure Shown where
  line : Nat
  /-- Whether a line begins. -/
  fresh : Bool
  /-- How many empty lines came last. -/
  empty : Nat

/-- Adds the bytes of a text. -/
def addText (out : ByteArray) (s : String) : ByteArray := s.foldl (fun out c => out.push c.toNat.toUInt8) out

/-- Adds a byte as it is shown. -/
def addByte (o : Show) (out : ByteArray) (b : UInt8) : ByteArray :=
  if b = 9 then (if o.tabs then addText out "^I" else out.push b)
  else if ¬ o.hidden then out.push b
  else
    let low (out : ByteArray) (b : UInt8) : ByteArray :=
      if b < 32 then (out.push 94).push (b + 64) else if b = 127 then addText out "^?" else out.push b
    if b < 128 then low out b else low (addText out "M-") (b - 128)

/-- Shows a block. -/
def showBlock (o : Show) (s : Shown) (bytes : ByteArray) : Shown × ByteArray :=
  bytes.foldl (fun (s, out) b =>
    let numbered (out : ByteArray) (line : Nat) : ByteArray := addText out (Numbers.right 6 (toString line) ++ "\t")
    if b = 10 then
      let empty := if s.fresh then s.empty + 1 else 0
      if o.squeezes ∧ 1 < empty then ({ s with empty }, out)
      else
        let counts := s.fresh && o.numbers && !o.numbersFull
        let out := if counts then numbered out (s.line + 1) else out
        let out := if o.ends then out.push 36 else out
        (⟨if counts then s.line + 1 else s.line, true, empty⟩, out.push 10)
    else
      let counts := s.fresh && o.numbers
      let out := if counts then numbered out (s.line + 1) else out
      (⟨if counts then s.line + 1 else s.line, false, 0⟩, addByte o out b)) (s, ByteArray.empty)

/-- Writes files one after another. -/
def cat (args : List String) : Tool Nat := do
  let g ← Options.read
    { known := [flag "b" "number-nonblank", flag "n" "number", flag "s" "squeeze-blank", flag "v" "show-nonprinting",
        flag "E" "show-ends", flag "T" "show-tabs", flag "A" "show-all", flag "e", flag "t", flag "u"] } args
  let o : Show :=
    { numbers := g.has "n" || g.has "b", numbersFull := g.has "b", ends := g.has "A" || g.has "e" || g.has "E"
      tabs := g.has "A" || g.has "t" || g.has "T", hidden := g.has "A" || g.has "e" || g.has "t" || g.has "v"
      squeezes := g.has "s" }
  let plain := !(o.numbers || o.ends || o.tabs || o.hidden || o.squeezes)
  if ¬ (← Proc.isOpen 1) then Tool.fail 1 "standard output: Bad file descriptor"
  let rec files (status : Nat) (s : Shown) : List String → Tool Nat
    | [] => return status
    | path :: rest => do
      match ← Tool.openInput path with
      | .error r =>
        Tool.say (Quoting.file path ++ ": " ++ r.message)
        files 1 s rest
      | .ok d =>
        let loops : Bool ← if ← Tool.isSameFile d 1 then Proc.observe (fun pid k =>
            match (k.index? pid d).bind fun i => k.descriptions[i]? with
            | some ⟨.file n, offset, _, _, _⟩ => decide (offset < (k.files.content n).size)
            | _ => false) else pure false
        if loops then
          Tool.say (Quoting.file path ++ ": input file is output file")
          Tool.closeInput d
          files 1 s rest
        else
          let passed ← passBlocks d (fun s bytes => if plain then (s, bytes) else showBlock o s bytes) Proc.endless s
          Tool.closeInput d
          match passed with
          | .ok s => files status s rest
          | .error r =>
            Tool.say (Quoting.file path ++ ": " ++ r.message)
            files 1 s rest
  files 0 ⟨0, true, 0⟩ (if g.operands = [] then ["-"] else g.operands)

/-- Pieces of bytes that each end in a separator, the last first. -/
def piecesFrom (separator : ByteArray) (before : Bool) (bytes : ByteArray) : Nat → Nat → Nat → List ByteArray → List ByteArray
  | 0, _, start, read => bytes.extract start bytes.size :: read
  | n + 1, place, start, read =>
    if bytes.size < place + separator.size then
      if start < bytes.size then bytes.extract start bytes.size :: read else read
    else if (List.range separator.size).all fun i => bytes.get! (place + i) == separator.get! i then
      let next := place + separator.size
      let stop := if before then place else next
      piecesFrom separator before bytes n next stop (if before ∧ place = 0 then read else bytes.extract start stop :: read)
    else piecesFrom separator before bytes n (place + 1) start read

/-- Writes the lines of files from the last to the first. -/
def tac (args : List String) : Tool Nat := do
  let g ← Options.read
    { known := [flag "b" "before", flag "r" "regex", taking "s" "separator"] } args
  let separator := match g.last? "s" with
    | some "" => ByteArray.mk #[0]
    | some s => Text.Octets.toBytes s
    | none => ByteArray.mk #[10]
  Tool.worst (fun path => do
    match ← Tool.openInput path with
    | .error r =>
      Tool.say ("failed to open " ++ Quoting.always path ++ " for reading: " ++ r.message)
      return 1
    | .ok d =>
      let found ← Proc.readAll d
      Tool.closeInput d
      match found with
      | .error r =>
        let why := if r = .isDirectory then Refusal.message .invalid else r.message
        Tool.say (Quoting.file (if path = "-" then "standard input" else path) ++ ": read error: " ++ why)
        return 1
      | .ok bytes =>
        let pieces := piecesFrom separator (g.has "b") bytes (bytes.size + 1) 0 0 []
        for piece in pieces do Tool.emitBytes piece
        return 0) (if g.operands = [] then ["-"] else g.operands)

/-- Writes the input to the output and to files. -/
def tee (args : List String) : Tool Nat := do
  let g ← Options.read
    { known := [flag "a" "append", flag "i" "ignore-interrupts", flag "p", wordMayTake "output-error"] } args
  let mode := if g.has "a" then Kernel.OpenMode.addition else Kernel.OpenMode.output
  let mut outputs : List (Nat × String) := []
  let mut status := 0
  for path in g.operands do
    let d ← Tool.newDescriptor
    match ← Proc.openAs d mode path with
    | .ok () => outputs := outputs ++ [(d, path)]
    | .error r =>
      Tool.say (Quoting.file path ++ ": " ++ r.message)
      status := 1
  let worst ← copy ((1, "standard output") :: outputs) Proc.endless 0
  return max status worst
where
  /-- Writes a block to all outputs that it can be written to. -/
  put (bytes : ByteArray) : List (Nat × String) → Tool (List (Nat × String) × Nat)
    | [] => return ([], 0)
    | (d, path) :: rest => do
      match ← Proc.write d bytes with
      | .ok () =>
        let (left, status) ← put bytes rest
        return ((d, path) :: left, status)
      | .error r =>
        Tool.say ((if d = 1 then Quoting.always path else Quoting.file path) ++ ": " ++ r.message)
        let (left, _) ← put bytes rest
        return (left, 1)
  /-- Passes blocks on. -/
  copy (outputs : List (Nat × String)) : Nat → Nat → Tool Nat
    | 0, status => return status
    | n + 1, status => do
      match ← Proc.read 0 Proc.blockSize with
      | .error r =>
        modify fun s => { s with usesInput := true }
        Tool.say ("read error: " ++ r.message)
        return 1
      | .ok bytes =>
        if bytes.isEmpty then return status
        else
          let (outputs, failed) ← put bytes outputs
          if outputs = [] then return 1
          copy outputs n (max status failed)

/-- Writes a line again and again. -/
def yes (args : List String) : Tool Nat := do
  let g ← Options.read { known := [], first := true } args
  let line := Text.Octets.toBytes ((if g.operands = [] then "y" else " ".intercalate g.operands) ++ "\n")
  let count := max 1 (Tool.bufferSize / line.size)
  let block := (List.range count).foldl (fun b _ => b ++ line) ByteArray.empty
  let rec again : Nat → Tool Nat
    | 0 => return 0
    | n + 1 => do
      match ← Proc.write 1 block with
      | .ok () => again n
      | .error r => Tool.fail 1 ("standard output: " ++ r.message)
  again Proc.endless

/-- Writes the characters of lines from the last to the first. -/
def rev (args : List String) : Tool Nat := do
  let g ← Options.read { known := [flag "0" "zero"] } args
  Tool.worst (fun path => do
    match ← Tool.openInput path with
    | .error r =>
      Tool.say ("cannot open " ++ path ++ ": " ++ r.message)
      return 1
    | .ok d =>
      let passed ← Tool.eachLine d 10 false () fun _ line ended => do
        let cs := (← Tool.locale).characters (Text.Octets.ofBytes line)
        Tool.emit (Text.Octets.ofCharacters cs.reverse ++ (if ended then "\n" else ""))
        return .more ()
      Tool.closeInput d
      match passed.refused with
      | none => return 0
      | some r =>
        Tool.say (path ++ ": " ++ r.message)
        return 1) (if g.operands = [] then ["-"] else g.operands)

/-! ## One end -/

/-- What is counted, and whether the number is one of those that are left out. -/
structure Portion where
  bytes : Bool
  number : Nat
  /-- Counted from the other end. -/
  other : Bool

/-- Reads a number of lines or bytes. -/
def portion (bytes : Bool) (sign : Char) (s : String) : Tool Portion := do
  let other := s.toList.head? = some sign
  let digits := if s.startsWith "-" ∨ other then (s.drop 1).toString else s
  match Numbers.size digits with
  | .ok n => return ⟨bytes, n, other⟩
  | .error f =>
    let what := if bytes then "bytes" else "lines"
    let why := if f = .tooLarge then ": Value too large for defined data type" else ""
    Tool.fail 1 ("invalid number of " ++ what ++ ": " ++ Quoting.local_ digits ++ why)

/-- An old way to write a number: digits, and letters after them. -/
def oldPortion? (arg : String) : Option (Nat × List Char) :=
  match arg.toList with
  | '-' :: cs =>
    match cs.span Char.isDigit with
    | ([], _) => none
    | (digits, letters) => some (Decimal.natOf 10 digits, letters)
  | _ => none

/-- Does something for every file, a line with its name before it if that is wanted. -/
def withHeaders (headers : Bool) (action : String → Nat → Tool Nat) : Bool → List String → Tool Nat
  | _, [] => return 0
  | first, path :: rest => do
    match ← Tool.openInput path with
    | .error r =>
      Tool.say ("cannot open " ++ Quoting.always path ++ " for reading: " ++ r.message)
      return max 1 (← withHeaders headers action first rest)
    | .ok d =>
      let title := if path = "-" then "standard input" else path
      if headers then Tool.emit ((if first then "" else "\n") ++ "==> " ++ title ++ " <==\n")
      let status ← action path d
      Tool.closeInput d
      return max status (← withHeaders headers action false rest)

/-- Says that a file cannot be read. -/
def unreadable (path : String) (r : Refusal) : Tool Nat := do
  Tool.say ("error reading " ++ (if path = "-" then Quoting.always "standard input" else Quoting.always path) ++ ": " ++ r.message)
  return 1

/-- Says that a file of which the end is wanted cannot be read. -/
def unreadableEnd (path : String) (r : Refusal) : Tool Nat := do
  if r = .badDescriptor ∧ path = "-" then
    Tool.say ("cannot fstat " ++ Quoting.always "standard input" ++ ": " ++ r.message)
    return 1
  else unreadable path r

/-- Writes the first lines. -/
def firstLines (ending : UInt8) (path : String) (d n : Nat) : Tool Nat := do
  if n = 0 then return 0
  let passed ← Tool.eachLine d ending true n fun left line ended => do
    Tool.emitBytes (if ended then line.push ending else line)
    return if left ≤ 1 then .enough 0 else .more (left - 1)
  match passed.refused with
  | none => return 0
  | some r => unreadable path r

/-- Writes the first bytes. -/
def firstBytes (path : String) (d : Nat) : Nat → Nat → Tool Nat
  | 0, _ => return 0
  | _, 0 => return 0
  | n + 1, left => do
    match ← Proc.read d (min left Proc.blockSize) with
    | .error r => unreadable path r
    | .ok bytes =>
      if bytes.isEmpty then return 0
      Tool.emitBytes bytes
      firstBytes path d n (left - bytes.size)

/-- The lines of bytes, each with its end. -/
def wholeLines (ending : UInt8) (bytes : ByteArray) : List ByteArray :=
  let (lines, complete) := Tool.linesOf ending bytes
  let size := lines.length
  lines.zipIdx.map fun (line, i) => if i + 1 = size ∧ ¬ complete then line else line.push ending

/-- Where the given number of last lines begins in bytes, looked for from the end. -/
def lastLinesAt (ending : UInt8) (bytes : ByteArray) : Nat → Nat → Nat
  | 0, _ => 0
  | place + 1, left =>
    -- The end of the last line does not begin another one.
    if bytes.get! place == ending ∧ place + 1 ≠ bytes.size then
      if left ≤ 1 then place + 1 else lastLinesAt ending bytes place (left - 1)
    else lastLinesAt ending bytes place left

/-- Where the lines after the given number of first ones begin in bytes. -/
def linesAfter (ending : UInt8) (bytes : ByteArray) : Nat → Nat → Nat → Nat
  | 0, place, _ => place
  | n + 1, place, left =>
    if left = 0 ∨ bytes.size ≤ place then place
    else linesAfter ending bytes n (place + 1) (if bytes.get! place == ending then left - 1 else left)

/-- Writes the beginning of files. -/
def head (args : List String) : Tool Nat := do
  let (old, args) ← match args with
    | a :: rest =>
      match oldPortion? a with
      | some (n, letters) => do
        let mut bytes := false
        let mut extra : List String := []
        let mut factor := 1
        for c in letters do
          match c with
          | 'c' => bytes := true
          | 'b' => (bytes, factor) := (true, 512)
          | 'k' => (bytes, factor) := (true, 1024)
          | 'm' => (bytes, factor) := (true, 1048576)
          | 'l' => bytes := false
          | 'q' | 'v' | 'z' => extra := extra ++ ["-" ++ String.singleton c]
          | c => Tool.misuse 1 ("invalid trailing option -- " ++ String.singleton c)
        pure (some (⟨bytes, n * factor, false⟩ : Portion), extra ++ rest)
      | none => pure (none, args)
    | [] => pure (none, args)
  let g ← Options.read
    { known := [taking "c" "bytes", taking "n" "lines", flag "q" "quiet", ⟨"q", some "silent", .none⟩, flag "v" "verbose",
        flag "z" "zero-terminated"] } args
  let given ← (g.options.filter fun (k, _) => k == "c" || k == "n").mapM fun (k, v) => portion (k == "c") '-' (v.getD "")
  let p := (given.getLast? <|> old).getD ⟨false, 10, false⟩
  let ending : UInt8 := if g.has "z" then 0 else 10
  let paths := if g.operands = [] then ["-"] else g.operands
  let headers := match g.lastOf? ["q", "v"] with
    | some "v" => true
    | some _ => false
    | none => 1 < paths.length
  withHeaders headers (fun path d => do
    if ¬ p.other then
      if p.bytes then firstBytes path d Proc.endless p.number
      else firstLines ending path d p.number
    else match ← Proc.readAll d with
      | .error r => unreadableEnd path r
      | .ok bytes =>
        let stop := if p.bytes then bytes.size - p.number
          else if p.number = 0 then bytes.size else lastLinesAt ending bytes bytes.size p.number
        let total := if p.bytes ∨ p.number = 0 then stop
          else if (wholeLines ending bytes).length ≤ p.number then 0 else stop
        Tool.emitBytes (bytes.extract 0 total)
        return 0) true paths

/-- Waits for what never comes. -/
def waitForever : Tool Nat := do
  Tool.flush
  Proc.waitUntil ((← Proc.now) + 1000000000000000000)
  return 0

/-- Writes the end of files. -/
def tail (args : List String) : Tool Nat := do
  let (old, args) := match args with
    | a :: rest =>
      let sign := a.toList.head?
      let (digits, letters) := (a.toList.drop 1).span Char.isDigit
      if (sign = some '-' ∨ sign = some '+') ∧ digits ≠ [] ∧ rest.length ≤ 1
          ∧ letters.all fun c => c == 'c' || c == 'b' || c == 'l' || c == 'f' then
        let factor := if letters.contains 'b' then 512 else 1
        let bytes := letters.contains 'c' || letters.contains 'b'
        let follow := if letters.contains 'f' then ["-f"] else []
        (some (⟨bytes, Decimal.natOf 10 digits * factor, sign == some '+'⟩ : Portion), follow ++ rest)
      else (none, args)
    | [] => (none, args)
  let g ← Options.read
    { known := [taking "c" "bytes", taking "n" "lines", mayTake "f" "follow", flag "F", flag "q" "quiet",
        ⟨"q", some "silent", .none⟩, flag "v" "verbose", flag "z" "zero-terminated", taking "s" "sleep-interval",
        wordTaking "pid", word "retry", wordTaking "max-unchanged-stats"] } args
  let given ← (g.options.filter fun (k, _) => k == "c" || k == "n").mapM fun (k, v) => portion (k == "c") '+' (v.getD "")
  let p := (given.getLast? <|> old).getD ⟨false, 10, false⟩
  let ending : UInt8 := if g.has "z" then 0 else 10
  let paths := if g.operands = [] then ["-"] else g.operands
  let headers := match g.lastOf? ["q", "v"] with
    | some "v" => true
    | some _ => false
    | none => 1 < paths.length
  let status ← withHeaders headers (fun path d => do
    match ← Proc.readAll d with
    | .error r => unreadableEnd path r
    | .ok bytes =>
      let start :=
        if p.bytes then (if p.other then p.number - 1 else bytes.size - p.number)
        else if p.other then linesAfter ending bytes bytes.size 0 (p.number - 1)
        else if p.number = 0 then bytes.size
        else lastLinesAt ending bytes bytes.size p.number
      Tool.emitBytes (bytes.extract start bytes.size)
      return 0) true paths
  if (g.has "f" ∨ g.has "F") ∧ (status = 0 ∨ g.has "F" ∨ g.has "retry") then waitForever
  else
    if (g.has "f") ∧ status ≠ 0 then Tool.say "no files remaining"
    return status

/-! ## How much -/

/-- What is counted in bytes. -/
structure Counts where
  lines : Nat := 0
  words : Nat := 0
  characters : Nat := 0
  bytes : Nat := 0
  /-- The places that the longest line takes. -/
  longest : Nat := 0

/-- How far counting has come in a line. -/
structure Counting where
  counts : Counts
  inside : Bool
  place : Nat
  /-- The bytes at the end that may begin a character. -/
  open_ : String

/-- Whether a character is a blank at which no line is broken. -/
def isFirmBlank (c : Char) : Bool := [0xA0, 0x2007, 0x202F, 0x2060].contains c.toNat

/-- Counts a character: words are runs of characters other than blanks, with at least one that can be shown. -/
def countChar (s : Counting) (c : Char) : Counting :=
  let k := s.counts
  let stray := (Text.Octets.strayByte? c).isSome
  let counts := { k with characters := if stray then k.characters else k.characters + 1 }
  match c with
  | '\n' => { s with counts := { counts with lines := k.lines + 1, longest := max k.longest s.place }, inside := false, place := 0 }
  | '\r' | '\x0c' => { s with counts := { counts with longest := max k.longest s.place }, inside := false, place := 0 }
  | '\t' => { s with counts, inside := false, place := (s.place / 8 + 1) * 8 }
  | '\x0b' => { s with counts, inside := false }
  | c =>
    match Text.width? c with
    | none => { s with counts }
    | some w =>
      if Text.isSpace c || isFirmBlank c then { s with counts, inside := false, place := s.place + w }
      else { s with counts := { counts with words := if s.inside then k.words else k.words + 1 }, inside := true, place := s.place + w }

/-- How many bytes at the end of some begin a character of which more is to come. -/
def unfinished (bytes : String) : Nat :=
  let last := bytes.toList.reverse.take 3
  let (inside, rest) := last.span fun c => 0x80 ≤ c.toNat && c.toNat < 0xC0
  match rest with
  | c :: _ =>
    let size := if 0xF0 ≤ c.toNat then 4 else if 0xE0 ≤ c.toNat then 3 else if 0xC0 ≤ c.toNat then 2 else 1
    if inside.length + 1 < size then inside.length + 1 else 0
  | [] => 0

/-- Counts what bytes make up. -/
def countBytes (l : Text.Locale) (s : Counting) (bytes : ByteArray) : Counting :=
  let s := { s with counts := { s.counts with bytes := s.counts.bytes + bytes.size } }
  let text := s.open_ ++ Text.Octets.ofBytes bytes
  if Text.Octets.isPlain text then text.foldl countChar { s with open_ := "" }
  else
    let held := if l = .plain then 0 else unfinished text
    let cs := text.toList
    let whole := String.ofList (cs.take (cs.length - held))
    (l.characters whole).foldl countChar { s with open_ := String.ofList (cs.drop (cs.length - held)) }

/-- Counts lines alone. -/
def countLines (bytes : ByteArray) : Nat := bytes.foldl (fun n b => if b = 10 then n + 1 else n) 0

/-- Counts blocks to the end. -/
def countFrom (l : Text.Locale) (d : Nat) (simple : Bool) : Nat → Counting → Tool (Counting × Option Refusal)
  | 0, s => return (s, none)
  | n + 1, s => do
    match ← Proc.read d Proc.blockSize with
    | .error r => return (s, some r)
    | .ok bytes =>
      if bytes.isEmpty then return (s, none)
      else if simple then
        let c := s.counts
        countFrom l d simple n { s with counts := { c with lines := c.lines + countLines bytes, bytes := c.bytes + bytes.size } }
      else countFrom l d simple n (countBytes l s bytes)

/-- The size of a regular file. -/
def sizeOf? (path : String) : Tool (Option (Option Nat)) := do
  match if path = "-" then some 0 else Kernel.ownDescriptor? path with
  | some d =>
    return some (← Proc.observe fun pid k => match (k.index? pid d).bind fun i => k.descriptions[i]? with
      | some ⟨.file n, _, _, _, _⟩ => some (k.files.content n).size
      | _ => none)
  | none =>
    let (fs, place) ← Proc.files
    match fs.walk true place (Text.Octets.toText path) with
    | .error _ => return none
    | .ok l => return some (match fs.held? l with
      | some (.file n) => some (fs.content n).size
      | some (.program _) => some FileSystem.programSize
      | _ => none)

/-- Counts lines, words and bytes. -/
def wc (args : List String) : Tool Nat := do
  let g ← Options.read
    { known := [flag "c" "bytes", flag "m" "chars", flag "l" "lines", flag "L" "max-line-length", flag "w" "words",
        wordTaking "files0-from"] } args
  Tool.ifUnwritten fun _ => "write error"
  let chosen := ["l", "w", "m", "c", "L"].filter g.has
  let chosen := if chosen = [] then ["l", "w", "c"] else chosen
  let simple := chosen.all fun k => k == "l" || k == "c"
  let listed ← match g.last? "files0-from" with
    | some list => pure (some (← Options.listedIn 1 "cannot open" list g.operands))
    | none => pure none
  let unnamed := listed.isNone && g.operands = []
  let paths := (listed.map Prod.fst).getD (if unnamed then ["-"] else g.operands)
  let allOpen ← if paths.contains "-" then Proc.isOpen 0 else pure true
  let width ← if (paths.length = 1 ∧ (chosen.length = 1 ∨ ¬ allOpen)) then pure 1 else do
    let sizes ← paths.mapM sizeOf?
    let total := (sizes.filterMap fun s => s.bind id).foldl (· + ·) 0
    let least := if sizes.any fun s => s == some none then 7 else 1
    pure (max least (toString total).length)
  let row (label : String) (c : Counts) : Tool Unit := do
    let cells := chosen.map fun k => Numbers.right width <| toString <| match k with
      | "l" => c.lines
      | "w" => c.words
      | "m" => c.characters
      | "c" => c.bytes
      | _ => c.longest
    Tool.emitLine (" ".intercalate cells ++ (if label = "" then "" else " " ++ label))
  let locale ← Tool.locale
  let mut status := if (listed.map Prod.snd).getD true then 0 else 1
  let mut sum : Counts := {}
  for path in paths do
    match ← Tool.openInput path with
    | .error r =>
      Tool.say (Quoting.file path ++ ": " ++ r.message)
      status := 1
    | .ok d =>
      let (s, refused) ← countFrom locale d simple Proc.endless ⟨{}, false, 0, ""⟩
      Tool.closeInput d
      match refused with
      | some r =>
        Tool.say (Quoting.file (if unnamed then "standard input" else path) ++ ": " ++ r.message)
        status := 1
      | none => pure ()
      let c := { s.counts with longest := max s.counts.longest s.place }
      row (if unnamed then "" else if path.toList.contains '\n' then Quoting.file path else path) c
      sum :=
        { lines := sum.lines + c.lines, words := sum.words + c.words, characters := sum.characters + c.characters
          bytes := sum.bytes + c.bytes, longest := max sum.longest c.longest }
  if 1 < paths.length ∨ (listed.map Prod.snd).getD true = false then row "total" sum
  return status

/-! ## Numbers in order -/

/-- Reads a number. -/
def numberOf (s : String) : Tool Numbers.Exact := do
  match Numbers.decimal? s with
  | some e => return e
  | none =>
    if ["nan", "-nan", "NaN"].contains s then
      Tool.misuse 1 ("invalid " ++ Quoting.local_ "not-a-number" ++ " argument: " ++ Quoting.local_ s)
    else Tool.misuse 1 ("invalid floating point argument: " ++ Quoting.local_ s)

/-- Writes numbers from one on, so many of them or without end. -/
def count (shown : Int → String) (separator : String) (step : Int) : Nat → Nat → Int → Tool Unit
  | 0, _, _ => pure ()
  | _, 0, _ => pure ()
  | n + 1, left + 1, i => do
    if left % 64 = 0 then Proc.step
    Tool.emit (if left = 0 then shown i else shown i ++ separator)
    count shown separator step n left (i + step)

/-- Writes numbers in order. `written` writes a number by a format. -/
def seq (written : String → Numbers.Exact → Except String String) (args : List String) : Tool Nat := do
  let isNumber (a : String) : Bool := match a.toList with
    | '-' :: c :: _ => c == '.' || c.isDigit
    | _ => false
  let options := args.takeWhile fun a => a.startsWith "-" && !isNumber a
  -- An option with an argument may have it in the next word.
  let known := [taking "f" "format", taking "s" "separator", flag "w" "equal-width"]
  let wants (a : String) : Bool := a == "-f" || a == "-s" || a == "--format" || a == "--separator" || a == "-ws" || a == "-wf"
  let rec split : Nat → List String → List String × List String
    | 0, rest => ([], rest)
    | _, [] => ([], [])
    | n + 1, a :: rest =>
      if a = "--" then ([], rest)
      else if a.startsWith "-" ∧ ¬ isNumber a ∧ a ≠ "-" then
        match wants a, rest with
        | true, b :: more => let (o, r) := split n more; (a :: b :: o, r)
        | _, _ => let (o, r) := split n rest; (a :: o, r)
      else ([], a :: rest)
  let (optionWords, operands) := split (args.length + options.length + 1) args
  let g ← Options.read { known } optionWords
  match operands with
  | [] => Tool.misuse 1 "missing operand"
  | _ :: _ :: _ :: extra :: _ => Options.extra 1 extra
  | _ => pure ()
  let endless := operands.getLast? = some "inf"
  let zero : Numbers.Exact := ⟨0, 0⟩
  let one : Numbers.Exact := ⟨1, 0⟩
  let lastOf (s : String) : Tool Numbers.Exact := if s = "inf" then pure zero else numberOf s
  let (first, step, last) ← match operands with
    | [l] => do pure (one, one, ← lastOf l)
    | [f, l] => do pure (← numberOf f, one, ← lastOf l)
    | [f, s, l] => do pure (← numberOf f, ← numberOf s, ← lastOf l)
    | _ => pure (one, one, one)
  if step.parts = 0 then Tool.misuse 1 ("invalid Zero increment value: " ++ Quoting.local_ (operands[1]?.getD ""))
  let places := max first.places (max step.places last.places)
  let shownPlaces := max first.places step.places
  let (a, s, l) := (first.scaled places, step.scaled places, last.scaled places)
  let total : Nat :=
    if endless then Proc.endless
    else if (0 < s ∧ l < a) ∨ (s < 0 ∧ a < l) then 0
    else ((l - a) / s).toNat + 1
  let lastShown := a + s * (total - 1 : Nat)
  let cut (i : Int) : Numbers.Exact := ⟨i / Int.pow 10 (places - shownPlaces), shownPlaces⟩
  let plain (i : Int) : String := (cut i).toText
  let width := max (plain a).length (plain lastShown).length
  let padded (i : Int) : String :=
    let t := plain i
    if t.startsWith "-" then "-" ++ String.ofList (List.replicate (width - t.length) '0') ++ (t.drop 1).toString
    else String.ofList (List.replicate (width - t.length) '0') ++ t
  let separator := (g.last? "s").getD "\n"
  match g.last? "f" with
  | some format =>
    match written format (cut a) with
    | .error message => Tool.fail 1 message
    | .ok _ =>
      let shown (i : Int) : String := match written format (cut i) with
        | .ok t => t
        | .error _ => ""
      count shown separator s total total a
  | none => count (if g.has "w" then padded else plain) separator s total total a
  if total ≠ 0 then Tool.emit "\n"
  return 0

end TaskRunner.Tools.Streams
