import TaskRunner.Decimal.Rounded
import TaskRunner.Decimal.Shortest
import TaskRunner.Tools.Numbers
import TaskRunner.Tools.Options

/-!
# Bytes shown as numbers and characters

Bytes are shown in lines of the same length, each after the place where it begins, and in every line once for
every form that is asked for. Lines like the one before are left out.
-/

namespace TaskRunner.Tools.Dumping

open Processes

/-! ## Forms -/

/-- How some bytes are shown. -/
inductive Form where
  /-- Letters for characters that can be shown, escapes for some and digits for the others. -/
  | characters
  /-- Names of characters, of which only seven bits count. -/
  | names
  | signed (size : Nat)
  | unsigned (size : Nat)
  | octal (size : Nat)
  | hexadecimal (size : Nat)
  | floating (size : Nat)
  deriving DecidableEq

namespace Form

/-- How many bytes are shown together. -/
def size : Form → Nat
  | characters | names => 1
  | signed n | unsigned n | octal n | hexadecimal n | floating n => n

/-- How many places they take. -/
def width : Form → Nat
  | characters | names => 3
  | octal n => (8 * n + 2) / 3
  | hexadecimal n => 2 * n
  | signed n => (Nat.toDigits 10 (Nat.pow 2 (8 * n - 1))).length + 1
  | unsigned n => (Nat.toDigits 10 (Nat.pow 2 (8 * n) - 1)).length
  | floating 4 => 15
  | floating 8 => 24
  | floating _ => 29

end Form

/-- The names of the characters that cannot be seen. -/
def hiddenNames : List String :=
  ["nul", "soh", "stx", "etx", "eot", "enq", "ack", "bel", "bs", "ht", "nl", "vt", "ff", "cr", "so", "si", "dle", "dc1",
    "dc2", "dc3", "dc4", "nak", "syn", "etb", "can", "em", "sub", "esc", "fs", "gs", "rs", "us", "sp"]

/-- The escapes of characters. -/
def escapes : List (Nat × String) :=
  [(0, "\\0"), (7, "\\a"), (8, "\\b"), (9, "\\t"), (10, "\\n"), (11, "\\v"), (12, "\\f"), (13, "\\r")]

/-- A number in a base with a number of digits. -/
def digits (base width n : Nat) : String :=
  let ds := Nat.toDigits base n
  String.ofList (List.replicate (width - ds.length) '0' ++ ds)

/-- The number that bits of a floating number stand for: so many of them are for the exponent and for the fraction. -/
def readFloating (exponentBits fractionBits : Nat) (explicit : Bool) (n : Nat) : Decimal.Reading :=
  let fraction := n % Nat.pow 2 fractionBits
  let exponent : Nat := n / Nat.pow 2 fractionBits % Nat.pow 2 exponentBits
  let negative : Bool := n / Nat.pow 2 (fractionBits + exponentBits) % 2 == 1
  let offset : Int := Int.pow 2 (exponentBits - 1) - 1 + (if explicit then fractionBits - 1 else fractionBits)
  if exponent = Nat.pow 2 exponentBits - 1 then
    if fraction % Nat.pow 2 (if explicit then fractionBits - 1 else fractionBits) = 0 then .infinite negative else .undefined negative
  else if exponent = 0 then .finite negative fraction (1 - offset) false
  else if explicit then .finite negative fraction (exponent - offset) false
  else .finite negative (fraction + Nat.pow 2 fractionBits) (exponent - offset) (fraction = 0 && 1 < exponent)

/-- The shortest of the plainest notations that is still this number, with at least so many digits that count. -/
def shortestFrom (m : Nat) (q : Int) (narrow : Bool) : Nat → Nat → List Char
  | precision, 0 => Decimal.general precision false m q
  | precision, n + 1 =>
    let (ds, e) := Decimal.digitsAndExponent (precision - 1) m q
    if Decimal.readsBack m q narrow (Decimal.natOf 10 ds) (e - (precision - 1 : Nat)) then
      Decimal.general precision false m q
    else shortestFrom m q narrow (precision + 1) n

/-- A floating number as it is shown; `least` is the number of digits that any number of its kind has. -/
def writtenFloating (least : Nat) (r : Decimal.Reading) : String :=
  let sign := if r.isNegative then "-" else ""
  match r with
  | .undefined _ => sign ++ "nan"
  | .infinite _ => sign ++ "inf"
  | .finite _ m q narrow =>
    if m = 0 then sign ++ "0" else sign ++ String.ofList (shortestFrom m q narrow least 24)

/-- Some bytes as a form shows them, the last byte the highest. -/
def Form.show_ (f : Form) (bytes : List UInt8) : String :=
  let n := bytes.foldr (fun b n => n * 256 + b.toNat) 0
  match f with
  | characters =>
    match escapes.find? fun (code, _) => code == n with
    | some (_, escape) => escape
    | none => if 32 ≤ n ∧ n < 127 then String.singleton (Char.ofNat n) else digits 8 3 n
  | names =>
    let n := n % 128
    if n = 127 then "del" else (hiddenNames[n]?).getD (String.singleton (Char.ofNat n))
  | signed size =>
    if Nat.pow 2 (8 * size - 1) ≤ n then "-" ++ toString (Nat.pow 2 (8 * size) - n) else toString n
  | unsigned _ => toString n
  | octal _ => digits 8 f.width n
  | hexadecimal _ => digits 16 f.width n
  | floating 4 => writtenFloating (if n / Nat.pow 2 23 % 256 = 0 then 1 else 6) (readFloating 8 23 false n)
  | floating 8 => writtenFloating (if n / Nat.pow 2 52 % 2048 = 0 then 1 else 15) (readFloating 11 52 false n)
  | floating _ => writtenFloating 18 (readFloating 15 64 true n)

/-- A form, and whether the characters are shown after it. -/
structure Shown where
  form : Form
  trailer : Bool

/-- Why a text names no forms. -/
inductive Fault where
  | letter (c : Char)
  | text
  | size (n : Nat) (floating : Bool)

/-- The size that the text goes on with: a letter, a number, or nothing. -/
def readSize (letters : List (Char × Nat)) (usual : Nat) (known : List Nat) (isFloating : Bool) (cs : List Char) :
    Except Fault (Nat × List Char) :=
  match cs with
  | [] => .ok (usual, [])
  | c :: rest =>
    match letters.find? fun (l, _) => l == c with
    | some (_, n) => .ok (n, rest)
    | none =>
      let (ds, after) := cs.span Char.isDigit
      let n := Decimal.natOf 10 ds
      if ds = [] then .ok (usual, cs)
      else if Numbers.most < n then .error .text
      else if known.contains n then .ok (n, after)
      else .error (.size n isFloating)

/-- Reads forms. -/
def readForms : Nat → List Char → List Shown → Except Fault (List Shown)
  | 0, _, read => .ok read.reverse
  | _, [], read => .ok read.reverse
  | n + 1, c :: cs, read =>
    let after (form : Form) (rest : List Char) : Except Fault (List Shown) :=
      match rest with
      | 'z' :: rest => readForms n rest (⟨form, true⟩ :: read)
      | rest => readForms n rest (⟨form, false⟩ :: read)
    let whole (make : Nat → Form) : Except Fault (List Shown) := do
      let (size, rest) ← readSize [('C', 1), ('S', 2), ('I', 4), ('L', 8)] 4 [1, 2, 4, 8] false cs
      after (make size) rest
    match c with
    | 'a' => after .names cs
    | 'c' => after .characters cs
    | 'd' => whole .signed
    | 'o' => whole .octal
    | 'u' => whole .unsigned
    | 'x' => whole .hexadecimal
    | 'f' => do
      let (size, rest) ← readSize [('F', 4), ('D', 8), ('L', 16)] 8 [4, 8, 16] true cs
      after (.floating size) rest
    | c => .error (.letter c)

/-! ## Lines -/

/-- How bytes are shown. -/
structure Layout where
  forms : List Shown
  /-- The base of places and how many digits they have, unless none are shown. -/
  address : Option (Nat × Nat)
  /-- How many bytes a line has. -/
  line : Nat
  /-- Whether lines like the one before are shown. -/
  all : Bool
  /-- Whether the first byte of several is the highest. -/
  bigEnd : Bool

namespace Layout

/-- How many places the bytes of a line take. -/
def places (o : Layout) : Nat := o.forms.foldl (fun w f => max w ((f.form.width + 1) * (o.line / f.form.size))) 0

/-- A place. -/
def placeText (o : Layout) (n : Nat) : String :=
  match o.address with
  | some (base, width) => digits base width n
  | none => ""

/-- The bytes of a line in one form. -/
def lineOf (o : Layout) (f : Shown) (bytes : List UInt8) : String :=
  let fields := o.line / f.form.size
  let present := (bytes.length + f.form.size - 1) / f.form.size
  let blank := fields - present
  let pad := o.places - f.form.width * fields
  let filled := bytes ++ List.replicate (present * f.form.size - bytes.length) 0
  let cells := (List.range present).map fun i =>
    let cell := (filled.drop (i * f.form.size)).take f.form.size
    let before := pad * (fields - i) / fields - pad * (fields - i - 1) / fields
    Numbers.right (before + f.form.width) (f.form.show_ (if o.bigEnd then cell.reverse else cell))
  let trailer :=
    if f.trailer then
      String.ofList (List.replicate (blank * f.form.width + pad * blank / fields) ' ') ++ "  >"
        ++ String.ofList (bytes.map fun b => if 32 ≤ b ∧ b < 127 then Char.ofNat b.toNat else '.') ++ "<"
    else ""
  String.join cells ++ trailer

/-- The bytes of a line in all forms. -/
def linesOf (o : Layout) (place : Nat) (bytes : List UInt8) : String :=
  let blank := String.ofList (List.replicate (o.placeText 0).length ' ')
  String.join (o.forms.zipIdx.map fun (f, i) => (if i = 0 then o.placeText place else blank) ++ o.lineOf f bytes ++ "\n")

end Layout

/-- Shows bytes from a place on; `place` is counted in what is held, `start` is where that begins. -/
def showFrom (o : Layout) (bytes : ByteArray) (start : Nat) : Nat → Nat → Option (List UInt8) → Bool → Tool Unit
  | 0, _, _, _ => return
  | n + 1, place, before, isStarred => do
    if bytes.size ≤ place then return
    let line := (bytes.extract place (place + o.line)).toList
    Proc.step
    if ¬ o.all ∧ line.length = o.line ∧ before = some line then
      if ¬ isStarred then Tool.emit "*\n"
      showFrom o bytes start n (place + o.line) before true
    else
      Tool.emit (o.linesOf (start + place) line)
      showFrom o bytes start n (place + o.line) (some line) false

/-- The texts in bytes that have at least so many characters, each with its place; they end in a zero byte. -/
def textsOf (least : Nat) (bytes : ByteArray) : Nat → Nat → Nat → List (Nat × String) → List (Nat × String)
  | 0, _, _, found => found.reverse
  | n + 1, place, start, found =>
    if bytes.size ≤ place then found.reverse
    else
      let b := bytes.get! place
      if 32 ≤ b ∧ b < 127 then textsOf least bytes n (place + 1) start found
      else if b = 0 ∧ start + least ≤ place then
        textsOf least bytes n (place + 1) (place + 1) ((start, Text.Octets.ofBytes (bytes.extract start place)) :: found)
      else textsOf least bytes n (place + 1) (place + 1) found

/-- Reads so many bytes from descriptors, or all there are. -/
def readUpTo (descriptor : Nat) : Nat → Option Nat → ByteArray → Tool (ByteArray × Option Refusal)
  | 0, _, read => return (read, none)
  | n + 1, most, read => do
    let wanted := match most with
      | some m => min Proc.blockSize (m - read.size)
      | none => Proc.blockSize
    if wanted = 0 then return (read, none)
    match ← Proc.read descriptor wanted with
    | .error r => return (read, some r)
    | .ok bytes => if bytes.isEmpty then return (read, none) else readUpTo descriptor n most (read ++ bytes)

/-- What was read of files. -/
structure Gathered where
  bytes : ByteArray
  /-- Whether all that is wanted could be read. -/
  isWhole : Bool
  /-- Whether there is a file that could be opened. -/
  isOpened : Bool

/-- Reads files one after another, as much as is wanted. -/
def gather (most : Option Nat) : List String → Gathered → Tool Gathered
  | [], read => return read
  | path :: rest, read => do
    if most = some read.bytes.size ∧ read.isOpened then return read
    match ← Tool.openInput path with
    | .error r =>
      Tool.say (Quoting.file path ++ ": " ++ r.message)
      gather most rest { read with isWhole := false }
    | .ok d =>
      let (bytes, refused) ← readUpTo d Proc.endless most read.bytes
      Tool.closeInput d
      match refused with
      | none => gather most rest ⟨bytes, read.isWhole, true⟩
      | some r =>
        Tool.say (Quoting.file (if path = "-" then "standard input" else path) ++ ": " ++ r.message)
        gather most rest ⟨bytes, false, true⟩

/-! ## The program -/

/-- The forms that letters stand for. -/
def letterForms : List (String × String) :=
  [("a", "a"), ("b", "o1"), ("c", "c"), ("D", "u4"), ("d", "u2"), ("e", "fD"), ("F", "fD"), ("f", "fF"), ("H", "xI"),
    ("X", "xI"), ("h", "x2"), ("x", "x2"), ("i", "dI"), ("I", "dL"), ("L", "dL"), ("l", "dL"), ("O", "oI"), ("o", "oS"),
    ("B", "oS"), ("s", "d2")]

/-- The offset that an argument may stand for: a number, octal unless it has a point at its end or an x at its
beginning, perhaps counted in blocks. -/
def offset? (s : String) : Option Nat :=
  let cs := match s.toList with
    | '+' :: cs => cs
    | cs => cs
  let (cs, blocks) : List Char × Bool := if cs.getLast? = some 'b' then (cs.dropLast, true) else (cs, false)
  let (base, ds) : Nat × List Char := match cs with
    | '0' :: 'x' :: ds | '0' :: 'X' :: ds => (16, ds)
    | cs => if cs.getLast? = some '.' then (10, cs.dropLast) else (8, cs)
  let isRight (c : Char) : Bool := if base = 16 then Decimal.isHexDigit c else '0' ≤ c && c.toNat < 48 + base
  if ds = [] ∨ ¬ ds.all isRight then none else some (Decimal.natOf base ds * if blocks then 512 else 1)

/-- A number with a base and a letter for what it is counted in, as an option has it. -/
def count (option_ s : String) : Tool Nat := do
  let (base, rest) : Nat × List Char := match s.toList with
    | '0' :: 'x' :: rest | '0' :: 'X' :: rest => (16, rest)
    | '0' :: rest => if rest.head?.any Char.isDigit then (8, rest) else (10, '0' :: rest)
    | '+' :: rest => (10, rest)
    | cs => (10, cs)
  let isRight (c : Char) : Bool := if base = 16 then Decimal.isHexDigit c else '0' ≤ c && c.toNat < 48 + base
  let (ds, suffix) := rest.span isRight
  if ds = [] then Tool.fail 1 ("invalid -" ++ option_ ++ " argument '" ++ s ++ "'")
  match Numbers.factor? (String.ofList suffix) with
  | some factor =>
    let n := Decimal.natOf base ds * factor
    if Numbers.most < n then Tool.fail 1 ("-" ++ option_ ++ " argument '" ++ s ++ "' too large")
    return n
  | none => Tool.fail 1 ("invalid suffix in -" ++ option_ ++ " argument '" ++ s ++ "'")

/-- Shows bytes. -/
def od (args : List String) : Tool Nat := do
  let known := (letterForms.map fun (letter, _) => flag letter) ++ [taking "A" "address-radix", taking "j" "skip-bytes",
    taking "N" "read-bytes", taking "S", ⟨"S", some "strings", .optional⟩, taking "t" "format", flag "v" "output-duplicates", mayTake "w" "width",
    word "traditional", wordTaking "endian"]
  let g ← Options.read { known } args
  let modern := ["A", "j", "N", "t", "v", "w", "S", "endian"].any g.has
  let mut forms : List Shown := []
  let mut isWrong := false
  let mut address : Option (Nat × Nat) := some (8, 7)
  let mut skip := 0
  let mut limit : Option Nat := none
  let mut width : Option Nat := none
  let mut texts : Option Nat := none
  let mut bigEnd := false
  for (key, value) in g.options do
    let text := value.getD ""
    match key with
    | "A" =>
      match text with
      | "d" => address := some (10, 7)
      | "o" => address := some (8, 7)
      | "x" => address := some (16, 6)
      | "n" => address := none
      | _ =>
        Tool.fail 1 ("invalid output address radix '" ++ (text.take 1).toString
          ++ "'; it must be one character from [doxn]")
    | "j" => skip := ← count "j" text
    | "N" => limit := some (← count "N" text)
    | "S" => texts := some (← if value.isSome then count "S" text else pure 3)
    | "w" => width := some (← if value.isSome then count "w" text else pure 32)
    | "endian" => bigEnd := (← Options.choice 1 "--endian" [["little"], ["big"]] text) == "big"
    | "v" | "traditional" => pure ()
    | key =>
      let named := ((letterForms.find? fun (letter, _) => letter == key).map Prod.snd).getD text
      match readForms (named.length + 1) named.toList [] with
      | .ok more => forms := forms ++ more
      | .error fault =>
        isWrong := true
        Tool.say <| match fault with
          | .letter c => "invalid character '" ++ String.singleton c ++ "' in type string " ++ Quoting.local_ named
          | .text => "invalid type string " ++ Quoting.local_ named
          | .size n isFloating => "invalid type string " ++ Quoting.local_ named ++ ";\nthis system doesn't provide a "
            ++ toString n ++ "-byte " ++ (if isFloating then "floating point" else "integral") ++ " type"
  if isWrong then return 1
  let mut paths := g.operands
  if ¬ modern ∨ g.has "traditional" then
    let isOffset (s : String) (first : Bool) : Bool :=
      g.has "traditional" || s.startsWith "+" || (!first && (s.toList.head?.map Char.isDigit).getD false)
    match paths with
    | [s] => match if isOffset s true then offset? s else none with
      | some n =>
        skip := n
        paths := []
      | none => pure ()
    | [path, s] => match if isOffset s false then offset? s else none with
      | some n =>
        skip := n
        paths := [path]
      | none => pure ()
    | _ => pure ()
  if forms.isEmpty then forms := [⟨.octal 2, false⟩]
  let unit := forms.foldl (fun n f => Nat.lcm n f.form.size) 1
  let mut line := unit * max 1 (16 / unit)
  match width with
  | none => pure ()
  | some w =>
    if w = 0 then Proc.finish (.killed 6)
    if w % unit = 0 then line := w
    else
      Tool.say ("warning: invalid width " ++ toString w ++ "; using " ++ toString unit ++ " instead")
      line := unit
  let o : Layout := { forms, address, line, all := g.has "v", bigEnd }
  let ⟨bytes, isWhole, isOpened⟩ ← gather (limit.map (· + skip)) (if paths = [] then ["-"] else paths)
    ⟨ByteArray.empty, true, false⟩
  if ¬ isOpened then return 1
  if bytes.size < skip then Tool.fail 1 "cannot skip past end of combined input"
  match texts with
  | some least =>
    for (place, text) in textsOf least bytes (bytes.size + 1) skip skip [] do
      Tool.emitLine ((if address.isSome then o.placeText place ++ " " else "") ++ text)
  | none =>
    let shown := bytes.extract skip bytes.size
    showFrom o shown skip (shown.size + 1) 0 none false
    if address.isSome then Tool.emitLine (o.placeText bytes.size)
  return if isWhole then 0 else 1

end TaskRunner.Tools.Dumping
