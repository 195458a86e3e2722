import TaskRunner.Tools.Options
import TaskRunner.Tools.Numbers
import TaskRunner.Tools.Sums.Digest

/-!
# Programs that sum files up

The digests of files are written, one in a line, and lists of them are compared with the files again.
-/

namespace TaskRunner.Tools.Sums

open Processes

/-! ## Kinds of digests -/

/-- A kind of digest. -/
structure Kind where
  /-- What it is called in lines that name it. -/
  label : String
  /-- How many octets it has, if nothing else is wanted. -/
  size : Nat
  /-- Whether it can have another size. -/
  varies : Bool
  digest : Nat → ByteArray → List UInt8

/-- Digests by the names that they are asked for with. -/
def kinds : List (String × Kind) :=
  [("md5", ⟨"MD5", 16, false, fun _ => md5⟩), ("sha1", ⟨"SHA1", 20, false, fun _ => sha1⟩),
    ("sha224", ⟨"SHA224", 28, false, fun _ => sha224⟩), ("sha256", ⟨"SHA256", 32, false, fun _ => sha256⟩),
    ("sha384", ⟨"SHA384", 48, false, fun _ => sha384⟩), ("sha512", ⟨"SHA512", 64, false, fun _ => sha512⟩),
    ("blake2b", ⟨"BLAKE2b", 64, true, blake2b⟩)]

/-- What files are summed up to. -/
inductive Method where
  | digest (k : Kind)
  /-- A remainder and the number of octets. -/
  | remainder
  /-- A sum and the number of blocks of so many octets. -/
  | sum (of : ByteArray → Nat) (block : Nat) (wide : Bool)

/-- Digits of octets. -/
def hexadecimal (bytes : List UInt8) : String :=
  String.ofList (bytes.flatMap fun b => [Nat.digitChar (b.toNat / 16), Nat.digitChar (b.toNat % 16)])

/-! ## Lines -/

/-- Whether a name cannot stand in a line as it is. -/
def isDifficult (name : String) : Bool := name.toList.any fun c => c == '\x5c' || c == '\n' || c == '\r'

/-- A name with escapes. -/
def escaped (name : String) : String :=
  String.join <| name.toList.map fun c => match c with
    | '\x5c' => "\\\\"
    | '\n' => "\\n"
    | '\r' => "\\r"
    | c => String.singleton c

/-- A name as it stands in a line, and what stands before the line. -/
def nameIn (ending name : String) : String × String :=
  if ending = "\n" ∧ isDifficult name then ("\\", escaped name) else ("", name)

/-- Takes escapes back. -/
def unescaped : List Char → Option (List Char)
  | [] => some []
  | '\x5c' :: 'n' :: rest => (unescaped rest).map ('\n' :: ·)
  | '\x5c' :: 'r' :: rest => (unescaped rest).map ('\r' :: ·)
  | '\x5c' :: '\x5c' :: rest => (unescaped rest).map ('\x5c' :: ·)
  | '\x5c' :: _ => none
  | c :: rest => (unescaped rest).map (c :: ·)

/-- The line of a digest. -/
def lineOf (k : Kind) (size : Nat) (labelled binary : Bool) (ending name digits : String) : String :=
  let (start, shown) := nameIn ending name
  if labelled then
    start ++ k.label ++ (if size = k.size then "" else "-" ++ toString (8 * size)) ++ " (" ++ shown ++ ") = " ++ digits ++ ending
  else start ++ digits ++ " " ++ (if binary then "*" else " ") ++ shown ++ ending

/-- What a line of a list says. -/
structure Entry where
  kind : Kind
  size : Nat
  digits : String
  name : String

/-- Reads the number of bits in a line. -/
def bitsIn (k : Kind) (cs : List Char) : Option (Nat × List Char) :=
  match k.varies, cs with
  | true, '-' :: cs =>
    let (digits, rest) := cs.span Char.isDigit
    let bits := Decimal.natOf 10 digits
    if bits = 0 ∨ bits % 8 ≠ 0 ∨ 8 * k.size < bits then none else some (bits / 8, rest)
  | _, cs => some (k.size, cs)

/-- Reads a line that names the kind of its digest. -/
def labelled? (among : List Kind) (cs : List Char) : Option Entry := do
  let named := among.filter fun k => k.label.toList.isPrefixOf cs
  named.findSome? fun k => do
    let (size, cs) ← bitsIn k (cs.drop k.label.length)
    let cs := if cs.head? == some ' ' then cs.drop 1 else cs
    guard (cs.head? == some '(')
    let (after, name) := (cs.drop 1).reverse.span (· != ')')
    let name := (name.drop 1).reverse
    guard (after.length < cs.length - 1)
    let digits := after.reverse.dropWhile fun c => c == ' ' || c == '\t'
    guard (digits.head? == some '=')
    let digits := (digits.drop 1).dropWhile fun c => c == ' ' || c == '\t'
    guard (digits.length = 2 * size ∧ digits.all Decimal.isHexDigit)
    return ⟨k, size, String.ofList digits, String.ofList name⟩

/-- Reads a line that begins with a digest. -/
def plain? (k : Kind) (cs : List Char) : Option Entry := do
  let (digits, rest) := cs.span Decimal.isHexDigit
  guard (rest.head?.any fun c => c == ' ' || c == '\t')
  let size := if k.varies then digits.length / 2 else k.size
  guard (digits.length = 2 * size ∧ 0 < size ∧ size ≤ k.size)
  let rest := rest.drop 1
  let name := match rest with
    | ' ' :: more | '*' :: more => if more = [] then rest else more
    | rest => rest
  guard (name ≠ [])
  return ⟨k, size, String.ofList digits, String.ofList name⟩

/-- Reads a line; only one that names its kind if the kind is not known. -/
def entryOf (known : Option Kind) (line : String) : Option Entry := do
  let cs := line.toList.dropWhile fun c => c == ' ' || c == '\t'
  let (hasEscapes, cs) := match cs with
    | '\x5c' :: rest => (true, rest)
    | cs => (false, cs)
  let found : Option Entry := match known with
    | some k => labelled? [k] cs <|> plain? k cs
    | none => labelled? (kinds.map Prod.snd) cs
  let e ← found
  if hasEscapes then
    let name ← unescaped e.name.toList
    return { e with name := String.ofList name }
  else return e

/-! ## Checking -/

/-- How lists are compared with files. -/
structure Check where
  known : Option Kind
  ignoresMissing : Bool
  quiet : Bool
  silent : Bool
  warns : Bool
  strict : Bool

/-- How lines of a list came out. -/
structure Score where
  malformed : Nat := 0
  proper : Nat := 0
  unread : Nat := 0
  different : Nat := 0
  same : Nat := 0

/-- The bytes of a file that is summed up. -/
def bytesOf (path : String) : Tool (Except Refusal ByteArray) := Tool.contentOf path

/-- Compares a line with a file. -/
def Check.line (c : Check) (list : String) (n : Nat) (s : Score) (line : String) : Tool Score := do
  if line = "" ∨ line.startsWith "#" then return s
  match entryOf c.known line with
  | none =>
    if c.warns then
      let label := (c.known.map Kind.label).getD "CRC"
      Tool.say (Quoting.file list ++ ": " ++ toString n ++ ": improperly formatted " ++ label ++ " checksum line")
    return { s with malformed := s.malformed + 1 }
  | some e =>
    let s := { s with proper := s.proper + 1 }
    let (start, shown) := nameIn "\n" e.name
    let tell (result : String) : Tool Unit := do if ¬ c.silent then Tool.emit (start ++ shown ++ ": " ++ result ++ "\n")
    match ← bytesOf e.name with
    | .error r =>
      if c.ignoresMissing ∧ r = .noEntry then return s
      Tool.say (Quoting.file e.name ++ ": " ++ r.message)
      tell "FAILED open or read"
      return { s with unread := s.unread + 1 }
    | .ok bytes =>
      if hexadecimal (e.kind.digest e.size bytes) = e.digits.map Char.toLower then
        if ¬ c.quiet then tell "OK"
        return { s with same := s.same + 1 }
      else
        tell "FAILED"
        return { s with different := s.different + 1 }

/-- Tells how many of something there were. -/
def warn (n : Nat) (one many : String) : Tool Unit := do
  if n ≠ 0 then Tool.say ("WARNING: " ++ toString n ++ " " ++ if n = 1 then one else many)

/-- Compares a list with files. -/
def Check.list (c : Check) (path : String) : Tool Nat := do
  let shown := if path = "-" then "standard input" else path
  match ← Tool.contentOf path with
  | .error .isDirectory | .error .badDescriptor =>
    Tool.say (Quoting.file shown ++ ": read error")
    return 1
  | .error r =>
    Tool.say (Quoting.file shown ++ ": " ++ r.message)
    return 1
  | .ok bytes =>
    let lines := (Tool.linesOf 10 bytes).1
    let step (s : Score) (l : ByteArray × Nat) : Tool Score := do
      let text := Text.Octets.ofBytes l.1
      c.line shown (l.2 + 1) s (if text.endsWith "\r" then (text.dropEnd 1).toString else text)
    let s ← lines.zipIdx.foldlM step {}
    if s.proper = 0 then
      Tool.say (Quoting.file shown ++ ": no properly formatted checksum lines found")
      return 1
    if ¬ c.silent then
      warn s.malformed "line is improperly formatted" "lines are improperly formatted"
      warn s.unread "listed file could not be read" "listed files could not be read"
      warn s.different "computed checksum did NOT match" "computed checksums did NOT match"
      if c.ignoresMissing ∧ s.same = 0 then Tool.say (Quoting.file shown ++ ": no file was verified")
    let good : Bool := s.different == 0 && s.unread == 0 && (!c.ignoresMissing || s.same != 0)
      && (!c.strict || s.malformed == 0)
    return if good then 0 else 1

/-! ## Programs -/

/-- The size of a digest in octets; zero bits stand for the usual size. -/
def sizeOf (k : Kind) (s : String) : Tool Nat := do
  let invalid : Tool Unit := Tool.say ("invalid length: " ++ Quoting.local_ s)
  match Numbers.whole s with
  | .error _ =>
    invalid
    throw 1
  | .ok bits =>
    if 8 * k.size < bits then
      invalid
      Tool.fail 1 ("maximum digest length for " ++ Quoting.local_ k.label ++ " is " ++ toString (8 * k.size) ++ " bits")
    if bits % 8 ≠ 0 then
      invalid
      Tool.fail 1 "length is not a multiple of 8"
    return if bits = 0 then k.size else bits / 8

/-- What is said if nothing can be written: why only if the output is not open. -/
def unwritten (r : Refusal) : String := if r = .badDescriptor then "write error: " ++ r.message else "write error"

/-- The options of all programs that write digests. -/
def usualOptions : List Known :=
  [flag "b" "binary", flag "c" "check", flag "t" "text", flag "z" "zero", word "ignore-missing", word "quiet",
    word "status", flag "w" "warn", word "strict", word "tag"]

/-- Stops if options do not go together. -/
def checkOptions (g : Given) : Tool Unit := do
  let checks := g.has "c"
  let last := g.lastOf? ["b", "t"]
  if g.has "tag" ∧ last = some "t" then Tool.misuse 1 "--tag does not support --text mode"
  if g.has "z" ∧ checks then Tool.misuse 1 "the --zero option is not supported when verifying checksums"
  if g.has "tag" ∧ checks then Tool.misuse 1 "the --tag option is meaningless when verifying checksums"
  if last.isSome ∧ checks then
    Tool.misuse 1 "the --binary and --text options are meaningless when verifying checksums"
  for key in ["ignore-missing", "status", "w", "quiet", "strict"] do
    if g.has key ∧ ¬ checks then
      let shown := if key = "w" then "warn" else key
      Tool.misuse 1 ("the --" ++ shown ++ " option is meaningful only when verifying checksums")

/-- How lists are compared with files, as options say. -/
def checkOf (known : Option Kind) (g : Given) : Check :=
  let last := g.lastOf? ["status", "quiet", "w"]
  ⟨known, g.has "ignore-missing", last == some "quiet", last == some "status", last == some "w", g.has "strict"⟩

/-- Writes what a method makes of files. -/
def writeAll (m : Method) (size : Nat) (labelled binary : Bool) (ending : String) (operands : List String) : Tool Nat :=
  Tool.worst (fun path => do
    match ← bytesOf path with
    | .error r =>
      Tool.say (Quoting.file path ++ ": " ++ r.message)
      return 1
    | .ok bytes =>
      let after := if operands = [] then "" else " " ++ path
      match m with
      | .digest k => Tool.emit (lineOf k size labelled binary ending path (hexadecimal (k.digest size bytes)))
      | .remainder => Tool.emit (toString (remainder bytes) ++ " " ++ toString bytes.size ++ after ++ ending)
      | .sum of block wide =>
        let n := toString (of bytes)
        let blocks := toString ((bytes.size + block - 1) / block)
        let shown := if wide then String.ofList (List.replicate (5 - n.length) '0') ++ n ++ " " ++ Numbers.right 5 blocks
          else n ++ " " ++ blocks
        Tool.emit (shown ++ after ++ ending)
      return 0) (if operands = [] then ["-"] else operands)

/-- Writes digests of a kind, or compares lists of them with files. -/
def sum (name : String) (args : List String) : Tool Nat := do
  Tool.ifUnwritten unwritten
  match kinds.find? fun (n, _) => n == name with
  | none => return 1
  | some (_, k) =>
    let known := if k.varies then taking "l" "length" :: usualOptions else usualOptions
    let g ← Options.read { known } args
    let size ← match g.last? "l" with
      | some s => sizeOf k s
      | none => pure k.size
    checkOptions g
    if g.has "c" then Tool.worst (checkOf (some k) g).list (if g.operands = [] then ["-"] else g.operands)
    else
      let ending := if g.has "z" then "\x00" else "\n"
      let binary := g.lastOf? ["b", "t"] == some "b"
      writeAll (.digest k) size (g.has "tag") binary ending g.operands

/-- The sum that is turned. -/
def turning : Method := .sum turningSum 1024 true

/-- The sum of all octets. -/
def adding : Method := .sum plainSum 512 false

/-- Writes sums of files, in one of two ways. -/
def plainSums (args : List String) : Tool Nat := do
  Tool.ifUnwritten unwritten
  let g ← Options.read { known := [flag "r", flag "s" "sysv"] } args
  writeAll (if g.lastOf? ["r", "s"] = some "s" then adding else turning) 0 false false "\n" g.operands

/-- Writes remainders, sums or digests of files, or compares lists of digests with files. -/
def cksum (args : List String) : Tool Nat := do
  Tool.ifUnwritten unwritten
  let g ← Options.read
    { known := usualOptions ++ [taking "a" "algorithm", taking "l" "length", word "debug", word "untagged"] } args
  let names := ["bsd", "sysv", "crc", "md5", "sha1", "sha224", "sha256", "sha384", "sha512", "blake2b", "sm3"]
  let chosen ← match g.last? "a" with
    | some s => some <$> Options.choice 1 "--algorithm" (names.map fun n => [n]) s
    | none => pure none
  let kind : Option Kind := (kinds.find? fun (n, _) => some n == chosen).map Prod.snd
  let size ← match g.last? "l", kind with
    | some s, some k =>
      if k.varies then sizeOf k s
      else Tool.fail 1 "--length is only supported with --algorithm=blake2b"
    | some _, none => Tool.fail 1 "--length is only supported with --algorithm=blake2b"
    | none, k => pure ((k.map Kind.size).getD 0)
  if g.has "c" ∧ chosen.isSome ∧ kind.isNone then
    Tool.fail 1 "--check is not supported with --algorithm=\x7bbsd,sysv,crc\x7d"
  checkOptions g
  if g.has "c" then Tool.worst (checkOf kind g).list (if g.operands = [] then ["-"] else g.operands)
  else
    let ending := if g.has "z" then "\x00" else "\n"
    let m : Method := match kind, chosen with
      | some k, _ => .digest k
      | none, some "bsd" => turning
      | none, some "sysv" => adding
      | none, _ => .remainder
    writeAll m size (g.lastOf? ["tag", "untagged"] != some "untagged") (g.lastOf? ["b", "t"] == some "b") ending g.operands

end TaskRunner.Tools.Sums
