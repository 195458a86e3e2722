import TaskRunner.Decimal.Wide
import TaskRunner.Tools.Fields

/-!
# Numbers with units

Numbers in fields of lines are read with a letter for thousands, millions and so on, and written with
one. A letter stands for a power of 1000 or of 1024, as the scale says.
-/

namespace TaskRunner.Tools.Scaling

open Processes
open Decimal (Wide)

/-- What a letter stands for. -/
inductive Scale where
  | none
  /-- A power of 1024 if an `i` follows, of 1000 if not. -/
  | auto
  | thousands
  | binary
  /-- Powers of 1024, the letter always followed by an `i`. -/
  | marked
  deriving DecidableEq

/-- What one letter more multiplies by. -/
def Scale.base : Scale → Nat
  | .binary | .marked => 1024
  | _ => 1000

/-- How numbers become whole. -/
inductive Rounding where
  | up
  | down
  | fromZero
  | towardsZero
  | nearest
  deriving DecidableEq

/-- The whole number that stands for a number. -/
def Rounding.whole (r : Rounding) (w : Wide) : Int :=
  match r with
  | .up => w.ceiling
  | .down => w.floor
  | .fromZero => if w.parts < 0 then w.floor else w.ceiling
  | .towardsZero => if w.parts < 0 then w.ceiling else w.floor
  | .nearest => w.closest

/-- What becomes of what is no number. -/
inductive Invalid where
  /-- Everything ends. -/
  | abort
  | fail
  | warn
  | ignore
  deriving DecidableEq

/-- How numbers are read and written. -/
structure Manner where
  source : Scale := .none
  target : Scale := .none
  sourceUnit : Nat := 1
  targetUnit : Nat := 1
  rounding : Rounding := .fromZero
  ending : Option String := none
  /-- How wide a number is at least. -/
  width : Nat := 0
  /-- Whether a number stands at the left of its width. -/
  left : Bool := false
  /-- How wide a number is at least with zeros before it. -/
  zeros : Nat := 0
  places : Option Nat := none
  before : String := ""
  after : String := ""
  invalid : Invalid := .abort
  mark : Option Char := none
  spans : Option (List Fields.Span) := none
  checks : Bool := false

/-! ## Reading -/

/-- Why a text is no number. -/
inductive Fault where
  | tooLarge
  | notNumber
  /-- There is a letter, and none is read. -/
  | forbidden
  | badLetter
  | missingMark
  deriving DecidableEq

/-- What is said about it. -/
def Fault.message (s : String) : Fault → String
  | .tooLarge => "value too large to be converted: " ++ Quoting.local_ s
  | .notNumber => "invalid number: " ++ Quoting.local_ s
  | .forbidden => "rejecting suffix in input: " ++ Quoting.local_ s ++ " (consider using --from)"
  | .badLetter => "invalid suffix in input: " ++ Quoting.local_ s
  | .missingMark => "missing 'i' suffix in input: " ++ Quoting.local_ s ++ " (e.g Ki/Mi/Gi)"

/-- The letters, that for the first power first. -/
def powers : List Char := "KMGTPEZY".toList

/-- How many digits can be told apart. -/
def exactDigits : Nat := 18

/-- How many digits are read. -/
def mostDigits : Nat := 27

/-- What a text begins with and what follows it. -/
structure Found where
  value : Wide
  places : Nat
  /-- Whether digits were lost. -/
  lossy : Bool
  rest : List Char

/-- The whole number that a text begins with. -/
def wholeOf (cs : List Char) : Except Fault (Bool × Found) := do
  let (negative, cs) := match cs with
    | '-' :: rest => (true, rest)
    | cs => (false, cs)
  let (digits, rest) := cs.span Char.isDigit
  let count := (digits.dropWhile (· == '0')).length
  if mostDigits < count then throw .tooLarge
  if digits = [] ∧ rest.head? ≠ some '.' then throw .notNumber
  let step (w : Wide) (c : Char) : Wide := (w.times 10).plus (Wide.ofInt (Decimal.digitValue c))
  let value := digits.foldl step (Wide.ofInt 0)
  return (negative, ⟨if negative then value.negated else value, 0, exactDigits < count, rest⟩)

/-- The decimal number that a text begins with. -/
def decimalOf (cs : List Char) : Except Fault Found := do
  let (negative, w) ← wholeOf cs
  match w.rest with
  | '.' :: rest =>
    let (negativeToo, fraction) ← wholeOf rest
    if negativeToo then throw .notNumber
    let places := rest.length - fraction.rest.length
    let part := fraction.value.dividedBy (Nat.pow 10 places)
    return ⟨w.value.plus (if negative then part.negated else part), places, w.lossy || fraction.lossy, fraction.rest⟩
  | _ => return w

/-- The number with its letter that a text begins with. -/
def scaledOf (scale : Scale) (cs : List Char) : Except Fault Found := do
  let f ← decimalOf cs
  match f.rest with
  | [] => if scale = .marked then throw .missingMark else return f
  | rest =>
    match rest.dropWhile fun c => c == ' ' || c == '\t' with
    | [] => throw .badLetter
    | c :: rest =>
      match powers.findIdx? (· == c) with
      | none => throw .badLetter
      | some i =>
        if scale = .none then throw .forbidden
        let (base, rest) : Nat × List Char := match scale, rest with
          | .auto, 'i' :: rest => (1024, rest)
          | _, rest => (scale.base, rest)
        let found (rest : List Char) : Found := ⟨f.value.times (Nat.pow base (i + 1)), 0, f.lossy, rest⟩
        match scale, rest with
        | .marked, 'i' :: rest => return found rest
        | .marked, _ => throw .missingMark
        | _, rest => return found rest

/-! ## Writing -/

/-- A number below a base, and how often it was divided for that. -/
def reduced (base : Nat) : Nat → Wide → Nat → Wide × Nat
  | 0, w, power => (w, power)
  | n + 1, w, power => if w.reaches base then reduced base n (w.dividedBy base) (power + 1) else (w, power)

/-- A number with zeros before it, after its sign. -/
def zeroed (width : Nat) (s : String) : String :=
  let zeros := String.ofList (List.replicate (width - s.length) '0')
  if s.startsWith "-" then "-" ++ zeros ++ (s.drop 1).toString else zeros ++ s

/-- Writes a number. -/
def Manner.text (m : Manner) (w : Wide) (places : Nat) : String :=
  let rounded (w : Wide) (digits : Nat) : Wide :=
    (Wide.ofInt (m.rounding.whole (w.times (Nat.pow 10 digits)))).dividedBy (Nat.pow 10 digits)
  if m.target = .none then zeroed m.zeros ((rounded w places).toFixed places)
  else
    let base := m.target.base
    let (w, power) := reduced base 100 w 0
    let digits := match m.places with
      | some p => min (power * 3) p
      | none => if w.reaches 10 then 0 else 1
    let w := rounded w digits
    let (w, power) := if w.reaches base then (w.dividedBy base, power + 1) else (w, power)
    let shown := match m.places with
      | some p => p
      | none => if w.parts ≠ 0 ∧ ¬ w.reaches 10 ∧ 0 < power then 1 else 0
    let letter := if power = 0 then "" else ((powers[power - 1]?).map String.singleton).getD ""
    zeroed m.zeros (w.toFixed shown) ++ letter ++ if m.target = .marked ∧ 0 < power then "i" else ""

/-! ## Lines -/

/-- Says what is wrong with a number. -/
def Manner.complain (m : Manner) (message : String) : Tool Unit := do
  match m.invalid with
  | .ignore => return
  | .abort => Tool.fail 2 message
  | _ => Tool.say message

/-- Writes a field in another form; whether it is a number. -/
def Manner.convert (m : Manner) (field : Nat) (text : String) : Tool Bool := do
  let text := match m.ending with
    | some ending =>
      if ending.length < text.length ∧ text.endsWith ending then (text.dropEnd ending.length).toString else text
    | none => text
  let cs := text.toList.dropWhile fun c => c == ' ' || c == '\t'
  let width : Nat := if m.width ≠ 0 ∨ m.mark.isSome then m.width
    else if cs.length < text.length ∨ 1 < field then text.length else 0
  let asIs (message : String) : Tool Bool := do
    m.complain message
    Tool.emit text
    return false
  match scaledOf m.source cs with
  | .error f => asIs (f.message (String.ofList cs))
  | .ok f =>
    if f.rest ≠ [] then
      asIs ("invalid suffix in input " ++ Quoting.local_ (String.ofList cs) ++ ": " ++ Quoting.local_ (String.ofList f.rest))
    else
      if f.lossy ∧ m.checks then
        Tool.say ("large input value " ++ Quoting.local_ (String.ofList cs) ++ ": possible precision loss")
      let w := if m.sourceUnit = 1 ∧ m.targetUnit = 1 then f.value else (f.value.times m.sourceUnit).dividedBy m.targetUnit
      let places := m.places.getD f.places
      let size := (reduced 10 5000 w 0).2
      let shown := (if w.parts < 0 then "-" else "") ++ Decimal.written 'g' (some 6) false 64 w.reading
      if m.target = .none ∧ exactDigits < size + places then
        if places ≠ 0 then
          asIs ("value/precision too large to be printed: '" ++ shown ++ "/" ++ toString places ++ "' (consider using --to)")
        else asIs ("value too large to be printed: '" ++ shown ++ "' (consider using --to)")
      else if mostDigits - 1 < size then
        asIs ("value too large to be printed: '" ++ shown ++ "' (cannot handle values > 999Y)")
      else
        let s := m.text w places ++ m.ending.getD ""
        Tool.emit (m.before ++ (if m.left then Numbers.left width s else Numbers.right width s) ++ m.after)
        return true

/-- The fields of a line; blanks before a field belong to it if no mark parts fields. -/
def Manner.fields (m : Manner) (line : String) : List String :=
  match m.mark with
  | some c => line.splitOn (String.singleton c)
  | none => (go (line.length + 1) line.toList []).reverse
where
  /-- Takes field after field, the last first. -/
  go : Nat → List Char → List String → List String
    | 0, _, read => read
    | n + 1, cs, read =>
      let isBlank (c : Char) : Bool := c == ' ' || c == '\t' || c == '\n'
      let (blanks, rest) := cs.span isBlank
      let (word, rest) := rest.span fun c => !isBlank c
      let field := String.ofList (blanks ++ word)
      match rest with
      | [] => field :: read
      | _ :: rest => go n rest (field :: read)

/-- Writes a line with its numbers in another form; whether all of them are numbers. -/
def Manner.line (m : Manner) (line : String) : Tool Bool := do
  let chosen (n : Nat) : Bool := match m.spans with
    | none => n == 1
    | some spans => spans.any fun s => s.first ≤ n && (match s.last with
      | none => true
      | some stop => n ≤ stop)
  let step (fine : Bool) (item : String × Nat) : Tool Bool := do
    let (text, i) := item
    if i ≠ 0 then Tool.emit (String.singleton (m.mark.getD ' '))
    if chosen (i + 1) then return fine && (← m.convert (i + 1) text)
    Tool.emit text
    return fine
  (m.fields line).zipIdx.foldlM step true

/-! ## Options -/

/-- The number that a unit stands for. -/
def unitOf (s : String) : Tool Nat := do
  let (digits, rest) := s.toList.span Char.isDigit
  let factor : Option Nat := match rest with
    | [] => some 1
    | [c] => (powers.findIdx? (· == c)).map fun i => Nat.pow 1000 (i + 1)
    | [c, 'i'] => (powers.findIdx? (· == c)).map fun i => Nat.pow 1024 (i + 1)
    | _ => none
  let n := (if digits = [] then 1 else Decimal.natOf 10 digits) * factor.getD 0
  if n = 0 ∨ Numbers.most < n ∨ (digits = [] ∧ rest = []) then Tool.fail 1 ("invalid unit size: " ++ Quoting.local_ s)
  return n

/-- The text before the directive of a format, and what follows its sign. -/
def beforeDirective : Nat → List Char → Option (Nat × List Char)
  | _, [] => none
  | n, '%' :: '%' :: rest => beforeDirective (n + 1) rest
  | n, '%' :: rest => some (n, rest)
  | n, _ :: rest => beforeDirective (n + 1) rest

/-- Whether there is another directive in what follows one. -/
def hasDirective : List Char → Bool
  | [] => false
  | '%' :: '%' :: rest => hasDirective rest
  | '%' :: _ => true
  | _ :: rest => hasDirective rest

/-- Reads the flags of a directive: whether numbers are grouped, whether they have zeros before them, and the rest. -/
def directiveFlags : List Char → Bool × Bool → (Bool × Bool) × List Char
  | ' ' :: rest, f => directiveFlags rest f
  | '\x27' :: rest, (_, zeros) => directiveFlags rest (true, zeros)
  | '0' :: rest, (groups, _) => directiveFlags rest (groups, true)
  | rest, f => (f, rest)

/-- The whole number that a text begins with, blanks and a sign before it, and the rest; none if it begins with none. -/
def leadingInteger (cs : List Char) : Option Int × List Char :=
  let (negative, rest) := match Decimal.skipBlanks cs with
    | '-' :: rest => (true, rest)
    | '+' :: rest => (false, rest)
    | rest => (false, rest)
  match rest.span Char.isDigit with
  | ([], _) => (none, cs)
  | (digits, rest) =>
    let n : Int := Decimal.natOf 10 digits
    (some (if negative then -n else n), rest)

/-- Takes over what a format says; whether it asks for groups too. -/
def Manner.withFormat (m : Manner) (format : String) : Tool (Manner × Bool) := do
  let shown := Quoting.local_ format
  match beforeDirective 0 format.toList with
  | none => Tool.fail 1 ("format " ++ shown ++ " has no % directive")
  | some (size, rest) =>
    let ((groups, zeros), rest) := directiveFlags rest (false, false)
    let (width, rest) := leadingInteger rest
    if width.any fun w => Nat.pow 2 63 ≤ w.natAbs then Tool.fail 1 ("invalid format " ++ shown ++ " (width overflow)")
    let m : Manner := match width with
      | none => m
      | some w =>
        if w < 0 then { m with left := true, width := w.natAbs }
        else if w = 0 then m
        else if zeros then { m with zeros := w.toNat }
        else { m with width := w.toNat }
    if rest = [] then Tool.fail 1 ("format " ++ shown ++ " ends in %")
    let (m, rest) ← match rest with
      | '.' :: rest =>
        let strange := rest.head?.any fun c => c == ' ' || c == '\t' || c == '+'
        match leadingInteger rest with
        | (some p, after) =>
          if p < 0 ∨ strange ∨ Nat.pow 2 63 ≤ p then Tool.fail 1 ("invalid precision in format " ++ shown)
          else pure ({ m with places := some p.toNat }, after)
        | (none, after) =>
          if strange then Tool.fail 1 ("invalid precision in format " ++ shown)
          else pure ({ m with places := some 0 }, after)
      | rest => pure (m, rest)
    match rest with
    | 'f' :: after =>
      if hasDirective after then Tool.fail 1 ("format " ++ shown ++ " has too many % directives")
      return ({ m with before := String.ofList (format.toList.take size), after := String.ofList after }, groups)
    | _ => Tool.fail 1 ("invalid format " ++ shown ++ ", directive must be %[0]['][-][N][.][N]f")

/-- The scale of a name. -/
def scaleOf (s : String) : Scale :=
  match s with
  | "auto" => .auto
  | "si" => .thousands
  | "iec" => .binary
  | "iec-i" => .marked
  | _ => .none

/-- Takes over an option. -/
def Manner.withOption (m : Manner) (option : String × Option String) : Tool Manner := do
  let (key, value) := option
  let s := value.getD ""
  let one (names : List String) : Tool String := Options.choice 1 ("--" ++ key) (names.map fun n => [n]) s
  match key with
  | "from" => return { m with source := scaleOf (← one ["none", "auto", "si", "iec", "iec-i"]) }
  | "to" => return { m with target := scaleOf (← one ["none", "si", "iec", "iec-i"]) }
  | "from-unit" => return { m with sourceUnit := ← unitOf s }
  | "to-unit" => return { m with targetUnit := ← unitOf s }
  | "round" =>
    match ← one ["up", "down", "from-zero", "towards-zero", "nearest"] with
    | "up" => return { m with rounding := .up }
    | "down" => return { m with rounding := .down }
    | "towards-zero" => return { m with rounding := .towardsZero }
    | "nearest" => return { m with rounding := .nearest }
    | _ => return { m with rounding := .fromZero }
  | "padding" =>
    match leadingInteger s.toList with
    | (some n, []) =>
      if n = 0 ∨ Nat.pow 2 63 ≤ n.natAbs then Tool.fail 1 ("invalid padding value " ++ Quoting.local_ s)
      return { m with width := n.natAbs, left := n < 0 }
    | _ => Tool.fail 1 ("invalid padding value " ++ Quoting.local_ s)
  | "field" =>
    if m.spans.isSome then Tool.fail 1 "multiple field specifications"
    if s = "-" then return { m with spans := some [⟨1, none⟩] }
    return { m with spans := some (← Fields.spansFrom Fields.Named.fields (s.length + 2) {} [] s.toList) }
  | "d" =>
    if 1 < s.length then Tool.fail 1 "the delimiter must be a single character"
    return { m with mark := some (s.toList.head?.getD '\x00') }
  | "suffix" => return { m with ending := some s }
  | "invalid" =>
    match ← one ["abort", "fail", "warn", "ignore"] with
    | "fail" => return { m with invalid := .fail }
    | "warn" => return { m with invalid := .warn }
    | "ignore" => return { m with invalid := .ignore }
    | _ => return { m with invalid := .abort }
  | "debug" => return { m with checks := true }
  | _ => return m

/-- How many lines are left as they are. -/
def headerOf (g : Given) : Tool Nat := do
  if ¬ g.has "header" then return 0
  match g.last? "header" with
  | none => return 1
  | some s =>
    match Numbers.whole s with
    | .ok n =>
      if n = 0 then Tool.fail 1 ("invalid header value " ++ Quoting.local_ s)
      return n
    | .error _ => Tool.fail 1 ("invalid header value " ++ Quoting.local_ s)

/-- Writes numbers in another form. -/
def main (args : List String) : Tool Nat := do
  let g ← Options.read
    { known := [wordTaking "from", wordTaking "from-unit", wordTaking "to", wordTaking "to-unit", wordTaking "round",
        wordTaking "padding", wordTaking "suffix", word "grouping", taking "d" "delimiter", wordTaking "field",
        word "debug", wordMayTake "header", wordTaking "format", wordTaking "invalid", flag "z" "zero-terminated"] } args
  let m ← g.options.foldlM Manner.withOption {}
  let header ← headerOf g
  if (g.last? "format").isSome ∧ g.has "grouping" then Tool.fail 1 "--grouping cannot be combined with --format"
  let plain : Bool := m.source == .none && m.target == .none && m.width == 0 && !g.has "grouping" && !g.has "format"
  if m.checks ∧ plain then Tool.say "no conversion option specified"
  let (m, groups) ← match g.last? "format" with
    | some format => m.withFormat format
    | none => pure (m, g.has "grouping")
  if groups ∧ m.target ≠ .none then Tool.fail 1 "grouping cannot be combined with --to"
  if groups ∧ m.checks then Tool.say "grouping has no effect in this locale"
  let ending : String := if g.has "z" then "\x00" else "\n"
  let fine ← if g.operands ≠ [] then do
      if m.checks ∧ header ≠ 0 then Tool.say "--header ignored with command-line input"
      g.operands.foldlM (fun (fine : Bool) s => do
        let good ← m.line s
        Tool.emit ending
        return fine && good) true
    else do
      let p ← Tool.eachLine 0 (if g.has "z" then 0 else 10) false (true, 0) fun (fine, n) bytes ended => do
        let text := Text.Octets.ofBytes bytes
        let good ← if n < header then do
            Tool.emit text
            pure true
          else m.line text
        if ended then Tool.emit ending
        return Tool.Next.more (fine && good, n + 1)
      match p.refused with
      | some r => Tool.fail 1 ("error reading input: " ++ r.message)
      | none => pure ()
      pure p.known.1
  if m.checks ∧ ¬ fine then Tool.say "failed to convert some of the input numbers"
  return if fine ∨ m.invalid = .warn ∨ m.invalid = .ignore then 0 else 2

end TaskRunner.Tools.Scaling
