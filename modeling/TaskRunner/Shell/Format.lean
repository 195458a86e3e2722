import TaskRunner.Calendar.Written
import TaskRunner.Decimal.Rounded
import TaskRunner.Shell.Arithmetic
import TaskRunner.Shell.Escapes
import TaskRunner.Shell.Quoting
import TaskRunner.Text.Locale

/-!
# Formats

A format is written with its arguments, and again as long as it takes arguments and there are some left.
Who writes it decides what is said about arguments that are no numbers, and when.
-/

namespace TaskRunner.Shell.Format

/-- Who writes a format. -/
inductive Writer where
  | plain
  | extended
  /-- The program of its own. -/
  | program
  deriving DecidableEq

/-- What comes of writing a format, in order. -/
inductive Event where
  | out (s : String)
  | complaint (s : String)

/-- The state of writing. -/
structure Progress where
  events : List Event
  args : List String
  /-- Whether an argument has been asked for. -/
  asked : Bool
  status : Nat
  /-- Whether nothing more is to be written. -/
  ended : Bool
  locale : Text.Locale

/-- Writes bytes. -/
def Progress.write (p : Progress) (s : String) : Progress :=
  match p.events with
  | .out t :: rest => { p with events := .out (t ++ s) :: rest }
  | events => { p with events := .out s :: events }

/-- Says something, and fails at the end. -/
def Progress.say (p : Progress) (s : String) : Progress := { p with events := .complaint s :: p.events, status := 1 }

/-- Takes an argument. -/
def Progress.take (p : Progress) : Option String × Progress :=
  match p.args with
  | a :: args => (some a, { p with args, asked := true })
  | [] => (none, { p with asked := true })

/-- What a field looks like. -/
structure Field where
  left : Bool := false
  plus : Bool := false
  blank : Bool := false
  alternative : Bool := false
  zero : Bool := false
  width : Nat := 0
  precision : Option Nat := none

/-- A text in at least so many places. -/
def Field.pad (f : Field) (s : String) : String :=
  let fill := String.ofList (List.replicate (f.width - s.length) ' ')
  if f.left then s ++ fill else fill ++ s

/-- A number, its sign before it, in at least so many places. -/
def Field.padNumber (f : Field) (zero : Bool) (sign digits : String) : String :=
  let size := sign.length + digits.length
  if f.zero ∧ zero ∧ ¬ f.left then sign ++ String.ofList (List.replicate (f.width - size) '0') ++ digits
  else f.pad (sign ++ digits)

/-- A text cut to the precision, in at least so many places. -/
def Field.text (f : Field) (s : String) : String :=
  f.pad (match f.precision with
    | some n => (s.take n).toString
    | none => s)

/-- The sign of a number. -/
def Field.sign (f : Field) (negative : Bool) : String :=
  if negative then "-" else if f.plus then "+" else if f.blank then " " else ""

/-- At least so many digits. -/
def Field.digits (f : Field) (s : String) : String :=
  match f.precision with
  | some n => if n = 0 ∧ s = "0" then "" else String.ofList (List.replicate (n - s.length) '0') ++ s
  | none => s

/-- A whole number with a sign. -/
def Field.signed (f : Field) (n : Int) : String :=
  f.padNumber f.precision.isNone (f.sign (n < 0)) (f.digits (toString n.natAbs))

/-- A whole number without a sign, in a base. -/
def Field.unsigned (f : Field) (letter : Char) (n : Nat) : String :=
  let base := match letter with
    | 'o' => 8
    | 'x' | 'X' => 16
    | _ => 10
  let digits := f.digits (String.ofList (Nat.toDigits base n))
  let digits := if letter = 'o' ∧ f.alternative ∧ ¬ digits.startsWith "0" then "0" ++ digits else digits
  let mark := if f.alternative ∧ n ≠ 0 ∧ (letter = 'x' ∨ letter = 'X') then "0x" else ""
  let text := if letter = 'X' then (mark.toUpper, digits.toUpper) else (mark, digits)
  f.padNumber f.precision.isNone text.1 text.2

/-- A number with a fraction. -/
def Field.real (f : Field) (bits : Nat) (letter : Char) (r : Decimal.Reading) : String :=
  let isFinite := match r with
    | .finite .. => true
    | _ => false
  f.padNumber isFinite (f.sign r.isNegative) (Decimal.written letter f.precision f.alternative bits r)

/-- What is said about an argument that is no number. -/
def notNumber (w : Writer) (s : String) (converted : Bool) : String :=
  match w with
  | .plain => s ++ (if converted then ": not completely converted" else ": expected numeric value")
  | .extended => s ++ ": invalid number"
  | .program =>
    let name := "\u2018" ++ s ++ "\u2019"
    name ++ (if converted then ": value not completely converted" else ": expected a numeric value")

/-- What is said about a number that is too large. -/
def tooLarge (w : Writer) (s : String) : String :=
  match w with
  | .plain => s ++ ": Numerical result out of range"
  | .extended => "warning: " ++ s ++ ": Numerical result out of range"
  | .program => "\u2018" ++ s ++ "\u2019" ++ ": Numerical result out of range"

/-- The number of the character after a quotation mark. -/
def quotedCode (w : Writer) (l : Text.Locale) (s : String) : Int :=
  let rest := (s.drop 1).toString
  match w with
  | .plain => ((rest.toList.head?).map fun c => (c.toNat : Int)).getD 0
  | _ => (((l.characters rest).head?).map fun c =>
      ((Text.Octets.byte? c).getD c.toNat : Int)).getD 0

/-- The whole number that an argument is. -/
def integer (w : Writer) (isSigned : Bool) (p : Progress) : Int × Progress :=
  match p.take with
  | (none, p) => (0, p)
  | (some s, p) =>
    if s.startsWith "\x27" ∨ s.startsWith "\x22" then (quotedCode w p.locale s, p)
    else
      let cs := Decimal.skipBlanks s.toList
      let (negative, digits) := match cs with
        | '-' :: rest => (true, rest)
        | '+' :: rest => (false, rest)
        | cs => (false, cs)
      let isNumber := (digits.head?.map Char.isDigit).getD false
      if ¬ isNumber then
        if s = "" then (0, if w = .program then p.say (notNumber w s false) else p) else (0, p.say (notNumber w s false))
      else
        let (n, after) := Arithmetic.numberAt digits
        let n := if negative then -n else n
        let (low, high) : Int × Int := if isSigned then (-9223372036854775808, 9223372036854775807)
          else (-18446744073709551615, 18446744073709551615)
        let overflow := n < low ∨ high < n
        let v := if n < low then (if isSigned then low else high) else if high < n then high else n
        let p := if after ≠ [] then p.say (notNumber w s true) else if overflow then
            (let q := p.say (tooLarge w s); if w = .extended then { q with status := p.status } else q) else p
        (v, p)

/-- How many binary digits the numbers of a writer have. -/
def precisionOf : Writer → Nat
  | .plain => 53
  | _ => 64

/-- The number with a fraction that an argument is. -/
def real (w : Writer) (p : Progress) : Decimal.Reading × Progress :=
  let zero : Decimal.Reading := .finite false 0 0 false
  match p.take with
  | (none, p) => (zero, p)
  | (some s, p) =>
    if s.startsWith "\x27" ∨ s.startsWith "\x22" then
      (Decimal.nearest (precisionOf w) false (quotedCode w p.locale s).toNat 1, p)
    else
      match Decimal.readNumber (precisionOf w) s.toList with
      | none => (zero, if s = "" ∧ w ≠ .program then p else p.say (notNumber w s false))
      | some (r, after) =>
        let digits := (s.toList.takeWhile fun c => c != 'e' && c != 'E' && c != 'p' && c != 'P').any fun c => '1' ≤ c && c ≤ '9'
        let isLost : Bool := digits && match r with
          | .infinite _ | .finite _ 0 _ _ => true
          | _ => false
        if after ≠ [] then (r, p.say (notNumber w s true))
        else if isLost then
          let q := p.say (tooLarge w s)
          (r, if w = .extended then { q with status := p.status } else q)
        else (r, p)

/-- The flags of a directive, and what follows them. -/
def flags : List Char → Field → Field × List Char
  | '-' :: rest, f => flags rest { f with left := true }
  | '+' :: rest, f => flags rest { f with plus := true }
  | ' ' :: rest, f => flags rest { f with blank := true }
  | '#' :: rest, f => flags rest { f with alternative := true }
  | '0' :: rest, f => flags rest { f with zero := true }
  | '\x27' :: rest, f => flags rest f
  | rest, f => (f, rest)

/-- A number in a directive: digits, or a star for an argument. -/
def size (w : Writer) (p : Progress) : List Char → Option Int × List Char × Progress
  | '*' :: rest => let (n, p) := integer w true p; (some n, rest, p)
  | rest =>
    let (digits, after) := rest.span Char.isDigit
    (if digits = [] then none else some (Decimal.natOf 10 digits : Int), after, p)

/-- The times that a format may write: the zone of the clocks, and the seconds now and when the shell was started. -/
structure Times where
  zone : Calendar.Zone := Calendar.universal
  now : Int := 0
  began : Int := 0
  locale : Text.Locale := .unicode

/-- The format of a time up to the parenthesis that closes it, and what follows. -/
def timeFormat : Nat → List Char → List Char → List Char × List Char
  | _, read, [] => (read.reverse, [])
  | depth, read, '(' :: cs => timeFormat (depth + 1) ('(' :: read) cs
  | 0, read, ')' :: cs => (read.reverse, cs)
  | depth + 1, read, ')' :: cs => timeFormat depth (')' :: read) cs
  | depth, read, c :: cs => timeFormat depth (c :: read) cs

/-- How escapes are read in an argument. -/
def argumentRules : Writer → Escapes.Rules
  | .plain => { octal := true, zeroOctal := true, escape := true, ends := true }
  | _ => { octal := true, zeroOctal := true, hexadecimal := true, escape := true, ends := true, quotes := true }

/-- How escapes are read in a format. -/
def formatRules : Writer → Escapes.Rules
  | .plain => { octal := true, escape := true, quotes := true }
  | .extended => Escapes.ofFormat
  | .program => { Escapes.ofFormat with ends := true }

/-- What a wrong directive is answered with, and whether it ends everything. -/
def wrong (w : Writer) (directive : String) (letter : Option Char) (p : Progress) : Progress :=
  let p := match w, letter with
    | .plain, none => p.say "missing format character"
    | .plain, some _ => p.say (directive ++ ": invalid directive")
    | .extended, none => p.say ("\x60" ++ directive ++ "\x27: missing format character")
    | .extended, some c => p.say ("\x60" ++ String.singleton c ++ "\x27: invalid format character")
    | .program, _ => p.say (directive ++ ": invalid conversion specification")
  { p with ended := true, status := if w = .plain then 2 else 1 }

/-- Writes a time: a number of seconds, or the time now or when the shell was started for two numbers below zero. -/
def time (times : Times) (f : Field) (form : List Char) (p : Progress) : Progress :=
  let (n, p) := if p.args = [] then (-1, p) else integer .extended true p
  let seconds := if n = -1 then times.now else if n = -2 then times.began else n
  let form := if form = [] then "%X" else String.ofList form
  p.write (f.text (Calendar.written (Calendar.partsOf times.zone seconds 0) form))

/-- Writes one directive; what follows it is given back. -/
def directive (times : Times) (w : Writer) (cs : List Char) (p : Progress) : Progress × List Char :=
  let start := cs
  let (f, cs) := flags cs {}
  let (width, cs, p) := size w p cs
  let f := match width with
    | some n => { f with width := n.natAbs, left := f.left || n < 0 }
    | none => f
  let (f, cs, p) := match cs with
    | '.' :: rest =>
      let (n, cs, p) := size w p rest
      ({ f with precision := if n.getD 0 < 0 then none else some (n.getD 0).toNat }, cs, p)
    | cs => (f, cs, p)
  let cs := if w = .plain then cs else cs.dropWhile fun c => ['h', 'l', 'L', 'q', 'j', 'z', 't'].contains c && c != 'q'
  let written := "%" ++ String.ofList (start.take (start.length - cs.length + 1))
  match cs with
  | [] => (wrong w ("%" ++ String.ofList start) none p, [])
  | c :: rest =>
    match c with
    | 's' => let (s, p) := p.take; (p.write (f.text (s.getD "")), rest)
    | 'b' =>
      let (s, p) := p.take
      let (s, ended) := Escapes.convert (argumentRules w) (s.getD "")
      ({ p.write (f.text s) with ended }, rest)
    | 'c' =>
      let (s, p) := p.take
      let c : String := match s with
        | some s => if s = "" then "\x00" else (s.take 1).toString
        | none => "\x00"
      (p.write (f.pad c), rest)
    | 'd' | 'i' => let (n, p) := integer w true p; (p.write (f.signed n), rest)
    | 'u' | 'o' | 'x' | 'X' =>
      let (n, p) := integer w false p
      (p.write (f.unsigned c (Arithmetic.bits n)), rest)
    | 'e' | 'E' | 'f' | 'F' | 'g' | 'G' | 'a' | 'A' =>
      let (r, p) := real w p
      (p.write (f.real (precisionOf w) c r), rest)
    | 'q' =>
      match w with
      | .plain => (wrong w written (some c) p, [])
      | .extended => let (s, p) := p.take; (p.write (f.text (Quoting.backslashed (s.getD ""))), rest)
      | .program =>
        let (s, p) := p.take
        let s := s.getD ""
        (p.write (f.text (if s = "" then "''" else Quoting.ifNeeded s)), rest)
    | '(' =>
      match w with
      | .extended =>
        match timeFormat 0 [] rest with
        | (form, 'T' :: rest) => (time times f form p, rest)
        | (_, after) =>
          let p := p.say ("warning: \x60" ++ (after.head?.elim "\x00" String.singleton) ++ "\x27: invalid time format specification")
          ({ p with status := 0 }.write "%", start)
      | _ => (wrong w written (some c) p, [])
    | 'Q' =>
      match w with
      | .extended => let (s, p) := p.take; (p.write (f.pad (Quoting.backslashed (s.getD ""))), rest)
      | _ => (wrong w written (some c) p, [])
    | _ => (wrong w written (some c) p, [])

/-- Writes a format once. -/
def once (times : Times) (w : Writer) : Nat → List Char → Progress → Progress
  | 0, _, p => p
  | _, [], p => p
  | n + 1, c :: rest, p =>
    if p.ended then p
    else if c = '\x5c' then
      match Escapes.after (formatRules w) rest with
      | some (s, _, true) => { p.write s with ended := true }
      | some (s, rest, false) => once times w n rest (p.write s)
      | none => once times w n rest (p.write "\\")
    else if c = '%' then
      match rest with
      | '%' :: rest => once times w n rest (p.write "%")
      | rest => let (p, rest) := directive times w rest p; once times w n rest p
    else
      let run := rest.takeWhile fun c => c != '\x5c' && c != '%'
      once times w n (rest.drop run.length) (p.write (String.ofList (c :: run)))

/-- Writes a format as often as its arguments ask for. -/
def repeatedly (times : Times) (w : Writer) (format : List Char) : Nat → Progress → Progress
  | 0, p => p
  | n + 1, p =>
    let p := once times w (format.length + 1) format { p with asked := false }
    if p.ended ∨ p.args = [] then p
    else if p.asked then repeatedly times w format n p
    else if w = .program then
      { p with events := .complaint ("warning: ignoring excess arguments, starting with "
        ++ "\u2018" ++ p.args.headD "" ++ "\u2019") :: p.events }
    else p

/-- What comes of writing a format with arguments. -/
def run (w : Writer) (format : String) (args : List String) (times : Times := {}) : List Event × Nat :=
  let p := repeatedly times w format.toList (args.length + 1) ⟨[], args, false, 0, false, times.locale⟩
  (p.events.reverse, p.status)

/-- All that is written. -/
def written (events : List Event) : String :=
  String.join (events.map fun
    | .out s => s
    | .complaint _ => "")

/-- All that is said. -/
def complaints (events : List Event) : List String :=
  events.filterMap fun
    | .out _ => none
    | .complaint s => some s

end TaskRunner.Shell.Format
