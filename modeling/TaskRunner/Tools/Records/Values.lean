import TaskRunner.Decimal.Rounded
import TaskRunner.Decimal.Shortest
import TaskRunner.Shell.Format
import TaskRunner.Text.Octets
import TaskRunner.Tools.Records.Syntax

/-!
# Values of programs that go through records

A value is a number or a text. A text that was read counts as a number where it looks like one, and what
nothing was assigned to is both. Numbers without a fraction that a word can hold are written in full,
others by a format.
-/

namespace TaskRunner.Tools.Records

open Shell.Format (Field)

/-- A value. -/
inductive Value where
  | number (x : Float)
  | text (s : String)
  /-- A text that was read. -/
  | read (s : String)
  | missing

instance : Inhabited Value := ⟨.missing⟩

/-- The number that a text begins with; zero if it begins with none. -/
def numberOf (s : String) : Float :=
  if s = "" then 0
  else
    let digits := s.length ≤ 15 && s.all Char.isDigit
    if digits then Float.ofNat (s.foldl (fun n c => n * 10 + (c.toNat - 48)) 0) else Decimal.floatOf s.toList

/-- Whether a character is a blank between fields. -/
def isBlank (c : Char) : Bool := c == ' ' || c == '\t' || c == '\n' || c == '\r' || c == '\x0b' || c == '\x0c'

/-- Whether a text looks like a number. -/
def looksNumeric (s : String) : Bool :=
  let cs := s.toList.dropWhile isBlank
  let cs := (cs.reverse.dropWhile isBlank).reverse
  match cs.getLast?, cs.head? with
  | some last, some first =>
    (last.isDigit || last == '.') && (first.isDigit || first == '+' || first == '-' || first == '.')
      && (match Decimal.readNumber 53 cs with
        | some (.finite .., []) => true
        | _ => false)
  | _, _ => false

/-- The greatest number of a word. -/
def wordLimit : Float := 2147483647

/-- The whole number that a number is, cut to what a word can hold. -/
def wordOf (x : Float) : Int :=
  if wordLimit ≤ x then 2147483647 else if -wordLimit < x then x.toInt64.toInt else -2147483647

/-- The whole number that a number is, cut to what a word without a sign can hold. -/
def unsignedOf (x : Float) : Nat :=
  let limit : Float := 4294967295
  if limit ≤ x then 4294967295 else if -limit < x then (x.toInt64.toInt % 4294967296).toNat else 1

/-- The text of a number that has no fraction. -/
def wholeText? (x : Float) : Option String :=
  let n := wordOf x
  if Float.ofInt n == x then some (toString n) else none

/-! ## Formats -/

/-- A directive of a format. -/
structure Directive where
  field : Field
  letter : Char

/-- Why a format cannot be written. -/
inductive Fault where
  | arguments
  /-- The number of the directive that is none. -/
  | directive (n : Nat)

/-- A number as a real number is written. -/
def realText (f : Field) (letter : Char) (x : Float) : String :=
  let r := Decimal.Reading.ofBits x.toBits
  let negative : Bool := match r with
    | .undefined _ => true
    | r => r.isNegative
  let isFinite : Bool := match r with
    | .finite .. => true
    | _ => false
  f.padNumber isFinite (f.sign negative) (Decimal.written letter f.precision f.alternative 53 r)

/-- A number by a format for one number, as numbers with a fraction are written. -/
def byFormat (format : String) (x : Float) : String :=
  if format = "%.6g" then realText { precision := some 6 } 'g' x
  else
    let (before, rest) := format.toList.span (· != '%')
    match rest with
    | [] => format
    | _ :: rest =>
      let (f, rest) := Shell.Format.flags rest {}
      let (digits, rest) := rest.span Char.isDigit
      let f := { f with width := Decimal.natOf 10 digits }
      let (f, rest) : Field × List Char := match rest with
        | '.' :: rest =>
          let (digits, rest) := rest.span Char.isDigit
          ({ f with precision := some (Decimal.natOf 10 digits) }, rest)
        | rest => (f, rest)
      match rest.dropWhile fun c => c == 'l' || c == 'h' with
      | letter :: rest =>
        let written := if "eEfFgGa".toList.contains letter then realText f letter x
          else if letter = 'd' ∨ letter = 'i' then f.signed (wordOf x)
          else if "oxXu".toList.contains letter then f.unsigned letter (unsignedOf x)
          else ""
        String.ofList before ++ written ++ String.ofList rest
      | [] => String.ofList before

/-- The text of a number. -/
def numberText (format : String) (x : Float) : String := (wholeText? x).getD (byFormat format x)

namespace Value

/-- The number that a value is. -/
def toNumber : Value → Float
  | number x => x
  | text s | read s => numberOf s
  | missing => 0

/-- The text of a value, given how numbers with a fraction are written. -/
def toText (format : String) : Value → String
  | number x => numberText format x
  | text s | read s => s
  | missing => ""

/-- Whether a value counts as a number. -/
def isNumeric : Value → Bool
  | number _ | missing => true
  | text _ => false
  | read s => looksNumeric s

/-- Whether a value holds as a condition. -/
def holds : Value → Bool
  | number x => x != 0
  | text s => s != ""
  | read s => if looksNumeric s then numberOf s != 0 else s != ""
  | missing => false

/-- A condition as a value. -/
def ofBool (b : Bool) : Value := number (if b then 1 else 0)

/-- Compares values: as numbers if both are, otherwise as texts. -/
def holdsFor (format : String) (c : Comparison) (a b : Value) : Bool :=
  if a.isNumeric ∧ b.isNumeric then
    let x := a.toNumber
    let y := b.toNumber
    match c with
    | .less => x < y
    | .lessEqual => x ≤ y
    | .equal => x == y
    | .notEqual => x != y
    | .greater => y < x
    | .greaterEqual => y ≤ x
  else
    let s := a.toText format
    let t := b.toText format
    match c with
    | .less => s < t
    | .lessEqual => !(t < s)
    | .equal => s == t
    | .notEqual => s != t
    | .greater => t < s
    | .greaterEqual => !(s < t)

end Value

/-! ## Writing by a format -/

/-- What has been written by a format, the arguments that are left, and the number of the next directive. -/
structure Writing where
  out : String
  args : List Value
  number : Nat

/-- A number in a directive: digits, or a star for an argument. -/
def directiveSize (w : Writing) (cs : List Char) : Except (Fault × String) (Option Int × List Char × Writing) :=
  match cs with
  | '*' :: rest =>
    match w.args with
    | v :: args => .ok (some (wordOf v.toNumber), rest, { w with args })
    | [] => .error (.arguments, w.out)
  | cs =>
    let (digits, rest) := cs.span Char.isDigit
    .ok (if digits = [] then none else some (Decimal.natOf 10 digits), rest, w)

/-- Writes a value by a directive. -/
def written (format : String) (f : Field) (letter : Char) (v : Value) : Option String :=
  let x := v.toNumber
  match letter with
  | 'd' | 'i' => some (f.signed (wordOf x))
  | 'o' | 'x' | 'X' | 'u' => some (f.unsigned letter (unsignedOf x))
  | 'e' | 'E' | 'f' | 'g' | 'G' => some (realText f letter x)
  | 's' => some (f.text (v.toText format))
  | 'c' =>
    let c : Char := match v with
      | .number x => Char.ofNat (wordOf x % 256).toNat
      | .missing => '\x00'
      | .text s => s.toList.headD '\x00'
      | .read s => if looksNumeric s then Char.ofNat (wordOf (numberOf s) % 256).toNat else s.toList.headD '\x00'
    some (f.pad (String.singleton c))
  | _ => none

/-- Writes a format with arguments; what was written before something was wrong is told too. -/
def formatFrom (format : String) : Nat → Writing → List Char → Except (Fault × String) String
  | 0, w, _ => .ok w.out
  | _, w, [] => .ok w.out
  | n + 1, w, '%' :: '%' :: rest => formatFrom format n { w with out := w.out.push '%' } rest
  | n + 1, w, '%' :: rest => do
    let (f, rest) := Shell.Format.flags rest {}
    let (width, rest, w) ← directiveSize w rest
    let f : Field := match width with
      | some n => if n < 0 then { f with left := true, width := n.natAbs } else { f with width := n.toNat }
      | none => f
    let (f, rest, w) ← match rest with
      | '.' :: rest => do
        let (precision, rest, w) ← directiveSize w rest
        pure ({ f with precision := if precision.getD 0 < 0 then none else some (precision.getD 0).toNat }, rest, w)
      | rest => pure (f, rest, w)
    match rest.dropWhile fun c => c == 'l' || c == 'h', w.args with
    | _, [] => throw (.arguments, w.out)
    | letter :: rest, v :: args =>
      match written format f letter v with
      | some s => formatFrom format n { w with out := w.out ++ s, args, number := w.number + 1 } rest
      | none => throw (.directive w.number, w.out)
    | [], _ => throw (.directive w.number, w.out)
  | n + 1, w, c :: rest => formatFrom format n { w with out := w.out.push c } rest

/-- Writes a format with arguments; `conversion` is how numbers become texts. -/
def format (conversion form : String) (args : List Value) : Except (Fault × String) String :=
  formatFrom conversion (form.length + 1) ⟨"", args, 1⟩ form.toList

end TaskRunner.Tools.Records
