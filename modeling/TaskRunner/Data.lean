import TaskRunner.Decimal.Shortest
import TaskRunner.Text.Quoted

/-!
# Data

The values that settings, Runfiles and arguments are made of. A number knows whether it was written
with a point; a table keeps its fields in the order in which they were first given. `display` is the
text of a value where a text is wanted, `inspect` its text inside another value.
-/

namespace TaskRunner

/-- A day of the calendar. -/
structure Date where
  year : Nat
  month : Nat
  day : Nat
  deriving DecidableEq, Repr

/-- A time of the day, to the millionth of a second. -/
structure Clock where
  hour : Nat
  minute : Nat
  second : Nat
  micro : Nat
  deriving DecidableEq, Repr

/-- A point in time; `offset` is the distance to the reference clock in minutes, where one is given. -/
inductive Moment where
  | date (d : Date)
  | clock (t : Clock)
  | full (d : Date) (t : Clock) (offset : Option Int)
  deriving DecidableEq, Repr

/-- A value of settings, Runfiles or arguments. -/
inductive Data where
  | null
  | flag (b : Bool)
  | int (n : Int)
  /-- A number written with a point or an exponent, as its 64 bits. -/
  | float (bits : UInt64)
  | text (s : String)
  | moment (m : Moment)
  | list (items : List Data)
  | table (fields : List (String × Data))

/-- The name of the kind that a point in time has. -/
def Moment.kindName : Moment → String
  | .date _ => "datetime.date"
  | .clock _ => "datetime.time"
  | .full .. => "datetime.datetime"

/-- The name of the kind of a value, as messages give it. -/
def Data.kindName : Data → String
  | .null => "NoneType"
  | .flag _ => "bool"
  | .int _ => "int"
  | .float _ => "float"
  | .text _ => "str"
  | .moment m => m.kindName
  | .list _ => "list"
  | .table _ => "dict"

namespace Moment

/-- A number in at least `width` digits. -/
def padded (width n : Nat) : String :=
  let digits := Nat.toDigits 10 n
  String.ofList (List.replicate (width - digits.length) '0' ++ digits)

/-- A day as year, month and day. -/
def showDate (d : Date) : String := s!"{padded 4 d.year}-{padded 2 d.month}-{padded 2 d.day}"

/-- A time of the day; millionths of a second are written only if there are any. -/
def showClock (t : Clock) : String :=
  let base := s!"{padded 2 t.hour}:{padded 2 t.minute}:{padded 2 t.second}"
  if t.micro = 0 then base else s!"{base}.{padded 6 t.micro}"

/-- The distance to the reference clock in hours and minutes. -/
def showOffset (minutes : Int) : String :=
  let sign := if minutes < 0 then "-" else "+"
  s!"{sign}{padded 2 (minutes.natAbs / 60)}:{padded 2 (minutes.natAbs % 60)}"

/-- The text of a point in time. -/
def display : Moment → String
  | .date d => showDate d
  | .clock t => showClock t
  | .full d t none => s!"{showDate d} {showClock t}"
  | .full d t (some offset) => s!"{showDate d} {showClock t}{showOffset offset}"

/-- The parts of a time of the day that are spelled out: seconds and their millionths only as far as needed. -/
def clockParts (t : Clock) : List Nat :=
  [t.hour, t.minute] ++
    (if t.second = 0 ∧ t.micro = 0 then [] else if t.micro = 0 then [t.second] else [t.second, t.micro])

/-- A distance to the reference clock, spelled out. -/
def inspectOffset (minutes : Int) : String :=
  if minutes = 0 then "datetime.timezone.utc"
  else if 0 < minutes then s!"datetime.timezone(datetime.timedelta(seconds={minutes * 60}))"
  else s!"datetime.timezone(datetime.timedelta(days=-1, seconds={86400 + minutes * 60}))"

/-- A point in time, spelled out. -/
def inspect (m : Moment) : String :=
  let numbers (ns : List Nat) := ", ".intercalate (ns.map fun n => s!"{n}")
  match m with
  | .date d => s!"{m.kindName}({numbers [d.year, d.month, d.day]})"
  | .clock t => s!"{m.kindName}({numbers (clockParts t)})"
  | .full d t offset =>
    let zone := match offset with
      | none => ""
      | some o => s!", tzinfo={inspectOffset o}"
    s!"{m.kindName}({numbers ([d.year, d.month, d.day] ++ clockParts t)}{zone})"

end Moment

namespace Data

mutual

/-- The text of a value inside another value: a text is quoted. -/
def inspect : Data → String
  | .null => "None"
  | .flag b => if b then "True" else "False"
  | .int n => toString n
  | .float bits => Decimal.plain.render bits
  | .text s => Text.quoted s
  | .moment m => m.inspect
  | .list items => "[" ++ ", ".intercalate (inspectItems items) ++ "]"
  | .table fields => "\x7b" ++ ", ".intercalate (inspectFields fields) ++ "\x7d"

/-- The texts of the items of a list. -/
def inspectItems : List Data → List String
  | [] => []
  | d :: rest => inspect d :: inspectItems rest

/-- The texts of the fields of a table. -/
def inspectFields : List (String × Data) → List String
  | [] => []
  | (key, value) :: rest => (Text.quoted key ++ ": " ++ inspect value) :: inspectFields rest

end

/-- The text of a value where a text is wanted. -/
def display : Data → String
  | .text s => s
  | .moment m => m.display
  | d => d.inspect

/-- Several values between round brackets; a single one is followed by a comma. -/
def inspectTuple : List Data → String
  | [d] => s!"({d.inspect},)"
  | ds => "(" ++ ", ".intercalate (inspectItems ds) ++ ")"

/-- Whether a value counts as true in a condition. -/
def isTruthy : Data → Bool
  | .null => false
  | .flag b => b
  | .int n => n != 0
  | .float bits => bits != 0 && bits != 0x8000000000000000
  | .text s => s != ""
  | .moment _ => true
  | .list items => !items.isEmpty
  | .table fields => !fields.isEmpty

/-- The most digits that a number is written out with. -/
def mostDigits : Nat := 4300

/-- Whether a number has too many digits to be written out. -/
def isLong (n : Int) : Bool := Nat.pow 10 mostDigits ≤ n.natAbs

mutual

/-- Whether the text of a value would hold a number with too many digits. -/
def hasLongNumber : Data → Bool
  | .int n => isLong n
  | .list items => hasLongItem items
  | .table fields => hasLongField fields
  | _ => false

/-- Whether the texts of the items of a list would. -/
def hasLongItem : List Data → Bool
  | [] => false
  | d :: rest => hasLongNumber d || hasLongItem rest

/-- Whether the texts of the fields of a table would. -/
def hasLongField : List (String × Data) → Bool
  | [] => false
  | (_, value) :: rest => hasLongNumber value || hasLongField rest

end

/-- The whole number that a value is equal to; truth counts as one. -/
def whole? : Data → Option Int
  | .int n => some n
  | .flag b => some (if b then 1 else 0)
  | .float bits =>
    match Decimal.Reading.ofBits bits with
    | .finite negative m q _ =>
      let scaled := Decimal.scaleUp m 2 q
      let unit := Nat.pow 2 (-q).toNat
      if scaled % unit = 0 then some (if negative then -(Int.ofNat (scaled / unit)) else Int.ofNat (scaled / unit))
      else none
    | _ => none
  | _ => none

/-- The whole part of a number, without what comes after the point; truth counts as one. -/
def truncated? : Data → Option Int
  | .float bits =>
    match Decimal.Reading.ofBits bits with
    | .finite negative m q _ =>
      let whole : Int := Decimal.scaleUp m 2 q / Nat.pow 2 (-q).toNat
      some (if negative then -whole else whole)
    | _ => none
  | d => d.whole?

/-- Whether a value is a number. -/
def isNumber : Data → Bool
  | .int _ | .flag _ | .float _ => true
  | _ => false

/-- Whether a value is a number below zero. -/
def isNegative : Data → Bool
  | .int n => n < 0
  | .float bits => 0x8000000000000000 < bits
  | _ => false

/-- Puts a field into a table: a field of that name keeps its place, a new one goes to the end. -/
def putField (key : String) (value : Data) : List (String × Data) → List (String × Data)
  | [] => [(key, value)]
  | (k, v) :: rest => if k = key then (key, value) :: rest else (k, v) :: putField key value rest

end Data

end TaskRunner
