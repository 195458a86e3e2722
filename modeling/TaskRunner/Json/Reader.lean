import TaskRunner.Data
import TaskRunner.Decimal.Digits

/-!
# Reading data from text

A value is `null`, `true`, `false`, a number, a text between double quotes, a list between square
brackets or a table between braces. A number with a point or an exponent is a `float`, any other an
`int`. Of two fields of one name the later value counts, in the place of the earlier.
-/

namespace TaskRunner.Json

/-- Why a text is no value: what was expected, and how many characters were left there. -/
inductive Fault where
  | expected (what : String) (left : Nat)
  /-- Characters stand after the value. -/
  | trailing (left : Nat)
  deriving DecidableEq, Repr

/-- What the fault says. -/
def Fault.message : Fault → String
  | .expected what left => s!"expected {what}, {left} characters before the end"
  | .trailing left => s!"{left} characters after the value"

/-- The result of a reading: what was read, and the characters after it. -/
abbrev Read (α : Type) := Except Fault (α × List Char)

/-- Whether a character may stand between any two parts of a value. -/
def isBlank (c : Char) : Bool := c == ' ' || c == '\t' || c == '\n' || c == '\r'

/-- The characters from the first that is not blank. -/
def skip (cs : List Char) : List Char := cs.dropWhile isBlank

/-- The fault that `what` was expected here. -/
def missing {α : Type} (what : String) (cs : List Char) : Read α := .error (.expected what cs.length)

/-- The digits that the characters start with, and the rest. -/
def digits (cs : List Char) : List Char × List Char := cs.span Char.isDigit

/-- The exponent that the characters start with, if they start with one. -/
def exponent? (cs : List Char) : Option (Int × List Char) :=
  match cs with
  | e :: rest =>
    if e = 'e' ∨ e = 'E' then
      let (sign, rest) : List Char × List Char := match rest with
        | '-' :: more => (['-'], more)
        | '+' :: more => ([], more)
        | more => ([], more)
      match digits rest with
      | ([], _) => none
      | (ds, rest) => some (Decimal.intOf (sign ++ ds), rest)
    else none
  | [] => none

/-- The digits after a point that the characters start with, if they start with a point and a digit. -/
def fraction? (cs : List Char) : Option (List Char × List Char) :=
  match cs with
  | '.' :: rest =>
    match digits rest with
    | ([], _) => none
    | found => some found
  | _ => none

/-- A number whose sign has been read. -/
def unsigned (negative : Bool) (cs : List Char) : Read Data :=
  match cs with
  | 'I' :: 'n' :: 'f' :: 'i' :: 'n' :: 'i' :: 't' :: 'y' :: rest =>
    .ok (.float (if negative then 0xFFF0000000000000 else 0x7FF0000000000000), rest)
  | _ =>
    let (whole, rest) := match digits cs with
      | ('0' :: more, rest) => (['0'], more ++ rest)
      | found => found
    match whole with
    | [] => missing "a digit" cs
    | _ =>
      let point := fraction? rest
      let rest := (point.map Prod.snd).getD rest
      let power := exponent? rest
      let rest := (power.map Prod.snd).getD rest
      match point, power with
      | none, none =>
        let n : Int := Decimal.natOf 10 whole
        .ok (.int (if negative then -n else n), rest)
      | _, _ =>
        let fraction := (point.map Prod.fst).getD []
        .ok (.float (Decimal.bitsOf negative whole fraction ((power.map Prod.fst).getD 0)), rest)

/-- The code unit of four hexadecimal digits. -/
def codeUnit? : List Char → Option (Nat × List Char)
  | a :: b :: c :: d :: rest =>
    if [a, b, c, d].all Decimal.isHexDigit then some (Decimal.natOf 16 [a, b, c, d], rest) else none
  | _ => none

/-- The character after `\u`: one code unit, or two that stand for one character; a unit that stands alone for none is replaced. -/
def escapedUnit? (cs : List Char) : Option (Char × List Char) := do
  let (high, rest) ← codeUnit? cs
  if 0xD800 ≤ high ∧ high < 0xDC00 then
    match rest with
    | '\x5c' :: 'u' :: more =>
      match codeUnit? more with
      | some (low, after) =>
        if 0xDC00 ≤ low ∧ low < 0xE000 then
          some (Char.ofNat (0x10000 + (high - 0xD800) * 0x400 + (low - 0xDC00)), after)
        else some ('\ufffd', rest)
      | none => none
    | _ => some ('\ufffd', rest)
  else if 0xDC00 ≤ high ∧ high < 0xE000 then some ('\ufffd', rest)
  else some (Char.ofNat high, rest)

/-- The character that a backslash and the given character stand for. -/
def escaped? : Char → Option Char
  | '\x22' => some '\x22'
  | '\x5c' => some '\x5c'
  | '/' => some '/'
  | 'b' => some '\x08'
  | 'f' => some '\x0c'
  | 'n' => some '\n'
  | 'r' => some '\r'
  | 't' => some '\t'
  | _ => none

/-- The text after its opening quote; `read` holds its characters so far, the last first. -/
def textFrom (read : List Char) : Nat → List Char → Read String
  | 0, cs => missing "a closing quote" cs
  | _ + 1, [] => missing "a closing quote" []
  | n + 1, c :: rest =>
    if c = '\x22' then .ok (String.ofList read.reverse, rest)
    else if c = '\x5c' then
      match rest with
      | 'u' :: more =>
        match escapedUnit? more with
        | some (char, after) => textFrom (char :: read) n after
        | none => missing "four hexadecimal digits" more
      | e :: more =>
        match escaped? e with
        | some char => textFrom (char :: read) n more
        | none => missing "an escape" rest
      | [] => missing "an escape" rest
    else textFrom (c :: read) n rest

/-- A text, from its opening quote on. -/
def textAt (cs : List Char) : Read String :=
  match cs with
  | '\x22' :: rest => textFrom [] rest.length.succ rest
  | _ => missing "a text" cs

mutual

/-- A value, after blanks; every step down or along uses up one of the given steps. -/
def value : Nat → List Char → Read Data
  | 0, cs => missing "a value" cs
  | n + 1, cs =>
    let cs := skip cs
    match cs with
    | 'n' :: 'u' :: 'l' :: 'l' :: rest => .ok (.null, rest)
    | 't' :: 'r' :: 'u' :: 'e' :: rest => .ok (.flag true, rest)
    | 'f' :: 'a' :: 'l' :: 's' :: 'e' :: rest => .ok (.flag false, rest)
    | 'N' :: 'a' :: 'N' :: rest => .ok (.float 0x7FF8000000000000, rest)
    | '\x22' :: _ => (textAt cs).map fun (s, rest) => (.text s, rest)
    | '[' :: rest =>
      match skip rest with
      | ']' :: rest => .ok (.list [], rest)
      | _ => (items n rest).map fun (ds, rest) => (.list ds, rest)
    | '\x7b' :: rest =>
      match skip rest with
      | '\x7d' :: rest => .ok (.table [], rest)
      | _ => (fields n [] rest).map fun (fs, rest) => (.table fs, rest)
    | '-' :: rest => unsigned true rest
    | _ => unsigned false cs

/-- One or more values up to the closing bracket. -/
def items : Nat → List Char → Except Fault (List Data × List Char)
  | 0, cs => missing "a value" cs
  | n + 1, cs => do
    let (d, rest) ← value n cs
    match skip rest with
    | ',' :: rest =>
      let (ds, rest) ← items n rest
      return (d :: ds, rest)
    | ']' :: rest => return ([d], rest)
    | rest => missing "a comma or a closing bracket" rest

/-- One or more fields up to the closing brace; `read` holds the fields before them. -/
def fields : Nat → List (String × Data) → List Char → Except Fault (List (String × Data) × List Char)
  | 0, _, cs => missing "a field" cs
  | n + 1, read, cs => do
    let (key, rest) ← textAt (skip cs)
    match skip rest with
    | ':' :: rest =>
      let (d, rest) ← value n rest
      let read := Data.putField key d read
      match skip rest with
      | ',' :: rest => fields n read rest
      | '\x7d' :: rest => return (read, rest)
      | rest => missing "a comma or a closing brace" rest
    | rest => missing "a colon" rest

end

/-- Reads a text that holds one value and nothing else. -/
def read (s : String) : Except Fault Data := do
  let cs := s.toList
  let (d, rest) ← value (cs.length + 1) cs
  match skip rest with
  | [] => return d
  | rest => throw (.trailing rest.length)

end TaskRunner.Json
