import TaskRunner.Toml.Fault
import TaskRunner.Decimal.Digits

/-!
# The parts of a settings document

Keys, texts, numbers and points in time, each read from the characters that a document starts with.
A reading gives what was read and the characters after it; a refusal counts the characters that were
left where the reason arose.
-/

namespace TaskRunner.Toml

/-- A reason, and how many characters were left where it arose. -/
structure Stuck where
  reason : Reason
  left : Nat

/-- What was read, and the characters after it. -/
abbrev Scan (α : Type) := Except Stuck (α × List Char)

/-- The refusal for a reason at the given characters. -/
def stuck {α : Type} (reason : Reason) (cs : List Char) : Except Stuck α := .error ⟨reason, cs.length⟩

/-- Whether a character may separate parts of a line. -/
def isSpace (c : Char) : Bool := c == ' ' || c == '\t'

/-- Whether a character may stand in a key without quotes. -/
def isKeyChar (c : Char) : Bool := c.isAlphanum || c == '-' || c == '_'

/-- Whether a character is a control that no text on one line may hold. -/
def isControl (c : Char) : Bool := (c.toNat < 32 && c != '\t') || c.toNat == 127

/-- The characters from the first that is no space. -/
def skipSpace (cs : List Char) : List Char := cs.dropWhile isSpace

/-- The characters up to a closing run of quotes, and those after it. -/
def upTo? (closing : List Char) : List Char → Option (List Char × List Char)
  | [] => none
  | cs@(c :: rest) =>
    if closing.isPrefixOf cs then some ([], cs.drop closing.length)
    else (upTo? closing rest).map fun (before, after) => (c :: before, after)

/-- A text without escapes, after its opening quotes. -/
def literal (closing : List Char) (mayHold : Char → Bool) (cs : List Char) : Scan String :=
  match upTo? closing cs with
  | none => stuck (.unclosed (String.ofList closing)) []
  | some (before, after) =>
    match before.dropWhile mayHold with
    | [] => .ok (String.ofList before, after)
    | bad :: rest => .error ⟨.hiddenChar bad, rest.length + 1 + closing.length + after.length⟩

/-- The character of `count` hexadecimal digits. -/
def hexChar (count : Nat) (cs : List Char) : Scan Char :=
  let digits := cs.take count
  if digits.length = count ∧ digits.all Decimal.isHexDigit then
    let code := Decimal.natOf 16 digits
    let rest := cs.drop count
    if code < 0xD800 ∨ (0xE000 ≤ code ∧ code < 0x110000) then .ok (Char.ofNat code, rest)
    else stuck .notScalar rest
  else stuck .badHex cs

/-- The characters that an escape stands for, after its backslash. -/
def escape (multiline : Bool) (cs : List Char) : Scan (List Char) :=
  match cs with
  | 'u' :: rest => (hexChar 4 rest).map fun (c, rest) => ([c], rest)
  | 'U' :: rest => (hexChar 8 rest).map fun (c, rest) => ([c], rest)
  | 'b' :: rest => .ok (['\x08'], rest)
  | 't' :: rest => .ok (['\t'], rest)
  | 'n' :: rest => .ok (['\n'], rest)
  | 'f' :: rest => .ok (['\x0c'], rest)
  | 'r' :: rest => .ok (['\r'], rest)
  | '\x22' :: rest => .ok (['\x22'], rest)
  | '\x5c' :: rest => .ok (['\x5c'], rest)
  | c :: rest =>
    if multiline ∧ (isSpace c ∨ c = '\n') then
      let blank (c : Char) := isSpace c || c == '\n'
      if c = '\n' then .ok ([], rest.dropWhile blank)
      else match skipSpace rest with
        | [] => .ok ([], [])
        | '\n' :: more => .ok ([], more.dropWhile blank)
        | more => stuck .badEscape more
    else stuck .badEscape rest
  | [] => stuck .badEscape []

/-- A text with escapes, after its opening quotes; `read` holds its characters so far, the last first. -/
def escapedText (multiline : Bool) (read : List Char) : Nat → List Char → Scan String
  | 0, _ => stuck .openText []
  | _, [] => stuck .openText []
  | n + 1, c :: rest =>
    if c = '\x22' then
      if multiline then
        match rest with
        | '\x22' :: '\x22' :: after => .ok (String.ofList read.reverse, after)
        | _ => escapedText multiline (c :: read) n rest
      else .ok (String.ofList read.reverse, rest)
    else if c = '\x5c' then
      match escape multiline rest with
      | .ok (cs, after) => escapedText multiline (cs.reverse ++ read) n after
      | .error e => .error e
    else if isControl c ∧ ¬(multiline ∧ c = '\n') then stuck (.illegalChar c) (c :: rest)
    else escapedText multiline (c :: read) n rest

/-- Up to two more quotes right after the closing ones belong to the text. -/
def moreQuotes (quote : Char) (s : String) (cs : List Char) : String × List Char :=
  match cs with
  | a :: b :: rest =>
    if a = quote then
      if b = quote then (s.push quote |>.push quote, rest) else (s.push quote, b :: rest)
    else (s, cs)
  | [a] => if a = quote then (s.push quote, []) else (s, cs)
  | [] => (s, cs)

/-- A line end right after the opening quotes is not part of the text. -/
def dropFirstLineEnd : List Char → List Char
  | '\n' :: rest => rest
  | cs => cs

/-- A text on one line, from its opening quote on. -/
def lineText? (cs : List Char) : Option (Scan String) :=
  match cs with
  | '\x27' :: rest => some (literal ['\x27'] (fun c => !isControl c) rest)
  | '\x22' :: rest => some (escapedText false [] (rest.length + 1) rest)
  | _ => none

/-- A text, from its opening quotes on; three quotes open a text of several lines. -/
def text? (cs : List Char) : Option (Scan String) :=
  match cs with
  | '\x22' :: '\x22' :: '\x22' :: rest =>
    let rest := dropFirstLineEnd rest
    some ((escapedText true [] (rest.length + 1) rest).map fun (s, after) => moreQuotes '\x22' s after)
  | '\x27' :: '\x27' :: '\x27' :: rest =>
    some ((literal ['\x27', '\x27', '\x27'] (fun c => !isControl c || c == '\n') (dropFirstLineEnd rest)).map
      fun (s, after) => moreQuotes '\x27' s after)
  | _ => lineText? cs

/-- One name of a key. -/
def keyPart (cs : List Char) : Scan String :=
  match cs.takeWhile isKeyChar with
  | [] => (lineText? cs).getD (stuck .badKey cs)
  | bare => .ok (String.ofList bare, cs.dropWhile isKeyChar)

/-- The names of a key, with dots and spaces between them; `n` bounds their number. -/
def keyParts : Nat → List Char → Scan (List String)
  | 0, cs => stuck .badKey cs
  | n + 1, cs =>
    match keyPart cs with
    | .error e => .error e
    | .ok (name, rest) =>
      match skipSpace rest with
      | '.' :: more => (keyParts n (skipSpace more)).map fun (names, rest) => (name :: names, rest)
      | rest => .ok ([name], rest)

/-- A key. -/
def key (cs : List Char) : Scan (List String) := keyParts (cs.length + 1) cs

/-- The digits after a first one, single underscores between them. -/
def moreDigits (isDigit : Char → Bool) : List Char → List Char × List Char
  | [] => ([], [])
  | [c] => if isDigit c then ([c], []) else ([], [c])
  | c :: d :: rest =>
    if isDigit c then
      let (ds, after) := moreDigits isDigit (d :: rest)
      (c :: ds, after)
    else if c = '_' ∧ isDigit d then
      let (ds, after) := moreDigits isDigit rest
      (d :: ds, after)
    else ([], c :: d :: rest)

/-- Digits of one kind, single underscores between them; none if the first character is no such digit. -/
def digitRun? (isDigit : Char → Bool) (cs : List Char) : Option (List Char × List Char) :=
  match cs with
  | c :: rest =>
    if isDigit c then
      let (ds, after) := moreDigits isDigit rest
      some (c :: ds, after)
    else none
  | [] => none

/-- A whole number in base sixteen, two or eight, after its zero and letter. -/
def based? (cs : List Char) : Option (Int × List Char) :=
  let run (base : Nat) (isDigit : Char → Bool) (rest : List Char) :=
    (digitRun? isDigit rest).map fun (ds, after) => ((Decimal.natOf base ds : Int), after)
  match cs with
  | '0' :: 'x' :: rest => run 16 Decimal.isHexDigit rest
  | '0' :: 'b' :: rest => run 2 (fun c => c == '0' || c == '1') rest
  | '0' :: 'o' :: rest => run 8 (fun c => '0' ≤ c && c ≤ '7') rest
  | _ => none

/-- A sign, if there is one. -/
def sign (cs : List Char) : Bool × List Char :=
  match cs with
  | '-' :: rest => (true, rest)
  | '+' :: rest => (false, rest)
  | _ => (false, cs)

/-- A point and digits. -/
def pointPart? (cs : List Char) : Option (List Char × List Char) :=
  match cs with
  | '.' :: rest => digitRun? Char.isDigit rest
  | _ => none

/-- An exponent. -/
def exponentPart? (cs : List Char) : Option (Int × List Char) :=
  match cs with
  | e :: rest =>
    if e = 'e' ∨ e = 'E' then
      let (negative, rest) := sign rest
      (digitRun? Char.isDigit rest).map fun (ds, after) =>
        let n : Int := Decimal.natOf 10 ds
        (if negative then -n else n, after)
    else none
  | [] => none

/-- A number. -/
def number? (cs : List Char) : Option (Data × List Char) :=
  match based? cs with
  | some (n, rest) => some (.int n, rest)
  | none =>
    let (negative, unsigned) := sign cs
    let whole? : Option (List Char × List Char) := match unsigned with
      | '0' :: rest => some (['0'], rest)
      | rest => digitRun? Char.isDigit rest
    whole?.map fun (whole, rest) =>
      let point := pointPart? rest
      let rest := (point.map Prod.snd).getD rest
      let power := exponentPart? rest
      let rest := (power.map Prod.snd).getD rest
      match point, power with
      | none, none =>
        let n : Int := Decimal.natOf 10 whole
        (.int (if negative then -n else n), rest)
      | _, _ =>
        let fraction := (point.map Prod.fst).getD []
        (.float (Decimal.bitsOf negative whole fraction ((power.map Prod.fst).getD 0)), rest)

/-- Whether a number is whole, has more decimal digits than a number may have, and was written with them. -/
def isLongDecimal (cs : List Char) : Data → Bool
  | .int n => Data.isLong n && (based? cs).isNone
  | _ => false

/-- The number of decimal digits of a whole number. -/
def decimalSize : Data → Nat
  | .int n => (Nat.toDigits 10 n.natAbs).length
  | _ => 0

/-- A number without digits: infinity, or none at all. -/
def special? (cs : List Char) : Option (Data × List Char) :=
  let (negative, rest) := sign cs
  match rest with
  | 'i' :: 'n' :: 'f' :: after => some (.float (if negative then 0xFFF0000000000000 else 0x7FF0000000000000), after)
  | 'n' :: 'a' :: 'n' :: after => some (.float 0x7FF8000000000000, after)
  | _ => none

/-- A number of exactly `count` digits that is within bounds. -/
def fixed? (count least most : Nat) (cs : List Char) : Option (Nat × List Char) :=
  let digits := cs.take count
  let n := Decimal.natOf 10 digits
  if digits.length = count ∧ digits.all Char.isDigit ∧ least ≤ n ∧ n ≤ most then some (n, cs.drop count) else none

/-- A given character. -/
def exactly? (c : Char) : List Char → Option (List Char)
  | d :: rest => if d = c then some rest else none
  | [] => none

/-- A time of the day; digits of a second after the sixth are read and not kept. -/
def clock? (cs : List Char) : Option (Clock × List Char) := do
  let (hour, cs) ← fixed? 2 0 23 cs
  let (minute, cs) ← fixed? 2 0 59 (← exactly? ':' cs)
  let (second, cs) ← fixed? 2 0 59 (← exactly? ':' cs)
  match cs with
  | '.' :: rest =>
    match rest.takeWhile Char.isDigit with
    | [] => some (⟨hour, minute, second, 0⟩, cs)
    | digits =>
      let kept := digits.take 6
      let micro := Decimal.natOf 10 (kept ++ List.replicate (6 - kept.length) '0')
      some (⟨hour, minute, second, micro⟩, rest.dropWhile Char.isDigit)
  | _ => some (⟨hour, minute, second, 0⟩, cs)

/-- A distance to the reference clock, if there is one. -/
def offset (cs : List Char) : Option Int × List Char :=
  let distance : Option (Option Int × List Char) := do
    let (negative, rest) ← match cs with
      | '+' :: rest => some (false, rest)
      | '-' :: rest => some (true, rest)
      | _ => none
    let (hours, rest) ← fixed? 2 0 23 rest
    let (minutes, rest) ← fixed? 2 0 59 (← exactly? ':' rest)
    let total : Int := hours * 60 + minutes
    some (some (if negative then -total else total), rest)
  match cs with
  | 'Z' :: rest => (some 0, rest)
  | 'z' :: rest => (some 0, rest)
  | _ => distance.getD (none, cs)

/-- The number of days of a month. -/
def daysIn (year month : Nat) : Nat :=
  if month = 2 then
    if (year % 4 = 0 ∧ year % 100 ≠ 0) ∨ year % 400 = 0 then 29 else 28
  else if month = 4 ∨ month = 6 ∨ month = 9 ∨ month = 11 then 30
  else 31

/-- A day, alone or with a time of the day after it, as far as its form goes. -/
def moment? (cs : List Char) : Option (Moment × List Char) := do
  let (year, rest) ← fixed? 4 0 9999 cs
  let (month, rest) ← fixed? 2 1 12 (← exactly? '-' rest)
  let (day, rest) ← fixed? 2 1 31 (← exactly? '-' rest)
  let date : Date := ⟨year, month, day⟩
  let time : Option (Clock × List Char) := match rest with
    | c :: more => if c = 'T' ∨ c = 't' ∨ c = ' ' then clock? more else none
    | [] => none
  match time with
  | none => some (.date date, rest)
  | some (clock, rest) =>
    let (offset, rest) := offset rest
    some (.full date clock offset, rest)

/-- Whether the day of a point in time is in the calendar. -/
def inCalendar : Moment → Bool
  | .date d | .full d _ _ => 0 < d.year && d.day ≤ daysIn d.year d.month
  | .clock _ => true

/-- A comment up to the end of its line, if there is one. -/
def comment (cs : List Char) : Except Stuck (List Char) :=
  match cs with
  | '#' :: rest =>
    match (rest.takeWhile (· != '\n')).dropWhile fun c => !isControl c with
    | [] => .ok (rest.dropWhile (· != '\n'))
    | bad :: more => .error ⟨.hiddenChar bad, more.length + 1 + (rest.dropWhile (· != '\n')).length⟩
  | _ => .ok cs

/-- Blanks, line ends and comments between the parts of an array; `n` bounds the number of comments. -/
def skipArraySpace : Nat → List Char → Except Stuck (List Char)
  | 0, cs => .ok cs
  | n + 1, cs => do
    let rest := cs.dropWhile fun c => isSpace c || c == '\n'
    match rest with
    | '#' :: _ => skipArraySpace n (← comment rest)
    | _ => return rest

end TaskRunner.Toml
