import TaskRunner.Decimal.Digits
import TaskRunner.Text.Octets

/-!
# Escapes

What a backslash and the bytes after it stand for, in the texts that `echo` and `printf` write and in
quotations. Which escapes there are depends on who writes them.
-/

namespace TaskRunner.Shell.Escapes

/-- Which escapes there are, besides those of single letters. -/
structure Rules where
  /-- Up to three octal digits. -/
  octal : Bool := false
  /-- A zero and up to three octal digits. -/
  zeroOctal : Bool := false
  /-- An `x` and up to two hexadecimal digits, and a `u` or `U` and up to four or eight. -/
  hexadecimal : Bool := false
  /-- An `e`. -/
  escape : Bool := false
  /-- Quotation marks and a question mark. -/
  quotes : Bool := false
  /-- A `c` ends everything. -/
  ends : Bool := false
  /-- A `c` and a letter is the control character of the letter. -/
  control : Bool := false

/-- The byte of a letter after a backslash. -/
def letter? : Char → Option Char
  | 'a' => some '\x07'
  | 'b' => some '\x08'
  | 'f' => some '\x0c'
  | 'n' => some '\n'
  | 'r' => some '\r'
  | 't' => some '\t'
  | 'v' => some '\x0b'
  | '\x5c' => some '\x5c'
  | _ => none

/-- Whether a character is a digit in base eight. -/
def isOctal (c : Char) : Bool := '0' ≤ c && c ≤ '7'

/-- The byte that digits name. -/
def byte (base : Nat) (digits : List Char) : Char := Char.ofNat (Decimal.natOf base digits % 256)

/-- At most so many digits at the beginning, and what follows them. -/
def digits (isDigit : Char → Bool) (most : Nat) (cs : List Char) : List Char × List Char :=
  let found := (cs.take most).takeWhile isDigit
  (found, cs.drop found.length)

/-- The bytes of the character with a number; none if there is no such character. -/
def character (n : Nat) : String := if n.isValidChar then Text.Octets.ofChar (Char.ofNat n) else ""

/-- What the bytes after a backslash stand for: bytes, what follows them, and whether everything ends. None if they
stand for nothing. -/
def after (r : Rules) : List Char → Option (String × List Char × Bool)
  | [] => none
  | c :: rest =>
    match letter? c with
    | some b => some (String.singleton b, rest, false)
    | none =>
      if r.zeroOctal ∧ c = '0' then
        let (found, rest) := digits isOctal 3 rest
        some (String.singleton (byte 8 found), rest, false)
      else if r.octal ∧ isOctal c then
        let (found, rest) := digits isOctal 3 (c :: rest)
        some (String.singleton (byte 8 found), rest, false)
      else if r.hexadecimal ∧ c = 'x' then
        match digits Decimal.isHexDigit 2 rest with
        | ([], _) => none
        | (found, rest) => some (String.singleton (byte 16 found), rest, false)
      else if r.hexadecimal ∧ (c = 'u' ∨ c = 'U') then
        match digits Decimal.isHexDigit (if c = 'u' then 4 else 8) rest with
        | ([], _) => none
        | (found, rest) => some (character (Decimal.natOf 16 found), rest, false)
      else if r.escape ∧ (c = 'e' ∨ c = 'E') then some ("\x1b", rest, false)
      else if r.quotes ∧ (c = '\x22' ∨ c = '\x27' ∨ c = '?') then some (String.singleton c, rest, false)
      else if r.ends ∧ c = 'c' then some ("", rest, true)
      else if r.control ∧ c = 'c' then
        match rest with
        | [] => none
        | d :: rest => some (String.singleton (Char.ofNat (d.toUpper.toNat % 32)), rest, false)
      else none

/-- The bytes that a text stands for, onto what is already there, and whether it ends everything. -/
def convertFrom (r : Rules) : Nat → String → List Char → String × Bool
  | 0, done, _ => (done, false)
  | _, done, [] => (done, false)
  | n + 1, done, c :: rest =>
    if c = '\x5c' then
      match after r rest with
      | some (s, _, true) => (done ++ s, true)
      | some (s, rest, false) => convertFrom r n (done ++ s) rest
      | none => convertFrom r n (done.push c) rest
    else convertFrom r n (done.push c) rest

/-- The bytes that a text stands for, and whether it ends everything. -/
def convert (r : Rules) (s : String) : String × Bool := convertFrom r s.length "" s.toList

/-- What the plain `echo` knows. -/
def ofPlainEcho : Rules := { zeroOctal := true, ends := true }

/-- What other ones know. -/
def ofEcho : Rules := { zeroOctal := true, hexadecimal := true, escape := true, ends := true }

/-- What a plain format knows. -/
def ofPlainFormat : Rules := { octal := true }

/-- What other formats know. -/
def ofFormat : Rules := { octal := true, hexadecimal := true, escape := true, quotes := true }

/-- The bytes of a quotation with escapes; nothing after a zero byte is left. -/
def ofQuotation (s : String) : String :=
  let rules : Rules := { octal := true, hexadecimal := true, escape := true, quotes := true, control := true }
  let (s, _) := convert rules s
  String.ofList (s.toList.takeWhile (· != '\x00'))

end TaskRunner.Shell.Escapes
