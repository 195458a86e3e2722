import TaskRunner.Shell.Syntax
import TaskRunner.Text.Classes
import TaskRunner.Text.Octets

/-!
# Texts in quotes

Ways to write a text so that a shell reads it back as it is.
-/

namespace TaskRunner.Shell.Quoting

/-- Runs of bytes between single quotation marks and runs of these between double ones, in turn. -/
def plainFrom : Nat → List Char → String
  | 0, _ => ""
  | n + 1, cs =>
    let (run, rest) := cs.span (· != '\x27')
    let (marks, rest) := rest.span (· == '\x27')
    let quoted := "'" ++ String.ofList run ++ "'"
    if marks = [] then quoted
    else quoted ++ "\"" ++ String.ofList marks ++ "\"" ++ (if rest = [] then "" else plainFrom n rest)

/-- Between single quotation marks; those inside are written between double ones. -/
def plain (s : String) : String := plainFrom (s.length + 1) s.toList

/-- Whether a text needs escapes to be written. -/
def needsEscapes (s : String) : Bool :=
  (Text.Octets.characters s).any fun c => !Text.isShown c

/-- Three octal digits. -/
def octal (n : Nat) : String :=
  String.ofList [Nat.digitChar (n / 64 % 8), Nat.digitChar (n / 8 % 8), Nat.digitChar (n % 8)]

/-- The bytes of a character as escapes. -/
def inOctal (c : Char) : String := String.join ((Text.Octets.ofChar c).toList.map fun b => "\\" ++ octal b.toNat)

/-- With escapes for what cannot be written otherwise. -/
def escaped (s : String) : String :=
  let one (c : Char) : String :=
    match c with
    | '\n' => "\\n"
    | '\t' => "\\t"
    | '\r' => "\\r"
    | '\x07' => "\\a"
    | '\x08' => "\\b"
    | '\x0b' => "\\v"
    | '\x0c' => "\\f"
    | '\x1b' => "\\E"
    | '\x5c' => "\\\\"
    | '\x27' => "\\'"
    | c => if Text.isShown c then Text.Octets.ofChar c else inOctal c
  "$'" ++ String.join ((Text.Octets.characters s).map one) ++ "'"

/-- Between single quotation marks; one inside is written with a backslash. -/
def single (s : String) : String :=
  if needsEscapes s then escaped s
  else if s = "'" then "\\'"
  else "'" ++ String.join (s.toList.map fun c => if c = '\x27' then "'\\''" else String.singleton c) ++ "'"

/-- Whether a byte means something to a shell. -/
def isSpecial (c : Char) : Bool :=
  " \t\n'\"\\|&;()<>!\x7b\x7d*[]?^$\x60,".toList.contains c

/-- With backslashes before what means something. -/
def backslashed (s : String) : String :=
  if s = "" then "''"
  else if needsEscapes s then escaped s
  else
    let quoted := s.toList.map fun c => if isSpecial c then "\\" ++ String.singleton c else String.singleton c
    let text := String.join quoted
    if s.startsWith "~" ∨ s.startsWith "#" then "\\" ++ text else text

/-- In quotation marks only if it has to be. -/
def ifNeeded (s : String) : String :=
  if needsEscapes s then escaped s
  else if (s.toList.any fun c => isSpecial c && c != ',') ∨ s.startsWith "~" ∨ s.startsWith "#" then single s
  else s

/-- As a word is shown when it is carried out: in single quotation marks if it holds what means something to a shell,
and otherwise with escapes if it cannot be read. -/
def traced (s : String) : String :=
  let marks (c : Char) : Bool := isSpecial c && c != ','
  let tilde := s.startsWith "~" || (s.splitOn "=~").length ≠ 1 || (s.splitOn ":~").length ≠ 1
  if s = "" then "''"
  else if s.toList.any marks ∨ tilde ∨ s.startsWith "#" then
    if s = "'" then "\\'" else "'" ++ s.replace "'" "'\\''" ++ "'"
  else if needsEscapes s then escaped s
  else s

/-- Between double quotation marks. -/
def double (s : String) : String :=
  if needsEscapes s then escaped s
  else
    "\"" ++ String.join (s.toList.map fun c =>
      if ['\x22', '\x5c', '$', '\x60'].contains c then "\\" ++ String.singleton c else String.singleton c) ++ "\""

end TaskRunner.Shell.Quoting
