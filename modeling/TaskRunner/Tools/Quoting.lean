import TaskRunner.Shell.Quoting
import TaskRunner.Text.Locale

/-!
# How programs quote names

Names in messages stand between quotation marks: those of a shell, so that the name can be used again, or those of the
language of the messages. Which ones these are, and which characters can be shown, depends on the locale. A message is
put together before that is known: it is a row of bytes, in which characters that are no bytes stand around every name
that is to be quoted (`always`, `ifNeeded`, `file`, `local_`), and `written` puts the marks in their place.
-/

namespace TaskRunner.Tools.Quoting

open Text

/-! ## Quotation marks -/

/-- Whether a character cannot be shown. -/
def isHidden (c : Char) : Bool := !isShown c

/-- Whether a character means something to a shell. -/
def isShellSpecial (c : Char) : Bool := "!\"$&()*;<=>[^\x60|\\".toList.contains c

/-- Whether the characters of a name can do without quotation marks. -/
def isBare (cs : List Char) : Bool :=
  match cs with
  | [] | ['\x7b'] | ['\x7d'] => false
  | c :: _ => c != '~' && c != '#' && cs.all fun c => !isHidden c && !isShellSpecial c && c != ' ' && c != '\x27' && c != '?'

/-- The letters of escapes. -/
def escapeOf (c : Char) : String :=
  match c with
  | '\n' => "\\n"
  | '\t' => "\\t"
  | '\r' => "\\r"
  | '\x07' => "\\a"
  | '\x08' => "\\b"
  | '\x0b' => "\\v"
  | '\x0c' => "\\f"
  | c => Shell.Quoting.inOctal c

/-- Runs of characters that can be shown, and runs of those that cannot, in turn. -/
def escapedFrom : Nat → List Char → String
  | 0, _ => ""
  | _, [] => ""
  | n + 1, cs =>
    let (shown, rest) := cs.span fun c => !isHidden c
    let (hidden, rest) := rest.span isHidden
    let first := if shown = [] then "''" else
      "'" ++ String.join (shown.map fun c => if c = '\x27' then "'\\''" else Octets.ofChar c) ++ "'"
    let second := if hidden = [] then "" else "$'" ++ String.join (hidden.map escapeOf) ++ "'"
    first ++ second ++ escapedFrom n rest

/-- Characters between the quotation marks of a shell. -/
def shellQuoted (cs : List Char) : String :=
  if cs.contains '\x27' ∧ ¬ cs.any fun c => isHidden c || isShellSpecial c then "\"" ++ Octets.ofCharacters cs ++ "\""
  else if cs = [] then "''"
  else escapedFrom (cs.length + 1) cs

/-- Characters between the quotation marks of a shell if they are needed. -/
def shellQuotedIfNeeded (cs : List Char) : String := if isBare cs then Octets.ofCharacters cs else shellQuoted cs

/-- Characters between quotation marks, those like the last mark with a backslash. -/
def between (first last : Char) (cs : List Char) : String :=
  let inner := cs.map fun c =>
    if isHidden c then escapeOf c
    else if c = '\x5c' then "\\\\"
    else if c = last then "\\" ++ Octets.ofChar c
    else Octets.ofChar c
  Octets.ofChar first ++ String.join inner ++ Octets.ofChar last

/-- Characters between the quotation marks of the language. -/
def languageQuoted (l : Text.Locale) (cs : List Char) : String :=
  match l with
  | .plain => between '\x27' '\x27' cs
  | .unicode => between '\u2018' '\u2019' cs

/-! ## Names in messages -/

/-- The mark that ends a name. -/
def closing : Char := '\u2019'

/-- Between the quotation marks of a shell. -/
def always (s : String) : String := ("\u201c" ++ s).push closing

/-- Between the quotation marks of a shell if they are needed. -/
def ifNeeded (s : String) : String := ("\u2039" ++ s).push closing

/-- The name of a file before a colon. -/
def file (s : String) : String := ("\u203a" ++ s).push closing

/-- Between the quotation marks of the language. -/
def local_ (s : String) : String := ("\u2018" ++ s).push closing

/-- A name quoted as the mark before it asks for. -/
def named (l : Text.Locale) (mark : Char) (name : String) : String :=
  let cs := l.characters name
  match mark with
  | '\u201c' => shellQuoted cs
  | '\u2039' => shellQuotedIfNeeded cs
  | '\u203a' => if isBare cs ∧ ¬ cs.contains ':' then name else shellQuoted cs
  | _ => languageQuoted l cs

/-- Whether a character is one of the marks before a name. -/
def isOpening (c : Char) : Bool := c == '\u2018' || c == '\u201c' || c == '\u2039' || c == '\u203a'

/-- A message with its names quoted, the pieces of it last first; `name` is the name that is being read, with its mark. -/
def writtenFrom (l : Text.Locale) : List Char → Option (Char × List Char) → List Char → List Char
  | read, none, [] => read
  | read, some (mark, name), [] => (named l mark (String.ofList name.reverse)).toList.reverse ++ read
  | read, none, c :: rest => if isOpening c then writtenFrom l read (some (c, [])) rest else writtenFrom l (c :: read) none rest
  | read, some (mark, name), c :: rest =>
    if c = closing then writtenFrom l ((named l mark (String.ofList name.reverse)).toList.reverse ++ read) none rest
    else writtenFrom l read (some (mark, c :: name)) rest

/-- A message with its names quoted. -/
def written (l : Text.Locale) (message : String) : String :=
  if message.any isOpening then String.ofList (writtenFrom l [] none message.toList).reverse else message

end TaskRunner.Tools.Quoting
