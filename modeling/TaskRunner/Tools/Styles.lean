import TaskRunner.Tools.Quoting

/-!
# Styles of quoting

The ways in which a list of files may write names, and how many places a name takes.
-/

namespace TaskRunner.Tools.Quoting

open Text

/-- A way to write names. -/
inductive Style where
  | literal
  /-- For a shell, if it has to be or in any case; with escapes for what cannot be shown or without. -/
  | shell (always escapes : Bool)
  /-- As a string of a programming language, if it has to be or in any case. -/
  | string (always : Bool)
  /-- With backslashes only. -/
  | backslashes
  /-- As the language quotes. -/
  | language (double : Bool)
  deriving DecidableEq

namespace Style

/-- The styles and their names. -/
def all : List (String × Style) :=
  [("literal", .literal), ("shell", .shell false false), ("shell-always", .shell true false),
    ("shell-escape", .shell false true), ("shell-escape-always", .shell true true), ("c", .string true),
    ("c-maybe", .string false), ("escape", .backslashes), ("locale", .language false), ("clocale", .language true)]

/-- The style with a name. -/
def ofName? (name : String) : Option Style := (all.find? fun (n, _) => n == name).map Prod.snd

/-- Whether names of a style may be quoted or not, so that those that are not are put under the others. -/
def isUneven : Style → Bool
  | .shell always _ | .string always => !always
  | _ => false

/-- Characters with backslashes before what is not written as it is. -/
def backslashed (special : List Char) (cs : List Char) : String :=
  String.join <| cs.map fun c =>
    if special.contains c then "\\" ++ Octets.ofChar c
    else if isHidden c then escapeOf c
    else Octets.ofChar c

/-- Characters between the quotation marks of a shell, without escapes. -/
def bluntlyQuoted (cs : List Char) : String :=
  if cs.contains '\x27' ∧ ¬ cs.any fun c => isHidden c || isShellSpecial c then "\"" ++ Octets.ofCharacters cs ++ "\""
  else "'" ++ String.join (cs.map fun c => if c = '\x27' then "'\\''" else Octets.ofChar c) ++ "'"

/-- Whether characters have to be quoted for a shell, if what cannot be shown is not escaped. -/
def isBluntlyBare (cs : List Char) : Bool := isBare (cs.filter fun c => !isHidden c) && !cs.any fun c => "\n\r\t".toList.contains c

/-- A name in a style, and whether it is quoted; `more` are characters that are not written as they are, in place of the
blank where only backslashes are used. -/
def write (s : Style) (l : Text.Locale) (more : List Char) (name : String) : String × Bool :=
  let cs := l.characters name
  let needed := cs.any more.contains
  match s with
  | .literal => (name, false)
  | .shell always true => if always ∨ needed ∨ ¬ isBare cs then (shellQuoted cs, true) else (name, false)
  | .shell always false => if always ∨ needed ∨ ¬ isBluntlyBare cs then (bluntlyQuoted cs, true) else (name, false)
  | .string always =>
    if always ∨ needed ∨ cs.any fun c => isHidden c || c == '\x22' then
      ("\"" ++ backslashed (['\x22', '\x5c'] ++ more) cs ++ "\"", true)
    else (name, false)
  | .backslashes => (backslashed ('\x5c' :: if more = [] then [' '] else more) cs, false)
  | .language double =>
    let (first, last) : Char × Char := match l, double with
      | .unicode, _ => ('\u2018', '\u2019')
      | .plain, true => ('\x22', '\x22')
      | .plain, false => ('\x27', '\x27')
    (Octets.ofChar first ++ backslashed ([last, '\x5c'] ++ more) cs ++ Octets.ofChar last, true)

end Style

/-- A name with question marks for what cannot be shown. -/
def masked (l : Text.Locale) (name : String) : String :=
  String.join ((l.characters name).map fun c => if isHidden c then "?" else Octets.ofChar c)

/-- How many places a name takes. -/
def placesOf (l : Text.Locale) (name : String) : Nat :=
  (l.characters name).foldl (fun n c => n + match width? c, l with
    | some w, _ => w
    | none, .plain => 0
    | none, .unicode => if SetItem.inClass "cntrl" c then 0 else 1) 0

end TaskRunner.Tools.Quoting
