import TaskRunner.Shell.Syntax
import TaskRunner.Text.Classes
import TaskRunner.Text.Locale

/-!
# Patterns

A pattern is matched part by part: `rests` says what can be left of texts after parts of a pattern. All
that is kept of the way there is what is left, the longest first, so that matching takes no longer than
the text times the pattern.
-/

namespace TaskRunner.Shell

open Text (SetItem)

/-- A part of a pattern. -/
inductive Glob where
  | one (c : Char)
  | any
  | many
  | set (negated : Bool) (items : List SetItem)
  /-- A set for which large and small letters are the same. -/
  | folded (negated : Bool) (items : List SetItem)
  /-- Alternatives, and how often one of them may come: `?`, `*`, `+`, `@`, or `!` for none. -/
  | group (operator : Char) (alternatives : List (List Glob))

namespace Glob

/-- All ends of a text, the longest first. -/
def ends : List Char → List (List Char)
  | [] => [[]]
  | c :: cs => (c :: cs) :: ends cs

/-- Two lists of ends of one text together. -/
def merge : List (List Char) → List (List Char) → List (List Char)
  | [], b => b
  | a, [] => a
  | x :: a, y :: b =>
    if x.length = y.length then x :: merge a b
    else if y.length < x.length then x :: merge a (y :: b)
    else y :: merge (x :: a) b
termination_by a b => a.length + b.length

/-- What is left after a step has been done any number of times. -/
def repeated (step : List (List Char) → List (List Char)) : Nat → List (List Char) → List (List Char)
  | 0, starts => starts
  | n + 1, starts =>
    let more := merge starts (step starts)
    if more.length = starts.length then starts else repeated step n more

/-- Whether an item of a set holds a character, large and small letters being the same. -/
def holdsFolded (c : Char) : SetItem → Bool
  | .one d => Text.lowerOne d == Text.lowerOne c
  | .range first last => Text.lowerOne first ≤ Text.lowerOne c && Text.lowerOne c ≤ Text.lowerOne last
  | item => item.holds c

mutual

/-- What can be left of texts after one part of a pattern. -/
def restsOfOne : Glob → List (List Char) → List (List Char)
  | .one c, starts => starts.filterMap fun
    | d :: rest => if c = d then some rest else none
    | [] => none
  | .any, starts => starts.filterMap List.tail?
  | .many, starts => match starts with
    | [] => []
    | longest :: _ => ends longest
  | .set negated items, starts => starts.filterMap fun
    | d :: rest => if (items.any (SetItem.holds d)) != negated then some rest else none
    | [] => none
  | .folded negated items, starts => starts.filterMap fun
    | d :: rest => if (items.any (holdsFolded d)) != negated then some rest else none
    | [] => none
  | .group operator alternatives, starts =>
    match operator with
    | '@' => restsOfAny alternatives starts
    | '?' => merge starts (restsOfAny alternatives starts)
    | '+' =>
      let once := restsOfAny alternatives starts
      repeated (restsOfAny alternatives) (longest once) once
    | '*' => repeated (restsOfAny alternatives) (longest starts) starts
    | _ => starts.foldr (fun start found =>
        let excluded := (restsOfAny alternatives [start]).map List.length
        merge ((ends start).filter fun rest => !excluded.contains rest.length) found) []

/-- What can be left after one of some alternatives. -/
def restsOfAny : List (List Glob) → List (List Char) → List (List Char)
  | [], _ => []
  | p :: ps, starts => merge (rests p starts) (restsOfAny ps starts)

/-- What can be left of texts after a pattern. -/
def rests : List Glob → List (List Char) → List (List Char)
  | [], starts => starts
  | g :: gs, starts => rests gs (restsOfOne g starts)

/-- The length of the first text, and one more. -/
def longest (starts : List (List Char)) : Nat := (starts.headD []).length + 1

end

/-- Whether a pattern matches a text. -/
def matchAll (p : List Glob) (s : List Char) : Bool := (rests p [s]).any List.isEmpty

mutual

/-- A part read backwards. -/
def backwardsOne : Glob → Glob
  | .group operator alternatives => .group operator (backwardsAll alternatives)
  | g => g

/-- Alternatives read backwards. -/
def backwardsAll : List (List Glob) → List (List Glob)
  | [] => []
  | p :: ps => backwards p [] :: backwardsAll ps

/-- A pattern read backwards, before what follows it. -/
def backwards : List Glob → List Glob → List Glob
  | [], after => after
  | g :: gs, after => backwards gs (backwardsOne g :: after)

end

mutual

/-- A part for which large and small letters are the same. -/
def ignoringCaseOne : Glob → Glob
  | .one c => .folded false [.one c]
  | .set negated items => .folded negated items
  | .group operator alternatives => .group operator (ignoringCaseAll alternatives)
  | g => g

/-- Alternatives for which large and small letters are the same. -/
def ignoringCaseAll : List (List Glob) → List (List Glob)
  | [] => []
  | p :: ps => ignoringCase p :: ignoringCaseAll ps

/-- A pattern for which large and small letters are the same. -/
def ignoringCase : List Glob → List Glob
  | [] => []
  | g :: gs => ignoringCaseOne g :: ignoringCase gs

end

/-- A text without the shortest or longest part at its beginning that matches. -/
def trimStart (p : List Glob) (longest : Bool) (s : List Char) : List Char :=
  let found := rests p [s]
  (if longest then found.getLast? else found.head?).getD s

/-- A text without the shortest or longest part at its end that matches. -/
def trimEnd (p : List Glob) (longest : Bool) (s : List Char) : List Char :=
  (trimStart (backwards p []) longest s.reverse).reverse

/-- The longest part at the beginning that matches, and what is left. -/
def longestStart (p : List Glob) (s : List Char) : Option (List Char × List Char) :=
  ((rests p [s]).getLast?).map fun rest => (s.take (s.length - rest.length), rest)

/-! ## Reading patterns -/

/-- A character of a pattern, and whether it stands for itself. -/
abbrev Cell := Char × Bool

/-- Cells of bytes as cells of characters. -/
def decode (locale : Text.Locale) (cells : List Cell) : List Cell :=
  if cells.all fun (c, _) => c.toNat < 128 then cells
  else
    let chars := locale.characters (String.ofList (cells.map Prod.fst))
    (chars.foldl (fun (found, cells) c =>
      ((c, (cells.head?.map Prod.snd).getD true) :: found, cells.drop (Text.Octets.ofChar c).length))
      (([] : List Cell), cells)).1.reverse

/-- The names of characters that are no letters and digits, from the first one on; those of control characters are
their usual short names. -/
def characterNames : List (String × Nat) :=
  (["NUL", "SOH", "STX", "ETX", "EOT", "ENQ", "ACK", "alert", "BS", "HT", "LF", "VT", "FF", "CR", "SO", "SI", "DLE", "DC1",
      "DC2", "DC3", "DC4", "NAK", "SYN", "ETB", "CAN", "EM", "SUB", "ESC", "IS4", "IS3", "IS2", "IS1", "space",
      "exclamation-mark", "quotation-mark", "number-sign", "dollar-sign", "percent-sign", "ampersand", "apostrophe",
      "left-parenthesis", "right-parenthesis", "asterisk", "plus-sign", "comma", "hyphen", "period", "slash", "zero", "one",
      "two", "three", "four", "five", "six", "seven", "eight", "nine", "colon", "semicolon", "less-than-sign",
      "equals-sign", "greater-than-sign", "question-mark", "commercial-at"].zipIdx)
    ++ (["left-square-bracket", "backslash", "right-square-bracket", "circumflex", "underscore", "grave-accent"].zipIdx 91)
    ++ (["left-brace", "vertical-line", "right-brace", "tilde", "DEL"].zipIdx 123)
    ++ [("BEL", 7), ("backspace", 8), ("tab", 9), ("newline", 10), ("vertical-tab", 11), ("form-feed", 12),
      ("carriage-return", 13), ("hyphen-minus", 45), ("minus", 45), ("dot", 46), ("full-stop", 46), ("solidus", 47),
      ("reverse-solidus", 92), ("circumflex-accent", 94), ("underline", 95), ("low-line", 95), ("left-curly-bracket", 123),
      ("right-curly-bracket", 125)]

/-- The character that a name stands for. -/
def namedCharacter? (name : String) : Option Char :=
  match name.toList with
  | [c] => some c
  | _ => (characterNames.find? fun (other, _) => other == name).map fun (_, n) => Char.ofNat n

/-- The character that a name between dots in brackets stands for, and what follows it; there may be no such
character. -/
def symbolAt : List Cell → Option (Option Char × List Cell)
  | ('[', false) :: ('.', _) :: cells =>
    let rec go (read : List Char) : List Cell → Option (Option Char × List Cell)
      | ('.', _) :: (']', _) :: rest =>
        if read = [] then none else some (namedCharacter? (String.ofList read.reverse), rest)
      | (c, _) :: rest => go (c :: read) rest
      | [] => none
    go [] cells
  | _ => none

/-- An end of a range, and what follows it; there may be no such character. -/
def endAt (symbols : Bool) : List Cell → Option (Option Char × List Cell)
  | [] => none
  | ('\x5c', false) :: (c, _) :: rest => some (some c, rest)
  | (c, quoted) :: rest => (if symbols then symbolAt ((c, quoted) :: rest) else none) <|> some (some c, rest)

/-- What holds nothing. -/
def nothing : SetItem := .range '\x01' '\x00'

/-- The items of a set up to its end, and what follows it; none if it has no end. `symbols` says whether there are
characters with names and characters that are equal to others. -/
def readSet (symbols : Bool) : Nat → Bool → List SetItem → List Cell → Option (List SetItem × List Cell)
  | 0, _, _, _ => none
  | _, _, _, [] => none
  | n + 1, first, items, (c, quoted) :: rest =>
    if c = ']' ∧ ¬ quoted ∧ ¬ first then some (items.reverse, rest)
    else
      let classed : Option (SetItem × List Cell) :=
        match c, quoted, rest with
        | '[', false, (':', false) :: more =>
          let name := more.takeWhile fun (c, _) => c.isAlphanum
          match more.drop name.length with
          | (':', _) :: (']', _) :: after => some (.class_ (String.ofList (name.map Prod.fst)), after)
          | _ => none
        | '[', false, ('=', _) :: (e, _) :: ('=', _) :: (']', _) :: after => if symbols then some (.one e, after) else none
        | _, _, _ => none
      match classed with
      | some (item, after) => readSet symbols n false (item :: items) after
      | none =>
        match endAt symbols ((c, quoted) :: rest) with
        | none => none
        | some (c, rest) =>
          let single : SetItem := (c.map SetItem.one).getD nothing
          match rest with
          | ('-', false) :: (d, dq) :: more =>
            if d = ']' ∧ ¬ dq then readSet symbols n false (single :: items) rest
            else match endAt symbols ((d, dq) :: more) with
              | some (d, more) =>
                let item : SetItem := match c, d with
                  | some c, some d => .range c d
                  | _, _ => nothing
                readSet symbols n false (item :: items) more
              | none => none
          | rest => readSet symbols n false (single :: items) rest

/-- The alternatives of a group up to its end, and what follows it; none if it has no end. -/
def splitGroup : Nat → List Cell → List (List Cell) → List Cell → Option (List (List Cell) × List Cell)
  | _, _, _, [] => none
  | depth, read, found, (c, quoted) :: rest =>
    if quoted then splitGroup depth ((c, quoted) :: read) found rest
    else if c = '(' then splitGroup (depth + 1) ((c, quoted) :: read) found rest
    else if c = ')' then
      match depth with
      | 0 => some ((read.reverse :: found).reverse, rest)
      | depth + 1 => splitGroup depth ((c, quoted) :: read) found rest
    else if c = '|' ∧ depth = 0 then splitGroup depth [] (read.reverse :: found) rest
    else splitGroup depth ((c, quoted) :: read) found rest

/-- A pattern of cells; `caret` says whether a caret negates a set and characters have names, `groups` whether there are
groups. -/
def ofCells (caret groups : Bool) : Nat → List Cell → List Glob
  | 0, _ => []
  | _, [] => []
  | n + 1, (c, quoted) :: rest =>
    if quoted then .one c :: ofCells caret groups n rest
    else
      let group : Option (List (List Cell) × List Cell) := match rest with
        | ('(', false) :: more =>
          if groups ∧ ['?', '*', '+', '@', '!'].contains c then splitGroup 0 [] [] more else none
        | _ => none
      match group with
      | some (alternatives, after) =>
        .group c (alternatives.map (ofCells caret groups n)) :: ofCells caret groups n after
      | none =>
        match c with
        | '*' => .many :: ofCells caret groups n rest
        | '?' => .any :: ofCells caret groups n rest
        | '\x5c' =>
          match rest with
          | (d, _) :: rest => .one d :: ofCells caret groups n rest
          | [] => [.one '\x5c']
        | '[' =>
          let (negated, inside) := match rest with
            | ('!', false) :: more => (true, more)
            | ('^', false) :: more => if caret then (true, more) else (false, rest)
            | _ => (false, rest)
          match readSet caret (inside.length + 1) true [] inside with
          | some (items, after) => .set negated items :: ofCells caret groups n after
          | none => .one '[' :: ofCells caret groups n rest
        | c => .one c :: ofCells caret groups n rest

/-- How patterns are written and compared with texts. -/
structure Style where
  dialect : Dialect
  locale : Text.Locale
  /-- Whether there are groups. -/
  groups : Bool
  /-- Whether large and small letters are the same. -/
  ignoresCase : Bool

/-- A pattern of cells. -/
def read (style : Style) (cells : List Cell) : List Glob :=
  let cells := decode style.locale cells
  let pattern := match style.dialect with
    | .plain => ofCells false false (cells.length + 1) cells
    | .extended => ofCells true style.groups (cells.length + 1) cells
  if style.ignoresCase then ignoringCase pattern else pattern

/-- Whether anything in cells is more than itself. -/
def isSpecial (groups : Bool) (cells : List Cell) : Bool :=
  cells.any (fun (c, quoted) => !quoted && (c == '*' || c == '?' || c == '['))
    || (groups && (cells.zip (cells.drop 1)).any fun ((c, q), (d, r)) =>
      !q && !r && d == '(' && ['+', '@', '!'].contains c)

/-- Whether a pattern of cells matches a text. -/
def matchesText (style : Style) (cells : List Cell) (text : String) : Bool :=
  matchAll (read style cells) (style.locale.characters text)

end Glob

end TaskRunner.Shell
