import TaskRunner.Text.Casing
import TaskRunner.Text.Classes.Table

/-!
# Classes of characters

The classes of characters that patterns name, the sets that are written in brackets, the one character
that a letter has in the other case, and the places that a character takes in a line.
-/

namespace TaskRunner.Text

open Casing Classes

/-- The runs of small letters whose capital form of one character is the one for titles. -/
def titleRuns : List Run := [
  ⟨0x1F80, 0x1F87, 1, 8⟩, ⟨0x1F90, 0x1F97, 1, 8⟩, ⟨0x1FA0, 0x1FA7, 1, 8⟩, ⟨0x1FB3, 0x1FC3, 16, 9⟩, ⟨0x1FF3, 0x1FF3, 1, 9⟩]

/-- The lower form of a character that has one of a single character. -/
def lowerOne (c : Char) : Char :=
  match lowerChar [] c [] with
  | [d] => d
  | _ => if c = '\u0130' then 'i' else c

/-- The upper form of a character that has one of a single character. -/
def upperOne (c : Char) : Char :=
  match upperChar c with
  | [d] => d
  | _ => match titleRuns.findSome? (·.map? c.toNat) with
    | some code => Char.ofNat code
    | none => c

/-- Whether two characters are the same if the case of letters is passed over. -/
def isSameLetter (c d : Char) : Bool := c == d || upperOne c == upperOne d

/-- Whether a character leaves a mark. -/
def isGraphic (c : Char) : Bool :=
  if c.toNat < 128 then '!' ≤ c && c ≤ '~' else c.toNat < 0x10FE00 && (isVisible c || inRanges formlessRanges c.toNat)

/-- Whether a character is a letter. -/
def isLetter (c : Char) : Bool := if c.toNat < 128 then c.isAlpha else inRanges letterRanges c.toNat && isGraphic c

/-- Whether a character lies in one of some runs, given with the distance from one to the next. -/
def inRuns (runs : List (Nat × Nat × Nat)) (code : Nat) : Bool :=
  runs.any fun (first, last, every) => first ≤ code && code ≤ last && (code - first) % every == 0

/-- Whether a character is a capital letter. -/
def isCapital (c : Char) : Bool :=
  if c.toNat < 128 then c.isUpper else lowerOne c != c || inRuns capitalRuns c.toNat

/-- Whether a character is a small letter. -/
def isSmall (c : Char) : Bool := if c.toNat < 128 then c.isLower else upperOne c != c || inRuns smallRuns c.toNat

/-- Whether a character is a blank inside a line. -/
def isBlank (c : Char) : Bool :=
  c == ' ' || c == '\t' || [0x1680, 0x205F, 0x3000].contains c.toNat ||
    (0x2000 ≤ c.toNat && c.toNat ≤ 0x200A && c.toNat != 0x2007)

/-- Whether a character is a blank of some width, or ends a line. -/
def isSpace (c : Char) : Bool :=
  isBlank c || ('\t' ≤ c && c ≤ '\r') || c.toNat == 0x2028 || c.toNat == 0x2029

/-- Whether a character can be shown. -/
def isShown (c : Char) : Bool := isGraphic c || (c != '\t' && isBlank c)

/-- How many places a character takes in a line; nothing is known of one that cannot be shown. -/
def width? (c : Char) : Option Nat :=
  if c.toNat < 128 then if ' ' ≤ c ∧ c ≤ '~' then some 1 else none
  else if ¬ isShown c then none
  else if inRanges emptyRanges c.toNat then some 0
  else if inRanges wideRanges c.toNat then some 2
  else some 1

/-- How many places characters take, those that cannot be shown none. -/
def widthOf (cs : List Char) : Nat := cs.foldl (fun n c => n + (width? c).getD 0) 0

/-- What a set of characters holds. -/
inductive SetItem where
  | one (c : Char)
  | range (first last : Char)
  | class_ (name : String)
  deriving DecidableEq, Repr

namespace SetItem

/-- Whether a character belongs to a class. -/
def inClass (name : String) (c : Char) : Bool :=
  match name with
  | "alpha" => isLetter c
  | "digit" => c.isDigit
  | "alnum" => c.isDigit || isLetter c
  | "upper" => isCapital c
  | "lower" => isSmall c
  | "space" => isSpace c
  | "blank" => isBlank c
  | "punct" => isGraphic c && !isLetter c && !c.isDigit
  | "print" => isShown c
  | "graph" => isGraphic c
  | "cntrl" => c.toNat < 32 || (127 ≤ c.toNat && c.toNat < 160) || c.toNat == 0x2028 || c.toNat == 0x2029
  | "xdigit" => c.isDigit || ('a' ≤ c && c ≤ 'f') || ('A' ≤ c && c ≤ 'F')
  | "word" => c.isDigit || c == '_' || isLetter c
  | _ => false

/-- Whether there is a class with a name. -/
def isClass (name : String) : Bool :=
  ["alpha", "digit", "alnum", "upper", "lower", "space", "blank", "punct", "print", "graph", "cntrl", "xdigit",
    "word"].contains name

/-- Whether a set holds a character. -/
def holds (c : Char) : SetItem → Bool
  | .one d => c == d
  | .range first last => first ≤ c && c ≤ last
  | .class_ name => inClass name c

end SetItem

end TaskRunner.Text
