import TaskRunner.Decimal.Rounded
import TaskRunner.Tools.Fields

/-!
# Programs that put lines in order

Lines are put in order by keys, each a part of the line that is compared in a way of its own; lines that
all keys leave alike are compared as a whole, unless they are to stay as they came. What a key compares
is computed once for every line (`Rank`).
-/

namespace TaskRunner.Tools.Sorting

open Processes

/-! ## Keys -/

/-- How keys are compared. -/
structure Manner where
  skipsStart : Bool := false
  skipsEnd : Bool := false
  dictionary : Bool := false
  folds : Bool := false
  general : Bool := false
  human : Bool := false
  printable : Bool := false
  month : Bool := false
  numeric : Bool := false
  random : Bool := false
  reverse : Bool := false
  version : Bool := false

/-- Whether nothing is said but perhaps the direction. -/
def Manner.isUsual (m : Manner) : Bool :=
  !(m.skipsStart || m.skipsEnd || m.dictionary || m.folds || m.general || m.human || m.printable || m.month || m.numeric
    || m.random || m.version)

/-- What a letter says; at the beginning of a key or at its end. -/
def Manner.letter? (m : Manner) (starts ends : Bool) : Char → Option Manner
  | 'b' => some { m with skipsStart := m.skipsStart || starts, skipsEnd := m.skipsEnd || ends }
  | 'd' => some { m with dictionary := true, printable := false }
  | 'f' => some { m with folds := true }
  | 'g' => some { m with general := true }
  | 'h' => some { m with human := true }
  | 'i' => some (if m.dictionary then m else { m with printable := true })
  | 'M' => some { m with month := true }
  | 'n' => some { m with numeric := true }
  | 'R' => some { m with random := true }
  | 'r' => some { m with reverse := true }
  | 'V' => some { m with version := true }
  | _ => none

/-- The letters that cannot stand together, if there are several such. -/
def Manner.conflict? (m : Manner) : Option String :=
  let alone := [m.numeric, m.general, m.human, m.month, m.version || m.random || m.dictionary || m.printable]
  if (alone.filter id).length ≤ 1 then none
  else
    let letters := [(m.dictionary, "d"), (m.folds, "f"), (m.general, "g"), (m.human, "h"), (m.printable, "i"), (m.month, "M"),
      (m.numeric, "n"), (m.random, "R"), (m.version, "V")]
    some (String.join (letters.filterMap fun (on, l) => if on then some l else none))

/-- A key: where it begins and where it ends. -/
structure Key where
  /-- The fields before it; none if it is the whole line. -/
  firstField : Option Nat
  firstPlace : Nat
  /-- The fields before the one it ends in; none if it ends with the line. -/
  lastField : Option Nat
  lastPlace : Nat
  manner : Manner
  /-- How it is written in the old way and in the new one, if it was given in the old one. -/
  former : Option (String × String) := none

/-- Whether a byte is a blank. -/
def isBlank (c : Char) : Bool := c == ' ' || c == '\t' || c == '\n'

/-- What is left after a number of fields. -/
def afterFields (mark : Option Char) : Nat → List Char → List Char
  | 0, cs => cs
  | _, [] => []
  | n + 1, cs =>
    match mark with
    | some c => afterFields mark n ((cs.dropWhile (· != c)).drop 1)
    | none => afterFields mark n ((cs.dropWhile isBlank).dropWhile fun c => !isBlank c)

/-- What is left after a number of fields, the mark after the last of them not taken away. -/
def afterFieldsBare (mark : Option Char) : Nat → List Char → List Char
  | 0, cs => cs
  | _, [] => []
  | n + 1, cs =>
    match mark with
    | some c =>
      let rest := cs.dropWhile (· != c)
      if n = 0 then rest else afterFieldsBare mark n (rest.drop 1)
    | none => afterFieldsBare mark n ((cs.dropWhile isBlank).dropWhile fun c => !isBlank c)

/-- What is left of a line from the beginning of a key on, and how many bytes of the line come after its end. -/
def Key.bounds (k : Key) (mark : Option Char) (line : List Char) : List Char × Nat :=
  let begun := match k.firstField with
    | none => line
    | some n => afterFields mark n line
  let begun := if k.manner.skipsStart then begun.dropWhile isBlank else begun
  let left : Nat := match k.lastField with
    | none => 0
    | some n =>
      if k.lastPlace = 0 then (afterFieldsBare mark (n + 1) line).length
      else
        let rest := afterFields mark n line
        let rest := if k.manner.skipsEnd then rest.dropWhile isBlank else rest
        (rest.drop k.lastPlace).length
  (begun.drop k.firstPlace, left)

/-- The part of a line that a key is about. -/
def Key.of (k : Key) (mark : Option Char) (line : List Char) : List Char :=
  let (begun, left) := k.bounds mark line
  begun.take (begun.length - left)

/-- What a key compares of a line. -/
inductive Rank where
  | text (s : String)
  | number (e : Numbers.Exact)
  /-- What is no number comes first, then what is not defined, then the numbers. -/
  | real (kind : Nat) (numerator : Int) (exponent : Int)
  | counted (unit : Int) (e : Numbers.Exact)
  | month (n : Nat)
  | version (s : String)
  | shuffled (n : Nat) (s : String)

/-- The number at the beginning of a key. -/
def numberOf (cs : List Char) : Numbers.Exact × List Char :=
  let cs := cs.dropWhile isBlank
  let (negative, cs) := match cs with
    | '-' :: rest => (true, rest)
    | cs => (false, cs)
  let (whole, rest) := cs.span Char.isDigit
  let (fraction, rest) := match rest with
    | '.' :: more => more.span Char.isDigit
    | rest => ([], rest)
  let n : Int := Decimal.natOf 10 (whole ++ fraction)
  (⟨if negative then -n else n, fraction.length⟩, rest)

/-- The names of the months. -/
def months : List String := ["JAN", "FEB", "MAR", "APR", "MAY", "JUN", "JUL", "AUG", "SEP", "OCT", "NOV", "DEC"]

/-- A number that looks like any other. -/
def scatter (seed : Nat) (s : String) : Nat :=
  s.foldl (fun h c => (h * 6364136223846793005 + c.toNat + 1442695040888963407) % 18446744073709551616) seed

/-- What a key compares of a part of a line. -/
def Manner.rank (m : Manner) (seed : Nat) (cs : List Char) : Rank :=
  if m.numeric then .number (numberOf cs).1
  else if m.general then
    match Decimal.readNumber 64 cs with
    | none => .real 0 0 0
    | some (.undefined _, _) => .real 1 0 0
    | some (.infinite true, _) => .real 2 0 0
    | some (.infinite false, _) => .real 4 0 0
    | some (.finite negative n e _, _) => .real 3 (if negative then -(n : Int) else n) e
  else if m.human then
    let (e, rest) := numberOf cs
    let size : Nat := match rest.head? with
      | some 'k' | some 'K' => 1
      | some 'M' => 2
      | some 'G' => 3
      | some 'T' => 4
      | some 'P' => 5
      | some 'E' => 6
      | some 'Z' => 7
      | some 'Y' => 8
      | _ => 0
    let unit : Int := if e.parts = 0 then 0 else if e.parts < 0 then -(size : Int) else size
    .counted unit e
  else if m.month then
    let name := String.ofList (((cs.dropWhile isBlank).take 3).map Char.toUpper)
    .month ((months.idxOf? name).map (· + 1) |>.getD 0)
  else if m.version then .version (String.ofList cs)
  else
    let kept := if m.dictionary then cs.filter fun c => c.isAlphanum || isBlank c
      else if m.printable then cs.filter fun c => ' ' ≤ c && c ≤ '~' else cs
    let s := String.ofList (if m.folds then kept.map Char.toUpper else kept)
    if m.random then .shuffled (scatter seed s) s else .text s

/-! ### Versions -/

/-- The place of a byte in versions: a tilde comes before everything, even the end. -/
def versionOrder : Option Char → Int
  | none => -1
  | some c =>
    if c.isDigit then 0
    else if c.isAlpha then c.toNat
    else if c = '~' then -2
    else c.toNat + 256

/-- Compares versions: runs without digits by their bytes, and runs of digits as numbers. -/
def compareVersions : Nat → List Char → List Char → Ordering
  | 0, _, _ => .eq
  | n + 1, a, b =>
    if a = [] ∧ b = [] then .eq
    else
      let rec words : Nat → List Char → List Char → Ordering ⊕ (List Char × List Char)
        | 0, a, b => .inr (a, b)
        | n + 1, a, b =>
          let inWord (cs : List Char) : Bool := match cs with
            | c :: _ => !c.isDigit
            | [] => false
          if inWord a ∨ inWord b then
            match compare (versionOrder a.head?) (versionOrder b.head?) with
            | .eq => words n (a.drop 1) (b.drop 1)
            | o => .inl o
          else .inr (a, b)
      match words (a.length + b.length + 1) a b with
      | .inl o => o
      | .inr (a, b) =>
        let (x, a) := a.span Char.isDigit
        let (y, b) := b.span Char.isDigit
        match compare (Decimal.natOf 10 x) (Decimal.natOf 10 y) with
        | .eq => compareVersions n a b
        | o => o

/-- A name without the endings that do not count at first. -/
def withoutEndings (cs : List Char) : List Char :=
  let rec go : Nat → List Char → List Char
    | 0, rev => rev
    | n + 1, rev =>
      let (ending, rest) := rev.span fun c => c.isAlphanum || c == '~'
      match rest, ending.getLast? with
      | '.' :: before, some c => if (c.isAlpha || c == '~') && before != [] then go n before else rev
      | _, _ => rev
  (go cs.length cs.reverse).reverse

/-- Compares names of files with versions in them. -/
def compareNames (a b : String) : Ordering :=
  if a = b then .eq
  else if a = "" then .lt
  else if b = "" then .gt
  else if a = "." then .lt
  else if b = "." then .gt
  else if a = ".." then .lt
  else if b = ".." then .gt
  else
    let hidden (s : String) : Bool := s.startsWith "."
    if hidden a && !hidden b then .lt
    else if hidden b && !hidden a then .gt
    else
      let drop (s : String) : List Char := if hidden s then s.toList.drop 1 else s.toList
      let (x, y) := (drop a, drop b)
      let size := x.length + y.length + 2
      match compareVersions size (withoutEndings x) (withoutEndings y) with
      | .eq => compareVersions size x y
      | o => o

/-- Compares decimal numbers. -/
def compareExact (a b : Numbers.Exact) : Ordering :=
  let places := max a.places b.places
  compare (a.scaled places) (b.scaled places)

/-- Compares `m * 2 ^ d` and `n * 2 ^ e`. -/
def compareScaled (m d n e : Int) : Ordering :=
  let low := min d e
  if m ≠ 0 ∧ n ≠ 0 ∧ (20000 < d - low ∨ 20000 < e - low) then compare (if m < 0 then -d else d) (if n < 0 then -e else e)
  else compare (m * Nat.pow 2 (d - low).toNat) (n * Nat.pow 2 (e - low).toNat)

/-- Compares what keys compare. -/
def Rank.compare : Rank → Rank → Ordering
  | .text a, .text b => Ord.compare a b
  | .number a, .number b => compareExact a b
  | .real j m d, .real k n e => (Ord.compare j k).then (compareScaled m d n e)
  | .counted u a, .counted v b => (Ord.compare u v).then (compareExact a b)
  | .month m, .month n => Ord.compare m n
  | .version a, .version b => compareNames a b
  | .shuffled m a, .shuffled n b => (Ord.compare m n).then (Ord.compare a b)
  | _, _ => .eq

/-! ## Lines -/

/-- A line and what its keys compare. -/
structure Line where
  text : String
  ranks : List Rank

/-- How lines are put in order. -/
structure Rules where
  keys : List Key
  mark : Option Char
  reverse : Bool
  /-- Whether lines that the keys leave alike stay as they came. -/
  keysOnly : Bool
  seed : Nat

/-- A line with what its keys compare. -/
def Rules.line (r : Rules) (text : String) : Line :=
  ⟨text, r.keys.map fun k => k.manner.rank r.seed (k.of r.mark text.toList)⟩

/-- Compares what keys say. -/
def compareRanks : List Key → List Rank → List Rank → Ordering
  | k :: keys, a :: as, b :: bs =>
    let o := a.compare b
    (if k.manner.reverse then o.swap else o).then (compareRanks keys as bs)
  | _, _, _ => .eq

/-- Compares lines. -/
def Rules.compare (r : Rules) (a b : Line) : Ordering :=
  let byKeys := compareRanks r.keys a.ranks b.ranks
  if r.keysOnly && !r.keys.isEmpty then byKeys
  else
    let whole := Ord.compare a.text b.text
    byKeys.then (if r.reverse then whole.swap else whole)

/-- Of lines that are alike only the first one. -/
def Rules.distinct (r : Rules) : List Line → List Line
  | a :: b :: rest => if r.compare a b == .eq then r.distinct (a :: rest) else a :: r.distinct (b :: rest)
  | lines => lines
termination_by lines => lines.length

end TaskRunner.Tools.Sorting
