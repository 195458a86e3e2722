import TaskRunner.Decimal.Digits
import TaskRunner.Regex.Reader
import TaskRunner.Tools.Records.Syntax

/-!
# Patterns of records

Patterns are extended expressions over bytes. A brace means nothing in them, a parenthesis that closes
nothing stands for itself, and what joins or repeats must have something to join or to repeat.
-/

namespace TaskRunner.Tools.Records.Pattern

/-- Why a pattern cannot be read. -/
inductive Fault where
  | operand
  | parenthesis
  | set
  | anchor
  | size

/-- What is said about it. -/
def Fault.message : Fault → String
  | .operand => "missing operand"
  | .parenthesis => "missing ')'"
  | .set => "bad class -- [], [^] or ["
  | .anchor => "syntax error ^* or ^+"
  | .size => "resource exhaustion--regular expression"

/-- A byte as a character that belongs to no class unless it is one of the plain ones. -/
def symbol (c : Char) : Char := if c.toNat < 128 then c else Char.ofNat (0xE000 + c.toNat)

/-- The letters after a backslash that stand for something else. -/
def escapes : List (Char × Char) :=
  [('"', '"'), ('\\', '\\'), ('/', '/'), ('a', '\x07'), ('b', '\x08'), ('f', '\x0c'), ('n', '\n'), ('r', '\r'), ('t', '\t'),
    ('v', '\x0b')]

/-- The character after a backslash, and what follows it. -/
def escaped : List Char → Char × List Char
  | [] => ('\\', [])
  | c :: rest =>
    match escapes.find? fun (letter, _) => letter == c with
    | some (_, d) => (d, rest)
    | none =>
      let octal := ((c :: rest).take 3).takeWhile fun d => '0' ≤ d && d ≤ '7'
      let hex := (rest.take 2).takeWhile Decimal.isHexDigit
      if octal ≠ [] then (Char.ofNat (Decimal.natOf 8 octal % 256), (c :: rest).drop octal.length)
      else if c = 'x' ∧ hex ≠ [] then (Char.ofNat (Decimal.natOf 16 hex), rest.drop hex.length)
      else (c, rest)

/-- The cells of a set up to its closing bracket, the last first, and what follows. -/
def setCells : Nat → Bool → List Regex.Cell → List Char → Option (List Regex.Cell × List Char)
  | 0, _, _, _ => none
  | _, _, _, [] => none
  | n + 1, first, read, c :: rest =>
    if c = ']' ∧ ¬ first then some ((']', false) :: read, rest)
    else if c = '[' ∧ rest.head? = some ':' then
      let (name, after) := (rest.drop 1).span fun d => d.isAlpha
      match after with
      | ':' :: ']' :: after =>
        setCells n false ((']', false) :: (':', false) :: (name.reverse.map fun d => (d, false)) ++ (':', false) :: ('[', false) :: read)
          after
      | _ => setCells n false (('[', true) :: read) rest
    else if c = '\\' ∧ rest ≠ [] then
      let (d, after) := escaped rest
      setCells n false ((symbol d, true) :: read) after
    else if c = '[' then setCells n false (('[', true) :: read) rest
    else if c = '-' then
      -- A range that runs backwards is no range.
      let backwards : Bool := match read.head?, rest with
        | some (low, _), high :: _ => symbol high < low && high != ']'
        | _, _ => false
      setCells n false (('-', backwards) :: read) rest
    else setCells n false ((symbol c, false) :: read) rest

/-- What has come before a place in a pattern. -/
inductive Before where
  | nothing
  | anchor
  | operand
  deriving DecidableEq

/-- The cells of a pattern. -/
def cells : Nat → Nat → Before → List Regex.Cell → List Char → Except Fault (List Regex.Cell)
  | 0, _, _, _, _ => .error .size
  | _, depth, before, read, [] =>
    if depth ≠ 0 then .error .parenthesis
    else if before = .nothing ∧ read ≠ [] then .error .operand
    else .ok read.reverse
  | n + 1, depth, before, read, c :: rest =>
    match c with
    | '\\' =>
      let (d, after) := escaped rest
      cells n depth .operand ((symbol d, true) :: read) after
    | '[' =>
      let (opening, inside) : List Regex.Cell × List Char := match rest with
        | '^' :: rest => ([('^', false), ('[', false)], rest)
        | rest => ([('[', false)], rest)
      match setCells (inside.length + 1) true [] inside with
      | some (set, after) => cells n depth .operand (set ++ opening ++ read) after
      | none => .error .set
    | '(' => cells n (depth + 1) .nothing (('(', false) :: read) rest
    | ')' =>
      if depth = 0 then cells n 0 .operand ((')', true) :: read) rest
      else if before = .nothing then .error .operand
      else cells n (depth - 1) .operand ((')', false) :: read) rest
    | '|' => if before = .nothing then .error .operand else cells n depth .nothing (('|', false) :: read) rest
    | '*' | '+' | '?' =>
      match before with
      | .nothing => .error .operand
      | .anchor => .error .anchor
      | .operand => cells n depth .operand ((c, false) :: read) rest
    | '^' => cells n depth (if before = .operand then .operand else .anchor) (('^', false) :: read) rest
    | '$' => cells n depth .operand (('$', false) :: read) rest
    | '\x7b' => cells n depth .operand (('\x7b', true) :: read) rest
    | c => cells n depth .operand ((symbol c, c == '\n') :: read) rest

/-- Reads a pattern. -/
def ofString (s : String) : Except Fault Pattern := do
  let found ← cells (s.length + 1) 0 .nothing [] s.toList
  match Regex.ofCells ⟨true, false, false, false, false⟩ found with
  | .ok (regex, _) => return ⟨s, regex⟩
  | .error .openGroup => throw .parenthesis
  | .error .badClass | .error .bracket | .error .badRange => throw .set
  | .error _ => throw .operand

/-- The pattern of a single character. -/
def ofChar (c : Char) : Pattern := ⟨String.singleton c, .one (symbol c)⟩

/-- A text in which patterns are looked for. -/
def subject (s : String) : Regex.Subject := Regex.Subject.ofList (s.toList.map symbol) false

/-- Whether a pattern matches somewhere in a text. -/
def isMatch (p : Pattern) (s : String) : Bool := (p.regex.search (subject s) false 0).isSome

/-- The first match in a text that is not empty, from a place on. -/
def firstFilled (p : Pattern) (t : Regex.Subject) : Nat → Nat → Option Regex.Match
  | 0, _ => none
  | n + 1, start =>
    match p.regex.search t false start with
    | none => none
    | some m => if m.stop = m.start then firstFilled p t n (m.start + 1) else some m

end TaskRunner.Tools.Records.Pattern
