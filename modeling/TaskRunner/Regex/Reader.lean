import TaskRunner.Regex

/-!
# Reading regular expressions

An expression is written in one of two ways: in the basic one the signs that join and repeat have a
backslash before them, in the extended one they have none. A character that is quoted stands for itself.
Lines of an expression are alternatives, if the tool says so.
-/

namespace TaskRunner.Regex

/-- Why an expression cannot be read. -/
inductive Fault where
  | bracket
  | openGroup
  | closeGroup
  | nothingToRepeat
  | trailingBackslash
  | badReference
  | badRange
  | badInterval
  | openInterval
  | badClass
  | badSymbol
  | tooBig
  /-- The name of a class outside of a set. -/
  | bareClass
  /-- A set that has not begun when the expression ends. -/
  | incomplete
  deriving DecidableEq, Repr

/-- What is said about it. -/
def Fault.message : Fault → String
  | .bracket => "Unmatched [, [^, [:, [., or [="
  | .openGroup => "Unmatched ( or \\("
  | .closeGroup => "Unmatched ) or \\)"
  | .nothingToRepeat => "Invalid preceding regular expression"
  | .trailingBackslash => "Trailing backslash"
  | .badReference => "Invalid back reference"
  | .badRange => "Invalid range end"
  | .badInterval => "Invalid content of \\\x7b\\\x7d"
  | .openInterval => "Unmatched \\\x7b"
  | .badClass => "Invalid character class name"
  | .badSymbol => "Invalid collation character"
  | .tooBig => "Regular expression too big"
  | .incomplete => "Invalid regular expression"
  | .bareClass => "character class syntax is [[:space:]], not [:space:]"

/-- How expressions are written. -/
structure Manner where
  extended : Bool
  /-- Whether a sign that repeats nothing is an error. -/
  strict : Bool
  /-- Whether the name of a class outside of a set is an error. -/
  minds : Bool
  /-- Whether a parenthesis that closes nothing is an error. -/
  balanced : Bool
  /-- Whether a range may end before it begins. -/
  anyRange : Bool := false

/-- A character, and whether it is quoted. -/
abbrev Cell := Char × Bool

/-- What is left to be read, and how many groups have begun. -/
structure State where
  cells : List Cell
  groups : Nat
  /-- The groups that have been closed. -/
  closed : List Nat
  depth : Nat
  /-- Whether what comes next is the first of an alternative. -/
  first : Bool
  /-- The signs that repeat nothing, the last first. -/
  idle : List Char

/-- A step of reading. -/
abbrev Reading (α : Type) := EStateM Fault State α

/-- Puts what is left to be read. -/
def put (s : State) : Reading Unit := fun _ => .ok () s

/-- The number that digits begin with, if there is one. -/
def number (cells : List Cell) : Option Nat × List Cell :=
  let digits := cells.takeWhile fun (c, _) => c.isDigit
  (if digits = [] then none else (String.ofList (digits.map Prod.fst)).toNat?, cells.drop digits.length)

/-- The most repetitions that may be asked for. -/
def mostRepeats : Nat := 32767

/-- What the cells after an opening brace ask for, and what follows the closing one; or what is wrong, and whether that
is their form. -/
def interval (extended : Bool) (cells : List Cell) : Except (Fault × Bool) ((Nat × Option Nat) × List Cell) :=
  let (least, rest) := number cells
  let (most, rest, comma) : Option Nat × List Cell × Bool := match rest with
    | (',', _) :: rest => let (most, rest) := number rest; (most, rest, true)
    | _ => (least, rest, false)
  let after : Option (List Cell) := match extended, rest with
    | true, ('\x7d', _) :: rest => some rest
    | false, ('\\', _) :: ('\x7d', _) :: rest => some rest
    | _, _ => none
  match after with
  | none => .error (if rest.any fun (c, _) => c == '\x7d' || c == ',' then .badInterval else .openInterval, true)
  | some after =>
    if least.isNone ∧ ¬ comma then .error (.badInterval, true)
    else
      let low := least.getD 0
      match most with
      | some high =>
        if high < low then .error (.badInterval, false)
        else if mostRepeats < high then .error (.tooBig, false)
        else .ok ((low, some high), after)
      | none => if mostRepeats < low then .error (.tooBig, false) else .ok ((low, none), after)

/-- The name up to a sign and a closing bracket, and what follows. -/
def named (sign : Char) : List Cell → List Char → Option (String × List Cell)
  | [], _ => none
  | [_], _ => none
  | (c, _) :: (d, q) :: rest, read =>
    if c = sign ∧ d = ']' then some (String.ofList read.reverse, rest) else named sign ((d, q) :: rest) (c :: read)

/-- One member of a set, which may be written with a sign around its name. -/
def member : List Cell → Except Fault (Char × List Cell)
  | ('[', _) :: (sign, r) :: rest =>
    if sign = '.' ∨ sign = '=' then
      match named sign rest [] with
      | some (name, after) => match name.toList with
        | [c] => .ok (c, after)
        | _ => .error .badSymbol
      | none => .error .bracket
    else .ok ('[', (sign, r) :: rest)
  | (c, _) :: rest => .ok (c, rest)
  | [] => .error .bracket

/-- The items of a set up to the closing bracket. -/
def items (anyRange : Bool) : Nat → Bool → List Text.SetItem → List Cell → Except Fault (List Text.SetItem × List Cell)
  | 0, _, _, _ => .error .bracket
  | _, _, _, [] => .error .bracket
  | n + 1, first, read, (c, quoted) :: rest =>
    if c = ']' ∧ ¬ first ∧ ¬ quoted then .ok (read.reverse, rest)
    else if c = '[' ∧ (rest.head?.map Prod.fst) = some ':' then
      match named ':' (rest.drop 1) [] with
      | some (name, after) =>
        if Text.SetItem.isClass name then items anyRange n false (.class_ name :: read) after else .error .badClass
      | none => .error .bracket
    else do
      let (c, rest) ← member ((c, quoted) :: rest)
      match rest with
      | ('-', false) :: after =>
        match after with
        | (']', false) :: _ | [] => items anyRange n false (.one c :: read) rest
        | _ =>
          let (last, rest) ← member after
          if last < c ∧ ¬ anyRange then throw .badRange
          items anyRange n false (.range c last :: read) rest
      | _ => items anyRange n false (.one c :: read) rest

/-- A set, its opening bracket read. -/
def readSet (m : Manner) : Reading Regex := do
  let s ← get
  let (negated, cells) := match s.cells with
    | ('^', false) :: rest => (true, rest)
    | cells => (false, cells)
  if cells = [] then throw .incomplete
  match items m.anyRange (cells.length + 1) true [] cells with
  | .error f => throw f
  | .ok (found, rest) =>
    let bare : Bool := match found.head?, found.getLast? with
      | some (.one ':'), some (.one ':') => !negated && 2 < found.length
      | _, _ => false
    if m.minds ∧ bare then throw .bareClass
    put { s with cells := rest }
    return .set negated found

/-- What a letter after a backslash stands for besides itself. -/
def letterAfterBackslash (c : Char) : Option Regex :=
  match c with
  | 'w' => some (.set false [.class_ "word"])
  | 'W' => some (.set true [.class_ "word"])
  | 's' => some (.set false [.class_ "space"])
  | 'S' => some (.set true [.class_ "space"])
  | '<' => some (.anchor .wordStart)
  | '>' => some (.anchor .wordEnd)
  | 'b' => some (.anchor .wordBound)
  | 'B' => some (.anchor .noWordBound)
  | '\x60' => some (.anchor .textStart)
  | '\x27' => some (.anchor .textEnd)
  | _ => none

/-- Whether an alternative or a group ends here in a basic expression. -/
def endsBasic : List Cell → Bool
  | [] => true
  | ('\\', false) :: (')', _) :: _ => true
  | ('\\', false) :: ('|', _) :: _ => true
  | ('\n', _) :: _ => true
  | _ => false

/-- Passes over a cell. -/
def skip (n : Nat) : Reading Unit := modify fun s => { s with cells := s.cells.drop n }

/-- Whether an expression is the repetition of another one. -/
def isRepeated : Regex → Bool
  | .repeated _ _ _ => true
  | _ => false

/-- How the last part is repeated, if it is. Strict basic expressions do not repeat what is repeated. -/
def repetitions (m : Manner) : Nat → Regex → Reading Regex
  | 0, r => return r
  | n + 1, r => do
    let s ← get
    if m.strict ∧ ¬ m.extended ∧ isRepeated r then
      match s.cells with
      | ('*', false) :: _ | ('\\', false) :: ('\x7b', _) :: _ => throw .nothingToRepeat
      | _ => pure ()
    let counted (drop : Nat) : Reading Regex := do
      match interval m.extended (s.cells.drop drop) with
      | .ok ((least, most), rest) =>
        put { s with cells := rest }
        repetitions m n (.repeated r least most)
      | .error (f, inForm) => if m.extended ∧ ¬ m.strict ∧ inForm then return r else throw f
    match s.cells with
    | ('*', false) :: _ =>
      skip 1
      repetitions m n (.repeated r 0 none)
    | ('+', false) :: _ =>
      if ¬ m.extended then return r
      skip 1
      repetitions m n (.repeated r 1 none)
    | ('?', false) :: _ =>
      if ¬ m.extended then return r
      skip 1
      repetitions m n (.repeated r 0 (some 1))
    | ('\x7b', false) :: _ => if m.extended then counted 1 else return r
    | ('\\', false) :: (c, _) :: _ =>
      if m.extended then return r
      else if c = '+' then
        skip 2
        repetitions m n (.repeated r 1 none)
      else if c = '?' then
        skip 2
        repetitions m n (.repeated r 0 (some 1))
      else if c = '\x7b' then counted 2
      else return r
    | _ => return r

/-- A group, its opening read; `inner` reads alternatives. -/
def readGroup (m : Manner) (inner : Reading Regex) : Reading Regex := do
  let s ← get
  let number := s.groups + 1
  put { s with groups := number, depth := s.depth + 1, first := true }
  let r ← inner
  let s ← get
  let rest ← match m.extended, s.cells with
    | true, (')', false) :: rest => pure rest
    | false, ('\\', false) :: (')', _) :: rest => pure rest
    | _, _ => throw .openGroup
  put { s with cells := rest, depth := s.depth - 1, closed := number :: s.closed, first := false }
  return .group number r

/-- One part of an expression, without its repetitions; none where an alternative ends. -/
def part (m : Manner) (inner : Reading Regex) : Reading (Option Regex) := do
  let s ← get
  let literal (c : Char) : Reading (Option Regex) := do
    put { s with cells := s.cells.drop 1, first := false }
    return some (.one c)
  let found (r : Regex) (drop : Nat) (first : Bool) : Reading (Option Regex) := do
    put { s with cells := s.cells.drop drop, first }
    return some r
  let idle (c : Char) (drop : Nat) : Reading (Option Regex) := do
    if m.strict then throw .nothingToRepeat
    put { s with cells := s.cells.drop drop, first := true, idle := c :: s.idle }
    return some .empty
  match s.cells with
  | [] => return none
  | (c, true) :: _ => literal c
  | (c, false) :: rest =>
    match c with
    | '\n' => return none
    | '.' => found .any 1 false
    | '[' =>
      put { s with cells := rest, first := false }
      some <$> readSet m
    | '^' => if m.extended ∨ s.first then found (.anchor .lineStart) 1 true else literal c
    | '$' => if m.extended ∨ endsBasic rest then found (.anchor .lineEnd) 1 false else literal c
    | '*' =>
      if ¬ s.first then literal c
      else if m.extended then idle c 1
      else literal c
    | '\\' =>
      match rest with
      | [] => throw .trailingBackslash
      | (d, _) :: after =>
        if d = '(' ∧ ¬ m.extended then
          put { s with cells := after }
          some <$> readGroup m inner
        else if d = ')' ∧ ¬ m.extended then
          if s.depth = 0 then throw .closeGroup else return none
        else if d = '|' ∧ ¬ m.extended then return none
        else if d = '\x7b' ∧ ¬ m.extended then
          if s.first ∧ m.strict then throw .nothingToRepeat else found (.one '\x7b') 2 false
        else if '1' ≤ d ∧ d ≤ '9' then
          let n := d.toNat - 48
          if s.closed.contains n then found (.again n) 2 false else throw .badReference
        else if d = 'n' then found (.one 'n') 2 false
        else match letterAfterBackslash d with
          | some r => found r 2 false
          | none => found (.one d) 2 false
    | '(' =>
      if m.extended then
        put { s with cells := rest }
        some <$> readGroup m inner
      else literal c
    | ')' =>
      if m.extended then
        if s.depth ≠ 0 then return none
        else if m.balanced then throw .closeGroup
        else literal c
      else literal c
    | '|' => if m.extended then return none else literal c
    | '+' | '?' =>
      if m.extended ∧ s.first then idle c 1 else literal c
    | '\x7b' =>
      if m.extended ∧ s.first then
        match interval true rest with
        | .ok _ => idle c 0
        | .error (f, inForm) =>
          if m.strict then throw .nothingToRepeat else if inForm then literal c else throw f
      else literal c
    | _ => literal c

/-- The parts of an alternative. -/
def parts (m : Manner) (inner : Reading Regex) : Nat → List Regex → Reading Regex
  | 0, _ => throw .tooBig
  | n + 1, read => do
    match ← part m inner with
    | none => return joined read
    | some (.anchor a) =>
      -- Nothing repeats an anchor: a sign after it is the first of what follows.
      modify fun s => { s with first := true }
      parts m inner n (.anchor a :: read)
    | some r => parts m inner n ((← repetitions m n r) :: read)
where
  /-- The parts in a row, given the last first. -/
  joined : List Regex → Regex
    | [] => .empty
    | [r] => r
    | r :: rest => rest.foldl (fun after r => .sequence r after) r

/-- An alternative; `inner` reads what is in a group. -/
def alternative (m : Manner) (inner : Reading Regex) : Reading Regex := do
  modify fun s => { s with first := true }
  parts m inner ((← get).cells.length + 2) []

/-- The alternatives after the first one, each put to all before it. In none of them may what a group has matched
in another come again. -/
def otherwise (m : Manner) (inner : Reading Regex) (closed : List Nat) : Nat → Regex → Reading Regex
  | 0, _ => throw .tooBig
  | n + 1, r => do
    let next (drop : Nat) : Reading Regex := do
      skip drop
      let before := (← get).closed
      modify fun s => { s with closed }
      let other ← alternative m inner
      modify fun s => { s with closed := s.closed ++ before }
      otherwise m inner closed n (.either r other)
    match (← get).cells with
    | ('|', false) :: _ => if m.extended then next 1 else return r
    | ('\\', false) :: ('|', _) :: _ => if m.extended then return r else next 2
    | ('\n', _) :: _ => next 1
    | _ => return r

/-- The alternatives of an expression. -/
def alternatives (m : Manner) : Nat → Reading Regex
  | 0 => throw .tooBig
  | n + 1 => do
    let closed := (← get).closed
    let first ← alternative m (alternatives m n)
    otherwise m (alternatives m n) closed ((← get).cells.length + 1) first

/-- Reads an expression whose characters may be quoted; gives where reading came to an end too. -/
def readCells (m : Manner) (cells : List Cell) : Except Fault (Regex × State) :=
  match (alternatives m (cells.length + 2)).run ⟨cells, 0, [], 0, true, []⟩ with
  | .ok r s => .ok (r, s)
  | .error f _ => .error f

/-- Reads an expression whose characters may be quoted; gives how many groups it has too. -/
def ofCells (m : Manner) (cells : List Cell) : Except Fault (Regex × Nat) :=
  (readCells m cells).map fun (r, s) => (r, s.groups)

/-- Reads an expression. -/
def ofList (m : Manner) (chars : List Char) : Except Fault (Regex × Nat) := ofCells m (chars.map fun c => (c, false))

/-- The expression that stands for characters and nothing else. -/
def ofText (chars : List Char) : Regex :=
  match chars.reverse with
  | [] => .empty
  | c :: rest => rest.foldl (fun after c => .sequence (.one c) after) (.one c)

end TaskRunner.Regex
