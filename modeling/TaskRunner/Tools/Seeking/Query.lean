import TaskRunner.Regex.Reader
import TaskRunner.Tools.Wildcard

/-!
# Queries on files

A query is a test, something to do, or queries that are put together. It is written as words, with signs
between them: a sign that holds more tightly comes first, and two queries that follow each other are both
wanted.
-/

namespace TaskRunner.Tools.Seeking

/-! ## Numbers and times -/

/-- A number that is wanted, or more or less than that. -/
structure Bound where
  sense : Ordering
  number : Nat

namespace Bound

/-- Whether a number is as wanted. -/
def holds (b : Bound) (n : Nat) : Bool := compare n b.number == b.sense

/-- The sense of a sign in front, and what stands after it. -/
def senseOf (s : String) : Ordering × String :=
  match s.toList with
  | '+' :: cs => (.gt, String.ofList cs)
  | '-' :: cs => (.lt, String.ofList cs)
  | cs => (.eq, String.ofList cs)

/-- Reads a number, perhaps after a sign. -/
def ofString (s : String) : Option Bound :=
  let (sense, digits) := senseOf s
  let cs := digits.toList
  if cs ≠ [] ∧ cs.all Char.isDigit then digits.toNat?.map fun n => ⟨sense, n⟩ else none

end Bound

/-- Times that are wanted, in billionths of a second: after a moment, before it, or not longer after it than that. -/
structure Window where
  sense : Ordering
  moment : Int
  length : Nat

/-- Whether a time is as wanted. -/
def Window.holds (w : Window) (time : Int) : Bool :=
  match w.sense with
  | .gt => w.moment < time
  | .lt => time < w.moment
  | .eq => w.moment < time && time ≤ w.moment + w.length

/-! ## Formats -/

/-- How a piece is put into its place. -/
structure Layout where
  flags : List Char
  width : Nat
  precision : Option Nat

/-- A piece of a format. -/
inductive Piece where
  | text (s : String)
  /-- What a letter stands for. -/
  | about (l : Layout) (letter : Char)
  /-- A part of the time when it was changed, or of that when it was used. -/
  | time (l : Layout) (used : Bool) (letter : Char)
  /-- Nothing is written after it. -/
  | stop

/-! ## Queries -/

/-- What is counted. -/
inductive Measure where
  | links
  | serial
  | owner
  deriving DecidableEq

/-- What a file can be asked. -/
inductive Test where
  | always (answer : Bool)
  | name (w : Wildcard) (ignoresCase : Bool)
  | path (w : Wildcard) (ignoresCase : Bool)
  | target (w : Wildcard) (ignoresCase : Bool)
  | matched (r : Regex) (ignoresCase : Bool)
  /-- Its kind is one of some; of what a link leads to, if `beyond` says so. -/
  | kind (letters : List Char) (beyond : Bool)
  | size (b : Bound) (unit : Nat)
  | isEmpty
  /-- Its permissions are those for files or directories; with a sign, all of them or any of them are there. -/
  | mode (sign : Option Char) (plain directory : Nat)
  /-- When it was changed, or used, is in a window. -/
  | timed (used : Bool) (w : Window)
  | count (m : Measure) (b : Bound)
  | same (serial : Nat)
  | isExecutable

/-- Where something is written. -/
inductive Outlet where
  | output
  | descriptor (n : Nat) (path : String)

/-- What can be done with a file. -/
inductive Action where
  | write (ending : String) (dest : Outlet)
  | writeAs (pieces : List Piece) (dest : Outlet)
  | list (dest : Outlet)
  | delete
  | prune
  | quit
  /-- A program is run for it; beside it or not, and after a question or not. -/
  | run (command : List String) (beside asks : Bool)
  /-- A program is run for it and others together, which are gathered under a number. -/
  | gather (number : Nat) (command : List String) (beside : Bool)

/-- Whether something is done that makes it needless to write the path. -/
def Action.isOutput : Action → Bool
  | prune => false
  | _ => true

/-- A query. -/
inductive Query where
  | test (t : Test)
  | act (a : Action)
  | negated (q : Query)
  | both (q r : Query)
  | either (q r : Query)
  /-- The answer is that of the second one. -/
  | list (q r : Query)

/-- The query that is always answered with yes. -/
def Query.yes : Query := .test (.always true)

/-! ## Words -/

/-- How tightly signs hold. -/
inductive Level where
  | list
  | either
  | both
  deriving DecidableEq

/-- A level as a number. -/
def Level.height : Level → Nat
  | list => 1
  | either => 2
  | both => 3

/-- A word of a query. Parentheses around the whole are not written and mark its ends. -/
inductive Word where
  | plain (q : Query)
  | negation (name : String)
  | sign (l : Level) (name : String)
  | opening (written : Bool)
  | closing (written : Bool)

/-- What stands before a part of a query. -/
inductive Before where
  | nothing
  | sign (name : String)

/-- The query of two others with a sign between them. -/
def Query.join : Level → Query → Query → Query
  | .list => .list
  | .either => .either
  | .both => .both

mutual

/-- Reads a query up to a sign that does not hold more tightly than a height. -/
def parse (fuel height : Nat) (before : Before) (words : List Word) : Except String (Query × List Word) :=
  match fuel with
  | 0 => .error "invalid expression"
  | n + 1 => do
    let (q, rest) ← first n before words
    more n height q rest

/-- Reads the first part of a query. -/
def first (fuel : Nat) (before : Before) (words : List Word) : Except String (Query × List Word) :=
  match fuel, words with
  | 0, _ | _, [] => .error "invalid expression"
  | _, .sign _ name :: _ =>
    .error ("invalid expression; you have used a binary operator '" ++ name ++ "' with nothing before it.")
  | _, .closing written :: _ =>
    match before, written with
    | .sign name, true => .error ("expected an expression between '" ++ name ++ "' and ')'")
    | .sign name, false => .error ("expected an expression after '" ++ name ++ "'")
    | .nothing, _ => .error "invalid expression; you have too many ')'"
  | _, .plain q :: rest => .ok (q, rest)
  | n + 1, .negation name :: rest => do
    let (q, rest) ← parse n 4 (.sign name) rest
    return (.negated q, rest)
  | _, [.opening _] | _, .opening _ :: .closing false :: _ =>
    .error ("invalid expression; expected to find a ')' but didn't see one. "
      ++ "Perhaps you need an extra predicate after '('")
  | _, .opening written :: .closing true :: _ =>
    .error (if written then "invalid expression; empty parentheses are not allowed."
      else "invalid expression: expected expression before closing parentheses ')'.")
  | n + 1, .opening _ :: rest => do
    let (q, rest) ← parse n 0 .nothing rest
    match rest with
    | .closing _ :: rest => return (q, rest)
    | _ => .error "invalid expression; I was expecting to find a ')' somewhere but did not see one."

/-- Reads what is joined to a query by signs. -/
def more (fuel height : Nat) (q : Query) (words : List Word) : Except String (Query × List Word) :=
  match fuel, words with
  | 0, _ => .ok (q, words)
  | n + 1, .sign l name :: rest =>
    if l.height ≤ height then .ok (q, words)
    else do
      let (r, rest) ← parse n l.height (.sign name) rest
      more n height (Query.join l q r) rest
  | _, words => .ok (q, words)

end

/-- Whether another query may follow a word without a sign. -/
def Word.endsQuery : Word → Bool
  | plain _ | closing _ => true
  | _ => false

/-- Whether a word begins a query. -/
def Word.beginsQuery : Word → Bool
  | plain _ | negation _ | opening _ => true
  | _ => false

/-- Adds a word to words, the last first; two queries that follow each other are joined. -/
def Word.push (words : List Word) (w : Word) : List Word :=
  match words with
  | last :: _ => if last.endsQuery && w.beginsQuery then w :: .sign .both "-a" :: words else w :: words
  | [] => [w]

/-- Whether a word makes it needless to write the path. -/
def Word.isOutput : Word → Bool
  | plain (.act a) => a.isOutput
  | _ => false

/-- The query of words, the last first: paths are written if nothing else is done. -/
def Query.ofWords (words : List Word) : Except String Query := do
  let printing := Query.act (.write "\n" .output)
  if words.isEmpty then return printing
  let whole := if words.any Word.isOutput then words.reverse
    else (Word.push (.closing false :: words ++ [.opening false]) (.plain printing)).reverse
  let (q, rest) ← parse (3 * whole.length + 6) 0 .nothing whole
  match rest with
  | [] => return q
  | .closing _ :: _ => .error "you have too many ')'"
  | _ => .error "unexpected extra predicate"

end TaskRunner.Tools.Seeking
