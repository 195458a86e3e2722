import TaskRunner.Regex

/-!
# Rich expressions

Expressions that look around, give nothing back, repeat as seldom as they can, and move the beginning of
a match. An expression leads from a place to places in the order in which they are preferred; of the
matches that begin at a place, the first one counts, however long it is. Letters, digits and blanks are
those of the plain alphabet unless a property is asked for.
-/

namespace TaskRunner.Regex

/-- What a set of a rich expression holds. -/
inductive Member where
  | one (c : Char)
  | range (first last : Char)
  /-- The characters of the plain alphabet in a class, or all that are not among them. -/
  | plain (name : String) (negated : Bool)
  /-- The characters in a class, or all others. -/
  | property (name : String) (negated : Bool)
  deriving DecidableEq, Repr

/-- In which order repetitions are tried. -/
inductive Greed where
  | most
  | least
  /-- As many as possible, and nothing is given back. -/
  | all
  deriving DecidableEq, Repr

/-- A rich expression. -/
inductive Rich where
  | empty
  | one (c : Char) (folds : Bool)
  /-- Any character, the end of a line only if that is said. -/
  | any (ends : Bool)
  | set (negated folds : Bool) (members : List Member)
  | lineStart (everywhere : Bool)
  | lineEnd (everywhere : Bool)
  | textStart
  | textEnd
  /-- The end of the text, or of its last line. -/
  | lastEnd
  | wordBound (negated : Bool)
  | sequence (a b : Rich)
  | either (a b : Rich)
  | repeated (r : Rich) (least : Nat) (most : Option Nat) (greed : Greed)
  | group (n : Nat) (r : Rich)
  | again (n : Nat) (folds : Bool)
  /-- What a group stands for stands here too; the whole expression, if its number is zero. -/
  | call (n : Nat)
  /-- Whether something follows. -/
  | ahead (negated : Bool) (r : Rich)
  /-- Whether something comes before. -/
  | behind (negated : Bool) (r : Rich)
  /-- What gives nothing back. -/
  | atomic (r : Rich)
  /-- The match begins here. -/
  | keep
  deriving Repr

namespace Rich

/-- How far a match has come. -/
structure Trace where
  place : Nat
  start : Nat
  groups : Groups
  deriving BEq

/-- Whether a character is in a class of the plain alphabet. -/
def isPlain (name : String) (c : Char) : Bool :=
  match name with
  | "space" => c == ' ' || ('\t' ≤ c && c ≤ '\r')
  | "line" => ('\n' ≤ c && c ≤ '\r') || [0x85, 0x2028, 0x2029].contains c.toNat
  | "blank" => c == ' ' || c == '\t' || c.toNat == 0xA0
  | name => c.toNat < 128 && Text.SetItem.inClass name c

/-- Whether a set holds a character. -/
def holds (c : Char) : Member → Bool
  | .one d => c == d
  | .range first last => first ≤ c && c ≤ last
  | .plain name negated => isPlain name c != negated
  | .property name negated => Text.SetItem.inClass name c != negated

/-- Whether a set holds a character, or the one in the other case if cases are the same. -/
def isIn (folds : Bool) (members : List Member) (c : Char) : Bool :=
  members.any (holds c) ||
    (folds && (members.any (holds (Text.lowerOne c)) || members.any (holds (Text.upperOne c))))

/-- Whether two characters are the same. -/
def isSame (folds : Bool) (c d : Char) : Bool := c == d || (folds && (Text.isSameLetter c d || Text.lowerOne c == Text.lowerOne d))

/-- Whether the character at a place belongs to a word. -/
def isWordAt (t : Subject) (i : Nat) : Bool := (t.chars[i]?).any (isPlain "word")

/-- Goes on by one character that satisfies a test. -/
def advance (t : Subject) (test : Char → Bool) (s : Trace) : List Trace :=
  match t.chars[s.place]? with
  | some c => if !Subject.isStray c && test c then [{ s with place := s.place + 1 }] else []
  | none => []

/-- Stays where it is if something holds. -/
def check (holds : Bool) (s : Trace) : List Trace := if holds then [s] else []

/-- What repetitions lead to, in the order of a search; each entry is a trace, how many repetitions it has, and whether it
is an end. Traces that have been met are not followed again. -/
def searchRepeated (step : Trace → List Trace) (least : Nat) (most : Option Nat) (lazily : Bool) :
    Nat → List (Trace × Nat × Bool) → List (Trace × Nat) → List Trace → List Trace
  | 0, _, _, found => found
  | _, [], _, found => found
  | n + 1, (s, count, ends) :: rest, met, found =>
    if ends then searchRepeated step least most lazily n rest met (s :: found)
    else
      let key : Trace × Nat := (s, if most.isNone then min count least else count)
      if met.contains key then searchRepeated step least most lazily n rest met found
      else
        let stays : List (Trace × Nat × Bool) := if least ≤ count then [(s, count, true)] else []
        let full : Bool := match most with
          | some m => m ≤ count
          | none => false
        let further := if full then [] else step s
        let goes := further.map fun next => (next, count + 1, next.place == s.place && least ≤ count + 1)
        searchRepeated step least most lazily n ((if lazily then stays ++ goes else goes ++ stays) ++ rest) (key :: met) found

/-- What repetitions lead to. -/
def repetitions (t : Subject) (step : Trace → List Trace) (least : Nat) (most : Option Nat) (lazily : Bool) (s : Trace) :
    List Trace :=
  let bound := 64 * (t.chars.size + least + 4) * (t.chars.size + least + 4)
  (searchRepeated step least most lazily bound [(s, 0, false)] [] []).reverse.eraseDups

/-- What an expression leads to, the preferred trace first; `calls` says what the groups lead to that it names. -/
def ways (t : Subject) (calls : Nat → Trace → List Trace) : Rich → Trace → List Trace
  | .empty, s => [s]
  | .one c folds, s => advance t (isSame folds c) s
  | .any ends, s => advance t (fun c => ends || c != '\n') s
  | .set negated folds members, s => advance t (fun c => isIn folds members c != negated) s
  | .lineStart everywhere, s =>
    check (s.place == 0 || (everywhere && s.place < t.chars.size && t.chars[s.place - 1]? == some '\n')) s
  | .lineEnd everywhere, s => check (s.place == t.chars.size || (everywhere && t.chars[s.place]? == some '\n')) s
  | .textStart, s => check (s.place == 0) s
  | .textEnd, s => check (s.place == t.chars.size) s
  | .lastEnd, s =>
    check (s.place == t.chars.size || (s.place + 1 == t.chars.size && t.chars[s.place]? == some '\n')) s
  | .wordBound negated, s =>
    let before := s.place != 0 && isWordAt t (s.place - 1)
    check ((before != isWordAt t s.place) != negated) s
  | .sequence a b, s =>
    match ways t calls a s with
    | [] => []
    | [next] => ways t calls b next
    | found => (found.flatMap (ways t calls b)).eraseDups
  | .either a b, s => (ways t calls a s ++ ways t calls b s).eraseDups
  | .repeated r least most greed, s =>
    let found := repetitions t (ways t calls r) least most (greed == .least) s
    if greed = .all then found.take 1 else found
  | .group n r, s => (ways t calls r s).map fun next => { next with groups := note n s.place next.place next.groups }
  | .again n folds, s =>
    match s.groups.find? fun (m, _) => m == n with
    | none => []
    | some (_, start, stop) =>
      let size := stop - start
      let same := (List.range size).all fun k => match t.chars[start + k]?, t.chars[s.place + k]? with
        | some c, some d => isSame folds c d
        | _, _ => false
      check same s |>.map fun s => { s with place := s.place + size }
  | .call n, s => ((calls n s).map fun next => { next with groups := s.groups }).eraseDups
  | .ahead negated r, s =>
    match ways t calls r s with
    | [] => check negated s
    | found :: _ => if negated then [] else [{ s with groups := found.groups }]
  | .behind negated r, s =>
    let from_ (i : Nat) : Option Trace := (ways t calls r { s with place := i }).find? fun found => found.place == s.place
    match (List.range (s.place + 1)).findSome? from_ with
    | none => check negated s
    | some found => if negated then [] else [{ s with groups := found.groups }]
  | .atomic r, s => (ways t calls r s).take 1
  | .keep, s => [{ s with start := s.place }]

/-- The expression of a group. -/
def groupIn? (n : Nat) : Rich → Option Rich
  | .sequence a b | .either a b => groupIn? n a <|> groupIn? n b
  | .repeated r _ _ _ | .ahead _ r | .behind _ r | .atomic r => groupIn? n r
  | .group m r => if m = n then some (.group m r) else groupIn? n r
  | _ => none

/-- What groups lead to that are named inside of each other at most so deep. -/
def calls (r : Rich) (t : Subject) : Nat → Nat → Trace → List Trace
  | 0, _, _ => []
  | depth + 1, n, s =>
    let body := if n = 0 then some r else groupIn? n r
    match body with
    | some inner => ways t (calls r t depth) inner s
    | none => []

/-- The first match that is tried from a place or after it, in so many steps. -/
def findFrom (r : Rich) (t : Subject) : Nat → Nat → Option (Nat × Nat)
  | 0, _ => none
  | n + 1, i =>
    match ways t (calls r t (t.chars.size + 2)) r ⟨i, i, []⟩ with
    | found :: _ => some (found.start, found.place)
    | [] => findFrom r t n (i + 1)

/-- The first match that is tried from a place or after it. -/
def find (r : Rich) (t : Subject) (start : Nat) : Option (Nat × Nat) := findFrom r t (t.chars.size + 1 - start) start

/-- The lengths of what an expression may match, if there is only one for each alternative. -/
def widths : Rich → Option (List Nat)
  | .one _ _ | .any _ | .set _ _ _ => some [1]
  | .sequence a b =>
    match widths a, widths b with
    | some [m], some [n] => some [m + n]
    | _, _ => none
  | .either a b =>
    match widths a, widths b with
    | some m, some n => some (m ++ n)
    | _, _ => none
  | .repeated r least most _ =>
    match widths r with
    | some [n] => if most = some least then some [least * n] else none
    | _ => none
  | .group _ r | .atomic r =>
    match widths r with
    | some (m :: rest) => if rest.all (· == m) then some [m] else none
    | _ => none
  | .again _ _ | .call _ => none
  | _ => some [0]

end Rich

end TaskRunner.Regex
