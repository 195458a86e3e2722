import TaskRunner.Text.Classes

/-!
# Expressions and where they match

An expression stands for the places at which a match that begins at some place may end. Nothing is said here
about which of the matches counts: `TaskRunner.Regex` chooses one, and the graph of the expression tells where
its groups are.
-/

namespace TaskRunner

/-- What has to hold at a place in a text. -/
inductive Anchor where
  | lineStart
  | lineEnd
  | textStart
  | textEnd
  | wordStart
  | wordEnd
  /-- The beginning or the end of a word. -/
  | wordBound
  | noWordBound
  deriving DecidableEq, Repr

/-- A regular expression. -/
inductive Regex where
  | empty
  | one (c : Char)
  | any
  | set (negated : Bool) (items : List Text.SetItem)
  | anchor (a : Anchor)
  | sequence (a b : Regex)
  | either (a b : Regex)
  /-- At least so many times, and at most so many if there is a bound. -/
  | repeated (r : Regex) (least : Nat) (most : Option Nat)
  | group (n : Nat) (r : Regex)
  /-- What a group has matched comes again. -/
  | again (n : Nat)
  deriving Repr

namespace Regex

/-- A text in which matches are looked for. -/
structure Subject where
  chars : Array Char
  /-- Whether letters of both cases are the same. -/
  ignoresCase : Bool
  /-- Whether lines begin and end inside the text. -/
  hasLines : Bool
  /-- Whether the text begins with the beginning of a line. -/
  startsLine : Bool

/-- The places of the groups of a match, by number. -/
abbrev Groups := List (Nat × Nat × Nat)

/-- Notes where a group is. -/
def note (n start stop : Nat) (groups : Groups) : Groups := (n, start, stop) :: groups.filter fun (m, _) => m != n

namespace Subject

/-- A text as it is. -/
def ofList (chars : List Char) (ignoresCase : Bool) : Subject := ⟨chars.toArray, ignoresCase, false, true⟩

/-- Whether the character at a place belongs to a word. -/
def isWordAt (t : Subject) (i : Nat) : Bool := match t.chars[i]? with
  | some c => Text.SetItem.inClass "word" c
  | none => false

/-- Whether an anchor holds at a place. -/
def holds (t : Subject) (i : Nat) : Anchor → Bool
  | .lineStart => (i == 0 && t.startsLine) || (t.hasLines && i != 0 && t.chars[i - 1]? == some '\n')
  | .lineEnd => i == t.chars.size || (t.hasLines && t.chars[i]? == some '\n')
  | .textStart => i == 0
  | .textEnd => i == t.chars.size
  | .wordStart => !before && t.isWordAt i
  | .wordEnd => before && !t.isWordAt i
  | .wordBound => before != t.isWordAt i
  | .noWordBound => before == t.isWordAt i
where
  /-- Whether there is a character of a word before the place. -/
  before : Bool := i != 0 && t.isWordAt (i - 1)

/-- Whether the text before a place is as an anchor asks for. -/
def holdsBefore (t : Subject) (i : Nat) : Anchor → Bool
  | .lineStart => t.holds i .lineStart
  | .textStart => t.holds i .textStart
  | .wordStart => i == 0 || !t.isWordAt (i - 1)
  | .wordEnd => i != 0 && t.isWordAt (i - 1)
  | .lineEnd | .textEnd | .wordBound | .noWordBound => true

/-- Whether a character is the one that is asked for. -/
def isSame (t : Subject) (c d : Char) : Bool := c == d || (t.ignoresCase && Text.isSameLetter c d)

/-- Whether a set holds a character. -/
def isIn (t : Subject) (items : List Text.SetItem) (c : Char) : Bool :=
  items.any (Text.SetItem.holds c) ||
    (t.ignoresCase && (items.any caseless || items.any (Text.SetItem.holds (Text.lowerOne c)) || items.any (Text.SetItem.holds (Text.upperOne c))))

where
  /-- Whether a class of letters of one case holds a character if the case is passed over. -/
  caseless : Text.SetItem → Bool
    | .class_ name => (name == "upper" || name == "lower") && Text.isLetter c
    | _ => false

/-- Whether a character is a byte that belongs to none. -/
def isStray (c : Char) : Bool := 0x10FF80 ≤ c.toNat

end Subject

/-- The places of a list, each where it comes first. -/
def distinct (places : List Nat) : List Nat :=
  match places with
  | [] | [_] => places
  | _ => go places 0 []
where
  /-- Keeps the places whose bits are not set yet. -/
  go : List Nat → Nat → List Nat → List Nat
    | [], _, kept => kept.reverse
    | p :: rest, seen, kept => if seen.testBit p then go rest seen kept else go rest (seen ||| (1 <<< p)) (p :: kept)

/-- The places that repetitions lead to from places, in the order of a search that goes on as far as it can. Places
that have been met, with the number of repetitions that are still due, are not gone through again. -/
def repeatFrom (step : Nat → List Nat) (most : Option Nat) :
    Nat → List (Nat × Nat × Nat) → List (Nat × Nat) → List Nat → List Nat
  | 0, _, _, found => found
  | _, [], _, found => found
  | n + 1, (place, count, mark) :: rest, met, found =>
    if mark = 1 then repeatFrom step most n rest met (place :: found)
    else if met.contains (place, count) then repeatFrom step most n rest met found
    else
      let bounded : Bool := match most with
        | some m => m ≤ count
        | none => false
      let next := if bounded then [] else (step place).filter (· != place)
      let deeper := next.map fun p => (p, if most.isSome then count + 1 else 0, 0)
      repeatFrom step most n (deeper ++ (place, count, 1) :: rest) ((place, count) :: met) found

/-- The places that any number of repetitions lead to from a place. -/
def repeatAll (step : Nat → List Nat) (size : Nat) (most : Option Nat) (place : Nat) : List Nat :=
  let bound := 4 * (size + 2) * (size + 2) * ((most.getD 0) + 1) + 16
  distinct (repeatFrom step most bound [(place, 0, 0)] [] []).reverse

/-- Applies a step a number of times. -/
def times (step : List Nat → List Nat) : Nat → List Nat → List Nat
  | 0, places => places
  | n + 1, places => times step n (step places)

/-- The run of places that characters lead to one by one as long as they satisfy a test, the farthest first. -/
def run (t : Subject) (test : Char → Bool) : Nat → Nat → List Nat → List Nat
  | 0, _, found => found
  | n + 1, place, found =>
    match t.chars[place]? with
    | some c => if test c then run t test n (place + 1) ((place + 1) :: found) else found
    | none => found

/-- The test of an expression for a single character. -/
def test? (t : Subject) : Regex → Option (Char → Bool)
  | .one c => some (t.isSame c)
  | .any => some fun c => !Subject.isStray c
  | .set negated items => some fun c => !Subject.isStray c && t.isIn items c != negated
  | _ => none

/-- The places at which a match may end that begins at a place. -/
def ends (t : Subject) : Regex → Nat → List Nat
  | .empty, i => [i]
  | .one c, i => match t.chars[i]? with
    | some d => if t.isSame c d then [i + 1] else []
    | none => []
  | .any, i => match t.chars[i]? with
    | some c => if Subject.isStray c then [] else [i + 1]
    | none => []
  | .set negated items, i => match t.chars[i]? with
    | some c => if !Subject.isStray c && t.isIn items c != negated then [i + 1] else []
    | none => []
  | .anchor a, i => if t.holds i a then [i] else []
  | .sequence a b, i => match ends t a i with
    | [] => []
    | [j] => ends t b j
    | places => distinct (places.flatMap (ends t b))
  | .either a b, i => distinct (ends t a i ++ ends t b i)
  | .repeated r least most, i =>
    match test? t r, least, most with
    | some test, 0, none => run t test (t.chars.size - i) i [i]
    | some test, 1, none => (run t test (t.chars.size - i) i [i]).dropLast
    | _, _, _ =>
      let firsts := times (fun places => distinct (places.flatMap (ends t r))) least [i]
      match firsts with
      | [j] => repeatAll (ends t r) t.chars.size (most.map (· - least)) j
      | firsts => distinct (firsts.flatMap (repeatAll (ends t r) t.chars.size (most.map (· - least))))
  | .group _ r, i => ends t r i
  | .again _, i => [i]

/-- Whether an expression asks for something at a place. -/
def hasAnchor : Regex → Bool
  | .sequence a b | .either a b => hasAnchor a || hasAnchor b
  | .repeated r _ _ | .group _ r => hasAnchor r
  | .anchor _ => true
  | _ => false

/-- Whether there are several copies of something that asks for something at a place. -/
def hasCopiedAnchor : Regex → Bool
  | .sequence a b | .either a b => hasCopiedAnchor a || hasCopiedAnchor b
  | .repeated r least most => hasCopiedAnchor r || (hasAnchor r && (least, most) != (0, none) && 1 < max (least + 1) (most.getD 2))
  | .group _ r => hasCopiedAnchor r
  | _ => false

/-- An expression without what it asks of words. -/
def withoutWords : Regex → Regex
  | .anchor .wordStart | .anchor .wordEnd | .anchor .wordBound | .anchor .noWordBound => .empty
  | .sequence a b => .sequence (withoutWords a) (withoutWords b)
  | .either a b => .either (withoutWords a) (withoutWords b)
  | .repeated r least most => .repeated (withoutWords r) least most
  | .group n r => .group n (withoutWords r)
  | r => r

/-- The groups that have to come again. -/
def returning : Regex → List Nat
  | .sequence a b | .either a b => (returning a ++ returning b).eraseDups
  | .repeated r _ _ | .group _ r => returning r
  | .again n => [n]
  | _ => []

end Regex

end TaskRunner
