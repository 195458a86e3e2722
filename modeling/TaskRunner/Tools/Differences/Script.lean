/-!
# What has changed between two rows

Two rows of lines are compared: the lines that only one of them has are marked, as few as can be. Lines that
the other row does not have at all are marked first; the others are compared from both ends until the searches
meet, and so on before and after the place where they do. Then the marks are moved to where they belong together.
-/

namespace TaskRunner.Tools.Differences

/-- A change: the first lines that it is about in both rows, counted from zero, and how many there are. -/
structure Change where
  first : Nat
  second : Nat
  deleted : Nat
  inserted : Nat
  deriving DecidableEq

/-! ## Comparing from both ends -/

/-- Two rows of classes of lines that are compared. -/
structure Rows where
  first : Array Nat
  second : Array Nat

namespace Rows

/-- Whether a line of one row is the same as a line of the other. -/
def same (r : Rows) (x y : Int) : Bool := r.first[x.toNat]! == r.second[y.toNat]!

/-- How far both rows go on with the same lines. -/
def forward (r : Rows) (xEnd yEnd : Int) : Nat → Int → Int → Int
  | 0, x, _ => x
  | n + 1, x, y => if x < xEnd ∧ y < yEnd ∧ r.same x y then forward r xEnd yEnd n (x + 1) (y + 1) else x

/-- How far both rows go back with the same lines. -/
def backward (r : Rows) (xStart yStart : Int) : Nat → Int → Int → Int
  | 0, x, _ => x
  | n + 1, x, y =>
    if xStart < x ∧ yStart < y ∧ r.same (x - 1) (y - 1) then backward r xStart yStart n (x - 1) (y - 1) else x

end Rows

/-- A part of both rows: where it begins and ends. -/
structure Part where
  xStart : Int
  xEnd : Int
  yStart : Int
  yEnd : Int

namespace Part

/-- How many steps can be taken in a part. -/
def size (p : Part) : Nat := (p.xEnd - p.xStart + (p.yEnd - p.yStart)).toNat

/-- How far a search has come on every diagonal, and between which diagonals it is. -/
structure Front where
  reach : Array Int
  low : Int
  high : Int

/-- The place of a diagonal. -/
def slot (p : Part) (d : Int) : Nat := (d - (p.xStart - p.yEnd) + 2).toNat

/-- How far a search has come on a diagonal. -/
def Front.at (f : Front) (p : Part) (d : Int) : Int := f.reach[p.slot d]!

/-- Notes how far a search has come on a diagonal. -/
def Front.set (f : Front) (p : Part) (d x : Int) : Front := { f with reach := f.reach.set! (p.slot d) x }

/-- Makes a search wider by one diagonal at both ends, or narrower where there is none. -/
def Front.widen (f : Front) (p : Part) (unreached : Int) : Front :=
  let least := p.xStart - p.yEnd
  let most := p.xEnd - p.yStart
  let f := if least < f.low then { f.set p (f.low - 2) unreached with low := f.low - 1 } else { f with low := f.low + 1 }
  if f.high < most then { f.set p (f.high + 2) unreached with high := f.high + 1 } else { f with high := f.high - 1 }

/-- The diagonals of a search, every second one, the highest first. -/
def Front.diagonals (f : Front) : List Int :=
  (List.range ((f.high - f.low).toNat / 2 + 1)).map fun i => f.high - 2 * Int.ofNat i

/-- A step of the search from the beginning: the search then, and where it has met the other one. -/
def forwards (r : Rows) (p : Part) (odd : Bool) (other : Front) : Front → List Int → Front × Option (Int × Int)
  | f, [] => (f, none)
  | f, d :: rest =>
    let low := f.at p (d - 1)
    let high := f.at p (d + 1)
    let start := if low < high then high else low + 1
    let x := r.forward p.xEnd p.yEnd p.size start (start - d)
    let f := f.set p d x
    if odd ∧ other.low ≤ d ∧ d ≤ other.high ∧ other.at p d ≤ x then (f, some (x, x - d))
    else forwards r p odd other f rest

/-- A step of the search from the end. -/
def backwards (r : Rows) (p : Part) (odd : Bool) (other : Front) : Front → List Int → Front × Option (Int × Int)
  | f, [] => (f, none)
  | f, d :: rest =>
    let low := f.at p (d - 1)
    let high := f.at p (d + 1)
    let start := if low < high then low else high - 1
    let x := r.backward p.xStart p.yStart p.size start (start - d)
    let f := f.set p d x
    if ¬ odd ∧ other.low ≤ d ∧ d ≤ other.high ∧ x ≤ other.at p d then (f, some (x, x - d))
    else backwards r p odd other f rest

/-- Where the two searches meet. -/
def meeting (r : Rows) (p : Part) (odd : Bool) : Nat → Front → Front → Int × Int
  | 0, _, _ => (p.xEnd, p.yStart)
  | n + 1, f, b =>
    let f := f.widen p (-1)
    match forwards r p odd b f f.diagonals with
    | (_, some place) => place
    | (f, none) =>
      let b := b.widen p (p.xEnd + p.yEnd + 2)
      match backwards r p odd f b b.diagonals with
      | (_, some place) => place
      | (b, none) => meeting r p odd n f b

/-- Where a part is divided. -/
def middle (r : Rows) (p : Part) : Int × Int :=
  let empty := Array.replicate (p.size + 6) (0 : Int)
  let first := p.xStart - p.yStart
  let last := p.xEnd - p.yEnd
  let f : Front := ({ reach := empty, low := first, high := first } : Front).set p first p.xStart
  let b : Front := ({ reach := empty, low := last, high := last } : Front).set p last p.xEnd
  meeting r p ((first - last) % 2 != 0) (p.size + 1) f b

end Part

/-- Lines that are marked in both rows. -/
abbrev Marks := Array Bool × Array Bool

/-- Marks lines. -/
def markFrom (marks : Array Bool) (start stop : Int) : Array Bool :=
  (List.range (stop - start).toNat).foldl (fun m i => m.set! (start.toNat + i) true) marks

/-- Marks the lines of a part that only one of the rows has. -/
def compare (r : Rows) : Nat → Part → Marks → Marks
  | 0, _, m => m
  | n + 1, p, m =>
    let x := r.forward p.xEnd p.yEnd p.size p.xStart p.yStart
    let p := { p with xStart := x, yStart := p.yStart + (x - p.xStart) }
    let x := r.backward p.xStart p.yStart p.size p.xEnd p.yEnd
    let p := { p with xEnd := x, yEnd := p.yEnd - (p.xEnd - x) }
    if p.xStart = p.xEnd then (m.1, markFrom m.2 p.yStart p.yEnd)
    else if p.yStart = p.yEnd then (markFrom m.1 p.xStart p.xEnd, m.2)
    else
      let (x, y) := p.middle r
      compare r n { p with xStart := x, yStart := y } (compare r n { p with xEnd := x, yEnd := y } m)

/-! ## Lines that are left out -/

/-- Whether a line is compared: it is, or it is marked without that, or only if it stands between such lines. -/
inductive Rank where
  | compared
  | marked
  | doubtful
  deriving DecidableEq, Inhabited

/-- How often a line has to be in the other row to be doubtful. -/
def manyOf (count : Nat) : Nat :=
  let rec go : Nat → Nat → Nat → Nat
    | 0, _, many => many
    | n + 1, rest, many => if rest / 4 = 0 then many else go n (rest / 4) (many * 2)
  go 64 (count / 64) 5

/-- Ranks as they stand before any are taken back. -/
def ranksOf (row : Array Nat) (count : Nat → Nat) : Array Rank :=
  let many := manyOf row.size
  row.map fun line =>
    let n := count line
    if n = 0 then .marked else if many < n then .doubtful else .compared

/-- Takes back doubtful ranks at the end of a run: where the run ends then. -/
def trimRun (ranks : Array Rank) (start : Nat) : Nat → Nat → Array Rank × Nat
  | 0, stop => (ranks, stop)
  | n + 1, stop =>
    if start < stop ∧ ranks[stop - 1]! = .doubtful then trimRun (ranks.set! (stop - 1) .compared) start n (stop - 1)
    else (ranks, stop)

/-- Takes back doubtful ranks of a run that stand together too often. -/
def breakRuns (ranks : Array Rank) (start length least : Nat) : Nat → Nat → Nat → Array Rank
  | 0, _, _ => ranks
  | n + 1, j, row =>
    if length ≤ j then ranks
    else if ranks[start + j]! ≠ .doubtful then breakRuns ranks start length least n (j + 1) 0
    else if least = row + 1 then breakRuns ranks start length least n (j + 1 - (row + 1)) (row + 1)
    else if least < row + 1 then breakRuns (ranks.set! (start + j) .compared) start length least n (j + 1) (row + 1)
    else breakRuns ranks start length least n (j + 1) (row + 1)

/-- Takes back doubtful ranks from one end of a run, up to where enough others stand together. -/
def clearEnd (ranks : Array Rank) (place : Nat → Nat) (length : Nat) : Nat → Nat → Nat → Array Rank
  | 0, _, _ => ranks
  | n + 1, j, row =>
    if length ≤ j then ranks
    else
      let rank := ranks[place j]!
      if 8 ≤ j ∧ rank = .marked then ranks
      else
        let (ranks, row) := match rank with
          | .doubtful => (ranks.set! (place j) .compared, 0)
          | .compared => (ranks, 0)
          | .marked => (ranks, row + 1)
        if row = 3 then ranks else clearEnd ranks place length n (j + 1) row

/-- The least number of doubtful lines together that are taken back in a run. -/
def leastOf (length : Nat) : Nat :=
  let rec go : Nat → Nat → Nat → Nat
    | 0, _, least => least
    | n + 1, rest, least => if rest / 4 = 0 then least else go n (rest / 4) (least * 2)
  go 64 (length / 4) 1 + 1

/-- Takes back doubtful ranks that do not stand in the middle of runs. -/
def settle : Nat → Nat → Array Rank → Array Rank
  | 0, _, ranks => ranks
  | n + 1, i, ranks =>
    if ranks.size ≤ i then ranks
    else match ranks[i]! with
      | .doubtful => settle n (i + 1) (ranks.set! i .compared)
      | .compared => settle n (i + 1) ranks
      | .marked =>
        let rest := (List.range (ranks.size - i)).takeWhile fun k => ranks[i + k]! ≠ .compared
        let (ranks, stop) := trimRun ranks i (rest.length + 1) (i + rest.length)
        let length := stop - i
        let doubtful := ((List.range length).filter fun k => ranks[i + k]! = .doubtful).length
        if length < 4 * doubtful then
          let ranks := (List.range length).foldl (fun r k =>
            if r[i + k]! = .doubtful then r.set! (i + k) .compared else r) ranks
          settle n (i + 1) ranks
        else
          let ranks := breakRuns ranks i length (leastOf length) (4 * length + 4) 0 0
          let ranks := clearEnd ranks (fun j => i + j) length length 0 0
          let ranks := clearEnd ranks (fun j => i + length - 1 - j) length length 0 0
          settle n (i + length) ranks

/-! ## Moving marks -/

/-- Marks of two rows with a place that is not marked before and after them, and where a run of marks is. -/
structure Shift where
  marks : Array Bool
  other : Array Bool
  start : Nat
  stop : Nat
  /-- The place of the other row that belongs to the end of the run. -/
  across : Nat
  /-- The end of the run where it last belonged to a run of the other row. -/
  anchor : Nat

/-- The first place that is not marked. -/
def pastMarks (m : Array Bool) : Nat → Nat → Nat
  | 0, i => i
  | n + 1, i => if m[i]! then pastMarks m n (i + 1) else i

/-- The first place that is not marked, going back. -/
def beforeMarks (m : Array Bool) : Nat → Nat → Nat
  | 0, i => i
  | n + 1, i => if m[i]! then beforeMarks m n (i - 1) else i

namespace Shift

/-- Moves a run back as long as the line before it is its last one. -/
def back (row : Array Nat) : Nat → Shift → Shift
  | 0, s => s
  | n + 1, s =>
    if 1 < s.start ∧ row[s.start - 1]! = row[s.stop - 1]! then
      let marks := (s.marks.set! (s.start - 1) true).set! (s.stop - 1) false
      let start := beforeMarks marks marks.size (s.start - 2) + 1
      back row n { s with marks, start, stop := s.stop - 1, across := beforeMarks s.other s.other.size (s.across - 1) }
    else s

/-- Moves a run on as long as the line after it is its first one. -/
def on (row : Array Nat) (last : Nat) : Nat → Shift → Shift
  | 0, s => s
  | n + 1, s =>
    if s.stop ≠ last ∧ row[s.start]! = row[s.stop]! then
      let marks := (s.marks.set! s.start false).set! s.stop true
      let stop := pastMarks marks marks.size (s.stop + 1)
      let across := s.across + 1
      let anchor := if s.other[across]! then stop else s.anchor
      on row last n { s with marks, start := s.start + 1, stop, across := pastMarks s.other s.other.size across, anchor }
    else s

/-- Moves a run back and on until it does not grow any more. -/
def grow (row : Array Nat) (last : Nat) : Nat → Shift → Shift
  | 0, s => s
  | n + 1, s =>
    let length := s.stop - s.start
    let s := s.back row (row.size + 1)
    let s := { s with anchor := if s.other[s.across - 1]! then s.stop else last }
    let s := s.on row last (row.size + 1)
    if s.stop - s.start = length then s else grow row last n s

/-- Moves a run back to where it belongs to a run of the other row. -/
def settle : Nat → Shift → Shift
  | 0, s => s
  | n + 1, s =>
    if s.anchor < s.stop then
      settle n { s with
        marks := (s.marks.set! (s.start - 1) true).set! (s.stop - 1) false
        start := s.start - 1
        stop := s.stop - 1
        across := beforeMarks s.other s.other.size (s.across - 1) }
    else s

end Shift

/-- Moves all runs of a row from a place on, given the place of the other row. -/
def shiftRuns (row : Array Nat) (other : Array Bool) (last : Nat) : Nat → Nat → Nat → Array Bool → Array Bool
  | 0, _, _, marks => marks
  | n + 1, i, j, marks =>
    if i = last then marks
    else if ¬ marks[i]! then shiftRuns row other last n (i + 1) (pastMarks other other.size j + 1) marks
    else
      let stop := pastMarks marks marks.size (i + 1)
      let s : Shift := ⟨marks, other, i, stop, pastMarks other other.size j, last⟩
      let s := (s.grow row last (row.size + 1)).settle (row.size + 1)
      shiftRuns row other last n s.stop s.across s.marks

/-- Moves the runs of a row. -/
def shifted (row : Array Nat) (marks other : Array Bool) : Array Bool :=
  let guarded (m : Array Bool) : Array Bool := #[false] ++ m ++ #[false]
  let lines := #[0] ++ row ++ #[0]
  let moved := shiftRuns lines (guarded other) (row.size + 1) (2 * row.size + 4) 1 1 (guarded marks)
  moved.extract 1 (row.size + 1)

/-! ## Changes -/

/-- The changes that marks are, from places on. -/
def changesFrom (m : Marks) : Nat → Nat → Nat → List Change
  | 0, _, _ => []
  | n + 1, i, j =>
    if m.1.size ≤ i ∧ m.2.size ≤ j then []
    else
      let marked (m : Array Bool) (i : Nat) : Nat := ((List.range (m.size - i)).takeWhile fun k => m[i + k]!).length
      let deleted := marked m.1 i
      let inserted := marked m.2 j
      let rest := changesFrom m n (i + deleted + 1) (j + inserted + 1)
      if deleted = 0 ∧ inserted = 0 then rest else ⟨i, j, deleted, inserted⟩ :: rest

/-- The changes between two rows of classes of lines. Of the lines that are the same at the beginning and at the end so
many are compared nevertheless; `minimal` is for leaving out no line. -/
def changesBetween (minimal : Bool) (margin start stop : Nat) (a b : Array Nat) : List Change :=
  let before := start - margin
  let after := min stop (min a.size b.size - before) - margin
  let first := a.extract before (a.size - after)
  let second := b.extract before (b.size - after)
  let counts (row : Array Nat) : Array Nat :=
    let most := (first ++ second).foldl max 0
    row.foldl (fun tally line => tally.set! line (tally[line]! + 1)) (Array.replicate (most + 1) 0)
  let (inFirst, inSecond) := (counts first, counts second)
  let settled (row : Array Nat) (count : Nat → Nat) : Array Rank := settle (row.size + 1) 0 (ranksOf row count)
  let ranks := (settled first fun line => inSecond[line]!, settled second fun line => inFirst[line]!)
  let kept (row : Array Nat) (ranks : Array Rank) : Array Nat :=
    ((List.range row.size).filter fun i => minimal || ranks[i]! = .compared).toArray
  let places := (kept first ranks.1, kept second ranks.2)
  let r : Rows := ⟨places.1.map fun i => first[i]!, places.2.map fun i => second[i]!⟩
  let whole : Part := ⟨0, r.first.size, 0, r.second.size⟩
  let found := compare r (whole.size + 1) whole (Array.replicate r.first.size false, Array.replicate r.second.size false)
  let spread (row : Array Nat) (places : Array Nat) (marks : Array Bool) : Array Bool :=
    (List.range places.size).foldl (fun m k => m.set! (places[k]!) marks[k]!) (Array.replicate row.size true)
  let marks := (spread first places.1 found.1, spread second places.2 found.2)
  let one := shifted first marks.1 marks.2
  let two := shifted second marks.2 one
  (changesFrom (one, two) (first.size + second.size + 2) 0 0).map fun c =>
    { c with first := c.first + before, second := c.second + before }

end TaskRunner.Tools.Differences
