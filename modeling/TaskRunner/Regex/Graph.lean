import Std.Data.HashSet
import TaskRunner.Regex.Basic

/-!
# The graph of an expression

An expression is laid out as nodes, its repetitions as copies of what is repeated. A path from the first node to
the last one is a match, and the preferred path is the one that takes the first way at every fork from which the
end of the match can still be reached. The groups are noted along the path; one that is passed more than once is
where it was passed last, except that an optional group that matches nothing leaves all groups as they were after
the last one that matched something.

An anchor in a copy holds the path up, as far as it asks for what comes before the place; but what follows it at
once in the same copy is reached at any place (`Node.asking`).
-/

namespace TaskRunner.Regex

/-- A node of a graph. Nodes are named by their numbers. -/
inductive Node where
  /-- The end of the expression. -/
  | last
  /-- Takes a character that an expression for one character matches. -/
  | taking (r : Regex) (next : Nat)
  /-- Asks for something at a place. If it does not bind, what comes next is reached at any place. -/
  | asking (a : Anchor) (binds : Bool) (next : Nat)
  /-- Two ways to go on, the preferred one first. -/
  | fork (first second : Nat)
  | opening (group next : Nat)
  /-- The end of a group, which may be one that need not be there. -/
  | closing (group : Nat) (isOptional : Bool) (next : Nat)
  /-- Takes what a group has matched. -/
  | again (group next : Nat)

/-- Whether an expression has nothing in it that could be laid out. -/
def isNothing : Regex → Bool
  | .empty => true
  | .sequence a b => isNothing a && isNothing b
  | .repeated r _ most => isNothing r || most == some 0
  | _ => false

/-- Whether an expression has groups. -/
def hasGroup : Regex → Bool
  | .sequence a b | .either a b => hasGroup a || hasGroup b
  | .repeated r _ _ => hasGroup r
  | .group _ _ => true
  | _ => false

/-- A node, and whether it is in a copy. -/
structure Placed where
  node : Node
  isCopy : Bool

/-- What lays out nodes, the last of an expression first. -/
abbrev Layout := StateM (Array Placed)

namespace Layout

/-- Adds a node and gives its number. -/
def add (node : Node) (isCopy : Bool) : Layout Nat := modifyGet fun nodes => (nodes.size, nodes.push ⟨node, isCopy⟩)

/-- Lays out copies of an expression. The first copy keeps what is known of the groups inside, the others do not.
The first of those that need not be there is optional as a whole, and so is the one before it if it is a copy. -/
def copies (copy : Bool → Bool → Nat → Layout Nat) (keeps : Bool) (least : Nat) (most : Option Nat) (next : Nat) :
    Layout Nat := do
  let after ← match most with
    | none => do
      let fork ← add (.fork next next) !keeps
      let first ← copy (keeps && least == 0) keeps fork
      modify fun nodes => nodes.setIfInBounds fork ⟨.fork first next, !keeps⟩
      pure fork
    | some m => optional (m - least) next
  required (keeps && most != some least) least after
where
  /-- Copies one after the other, all of which may be missing from some one on. -/
  optional : Nat → Nat → Layout Nat
    | 0, next => return next
    | 1, next => do
      let first ← copy (keeps && least == 0) keeps next
      add (.fork first next) !keeps
    | n + 1, next => do
      let first ← optional n (← copy false false next)
      add (.fork first next) !keeps
  /-- Copies one after the other; the last one may be optional. -/
  required (isOptional : Bool) : Nat → Nat → Layout Nat
    | 0, next => return next
    | 1, next => copy keeps false next
    | n + 1, next => do required false n (← copy false isOptional next)

end Layout

/-- Lays out an expression before a node and gives its first node: whether the groups inside may be optional ones
and whether the expression, if it is a group, is one itself. -/
def lay : Regex → Bool → Bool → Nat → Layout Nat
  | .empty, _, _, next => return next
  | .sequence a b, keeps, _, next => do lay a keeps false (← lay b keeps false next)
  | .either a b, keeps, _, next => do
    let second ← lay b keeps false next
    let first ← lay a keeps false next
    Layout.add (if isNothing a then .fork second first else .fork first second) !keeps
  | .repeated r least most, keeps, _, next =>
    if most = some 0 ∨ isNothing r then return next else Layout.copies (lay r) keeps least most next
  | .group n r, keeps, isOptional, next => do
    let stop ← Layout.add (.closing n isOptional next) false
    Layout.add (.opening n (← lay r keeps false stop)) false
  | .again n, keeps, _, next => Layout.add (.again n next) !keeps
  | .anchor a, keeps, _, next => do
    let isBeforeCopy : Bool := match (← get)[next]? with
      | some placed => placed.isCopy
      | none => false
    Layout.add (.asking a (keeps || !isBeforeCopy) next) !keeps
  | r, keeps, _, next => Layout.add (.taking r next) !keeps

/-- The groups that have been met on a path; one that is open has no end yet. -/
abbrev Registers := List (Nat × Nat × Option Nat)

namespace Registers

/-- Puts a group among others. -/
def put (n start : Nat) (stop : Option Nat) (groups : Registers) : Registers :=
  (n, start, stop) :: groups.filter fun (m, _) => m != n

/-- The place where what a group has matched ends if it comes again at a place. -/
def again? (groups : Registers) (t : Subject) (n place : Nat) : Option Nat :=
  match groups.find? fun (m, _) => m == n with
  | some (_, start, some stop) =>
    let same := (List.range (stop - start)).all fun k => match t.chars[start + k]?, t.chars[place + k]? with
      | some c, some d => t.isSame c d
      | _, _ => false
    if same then some (place + (stop - start)) else none
  | _ => none

end Registers

/-- The node with all that follows it at once shifted by a number. What follows a character is not shifted. -/
def Node.shifted (by_ : Nat) : Node → Node
  | .last => .last
  | .taking r next => .taking r next
  | .asking a binds next => .asking a binds (next + by_)
  | .fork first second => .fork (first + by_) (second + by_)
  | .opening n next => .opening n (next + by_)
  | .closing n isOptional next => .closing n isOptional (next + by_)
  | .again n next => .again n (next + by_)

/-- A graph: its nodes, the first node, and the last ones, the preferred one first. -/
structure Graph where
  nodes : Array Node
  entry : Nat
  lasts : List Nat

namespace Graph

/-- The graph of an expression. If there are anchors, what follows one that binds up to the next character is laid out
once more, so that an end for which nothing is asked is another one, which is preferred. -/
def ofRegex (r : Regex) : Graph :=
  let (entry, placed) := (lay r true false 0).run #[⟨.last, false⟩]
  let nodes := placed.map Placed.node
  let size := nodes.size
  let bound (node : Node) : Node := match node with
    | .asking _ true _ => node.shifted size
    | _ => node
  if hasAnchor r then ⟨nodes.map bound ++ nodes.map (Node.shifted size), entry, [0, size]⟩ else ⟨nodes, entry, [0]⟩

/-- Adds the nodes that are reached from nodes without a character being taken. -/
def spread (g : Graph) (t : Subject) (place : Nat) : Nat → List Nat → List Nat → List Nat
  | 0, _, found => found
  | _, [], found => found
  | n + 1, k :: rest, found =>
    if found.contains k then spread g t place n rest found
    else
      let next : List Nat := match g.nodes[k]? with
        | some (.asking a binds next) => if binds && !t.holds place a then [] else [next]
        | some (.fork first second) => [first, second]
        | some (.opening _ next) | some (.closing _ _ next) => [next]
        | _ => []
      spread g t place n (next ++ rest) (k :: found)

/-- The ends of matches, given the nodes that have been reached at a place; at most so many characters are taken. -/
def advance (g : Graph) (t : Subject) : Nat → Nat → List Nat → List Nat → List Nat
  | 0, _, _, stops => stops
  | n + 1, place, nodes, stops =>
    let here := g.spread t place (2 * g.nodes.size + nodes.length + 1) nodes []
    let stops := if g.lasts.any here.contains then place :: stops else stops
    match here.filterMap (taken place) with
    | [] => stops
    | next => advance g t n (place + 1) next.eraseDups stops
where
  /-- The node that follows one that takes the character at a place. -/
  taken (place : Nat) (k : Nat) : Option Nat := match g.nodes[k]? with
    | some (.taking r next) => if (ends t r place).isEmpty then none else some next
    | _ => none

/-- The ends of the matches that begin at a place, if nothing has to come again. -/
def stops (g : Graph) (t : Subject) (i : Nat) : List Nat := g.advance t (t.chars.size + 1 - i) i [g.entry] []

/-- A node that has been reached at a place, with the groups that have to come again. -/
structure Spot where
  node : Nat
  place : Nat
  groups : Registers
  deriving BEq, Hashable

/-- What follows a node; of the groups only those that have to come again are noted. -/
def Spot.next (s : Spot) (t : Subject) (again : List Nat) : Node → List Spot
  | .last => []
  | .taking r next => if (ends t r s.place).isEmpty then [] else [{ s with node := next, place := s.place + 1 }]
  | .asking a binds next => if binds && !t.holds s.place a then [] else [{ s with node := next }]
  | .fork first second => [{ s with node := first }, { s with node := second }]
  | .opening n next =>
    [{ s with node := next, groups := if again.contains n then s.groups.put n s.place none else s.groups }]
  | .closing n _ next =>
    let groups := match s.groups.find? fun (m, _) => m == n with
      | some (_, start, _) => s.groups.put n start (some s.place)
      | none => s.groups
    [{ s with node := next, groups }]
  | .again n next => match s.groups.again? t n s.place with
    | some place => [{ s with node := next, place }]
    | none => []

/-- The ends of matches that are reached from spots, each of which is left once. -/
def explore (g : Graph) (t : Subject) (again : List Nat) : Nat → List Spot → Std.HashSet Spot → List Nat → List Nat
  | 0, _, _, stops => stops
  | _, [], _, stops => stops
  | n + 1, s :: rest, met, stops =>
    if met.contains s then explore g t again n rest met stops
    else
      let stops := if g.lasts.contains s.node ∧ ¬ stops.contains s.place then s.place :: stops else stops
      let next := ((g.nodes[s.node]?).map (s.next t again)).getD []
      explore g t again n (next ++ rest) (met.insert s) stops

/-- The ends of the matches that begin at a place; the groups given are those that have to come again. -/
def stopsAgain (g : Graph) (t : Subject) (again : List Nat) (i : Nat) : List Nat :=
  g.explore t again (2 * (g.nodes.size + 2) * Nat.pow (t.chars.size + 2) (1 + 2 * again.length)) [⟨g.entry, i, []⟩] {} []

/-- Whether a node asks for nothing that does not hold at a place. -/
def isPassable (g : Graph) (t : Subject) (place node : Nat) : Bool := match g.nodes[node]? with
  | some (.asking a binds _) => if binds then t.holds place a else t.holdsBefore place a
  | _ => true

/-- The nodes from which the end can be reached, by number. -/
abbrev Live := Array Bool

/-- Whether a node is among those from which the end can be reached. -/
def Live.has (l : Live) (node : Nat) : Bool := l.getD node false

/-- The nodes from which the end can be reached at a place, given the last node, if the end is here, and those at the
next place and at all later ones. -/
def liveAt (g : Graph) (t : Subject) (last : Option Nat) (place : Nat) (after later : Live) : Live :=
  settle (g.nodes.size + 1) (g.nodes.map fun _ => false)
where
  /-- Whether the end can be reached from a node, as far as this is known. -/
  reaches (known : Live) (k : Nat) : Node → Bool
    | .last => last == some k
    | .taking r next => after.has next && g.isPassable t (place + 1) next && !(ends t r place).isEmpty
    | .asking a binds next => known.has next && (!binds || t.holds place a)
    | .fork first second => known.has first || known.has second
    | .opening _ next | .closing _ _ next => known.has next
    | .again _ next => known.has next || later.has next
  /-- Adds nodes until there are none to add. -/
  settle : Nat → Live → Live
    | 0, known => known
    | n + 1, known =>
      let more := (List.range g.nodes.size).foldl (fun known k =>
        match g.nodes[k]? with
        | some node => if known.has k then known else known.setIfInBounds k (reaches known k node)
        | none => known) known
      if more == known then known else settle n more

/-- The nodes from which a last one can be reached at the end of a match, for its places in order. -/
def liveFor (g : Graph) (t : Subject) (last start stop : Nat) : Array Live :=
  let nowhere : Live := g.nodes.map fun _ => false
  let back := (List.range (stop + 1 - start)).foldl (fun (found : List Live × Live) k =>
    let here := g.liveAt t (if k = 0 then some last else none) (stop - k) (found.1.headD nowhere) found.2
    (here :: found.1, (Array.range here.size).map fun n => here.has n || found.2.has n)) ([], nowhere)
  back.1.toArray

/-- The nodes from which the preferred end of a match can be reached, for its places in order. -/
def live? (g : Graph) (t : Subject) (start stop : Nat) : Option (Array Live) :=
  (g.lasts.map fun last => g.liveFor t last start stop).find? fun places => (places.getD 0 #[]).has g.entry

/-- Whether there is more than one way to go on anywhere. -/
def hasFork (g : Graph) : Bool := g.nodes.any fun node => match node with
  | .fork _ _ => true
  | _ => false

end Graph

/-- How far a path has come. -/
structure Trace where
  node : Nat
  place : Nat
  groups : Registers
  /-- The groups after the last one that matched something. -/
  former : Registers
  /-- The nodes that have been passed at this place. -/
  passed : List Nat

namespace Trace

/-- Notes a group that begins or ends at the node. -/
def noted (s : Trace) : Node → Trace
  | .opening n _ => { s with groups := s.groups.put n s.place none }
  | .closing n isOptional _ =>
    match s.groups.find? fun (m, _) => m == n with
    | none => s
    | some (_, start, _) =>
      let groups := s.groups.put n start (some s.place)
      if start < s.place then { s with groups, former := groups }
      else if isOptional && s.former.any fun (m, _) => m == n then { s with groups := s.former }
      else { s with groups }
  | _ => s

/-- The ways to go on from a node, the preferred one first. -/
def ways (g : Graph) (t : Subject) (live : Nat → Graph.Live) (s : Trace) : Node → List Trace
  | .last => []
  | .taking r next =>
    if (ends t r s.place).isEmpty ∨ ¬ (live (s.place + 1)).has next then []
    else [{ s with node := next, place := s.place + 1, passed := [] }]
  | .asking _ _ next | .opening _ next | .closing _ _ next => choose [next]
  | .fork first second => choose [first, second]
  | .again n next =>
    match s.groups.again? t n s.place with
    | none => []
    | some place =>
      if place = s.place then choose [next]
      else if (live place).has next then [{ s with node := next, place, passed := [] }]
      else []
where
  /-- Those of the nodes from which the end can be reached; the second one alone if the first has been passed. -/
  choose (nodes : List Nat) : List Trace :=
    let passed := s.passed.insert s.node
    let nodes := nodes.filter fun node => (live s.place).has node && g.isPassable t s.place node
    let nodes := match nodes with
      | [first, second] => if passed.contains first then [second] else nodes
      | _ => nodes
    nodes.map fun node => { s with node, passed }

end Trace

/-- Follows a path to the end, and others if it cannot be reached; of those that wait only as many as are asked for
are kept. -/
def followed (g : Graph) (t : Subject) (live : Nat → Graph.Live) (stop : Nat) (returns : Bool) :
    Nat → List Trace → Option Registers
  | 0, _ => none
  | _, [] => none
  | n + 1, s :: waiting =>
    match g.nodes[s.node]? with
    | none => none
    | some node =>
      let s := s.noted node
      let isOpen (group : Nat × Nat × Option Nat) : Bool := group.2.2.isNone
      match node with
      | .last =>
        if s.place = stop ∧ ¬ s.groups.any isOpen then some s.groups
        else followed g t live stop returns n waiting
      | _ =>
        let ways := s.ways g t live node
        followed g t live stop returns n ((if returns then ways else ways.take 1) ++ waiting)

/-- The groups of a match from one place to another, given the nodes from which its end can be reached, if there is a
path; whether other paths are tried. -/
def Graph.groups? (g : Graph) (t : Subject) (places : Array Graph.Live) (start stop : Nat) (returns : Bool) :
    Option Groups :=
  let live (place : Nat) : Graph.Live := places.getD (place - start) #[]
  let bound := (stop + 2 - start) * (g.nodes.size + 2) * (if returns then 1000 else 4)
  (followed g t live stop returns bound [⟨g.entry, start, [], [], []⟩]).map fun groups =>
    groups.filterMap fun (n, start, stop) => stop.map fun stop => (n, start, stop)

end TaskRunner.Regex
