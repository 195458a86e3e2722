import TaskRunner.Regex.Graph

/-!
# Regular expressions

Of all matches in a text the first one counts, and of those that begin there the longest. The groups of a match
are those of the preferred path through the graph of the expression, once the end of the match is known.
-/

namespace TaskRunner.Regex

/-- The places at which a match may end that begins at a place, every anchor taken at its word if nothing has to come
again. -/
def stops (r : Regex) (t : Subject) (i : Nat) : List Nat :=
  match returning r with
  | [] => ends t r i
  | groups => (Graph.ofRegex r).stopsAgain t groups i

/-- A match: where it begins and ends, and its groups. -/
structure Match where
  start : Nat
  stop : Nat
  groups : Groups

/-- The end of the longest match that begins at a place. -/
def longest? (r : Regex) (t : Subject) (i : Nat) : Option Nat :=
  (if hasCopiedAnchor r && (returning r).isEmpty then (Graph.ofRegex r).stops t i else stops r t i).max?

/-- Whether there is a match in a text, every anchor but those of words taken at its word. -/
def occurs (r : Regex) (t : Subject) : Bool :=
  (List.range (t.chars.size + 1)).any fun i => !(ends t (withoutWords r) i).isEmpty

/-- The first match that begins at a place or after it, in so many steps, with its groups if they are asked for. Where
the end of a match cannot be reached through the graph, the search goes on; where it can, but not along the preferred
path, there is no match. -/
def searchFrom (r : Regex) (t : Subject) (withGroups : Bool) : Nat → Nat → Option Match
  | 0, _ => none
  | n + 1, i =>
    match longest? r t i with
    | none => searchFrom r t withGroups n (i + 1)
    | some stop =>
      if withGroups ∧ hasGroup r then
        let g := Graph.ofRegex r
        match g.live? t i stop with
        | none => if g.hasFork then searchFrom r t withGroups n (i + 1) else none
        | some places => (g.groups? t places i stop !(returning r).isEmpty).map fun groups => ⟨i, stop, groups⟩
      else some ⟨i, stop, []⟩

/-- The longest match that begins at a place. -/
def matchAt (r : Regex) (t : Subject) (withGroups : Bool) (i : Nat) : Option Match := searchFrom r t withGroups 1 i

/-- The first match that begins at a place or after it. -/
def search (r : Regex) (t : Subject) (withGroups : Bool) (start : Nat) : Option Match :=
  if t.chars.size < start then none else searchFrom r t withGroups (t.chars.size + 1 - start) start

/-- The characters of a group of a match; of the whole match, if its number is zero. -/
def Match.group? (m : Match) (t : Subject) (n : Nat) : Option (List Char) :=
  if n = 0 then some (t.chars.extract m.start m.stop).toList
  else (m.groups.find? fun (k, _) => k == n).map fun (_, start, stop) => (t.chars.extract start stop).toList

end TaskRunner.Regex
