import TaskRunner.FileSystem.Walk

/-!
# The location behind a path

A path is followed name by name and every link replaced by where it leads, so that the location that is
found has no links on its way. How much of the path has to be there is for the caller to say.
-/

namespace TaskRunner.FileSystem

/-- How much of a path has to be there. -/
inductive Presence where
  | all
  /-- All but the last name. -/
  | around
  | nothing
  deriving DecidableEq

/-- Follows names from a location, with at most so many links on the way. -/
def canonicalFrom (fs : FileSystem) (presence : Presence) (links : Bool) : Nat → Nat → Location → List String →
    Except Refusal Location
  | 0, _, _, _ => .error .tooManyLinks
  | _, _, l, [] => .ok l
  | n + 1, budget, l, name :: rest =>
    if name = "" ∨ name = "." then
      -- What stands before a slash has to be a directory.
      if presence ≠ .nothing ∧ ¬ fs.isDirectory l ∧ (fs.held? l).isSome then .error .notDirectory
      else canonicalFrom fs presence links n budget l rest
    else if name = ".." then
      if presence ≠ .nothing ∧ ¬ fs.isDirectory l then .error (if (fs.held? l).isSome then .notDirectory else .noEntry)
      else canonicalFrom fs presence links n budget l.tail rest
    else
      let isLast := rest.all fun s => s == ""
      match fs.held? (name :: l) with
      | some (.link target _) =>
        if ¬ links then canonicalFrom fs presence links n budget (name :: l) rest
        else match budget with
          | 0 => if presence = .nothing then canonicalFrom fs presence links n 0 (name :: l) rest else .error .tooManyLinks
          | budget + 1 =>
            let start := if target.startsWith "/" then [] else l
            canonicalFrom fs presence links n budget start (Path.pieces target ++ rest)
      | some (.directory _) => canonicalFrom fs presence links n budget (name :: l) rest
      | some _ =>
        if rest ≠ [] ∧ presence ≠ .nothing then .error .notDirectory
        else canonicalFrom fs presence links n budget (name :: l) rest
      | none =>
        if presence = .nothing ∨ (presence = .around ∧ isLast) then canonicalFrom fs presence links n budget (name :: l) rest
        else if (fs.held? l).isSome ∧ ¬ fs.isDirectory l then .error .notDirectory
        else .error .noEntry

/-- The location behind a path. -/
def canonical (fs : FileSystem) (presence : Presence) (links : Bool) (p : Place) (path : String) : Except Refusal Location :=
  if path = "" ∨ (¬ path.startsWith "/" ∧ ¬ fs.holds p) then .error .noEntry
  else
    let names := Path.pieces path
    canonicalFrom fs presence links (100 * (names.length + maxLinks * 100)) maxLinks (if path.startsWith "/" then [] else p.location) names

end TaskRunner.FileSystem
