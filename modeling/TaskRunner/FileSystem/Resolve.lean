import TaskRunner.FileSystem.Walk

/-!
# The location that a path stands for

Resolving a path replaces every link by what it stands for and never fails on a name that leads
nowhere: such a name, and all after it, is taken as it is. A link that is met again while it is being
resolved ends the resolution there, with the rest of the path as written joined to it; a rest that
begins with a slash of its own takes the place of all before it.
-/

namespace TaskRunner.FileSystem

/-- Where a resolution ends: at a location, or at a link that leads back to itself, with the pieces that were left. -/
inductive Resolution where
  | reached (l : Location)
  | looped (l : Location) (rest : List String)

/-- Joins what is left of a path to where a resolution ended. -/
def Resolution.followedBy (l : Location) (left rest : List String) : Resolution :=
  match rest with
  | "" :: _ :: _ => .looped [] rest
  | rest => .looped l (left ++ rest)

/-- Goes through the pieces of a path, asking `standsFor` what a link stands for. -/
def resolveNames (fs : FileSystem) (standsFor : Location → String → Resolution) (start : Location) :
    List String → Resolution
  | [] => .reached start
  | name :: rest =>
    if name = "" ∨ name = "." then resolveNames fs standsFor start rest
    else if name = ".." then resolveNames fs standsFor start.tail rest
    else match fs.held? (name :: start) with
      | some (.link target _) =>
        match standsFor (name :: start) target with
        | .reached l => resolveNames fs standsFor l rest
        | .looped l left => .followedBy l left rest
      | _ => resolveNames fs standsFor (name :: start) rest

/-- The directory that what a link says starts from. -/
def linkStart (l : Location) (target : String) : Location := if target.startsWith "/" then [] else l.tail

/-- What a link stands for while the links of `active` are being resolved; `resolve` resolves what it says. -/
def standsFor (active : List Location) (resolve : List Location → Location → List String → Resolution) (l : Location)
    (target : String) : Resolution :=
  if l ∈ active then .looped l [] else resolve (l :: active) (linkStart l target) (Path.pieces target)

/-- Resolves pieces from a directory while the links of `active` are being resolved; at most `depth` more
links can be inside one another. -/
def resolveFrom (fs : FileSystem) : Nat → List Location → Location → List String → Resolution
  | 0, _, start, names => resolveNames fs (fun l _ => .looped l []) start names
  | depth + 1, active, start, names => resolveNames fs (standsFor active (resolveFrom fs depth)) start names

/-- The location that names stand for, seen from a directory. -/
def resolveNamesFrom (fs : FileSystem) (start : Location) (names : List String) : Location :=
  match resolveFrom fs fs.links.length [] start names with
  | .reached l => l
  | .looped l rest => l.descend (rest.filter (· ≠ ""))

end TaskRunner.FileSystem
