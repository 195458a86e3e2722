import TaskRunner.World

/-!
# The nearest Runfile

The search starts in a directory and goes up to the root. In each directory an entry named `Runfile`
counts if it is a regular file or leads to one; the first that counts is the Runfile.
-/

namespace TaskRunner.Runfile

/-- The name of a Runfile. -/
def fileName : String := "Runfile"

/-- The Runfile of a directory or of the nearest directory around it. -/
def searchUp : Location → Run (Option Path)
  | [] => look []
  | name :: around => do
    match ← look (name :: around) with
    | some found => return some found
    | none => searchUp around
where
  /-- The Runfile of one directory. -/
  look (l : Location) : Run (Option Path) := do
    let candidate := (Location.path l).child fileName
    Run.debug "runx.locator" ("Looking for " ++ candidate.toString)
    if ← Run.observe (·.isFile candidate.toString) then return some candidate else return none

/-- The nearest Runfile, seen from a path or from the working directory. -/
def find (start : Option Path) : Run (Option Path) := do
  let start ← match start with
    | some p => pure p
    | none => do pure (Location.path (← Run.observe Machine.workingDirectory))
  let l ← Run.observe (·.resolve start)
  searchUp l

/-- The nearest Runfile; it is a failure if there is none. -/
def locate (start : Option Path) : Run Path := do
  match ← find start with
  | some found => return found
  | none => Run.fail .noRunfile

end TaskRunner.Runfile
