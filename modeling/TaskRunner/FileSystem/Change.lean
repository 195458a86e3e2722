import TaskRunner.FileSystem.Walk

/-!
# Changing the tree

Removing what is no directory, giving a file another name, making links, and moving an entry with all that
is below it. An operation that is refused changes nothing.
-/

namespace TaskRunner.FileSystem

/-- Whether a location is another one or below it. -/
def isWithin (inner outer : Location) : Bool := outer.length ≤ inner.length && inner.drop (inner.length - outer.length) == outer

/-- Removes what a path names, unless it is a directory. -/
def unlinkAt (fs : FileSystem) (p : Place) (path : String) : Except Refusal FileSystem := do
  match ← fs.lastName p path with
  | .root | .dot | .dots => throw .isDirectory
  | .named l held =>
    match held with
    | none => throw .noEntry
    | some (.directory _) => throw .isDirectory
    | some _ => if path.endsWith "/" then throw .notDirectory else return fs.remove l

/-- Removes a location and all below it. -/
def removeTree (fs : FileSystem) (l : Location) : FileSystem :=
  ({ fs with entries := ⟨fs.entries.toList.filter fun (inner, _) => !isWithin inner l⟩ } : FileSystem).tick.touchAround l

/-- Puts a symbolic link at a path. -/
def symlinkAt (fs : FileSystem) (p : Place) (target path : String) : Except Refusal FileSystem := do
  if target = "" then throw .noEntry
  match ← fs.lastName p path with
  | .named l none => if path.endsWith "/" then throw .noEntry else return fs.makeLink l target
  | _ => throw .entryExists

/-- Makes a pipe that a path names. -/
def makePipeAt (fs : FileSystem) (p : Place) (mode : Nat) (path : String) : Except Refusal FileSystem := do
  match ← fs.lastName p path with
  | .named l none => if path.endsWith "/" then throw .noEntry else return fs.makePipe l mode
  | _ => throw .entryExists

/-- Gives what a path leads to another name; a link that is the last name of the path is followed if that is wanted. -/
def linkAt (fs : FileSystem) (follow : Bool) (p : Place) (path new : String) : Except Refusal FileSystem := do
  let l ← fs.walk follow p path
  match fs.held? l with
  | none => throw .noEntry
  | some (.directory _) => throw .notPermitted
  | some e =>
    match ← fs.lastName p new with
    | .named l none => if new.endsWith "/" then throw .noEntry else return (fs.put l e).tick.touchAround l
    | _ => throw .entryExists

/-- Moves a location and all below it to another location. -/
def moveTree (fs : FileSystem) (old new : Location) : FileSystem :=
  let moved := fs.entries.toList.filterMap fun (l, e) =>
    if isWithin l old then some (l.take (l.length - old.length) ++ new, e)
    else if l = new then none
    else some (l, e)
  (({ fs with entries := ⟨moved⟩ } : FileSystem).tick.touchAround old).touchAround new

/-- Moves what a path names to another path, in place of what may be there. -/
def renameAt (fs : FileSystem) (p : Place) (path new : String) : Except Refusal FileSystem := do
  let source ← fs.lastName p path
  let target ← fs.lastName p new
  match source, target with
  | .named _ none, _ => throw .noEntry
  | .named old (some e), .named l held =>
    let isTree : Bool := match e with
      | .directory _ => true
      | _ => false
    if ¬ isTree ∧ (path.endsWith "/" ∨ new.endsWith "/") then throw .notDirectory
    if isTree ∧ l ≠ old ∧ isWithin l old then throw .invalid
    match held with
    | none => return fs.moveTree old l
    | some other =>
      if l = old then return fs
      match other with
      | .directory _ =>
        if ¬ isTree then throw .isDirectory
        else if isWithin old l ∨ fs.names l ≠ [] then throw .notEmpty
        else return fs.moveTree old l
      | other =>
        if isTree then throw .notDirectory
        match e, other with
        | .file m, .file n | .pipe m, .pipe n => if m = n then return fs else return fs.moveTree old l
        | _, _ => return fs.moveTree old l
  | _, _ => throw .busy

/-- Changes the permissions of what a path leads to. -/
def chmodAt (fs : FileSystem) (l : Location) (mode : Nat) : FileSystem :=
  match fs.held? l with
  | some (.file node) | some (.directory node) | some (.pipe node) => fs.modifyNode node fun n => { n with mode }
  | _ => fs

/-- Changes the time of the last change of what a location holds. -/
def setTimeAt (fs : FileSystem) (l : Location) (time : Nat) : FileSystem :=
  match (fs.held? l).bind Entry.node? with
  | some node => fs.modifyNode node fun n => { n with modified := time }
  | none => fs

/-- Changes the time of the last use of what a location holds. -/
def setUseAt (fs : FileSystem) (l : Location) (time : Nat) : FileSystem :=
  match (fs.held? l).bind Entry.node? with
  | some node => fs.modifyNode node fun n => { n with accessed := time }
  | none => fs

end TaskRunner.FileSystem
