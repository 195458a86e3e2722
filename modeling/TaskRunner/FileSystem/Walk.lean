import TaskRunner.FileSystem

/-!
# Walking along a path

A walk goes from a directory through the names of a path. Every name but the last has to lead to a
directory; a link is replaced by its target, from the root if the target begins with a slash, and
after forty links the walk is given up. Whether a link that is the last name is followed is for the
operation to say.
-/

namespace TaskRunner.FileSystem

/-- The most links that one walk follows. -/
def maxLinks : Nat := 40

/-- The most bytes that one name may have. -/
def maxNameSize : Nat := 255

/-- The names of a path to walk along: a slash at the end stands for a last dot. -/
def stops (path : String) : List String :=
  let pieces := Path.pieces path
  let names := pieces.filter (· ≠ "")
  if pieces.getLast? = some "" ∧ names ≠ [] then names ++ ["."] else names

/-- Where a walk along real directories ends. -/
inductive Leg where
  | arrived (l : Location)
  | refused (r : Refusal)
  /-- A link in a directory, its target, and the names that are left. -/
  | turn (around : Location) (target : String) (rest : List String)

/-- Walks from a directory as far as no link has to be followed. -/
def leg (fs : FileSystem) (follow : Bool) (start : Location) : List String → Leg
  | [] => .arrived start
  | name :: rest =>
    if name = "." then leg fs follow start rest
    else if name = ".." then leg fs follow start.tail rest
    else if maxNameSize < name.utf8ByteSize then .refused .nameTooLong
    else match fs.held? (name :: start) with
      | none => .refused .noEntry
      | some (.directory _) => leg fs follow (name :: start) rest
      | some (.link target _) =>
        if rest = [] ∧ follow = false then .arrived (name :: start) else .turn start target rest
      | some _ => if rest = [] then .arrived (name :: start) else .refused .notDirectory

/-- Walks from a directory through names, following at most the given number of links. -/
def walkFrom (fs : FileSystem) (follow : Bool) : Nat → Location → List String → Except Refusal Location
  | budget, start, names =>
    match leg fs follow start names with
    | .arrived l => .ok l
    | .refused r => .error r
    | .turn around target rest =>
      match budget with
      | 0 => .error .tooManyLinks
      | n + 1 =>
        if target = "" then .error .noEntry
        else
          let first := if target.startsWith "/" then [] else around
          walkFrom fs follow n first (stops target ++ rest)

/-- The serial number and location of a directory that a process stands in. -/
structure Place where
  location : Location
  serial : Nat
  deriving DecidableEq, Repr

/-- Whether the directory of a place is still there. -/
def holds (fs : FileSystem) (p : Place) : Bool := fs.directory? p.location = some p.serial

/-- The place of a directory. -/
def placeAt (fs : FileSystem) (l : Location) : Except Refusal Place :=
  match fs.directory? l with
  | some serial => .ok ⟨l, serial⟩
  | none => .error .notDirectory

/-- Walks along a path as written, from a place if the path is not absolute. From a directory that was
removed only its own dot and the directory around it can be reached. -/
def walk (fs : FileSystem) (follow : Bool) (p : Place) (path : String) : Except Refusal Location :=
  if path = "" then .error .noEntry
  else if 4096 ≤ path.utf8ByteSize then .error .nameTooLong
  else if path.startsWith "/" then walkFrom fs follow maxLinks [] (stops path)
  else if fs.holds p then walkFrom fs follow maxLinks p.location (stops path)
  else match (stops path).dropWhile (· = ".") with
    | [] => .error .noEntry
    | name :: rest =>
      if name = ".." ∧ fs.isDirectory p.location.tail then walkFrom fs follow maxLinks p.location.tail rest
      else .error .noEntry

/-- Whether a path leads nowhere but to the place itself. -/
def isHere (path : String) : Bool := path != "" && !path.startsWith "/" && (stops path).all (· = ".")

/-- Whether a path leads to a directory that was removed, in which the process stands. -/
def isGone (fs : FileSystem) (p : Place) (path : String) : Bool := isHere path && !fs.holds p

/-- The place that a path leads to. -/
def enter (fs : FileSystem) (p : Place) (path : String) : Except Refusal Place :=
  if isHere path then .ok p
  else do fs.placeAt (← fs.walk true p path)

/-- What a path leads to, links followed; nothing if it leads nowhere. -/
def lookup (fs : FileSystem) (p : Place) (path : String) : Except Refusal (Option Entry) :=
  if fs.isGone p path then .ok (some (.directory p.serial))
  else match fs.walk true p path with
  | .ok l => .ok (fs.held? l)
  | .error .noEntry | .error .notDirectory | .error .tooManyLinks => .ok none
  | .error r => .error r

/-- The last name of a path to be made or removed. -/
inductive LastName where
  /-- The path has no names: it is the root. -/
  | root
  | dot
  | dots
  /-- A name, and what the directory holds under it. -/
  | named (l : Location) (held : Option Entry)

/-- The directory that names lead to from where a path begins; none if that is a directory that was removed. -/
def directoryOf (fs : FileSystem) (p : Place) (absolute : Bool) (names : List String) :
    Except Refusal (Option Location) := do
  let walked (start : Location) (names : List String) : Except Refusal (Option Location) := do
    let dir ← fs.walkFrom true maxLinks start names
    if fs.isDirectory dir then return some dir else throw .notDirectory
  if absolute then walked [] names
  else if fs.holds p then walked p.location names
  else match names.dropWhile (· = ".") with
    | [] => return none
    | name :: rest =>
      if name = ".." ∧ fs.isDirectory p.location.tail then walked p.location.tail rest else throw .noEntry

/-- The last name of a path to be made or removed, once the directory that it is in has been reached. -/
def lastName (fs : FileSystem) (p : Place) (path : String) : Except Refusal LastName := do
  if path = "" then throw .noEntry
  if 4096 ≤ path.utf8ByteSize then throw .nameTooLong
  let names := (Path.pieces path).filter (· ≠ "")
  let dir ← fs.directoryOf p (path.startsWith "/") names.dropLast
  match names.getLast? with
  | none => return .root
  | some name =>
    if name = "." then return .dot
    if name = ".." then return .dots
    match dir with
    | none => throw .noEntry
    | some dir =>
      if maxNameSize < name.utf8ByteSize then throw .nameTooLong
      return .named (name :: dir) (fs.held? (name :: dir))

/-- Makes the directory that a path names. -/
def makeDirectoryAt (fs : FileSystem) (p : Place) (path : String) : Except Refusal FileSystem := do
  match ← fs.lastName p path with
  | .named l none => return fs.makeDirectory l
  | _ => throw .entryExists

/-- Removes the empty directory that a path names. -/
def removeDirectoryAt (fs : FileSystem) (p : Place) (path : String) : Except Refusal FileSystem := do
  match ← fs.lastName p path with
  | .root => throw .busy
  | .dot => throw .invalid
  | .dots => throw .notEmpty
  | .named l (some (.directory _)) => if fs.names l = [] then return fs.remove l else throw .notEmpty
  | .named _ (some _) => throw .notDirectory
  | .named _ none => throw .noEntry

/-- The bytes of the file that a path leads to. -/
def readAt (fs : FileSystem) (p : Place) (path : String) : Except Refusal ByteArray := do
  match fs.held? (← fs.walk true p path) with
  | some (.file node) => return fs.content node
  | some (.directory _) => throw .isDirectory
  | some (.program _) | some (.device _) | some (.pipe _) => return ByteArray.empty
  | _ => throw .noEntry

end TaskRunner.FileSystem
