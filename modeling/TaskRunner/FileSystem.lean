import TaskRunner.Assoc
import TaskRunner.Path

/-!
# The tree of files

Every location but the root may hold an entry: a directory, a file, a symbolic link with its target as
written, a program, a pipe with a name, or a device. A directory, a file, a link and a pipe have a node with what
they hold besides names: bytes, permissions, and the times of the last change and of the last use. A directory that was removed and made again has
another node, and two locations may share the node of one file. Time moves on with every change.
-/

namespace TaskRunner

/-- What a location can hold that is neither kept nor stored. -/
inductive Device where
  /-- Takes everything and gives nothing. -/
  | null
  /-- Gives zero bytes without end. -/
  | zero
  /-- Gives zero bytes without end, and takes nothing. -/
  | full
  /-- Gives bytes that nobody can tell. -/
  | random
  deriving DecidableEq, Repr

/-- What a location holds. -/
inductive Entry where
  | directory (node : Nat)
  | file (node : Nat)
  | link (target : String) (node : Nat)
  /-- A file that can be executed, known by the name of what it does. -/
  | program (name : String)
  | device (d : Device)
  /-- A pipe that has a name. -/
  | pipe (node : Nat)
  deriving DecidableEq, Repr

/-- Why an operation on files or processes is refused. -/
inductive Refusal where
  | noEntry
  | noPermission
  | entryExists
  | notDirectory
  | isDirectory
  | invalid
  | nameTooLong
  | notEmpty
  | tooManyLinks
  | busy
  /-- A file without a form in which it can be executed. -/
  | notExecutable
  | badDescriptor
  | noSpace
  | brokenPipe
  | noProcess
  | notPermitted
  deriving DecidableEq, Repr

/-- What a file or a directory has besides its names. -/
structure Node where
  content : ByteArray
  /-- The permissions, in the order of their bits. -/
  mode : Nat
  /-- When it was last changed. -/
  modified : Nat
  /-- When it was last used, as far as anybody has said so. -/
  accessed : Nat

/-- The entries of every location but the root, the nodes, and the number of the next node. -/
structure FileSystem where
  entries : Assoc Location Entry
  nodes : Assoc Nat Node
  fresh : Nat
  /-- The time, in billionths of a second. -/
  clock : Nat

namespace Entry

/-- The node of an entry. -/
def node? : Entry → Option Nat
  | .directory node | .file node | .link _ node | .pipe node => some node
  | .program _ | .device _ => none

end Entry

namespace FileSystem

/-- The permissions of a directory that nothing is said about. -/
def directoryMode : Nat := 0o755

/-- The permissions of a file that nothing is said about. -/
def fileMode : Nat := 0o644

/-- The time at which everything begins: the beginning of a year. -/
def beginning : Nat := 1735689600 * 1000000000

/-- The tree that holds only the root. -/
def empty : FileSystem where
  entries := Assoc.empty
  nodes := Assoc.empty.insert 0 ⟨ByteArray.empty, directoryMode, beginning, beginning⟩
  fresh := 1
  clock := beginning

/-- What a location holds; the root is a directory. -/
def held? (fs : FileSystem) : Location → Option Entry
  | [] => some (.directory 0)
  | l => fs.entries.find? l

/-- The node of the directory at a location, if the location holds one. -/
def directory? (fs : FileSystem) (l : Location) : Option Nat :=
  match fs.held? l with
  | some (.directory node) => some node
  | _ => none

/-- Whether a location holds a directory. -/
def isDirectory (fs : FileSystem) (l : Location) : Bool := (fs.directory? l).isSome

/-- The bytes of a node. -/
def content (fs : FileSystem) (node : Nat) : ByteArray := ((fs.nodes.find? node).map Node.content).getD ByteArray.empty

/-- Moves time on. -/
def tick (fs : FileSystem) : FileSystem := { fs with clock := fs.clock + 1000 }

/-- Puts an entry at a location. -/
def put (fs : FileSystem) (l : Location) (e : Entry) : FileSystem :=
  { fs with entries := fs.entries.insert l e }

/-- Notes that the directory around a location was changed. -/
def touchAround (fs : FileSystem) (l : Location) : FileSystem :=
  match fs.directory? l.tail with
  | some node =>
    match fs.nodes.find? node with
    | some n => { fs with nodes := fs.nodes.insert node { n with modified := fs.clock } }
    | none => fs
  | none => fs

/-- Makes a new node. -/
def newNode (fs : FileSystem) (mode : Nat) (bytes : ByteArray) : Nat × FileSystem :=
  let fs := fs.tick
  (fs.fresh, { fs with nodes := ⟨(fs.fresh, ⟨bytes, mode, fs.clock, fs.clock⟩) :: fs.nodes.toList⟩, fresh := fs.fresh + 1 })

/-- Makes a new directory at a location. -/
def makeDirectory (fs : FileSystem) (l : Location) : FileSystem :=
  let (node, fs) := fs.newNode directoryMode ByteArray.empty
  (fs.put l (.directory node)).touchAround l

/-- Makes a new file at a location. -/
def makeFile (fs : FileSystem) (l : Location) (mode : Nat) (bytes : ByteArray) : FileSystem :=
  let (node, fs) := fs.newNode mode bytes
  (fs.put l (.file node)).touchAround l

/-- Makes a new pipe at a location. -/
def makePipe (fs : FileSystem) (l : Location) (mode : Nat) : FileSystem :=
  let (node, fs) := fs.newNode mode ByteArray.empty
  (fs.put l (.pipe node)).touchAround l

/-- Makes a new link at a location. -/
def makeLink (fs : FileSystem) (l : Location) (target : String) : FileSystem :=
  let (node, fs) := fs.newNode 0o777 ByteArray.empty
  (fs.put l (.link target node)).touchAround l

/-- Puts a file with the given bytes at a location. -/
def putFile (fs : FileSystem) (l : Location) (bytes : ByteArray) : FileSystem := fs.makeFile l fileMode bytes

/-- Changes what a node has. -/
def modifyNode (fs : FileSystem) (node : Nat) (f : Node → Node) : FileSystem :=
  match fs.nodes.find? node with
  | some n => { fs with nodes := fs.nodes.insert node (f n) }
  | none => fs

/-- Puts the bytes of a node. -/
def write (fs : FileSystem) (node : Nat) (bytes : ByteArray) : FileSystem :=
  let fs := fs.tick
  fs.modifyNode node fun n => { n with content := bytes, modified := fs.clock }

/-- Removes what a location holds. -/
def remove (fs : FileSystem) (l : Location) : FileSystem :=
  ({ fs with entries := fs.entries.erase l } : FileSystem).tick.touchAround l

/-- The names in the directory at a location, in order of creation. -/
def names (fs : FileSystem) (l : Location) : List String :=
  fs.entries.keys.filterMap fun
    | name :: around => if around = l then some name else none
    | [] => none

/-- The locations on the way to a location, itself included, that hold no directory are given one. -/
def makeDirectories (fs : FileSystem) : Location → FileSystem
  | [] => fs
  | name :: around =>
    let fs := fs.makeDirectories around
    match fs.held? (name :: around) with
    | none => fs.makeDirectory (name :: around)
    | some _ => fs

/-- The locations of all links. -/
def links (fs : FileSystem) : List Location :=
  fs.entries.toList.filterMap fun
    | (l, .link _ _) => some l
    | _ => none

/-- How many locations share a node. -/
def linkCount (fs : FileSystem) (node : Nat) : Nat := (fs.entries.values.filter fun e => e.node? == some node).length

end FileSystem

end TaskRunner
