import TaskRunner.FileSystem.Walk

/-!
# What is known about an entry

The kind, the permissions, the size, the number of names and the time of the last change of what a
location holds.
-/

namespace TaskRunner.FileSystem

/-- What kind of thing an entry is. -/
inductive Kind where
  | directory
  | file
  | link (target : String)
  | device (d : Device)
  | pipe
  deriving DecidableEq, Repr

/-- What is known about an entry. -/
structure Info where
  kind : Kind
  /-- A number that no other entry has, but for other names of the same file. -/
  serial : Nat
  mode : Nat
  size : Nat
  /-- How many names it has. -/
  names : Nat
  /-- When it was changed, in billionths of a second. -/
  modified : Nat
  /-- When it was used. -/
  accessed : Nat

/-- When something was used, or when it was changed. -/
def Info.time (i : Info) (used : Bool) : Nat := if used then i.accessed else i.modified

/-- The size of a directory. -/
def directorySize : Nat := 4096

/-- The size of a program. -/
def programSize : Nat := 100000

/-- The serial number of an entry without a node: one for every location. -/
def locationSerial (l : Location) : Nat :=
  1000000 + l.foldl (fun n name => name.foldl (fun n c => (n * 31 + c.toNat) % 100000007) (n * 37 + 1)) 7

/-- What is known about an entry at a location. -/
def infoOf (fs : FileSystem) (l : Location) (e : Entry) : Info :=
  match e with
  | .directory node =>
    let n := (fs.nodes.find? node).getD ⟨ByteArray.empty, directoryMode, beginning, beginning⟩
    let inner := (fs.names l).filter fun name => fs.isDirectory (name :: l)
    ⟨.directory, node, n.mode, directorySize, 2 + inner.length, n.modified, n.accessed⟩
  | .file node =>
    let n := (fs.nodes.find? node).getD ⟨ByteArray.empty, fileMode, beginning, beginning⟩
    ⟨.file, node, n.mode, n.content.size, max 1 (fs.linkCount node), n.modified, n.accessed⟩
  | .link target node =>
    let n := (fs.nodes.find? node).getD ⟨ByteArray.empty, 0o777, beginning, beginning⟩
    ⟨.link target, node, n.mode, target.utf8ByteSize, max 1 (fs.linkCount node), n.modified, n.accessed⟩
  | .program _ => ⟨.file, locationSerial l, 0o755, programSize, 1, beginning, beginning⟩
  | .device d => ⟨.device d, locationSerial l, 0o666, 0, 1, beginning, beginning⟩
  | .pipe node =>
    let n := (fs.nodes.find? node).getD ⟨ByteArray.empty, 0o600, beginning, beginning⟩
    ⟨.pipe, node, n.mode, 0, max 1 (fs.linkCount node), n.modified, n.accessed⟩

/-- A location that nothing is at. -/
def nowhere : Location := ["\x00"]

/-- What is known about what a path leads to. A directory that was removed is nowhere and has no names. -/
def info (fs : FileSystem) (follow : Bool) (p : Place) (path : String) : Except Refusal (Location × Info) := do
  if fs.isGone p path then
    let n := (fs.nodes.find? p.serial).getD ⟨ByteArray.empty, directoryMode, beginning, beginning⟩
    return (nowhere, ⟨.directory, p.serial, n.mode, directorySize, 0, n.modified, n.accessed⟩)
  let l ← fs.walk follow p path
  match fs.held? l with
  | some e => return (l, fs.infoOf l e)
  | none => throw .noEntry

end TaskRunner.FileSystem
