import TaskRunner.Failure.Signal
import TaskRunner.FileSystem.Walk
import TaskRunner.Text.Octets

/-!
# What processes share

Processes share the files, the pipes between them, and the descriptions of what they have opened. A
description is reached through the numbers that processes have for it; it keeps how far it has been
read or written, for all of them together. A pipe that no process can write to any more is at its end,
and one that no process can read from breaks those who write to it.

Every operation says what changes; one that has to wait for another process says so.
-/

namespace TaskRunner.Processes

/-- How a process ends. -/
inductive Ending where
  | exited (status : Nat)
  | killed (signal : Nat)
  deriving DecidableEq, Repr

/-- Where a description leads. -/
inductive Channel where
  | file (node : Nat)
  | directory (l : Location)
  /-- The end of a pipe that is read from. -/
  | source (pipe : Nat)
  /-- The end of a pipe that is written to. -/
  | drain (pipe : Nat)
  /-- Both ends of a pipe. -/
  | ends (pipe : Nat)
  /-- What is written is collected. -/
  | sink (index : Nat)
  | device (d : Device)
  deriving DecidableEq, Repr

/-- A number for what has no name, which no file has. -/
def Channel.serial : Channel → Nat
  | .source pipe | .drain pipe | .ends pipe => 4000000000 + pipe
  | _ => 0

/-- What has been opened. -/
structure Description where
  channel : Channel
  offset : Nat
  append : Bool
  reads : Bool
  writes : Bool

/-- A pipe: bytes, those before `start` already read. -/
structure Pipe where
  data : ByteArray
  start : Nat
  /-- How often it was opened to be read. -/
  readers : Nat := 0
  /-- How often it was opened to be written. -/
  writers : Nat := 0

/-- How much of something a process may use: as it is, and as it may be made; none if there is no end. -/
structure Bounds where
  soft : Option Nat
  hard : Option Nat

/-- A process. -/
structure Process where
  parent : Nat
  /-- The numbers of the process for descriptions. -/
  descriptors : Assoc Nat Nat
  /-- The numbers that are not handed on to another program, besides the private ones. -/
  sealed : List Nat := []
  place : FileSystem.Place
  /-- The permissions that new files do not get. -/
  mask : Nat
  ignored : List Nat
  /-- The signals that the process wants to be told of. -/
  caught : List Nat
  /-- Those of them that have come. -/
  arrived : List Nat
  /-- A signal that ends the process. -/
  fatal : Option Nat
  /-- The time that the process waits for. -/
  wake : Option Nat
  ended : Option Ending
  /-- How willing the process is to let others go first. -/
  niceness : Int := 0
  /-- The bounds that are not the usual ones, by their letters. -/
  bounds : Assoc Char Bounds := Assoc.empty

/-- What processes share. -/
structure Kernel where
  files : FileSystem
  descriptions : Array Description
  pipes : Array Pipe
  sinks : Array (Array ByteArray)
  processes : Assoc Nat Process
  nextProcess : Nat
  /-- The pipes that have names, by their nodes. -/
  named : Assoc Nat Nat := Assoc.empty

/-- What comes of an operation that may have to wait. -/
inductive Attempt (α : Type) where
  | done (a : α) (k : Kernel)
  | waiting (k : Kernel)

namespace Kernel

/-! ## Processes and their numbers -/

/-- A process. -/
def process? (k : Kernel) (pid : Nat) : Option Process := k.processes.find? pid

/-- Changes a process. -/
def modifyProcess (k : Kernel) (pid : Nat) (f : Process → Process) : Kernel :=
  match k.process? pid with
  | some p => { k with processes := k.processes.insert pid (f p) }
  | none => k

/-- Where a process stands. -/
def place (k : Kernel) (pid : Nat) : FileSystem.Place := ((k.process? pid).map Process.place).getD ⟨[], 0⟩

/-- The description behind a number of a process. -/
def index? (k : Kernel) (pid descriptor : Nat) : Option Nat :=
  (k.process? pid).bind fun p => p.descriptors.find? descriptor

/-- Gives a process a number for a description. -/
def connect (k : Kernel) (pid descriptor index : Nat) : Kernel :=
  k.modifyProcess pid fun p =>
    { p with descriptors := p.descriptors.insert descriptor index, sealed := p.sealed.filter (· != descriptor) }

/-- Takes a number away from a process. -/
def disconnect (k : Kernel) (pid descriptor : Nat) : Kernel :=
  k.modifyProcess pid fun p => { p with descriptors := p.descriptors.erase descriptor }

/-- A new description. -/
def describe (k : Kernel) (d : Description) : Nat × Kernel :=
  (k.descriptions.size, { k with descriptions := k.descriptions.push d })

/-- Where a number of a process leads. -/
def channel? (k : Kernel) (pid descriptor : Nat) : Option Channel :=
  ((k.index? pid descriptor).bind fun i => k.descriptions[i]?).map Description.channel

/-- Whether a channel does for another one: both ends of a pipe do for one of them. -/
def Channel.does (wanted found : Channel) : Bool :=
  match wanted, found with
  | .source p, .ends q | .drain p, .ends q => p == q
  | wanted, found => wanted == found

/-- Whether a process that has not ended can reach a description that leads to a channel. -/
def isReached (k : Kernel) (channel : Channel) : Bool :=
  let leads (i : Nat) : Bool := match k.descriptions[i]? with
    | some d => Channel.does channel d.channel
    | none => false
  k.processes.toList.any fun (_, p) => p.ended.isNone && p.descriptors.toList.any fun (_, i) => leads i

/-- A new pipe: the description that reads from it, and the one that writes to it. -/
def newPipe (k : Kernel) : Nat × Nat × Kernel :=
  let pipe := k.pipes.size
  let k := { k with pipes := k.pipes.push { data := ByteArray.empty, start := 0 } }
  let (source, k) := k.describe ⟨.source pipe, 0, false, true, false⟩
  let (drain, k) := k.describe ⟨.drain pipe, 0, false, false, true⟩
  (source, drain, k)

/-! ## Signals -/

/-- The signals that end nothing unless a process asks to be told of them. -/
def harmless : List Nat := [0, 17, 18, 19, 20, 21, 22, 23, 28]

/-- The signals that a process can do nothing about. -/
def untrappable : List Nat := [9, 19]

/-- Sends a signal to a process. -/
def post (k : Kernel) (pid signal : Nat) : Kernel :=
  k.modifyProcess pid fun p =>
    if untrappable.contains signal then (if signal = 9 then { p with fatal := p.fatal <|> some signal } else p)
    else if p.caught.contains signal then { p with arrived := p.arrived ++ [signal] }
    else if p.ignored.contains signal ∨ harmless.contains signal then p
    else { p with fatal := p.fatal <|> some signal }

/-- Whether there is a process that a signal can be sent to. -/
def isThere (k : Kernel) (pid : Nat) : Bool := (k.process? pid).isSome

/-! ## Beginning and ending -/

/-- A copy of a process. -/
def fork (k : Kernel) (pid : Nat) : Nat × Kernel :=
  let child := k.nextProcess
  let k := { k with nextProcess := child + 1 }
  match k.process? pid with
  | some p =>
    let copy : Process :=
      { p with parent := pid, caught := [], arrived := [], fatal := none, wake := none, ended := none }
    (child, { k with processes := k.processes.insert child copy })
  | none => (child, k)

/-- The numbers from here on are for what a program does itself; they are not handed on to another program. -/
def firstPrivate : Nat := 1000

/-- A process becomes another program. -/
def exec (k : Kernel) (pid : Nat) : Kernel :=
  k.modifyProcess pid fun p =>
    let handedOn (n : Nat) : Bool := n < firstPrivate && !p.sealed.contains n
    { p with
      caught := [], arrived := [], sealed := [], descriptors := ⟨p.descriptors.toList.filter fun (n, _) => handedOn n⟩ }

/-- The number of the process that takes over what has lost its parent. -/
def firstProcess : Nat := 1

/-- Ends a process. It stays known until the process that began it asks how it ended. -/
def finish (k : Kernel) (pid : Nat) (e : Ending) : Kernel :=
  let orphaned := k.processes.toList.filterMap fun (n, p) =>
    if n = pid then
      if p.parent = firstProcess then none
      else some (n, { p with ended := some e, descriptors := Assoc.empty, wake := none })
    else if p.parent = pid then
      if p.ended.isSome then none else some (n, { p with parent := firstProcess })
    else some (n, p)
  { k with processes := ⟨orphaned⟩ }

/-- How a process ended that another one began; it is forgotten then. -/
def reap (k : Kernel) (child : Nat) : Attempt Ending :=
  match k.process? child with
  | none => .done (.exited 127) k
  | some p =>
    match p.ended with
    | some e => .done e { k with processes := k.processes.erase child }
    | none => .waiting k

/-! ## Opening -/

/-- How a file is opened. -/
structure OpenMode where
  reads : Bool := false
  writes : Bool := false
  append : Bool := false
  truncate : Bool := false
  create : Bool := false
  /-- Whether the file has to be a new one. -/
  exclusive : Bool := false

/-- To be read. -/
def OpenMode.input : OpenMode := { reads := true }

/-- To be written anew. -/
def OpenMode.output : OpenMode := { writes := true, truncate := true, create := true }

/-- To be added to. -/
def OpenMode.addition : OpenMode := { writes := true, append := true, create := true }

/-- The names that a path of bytes is made of, as a path of text. -/
def textPath (path : String) : String := Text.Octets.toText path

/-- Where a file is created that a path names, links to what is not there followed. -/
def creationPlace (fs : FileSystem) (p : FileSystem.Place) : Nat → String → Except Refusal Location
  | 0, _ => .error .tooManyLinks
  | n + 1, path => do
    if path.endsWith "/" then throw .isDirectory
    match ← fs.lastName p path with
    | .named l none => return l
    | .named l (some (.link target _)) =>
      creationPlace fs ⟨l.tail, (fs.directory? l.tail).getD 0⟩ n target
    | .named _ (some _) => throw .entryExists
    | _ => throw .isDirectory

/-- The number that a path names which stands for a number of the process itself. -/
def ownDescriptor? (path : String) : Option Nat :=
  match path with
  | "/dev/stdin" => some 0
  | "/dev/stdout" => some 1
  | "/dev/stderr" => some 2
  | _ =>
    if path.startsWith "/dev/fd/" then (path.drop 8).toString.toNat?
    else if path.startsWith "/proc/self/fd/" then (path.drop 14).toString.toNat?
    else none

/-- The pipe of a node, a new one if it has none yet. -/
def pipeOf (k : Kernel) (node : Nat) : Nat × Kernel :=
  match k.named.find? node with
  | some pipe => (pipe, k)
  | none =>
    let pipe := k.pipes.size
    (pipe, { k with pipes := k.pipes.push { data := ByteArray.empty, start := 0 }, named := k.named.insert node pipe })

/-- A description of the ends of a pipe that has a name. -/
def openPipe (k : Kernel) (mode : OpenMode) (node : Nat) : Nat × Kernel :=
  let (pipe, k) := k.pipeOf node
  let channel : Channel := if mode.reads ∧ mode.writes then .ends pipe else if mode.writes then .drain pipe else .source pipe
  let count (b : Bool) : Nat := if b then 1 else 0
  let opened (p : Pipe) : Pipe :=
    { p with readers := p.readers + count mode.reads, writers := p.writers + count mode.writes }
  { k with pipes := k.pipes.modify pipe opened }.describe ⟨channel, 0, false, mode.reads, mode.writes⟩

/-- A description of what an entry holds. -/
def openEntry (k : Kernel) (mode : OpenMode) (l : Location) (e : Entry) : Except Refusal (Nat × Kernel) :=
  let d (channel : Channel) : Description := ⟨channel, 0, mode.append, mode.reads, mode.writes⟩
  match e with
  | .directory _ => if mode.writes ∨ mode.create then .error .isDirectory else .ok (k.describe (d (.directory l)))
  | .file node =>
    let k := if mode.truncate then { k with files := k.files.write node ByteArray.empty } else k
    .ok (k.describe (d (.file node)))
  | .device device => .ok (k.describe (d (.device device)))
  | .pipe node => .ok (k.openPipe mode node)
  | .program _ => if mode.writes then .error .busy else .ok (k.describe (d (.device .null)))
  | .link _ _ => .error .tooManyLinks

/-- What whoever has opened a pipe waits for: that its other end is opened as well. -/
structure Partner where
  pipe : Nat
  /-- Whether it is the end that is written to. -/
  writes : Bool
  /-- How often that end had been opened. -/
  count : Nat

/-- What has to be waited for after a description was made. -/
def partner? (k : Kernel) (i : Nat) : Option Partner :=
  match k.descriptions[i]? with
  | some ⟨.source pipe, _, _, _, _⟩ =>
    if k.isReached (.drain pipe) then none else some ⟨pipe, true, ((k.pipes[pipe]?).map Pipe.writers).getD 0⟩
  | some ⟨.drain pipe, _, _, _, _⟩ =>
    if k.isReached (.source pipe) then none else some ⟨pipe, false, ((k.pipes[pipe]?).map Pipe.readers).getD 0⟩
  | _ => none

/-- Whether what is waited for has come. -/
def hasCome (k : Kernel) (p : Partner) : Bool :=
  match k.pipes[p.pipe]? with
  | some pipe => p.count < (if p.writes then pipe.writers else pipe.readers)
  | none => true

/-- Opens a file. -/
def openFile (k : Kernel) (pid : Nat) (mode : OpenMode) (path : String) : Except Refusal (Nat × Kernel) := do
  let path := textPath path
  match ownDescriptor? path with
  | some descriptor =>
    match k.index? pid descriptor with
    | none => throw .noEntry
    | some i =>
      match k.descriptions[i]? with
      | some ⟨.file node, _, _, _, _⟩ => k.openEntry mode [] (.file node)
      | _ => return (i, k)
  | none =>
    let place := k.place pid
    match k.files.walk true place path with
    | .ok l =>
      if mode.exclusive then throw .entryExists
      match k.files.held? l with
      | some e => k.openEntry mode l e
      | none => throw .noEntry
    | .error .noEntry =>
      if ¬ mode.create then throw .noEntry
      let l ← creationPlace k.files place 40 path
      let mask := ((k.process? pid).map Process.mask).getD 0
      let files := k.files.makeFile l (0o666 &&& (0o777 ^^^ mask)) ByteArray.empty
      let k := { k with files }
      match k.files.held? l with
      | some e => k.openEntry { mode with truncate := false } l e
      | none => throw .noEntry
    | .error r => throw r

/-! ## Reading and writing -/

/-- How many bytes a pipe holds before those who write to it have to wait. -/
def pipeSize : Nat := 65536

/-- Moves a description on. -/
def advance (k : Kernel) (i n : Nat) : Kernel :=
  { k with descriptions := k.descriptions.modify i fun d => { d with offset := d.offset + n } }

/-- Takes bytes out of a pipe: as many as are to be taken of those that are there. -/
def takeFromPipe (k : Kernel) (pipe : Nat) (count : ByteArray → Nat → Nat) : Attempt (Except Refusal ByteArray) :=
  match k.pipes[pipe]? with
  | none => .done (.error .badDescriptor) k
  | some p =>
    if p.start < p.data.size then
      let stop := min p.data.size (p.start + count p.data p.start)
      let bytes := p.data.extract p.start stop
      let rest : Pipe := if stop = p.data.size then { p with data := ByteArray.empty, start := 0 } else { p with start := stop }
      .done (.ok bytes) { k with pipes := k.pipes.set! pipe rest }
    else if k.isReached (.drain pipe) then .waiting k
    else .done (.ok ByteArray.empty) k

/-- Reads what a description leads to; `count` says how many bytes to take, given those there are and where they
begin. -/
def readAt (k : Kernel) (i : Nat) (count : ByteArray → Nat → Nat) (most : Nat) : Attempt (Except Refusal ByteArray) :=
  match k.descriptions[i]? with
  | none => .done (.error .badDescriptor) k
  | some d =>
    if ¬ d.reads then .done (.error .badDescriptor) k
    else match d.channel with
      | .file node =>
        let content := k.files.content node
        let stop := min content.size (d.offset + count content d.offset)
        .done (.ok (content.extract d.offset stop)) (k.advance i (stop - d.offset))
      | .directory _ => .done (.error .isDirectory) k
      | .source pipe | .ends pipe => k.takeFromPipe pipe count
      | .device .null => .done (.ok ByteArray.empty) k
      | .device .random =>
        let bytes := (List.range (min most pipeSize)).map fun n => ((k.files.clock / 1000 + n) * 2654435761 / 65536).toUInt8
        .done (.ok ⟨bytes.toArray⟩) { k with files := k.files.tick }
      | .device _ => .done (.ok ⟨Array.replicate (min most pipeSize) 0⟩) k
      | .drain _ | .sink _ => .done (.error .badDescriptor) k

/-- The bytes of a file with some of them put at a place. -/
def overwrite (content : ByteArray) (offset : Nat) (bytes : ByteArray) : ByteArray :=
  if offset = content.size then content ++ bytes
  else
    let before := content.extract 0 offset
    let gap : ByteArray := ⟨Array.replicate (offset - content.size) 0⟩
    before ++ gap ++ bytes ++ content.extract (offset + bytes.size) content.size

/-- Writes to what a description leads to. -/
def writeAt (k : Kernel) (pid i : Nat) (bytes : ByteArray) : Attempt (Except Refusal Unit) :=
  match k.descriptions[i]? with
  | none => .done (.error .badDescriptor) k
  | some d =>
    if ¬ d.writes then .done (.error .badDescriptor) k
    else match d.channel with
      | .file node =>
        let content := k.files.content node
        let offset := if d.append then content.size else d.offset
        let k := { k with files := k.files.write node (overwrite content offset bytes) }
        let stop := offset + bytes.size
        .done (.ok ()) { k with descriptions := k.descriptions.modify i fun d => { d with offset := stop } }
      | .drain pipe | .ends pipe =>
        if ¬ k.isReached (.source pipe) then .done (.error .brokenPipe) (k.post pid 13)
        else match k.pipes[pipe]? with
          | none => .done (.error .badDescriptor) k
          | some p =>
            if pipeSize ≤ p.data.size - p.start then .waiting k
            else
              let k := { k with pipes := k.pipes.set! pipe { p with data := ByteArray.empty, start := 0 } }
              .done (.ok ()) { k with pipes := k.pipes.set! pipe { p with data := p.data ++ bytes } }
      | .sink n => .done (.ok ()) { k with sinks := k.sinks.modify n fun chunks => chunks.push bytes }
      | .device .full => .done (.error .noSpace) k
      | .device _ => .done (.ok ()) k
      | .source _ | .directory _ => .done (.error .badDescriptor) k

/-- Moves a file back by some bytes that were read too many; nothing else can be moved back. -/
def giveBack (k : Kernel) (pid descriptor n : Nat) : Kernel :=
  match k.index? pid descriptor with
  | none => k
  | some i =>
    { k with descriptions := k.descriptions.modify i fun d =>
        match d.channel with
        | .file _ => { d with offset := d.offset - n }
        | _ => d }

/-- The file that a descriptor stands for. -/
def fileOf? (k : Kernel) (pid descriptor : Nat) : Option Nat :=
  match ((k.index? pid descriptor).bind fun i => k.descriptions[i]?).map Description.channel with
  | some (.file node) => some node
  | _ => none

/-- Goes to a place in the file that a descriptor stands for. -/
def goTo (k : Kernel) (pid descriptor offset : Nat) : Kernel :=
  match k.index? pid descriptor with
  | none => k
  | some i => { k with descriptions := k.descriptions.modify i fun d => { d with offset } }

/-- Makes the file that a descriptor stands for shorter or longer. -/
def resize (k : Kernel) (pid descriptor size : Nat) : Kernel :=
  match k.fileOf? pid descriptor with
  | none => k
  | some node =>
    let content := k.files.content node
    let kept := content.extract 0 (min size content.size)
    let filled := (List.replicate (size - kept.size) (0 : UInt8)).foldl ByteArray.push kept
    { k with files := k.files.write node filled }

/-- What has been collected in a sink. -/
def collected (k : Kernel) (sink : Nat) : ByteArray :=
  ((k.sinks[sink]?).getD #[]).foldl (· ++ ·) ByteArray.empty

end Kernel

end TaskRunner.Processes
