import TaskRunner.Failure
import TaskRunner.Processes.Executable
import TaskRunner.Tools.Quoting

/-!
# What programs are made of

A program reads its arguments, files and input, writes to its output and says on the error output what is
wrong, always with its name. What it writes is held back until there is a block of it or the program ends.
Every text here is a row of bytes.
-/

namespace TaskRunner.Tools

open Processes

/-- What a program knows. -/
structure State where
  /-- The name that it was started under. -/
  zero : String
  environment : List (String × String)
  /-- What has been written and not handed on. -/
  out : ByteArray
  /-- The next descriptor for a file. -/
  nextDescriptor : Nat
  /-- The status of the program if it cannot write. -/
  failure : Nat
  /-- What the program says then. -/
  unwritten : Refusal → String
  /-- Whether the program has read its input or tried to. -/
  usesInput : Bool

/-- A computation of a program, which may stop with a status. -/
abbrev Tool (α : Type) := Proc Nat State α

namespace Tool

/-! ## Output -/

/-- The name of the running program. -/
def name : Tool String := return (← get).zero

/-- The locale of the running program. -/
def locale : Tool Text.Locale := do
  let s ← get
  return .ofEnvironment fun name => (s.environment.find? fun (n, _) => n == name).map Prod.snd

/-- Writes on the error output, names quoted. -/
def note (s : String) : Tool Unit := do
  let s ← if Text.Octets.isPlain s then pure s else (Quoting.written · s) <$> locale
  discard <| Proc.write 2 (Text.Octets.toBytes s)

/-- Hands on what has been written. -/
def flush : Tool Unit := do
  let s ← get
  if s.out.isEmpty then return
  set { s with out := ByteArray.empty }
  match ← Proc.write 1 s.out with
  | .ok () => return
  | .error r =>
    note (s.zero ++ ": " ++ s.unwritten r ++ "\n")
    throw s.failure

/-- Says what is wrong, after what has been written. -/
def say (message : String) : Tool Unit := do
  flush
  note ((← name) ++ ": " ++ message ++ "\n")

/-- Stops, saying what is wrong. -/
def fail {α : Type} (status : Nat) (message : String) : Tool α := do
  say message
  throw status

/-- The line that tells where to find out more. -/
def hint : Tool Unit := do note ("Try '" ++ (← name) ++ " --help' for more information.\n")

/-- Stops because of how the program was called. -/
def misuse {α : Type} (status : Nat) (message : String) : Tool α := do
  say message
  hint
  throw status

/-- How much is held back. -/
def bufferSize : Nat := 4096

/-- Writes bytes. -/
def emitBytes (bytes : ByteArray) : Tool Unit := do
  modify fun s => { s with out := s.out ++ bytes }
  if bufferSize ≤ (← get).out.size then flush

/-- Writes a text, names quoted. -/
def emit (s : String) : Tool Unit := do
  let s ← if Text.Octets.isPlain s then pure s else (Quoting.written · s) <$> locale
  modify fun st =>
    let out := st.out
    { st with out := s.foldl (fun bytes c => bytes.push c.toNat.toUInt8) out }
  if bufferSize ≤ (← get).out.size then flush

/-- Sets what is said if the program cannot write. -/
def ifUnwritten (message : Refusal → String) : Tool Unit := modify fun s => { s with unwritten := message }

/-- Writes a line. -/
def emitLine (s : String) : Tool Unit := emit (s.push '\n')

/-! ## Files -/

/-- A descriptor that nothing else uses. -/
def newDescriptor : Tool Nat := modifyGet fun s => (s.nextDescriptor, { s with nextDescriptor := s.nextDescriptor + 1 })

/-- Opens a file to be read; a hyphen is the input. -/
def openInput (path : String) : Tool (Except Refusal Nat) := do
  if path = "-" then
    modify fun s => { s with usesInput := true }
    return .ok 0
  let d ← newDescriptor
  match ← Proc.openAs d Kernel.OpenMode.input path with
  | .ok () => return .ok d
  | .error r => return .error r

/-- Does what a program does and closes its input if that was read, which fails if it was not open; `title` is what is
named then. -/
def closingInput (title : String) (main : List String → Tool Nat) (args : List String) : Tool Nat := do
  let status ← main args
  let isOpen ← Proc.isOpen 0
  if (← get).usesInput && !isOpen then fail 1 (title ++ ": " ++ Refusal.badDescriptor.message)
  else return status

/-- Gives up a descriptor of a file; the input stays. -/
def closeInput (descriptor : Nat) : Tool Unit := do if descriptor ≠ 0 then Proc.close descriptor

/-- The bytes of a file; those of the input for a hyphen. -/
def contentOf (path : String) : Tool (Except Refusal ByteArray) := do
  match ← openInput path with
  | .error r => return .error r
  | .ok d =>
    let found ← Proc.readAll d
    closeInput d
    return found

/-- Puts bytes in a file. -/
def writeFile (mode : Kernel.OpenMode) (path : String) (bytes : ByteArray) : Tool (Except Refusal Unit) := do
  let d ← newDescriptor
  match ← Proc.openAs d mode path with
  | .error r => return .error r
  | .ok () =>
    let written ← if bytes.isEmpty then pure (.ok ()) else Proc.write d bytes
    Proc.close d
    return written

/-- The value of a variable of the environment. -/
def setting (name : String) : Tool (Option String) := return ((← get).environment.find? fun (n, _) => n == name).map Prod.snd

/-! ## Lines -/

/-- Lines of bytes from a place on, the last first, and the place where an unfinished one begins. -/
def cutLines (ending : UInt8) (bytes : ByteArray) : Nat → Nat → Nat → List ByteArray → List ByteArray × Nat
  | 0, _, start, read => (read, start)
  | n + 1, place, start, read =>
    if place < bytes.size then
      if bytes.get! place == ending then cutLines ending bytes n (place + 1) (place + 1) (bytes.extract start place :: read)
      else cutLines ending bytes n (place + 1) start read
    else (read, start)

/-- The lines of bytes, without their ends, and whether the last one has one. -/
def linesOf (ending : UInt8) (bytes : ByteArray) : List ByteArray × Bool :=
  let (read, start) := cutLines ending bytes (bytes.size + 1) 0 0 []
  if start < bytes.size then ((bytes.extract start bytes.size :: read).reverse, false) else (read.reverse, true)

/-- Whether lines that follow are wanted, and what is known by now. -/
inductive Next (α : Type) where
  | more (a : α)
  | enough (a : α)

/-- Does something for lines that have been cut, until it is enough: the lines that are left then. -/
def overLines {α : Type} (action : α → ByteArray → Bool → Tool (Next α)) : α → List ByteArray →
    Tool (α × Option (List ByteArray))
  | a, [] => return (a, none)
  | a, line :: rest => do
    Proc.step
    match ← action a line true with
    | .more a => overLines action a rest
    | .enough a => return (a, some rest)

/-- What became of the lines of a descriptor: what is known, how many bytes were read that are not used, and why nothing
more can be read. -/
structure Passed (α : Type) where
  known : α
  unused : Nat
  refused : Option Refusal

/-- Does something for every line of what is held and of what a descriptor has after it, told whether the line has an
end, until it is enough. -/
def eachLineFrom {α : Type} (descriptor : Nat) (ending : UInt8) (action : α → ByteArray → Bool → Tool (Next α)) :
    Nat → α → ByteArray → Tool (Passed α)
  | 0, a, _ => return ⟨a, 0, none⟩
  | n + 1, a, held => do
    let (read, start) := cutLines ending held (held.size + 1) 0 0 []
    match ← overLines action a read.reverse with
    | (a, some rest) => return ⟨a, rest.foldl (fun n line => n + line.size + 1) (held.size - start), none⟩
    | (a, none) =>
      let left := held.extract start held.size
      match ← Proc.read descriptor Proc.blockSize with
      | .error r => return ⟨a, 0, some r⟩
      | .ok bytes =>
        if bytes.isEmpty then
          if left.isEmpty then return ⟨a, 0, none⟩
          match ← action a left false with
          | .more a | .enough a => return ⟨a, 0, none⟩
        else eachLineFrom descriptor ending action n a (left ++ bytes)

/-- Does something for every line of a descriptor; what was read of a file and not used is given back if that is
wanted. -/
def eachLine {α : Type} (descriptor : Nat) (ending : UInt8) (givesBack : Bool) (a : α)
    (action : α → ByteArray → Bool → Tool (Next α)) : Tool (Passed α) := do
  let p ← eachLineFrom descriptor ending action Proc.endless a ByteArray.empty
  if givesBack ∧ p.unused ≠ 0 then Proc.change fun pid k => k.giveBack pid descriptor p.unused
  return p

/-! ## Programs -/

/-- The program that a computation of its status is, given its arguments; `failure` is its status if it cannot write. -/
def program (failure : Nat) (main : List String → Tool Nat) (image : Image) : Program :=
  let ended (status : Nat) : Program := .ended (.exited (status % 256))
  let whole : Tool Nat := do
    let status ← tryCatch (main image.args) fun status => pure status
    flush
    return status
  Proc.program whole ⟨image.zero, image.environment, ByteArray.empty, Kernel.firstPrivate, failure, fun r => "write error: " ++ r.message,
      false⟩
    (fun status _ => ended status)
    (fun status _ => ended status)

/-- Whether two descriptors stand for the same file. -/
def isSameFile (a b : Nat) : Tool Bool := Proc.observe fun pid k =>
  let channel (n : Nat) : Option Channel := ((k.index? pid n).bind fun i => k.descriptions[i]?).map Description.channel
  match channel a, channel b with
  | some (.file m), some (.file n) => m == n
  | _, _ => false

/-- Does something for every item; the status is the greatest one. -/
def worst {α : Type} (action : α → Tool Nat) : List α → Tool Nat
  | [] => return 0
  | a :: rest => do
    let status ← action a
    return max status (← worst action rest)

end Tool

end TaskRunner.Tools
