import TaskRunner.Processes.Kernel

/-!
# Programs of processes

A program is what a process still has to do: it asks for an operation on what processes share and goes
on with the answer, begins another process, becomes another program, or ends. `Proc` writes such
programs as computations with a state of their own, which may stop before their end.
-/

namespace TaskRunner.Processes

/-- A program, with what it is told when it is started. -/
structure Image where
  program : String
  /-- The name it is started under. -/
  zero : String
  args : List String
  environment : List (String × String)

mutual

/-- What a process still has to do. -/
inductive Program where
  | ended (e : Ending)
  /-- An operation of the process with a number. -/
  | call (operation : Nat → Kernel → Outcome)
  /-- Another process begins; it is told by its number. -/
  | spawn (child : Program) (next : Nat → Program)
  | become (image : Image)

/-- What comes of an operation. -/
inductive Outcome where
  | next (k : Kernel) (p : Program)
  /-- The process has to wait, and will ask again. -/
  | blocked (k : Kernel)

end

instance : Inhabited Program := ⟨.ended (.exited 0)⟩

/-- A computation of a process on a state, which may stop with something before its end. -/
def Proc (ε σ α : Type) : Type := σ → (α → σ → Program) → (ε → σ → Program) → Program

namespace Proc

variable {ε σ α β : Type}

instance : Monad (Proc ε σ) where
  pure a := fun s done _ => done a s
  bind m f := fun s done stop => m s (fun a s => f a s done stop) stop

instance : MonadStateOf σ (Proc ε σ) where
  get := fun s done _ => done s s
  set s := fun _ done _ => done () s
  modifyGet f := fun s done _ => let (a, s) := f s; done a s

instance : MonadExceptOf ε (Proc ε σ) where
  throw e := fun s _ stop => stop e s
  tryCatch m handle := fun s done stop => m s done fun e s => handle e s done stop

instance : Inhabited (Proc ε σ α) := ⟨fun _ _ _ => .ended (.exited 0)⟩

/-- The program of a computation, given what follows it. -/
def program (m : Proc ε σ α) (s : σ) (done : α → σ → Program) (stop : ε → σ → Program) : Program := m s done stop

/-- A computation on another state, which may stop with something else. -/
def within {ε' σ' : Type} (m : Proc ε' σ' α) (s : σ') (stopped : ε' → σ' → Proc ε σ β) (after : α → σ' → Proc ε σ β) :
    Proc ε σ β := fun s₀ done stop =>
  m s (fun a s => after a s s₀ done stop) (fun e s => stopped e s s₀ done stop)

/-- Ends the process. -/
def finish (e : Ending) : Proc ε σ α := fun _ _ _ => .ended e

/-- Becomes another program. -/
def become (image : Image) : Proc ε σ α := fun _ _ _ => .become image

/-- Begins another process, which starts with the state as it is. -/
def spawn (child : σ → Program) : Proc ε σ Nat := fun s done _ => .spawn (child s) fun n => done n s

/-- An operation that need not wait. -/
def call (f : Nat → Kernel → α × Kernel) : Proc ε σ α := fun s done _ =>
  .call fun pid k => let (a, k) := f pid k; .next k (done a s)

/-- An operation that may have to wait. -/
def await (f : Nat → Kernel → Attempt α) : Proc ε σ α := fun s done _ =>
  .call fun pid k => match f pid k with
    | .done a k => .next k (done a s)
    | .waiting k => .blocked k

/-- Looks at what processes share. -/
def observe (f : Nat → Kernel → α) : Proc ε σ α := call fun pid k => (f pid k, k)

/-- Changes what processes share. -/
def change (f : Nat → Kernel → Kernel) : Proc ε σ Unit := call fun pid k => ((), f pid k)

/-- Changes what processes share, unless that is refused. -/
def attempt (f : Nat → Kernel → Except Refusal (α × Kernel)) : Proc ε σ (Except Refusal α) := call fun pid k =>
  match f pid k with
  | .ok (a, k) => (.ok a, k)
  | .error r => (.error r, k)

/-- Lets time pass for an operation, so that others get a turn. -/
def step : Proc ε σ Unit := call fun _ k => ((), k)

/-! ## Operations -/

/-- The number of the process. -/
def self : Proc ε σ Nat := observe fun pid _ => pid

/-- The files, and the directory that the process stands in. -/
def files : Proc ε σ (FileSystem × FileSystem.Place) := observe fun pid k => (k.files, k.place pid)

/-- Changes the files, unless that is refused. -/
def changeFiles (f : FileSystem → FileSystem.Place → Except Refusal FileSystem) : Proc ε σ (Except Refusal Unit) :=
  attempt fun pid k => (f k.files (k.place pid)).map fun files => ((), { k with files })

/-- Goes to another directory. -/
def enter (path : String) : Proc ε σ (Except Refusal Unit) :=
  attempt fun pid k => (k.files.enter (k.place pid) (Kernel.textPath path)).map fun place =>
    ((), k.modifyProcess pid fun p => { p with place })

/-- Reads at most so many bytes; none at the end. -/
def read (descriptor most : Nat) : Proc ε σ (Except Refusal ByteArray) := await fun pid k =>
  match k.index? pid descriptor with
  | none => .done (.error .badDescriptor) k
  | some i => k.readAt i (fun _ _ => most) most

/-- How many bytes there are up to a byte and with it, from a place on; all that are left if it does not come. -/
def countThrough (bytes : ByteArray) (last : UInt8) : Nat → Nat → Nat → Nat
  | 0, _, read => read
  | n + 1, place, read =>
    if place < bytes.size then
      if bytes.get! place == last then read + 1 else countThrough bytes last n (place + 1) (read + 1)
    else read

/-- Reads up to a byte and with it, or as far as there is something at the moment. -/
def readThrough (descriptor : Nat) (last : UInt8) : Proc ε σ (Except Refusal ByteArray) := await fun pid k =>
  match k.index? pid descriptor with
  | none => .done (.error .badDescriptor) k
  | some i =>
    k.readAt i (fun bytes start => countThrough bytes last bytes.size start 0) 1

/-- Writes bytes. -/
def write (descriptor : Nat) (bytes : ByteArray) : Proc ε σ (Except Refusal Unit) := await fun pid k =>
  match k.index? pid descriptor with
  | none => .done (.error .badDescriptor) k
  | some i => if bytes.isEmpty then .done (.ok ()) k else k.writeAt pid i bytes

/-- Opens a file under a number. Whoever opens one end of a pipe by its name waits until the other one is opened. -/
def openAs (descriptor : Nat) (mode : Kernel.OpenMode) (path : String) : Proc ε σ (Except Refusal Unit) := do
  let opened ← attempt fun pid k => (k.openFile pid mode path).map fun (i, k) =>
    (if (Kernel.ownDescriptor? path).isSome then none else k.partner? i, k.connect pid descriptor i)
  match opened with
  | .error r => return .error r
  | .ok none => return .ok ()
  | .ok (some partner) =>
    await fun _ k => if k.hasCome partner then .done () k else .waiting k
    return .ok ()

/-- Makes a number stand for what another one stands for. -/
def duplicate (source target : Nat) : Proc ε σ (Except Refusal Unit) := attempt fun pid k =>
  match k.index? pid source with
  | some i => .ok ((), k.connect pid target i)
  | none => .error .badDescriptor

/-- Gives up a number. -/
def close (descriptor : Nat) : Proc ε σ Unit := change fun pid k => k.disconnect pid descriptor

/-- Keeps a number from other programs that the process becomes. -/
def withhold (descriptor : Nat) : Proc ε σ Unit := change fun pid k =>
  k.modifyProcess pid fun p => { p with sealed := descriptor :: p.sealed }

/-- Whether a number stands for something. -/
def isOpen (descriptor : Nat) : Proc ε σ Bool := observe fun pid k => (k.index? pid descriptor).isSome

/-- Makes a pipe, its ends under two numbers. -/
def pipe (source drain : Nat) : Proc ε σ Unit := change fun pid k =>
  let (i, o, k) := k.newPipe
  (k.connect pid source i).connect pid drain o

/-- Sends a signal; refused if there is no such process. -/
def send (pid signal : Nat) : Proc ε σ (Except Refusal Unit) := attempt fun _ k =>
  if k.isThere pid then .ok ((), if signal = 0 then k else k.post pid signal) else .error .noProcess

/-- Waits until a process has ended that this one began. -/
def reap (child : Nat) : Proc ε σ Ending := await fun _ k => k.reap child

/-- The time. -/
def now : Proc ε σ Nat := observe fun _ k => k.files.clock

/-- Waits until a time has come. -/
def waitUntil (time : Nat) : Proc ε σ Unit := await fun pid k =>
  if time ≤ k.files.clock then .done () (k.modifyProcess pid fun p => { p with wake := none })
  else .waiting (k.modifyProcess pid fun p => { p with wake := some time })

/-! ## Reading to the end -/

/-- How often something is done that goes on until something else happens. -/
def endless : Nat := 1000000000000

/-- How many bytes are read at once. -/
def blockSize : Nat := 65536

/-- Reads the rest, onto what has been read. -/
def readRest (descriptor : Nat) : Nat → Array ByteArray → Proc ε σ (Except Refusal ByteArray)
  | 0, _ => return .error .invalid
  | n + 1, chunks => do
    match ← read descriptor blockSize with
    | .error r => return .error r
    | .ok bytes =>
      if bytes.isEmpty then
        match chunks.toList with
        | [one] => return .ok one
        | _ => return .ok (chunks.foldl (· ++ ·) ByteArray.empty)
      else readRest descriptor n (chunks.push bytes)

/-- Reads all there is. -/
def readAll (descriptor : Nat) : Proc ε σ (Except Refusal ByteArray) := readRest descriptor endless #[]

end Proc

end TaskRunner.Processes
