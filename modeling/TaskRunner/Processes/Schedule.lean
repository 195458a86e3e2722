import TaskRunner.Processes.Program

/-!
# Processes taking turns

The processes take turns, in the order in which they began. A turn goes on until the process has to
wait or has done a number of operations. When all have to wait, time goes on to the first moment that
one of them waits for. Every operation takes some time too.
-/

namespace TaskRunner.Processes

/-- A process and what it still has to do. -/
structure Running where
  pid : Nat
  program : Program

/-- What a turn leaves behind. -/
structure Turn where
  kernel : Kernel
  /-- What the process still has to do, unless it has ended. -/
  rest : Option Program
  /-- The processes that it began. -/
  begun : List Running
  /-- Whether the process did anything. -/
  moved : Bool

/-- The time that an operation takes. -/
def operationTime : Nat := 10000

/-- The time that it takes to begin a process or a program. -/
def startTime : Nat := 500000

/-- How many operations a turn has. -/
def turnLength : Nat := 200

/-- Lets time pass. -/
def Kernel.spend (k : Kernel) (time : Nat) : Kernel := { k with files := { k.files with clock := k.files.clock + time } }

/-- The turn of a process; `load` says what a program does. -/
def turn (load : Image → Program) (pid : Nat) : Nat → Bool → List Running → Program → Kernel → Turn
  | 0, moved, begun, p, k => ⟨k, some p, begun, moved⟩
  | n + 1, moved, begun, p, k =>
    match (k.process? pid).bind Process.fatal with
    | some signal => ⟨k.finish pid (.killed signal), none, begun, true⟩
    | none =>
      match p with
      | .ended e => ⟨k.finish pid e, none, begun, true⟩
      | .call operation =>
        match operation pid (k.spend operationTime) with
        | .next k p => turn load pid n true begun p k
        | .blocked k => ⟨k, some (.call operation), begun, moved⟩
      | .spawn child next =>
        let (number, k) := (k.spend startTime).fork pid
        turn load pid n true (begun ++ [⟨number, child⟩]) (next number) k
      | .become image => turn load pid n true begun (load image) ((k.spend startTime).exec pid)

/-- One turn for each process: what is left of them, and whether one of them did anything. -/
def round (load : Image → Program) : List Running → List Running → Bool → Kernel → List Running × Bool × Kernel
  | [], after, moved, k => (after.reverse, moved, k)
  | r :: rest, after, moved, k =>
    let t := turn load r.pid turnLength false [] r.program k
    let after := match t.rest with
      | some program => ⟨r.pid, program⟩ :: after
      | none => after
    round load rest (t.begun.reverse ++ after) (moved || t.moved) t.kernel

/-- The first moment that a process waits for. -/
def Kernel.nextMoment (k : Kernel) : Option Nat :=
  k.processes.values.foldl (fun first p => match first, p.wake with
    | some a, some b => some (min a b)
    | none, b => b
    | a, none => a) none

/-- Lets processes take turns until they have ended or `enough` is seen: what is left of them. -/
def schedule (load : Image → Program) (enough : Kernel → Bool) : Nat → List Running → Kernel → List Running × Kernel
  | 0, running, k => (running, k)
  | _, [], k => ([], k)
  | n + 1, running, k =>
    if enough k then (running, k)
    else
      let (running, moved, k) := round load running [] false k
      if moved then schedule load enough n running k
      else match k.nextMoment with
        | some time =>
          if time ≤ k.files.clock then (running, k)
          else schedule load enough n running (k.spend (time - k.files.clock))
        | none => (running, k)

end TaskRunner.Processes
