import TaskRunner.Shell.Builtins.Usage
import TaskRunner.Shell.Test

/-!
# Bounds on what processes may use

Every bound has a letter. A shell shows it, or sets it for itself and for the processes that it starts; what a
bound may be raised to can only be lowered.
-/

namespace TaskRunner.Shell.Builtins

open Processes

/-- Something of which a process may use only so much. -/
structure Resource where
  letter : Char
  name : String
  /-- What it is counted in, as it is shown. -/
  unit : String
  /-- How much that is. -/
  size : Nat
  /-- How much there usually is, counted in the unit. -/
  usual : Option Nat

/-- What is bounded, in the order in which it is listed. -/
def resources (d : Dialect) (strict : Bool) : List Resource :=
  match d with
  | .plain =>
    [⟨'t', "time(seconds)", "", 1, none⟩, ⟨'f', "file(blocks)", "", 512, none⟩, ⟨'d', "data(kbytes)", "", 1024, none⟩,
      ⟨'s', "stack(kbytes)", "", 1024, some 8192⟩, ⟨'c', "coredump(blocks)", "", 512, some 0⟩,
      ⟨'m', "memory(kbytes)", "", 1024, none⟩, ⟨'l', "locked memory(kbytes)", "", 1024, some 8192⟩,
      ⟨'p', "process", "", 1, none⟩, ⟨'n', "nofiles", "", 1, some 1048576⟩, ⟨'v', "vmemory(kbytes)", "", 1024, none⟩,
      ⟨'w', "locks", "", 1, none⟩, ⟨'r', "rtprio", "", 1, some 0⟩]
  | .extended =>
    let block := if strict then 512 else 1024
    [⟨'R', "real-time non-blocking time ", "microseconds", 1, none⟩, ⟨'c', "core file size", "blocks", block, some 0⟩,
      ⟨'d', "data seg size", "kbytes", 1024, none⟩, ⟨'e', "scheduling priority", "", 1, some 0⟩,
      ⟨'f', "file size", "blocks", block, none⟩, ⟨'i', "pending signals", "", 1, some 128620⟩,
      ⟨'l', "max locked memory", "kbytes", 1024, some 8192⟩, ⟨'m', "max memory size", "kbytes", 1024, none⟩,
      ⟨'n', "open files", "", 1, some 1048576⟩, ⟨'p', "pipe size", "512 bytes", 512, some 8⟩,
      ⟨'q', "POSIX message queues", "bytes", 1, some 819200⟩, ⟨'r', "real-time priority", "", 1, some 0⟩,
      ⟨'s', "stack size", "kbytes", 1024, some 8192⟩, ⟨'t', "cpu time", "seconds", 1, none⟩,
      ⟨'u', "max user processes", "", 1, none⟩, ⟨'v', "virtual memory", "kbytes", 1024, none⟩,
      ⟨'x', "file locks", "", 1, none⟩]

/-- What the letter of a bound is for all shells. -/
def Resource.key (d : Dialect) (r : Resource) : Char :=
  match d, r.letter with
  | .plain, 'p' => 'u'
  | .plain, 'w' => 'x'
  | .extended, 'p' => 'P'
  | _, letter => letter

/-- The bounds of a process. -/
def boundsOf (d : Dialect) (r : Resource) : Sh Bounds := do
  let found ← Proc.observe fun pid k => (k.process? pid).bind fun p => p.bounds.find? (r.key d)
  return found.getD (if r.letter = 's' ∨ r.letter = 'c' then ⟨r.usual.map (· * r.size), none⟩
    else ⟨r.usual.map (· * r.size), r.usual.map (· * r.size)⟩)

/-- A bound as it is shown. -/
def shownBound (r : Resource) : Option Nat → String
  | none => "unlimited"
  | some n => toString (n / r.size)

/-- Which of the two bounds are meant. -/
structure Which where
  soft : Bool
  hard : Bool

/-- The bound that is shown. -/
def Which.pick (w : Which) (b : Bounds) : Option Nat := if w.hard ∧ ¬ w.soft then b.hard else b.soft

/-- A bound in the extended language, with its name. -/
def describedBound (r : Resource) (value : String) : String :=
  let unit := "(" ++ (if r.unit = "" then "" else r.unit ++ ", ") ++ "-" ++ String.singleton r.letter ++ ") "
  let blanks (n : Nat) : String := String.ofList (List.replicate n ' ')
  r.name ++ blanks (20 - r.name.length) ++ " " ++ blanks (16 - unit.length) ++ unit ++ value ++ "\n"

/-- Sets a bound; false if that is not allowed. -/
def setBound (d : Dialect) (w : Which) (r : Resource) (value : Option Nat) : Sh Bool := do
  let b ← boundsOf d r
  let above (a b : Option Nat) : Bool := match a, b with
    | _, none => false
    | none, some _ => true
    | some x, some y => y < x
  let both := !w.soft && !w.hard
  let hard := if w.hard ∨ both then value else b.hard
  let soft := if w.soft ∨ both then value else b.soft
  if above hard b.hard ∨ above soft hard then return false
  Proc.change fun pid k => k.modifyProcess pid fun p => { p with bounds := p.bounds.insert (r.key d) ⟨soft, hard⟩ }
  return true

/-- Sets a bound as a text of the extended language says. -/
def setExtendedBound (w : Which) (r : Resource) (text : String) : Sh Nat := do
  let b ← boundsOf .extended r
  let value : Option (Option Nat) :=
    match text with
    | "unlimited" => some none
    | "hard" => some b.hard
    | "soft" => some b.soft
    | text => if text ≠ "" ∧ text.toList.all Char.isDigit then some ((text.toNat?).map (· * r.size)) else none
  match value with
  | none =>
    Sh.complainAbout (text ++ ": invalid number")
    return 1
  | some value =>
    if (value.getD 0) / r.size * r.size ≥ Nat.pow 2 64 then
      Sh.complainAbout (text ++ ": limit out of range")
      return 1
    let refuse (why : String) : Sh Nat := do
      Sh.complainAbout (r.name ++ ": cannot modify limit: " ++ why)
      return 1
    if r.letter = 'p' then refuse "Invalid argument"
    else if ← setBound .extended w r value then return 0
    else refuse "Operation not permitted"

/-- The bounds that options of the extended language name, each with a text that it is set to if there is one; and
the words that are left. -/
def boundWords : Nat → List String → List (Char × Option String) → List (Char × Option String) × List String
  | 0, words, found => (found.reverse, words)
  | _, [], found => (found.reverse, [])
  | n + 1, word :: rest, found =>
    match word.toList with
    | ['-', '-'] => (found.reverse, rest)
    | '-' :: letters@(_ :: _) =>
      let flags := letters.takeWhile fun c => c == 'S' || c == 'H' || c == 'a'
      let found := (flags.map fun c => (c, none)).reverse ++ found
      match letters.drop flags.length, rest with
      | [], rest => boundWords n rest found
      | [c], next :: after =>
        if next.startsWith "-" then boundWords n rest ((c, none) :: found) else boundWords n after ((c, some next) :: found)
      | c :: value, rest =>
        if value.head?.any Char.isDigit then boundWords n rest ((c, some (String.ofList value)) :: found)
        else boundWords n rest (((c :: value).map fun c => (c, none)).reverse ++ found)
    | _ => (found.reverse, word :: rest)

/-- Shows or sets bounds in the extended language. -/
def ulimitExtended (args : List String) : Sh Nat := do
  let s ← get
  let (found, rest) := boundWords (args.length + 1) args []
  let all := resources .extended (Sh.isOn s "posix")
  let which : Which := ⟨found.any fun (c, _) => c == 'S', found.any fun (c, _) => c == 'H'⟩
  match found.find? fun (c, _) => c != 'S' && c != 'H' && c != 'a' && !"bkPT".toList.contains c && !all.any fun r => r.letter == c with
  | some (c, _) => badOption c
  | none => pure ()
  if found.any fun (c, _) => c == 'a' then
    for r in all do Sh.put (describedBound r (shownBound r (which.pick (← boundsOf .extended r))))
    return 0
  let asked := found.filterMap fun (c, value) => (all.find? fun r => r.letter == c).map fun r => (r, value)
  let asked := if asked ≠ [] then asked else ((all.find? fun r => r.letter == 'f').toList.map fun r => (r, none))
  let asked : List (Resource × Option String) := match asked.reverse, rest with
    | (r, none) :: before, value :: _ => ((r, some value) :: before).reverse
    | _, _ => asked
  let mut status := 0
  for (r, value) in asked do
    match value with
    | some value =>
      let answer ← setExtendedBound which r value
      status := max status answer
    | none =>
      let value := shownBound r (which.pick (← boundsOf .extended r))
      Sh.put (if asked.length = 1 then value ++ "\n" else describedBound r value)
  return status

/-- Shows or sets bounds in the plain language. -/
def ulimitPlain (args : List String) : Sh Nat := do
  let (flags, rest) ← readOptions "HSatfdscmlpnvwr" args
  let which : Which := ⟨flags.any fun (c, _) => c == 'S', flags.any fun (c, _) => c == 'H'⟩
  let all := resources .plain false
  if flags.any fun (c, _) => c == 'a' then
    if rest ≠ [] then Sh.fail "too many arguments"
    for r in all do
      let pad := String.ofList (List.replicate (20 - r.name.length) ' ')
      Sh.put (r.name ++ pad ++ " " ++ shownBound r (which.pick (← boundsOf .plain r)) ++ "\n")
    return 0
  let letter := (((flags.map Prod.fst).filter fun c => c != 'H' && c != 'S').getLast?).getD 'f'
  match all.find? fun r => r.letter == letter with
  | none => return 0
  | some r =>
    match rest with
    | [] =>
      Sh.put (shownBound r (which.pick (← boundsOf .plain r)) ++ "\n")
      return 0
    | [text] =>
      let value : Option Nat ←
        if text = "unlimited" then pure none
        else if text ≠ "" ∧ text.toList.all Char.isDigit then pure ((text.toNat?).map (· * r.size))
        else Sh.fail "bad number"
      if ← setBound .plain which r value then return 0
      Sh.fail "error setting limit (Operation not permitted)"
    | _ => Sh.fail "too many arguments"

/-- Shows or sets bounds. -/
def ulimit (args : List String) : Sh Nat := do
  match (← get).dialect with
  | .plain => ulimitPlain args
  | .extended => ulimitExtended args

end TaskRunner.Shell.Builtins
