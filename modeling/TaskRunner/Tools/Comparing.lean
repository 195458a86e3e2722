import TaskRunner.Tools.Making
import TaskRunner.Tools.Numbers

/-!
# The program that compares bytes

Two files are compared up to the first byte that differs, or all bytes that differ are listed.
-/

namespace TaskRunner.Tools.Comparing

open Processes

/-- How differences are told. -/
inductive Telling where
  | first
  | all
  | silent
  deriving DecidableEq

/-- What is said after a message about how the program was called. -/
def usage : String := "cmp: Try 'cmp --help' for more information.\n"

/-- Stops because of how the program was called. -/
def wrong {α : Type} (message : String) : Tool α := do
  Tool.say message
  Tool.note usage
  throw 2

/-- How a byte is shown. -/
def shown (b : Nat) : String :=
  let (start, b) := if 128 ≤ b then ("M-", b - 128) else ("", b)
  start ++ if b < 32 then "^" ++ String.singleton (Char.ofNat (b + 64)) else if b = 127 then "^?"
    else String.singleton (Char.ofNat b)

/-- A byte in octal digits. -/
def octal (b : Nat) : String := Numbers.right 3 (String.ofList (Nat.toDigits 8 b))

/-- A number that an option or an argument has. -/
def numberOf (option s : String) : Tool Nat := do
  match Numbers.size s with
  | .ok n => return n
  | .error _ => wrong ("invalid --" ++ option ++ " value '" ++ s ++ "'")

/-- How many bytes are left out of both files. -/
def skipsOf (s : String) : Tool (Nat × Nat) := do
  let number (text : String) : Option Nat := (Numbers.size text).toOption
  match s.splitOn ":" with
  | [one] => match number one with
    | some n => return (n, n)
    | none => wrong ("invalid --ignore-initial value '" ++ s ++ "'")
  | [one, two] => match number one, number two with
    | some n, some m => return (n, m)
    | _, _ => wrong ("invalid --ignore-initial value '" ++ s ++ "'")
  | _ => wrong ("invalid --ignore-initial value '" ++ s ++ "'")

/-- The places from so many steps before the end on at which bytes differ. -/
def differences (a b : ByteArray) : Nat → Nat → List Nat
  | 0, _ => []
  | n + 1, i => if a.get! i == b.get! i then differences a b n (i + 1) else i :: differences a b n (i + 1)

/-- The first place at which bytes differ. -/
def firstDifference (a b : ByteArray) : Nat → Nat → Option Nat
  | 0, _ => none
  | n + 1, i => if a.get! i == b.get! i then firstDifference a b n (i + 1) else some i

/-- How many lines have ended before a place. -/
def linesBefore (a : ByteArray) (stop : Nat) : Nat :=
  (a.extract 0 stop).foldl (fun n c => if c = 10 then n + 1 else n) 0

/-- Compares the bytes of two files. -/
def compare (t : Telling) (bytes : Bool) (width : Nat) (x y : String) (a b : ByteArray) : Tool Nat := do
  let both := min a.size b.size
  let told (i : Nat) (separator : String) : String :=
    let (m, n) := ((a.get! i).toNat, (b.get! i).toNat)
    if bytes then octal m ++ " " ++ (if separator = "" then shown m else Numbers.left 4 (shown m)) ++ " " ++ octal n ++ " " ++ shown n
    else octal m ++ " " ++ octal n
  let differ ← match t with
    | .all =>
      let places := differences a b both 0
      for i in places do
        Proc.step
        Tool.emitLine (Numbers.right width (toString (i + 1)) ++ " " ++ told i " ")
      pure (!places.isEmpty)
    | _ =>
      match firstDifference a b both 0 with
      | none => pure false
      | some i =>
        if t = .first then
          Tool.emitLine (x ++ " " ++ y ++ " differ: byte " ++ toString (i + 1) ++ ", line " ++ toString (linesBefore a i + 1)
            ++ if bytes then " is " ++ told i "" else "")
        throw 1
  if a.size = b.size then return if differ then 1 else 0
  let (shorter, path) := if a.size < b.size then (a, x) else (b, y)
  if t ≠ .silent then
    let lines := linesBefore shorter shorter.size
    let atStart : Bool := shorter.size != 0 && shorter.get! (shorter.size - 1) == 10
    let after := " after byte " ++ toString shorter.size
    Tool.say ("EOF on " ++ path ++
      if shorter.size = 0 then " which is empty"
      else if t = .all then after
      else if atStart then after ++ ", line " ++ toString lines
      else after ++ ", in line " ++ toString (lines + 1))
  return 1

/-- Compares two files byte by byte. -/
def cmp (args : List String) : Tool Nat := do
  let known := [flag "b" "print-bytes", flag "c" "print-chars", taking "i" "ignore-initial", flag "l" "verbose",
    taking "n" "bytes", flag "s" "quiet", ⟨"s", some "silent", .none⟩]
  Tool.ifUnwritten fun r => "standard output: " ++ r.message
  let g ← Options.read { known, status := 2, usage := some usage } args
  let (skip, skip') ← match g.last? "i" with
    | some s => skipsOf s
    | none => pure (0, 0)
  let most ← match g.last? "n" with
    | some s => some <$> numberOf "bytes" s
    | none => pure none
  if g.has "l" ∧ g.has "s" then wrong "options -l and -s are incompatible"
  let (x, y, skip, skip') ← match g.operands with
    | [] => wrong ("missing operand after '" ++ (args.getLast?.getD (← Tool.name)) ++ "'")
    | [x] => pure (x, "-", skip, skip')
    | [x, y] => pure (x, y, skip, skip')
    | [x, y, s] => do pure (x, y, ← numberOf "ignore-initial" s, skip')
    | [x, y, s, t] => do pure (x, y, ← numberOf "ignore-initial" s, ← numberOf "ignore-initial" t)
    | _ :: _ :: _ :: _ :: extra :: _ => wrong ("extra operand '" ++ extra ++ "'")
  let t : Telling := if g.has "s" then .silent else if g.has "l" then .all else .first
  let facts (path : String) : Tool (Except Refusal (Option FileSystem.Info)) := do
    if path = "-" then return .ok none
    match ← Making.known true path with
    | .ok (_, i) => return .ok (some i)
    | .error r => return .error r
  let refuse {α : Type} (path : String) (r : Refusal) : Tool α := do
    if t ≠ .silent then Tool.say (path ++ ": " ++ r.message)
    throw 2
  let first ← match ← facts x with
    | .ok i => pure i
    | .error r => refuse x r
  let second ← match ← facts y with
    | .ok i => pure i
    | .error r => refuse y r
  let same : Bool := match first, second with
    | some i, some j => i.serial == j.serial
    | none, none => true
    | _, _ => false
  if same ∧ skip = skip' then return 0
  let bytesOf (path : String) (skip : Nat) : Tool ByteArray := do
    match ← Tool.contentOf path with
    | .ok bytes =>
      let rest := bytes.extract skip bytes.size
      return match most with
        | some n => rest.extract 0 (min n rest.size)
        | none => rest
    | .error r => refuse path r
  if most = some 0 then return 0
  let a ← bytesOf x skip
  let b ← bytesOf y skip'
  let sizes := [(first, a), (second, b)].filterMap fun (i, bytes) =>
    i.bind fun i => if i.kind = .file then some bytes.size else none
  let width := match sizes.min? with
    | some n => (toString n).length
    | none => (most.map fun n => (toString n).length).getD 19
  compare t (g.has "b" || g.has "c") width x y a b

end TaskRunner.Tools.Comparing
