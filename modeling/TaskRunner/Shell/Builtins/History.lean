import TaskRunner.Shell.Builtins.Usage
import TaskRunner.Shell.Test

/-!
# Commands that a shell remembers

Commands that were carried out can be remembered, shown with their numbers, forgotten, kept in a file and
carried out again. A shell that carries out a script remembers only what it is told to.
-/

namespace TaskRunner.Shell

open Processes

namespace History

/-- One more command, of no more than a number of them. -/
def push (most : Option Nat) (line : String) (h : History) : History :=
  let lines := h.lines ++ [line]
  let extra := match most with
    | some n => lines.length - n
    | none => 0
  { h with lines := lines.drop extra, first := h.first + extra, fresh := h.fresh + 1 }

/-- The place of the last command. -/
def lastPlace (h : History) : Nat := h.lines.length - 1

/-- The place of a command that a number stands for; one below zero counts from the end. -/
def placeOf (h : History) (n : Int) : Nat :=
  if n < 0 then (h.lines.length + n).toNat
  else if n = 0 then h.lastPlace
  else min (n - h.first).toNat h.lastPlace

/-- The place of a command that a text names: by its number, or by what it begins with. -/
def place? (h : History) (text : String) : Option Nat :=
  match Test.number? text with
  | some n => some (h.placeOf n)
  | none => ((List.range h.lines.length).reverse).find? fun i => ((h.lines[i]?).getD "").startsWith text

/-- A command without its number and those at other places. -/
def eraseAt (h : History) (i : Nat) : History := { h with lines := h.lines.eraseIdx i }

end History

namespace Builtins

/-- Remembers a command. -/
def remember (line : String) : Sh Unit := modify fun s =>
  let most := (Sh.value? s "HISTSIZE").bind String.toNat?
  { s with history := s.history.push most line }

/-- Whether a line that was read is remembered, by what variables say. -/
def isRemembered (s : State) (line : String) : Bool :=
  let control := (Sh.valueOf s "HISTCONTROL").splitOn ":"
  let both := control.contains "ignoreboth"
  let blank := (both || control.contains "ignorespace") && line.startsWith " "
  let double := (both || control.contains "ignoredups") && s.history.lines.getLast? == some line
  let left := ((Sh.valueOf s "HISTIGNORE").splitOn ":").any fun p =>
    p != "" && Glob.matchesText (Sh.style s true false) (p.toList.map fun c => (c, false)) line
  line != "" && !blank && !double && !left

/-- A number with blanks before it. -/
def numbered (n : Nat) : String :=
  let digits := toString n
  String.ofList (List.replicate (5 - digits.length) ' ') ++ digits

/-- The lines of a file of commands. -/
def rememberedIn (path : String) : Sh (Except Refusal (List String)) := do
  let descriptor ← Sh.newPrivate
  match ← Proc.openAs descriptor Kernel.OpenMode.input path with
  | .error r => return .error r
  | .ok () =>
    let found ← Proc.readAll descriptor
    Proc.close descriptor
    match found with
    | .error r => return .error r
    | .ok bytes => return .ok (((Text.Octets.ofBytes bytes).splitOn "\n").filter (· ≠ ""))

/-- Writes commands to a file; whether that could be done. -/
def keepIn (path : String) (mode : Kernel.OpenMode) (lines : List String) : Sh Bool := do
  let descriptor ← Sh.newPrivate
  match ← Proc.openAs descriptor mode path with
  | .error _ => return false
  | .ok () =>
    discard <| Proc.write descriptor (Sh.bytes (String.join (lines.map (· ++ "\n"))))
    Proc.close descriptor
    return true

/-- Forgets what is at a place, or from one place to another. -/
def forget (text : String) : Sh Nat := do
  let h := (← get).history
  let place (s : String) : Option Nat := match s.toInt? with
    | some n =>
      let i : Int := if n < 0 then h.lines.length + n else n - h.first
      if 0 ≤ i ∧ i < h.lines.length then some i.toNat else none
    | none => none
  let ends : Option (Nat × Nat) := match place text, (text.drop 1).toString.splitOn "-" with
    | some i, _ => some (i, i)
    | none, [a, b] =>
      match place ((text.take 1).toString ++ a), place b with
      | some i, some j => if i ≤ j then some (i, j) else none
      | _, _ => none
    | none, _ => none
  match ends with
  | none =>
    Sh.complainAbout (text ++ ": history position out of range")
    return 1
  | some (i, j) =>
    modify fun s => { s with history := (List.range (j + 1 - i)).foldl (fun h _ => h.eraseAt i) h }
    return 0

/-- Shows the commands that are remembered, or changes what is. -/
def history (args : List String) : Sh Nat := do
  let (flags, rest) ← readOptions "acd:npsrw" args
  let has (c : Char) : Bool := flags.any fun (d, _) => d == c
  if 1 < (flags.filter fun (c, _) => "anrw".toList.contains c).length then
    Sh.complainAbout "cannot use more than one of -anrw"
    return 1
  if has 'c' then modify fun s => { s with history := {} }
  match flags.find? fun (c, _) => c == 'd' with
  | some (_, text) => return ← forget text
  | none => pure ()
  if has 's' then
    if rest ≠ [] then remember (" ".intercalate rest)
    return 0
  if has 'p' then
    match rest.find? fun a => a.startsWith "!" ∧ 1 < a.length with
    | some a =>
      Sh.complainAbout (a ++ ": history expansion failed")
      return 1
    | none =>
      Sh.put (String.join (rest.map (· ++ "\n")))
      return 0
  let s ← get
  let h := s.history
  match flags.find? fun (c, _) => "anrw".toList.contains c with
  | some (letter, _) =>
    match (if rest = [] then Sh.value? s "HISTFILE" else rest.head?) with
    | none => return 0
    | some path =>
      match letter with
      | 'w' => return if ← keepIn path Kernel.OpenMode.output h.lines then 0 else 1
      | 'a' =>
        if h.fresh = 0 then return 0
        let done ← keepIn path Kernel.OpenMode.addition (h.lines.drop (h.lines.length - h.fresh))
        modify fun s => { s with history := { h with fresh := 0 } }
        return if done then 0 else 1
      | letter =>
        match ← rememberedIn path with
        | .error _ => return 1
        | .ok lines =>
          let new := if letter = 'n' then lines.drop h.read else lines
          modify fun s => { s with history := { h with lines := h.lines ++ new, read := lines.length } }
          return 0
  | none => pure ()
  if has 'c' then return 0
  let count : Option Nat ← match rest with
    | [] => pure none
    | a :: more =>
      match Test.number? a with
      | none =>
        Sh.complainAbout (a ++ ": numeric argument required")
        return 1
      | some n => do
        if more ≠ [] then
          Sh.complainAbout "too many arguments"
          throw (.discard 1)
        pure (some n.natAbs)
  let size := h.lines.length
  let skipped := size - count.getD size
  for i in List.range size do
    if skipped ≤ i then Sh.put (numbered (h.first + i) ++ "  " ++ (h.lines[i]?).getD "" ++ "\n")
  return 0

/-- Says that a command is not remembered. -/
def notRemembered : Sh Nat := do
  Sh.complainAbout "no command found"
  return 1

/-- Lists commands that are remembered; `evaluate` carries one of them out again. -/
def fc (evaluate : String → Sh Nat) (args : List String) : Sh Nat := do
  let isNumber (a : String) : Bool := a.startsWith "-" ∧ 1 < a.length ∧ (a.drop 1).toString.toList.all Char.isDigit
  let before := args.takeWhile fun a => !isNumber a
  let (flags, rest) ← readOptions "e:lnrs" before
  let rest := rest ++ args.drop before.length
  let has (c : Char) : Bool := flags.any fun (d, _) => d == c
  let s ← get
  let own := Sh.isOn s "history"
  let h := if own then { s.history with lines := s.history.lines.dropLast } else s.history
  if has 's' then
    let changes := rest.takeWhile fun a => a.toList.contains '='
    let wanted := (rest.drop changes.length).head?
    let found : Option Nat := match wanted with
      | some text => h.place? text
      | none => if h.lines = [] then none else some h.lastPlace
    match found.bind fun i => h.lines[i]? with
    | none => notRemembered
    | some line =>
      let line := changes.foldl (fun line change =>
        let (old, new) := nameAndValue change
        if old = "" then line else line.replace old (new.getD "")) line
      discard <| Proc.write 2 (Sh.bytes (line ++ "\n"))
      set { s with history := { h with lines := h.lines ++ (if own then [line] else []) } }
      evaluate line
  else
    if h.lines = [] ∨ ¬ has 'l' then return 0
    let first : Option Nat := match rest with
      | [] => some (h.lines.length - 16)
      | a :: _ => h.place? a
    let last : Option Nat := match rest with
      | _ :: b :: _ => h.place? b
      | _ => some h.lastPlace
    match first, last with
    | some i, some j =>
      let places := ((List.range h.lines.length).filter fun n => min i j ≤ n && n ≤ max i j)
      let places := if (j < i) != has 'r' then places.reverse else places
      for n in places do
        Sh.put ((if has 'n' then "" else toString (h.first + n)) ++ "\t " ++ (h.lines[n]?).getD "" ++ "\n")
      return 0
    | _, _ => notRemembered

end Builtins

end TaskRunner.Shell
