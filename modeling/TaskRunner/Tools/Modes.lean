import TaskRunner.Decimal.Digits

/-!
# Permissions

Permissions are given as octal digits or as changes, each for some of those who have permissions, and are
written as digits or letters.
-/

namespace TaskRunner.Tools.Modes

/-- What a change adds, takes away or puts. -/
inductive Source where
  /-- Bits for everyone, of which those count that the change is for. -/
  | bits (n : Nat)
  /-- The permissions that some have already. -/
  | copy (n : Nat)
  /-- Execution, if anyone may execute it or it is a directory; other bits besides. -/
  | execution (n : Nat)

/-- A change of permissions. -/
structure Change where
  sign : Char
  /-- The bits of those whom the change is for; zero if nobody is named. -/
  affected : Nat
  source : Source
  /-- The bits that are spoken of. -/
  mentioned : Nat

/-- The bits of those whom a letter names. -/
def bitsOf : Char → Nat
  | 'u' => 0o4700
  | 'g' => 0o2070
  | 'o' => 0o1007
  | _ => 0o7777

/-- The bits of a letter of a permission, for everyone. -/
def permission? : Char → Option Nat
  | 'r' => some 0o444
  | 'w' => some 0o222
  | 'x' => some 0o111
  | 's' => some 0o6000
  | 't' => some 0o1000
  | _ => none

/-- Reads the changes after those whom they are for. -/
def actions (affected : Nat) : Nat → List Char → List Change → Option (List Change × List Char)
  | 0, _, _ => none
  | n + 1, cs, read =>
    match cs with
    | sign :: rest =>
      if sign = '+' ∨ sign = '-' ∨ sign = '=' then
        match rest with
        | 'u' :: rest => actions affected n rest (⟨sign, affected, .copy 0o700, 0⟩ :: read)
        | 'g' :: rest => actions affected n rest (⟨sign, affected, .copy 0o070, 0⟩ :: read)
        | 'o' :: rest => actions affected n rest (⟨sign, affected, .copy 0o007, 0⟩ :: read)
        | rest =>
          let (digits, after) := rest.span fun c => '0' ≤ c && c ≤ '7'
          if digits ≠ [] then
            let value := Decimal.natOf 8 digits
            if 0o7777 < value ∨ affected ≠ 0 then none
            else actions affected n after (⟨sign, 0o7777, .bits value, 0o7777⟩ :: read)
          else
            let (letters, after) := rest.span fun c => c == 'X' || (permission? c).isSome
            let value := letters.foldl (fun v c => v ||| (permission? c).getD 0) 0
            let source : Source := if letters.contains 'X' then .execution value else .bits value
            let mentioned := if affected = 0 then value else affected &&& value
            actions affected n after (⟨sign, affected, source, mentioned⟩ :: read)
      else if read.isEmpty then none
      else some (read, cs)
    | [] => if read.isEmpty then none else some (read, [])
/-- Reads changes, the last first. -/
def clauses : Nat → List Char → List Change → Option (List Change)
  | 0, _, _ => none
  | n + 1, cs, read =>
    let (who, rest) := cs.span fun c => ['u', 'g', 'o', 'a'].contains c
    let affected := who.foldl (fun a c => a ||| bitsOf c) 0
    match actions affected (rest.length + 1) rest [] with
    | some (found, ',' :: rest) => clauses n rest (found ++ read)
    | some (found, []) => some (found ++ read)
    | _ => none

/-- Reads permissions. -/
def read (s : String) : Option (List Change) :=
  let cs := s.toList
  if cs ≠ [] ∧ cs.all fun c => '0' ≤ c && c ≤ '7' then
    let value := Decimal.natOf 8 cs
    -- Few digits say nothing about the bits that directories hand on.
    if 0o7777 < value then none
    else some [⟨'=', 0o7777, .bits value, if cs.length < 5 then (value &&& 0o6000) ||| 0o1777 else 0o7777⟩]
  else (clauses (cs.length + 1) cs []).map List.reverse

/-- Permissions after a change. -/
def Change.apply (isDirectory : Bool) (mask mode : Nat) (c : Change) : Nat :=
  let omitted := (if isDirectory then 0o6000 else 0) &&& (0o7777 ^^^ c.mentioned)
  let value := match c.source with
    | .bits n => n
    | .copy n =>
      let v := n &&& mode
      (if v &&& 0o444 != 0 then 0o444 else 0) ||| (if v &&& 0o222 != 0 then 0o222 else 0)
        ||| (if v &&& 0o111 != 0 then 0o111 else 0)
    | .execution n => n ||| (if isDirectory || mode &&& 0o111 != 0 then 0o111 else 0)
  let allowed := if c.affected = 0 then 0o7777 ^^^ mask else c.affected
  let value := value &&& allowed &&& (0o7777 ^^^ omitted)
  match c.sign with
  | '+' => mode ||| value
  | '-' => mode &&& (0o7777 ^^^ value)
  | _ =>
    let kept := (if c.affected = 0 then 0 else 0o7777 ^^^ c.affected) ||| omitted
    (mode &&& kept) ||| value

/-- Permissions after changes. -/
def adjusted (changes : List Change) (isDirectory : Bool) (mask mode : Nat) : Nat :=
  changes.foldl (Change.apply isDirectory mask) mode

/-- Permissions in letters. -/
def letters (mode : Nat) : String :=
  let three (n : Nat) (special : Bool) (low high : Char) : List Char :=
    [if n &&& 4 != 0 then 'r' else '-', if n &&& 2 != 0 then 'w' else '-',
      if special then (if n &&& 1 != 0 then low else high) else if n &&& 1 != 0 then 'x' else '-']
  String.ofList (three (mode / 64 % 8) (mode &&& 0o4000 != 0) 's' 'S' ++ three (mode / 8 % 8) (mode &&& 0o2000 != 0) 's' 'S'
    ++ three (mode % 8) (mode &&& 0o1000 != 0) 't' 'T')

/-- A number in octal digits, at least so many. -/
def octal (least n : Nat) : String :=
  let digits := Nat.toDigits 8 n
  String.ofList (List.replicate (least - digits.length) '0' ++ digits)

end TaskRunner.Tools.Modes
