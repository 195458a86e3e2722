import TaskRunner.Shell.Builtins.Usage
import TaskRunner.Shell.Expansion
import TaskRunner.Shell.Format
import TaskRunner.Shell.Test

/-!
# Commands of the shell that write and compare

Each takes its arguments and gives its status. What is written is handed on when the command has ended.
-/

namespace TaskRunner.Shell.Builtins

open Processes

/-- Writes its arguments, and a line end unless told otherwise. -/
def echo (args : List String) : Sh Nat := do
  match (← get).dialect with
  | .plain =>
    let silent := args.head? = some "-n"
    let text := " ".intercalate (if silent then args.drop 1 else args)
    let (s, ended) := Escapes.convert (Format.argumentRules .plain) text
    Sh.put (if ended ∨ silent then s else s ++ "\n")
    return 0
  | .extended =>
    let isFlag (s : String) : Bool := match s.toList with
      | '-' :: c :: cs => (c :: cs).all ['n', 'e', 'E'].contains
      | _ => false
    let flags := (args.takeWhile isFlag).flatMap fun s => s.toList.drop 1
    let text := " ".intercalate (args.dropWhile isFlag)
    let escapes := (flags.reverse.find? fun c => c == 'e' || c == 'E') == some 'e' ||
      (Sh.isOn (← get) "xpg_echo" && !flags.contains 'E')
    let (s, ended) := if escapes then Escapes.convert Escapes.ofEcho text else (text, false)
    Sh.put (if ended ∨ flags.contains 'n' then s else s ++ "\n")
    return 0

/-- Puts a text in a variable or in a place of an array. -/
def putIn (target : String) (append : Bool) (value : String) : Sh Unit := do
  match target.toList.span (· != '[') with
  | (_, []) =>
    let before := Sh.valueOf (← get) target
    Sh.assign target (if append then before ++ value else value)
  | (name, _ :: rest) =>
    let name := String.ofList name
    let key := String.ofList rest.dropLast
    if key = "" then
      Sh.complain (target ++ ": bad array subscript")
      throw (.error 1)
    let s ← get
    let value ← match Sh.binding? s name with
      | some v => if v.integer then toString <$> Expansion.arithmetic value else pure value
      | none => pure value
    if Arrays.isTable s name then Arrays.putUnder name key append value
    else if ¬ (← Arrays.putAt name (← Expansion.arithmetic key) append value) then
      Sh.complain (target ++ ": bad array subscript")
      throw (.error 1)

/-- Writes a format with its arguments. -/
def printf (args : List String) : Sh Nat := do
  match (← get).dialect with
  | .plain =>
    let (_, args) ← readOptions "" args
    match args with
    | [] => Sh.fail "usage: printf format [arg ...]"
    | format :: args =>
      let (events, status) := Format.run .plain format args
      for message in Format.complaints events do Sh.complain message
      Sh.put (Format.written events)
      if status = 2 then throw (.error 2)
      return status
  | .extended =>
    let (flags, args) ← readOptions "v:" args
    match args with
    | [] =>
      sayUsage
      return 2
    | format :: args =>
      let s ← get
      let now ← Proc.now
      let times : Format.Times :=
        ⟨Calendar.zoneOf (Sh.exportedValue? s "TZ"), (now / 1000000000 : Nat), (s.began / 1000000000 : Nat), Sh.locale s⟩
      let (events, status) := Format.run .extended format args times
      for message in Format.complaints events do Sh.complainAbout message
      match flags.getLast? with
      | some (_, target) =>
        if Test.isTarget target then
          putIn target false (Format.written events)
          return status
        else
          Sh.complainAbout ("\x60" ++ target ++ "\x27: not a valid identifier")
          return 2
      | none =>
        Sh.put (Format.written events)
        return status

/-- What tests are about. -/
def surroundings : Sh Test.Surroundings := do
  let s ← get
  let (files, place) ← Proc.files
  let channel ← Proc.observe fun pid k => k.channel? pid
  let isSet (name : String) : Bool :=
    match name.toList.span (· != '[') with
    | (_, []) => (Sh.value? s name).isSome
    | (base, _ :: rest) =>
      let key := String.ofList rest.dropLast
      let items := Arrays.items s (String.ofList base)
      if key = "@" ∨ key = "*" then !items.isEmpty else items.any fun (k, _) => k == key
  let isReference (name : String) : Bool := (s.vars.find? name).any fun v => v.reference && v.content.isSome
  return ⟨files, place, isSet, isReference, fun name => Sh.isOn s name, s.dialect != .plain, channel⟩

/-- Answers a condition. -/
def test (args : List String) : Sh Nat := do
  let s ← get
  let bracket := s.command = some "["
  if bracket ∧ args.getLast? ≠ some "]" then
    match s.dialect with
    | .plain => Sh.fail "missing ]"
    | .extended =>
      Sh.complainAbout "missing \x60]\x27"
      return 2
  let args := if bracket then args.dropLast else args
  let around ← surroundings
  let answer := match s.dialect with
    | .plain => Test.Plain.answer around (args.length + 1) args
    | .extended => Test.Extended.answer Test.Extended.messages around args
  match answer with
  | .ok holds => return if holds then 0 else 1
  | .error message =>
    Sh.complainAbout message
    return 2

/-- The permissions that a text of letters gives, starting from others. -/
def symbolicMode (start : Nat) (text : String) : Option Nat :=
  (text.splitOn ",").foldlM clause start
where
  /-- The permissions after one clause. -/
  clause (mode : Nat) (text : String) : Option Nat :=
    let (who, rest) := text.toList.span fun c => ['u', 'g', 'o', 'a'].contains c
    let shifts (c : Char) : List Nat := match c with
      | 'u' => [6]
      | 'g' => [3]
      | 'o' => [0]
      | _ => [6, 3, 0]
    let places := if who = [] then [6, 3, 0] else who.flatMap shifts
    actions places (rest.length + 1) mode rest
  /-- The permissions after operators and letters. -/
  actions (places : List Nat) : Nat → Nat → List Char → Option Nat
    | 0, mode, _ => some mode
    | n + 1, mode, cs =>
      match cs with
      | [] => some mode
      | op :: rest =>
        if ¬ ['+', '-', '='].contains op then none
        else
          let (letters, rest) := rest.span fun c => ['r', 'w', 'x', 'X', 's', 't', 'u', 'g', 'o'].contains c
          let bit (c : Char) : Nat := match c with
            | 'r' => 4
            | 'w' => 2
            | 'x' => 1
            | 'X' => if mode &&& 0o111 != 0 then 1 else 0
            | 'u' => mode / 64 % 8
            | 'g' => mode / 8 % 8
            | 'o' => mode % 8
            | _ => 0
          let bits := letters.foldl (fun b c => b ||| bit c) 0
          let mode := places.foldl (fun m p =>
            let shifted := bits * Nat.pow 2 p
            match op with
            | '+' => m ||| shifted
            | '-' => m &&& (0o7777 ^^^ shifted)
            | _ => (m &&& (0o7777 ^^^ (7 * Nat.pow 2 p))) ||| shifted) mode
          actions places n mode rest

/-- The permissions that others have, in letters. -/
def letters (mode : Nat) : String :=
  let three (n : Nat) : String :=
    (if n &&& 4 != 0 then "r" else "") ++ (if n &&& 2 != 0 then "w" else "") ++ (if n &&& 1 != 0 then "x" else "")
  "u=" ++ three (mode / 64 % 8) ++ ",g=" ++ three (mode / 8 % 8) ++ ",o=" ++ three (mode % 8)

/-- Shows or sets the permissions that new files do not get. -/
def umask (args : List String) : Sh Nat := do
  let (flags, args) ← readOptions (if ← Sh.isExtended then "Sp" else "S") args
  let mask ← Proc.observe fun pid k => ((k.process? pid).map Process.mask).getD 0
  let put (mask : Nat) : Sh Unit := Proc.change fun pid k => k.modifyProcess pid fun p => { p with mask }
  match args with
  | [] =>
    let octal := Quoting.octal mask
    let label := if flags.any fun (c, _) => c == 'p' then
        (if flags.any fun (c, _) => c == 'S' then "umask -S " else "umask ") else ""
    Sh.put (label ++ (if flags.any fun (c, _) => c == 'S' then letters (0o777 ^^^ mask) else "0" ++ octal) ++ "\n")
    return 0
  | mode :: _ =>
    let extended ← Sh.isExtended
    if (mode.toList.head?.map Char.isDigit).getD false then
      if mode.toList.all Escapes.isOctal then
        put (Decimal.natOf 8 mode.toList &&& 0o777)
        return 0
      else if extended then
        Sh.complainAbout (mode ++ ": octal number out of range")
        return 1
      else Sh.fail ("Illegal number: " ++ mode)
    else match symbolicMode (0o777 ^^^ mask) mode with
      | some m =>
        put ((0o777 ^^^ m) &&& 0o777)
        return 0
      | none =>
        if extended then
          let c := mode.toList.find? fun c => !(['u', 'g', 'o', 'a']).contains c
          Sh.complainAbout ("\x60" ++ (c.elim "" String.singleton) ++ "\x27: invalid symbolic mode operator")
          return 1
        else Sh.fail ("Illegal mode: " ++ mode)

end TaskRunner.Shell.Builtins
