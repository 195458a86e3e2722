import TaskRunner.Tools.Records.Evaluation
import TaskRunner.Tools.Records.Grammar
import TaskRunner.Tools.Words

/-!
# The program that goes through records

The rules of a program are followed before the input, for every record of it, and after it. The program is
an argument or stands in files; names can be given values first, and between the inputs.
-/

namespace TaskRunner.Tools.Records

open Processes

/-! ## Going through the input -/

/-- Does the statements of a rule; without any, writes the record. -/
def follow (body : Option (List Stmt)) : Work Unit := do
  match body with
  | some statements => discard <| executeAll Proc.endless statements
  | none => discard <| execute Proc.endless (.print [] .output)

/-- Whether a rule is for the record. -/
def isFor (number : Nat) : Scope → Work Bool
  | .before | .after => return false
  | .all => return true
  | .when e => return (← evaluate Proc.endless e).holds
  | .range first last => do
    let begun := (← get).active.contains number
    if ¬ begun ∧ ¬ (← evaluate Proc.endless first).holds then return false
    let ends := (← evaluate Proc.endless last).holds
    modify fun s =>
      { s with active := if ends then s.active.filter (· != number) else if begun then s.active else number :: s.active }
    return true

/-- Follows the rules for a record. -/
def followAll : List (Rule × Nat) → Work Unit
  | [] => return
  | (r, i) :: rest => do
    if ← isFor i r.scope then follow r.body
    followAll rest

/-- Goes through the records of the input. -/
def goThrough (rules : List (Rule × Nat)) : Nat → Work Unit
  | 0 => return
  | n + 1 => do
    match ← nextRecord unescape Proc.endless with
    | none => return
    | some text =>
      setRecord (.read text)
      Proc.step
      tryCatch (followAll rules) fun
        | .next => pure ()
        | .nextFile => closeInput
        | halt => throw halt
      goThrough rules n

/-- Does something that may come to its end early; whether it did not. -/
def untilExit (m : Work Unit) : Work Bool :=
  tryCatch (do
    m
    return true) fun
    | .exit => pure false
    | halt => throw halt

/-- Whether a rule is of a kind. -/
def Rule.isBefore (r : Rule) : Bool := match r.scope with
  | .before => true
  | _ => false

/-- Whether a rule is followed after the input. -/
def Rule.isAfter (r : Rule) : Bool := match r.scope with
  | .after => true
  | _ => false

/-- Follows the rules of a program. -/
def run (rules : List Rule) : Work Unit := do
  let before := rules.filter Rule.isBefore
  let after := rules.filter Rule.isAfter
  let others := (rules.filter fun r => !r.isBefore && !r.isAfter).zipIdx
  let goesOn ← untilExit (before.forM fun r => follow r.body)
  if goesOn ∧ ¬ (others.isEmpty ∧ after.isEmpty) then discard <| untilExit (goThrough others Proc.endless)
  discard <| untilExit (after.forM fun r => follow r.body)

/-- Gives up all that is written to and read from. -/
def closeAll : Work Unit := do
  let s ← get
  for d in s.drains do discard <| closeDrain d
  for o in s.sources do tool (Tool.closeInput o.source.descriptor)

/-! ## Arguments -/

/-- What the arguments ask for. -/
structure Asked where
  /-- The files of the program. -/
  files : List String
  /-- What names are given, in order. -/
  settings : List (String × String)
  operands : List String

/-- What is said if there is no program. -/
def usage : String :=
  "Usage: mawk [Options] [Program] [file ...]\n\nProgram:\n    The -f option value is the name of a file containing program text.\n"
    ++ "    If no -f option is given, a \"--\" ends option processing; the following\n    parameters are the program text.\n\n"
    ++ "Options:\n    -f program-file  Program  text is read from file instead of from the\n"
    ++ "                     command-line.  Multiple -f options are accepted.\n"
    ++ "    -F value         sets the field separator, FS, to value.\n"
    ++ "    -v var=value     assigns value to program variable var.\n    --               unambiguous end of options.\n\n"
    ++ "    Implementation-specific options are prefixed with \"-W\".  They can be\n    abbreviated:\n\n"
    ++ "    -W version       show version information and exit.\n"
    ++ "    -W dump          show assembler-like listing of program and exit.\n"
    ++ "    -W help          show this message and exit.\n"
    ++ "    -W interactive   set unbuffered output, line-buffered input.\n"
    ++ "    -W exec file     use file as program as well as last option.\n"
    ++ "    -W random=number set initial random seed.\n    -W sprintf=number adjust size of sprintf buffer.\n"
    ++ "    -W posix_space   do not consider \"\\n\" a space.\n    -W usage         show this message and exit.\n"

/-- Stops because of the arguments. -/
def misuse {α : Type} (message : String) : Tool α := do
  Tool.note ((← Tool.name) ++ ": " ++ message ++ "\n")
  throw wrongStatus

/-- Reads the arguments. -/
def readArguments : Nat → Asked → List String → Tool Asked
  | 0, a, _ => return a
  | _, a, [] => return a
  | n + 1, a, arg :: rest => do
    if arg = "--" then return { a with operands := rest }
    match arg.toList with
    | '-' :: letter :: value =>
      if letter = 'f' ∨ letter = 'F' ∨ letter = 'v' ∨ letter = 'W' then
        let (value, rest) ← match value, rest with
          | [], v :: rest => pure (v, rest)
          | [], [] => if letter = 'F' then pure ("", []) else misuse ("option " ++ arg ++ " lacks argument")
          | value, rest => pure (String.ofList value, rest)
        if letter = 'f' then readArguments n { a with files := a.files ++ [value] } rest
        else if letter = 'F' then readArguments n { a with settings := a.settings ++ [("FS", value)] } rest
        else if letter = 'v' then
          match assignment? value with
          | some setting => readArguments n { a with settings := a.settings ++ [setting] } rest
          | none => misuse ("improper assignment: -v " ++ value)
        else readArguments n a rest
      else misuse ("not an option: " ++ arg)
    | _ => return { a with operands := arg :: rest }

/-- The text of the program, and the name of its file. -/
def programText (a : Asked) : Tool (Option String × String × List String) := do
  match a.files with
  | [] =>
    match a.operands with
    | text :: rest => return (none, text, rest)
    | [] =>
      if a.settings = [] then Tool.note usage
      throw 0
  | files =>
    let mut text := ""
    for file in files do
      match ← Tool.contentOf file with
      | .ok bytes =>
        let piece := Text.Octets.ofBytes bytes
        text := text ++ piece ++ (if piece.endsWith "\n" then "" else "\n")
      | .error r => misuse ("cannot open " ++ file ++ " (" ++ r.message ++ ")")
    return (files.getLast?, text, a.operands)

/-- Goes through records as a program says. -/
def awk (args : List String) : Tool Nat := do
  modify fun s => { s with zero := Words.lastName s.zero }
  let asked ← readArguments (args.length + 1) ⟨[], [], []⟩ args
  let (file, text, operands) ← programText asked
  match readCode file text with
  | .error faults =>
    for fault in faults do Tool.note ((← Tool.name) ++ ": " ++ fault ++ "\n")
    return wrongStatus
  | .ok code =>
    let st ← get
    let scalars : List (String × Value) :=
      [("FS", .text " "), ("OFS", .text " "), ("ORS", .text "\n"), ("RS", .text "\n"), ("SUBSEP", .text "\x1c"),
        ("CONVFMT", .text "%.6g"), ("OFMT", .text "%.6g"), ("NR", .number 0), ("FNR", .number 0), ("FILENAME", .text ""),
        ("RSTART", .number 0), ("RLENGTH", .number (-1)), ("ARGC", .number (Float.ofNat (operands.length + 1)))]
    let arguments := (st.zero :: operands).zipIdx.foldl (fun (t : Table Value) (s, i) => t.useNumber i (some (.read s))) .empty
    let environment := st.environment.foldl (fun (t : Table Value) (name, value) => t.useText name (some (.read value))) .empty
    let seed := (← Proc.now) / Dates.perSecond
    let session : Session :=
      { tool := st, code, scalars := .ofList scalars, arrays := .ofList [(0, arguments), (1, environment)]
        names := .ofList [("ARGV", 0), ("ENVIRON", 1)], nextArray := 2, frame := [], record := some .missing, fields := none
        separator := .blanks, delimiter := .byte 10, input := none, operand := 0, started := false, sources := []
        drains := [], patterns := {}, active := [], status := 0, seed := .number (Float.ofNat seed)
        random := nextRandom seed }
    let whole : Work Nat := do
      let status ← tryCatch (do
        for (name, value) in asked.settings do setScalar name (.read (unescape value))
        run code.rules
        return (← get).status) fun
        | .quit status => pure status
        | _ => return (← get).status
      closeAll
      return status
    Proc.within whole session
      (fun _ s => do
        set s.tool
        return wrongStatus)
      (fun status s => do
        set s.tool
        return status)

end TaskRunner.Tools.Records
