import TaskRunner.Regex.Reader
import TaskRunner.Shell.Evaluation.Simple

/-!
# Conditions

The conditions between double brackets: questions about texts, numbers and files, joined by "and", "or"
and "not". Words are expanded only when they are needed. A text can be compared with a pattern, or
searched for a regular expression, whose groups are then put in an array.
-/

namespace TaskRunner.Shell.Evaluation

open Processes

/-- A word of a condition as it is shown. -/
def shownOperand (s : String) : String := if s = "" then "''" else s

/-- The value of an operand that is an expression; none, with a message, if it has none. -/
def operandValue (s : String) : Sh (Option Int) := do
  if s = "" then return some 0
  match ← Expansion.valueOf s with
  | .ok n => return some n
  | .error () => return none

/-- Compares two expressions. -/
def compareValues (a op b : String) : Sh Bool := do
  match ← operandValue a with
  | none => return false
  | some x =>
    match ← operandValue b with
    | none => return false
    | some y =>
      return match op with
        | "-eq" => x == y
        | "-ne" => x != y
        | "-lt" => x < y
        | "-le" => x ≤ y
        | "-gt" => y < x
        | _ => y ≤ x

/-- Whether a text matches a pattern. -/
def matchesPattern (s : State) (text : String) (cells : List Glob.Cell) : Bool :=
  Glob.matchesText (Sh.style s true (Sh.isOn s "nocasematch")) cells text

/-- Searches a text for a regular expression, whose groups are put in an array. None if it is not one. -/
def matchesRegex (text : String) (cells : List Glob.Cell) : Sh (Option Bool) := do
  let s ← get
  match Regex.ofCells ⟨true, true, false, false, false⟩ (Glob.decode (Sh.locale s) cells) with
  | .error _ => return none
  | .ok (r, groups) =>
    let subject := Regex.Subject.ofList ((Sh.locale s).characters text) (Sh.isOn s "nocasematch")
    match Regex.search r subject true 0 with
    | some m =>
      let found := (List.range (groups + 1)).map fun n => Text.Octets.ofCharacters ((m.group? subject n).getD [])
      Arrays.putAll "BASH_REMATCH" found
      return some true
    | none =>
      Arrays.putAll "BASH_REMATCH" []
      return some false

/-- Whether a condition holds; none if it cannot be answered. -/
def holds (k : Knot) (negated : Bool) : Condition → Sh (Option Bool)
  | .word w => do
    let s ← Expansion.text k.means w
    trace k.means 2 ("[[ " ++ (if negated then "! " else "") ++ "-n " ++ shownOperand s ++ " ]]")
    return some (s != "")
  | .unary op w => do
    let s ← Expansion.text k.means w
    trace k.means 2 ("[[ " ++ (if negated then "! " else "") ++ op ++ " " ++ shownOperand s ++ " ]]")
    let around ← Builtins.surroundings
    match op.toList with
    | ['-', c] => return some (Test.isThere around c s)
    | _ => return some false
  | .binary left op right => do
    let a ← Expansion.text k.means left
    let display (b : String) : Sh Unit :=
      trace k.means 2 ("[[ " ++ (if negated then "! " else "") ++ shownOperand a ++ " " ++ op ++ " " ++ shownOperand b ++ " ]]")
    match op with
    | "=" | "==" | "!=" =>
      let cells ← Expansion.cells k.means right
      display (String.join (cells.map fun (c, quoted) => if quoted then "\\" ++ String.singleton c else String.singleton c))
      let same := matchesPattern (← get) a cells
      return some (if op = "!=" then !same else same)
    | "=~" =>
      let cells ← Expansion.cells k.means right
      display (String.join (cells.map fun (c, quoted) => if quoted then "\\" ++ String.singleton c else String.singleton c))
      matchesRegex a cells
    | "<" | ">" | "-nt" | "-ot" | "-ef" =>
      let b ← Expansion.text k.means right
      display b
      let around ← Builtins.surroundings
      return (Test.compare around (fun s => s) a op b).toOption
    | op =>
      let b ← Expansion.text k.means right
      display b
      return some (← compareValues a op b)
  | .negation c => do return (← holds k (!negated) c).map (!·)
  | .both a b => do
    match ← holds k negated a with
    | some true => holds k false b
    | answer => return answer
  | .either a b => do
    match ← holds k negated a with
    | some false => holds k false b
    | answer => return answer
  | .grouped c => holds k negated c

/-- Answers a condition. -/
def answer (k : Knot) (m : Mode) (line : Nat) (c : Condition) : Sh Unit := do
  setLine line
  noteCommand (Listing.line (← get).documents (.condition line c))
  answerEvent k "DEBUG"
  let before := (← get).command
  modify fun s => { s with command := some "[[" }
  let found ← holds k false c
  modify fun s =>
    let status := match found with
      | some true => 0
      | some false => 1
      | none => 2
    { s with command := before, status, statuses := [status] }
  checkFailure k m

/-- Carries out an expression as a command. -/
def calculate (k : Knot) (m : Mode) (line : Nat) (expression : Word) : Sh Unit := do
  setLine line
  noteCommand (Listing.line (← get).documents (.arithmetic line expression))
  answerEvent k "DEBUG"
  let before := (← get).command
  let text ← Expansion.document k.means expression
  trace k.means 2 ("(( " ++ text ++ " ))")
  modify fun s => { s with command := some "((" }
  let found ← tryCatch (Expansion.valueOf text) fun
    | .error _ => return .error ()
    | jump => throw jump
  modify fun s =>
    let status := match found with
      | .ok 0 | .error () => 1
      | .ok _ => 0
    { s with command := before, status, statuses := [status] }
  checkFailure k m

end TaskRunner.Shell.Evaluation
