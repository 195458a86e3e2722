import TaskRunner.Assoc
import TaskRunner.Json.Reader
import TaskRunner.Runfile.Statement

/-!
# Reading a Runfile

A Runfile is written as a list of statements, each a list that begins with the word for what it does.
Lines whose first character is a number sign are comments; a Runfile with nothing but blanks and
comments has no statements. A Runfile may also be written as lines that abbreviate statements.
-/

namespace TaskRunner.Runfile

/-- The field of a table. -/
def field? (name : String) : Data → Option Data
  | .table fields => fields.lookup name
  | _ => none

/-- The text of a value where a text is expected. -/
def textOf (d : Option Data) : String := (d.map Data.display).getD ""

/-- The items of a value where a list is expected. -/
def itemsOf : Option Data → List Data
  | some (.list ds) => ds
  | _ => []

/-- The settings of a command, as far as a step gives them. -/
def optionsOf (step : Data) : CommandOptions where
  check := ((field? "check" step).map Data.isTruthy).getD true
  capture := ((field? "capture" step).map Data.isTruthy).getD false
  env := (field? "env" step).getD .null

/-- What a step does. -/
def actionOf (step : Data) : Action :=
  let text (name : String) := textOf (field? name step)
  let items (name : String) := itemsOf (field? name step)
  let value (name : String) := (field? name step).getD .null
  match text "do" with
  | "run" =>
    let forward := ((field? "forward" step).map Data.isTruthy).getD false
    .run (value "name") (if forward then none else some (items "args"))
  | "chain" => .chain
  | "sh" => .sh (value "command") (optionsOf step)
  | "get" => .get (text "name")
  | "call" => .call (text "name") (items "args")
  | "set" => .set (text "name") (value "value")
  | "print" => .print (value "text")
  | "input" => .input
  | "chdir" => .chdir (text "path")
  | "mkdir" => .mkdir (text "path")
  | "rmdir" => .rmdir (text "path")
  | "raise" => .raise (text "kind") (items "args")
  | "return" => .give (value "value")
  | "return_last" => .giveLast
  | other => .raise "ValueError" [.text ("unknown step " ++ other)]

/-- A step of a body. -/
def stepOf (step : Data) : Step where
  action := actionOf step
  catches := ((field? "catch" step).map Data.isTruthy).getD false

/-- The body that a table stands for: its steps, or its value. -/
def bodyOf (d : Data) : Body :=
  match field? "steps" d with
  | some (.list steps) => .steps (steps.map stepOf)
  | _ => .data ((field? "value" d).getD .null)

mutual

/-- A statement, from the list it is written as; `depth` bounds how deeply statements are inside one another. -/
def statementOf (depth : Nat) (items : List Data) : Statement :=
  let rest := items.drop 1
  let argument (i : Nat) := (rest[i]?).getD .null
  let text (i : Nat) := textOf rest[i]?
  match textOf items[0]? with
  | "doc" => .doc (argument 0)
  | "run" => .run (argument 0) (bodyOf (argument 1))
  | "declare" => .declare (argument 0) (text 1)
  | "apply" => .apply (text 0) (bodyOf (argument 1))
  | "deco" => .deco (itemsOf rest[0]?) (bodyOf (argument 1))
  | "set" => .set (text 0) (argument 1)
  | "def" => .define (text 0)
  | "get" => .get (text 0)
  | "raise" => .raise (text 0) (rest.drop 1)
  | "try" =>
    match depth with
    | 0 => .attempt []
    | n + 1 => .attempt (statementsOf n (itemsOf rest[0]?))
  | "print" => .print (argument 0)
  | "chdir" => .chdir (text 0)
  | other => .raise "ValueError" [.text ("unknown statement " ++ other)]
  termination_by (depth, 0)

/-- The statements of a list. -/
def statementsOf (depth : Nat) (ds : List Data) : List Statement :=
  match ds with
  | [] => []
  | d :: rest => statementOf depth (itemsOf (some d)) :: statementsOf depth rest
  termination_by (depth, ds.length + 1)

end

/-- Whether a line is a comment. -/
def isComment (line : List Char) : Bool :=
  match line.dropWhile fun c => c == ' ' || c == '\t' || c == '\x0c' with
  | '#' :: _ => true
  | _ => false

/-- The text without its comments. -/
def withoutComments (s : String) : String :=
  let lines := (splitOn '\n' s.toList).filter fun line => !isComment line
  String.ofList (List.intercalate ['\n'] lines)

/-- The statements that lines stand for, if each is an abbreviation. -/
def expand? (abbreviations : Assoc String (List Statement)) : List String → Option (List Statement)
  | [] => some []
  | line :: rest => do return (← abbreviations.find? line) ++ (← expand? abbreviations rest)

/-- The lines of a text that hold more than blanks. -/
def linesOf (s : String) : List String :=
  ((splitOn '\n' s.toList).filter fun line => !line.all Char.isWhitespace).map String.ofList

/-- The statements that a text is written for. -/
def read (abbreviations : Assoc String (List Statement)) (s : String) : Except Json.Fault (List Statement) :=
  let code := withoutComments s
  if code.toList.all fun c => Json.isBlank c || c == '\x0c' then .ok []
  else match expand? abbreviations (linesOf code) with
  | some statements => .ok statements
  | none => do
    match ← Json.read code with
    | .list ds => return statementsOf s.length ds
    | _ => throw (.expected "a list of statements" code.length)

end TaskRunner.Runfile
