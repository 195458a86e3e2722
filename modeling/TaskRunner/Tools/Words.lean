import TaskRunner.Regex.Reader
import TaskRunner.Shell.Format
import TaskRunner.Shell.Test
import TaskRunner.Tools.Streams

/-!
# Programs about their arguments

Programs that need nothing but their arguments: they write them, take paths apart, compute with them, or
answer whether something holds.
-/

namespace TaskRunner.Tools.Words

open Processes

/-! ## Writing -/

/-- Writes its arguments. -/
def echo (args : List String) : Tool Nat := do
  let isFlag (s : String) : Bool := match s.toList with
    | '-' :: c :: cs => (c :: cs).all ['n', 'e', 'E'].contains
    | _ => false
  let flags := (args.takeWhile isFlag).flatMap fun s => s.toList.drop 1
  let text := " ".intercalate (args.dropWhile isFlag)
  let escapes : Bool := (flags.reverse.find? fun c => c == 'e' || c == 'E') == some 'e'
  let (s, ended) := if escapes then Shell.Escapes.convert Shell.Escapes.ofEcho text else (text, false)
  Tool.emit (if ended ∨ flags.contains 'n' then s else s ++ "\n")
  return 0

/-- Writes a format with its arguments. -/
def printf (args : List String) : Tool Nat := do
  let args := if args.head? = some "--" then args.drop 1 else args
  match args with
  | [] => Tool.misuse 1 "missing operand"
  | format :: args =>
    let (events, status) := Shell.Format.run .program format args ⟨Calendar.universal, 0, 0, ← Tool.locale⟩
    for event in events do
      match event with
      | .out s => Tool.emit s
      | .complaint s => Tool.say s
    return status

/-- The conversions of a format: what follows each `%` that stands for no `%` itself. -/
def conversions : Nat → List Char → List (List Char)
  | 0, _ => []
  | n + 1, cs => match cs.dropWhile (· != '%') with
    | [] => []
    | '%' :: '%' :: rest => conversions n rest
    | _ :: rest => rest :: conversions n rest

/-- Writes a number by a format with one conversion. -/
def written (format : String) (e : Numbers.Exact) : Except String String :=
  let quoted := Quoting.local_ format
  match conversions (format.length + 1) format.toList with
  | [] => .error ("format " ++ quoted ++ " has no % directive")
  | [one] =>
    match one.dropWhile fun c => ['-', '+', '#', '0', ' ', '\x27', '.'].contains c || c.isDigit with
    | [] => .error ("format " ++ quoted ++ " ends in %")
    | c :: _ =>
      if ['e', 'f', 'g', 'a', 'E', 'F', 'G', 'A'].contains c then
        -- Backslashes mean nothing here.
        let plain := String.join (format.toList.map fun c => if c = '\x5c' then "\\\\" else String.singleton c)
        .ok (Shell.Format.written (Shell.Format.run .program plain [e.toText]).1)
      else .error ("format " ++ quoted ++ " has unknown %" ++ String.singleton c ++ " directive")
  | _ => .error ("format " ++ quoted ++ " has too many % directives")

/-! ## Paths -/

/-- A path without slashes at its end, unless it has nothing else. -/
def withoutSlashes (path : String) : String :=
  let kept := (path.toList.reverse.dropWhile (· == '/')).reverse
  if kept = [] ∧ path ≠ "" then "/" else String.ofList kept

/-- The last name of a path. -/
def lastName (path : String) : String :=
  let path := withoutSlashes path
  if path = "/" then path else String.ofList (path.toList.reverse.takeWhile (· != '/')).reverse

/-- The path of the directory around what a path names. -/
def around (path : String) : String :=
  let cs := (withoutSlashes path).toList.reverse.dropWhile (· != '/')
  match cs with
  | [] => "."
  | cs => withoutSlashes (String.ofList cs.reverse)

/-- Writes the last names of paths. -/
def basename (args : List String) : Tool Nat := do
  let g ← Options.read
    { known := [flag "a" "multiple", taking "s" "suffix", flag "z" "zero"], first := true } args
  let ending := if g.has "z" then "\x00" else "\n"
  let cut (suffix : Option String) (path : String) : String :=
    let name := lastName path
    match suffix with
    | some s => if s ≠ name ∧ name.endsWith s ∧ name ≠ "/" then (name.dropEnd s.length).toString else name
    | none => name
  if g.has "a" ∨ g.has "s" then
    if g.operands = [] then Tool.misuse 1 "missing operand"
    for path in g.operands do Tool.emit (cut (g.last? "s") path ++ ending)
    return 0
  match g.operands with
  | [] => Tool.misuse 1 "missing operand"
  | [path] =>
    Tool.emit (cut none path ++ ending)
    return 0
  | [path, suffix] =>
    Tool.emit (cut (some suffix) path ++ ending)
    return 0
  | _ :: _ :: extra :: _ => Options.extra 1 extra

/-- Writes the paths of the directories around paths. -/
def dirname (args : List String) : Tool Nat := do
  let g ← Options.read { known := [flag "z" "zero"], first := true } args
  let ending := if g.has "z" then "\x00" else "\n"
  if g.operands = [] then Tool.misuse 1 "missing operand"
  for path in g.operands do Tool.emit (around path ++ ending)
  return 0

/-- What is wrong with a path, if anything is. -/
def faultOf (portable leading : Bool) (path : String) : Tool (Option String) := do
  let names := (path.splitOn "/").filter (· ≠ "")
  let isPortable (c : Char) : Bool := c.isAlphanum || c == '.' || c == '_' || c == '-' || c == '/'
  if leading ∧ names.any fun n => n.startsWith "-" then
    return some ("leading '-' in a component of file name " ++ Quoting.always path)
  if (portable ∨ leading) ∧ path = "" then return some "empty file name"
  if portable then
    match ((← Tool.locale).characters path).find? fun c => !isPortable c with
    | some c =>
      return some ("non-portable character " ++ Quoting.local_ (Text.Octets.ofChar c) ++ " in file name " ++ Quoting.always path)
    | none => pure ()
  else
    let (fs, place) ← Proc.files
    match fs.walk true place (Text.Octets.toText path) with
    | .error .notDirectory => return some (Quoting.file path ++ ": " ++ Refusal.message .notDirectory)
    | .error .noEntry => if path = "" then return some (Quoting.file path ++ ": " ++ Refusal.message .noEntry)
    | _ => pure ()
  let mostPath := if portable then 256 else 4096
  if mostPath ≤ path.length then
    return some ("limit " ++ toString (mostPath - 1) ++ " exceeded by length " ++ toString path.length ++ " of file name "
      ++ Quoting.always path)
  let most := if portable then 14 else 255
  match names.find? fun n => most < n.length with
  | some n =>
    return some ("limit " ++ toString most ++ " exceeded by length " ++ toString n.length ++ " of file name component "
      ++ Quoting.local_ n)
  | none => return none

/-- Says what is wrong with paths. -/
def pathchk (args : List String) : Tool Nat := do
  let g ← Options.read { known := [flag "p", flag "P", word "portability"] } args
  if g.operands = [] then Tool.misuse 1 "missing operand"
  let every := g.has "portability"
  Tool.worst (fun path => do
    match ← faultOf (g.has "p" || every) (g.has "P" || every) path with
    | some message =>
      Tool.say message
      return 1
    | none => return 0) g.operands

/-! ## Answers -/

/-- Answers that all is well. -/
def yea (_ : List String) : Tool Nat := return 0

/-- Answers that something is not. -/
def nay (_ : List String) : Tool Nat := return 1

/-- Answers a condition. -/
def condition (args : List String) : Tool Nat := do
  let (files, place) ← Proc.files
  let channel ← Proc.observe fun pid k => k.channel? pid
  let messages := Shell.Test.Extended.programMessages (args.getLast?.getD "")
  match Shell.Test.Extended.answer messages ⟨files, place, fun _ => false, fun _ => false, fun _ => false, true, channel⟩ args with
  | .ok holds => return if holds then 0 else 1
  | .error message => Tool.fail 2 message

/-- Answers a condition in brackets. -/
def bracket (args : List String) : Tool Nat := do
  if args.getLast? ≠ some "]" then Tool.fail 2 ("missing " ++ Quoting.local_ "]")
  condition args.dropLast

/-! ## Computing -/

/-- A value of an expression: bytes that may be a whole number. -/
abbrev Value := String

/-- Whether a value counts as nothing. -/
def isNothing (v : Value) : Bool :=
  match v.toList with
  | [] => true
  | '-' :: cs => cs != [] && cs.all (· == '0')
  | cs => cs.all (· == '0')

/-- The number that a value is. -/
def numberOf? (v : Value) : Option Int :=
  match v.toList with
  | '+' :: _ => none
  | _ => Numbers.integer? v

/-- A value of an answer. -/
def ofBool (b : Bool) : Value := if b then "1" else "0"

/-- The arguments that have been read, the last first, and those that are left. -/
structure Place where
  read : List String
  left : List String

/-- A step of computing. -/
abbrev Computing (α : Type) := StateT Place Tool α

/-- Stops because of how an expression is written. -/
def wrong {α : Type} (message : String) : Computing α := fun _ => Tool.fail 2 message

/-- Goes past the next argument. -/
def skip : Computing Unit := modify fun p => match p.left with
  | a :: rest => ⟨a :: p.read, rest⟩
  | [] => p

/-- The next argument, if it is one of some; it is taken then. -/
def nextOf? (words : List String) : Computing (Option String) := do
  match (← get).left with
  | a :: _ =>
    if words.contains a then
      skip
      return some a
    else return none
  | [] => return none

/-- Stops if no argument is left. -/
def needMore : Computing Unit := do
  let p ← get
  if p.left = [] then wrong ("syntax error: missing argument after " ++ Quoting.local_ (p.read.headD ""))

/-- The next argument. -/
def take : Computing String := do
  needMore
  let a := (← get).left.headD ""
  skip
  return a

/-- What an expression matches at the beginning of a value. -/
def matched (value pattern : Value) : Computing Value := do
  let l : Text.Locale ← StateT.lift Tool.locale
  match Regex.ofList ⟨false, false, false, false, true⟩ (l.characters pattern) with
  | .error fault => wrong fault.message
  | .ok (r, groups) =>
    let subject := Regex.Subject.ofList (l.characters value) false
    match Regex.matchAt r subject true 0 with
    | some m =>
      if groups = 0 then return toString m.stop
      else return Text.Octets.ofCharacters ((m.group? subject 1).getD [])
    | none => return if groups = 0 then "0" else ""

/-- Compares values: as numbers if both are. -/
def compareBy (op : String) (a b : Value) : Bool :=
  let answer (below same : Bool) : Bool := match op with
    | "<" => below
    | "<=" => below || same
    | "=" | "==" => same
    | "!=" => !same
    | ">=" => !below
    | _ => !below && !same
  match numberOf? a, numberOf? b with
  | some m, some n => answer (m < n) (m == n)
  | _, _ => answer (a < b) (a == b)

/-- Two values as numbers. -/
def numbers (a b : Value) : Computing (Int × Int) := do
  match numberOf? a, numberOf? b with
  | some m, some n => return (m, n)
  | _, _ => wrong "non-integer argument"

/-- Part of a value. -/
def part (l : Text.Locale) (value start size : Value) : Value :=
  match numberOf? start, numberOf? size with
  | some i, some n =>
    if i ≤ 0 ∨ n ≤ 0 then "" else Text.Octets.ofCharacters (((l.characters value).drop (i.toNat - 1)).take n.toNat)
  | _, _ => ""

mutual

/-- Alternatives: the first value that is not nothing. -/
def alternatives : Nat → Bool → Computing Value
  | 0, _ => return ""
  | n + 1, counts => do
    let first ← conjunctions n counts
    alternativesFrom n counts first

/-- Alternatives after the first. -/
def alternativesFrom : Nat → Bool → Value → Computing Value
  | 0, _, v => return v
  | n + 1, counts, v => do
    match ← nextOf? ["|"] with
    | none => return v
    | some _ =>
      let w ← conjunctions n (counts && isNothing v)
      alternativesFrom n counts (if !isNothing v then v else if isNothing w then "0" else w)

/-- Values that all have to be something. -/
def conjunctions : Nat → Bool → Computing Value
  | 0, _ => return ""
  | n + 1, counts => do
    let first ← comparisons n counts
    conjunctionsFrom n counts first

/-- Values after the first. -/
def conjunctionsFrom : Nat → Bool → Value → Computing Value
  | 0, _, v => return v
  | n + 1, counts, v => do
    match ← nextOf? ["&"] with
    | none => return v
    | some _ =>
      let w ← comparisons n (counts && !isNothing v)
      conjunctionsFrom n counts (if isNothing v || isNothing w then "0" else v)

/-- Comparisons. -/
def comparisons : Nat → Bool → Computing Value
  | 0, _ => return ""
  | n + 1, counts => do
    let first ← sums n counts
    comparisonsFrom n counts first

/-- Comparisons after the first value. -/
def comparisonsFrom : Nat → Bool → Value → Computing Value
  | 0, _, v => return v
  | n + 1, counts, v => do
    match ← nextOf? ["<", "<=", "=", "==", "!=", ">=", ">"] with
    | none => return v
    | some op =>
      let w ← sums n counts
      comparisonsFrom n counts (ofBool (counts && compareBy op v w))

/-- Sums and differences. -/
def sums : Nat → Bool → Computing Value
  | 0, _ => return ""
  | n + 1, counts => do
    let first ← products n counts
    sumsFrom n counts first

/-- Sums after the first value. -/
def sumsFrom : Nat → Bool → Value → Computing Value
  | 0, _, v => return v
  | n + 1, counts, v => do
    match ← nextOf? ["+", "-"] with
    | none => return v
    | some op =>
      let w ← products n counts
      if ¬ counts then sumsFrom n counts v
      else
        let (a, b) ← numbers v w
        sumsFrom n counts (toString (if op = "+" then a + b else a - b))

/-- Products and quotients. -/
def products : Nat → Bool → Computing Value
  | 0, _ => return ""
  | n + 1, counts => do
    let first ← matches_ n counts
    productsFrom n counts first

/-- Products after the first value. -/
def productsFrom : Nat → Bool → Value → Computing Value
  | 0, _, v => return v
  | n + 1, counts, v => do
    match ← nextOf? ["*", "/", "%"] with
    | none => return v
    | some op =>
      let w ← matches_ n counts
      if ¬ counts then productsFrom n counts v
      else
        let (a, b) ← numbers v w
        if op ≠ "*" ∧ b = 0 then wrong "division by zero"
        productsFrom n counts (toString (match op with
          | "*" => a * b
          | "/" => a.tdiv b
          | _ => a.tmod b))

/-- Matches. -/
def matches_ : Nat → Bool → Computing Value
  | 0, _ => return ""
  | n + 1, counts => do
    let first ← terms n counts
    matchesFrom n counts first

/-- Matches after the first value. -/
def matchesFrom : Nat → Bool → Value → Computing Value
  | 0, _, v => return v
  | n + 1, counts, v => do
    match ← nextOf? [":"] with
    | none => return v
    | some _ =>
      let w ← terms n counts
      let found ← if counts then matched v w else pure v
      matchesFrom n counts found

/-- Values, functions of values, and expressions in parentheses. -/
def terms : Nat → Bool → Computing Value
  | 0, _ => return ""
  | n + 1, counts => do
    match ← nextOf? ["+", "length", "match", "index", "substr"] with
    | some "+" => take
    | some "length" =>
      let v ← terms n counts
      let l : Text.Locale ← StateT.lift Tool.locale
      return toString (l.characters v).length
    | some "match" =>
      let v ← terms n counts
      let w ← terms n counts
      if counts then matched v w else return v
    | some "index" =>
      let v ← terms n counts
      let w ← terms n counts
      let l : Text.Locale ← StateT.lift Tool.locale
      let among := l.characters w
      match (l.characters v).findIdx? among.contains with
      | some i => return toString (i + 1)
      | none => return "0"
    | some _ =>
      let v ← terms n counts
      let i ← terms n counts
      let k ← terms n counts
      let l : Text.Locale ← StateT.lift Tool.locale
      return part l v i k
    | none =>
      needMore
      match ← nextOf? ["(", ")"] with
      | some "(" =>
        let v ← alternatives n counts
        match (← get).left with
        | [] => wrong ("syntax error: expecting ')' after " ++ Quoting.local_ ((← get).read.headD ""))
        | ")" :: _ =>
          skip
          return v
        | a :: _ => wrong ("syntax error: expecting ')' instead of " ++ Quoting.local_ a)
      | some _ => wrong "syntax error: unexpected ')'"
      | none => take

end

/-- Computes the value of an expression. -/
def expr (args : List String) : Tool Nat := do
  let args := if args.head? = some "--" then args.drop 1 else args
  if args = [] then Tool.misuse 2 "missing operand"
  let (v, p) ← (alternatives (20 * args.length + 20) true).run ⟨[], args⟩
  match p.left with
  | a :: _ => Tool.fail 2 ("syntax error: unexpected argument " ++ Quoting.local_ a)
  | [] =>
    Tool.emitLine v
    return if isNothing v then 1 else 0

end TaskRunner.Tools.Words
