import TaskRunner.Tools.Numbers
import TaskRunner.Tools.Quoting
import TaskRunner.Tools.Tool

/-!
# Options of programs

Options are letters after one hyphen, which can stand together, or words after two, which can be cut short
as long as they are not ambiguous. They may stand anywhere among the other arguments, unless the program
only takes them before the first of these.
-/

namespace TaskRunner.Tools

open Processes

/-- Whether an option takes an argument. -/
inductive Arity where
  | none
  | required
  | optional
  deriving DecidableEq

/-- An option that a program knows. -/
structure Known where
  /-- What the option is known by: its letter, or its word if it has no letter. -/
  key : String
  word : Option String
  arity : Arity

/-- An option without an argument, by its letter and its word. -/
def flag (letter : String) (word : String := "") : Known := ⟨letter, if word = "" then none else some word, .none⟩

/-- An option with an argument. -/
def taking (letter : String) (word : String := "") : Known := ⟨letter, if word = "" then none else some word, .required⟩

/-- An option that may have an argument. -/
def mayTake (letter : String) (word : String := "") : Known := ⟨letter, if word = "" then none else some word, .optional⟩

/-- An option that is only a word. -/
def word (s : String) : Known := ⟨s, some s, .none⟩

/-- An option that is only a word, with an argument. -/
def wordTaking (s : String) : Known := ⟨s, some s, .required⟩

/-- An option that is only a word, which may have an argument. -/
def wordMayTake (s : String) : Known := ⟨s, some s, .optional⟩

/-- The options that were given, in order, and the other arguments. -/
structure Given where
  options : List (String × Option String)
  operands : List String

namespace Given

/-- Whether an option was given. -/
def has (g : Given) (key : String) : Bool := g.options.any fun (k, _) => k == key

/-- The argument of an option that was given last. -/
def last? (g : Given) (key : String) : Option String := (g.options.reverse.find? fun (k, _) => k == key).bind Prod.snd

/-- The last one of some options that was given. -/
def lastOf? (g : Given) (keys : List String) : Option String :=
  (g.options.reverse.find? fun (k, _) => keys.contains k).map Prod.fst

/-- The arguments of an option. -/
def all (g : Given) (key : String) : List String := g.options.filterMap fun (k, v) => if k == key then v else none

end Given

namespace Options

/-- How options are read. -/
structure Rules where
  known : List Known
  /-- The status of a program that is called in the wrong way. -/
  status : Nat := 1
  /-- Whether options stand only before the first other argument. -/
  first : Bool := false
  /-- What is said after a message about options, if it is not where to find out more. -/
  usage : Option String := none

/-- Stops because of an option. -/
def Rules.wrong {α : Type} (r : Rules) (message : String) : Tool α := do
  Tool.say message
  match r.usage with
  | none => Tool.hint
  | some text => Tool.note text
  throw r.status

/-- The option of a letter. -/
def ofLetter (known : List Known) (c : Char) : Option Known := known.find? fun k => k.key == String.singleton c

/-- The options that a word may stand for. -/
def ofWord (known : List Known) (s : String) : List Known :=
  match known.filter fun k => k.word == some s with
  | [] => known.filter fun k => (k.word.map fun w => w.startsWith s).getD false
  | found => found.take 1

/-- Reads letters: the options, the last first, and the arguments after them. -/
def letters (r : Rules) : List Char → List String → List (String × Option String) →
    Tool (List (String × Option String) × List String)
  | [], rest, read => return (read, rest)
  | c :: cs, rest, read => do
    match ofLetter r.known c with
    | none => r.wrong ("invalid option -- '" ++ String.singleton c ++ "'")
    | some k =>
      match k.arity with
      | .none => letters r cs rest ((k.key, none) :: read)
      | .optional => return ((k.key, if cs = [] then none else some (String.ofList cs)) :: read, rest)
      | .required =>
        if cs ≠ [] then return ((k.key, some (String.ofList cs)) :: read, rest)
        else match rest with
          | a :: rest => return ((k.key, some a) :: read, rest)
          | [] => r.wrong ("option requires an argument -- '" ++ String.singleton c ++ "'")

/-- Reads a word: the option, and the arguments after it. -/
def longWord (r : Rules) (text : String) (rest : List String) : Tool ((String × Option String) × List String) := do
  let (name, value) : String × Option String := match text.toList.span (· != '=') with
    | (name, _ :: value) => (String.ofList name, some (String.ofList value))
    | (name, []) => (String.ofList name, none)
  match ofWord r.known name with
  | [] => r.wrong ("unrecognized option '--" ++ text ++ "'")
  | [k] =>
    let full := k.word.getD name
    match k.arity, value, rest with
    | .none, some _, _ => r.wrong ("option '--" ++ full ++ "' doesn't allow an argument")
    | .none, none, rest => return ((k.key, none), rest)
    | .optional, value, rest => return ((k.key, value), rest)
    | .required, some v, rest => return ((k.key, some v), rest)
    | .required, none, v :: rest => return ((k.key, some v), rest)
    | .required, none, [] => r.wrong ("option '--" ++ full ++ "' requires an argument")
  | found =>
    let words := found.map fun k => "'--" ++ k.word.getD "" ++ "'"
    r.wrong ("option '--" ++ name ++ "' is ambiguous; possibilities: " ++ " ".intercalate words)

/-- Reads the arguments that are left. -/
def readFrom (r : Rules) : Nat → List String → Given → Tool Given
  | 0, _, g => return g
  | _, [], g => return { g with options := g.options.reverse, operands := g.operands.reverse }
  | n + 1, arg :: rest, g => do
    let done (more : List String) : Given :=
      { options := g.options.reverse, operands := g.operands.reverse ++ more }
    if arg = "--" then return done rest
    else if arg.startsWith "--" then
      let (o, rest) ← longWord r (arg.drop 2).toString rest
      readFrom r n rest { g with options := o :: g.options }
    else if arg.startsWith "-" ∧ arg ≠ "-" then
      let (options, rest) ← letters r (arg.toList.drop 1) rest g.options
      readFrom r n rest { g with options }
    else if r.first then return done (arg :: rest)
    else readFrom r n rest { g with operands := arg :: g.operands }

/-- Reads the arguments of a program. Options stand only before the first other argument if the environment asks for
strict conformance. -/
def read (r : Rules) (args : List String) : Tool Given := do
  let strict := (← Tool.setting "POSIXLY_CORRECT").isSome
  readFrom { r with first := r.first || strict } (args.length + 1) args ⟨[], []⟩

/-- The names that are kept in a file, each before a zero byte, and whether all of them can be used. `failing` says that
the file cannot be opened. -/
def listedIn (status : Nat) (failing list : String) (operands : List String) : Tool (List String × Bool) := do
  match operands with
  | operand :: _ =>
    Tool.say ("extra operand " ++ Quoting.always operand)
    Tool.note "file operands cannot be combined with --files0-from\n"
    Tool.hint
    throw status
  | [] =>
    match ← Tool.contentOf list with
    | .error r =>
      if r = .badDescriptor ∨ r = .isDirectory then Tool.fail status (Quoting.file list ++ ": read error: " ++ r.message)
      else Tool.fail status (failing ++ " " ++ Quoting.always list ++ " for reading: " ++ r.message)
    | .ok bytes =>
      let names := (Tool.linesOf 0 bytes).1.map Text.Octets.ofBytes
      let check (name : String) (n : Nat) : Tool Bool := do
        if name = "" then
          Tool.say (Quoting.file list ++ ":" ++ toString n ++ ": invalid zero-length file name")
          return false
        else if name = "-" ∧ list = "-" then
          Tool.say ("when reading file names from stdin, no file name of " ++ Quoting.always "-" ++ " allowed")
          return false
        else return true
      let fine ← names.zipIdx.mapM fun (name, i) => check name (i + 1)
      return ((names.zip fine).filterMap fun (name, good) => if good then some name else none, fine.all id)

/-- The one of some words that is meant, perhaps cut short; the words of a group mean the same. -/
def choice (status : Nat) (label : String) (groups : List (List String)) (value : String) : Tool String := do
  let exact := groups.filter fun g => g.contains value
  let found := if exact.isEmpty then groups.filter fun g => g.any fun w => w.startsWith value else exact
  match found with
  | [g] => return g.headD ""
  | found =>
    let kind := if found.isEmpty then "invalid" else "ambiguous"
    Tool.say (kind ++ " argument " ++ Quoting.local_ value ++ " for " ++ Quoting.local_ label)
    Tool.note "Valid arguments are:\n"
    for g in groups do Tool.note ("  - " ++ ", ".intercalate (g.map Quoting.local_) ++ "\n")
    Tool.hint
    throw status

/-- Stops because an argument is no number that can be used; what is said depends on how great it is. -/
def unusable {α : Type} (label s : String) (size : Option Nat) : Tool α :=
  let why := match size with
    | none => ""
    | some n => if 1073741823 < n then ": Value too large for defined data type" else ": Numerical result out of range"
  Tool.fail 1 (label ++ ": " ++ Quoting.local_ s ++ why)

/-- The number that an argument is, between bounds; it may have a suffix if that is said. -/
def amount (label : String) (least most : Nat) (suffixes : Bool) (s : String) : Tool Nat := do
  match if suffixes then Numbers.size s else Numbers.whole s with
  | .ok n => if n < least ∨ most < n then unusable label s (some n) else return n
  | .error .tooLarge => unusable label s (some Numbers.most)
  | .error .invalid => unusable label s none

/-- The greatest number of bytes in a file. -/
def mostBytes : Nat := 9223372036854775807

/-- The number, perhaps below zero, that an argument is; it may not be below a bound. -/
def integer (label : String) (least : Option Int) (most : Nat) (s : String) : Tool Int := do
  match Numbers.integer? (String.ofList (s.toList.dropWhile (· == ' '))) with
  | none => unusable label s none
  | some n =>
    if (most : Int) < n ∨ n < -(mostBytes + 1 : Int) then unusable label s (some n.natAbs)
    else if least.any (n < ·) then unusable label s (some 0)
    else return n

/-- Stops because an argument is missing after the last one. -/
def missingAfter {α : Type} (status : Nat) (what : String) (operands : List String) : Tool α :=
  match operands.getLast? with
  | some last => Tool.misuse status ("missing " ++ what ++ " after " ++ Quoting.local_ last)
  | none => Tool.misuse status ("missing " ++ what)

/-- Stops because of an argument too many. -/
def extra {α : Type} (status : Nat) (operand : String) : Tool α :=
  Tool.misuse status ("extra operand " ++ Quoting.local_ operand)

end Options

end TaskRunner.Tools
