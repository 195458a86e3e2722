import TaskRunner.Tools.Options

/-!
# Arguments that are put in order

A program for scripts: told which options there are, it reads arguments and writes them in a regular form, options first,
quoted so that a shell takes them as they are.
-/

namespace TaskRunner.Tools.Arguments

open Processes

/-- How operands among options are taken. -/
inductive Order where
  | optionsFirst
  /-- The first operand ends the options. -/
  | strict
  /-- Operands stay where they are. -/
  | mixed
  deriving DecidableEq

/-- What arguments are read by. -/
structure Grammar where
  /-- The name that errors are told under. -/
  name : String
  letters : List Char
  words : List (String × Arity)
  order : Order
  /-- Whether words may follow one hyphen. -/
  alternative : Bool
  silent : Bool

/-- Something that was read. -/
inductive Item where
  | option (text : String) (value : Option String)
  | operand (text : String)

/-- What has been read. -/
structure Reading where
  /-- The last one first. -/
  items : List Item := []
  operands : List String := []
  failed : Bool := false

namespace Grammar

/-- Tells about an argument that cannot be read. -/
def wrong (g : Grammar) (r : Reading) (message : String) : Tool Reading := do
  if ¬ g.silent then Tool.note (g.name ++ ": " ++ message ++ "\n")
  return { r with failed := true }

/-- What a letter takes, if it is an option. -/
def arityOf? (g : Grammar) (c : Char) : Option Arity :=
  if c = ':' ∨ c = ';' then none
  else match g.letters.dropWhile (· != c) with
    | [] => none
    | _ :: ':' :: ':' :: _ => some .optional
    | _ :: ':' :: _ => some .required
    | _ => some .none

/-- The words that are meant; more than one of them if it is not clear. -/
def wordsFor (g : Grammar) (isSingle : Bool) (name : String) : List (String × Arity) :=
  match g.words.find? fun (w, _) => w == name with
  | some w => [w]
  | none =>
    match g.words.filter fun (w, _) => w.startsWith name with
    | [] => []
    | w :: rest => if ¬ isSingle ∧ rest.all fun (_, a) => a = w.2 then [w] else w :: rest

/-- Reads a word after hyphens, and what is left; nothing if letters may be meant. -/
def readWord (g : Grammar) (r : Reading) (hyphens text : String) (rest : List String) :
    Tool (Option (Reading × List String)) := do
  let (name, value) : String × Option String := match text.toList.span (· != '=') with
    | (name, _ :: value) => (String.ofList name, some (String.ofList value))
    | (name, []) => (String.ofList name, none)
  let fail (message : String) (rest : List String) : Tool (Option (Reading × List String)) := do
    return some (← g.wrong r message, rest)
  match g.wordsFor g.alternative name with
  | [] =>
    if hyphens = "-" ∧ g.letters.contains ((text.toList.head?).getD ' ') then return none
    fail ("unrecognized option '" ++ hyphens ++ text ++ "'") rest
  | [(word, arity)] =>
    let done (value : Option String) (rest : List String) : Tool (Option (Reading × List String)) :=
      return some ({ r with items := .option ("--" ++ word) value :: r.items }, rest)
    match arity, value, rest with
    | .none, some _, _ => fail ("option '" ++ hyphens ++ word ++ "' doesn't allow an argument") rest
    | .none, none, _ => done none rest
    | .optional, value, _ => done (some (value.getD "")) rest
    | .required, some v, _ => done (some v) rest
    | .required, none, v :: rest => done (some v) rest
    | .required, none, [] => fail ("option '" ++ hyphens ++ word ++ "' requires an argument") []
  | many =>
    let names := many.map fun (w, _) => " '" ++ hyphens ++ w ++ "'"
    fail ("option '" ++ hyphens ++ text ++ "' is ambiguous; possibilities:" ++ String.join names) rest

/-- Reads letters after a hyphen, and what is left. -/
def readLetters (g : Grammar) : Reading → List Char → List String → Tool (Reading × List String)
  | r, [], rest => return (r, rest)
  | r, c :: cs, rest => do
    let text := String.ofList ['-', c]
    match g.arityOf? c with
    | none => readLetters g (← g.wrong r ("invalid option -- '" ++ String.singleton c ++ "'")) cs rest
    | some .none => readLetters g { r with items := .option text none :: r.items } cs rest
    | some .optional => return ({ r with items := .option text (some (String.ofList cs)) :: r.items }, rest)
    | some .required =>
      if cs ≠ [] then return ({ r with items := .option text (some (String.ofList cs)) :: r.items }, rest)
      match rest with
      | v :: rest => return ({ r with items := .option text (some v) :: r.items }, rest)
      | [] => return (← g.wrong r ("option requires an argument -- '" ++ String.singleton c ++ "'"), [])

/-- Reads arguments. -/
def read (g : Grammar) : Nat → Reading → List String → Tool Reading
  | 0, r, _ => return r
  | _, r, [] => return r
  | n + 1, r, arg :: rest => do
    if arg = "--" then return { r with operands := rest.reverse ++ r.operands }
    if ¬ arg.startsWith "-" ∨ arg = "-" then
      match g.order with
      | .strict => return { r with operands := rest.reverse ++ arg :: r.operands }
      | .mixed => read g n { r with items := .operand arg :: r.items } rest
      | .optionsFirst => read g n { r with operands := arg :: r.operands } rest
    else
      let cs := arg.toList.drop 1
      let found ←
        if arg.startsWith "--" then readWord g r "--" (String.ofList (cs.drop 1)) rest
        else if g.alternative ∧ (1 < cs.length ∨ ¬ g.letters.contains (cs.headD ' ')) then
          readWord g r "-" (String.ofList cs) rest
        else pure none
      let (r, rest) ← match found with
        | some next => pure next
        | none => readLetters g r cs rest
      read g n r rest

end Grammar

/-! ## Writing -/

/-- How a shell quotes. -/
inductive Quotes where
  | none
  | simple
  /-- For shells that know escapes and old commands in quotation marks. -/
  | escaping
  deriving DecidableEq

/-- An argument as it is written. -/
def Quotes.written (q : Quotes) (s : String) : String :=
  let one (c : Char) : String :=
    if q = .escaping ∧ c = '\x5c' then "\\\\"
    else if q = .escaping ∧ c = '!' then "'\\!'"
    else if q = .escaping ∧ c = '\n' then "\\n"
    else if q = .escaping ∧ (c = ' ' ∨ ('\t' ≤ c ∧ c ≤ '\r')) then "'\\" ++ String.singleton c ++ "'"
    else if c = '\x27' then "'\\''"
    else String.singleton c
  if q = .none then s else "'" ++ String.join (s.toList.map one) ++ "'"

/-- What was read, as one line. -/
def Quotes.line (q : Quotes) (r : Reading) : String :=
  let item : Item → String
    | .option text value => " " ++ text ++ ((value.map fun v => " " ++ q.written v).getD "")
    | .operand text => " " ++ q.written text
  String.join (r.items.reverse.map item) ++ " --" ++ String.join (r.operands.reverse.map fun s => " " ++ q.written s) ++ "\n"

/-! ## The program -/

/-- The words that a list names. -/
def wordsIn (list : String) : Tool (List (String × Arity)) :=
  let isBetween (c : Char) : Bool := c == ',' || c == ' ' || c == '\t' || c == '\n'
  let names := ((String.ofList (list.toList.map fun c => if isBetween c then ',' else c)).splitOn ",").filter (· ≠ "")
  names.mapM fun name => do
    let (word, arity) : String × Arity :=
      if name.endsWith "::" then ((name.dropEnd 2).toString, .optional)
      else if name.endsWith ":" then ((name.dropEnd 1).toString, .required)
      else (name, .none)
    if word = "" then Tool.misuse 2 "empty long option after -l or --long argument"
    return (word, arity)

/-- Reads arguments by letters and words, and writes them. -/
def regular (name letters : String) (words : List (String × Arity)) (alternative quietErrors quietOutput : Bool) (q : Quotes)
    (args : List String) : Tool Nat := do
  let strict := (← Tool.setting "POSIXLY_CORRECT").isSome
  let (order, letters) : Order × List Char := match letters.toList with
    | '+' :: rest => (.strict, rest)
    | '-' :: rest => (.mixed, rest)
    | cs => (if strict then .strict else .optionsFirst, cs)
  let g : Grammar := ⟨name, letters, words, order, alternative, quietErrors || letters.head? == some ':'⟩
  let r ← g.read (args.length + 1) {} args
  if ¬ quietOutput then Tool.emit (q.line r)
  return if r.failed then 1 else 0

/-- Puts arguments in order. -/
def getopt (args : List String) : Tool Nat := do
  let compatible := (← Tool.setting "GETOPT_COMPATIBLE").isSome
  let own ← Tool.name
  match args with
  | [] =>
    if compatible then
      Tool.emit " --\n"
      return 0
    Tool.misuse 2 "missing optstring argument"
  | letters :: rest =>
    if ¬ letters.startsWith "-" ∨ compatible then
      let letters := String.ofList (letters.toList.dropWhile fun c => c == '-' || c == '+')
      return ← regular own letters [] false false false .none rest
  let g ← Options.read
    { known := [flag "a" "alternative", taking "o" "options", taking "l" "longoptions", taking "n" "name", flag "q" "quiet",
        flag "Q" "quiet-output", taking "s" "shell", flag "T" "test", flag "u" "unquoted"], status := 2, first := true } args
  if g.has "T" then return 4
  let words ← (g.all "l").mapM wordsIn
  let shells ← (g.all "s").mapM fun s =>
    if s = "bash" ∨ s = "sh" then pure Quotes.simple
    else if s = "tcsh" ∨ s = "csh" then pure Quotes.escaping
    else Tool.misuse 2 "unknown shell after -s or --shell argument"
  let (letters, rest) ← match g.last? "o", g.operands with
    | some s, rest => pure (s, rest)
    | none, s :: rest => pure (s, rest)
    | none, [] => Tool.misuse 2 "missing optstring argument"
  let quotes := if g.has "u" then .none else shells.getLast?.getD .simple
  regular ((g.last? "n").getD own) letters words.flatten (g.has "a") (g.has "q") (g.has "Q") quotes rest

end TaskRunner.Tools.Arguments
