import TaskRunner.Processes.Kernel
import TaskRunner.Shell.Arithmetic

/-!
# Tests

Conditions that are given as a row of words: the way the plain language reads them, the way the extended
one does, and the way of the program of its own. They differ in how they find their way through words
that can be read in several ways, and in what they say about words that cannot be read at all.
-/

namespace TaskRunner.Shell.Test

open Processes

/-- What tests are about besides the words themselves. -/
structure Surroundings where
  files : FileSystem
  place : FileSystem.Place
  /-- Whether a variable is set. -/
  isSet : String → Bool
  /-- Whether a variable stands for another one. -/
  isReference : String → Bool
  /-- Whether an option is on. -/
  isOn : String → Bool
  /-- Whether what is there is newer than what is not. -/
  beatsMissing : Bool
  /-- Where what has been opened under a number leads. -/
  channel : Nat → Option Channel

/-- What a path leads to, which may be what has been opened under a number. -/
def held? (s : Surroundings) (follow : Bool) (path : String) : Option Entry :=
  match Kernel.ownDescriptor? path with
  | some d =>
    let behind : Option Entry := match s.channel d with
      | none => none
      | some (.file node) => some (.file node)
      | some (.directory l) => s.files.held? l
      | some (.device device) => some (.device device)
      | some channel => some (.pipe (channel.serial))
    if follow then behind else if behind.isSome ∨ path.startsWith "/dev/std" then some (.link path 0) else none
  | none =>
    let path := Text.Octets.toText path
    if s.files.isGone s.place path then some (.directory s.place.serial)
    else match s.files.walk follow s.place path with
    | .ok l => s.files.held? l
    | .error _ => none

/-- What a file, a directory or a pipe has besides its names. -/
def node? (s : Surroundings) (path : String) : Option Node :=
  match held? s true path with
  | some (.file n) | some (.directory n) | some (.pipe n) => s.files.nodes.find? n
  | _ => none

/-- Whether a path leads to something that one of the letters asks for. -/
def isThere (s : Surroundings) (letter : Char) (path : String) : Bool :=
  match letter with
  | 'h' | 'L' => match held? s false path with
    | some (.link _ _) => true
    | _ => false
  | 'z' => path == ""
  | 'n' => path != ""
  | 't' => false
  | 'v' => s.isSet path
  | 'R' => s.isReference path
  | 'o' => s.isOn path
  | letter =>
    match held? s true path with
    | none => false
    | some e =>
      let mode := ((node? s path).map Node.mode).getD 0o755
      match letter with
      | 'e' | 'a' | 'r' | 'w' | 'O' | 'G' | 'N' => true
      | 'x' => match e with
        | .directory _ => true
        | .device _ => false
        | .pipe _ => ((node? s path).any fun n => n.mode &&& 0o111 != 0)
        | _ => mode &&& 0o111 != 0
      | 'f' => match e with
        | .file _ | .program _ => true
        | _ => false
      | 'd' => match e with
        | .directory _ => true
        | _ => false
      | 'c' => match e with
        | .device _ => true
        | _ => false
      | 'p' => match e with
        | .pipe _ => true
        | _ => false
      | 's' => match e with
        | .file n => !(s.files.content n).isEmpty
        | .directory _ | .program _ => true
        | _ => false
      | 'u' => mode &&& 0o4000 != 0
      | 'g' => mode &&& 0o2000 != 0
      | 'k' => mode &&& 0o1000 != 0
      | _ => false

/-- When what a path leads to was changed. -/
def modified? (s : Surroundings) (path : String) : Option Nat :=
  match held? s true path with
  | some (.file n) | some (.directory n) | some (.pipe n) => (s.files.nodes.find? n).map Node.modified
  | some _ => some 0
  | none => none

/-- Whether two paths lead to the same. -/
def isSame (s : Surroundings) (a b : String) : Bool :=
  match held? s true a, held? s true b with
  | some x, some y => x == y
  | _, _ => false

/-- Whether the first of two paths leads to what was changed later. -/
def isNewer (s : Surroundings) (a b : String) : Bool :=
  match modified? s a, modified? s b with
  | some x, some y => y < x
  | some _, none => s.beatsMissing
  | _, _ => false

/-- A whole number; blanks around it do not count. -/
def number? (s : String) : Option Int :=
  let isBlank (c : Char) : Bool := c == ' ' || ('\t' ≤ c && c ≤ '\r')
  let cs := (s.toList.dropWhile isBlank).reverse.dropWhile isBlank |>.reverse
  let (negative, digits) := match cs with
    | '-' :: rest => (true, rest)
    | '+' :: rest => (false, rest)
    | cs => (false, cs)
  if digits = [] ∨ ¬ digits.all Char.isDigit then none
  else
    let n : Int := Decimal.natOf 10 digits
    some (if negative then -n else n)

/-- Whether a text names a variable, or a place of an array. -/
def isTarget (s : String) : Bool :=
  match s.toList.span (· != '[') with
  | (_, []) => isName s
  | (name, _ :: rest) => isName (String.ofList name) && rest.getLast? == some ']' && 1 < rest.length

/-- The letters of words that ask something about one other word. -/
def unaryLetters (extended : Bool) : List Char :=
  (if extended then "abcdefghknoprstuvwxzGLNORS" else "rwxefdcbpugkstznhLOGS").toList

/-- The letter of a word that asks something about another. -/
def unary? (extended : Bool) (s : String) : Option Char :=
  match s.toList with
  | ['-', c] => if (unaryLetters extended).contains c then some c else none
  | _ => none

/-- Whether a word compares two others. -/
def isBinary (extended : Bool) (s : String) : Bool :=
  ["=", "!=", "<", ">", "-eq", "-ne", "-ge", "-gt", "-le", "-lt", "-nt", "-ot", "-ef"].contains s
    || (extended && s == "==")

/-- Compares two words; `notNumber` says what is wrong with one that should be a number. -/
def compare (s : Surroundings) (notNumber : String → String) (a op b : String) : Except String Bool := do
  let numbers (f : Int → Int → Bool) : Except String Bool := do
    match number? a, number? b with
    | some x, some y => return f x y
    | none, _ => throw (notNumber a)
    | _, none => throw (notNumber b)
  match op with
  | "=" | "==" => return a == b
  | "!=" => return a != b
  | "<" => return a < b
  | ">" => return b < a
  | "-eq" => numbers fun x y => x == y
  | "-ne" => numbers fun x y => x != y
  | "-ge" => numbers fun x y => y ≤ x
  | "-gt" => numbers fun x y => y < x
  | "-le" => numbers fun x y => x ≤ y
  | "-lt" => numbers fun x y => x < y
  | "-nt" => return isNewer s a b
  | "-ot" => return isNewer s b a
  | "-ef" => return isSame s a b
  | _ => return false

/-! ## The plain way -/

namespace Plain

/-- What a word is. -/
inductive Kind where
  | ending
  | operand
  | unary (c : Char)
  | binary
  | negation
  | both
  | either
  | opening
  | closing
  deriving DecidableEq

/-- What the first of some words is if nothing around it matters. -/
def kindOf (s : String) : Kind :=
  match unary? false s with
  | some c => .unary c
  | none =>
    if isBinary false s then .binary
    else match s with
      | "!" => .negation
      | "-a" => .both
      | "-o" => .either
      | "(" => .opening
      | ")" => .closing
      | _ => .operand

/-- What the first of some words is. -/
def lex : List String → Kind
  | [] => .ending
  | s :: rest =>
    match kindOf s with
    | .unary c =>
      let isOperand : Bool := match rest with
        | [] => true
        | [_] => false
        | t :: _ => kindOf t == .binary
      if isOperand then .operand else .unary c
    | .opening => if rest = [] then .operand else .opening
    | k => k

/-- What is said about a word that is no number. -/
def notNumber (s : String) : String := "Illegal number: " ++ s

mutual

/-- Conditions of which one has to hold; the words are those from the last one read on. -/
def either (s : Surroundings) : Nat → Kind → List String → Except String (Bool × List String)
  | 0, _, ws => return (false, ws)
  | n + 1, k, ws => do
    let (a, ws) ← both s n k ws
    if lex (ws.drop 1) = .either then
      let ws := ws.drop 2
      let (b, ws) ← either s n (lex ws) ws
      return (a || b, ws)
    else return (a, ws)

/-- Conditions that all have to hold. -/
def both (s : Surroundings) : Nat → Kind → List String → Except String (Bool × List String)
  | 0, _, ws => return (false, ws)
  | n + 1, k, ws => do
    let (a, ws) ← negated s n k ws
    if lex (ws.drop 1) = .both then
      let ws := ws.drop 2
      let (b, ws) ← both s n (lex ws) ws
      return (a && b, ws)
    else return (a, ws)

/-- A condition that may be negated. -/
def negated (s : Surroundings) : Nat → Kind → List String → Except String (Bool × List String)
  | 0, _, ws => return (false, ws)
  | n + 1, k, ws => do
    if k ≠ .negation then primary s n k ws
    else
      let k := lex (ws.drop 1)
      let ws := if k = .ending then ws else ws.drop 1
      let (a, ws) ← negated s n k ws
      return (!a, ws)

/-- One condition. -/
def primary (s : Surroundings) : Nat → Kind → List String → Except String (Bool × List String)
  | 0, _, ws => return (false, ws)
  | n + 1, k, ws => do
    match k with
    | .ending => return (false, ws)
    | .opening =>
      let ws := ws.drop 1
      if lex ws = .closing then return (false, ws)
      let (a, ws) ← either s n (lex ws) ws
      let ws := ws.drop 1
      if lex ws ≠ .closing then throw "closing paren expected"
      return (a, ws)
    | .unary c =>
      match ws.drop 1 with
      | [] => throw (ws.headD "" ++ ": argument expected")
      | operand :: rest => return (isThere s c operand, operand :: rest)
    | _ =>
      match ws with
      | a :: op :: rest =>
        if lex (op :: rest) = .binary then
          match rest with
          | [] => throw (op ++ ": argument expected")
          | b :: after => return (← compare s notNumber a op b, b :: after)
        else return (a != "", ws)
      | [a] => return (a != "", ws)
      | [] => return (false, [])

end

/-- Whether words hold that are all there is. -/
def answer (s : Surroundings) : Nat → List String → Except String Bool
  | 0, _ => return false
  | n + 1, ws => do
    if ws = [] then return false
    let whole (k : Kind) (ws : List String) : Except String Bool := do
      let (a, rest) ← either s (4 * ws.length + 8) k ws
      match rest with
      | _ :: _ :: _ => throw (rest.headD "" ++ ": unexpected operator")
      | _ => return a
    let size := ws.length
    if size = 3 ∧ kindOf ((ws.drop 1).headD "") = .binary then whole .operand ws
    else if (size = 3 ∨ size = 4) ∧ ws.head? = some "(" ∧ ws.getLast? = some ")" then
      let ws := (ws.drop 1).dropLast
      whole (lex ws) ws
    else if (size = 3 ∨ size = 4) ∧ ws.head? = some "!" then return !(← answer s n (ws.drop 1))
    else whole (lex ws) ws

end Plain

/-! ## The other ways -/

namespace Extended

/-- What is said about words that cannot be read. -/
structure Messages where
  notNumber : String → String
  notUnary : String → String
  notBinary : String → String
  missing : String → String
  tooMany : String → String

mutual

/-- Conditions of which one has to hold, and the words that are left. -/
def either (m : Messages) (s : Surroundings) : Nat → List String → Except String (Bool × List String)
  | 0, ws => return (false, ws)
  | n + 1, ws => do
    let (a, ws) ← both m s n ws
    match ws with
    | "-o" :: rest =>
      let (b, ws) ← either m s n rest
      return (a || b, ws)
    | ws => return (a, ws)

/-- Conditions that all have to hold. -/
def both (m : Messages) (s : Surroundings) : Nat → List String → Except String (Bool × List String)
  | 0, ws => return (false, ws)
  | n + 1, ws => do
    let (a, ws) ← term m s n ws
    match ws with
    | "-a" :: rest =>
      let (b, ws) ← both m s n rest
      return (a && b, ws)
    | ws => return (a, ws)

/-- One condition. -/
def term (m : Messages) (s : Surroundings) : Nat → List String → Except String (Bool × List String)
  | 0, ws => return (false, ws)
  | n + 1, ws => do
    match ws with
    | [] => throw (m.missing "")
    | "!" :: rest =>
      let (a, ws) ← term m s n rest
      return (!a, ws)
    | "(" :: rest =>
      let (a, ws) ← either m s n rest
      match ws with
      | ")" :: rest => return (a, rest)
      | [] => throw "\x60)\x27 expected"
      | w :: _ => throw ("\x60)\x27 expected, found " ++ w)
    | a :: op :: b :: rest =>
      if isBinary true op then return (← compare s m.notNumber a op b, rest)
      else match unary? true a with
        | some c => return (isThere s c op, b :: rest)
        | none => return (a != "", op :: b :: rest)
    | [a, b] =>
      match unary? true a with
      | some c => return (isThere s c b, [])
      | none => return (a != "", [b])
    | [a] => return (a != "", [])

end

/-- Whether two words hold. -/
def two (m : Messages) (s : Surroundings) (a b : String) : Except String Bool :=
  if a = "!" then .ok (b == "")
  else match unary? true a with
    | some c => .ok (isThere s c b)
    | none => .error (m.notUnary a)

/-- Whether three words hold. -/
def three (m : Messages) (s : Surroundings) (a op b : String) : Except String Bool := do
  if isBinary true op then compare s m.notNumber a op b
  else if op = "-a" then return a != "" && b != ""
  else if op = "-o" then return a != "" || b != ""
  else if a = "!" then return !(← two m s op b)
  else if a = "(" ∧ b = ")" then return op != ""
  else throw (m.notBinary op)

/-- Whether words hold that are all there is. -/
def answer (m : Messages) (s : Surroundings) (ws : List String) : Except String Bool := do
  let whole : Except String Bool := do
    let (a, rest) ← either m s (4 * ws.length + 8) ws
    match rest with
    | [] => return a
    | w :: _ => throw (m.tooMany w)
  match ws with
  | [] => return false
  | [a] => return a != ""
  | [a, b] => two m s a b
  | [a, b, c] => three m s a b c
  | [a, b, c, d] =>
    if a = "!" then return !(← three m s b c d)
    else if a = "(" ∧ d = ")" then two m s b c
    else whole
  | _ => whole

/-- What the extended language says. -/
def messages : Messages where
  notNumber s := s ++ ": integer expression expected"
  notUnary s := s ++ ": unary operator expected"
  notBinary s := s ++ ": binary operator expected"
  missing _ := "argument expected"
  tooMany s := if s.startsWith "-" then "syntax error: \x60" ++ s ++ "\x27 unexpected" else "too many arguments"

/-- A text in the quotation marks that programs use. -/
def quoted (s : String) : String := "\u2018" ++ s ++ "\u2019"

/-- What the program says about words of which the given one is the last. -/
def programMessages (last : String) : Messages where
  notNumber s := "invalid integer " ++ quoted s
  notUnary s := match s.toList with
    | ['-', _] => quoted s ++ ": unary operator expected"
    | _ => "missing argument after " ++ quoted last
  notBinary s := quoted s ++ ": binary operator expected"
  missing _ := "missing argument after " ++ quoted last
  tooMany s := "extra argument " ++ quoted s

end Extended

end TaskRunner.Shell.Test
