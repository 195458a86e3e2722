import TaskRunner.Tools.Records.Patterns

/-!
# The signs and words of a program

A program is cut into signs, words, numbers and texts. A slash begins a pattern where no operand has come
before it; where a statement ends in a brace a semicolon is implied; what opens has to be closed. What is
wrong is noted with the line, and reading goes on until too much is wrong.
-/

namespace TaskRunner.Tools.Records

/-- A piece of a program. -/
inductive Token where
  | newline
  | semicolon
  /-- The semicolon that a closing brace stands for. -/
  | implied
  | stop
  | sign (s : String)
  /-- A sign after which the destination of what is written stands. -/
  | redirect (s : String)
  | number (s : String)
  | text (s : String)
  | pattern (s : String)
  | word (s : String)
  | builtin (b : Builtin)
  /-- A name, and whether a parenthesis follows it at once. -/
  | name (s : String) (called : Bool)
  | stray (c : Char)
  deriving DecidableEq

namespace Token

/-- How a piece is shown in messages. -/
def shown : Token → String
  | newline => "end of line"
  | semicolon => ";"
  | implied => "\x7d"
  | stop => "end of file"
  | sign s | redirect s | number s | text s | word s | name s _ => s
  | pattern s => "/" ++ s ++ "/"
  | builtin b => b.name
  | stray c => String.singleton c

/-- Whether a piece ends a statement. -/
def isEnd : Token → Bool
  | newline | semicolon | implied => true
  | _ => false

/-- Whether an operand may end with a piece, so that a slash after it divides. -/
def endsOperand : Token → Bool
  | number _ | text _ | pattern _ | name _ _ => true
  | sign s => [")", "]", "++", "--"].contains s
  | word s => s == "getline"
  | _ => false

end Token

/-- The words of programs. -/
def words : List String :=
  ["BEGIN", "END", "print", "printf", "getline", "if", "else", "while", "for", "do", "break", "continue", "next",
    "nextfile", "exit", "return", "function", "delete", "in"]

/-- A use of a function: its name, the line, what is known of the kinds of its arguments, and the names that are its
arguments without anything around them. -/
structure Use where
  function : String
  line : Nat
  /-- The function in which it is used. -/
  within : Option String
  args : List (Option Kind × Option String)

/-- What is known while a program is read. -/
structure Reader where
  rest : List Char
  /-- The name of the file of the program, if it has one. -/
  file : Option String
  line : Nat
  /-- The last piece that was cut. -/
  last : Token
  /-- The next piece, if it has been cut. -/
  ahead : Option Token
  aheadLine : Nat
  parentheses : Nat
  braces : Nat
  /-- Whether what is written may still be given a destination. -/
  printing : Bool
  /-- Whether the next operand may be a name of anything. -/
  bare : Bool
  faults : List String
  kinds : List (String × Kind)
  functions : List Function
  /-- The parameters of all functions, with what they stand for. -/
  parameters : List (String × List (String × Option Kind))
  uses : List Use
  /-- The function that is being read. -/
  within : Option String
  /-- How many loops are around. -/
  loops : Nat
  /-- Whether a rule for records is being read. -/
  inRule : Bool

/-- Why reading does not simply go on. -/
inductive Stop where
  /-- It goes on after the statement. -/
  | recover
  | ended

/-- A step of reading a program. -/
abbrev Reading (α : Type) := EStateM Stop Reader α

/-- The most that may be wrong. -/
def mostFaults : Nat := 5

/-- Notes that something is wrong, said as it is. -/
def complainAs (message : String) : Reading Unit := do
  modify fun r => { r with faults := message :: r.faults }
  if mostFaults ≤ (← get).faults.length then throw .ended

/-- Notes that something is wrong in a line. -/
def complainAt (line : Nat) (message : String) : Reading Unit := do
  let file := match (← get).file with
    | some f => f ++ ": "
    | none => ""
  complainAs (file ++ "line " ++ toString line ++ ": " ++ message)

/-- Notes that something is wrong. -/
def complain (message : String) : Reading Unit := do complainAt (← get).aheadLine message

/-- Passes over blanks and comments, and over the ends of lines too if that is wanted. -/
def skipBlanks (overLines : Bool) : Nat → List Char → Nat → List Char × Nat
  | 0, cs, line => (cs, line)
  | _, [], line => ([], line)
  | n + 1, c :: cs, line =>
    if c = ' ' ∨ c = '\t' ∨ c = '\r' ∨ c = '\x0c' ∨ c = '\x0b' then skipBlanks overLines n cs line
    else if c = '#' then skipBlanks overLines n (cs.dropWhile (· != '\n')) line
    else if c = '\\' then
      match cs with
      | '\n' :: rest => skipBlanks overLines n rest (line + 1)
      | '\r' :: '\n' :: rest => skipBlanks overLines n rest (line + 1)
      | _ => (c :: cs, line)
    else if c = '\n' ∧ overLines then skipBlanks overLines n cs (line + 1)
    else (c :: cs, line)

/-- Passes over what may stand between pieces. -/
def skip (overLines : Bool) : Reading Unit := modify fun r =>
  let (rest, line) := skipBlanks overLines (r.rest.length + 1) r.rest r.line
  { r with rest, line }

/-- The characters of a text up to its quotation mark, the last first, what follows, and how many lines it goes over. -/
def textFrom : Nat → List Char → List Char → Nat → Option (List Char × List Char × Nat)
  | 0, _, _, _ => none
  | _, _, [], _ => none
  | n + 1, read, c :: cs, lines =>
    if c = '"' then some (read, cs, lines)
    else if c = '\n' then none
    else if c = '\\' then
      match cs with
      | [] => none
      | '\n' :: rest => textFrom n read rest (lines + 1)
      | d :: _ =>
        let octal := '0' ≤ d && d ≤ '7'
        let known := (d != '/' && Pattern.escapes.any fun (letter, _) => letter == d) || octal ||
          (d == 'x' && ((cs.drop 1).head?.map Decimal.isHexDigit).getD false)
        if known then
          let (e, rest) := Pattern.escaped cs
          textFrom n (e :: read) rest lines
        else textFrom n (d :: '\\' :: read) (cs.drop 1) lines
    else textFrom n (c :: read) cs lines

/-- The escapes of a text that is given from outside. -/
def unescape (s : String) : String :=
  let cs := s.toList.flatMap fun c => if c = '"' then ['\\', '"'] else if c = '\n' then ['\\', '0', '1', '2'] else [c]
  match textFrom (2 * cs.length + 4) [] (cs ++ ['"']) 0 with
  | some (read, _, _) => String.ofList read.reverse
  | none => s

/-- The characters of a pattern up to its slash, the last first, and what follows. -/
def patternFrom : Nat → Bool → List Char → List Char → Option (List Char × List Char)
  | 0, _, _, _ => none
  | _, _, _, [] => none
  | n + 1, inSet, read, c :: cs =>
    match c, cs with
    | '/', _ => if inSet then patternFrom n true ('/' :: read) cs else some (read, cs)
    | '\n', _ => none
    | '\\', '/' :: rest => patternFrom n inSet ('/' :: read) rest
    | '\\', '\n' :: rest => patternFrom n inSet read rest
    | '\\', d :: rest => patternFrom n inSet (d :: '\\' :: read) rest
    | '[', _ =>
      if inSet then patternFrom n true ('[' :: read) cs
      else match cs with
        | '^' :: ']' :: rest => patternFrom n true (']' :: '^' :: '[' :: read) rest
        | ']' :: rest => patternFrom n true (']' :: '[' :: read) rest
        | _ => patternFrom n true ('[' :: read) cs
    | ']', _ => patternFrom n false (']' :: read) cs
    | c, _ => patternFrom n inSet (c :: read) cs

/-- The number that digits begin, and what follows it. -/
def numberFrom (cs : List Char) : List Char × List Char :=
  let (whole, rest) := cs.span Char.isDigit
  let (fraction, rest) := match rest with
    | '.' :: more =>
      let (ds, rest) := more.span Char.isDigit
      ('.' :: ds, rest)
    | rest => ([], rest)
  match rest with
  | e :: more =>
    if e = 'e' ∨ e = 'E' then
      let (sign, ds) : List Char × List Char := match more with
        | '+' :: ds => (['+'], ds)
        | '-' :: ds => (['-'], ds)
        | ds => ([], ds)
      let (digits, after) := ds.span Char.isDigit
      if digits = [] then (whole ++ fraction, rest) else (whole ++ fraction ++ e :: sign ++ digits, after)
    else (whole ++ fraction, rest)
  | [] => (whole ++ fraction, [])

/-- The signs of more than one character. -/
def longSigns : List String :=
  ["++", "--", "+=", "-=", "*=", "%=", "^=", "==", "!=", "!~", "<=", ">=", "&&", "||"]

/-- The signs of one character. -/
def shortSigns : List Char :=
  ['[', ']', ',', '?', ':', '~', '$', '!', '=', '<', '>', '+', '-', '*', '%', '^', '|']

/-- Cuts off the next piece. -/
def cut : Nat → Reading Token
  | 0 => throw .ended
  | n + 1 => do
    skip false
    let r ← get
    let take (count : Nat) (t : Token) : Reading Token := do
      modify fun r => { r with rest := r.rest.drop count }
      return t
    match r.rest with
    | [] => return .stop
    | c :: cs =>
      if c = '\n' then
        modify fun r => { r with rest := cs, line := r.line + 1 }
        skip true
        return .newline
      else if c = ';' then
        modify fun r => { r with rest := cs }
        skip true
        return .semicolon
      else if c = '\x7b' then
        modify fun r => { r with rest := cs, braces := r.braces + 1 }
        skip true
        return .sign "\x7b"
      else if c = '\x7d' then
        let eatSemicolon : Reading Unit := do
          skip false
          modify fun r => match r.rest with
            | ';' :: rest => { r with rest }
            | _ => r
        if r.braces = 0 then
          complainAt r.line "extra \x27\x7d\x27"
          modify fun r => { r with rest := cs }
          eatSemicolon
          cut n
        else if r.last.isEnd ∨ r.last = .sign "\x7d" then
          modify fun r => { r with rest := cs, braces := r.braces - 1 }
          if r.braces = 1 then eatSemicolon
          skip true
          return .sign "\x7d"
        else return .implied
      else if c = '(' then
        modify fun r => { r with parentheses := r.parentheses + 1 }
        take 1 (.sign "(")
      else if c = ')' then
        if r.parentheses = 0 then
          complainAt r.line "extra \x27)\x27"
          modify fun r => { r with rest := cs }
          cut n
        else
          modify fun r => { r with parentheses := r.parentheses - 1 }
          take 1 (.sign ")")
      else if c = '"' then
        match textFrom (cs.length + 1) [] cs 0 with
        | some (read, rest, lines) =>
          modify fun r => { r with rest, line := r.line + lines }
          return .text (String.ofList read.reverse)
        | none =>
          complainAt r.line ("runaway string constant \"" ++ String.ofList ((cs.takeWhile (· != '\n')).take 10) ++ " ...")
          throw .ended
      else if c.isDigit ∨ (c = '.' ∧ (cs.head?.map Char.isDigit).getD false) then
        let (read, rest) := numberFrom (c :: cs)
        modify fun r => { r with rest }
        return .number (String.ofList read)
      else if c.isAlpha ∨ c = '_' then
        let (found, rest) := (c :: cs).span fun d => d.isAlphanum || d == '_'
        modify fun r => { r with rest }
        let s := String.ofList found
        if words.contains s then
          if s = "else" ∨ s = "do" then skip true
          return .word s
        match Builtin.names.find? fun (name, _) => name == s with
        | some (_, b) => return .builtin b
        | none => return .name s (rest.head? == some '(')
      else if c = '/' then
        let divides : Bool := r.last.endsOperand &&
          (!(r.last == .sign "++" || r.last == .sign "--") || cs.head? == some '=')
        if divides then
          match cs with
          | '=' :: _ => take 2 (.sign "/=")
          | _ => take 1 (.sign "/")
        else match patternFrom (cs.length + 1) false [] cs with
          | some (read, rest) =>
            modify fun r => { r with rest }
            return .pattern (String.ofList read.reverse)
          | none =>
            complainAt r.line
              ("runaway regular expression /" ++ String.ofList ((cs.takeWhile (· != '\n')).take 10) ++ " ...")
            throw .ended
      else
        let isOutput := r.printing && r.parentheses == 0
        match c, cs with
        | '>', '>' :: _ => if isOutput then take 2 (.redirect ">>") else take 1 (.sign ">")
        | '>', _ =>
          if isOutput then take 1 (.redirect ">")
          else match cs with
            | '=' :: _ => take 2 (.sign ">=")
            | _ => take 1 (.sign ">")
        | _, _ =>
          match longSigns.find? fun s => s.toList.isPrefixOf (c :: cs) with
          | some s =>
            modify fun r => { r with rest := r.rest.drop 2 }
            if s = "&&" ∨ s = "||" then skip true
            return .sign s
          | none =>
            if c = '|' ∧ isOutput then take 1 (.redirect "|")
            else if shortSigns.contains c then
              modify fun r => { r with rest := cs }
              if c = ',' then skip true
              return .sign (String.singleton c)
            else take 1 (.stray c)

/-- The next piece. -/
def peek : Reading Token := do
  match (← get).ahead with
  | some t => return t
  | none =>
    skip false
    modify fun r => { r with aheadLine := r.line }
    let t ← cut ((← get).rest.length + 2)
    modify fun r =>
      { r with ahead := some t, last := t, printing := match t with
          | .redirect _ => false
          | _ => r.printing }
    return t

/-- Passes over the next piece. -/
def advance : Reading Unit := do
  discard peek
  modify fun r => { r with ahead := none }

/-- Stops at the next piece, which does not belong where it stands. -/
def fail {α : Type} : Reading α := do
  let t ← peek
  let r ← get
  match t with
  | .stray c => complainAs (toString r.aheadLine ++ ": unexpected character '" ++ String.singleton c ++ "'")
  | .stop => complain (if r.braces ≠ 0 then "missing \x7d near end of file" else "syntax error at or near end of file")
  | t =>
    if (t.isEnd ∨ t = .sign "\x7d") ∧ r.parentheses ≠ 0 then complain ("missing ) near " ++ t.shown)
    else complain ("syntax error at or near " ++ t.shown)
  throw .recover

/-- Passes over a sign that has to come. -/
def expect (s : String) : Reading Unit := do
  if (← peek) = .sign s then advance else fail

/-- Passes over a sign if it comes. -/
def accept (s : String) : Reading Bool := do
  if (← peek) = .sign s then
    advance
    return true
  return false

/-- Passes over the end of a statement. -/
def endStatement : Reading Unit := do
  if (← peek).isEnd then
    advance
    modify fun r => { r with printing := false }
  else fail

end TaskRunner.Tools.Records
