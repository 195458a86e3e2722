import TaskRunner.Shell.Tokens

/-!
# Reading commands

Every function here reads one kind of command and takes the two that all of them are made of, lists
and single commands, from a `Grammar`; `grammar` ties them together as deep as commands may lie in one
another.
-/

namespace TaskRunner.Shell.Grammar

open Reader Tokens

/-- Where a list of commands stands. -/
inductive Place where
  /-- A line of a script. -/
  | line
  /-- Inside a command; it cannot be empty. -/
  | inside
  /-- Up to something that begins no command; it may be empty. -/
  | open_
  deriving DecidableEq

/-- How lists and commands are read. -/
structure Knot where
  list : Place → Reading (Option Command)
  command : Reading Command
  inner : Inner

/-- What may come at the beginning of a command. -/
def beginning : Expectation := { newlines := true, keywords := true, aliases := true }

/-- The tokens at which a list ends. -/
def endsList : Token → Bool
  | .endOfFile => true
  | .mark s => [")", ";;", ";&", ";;&"].contains s
  | .keyword s => ["then", "else", "elif", "fi", "do", "done", "esac", "\x7d"].contains s
  | _ => false

/-- The next token. -/
def token (k : Knot) : Reading Token := Tokens.next k.inner

/-- Whether a token is a keyword. -/
def isKeyword (t : Token) (s : String) : Bool := match t with
  | .keyword k => k == s
  | _ => false

/-- Whether a token is a mark. -/
def isMark (t : Token) (s : String) : Bool := match t with
  | .mark m => m == s
  | _ => false

/-- A keyword has to come next. -/
def keyword (k : Knot) (s : String) : Reading Unit := do
  let t ← token k
  if ¬ isKeyword t s then unexpected t (some ("\"" ++ s ++ "\""))

/-- A list that cannot be empty. -/
def inside (k : Knot) : Reading Command := do return (← k.list .inside).getD default

/-- The name of a parameter, if a text is one. -/
def nameBefore (s : String) : Option (String × String) :=
  match s.toList with
  | c :: cs =>
    if isNameStart c then
      let (name, rest) := cs.span isNameInside
      some (String.ofList (c :: name), String.ofList rest)
    else none
  | [] => none

/-- A word as an assignment, if it is one. -/
def assignment? (sub : Inner) (d : Dialect) (w : Word) : Reading (Option Assignment) := do
  match w with
  | .text s :: rest =>
    match nameBefore s with
    | none => return none
    | some (name, after) =>
      let value (s : String) : Word := if s = "" then rest else .text s :: rest
      if after.startsWith "=" then return some (.scalar name none false (value (after.drop 1).toString))
      if d = .plain then return none
      if after.startsWith "+=" then return some (.scalar name none true (value (after.drop 2).toString))
      if after.startsWith "[" then
        let (before, found) := splitPlace (after.toList.drop 1) rest
        match found with
        | some (append, tail) =>
          let subscript ← match before with
            | [.text s] => sub.word s
            | w => pure w
          return some (.scalar name (some subscript) append tail)
        | none => return none
      return none
  | _ => return none
where
  /-- The place in an array, and what is assigned to it. -/
  splitPlace (cs : List Char) (rest : Word) : Word × Option (Bool × Word) :=
    let rec go (depth : Nat) (read : List Char) : List Char → Option (List Char × List Char)
      | [] => none
      | ']' :: cs => if depth = 0 then some (read.reverse, cs) else go (depth - 1) (']' :: read) cs
      | '[' :: cs => go (depth + 1) ('[' :: read) cs
      | c :: cs => go depth (c :: read) cs
    let ending (before : Word) (after : List Char) (rest : Word) : Word × Option (Bool × Word) :=
      let value (s : List Char) : Word := if s = [] then rest else .text (String.ofList s) :: rest
      match after with
      | '=' :: v => (before, some (false, value v))
      | '+' :: '=' :: v => (before, some (true, value v))
      | _ => (before, none)
    match go 0 [] cs with
    | some (inside, after) => ending [.text (String.ofList inside)] after rest
    | none =>
      let rec skim (before : Word) : Word → Word × Option (Bool × Word)
        | [] => (before.reverse, none)
        | .text s :: rest =>
          match go 0 [] s.toList with
          | some (inside, after) =>
            let before := if inside = [] then before else .text (String.ofList inside) :: before
            ending before.reverse after rest
          | none => skim (.text s :: before) rest
        | p :: rest => skim (p :: before) rest
      skim (if cs = [] then [] else [.text (String.ofList cs)]) rest

/-- A redirection after its operator. -/
def redirectAfter (k : Knot) (descriptor : Option Nat) (label operator : String) : Reading Redirect := do
  let isDocument := operator = "<<" ∨ operator = "<<-"
  if isDocument then expect { endMark := true }
  let line := (← get).line
  let t ← token k
  match t with
  | .word w quoted =>
    let input := descriptor.getD 0
    let output := descriptor.getD 1
    let r : Redirect ← match operator with
      | "<<" | "<<-" => do
        let number := (← get).documents.size
        let mark : EndMark := ⟨Word.unquoted w, quoted, operator == "<<-"⟩
        modify fun r => { r with documents := r.documents.push ⟨mark, "", []⟩, pending := r.pending ++ [⟨number, mark, line⟩] }
        pure (.document input number)
      | "<<<" => pure (.line input w)
      | "<&" => pure (.duplicate input false w)
      | ">&" =>
        let isPlain := ((← get).dialect == .plain) || descriptor.isSome || label != "" ||
          (match Word.plain? w with
            | some s => s == "-" || (s.toList.all fun c => '0' ≤ c && c ≤ '9') || s.endsWith "-"
            | none => true)
        pure (if isPlain then .duplicate output true w else .both false w)
      | "<" => pure (.file input .input w)
      | "<>" => pure (.file input .inputAndOutput w)
      | ">>" => pure (.file output .append w)
      | ">|" => pure (.file output .clobber w)
      | "&>" => pure (.both false w)
      | "&>>" => pure (.both true w)
      | _ => pure (.file output .output w)
    return if label = "" then r else .named label r
  | t => unexpected t none

/-- The redirections that come next. -/
def redirects (k : Knot) (e : Expectation) : Nat → List Redirect → Reading (List Redirect)
  | 0, read => return read.reverse
  | n + 1, read => do
    expect e
    match ← token k with
    | .redirect descriptor label operator => redirects k e n ((← redirectAfter k descriptor label operator) :: read)
    | _ =>
      pushBack
      return read.reverse

/-- The commands whose arguments may be assignments. -/
def isDeclaration (s : String) : Bool := ["declare", "typeset", "local", "export", "readonly"].contains s

/-- The commands that are part of the plain language. -/
def isSpecial (name : String) : Bool :=
  [".", ":", "break", "continue", "eval", "exec", "exit", "export", "readonly", "return", "set", "shift", "times",
    "trap", "unset"].contains name

/-- What has been read of a simple command. -/
structure Simple where
  assignments : List Assignment
  words : List Word
  redirects : List Redirect
  late : List Assignment

/-- Whether a command of several begins with a token. -/
def beginsCompound : Token → Bool
  | .mark "(" | .arithmetic _ => true
  | .keyword s => ["\x7b", "if", "while", "until", "for", "case", "select", "[["].contains s
  | _ => false

/-- A function, its name and the first parenthesis being read. -/
def functionAfter (k : Knot) (name : Word) : Reading Command := do
  let t ← token k
  if ¬ isMark t ")" then unexpected t (some "\")\"")
  let r ← get
  match r.dialect with
  | .plain =>
    let s := match name with
      | [.text s] => s
      | _ => ""
    if ¬ isName s ∨ isSpecial s then fail "Bad function name"
    expect beginning
    let line := r.line
    return .define line s (← k.command)
  | .extended =>
    expect beginning
    let line := r.line
    body line (Word.unquoted name)
where
  /-- The body of a function, which is a command of several. -/
  body (line : Nat) (name : String) : Reading Command := do
    let t ← token k
    pushBack
    if ¬ beginsCompound t then unexpected t none
    return .define line name (← k.command)

/-- The parts of a simple command, up to what is none. -/
def simpleFrom (k : Knot) : Nat → Simple → Reading Simple
  | 0, s => return s
  | n + 1, s => do
    let d := (← get).dialect
    expect { aliases := s.words.isEmpty }
    match ← token k with
    | .word w _ =>
      let found ← if s.words.isEmpty then assignment? k.inner d w else pure none
      match found with
      | some a => simpleFrom k n { s with assignments := a :: s.assignments }
      | none => simpleFrom k n { s with words := w :: s.words }
    | .assignment a =>
      match s.words.getLast? with
      | none => simpleFrom k n { s with assignments := a :: s.assignments }
      | some first =>
        if isDeclaration (Word.unquoted first) then
          let name := match a with
            | .array name .. | .scalar name .. => name
          simpleFrom k n { s with words := Word.ofText name :: s.words, late := a :: s.late }
        else unexpected (.mark "(") none
    | .redirect descriptor label operator =>
      simpleFrom k n { s with redirects := (← redirectAfter k descriptor label operator) :: s.redirects }
    | _ =>
      pushBack
      return s

/-- A simple command, or a function. -/
def simple (k : Knot) : Reading Command := do
  let r ← get
  let line := if r.dialect = .plain then r.line else r.startLine
  let s ← simpleFrom k manyTimes ⟨[], [], [], []⟩
  let r ← get
  match r.last, s.words, s.assignments, s.redirects with
  | .mark "(", [name], [], [] =>
    set { r with again := false }
    functionAfter k name
  | _, _, _, _ =>
    return .simple line s.assignments.reverse s.words.reverse s.redirects.reverse s.late.reverse

/-- The words after `in`. -/
def wordsAfter (k : Knot) : Nat → List Word → Reading (List Word)
  | 0, read => return read.reverse
  | n + 1, read => do
    match ← token k with
    | .word w _ => wordsAfter k n (w :: read)
    | .newline | .mark ";" => return read.reverse
    | t => unexpected t none

/-- The commands of a loop, in braces too if that is allowed. -/
def loopBody (k : Knot) : Reading Command := do
  expect beginning
  let t ← token k
  if isKeyword t "do" then
    let body ← inside k
    keyword k "done"
    return body
  else if isKeyword t "\x7b" ∧ (← isExtended) then
    let body ← inside k
    keyword k "\x7d"
    return body
  else unexpected t (some "\"do\"")

/-- A loop that counts, given what stands in its parentheses; an expression that is left out is one. -/
def countedWith (line : Nat) (w : Word) (body : Command) : Command :=
  let parts := (Draft.splitAt ';' 2 false [] w).map fun
    | .text s :: rest =>
      let s := (s.dropWhile fun c => c == ' ' || c == '\t').toString
      if s = "" then (if rest.isEmpty then Word.ofText "1" else rest) else .text s :: rest
    | [] => Word.ofText "1"
    | w => w
  .counted line (parts.headD []) ((parts.drop 1).headD []) ((parts.drop 2).headD []) body

/-- A loop over words, after the word that begins it. -/
def each (k : Knot) (line : Nat) (selects : Bool) : Reading Command := do
  let r ← get
  if r.dialect = .extended ∧ ¬ selects then expect { keywords := true }
  let t ← token k
  match t with
  | .arithmetic w =>
    expect { newlines := false }
    let after ← token k
    if ¬ isMark after ";" then pushBack
    let body ← loopBody k
    return countedWith line w body
  | .word w quoted =>
    let name := Word.unquoted w
    if r.dialect = .plain ∧ (quoted ∨ ¬ isName ((Word.plain? w).getD "")) then fail "Bad for loop variable"
    expect beginning
    let t ← token k
    if isKeyword t "in" then
      let words ← wordsAfter k manyTimes []
      let body ← loopBody k
      return if selects then .choice line name (some words) body else .each line name (some words) body
    else
      if ¬ isMark t ";" then pushBack
      let body ← loopBody k
      return if selects then .choice line name none body else .each line name none body
  | t =>
    match r.dialect, t with
    | .extended, .keyword s =>
      expect beginning
      let t ← token k
      if isKeyword t "in" then
        let words ← wordsAfter k manyTimes []
        return .each line s (some words) (← loopBody k)
      else
        if ¬ isMark t ";" then pushBack
        return .each line s none (← loopBody k)
    | .plain, _ => fail "Bad for loop variable"
    | .extended, t => unexpected t none

/-- The patterns of a case, the first word being read. -/
def patternsFrom (k : Knot) : Nat → Token → List Word → Reading (List Word)
  | 0, _, read => return read.reverse
  | n + 1, t, read => do
    let extended ← isExtended
    let w ← match t with
      | .word w _ => pure w
      | .keyword s => if extended then pure (Word.ofText s) else pure []
      | t => if extended then unexpected t none else pure []
    let after ← token k
    if isMark after "|" then patternsFrom k n (← token k) (w :: read)
    else if isMark after ")" then return (w :: read).reverse
    else unexpected after (some "\")\"")

/-- The cases up to the end. -/
def casesFrom (k : Knot) : Nat → List (List Word × Option Command × CaseEnd) →
    Reading (List (List Word × Option Command × CaseEnd))
  | 0, read => return read.reverse
  | n + 1, read => do
    expect { newlines := true, keywords := true }
    let t ← token k
    if isKeyword t "esac" then return read.reverse
    let t ← if isMark t "(" then token k else pure t
    let patterns ← patternsFrom k manyTimes t []
    let body ← k.list .open_
    expect { newlines := true, keywords := true }
    let t ← token k
    if isKeyword t "esac" then return ((patterns, body, .leaves) :: read).reverse
    match t with
    | .mark ";;" => casesFrom k n ((patterns, body, .leaves) :: read)
    | .mark ";&" => casesFrom k n ((patterns, body, .fallsThrough) :: read)
    | .mark ";;&" => casesFrom k n ((patterns, body, .goesOn) :: read)
    | t => unexpected t (some "\";;\"")

/-- What follows the first condition of a branch. -/
def branchAfter (k : Knot) : Nat → Command → Reading Command
  | 0, condition => return condition
  | n + 1, condition => do
    keyword k "then"
    let yes ← inside k
    let t ← token k
    if isKeyword t "elif" then
      let condition' ← inside k
      return .branch condition yes (some (← branchAfter k n condition'))
    else if isKeyword t "else" then
      let no ← inside k
      keyword k "fi"
      return .branch condition yes (some no)
    else if isKeyword t "fi" then return .branch condition yes none
    else unexpected t (some "\"fi\"")

/-! ## Conditions -/

/-- Whether a word of a condition takes an argument. -/
def isUnary (s : String) : Bool :=
  match s.toList with
  | ['-', c] => "abcdefghknoprstuvwxzGLNORS".toList.contains c
  | _ => false

/-- Whether a word of a condition stands between two others. -/
def isBinary (s : String) : Bool :=
  ["=", "==", "!=", "=~", "<", ">", "-eq", "-ne", "-lt", "-le", "-gt", "-ge", "-ef", "-nt", "-ot"].contains s

/-- Stops because a condition cannot be read. -/
def badCondition {α : Type} (t : Token) (message : String) : Reading α := do
  let r ← get
  let near := "syntax error near \x60" ++ written t ++ "\x27"
  throw (.because r.startLine (if message = "" then near else message ++ "\n" ++ near))

/-- A word of a condition. -/
def conditionWord (k : Knot) (regular patterns : Bool) : Reading Token := do
  let r ← get
  if r.again then token k
  else
    set { r with startLine := r.line, extendedPatterns := r.extendedPatterns || patterns }
    let rec go : Nat → Reading Token
      | 0 => return .endOfFile
      | n + 1 => do
        let c ← nextJoined
        match c with
        | some ' ' | some '\t' => go n
        | some '\n' =>
          nextLine
          return .newline
        | none => return .endOfFile
        | some '&' => do
          if ← accept '&' then return .mark "&&"
          return .mark "&"
        | some '|' => do
          if regular then wordHere k.inner c
          else if ← accept '|' then return .mark "||"
          else return .mark "|"
        | some '(' => if regular then wordHere k.inner c else return .mark "("
        | some ')' => return .mark ")"
        | some '<' => if regular then wordHere k.inner c else return .word (Word.ofText "<") false
        | some '>' => if regular then wordHere k.inner c else return .word (Word.ofText ">") false
        | some ';' => return .mark ";"
        | some _ => wordHere k.inner c
    let t ← go manyTimes
    modify fun after => { after with last := t, extendedPatterns := r.extendedPatterns }
    return t
where
  /-- A word that may be a regular expression. -/
  wordHere (sub : Inner) (c : Option Char) : Reading Token := do
    let (d, after) ← Words.wordFrom sub none manyTimes false c (Draft.fresh .bare regular)
    unread after
    return .word d.word d.quoted

/-- Passes over line ends in a condition. -/
def conditionToken (k : Knot) : Nat → Reading Token
  | 0 => return .endOfFile
  | n + 1 => do
    match ← conditionWord k false false with
    | .newline => conditionToken k n
    | t => return t

mutual

/-- Conditions of which one has to hold. -/
def conditionEither (k : Knot) : Nat → Reading Condition
  | 0 => badCondition .endOfFile ""
  | n + 1 => do
    let a ← conditionBoth k n
    match ← conditionToken k manyTimes with
    | .mark "||" => return .either a (← conditionEither k n)
    | _ =>
      pushBack
      return a

/-- Conditions which all have to hold. -/
def conditionBoth (k : Knot) : Nat → Reading Condition
  | 0 => badCondition .endOfFile ""
  | n + 1 => do
    let a ← conditionTerm k n
    match ← conditionToken k manyTimes with
    | .mark "&&" => return .both a (← conditionBoth k n)
    | _ =>
      pushBack
      return a

/-- One condition. -/
def conditionTerm (k : Knot) : Nat → Reading Condition
  | 0 => badCondition .endOfFile ""
  | n + 1 => do
    let t ← conditionToken k manyTimes
    match t with
    | .mark "(" =>
      let c ← conditionEither k n
      let close ← conditionToken k manyTimes
      if ¬ isMark close ")" then badCondition close ""
      return .grouped c
    | .word w quoted =>
      let s := Word.plain? w
      if s = some "]]" ∧ ¬ quoted then badCondition t ""
      if s = some "!" ∧ ¬ quoted then return .negation (← conditionTerm k n)
      if ¬ quoted ∧ (s.map isUnary).getD false then
        let operand ← conditionWord k false false
        match operand with
        | .word o q =>
          if Word.plain? o = some "]]" ∧ ¬ q then
            badCondition operand "unexpected argument \x60]]\x27 to conditional unary operator"
          return .unary (s.getD "") o
        | t => badCondition t ("unexpected argument \x60" ++ written t ++ "\x27 to conditional unary operator")
      let after ← conditionWord k false false
      match after with
      | .word o q =>
        let operator := Word.plain? o
        if operator = some "]]" ∧ ¬ q then
          pushBack
          return .word w
        else if ¬ q ∧ (operator.map isBinary).getD false then
          let operator := operator.getD ""
          let right ← conditionWord k (operator = "=~") (operator = "=" ∨ operator = "==" ∨ operator = "!=")
          match right with
          | .word r q =>
            if Word.plain? r = some "]]" ∧ ¬ q then
              badCondition right "unexpected argument \x60]]\x27 to conditional binary operator"
            return .binary w operator r
          | t => badCondition t ("unexpected argument \x60" ++ written t ++ "\x27 to conditional binary operator")
        else badCondition after "conditional binary operator expected"
      | .mark "&&" | .mark "||" | .mark ")" =>
        pushBack
        return .word w
      | .newline | .endOfFile =>
        badCondition (.word w quoted) "unexpected token \x60newline\x27, conditional binary operator expected"
      | t => badCondition t ("unexpected token \x60" ++ written t ++ "\x27, conditional binary operator expected")
    | t => badCondition t ""

end

/-- A condition up to the end of its brackets. -/
def conditionAfter (k : Knot) (line : Nat) : Reading Command := do
  let c ← conditionEither k manyTimes
  let t ← conditionToken k manyTimes
  match t with
  | .word w false => if Word.plain? w = some "]]" then return .condition line c else badCondition t ""
  | t => badCondition t ""

/-! ## Commands -/

/-- The bytes before two closing parentheses that no others open, and those after them. -/
def beforeTwo : Nat → List Char → List Char → Option (List Char × List Char)
  | _, _, [] => none
  | depth, read, '\x5c' :: c :: cs => beforeTwo depth (c :: '\x5c' :: read) cs
  | depth, read, '(' :: cs => beforeTwo (depth + 1) ('(' :: read) cs
  | 0, read, ')' :: ')' :: cs => some (read.reverse, cs)
  | 0, _, ')' :: _ => none
  | depth + 1, read, ')' :: cs => beforeTwo depth (')' :: read) cs
  | depth, read, c :: cs => beforeTwo depth (c :: read) cs

/-- An arithmetic expression in two parentheses, if it begins here; the first of them has been read. -/
def arithmetic? (k : Knot) : Reading (Option Word) := do
  let r ← get
  if r.dialect = .plain then return none
  match r.chars, r.inserted with
  | '(' :: rest, [] =>
    match beforeTwo 0 [] rest with
    | none => if rest.contains ')' then return none else throw (.unclosed r.line ")")
    | some (inside, after) =>
      set { r with chars := inside }
      let c ← nextJoined
      let (d, _) ← Words.wordFrom k.inner (some ⟨"", false, r.line⟩) manyTimes false c (Draft.fresh .arithmetic false)
      modify fun after' => { r with
        chars := after, line := r.line + inside.count '\n', documents := after'.documents, warnings := after'.warnings }
      return some d.word
  | _, _ => return none

/-- A command, and redirections after it. -/
def command (k : Knot) : Reading Command := do
  let before := (← get).line
  let t ← token k
  let extended ← isExtended
  let r ← get
  let line := if extended then r.startLine else before
  let (c, line) ← match t with
    | .keyword "if" => do pure (← branchAfter k manyTimes (← inside k), line)
    | .keyword "while" => do
      let condition ← inside k
      keyword k "do"
      let body ← inside k
      keyword k "done"
      pure (.loop false condition body, line)
    | .keyword "until" => do
      let condition ← inside k
      keyword k "do"
      let body ← inside k
      keyword k "done"
      pure (.loop true condition body, line)
    | .keyword "for" => do
      let c ← match ← arithmeticAhead with
        | some w =>
          expect {}
          let after ← token k
          if ¬ isMark after ";" then pushBack
          let body ← loopBody k
          pure (countedWith line w body)
        | none => each k line false
      pure (c, line)
    | .keyword "select" => do pure (← each k line true, line)
    | .keyword "case" => do
      let t ← token k
      let subject ← match t with
        | .word w _ => pure w
        | .keyword s => pure (Word.ofText s)
        | t => unexpected t (some "word")
      expect beginning
      let t ← token k
      if ¬ isKeyword t "in" then unexpected t (some "\"in\"")
      pure (.select line subject (← casesFrom k manyTimes []), line)
    | .keyword "\x7b" => do
      let c ← inside k
      keyword k "\x7d"
      pure (.group c, line)
    | .keyword "[[" => do pure (← conditionAfter k line, line)
    | .keyword "coproc" => do return ← coprocess line
    | .keyword "function" => do
      let t ← token k
      match t with
      | .word w _ =>
        expect beginning
        let t ← token k
        if isMark t "(" then
          let t ← token k
          if ¬ isMark t ")" then unexpected t none
          expect beginning
        else
          pushBack
          expect beginning
        return ← functionAfter.body k line (Word.unquoted w)
      | t => unexpected t none
    | .mark "(" => do
      match ← arithmetic? k with
      | some w => pure (.arithmetic line w, line)
      | none =>
        let c ← inside k
        let t ← token k
        if ¬ isMark t ")" then unexpected t (some "\")\"")
        pure (.subshell line c, line)
    | .word _ _ | .redirect _ _ _ =>
      pushBack
      return ← simple k
    | .assignment _ =>
      if ¬ extended then unexpected t none
      pushBack
      return ← simple k
    | t => unexpected t none
  let rs ← redirects k { keywords := true, aliases := true } manyTimes []
  return if rs.isEmpty then c else .redirected line c rs
where
  /-- A command that the shell is to be connected with; a name can stand before one of several. -/
  coprocess (line : Nat) : Reading Command := do
    expect { keywords := true, aliases := true }
    let r ← get
    let usual := Word.ofText "COPROC"
    let t ← token k
    if beginsCompound t then
      pushBack
      return .coprocess line usual (← k.command)
    let alone : Reading Command := do
      set { r with expectation := { aliases := true } }
      return .coprocess line usual (← simple k)
    match t with
    | .word w _ =>
      expect { keywords := true }
      let after ← token k
      if beginsCompound after then
        pushBack
        return .coprocess line w (← k.command)
      else alone
    | .redirect _ _ _ | .assignment _ | .keyword "time" => alone
    | t => unexpected t none
  /-- An arithmetic expression in two parentheses, blanks before it passed over. -/
  arithmeticAhead : Reading (Option Word) := do
    let r ← get
    if r.dialect = .plain then return none
    match r.chars.dropWhile fun c => c == ' ' || c == '\t' with
    | '(' :: rest =>
      match rest with
      | '(' :: _ =>
        set { r with chars := rest }
        match ← arithmetic? k with
        | some w => return some w
        | none =>
          set r
          return none
      | _ => return none
    | _ => return none

/-- What follows the first command of a pipeline. -/
def pipelineFrom (k : Knot) : Nat → List Command → Reading (List Command)
  | 0, read => return read.reverse
  | n + 1, read => do
    let t ← token k
    if isMark t "|" then
      expect beginning
      pipelineFrom k n ((← k.command) :: read)
    else if isMark t "|&" then
      expect beginning
      let line := (← get).line
      let read := match read with
        | c :: rest => .redirected line c [.duplicate 2 true (Word.ofText "1")] :: rest
        | [] => []
      pipelineFrom k n ((← k.command) :: read)
    else
      pushBack
      return read.reverse

/-- A pipeline, which may be negated. -/
def pipeline (k : Knot) : Nat → Reading Command
  | 0 => k.command
  | n + 1 => do
    let t ← token k
    let extended ← isExtended
    if isKeyword t "!" then
      expect { keywords := true, aliases := true }
      if extended then
        let t ← token k
        match t with
        | .newline | .endOfFile | .mark ";" =>
          pushBack
          return .negation (.simple (← get).line [] [] [] [])
        | _ =>
          pushBack
          return .negation (← pipeline k n)
      else return .negation (← one)
    else if isKeyword t "time" then
      expect { keywords := true, aliases := true }
      let t ← token k
      let posix : Bool := match t with
        | .word w false => Word.plain? w == some "-p"
        | _ => false
      let t ← if posix then do
          expect { keywords := true, aliases := true }
          token k
        else pure t
      pushBack
      match t with
      | .newline | .endOfFile | .mark _ => return .timed posix none
      | _ => return .timed posix (some (← pipeline k n))
    else
      pushBack
      one
where
  /-- A pipeline that is not negated. -/
  one : Reading Command := do
    match ← pipelineFrom k manyTimes [← k.command] with
    | [c] => return c
    | cs => return .pipeline cs

/-- Pipelines joined by conditions. -/
def joinedFrom (k : Knot) : Nat → Command → Reading Command
  | 0, c => return c
  | n + 1, c => do
    let t ← token k
    if isMark t "&&" then
      expect beginning
      joinedFrom k n (.both c (← pipeline k manyTimes))
    else if isMark t "||" then
      expect beginning
      joinedFrom k n (.either c (← pipeline k manyTimes))
    else
      pushBack
      return c

/-- A list of commands. -/
def listFrom (k : Knot) (place : Place) : Nat → Option Command → Reading (Option Command)
  | 0, read => return read
  | n + 1, read => do
    let isLine := place = .line
    expect { newlines := !isLine, keywords := true, aliases := true }
    let t ← token k
    match t with
    | .newline =>
      Words.documents k.inner
      return read
    | .endOfFile =>
      Words.documents k.inner
      pushBack
      return read
    | t =>
      pushBack
      if (place = .open_ ∨ (place = .inside ∧ read.isSome)) ∧ endsList t then return read
      let c ← joinedFrom k manyTimes (← pipeline k manyTimes)
      let t ← token k
      let c := if isMark t "&" then .background c else c
      let read := match read with
        | some before => some (.sequence before c)
        | none => some c
      match t with
      | .endOfFile =>
        Words.documents k.inner
        pushBack
        return read
      | .newline =>
        pushBack
        listFrom k place n read
      | .mark "&" | .mark ";" => listFrom k place n read
      | t =>
        if isLine then unexpected t none
        pushBack
        return read

/-- How deep commands may lie in one another. -/
def mostDeep : Nat := 1000000

/-- The bytes of a text as a word. -/
def wordOf (inner : Inner) (s : String) : Reading Word := do
  let r ← get
  set { r with inserted := [], chars := s.toList }
  let c ← nextJoined
  let d := { Draft.fresh .bare false with brackets := 1 }
  let (d, _) ← Words.wordFrom inner none manyTimes false c d
  modify fun after => { r with documents := after.documents, warnings := after.warnings }
  return d.word

/-- A mark has to come next. -/
def closing (k : Knot) (s : String) : Reading Unit := do
  let t ← token k
  match t, ← isExtended with
  | .endOfFile, true => throw (.unclosed (← get).line s)
  | t, _ => if ¬ isMark t s then unexpected t (some ("\"" ++ s ++ "\""))

/-- How lists and commands are read that lie in one another as deep as a number says. -/
def knot : Nat → Knot
  | 0 => ⟨fun _ => fail "too deep", fail "too deep", ⟨fail "too deep", fun _ => fail "too deep", fun _ => fail "too deep"⟩⟩
  | n + 1 =>
    { list := fun place r => listFrom (knot n) place manyTimes none r
      command := fun r => command (knot n) r
      inner :=
        { command := fun r => listFrom (knot n) .open_ manyTimes none r
          closing := fun s r => closing (knot n) s r
          word := fun s r => wordOf (knot n).inner s r } }

/-- A text as one of several lines after a command is read: what stands for something else counts in it. -/
def textOf? (d : Dialect) (documents : Array Document) (text : String) : Option (Word × Array Document) :=
  let r := { Reader.start d Assoc.empty documents false 1 "" with chars := text.toList }
  let reading : Reading Word := do
    let c ← nextJoined
    let (draft, _) ← Words.wordFrom (knot mostDeep).inner (some ⟨"\x00", false, 1⟩) manyTimes true c (Draft.fresh .double false)
    return draft.word
  match reading r with
  | .ok w after => some (w, after.documents)
  | .error _ _ => none

/-- Reads the commands of the next line of a script: none at its end. -/
def nextLine (r : Reader) : EStateM.Result SyntaxFault Reader (Option (Option Command)) :=
  let k := knot mostDeep
  (do
    modify fun r => { r with again := false, pending := [], expectation := {} }
    let c ← k.list .line
    let r ← get
    match c, r.last, r.again with
    | none, .endOfFile, true => return none
    | c, _, _ => return some c : Reading (Option (Option Command))) r

end TaskRunner.Shell.Grammar
