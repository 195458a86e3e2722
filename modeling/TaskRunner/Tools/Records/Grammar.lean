import TaskRunner.Tools.Records.Tokens
import TaskRunner.Tools.Records.Values

/-!
# Reading programs

The rules, functions, statements and expressions of a program. A statement in which something is wrong is
left out, and reading goes on after it, so that as much as possible that is wrong is told at once. Names
are known to be arrays or not by how they are used, those of parameters perhaps only by what functions do
with them that are called.
-/

namespace TaskRunner.Tools.Records

/-! ## Names -/

/-- The names that are there from the beginning. -/
def predeclared : List (String × Kind) :=
  (["NR", "FNR", "NF", "FS", "OFS", "ORS", "RS", "FILENAME", "SUBSEP", "RSTART", "RLENGTH", "ARGC", "CONVFMT",
    "OFMT"].map fun n => (n, Kind.scalar)) ++ [("ENVIRON", .array), ("ARGV", .array)]

/-- Whether a name is that of a function. -/
def isFunction (r : Reader) (name : String) : Bool := r.parameters.any fun (n, _) => n == name

/-- The parameters of the function that is being read. -/
def ownParameters (r : Reader) : List (String × Option Kind) :=
  match r.within with
  | some f => ((r.parameters.find? fun (n, _) => n == f).map Prod.snd).getD []
  | none => []

/-- Takes a name to be of a kind. -/
def takeAs (name : String) (kind : Kind) : Reading Unit := do
  let r ← get
  match (ownParameters r).find? fun (n, _) => n == name with
  | some (_, some known) =>
    if known ≠ kind then
      complain ("illegal reference to local " ++ (if known = .array then "array " else "variable ") ++ name)
  | some (_, none) =>
    let known (own : List (String × Option Kind)) : List (String × Option Kind) :=
      own.map fun (n, k) => if n = name then (n, some kind) else (n, k)
    set { r with parameters := r.parameters.map fun (f, own) => if some f = r.within then (f, known own) else (f, own) }
  | none =>
    match r.kinds.find? fun (n, _) => n == name with
    | some (_, known) =>
      if known ≠ kind then complain ("illegal reference to " ++ (if known = .array then "array " else "variable ") ++ name)
    | none => set { r with kinds := (name, kind) :: r.kinds }

/-- What is known of the kind of a name. -/
def kindOf? (r : Reader) (name : String) : Option Kind :=
  match (ownParameters r).find? fun (n, _) => n == name with
  | some (_, k) => k
  | none => (r.kinds.find? fun (n, _) => n == name).map Prod.snd

/-- Reads the text of a pattern. -/
def readPattern (s : String) : Reading Expr := do
  match Pattern.ofString s with
  | .ok p => return .pattern p
  | .error fault =>
    complain ("regular expression compile failed (" ++ fault.message ++ ")\n" ++ s)
    return .text s

/-- An expression where a pattern is wanted: a text that is written out is read as one. -/
def asPattern (e : Expr) : Reading Expr := do
  match e with
  | .text s => readPattern s
  | e => return e

/-! ## Expressions -/

/-- The comparisons by their signs. -/
def comparisons : List (String × Comparison) :=
  [("==", .equal), ("!=", .notEqual), ("<", .less), ("<=", .lessEqual), (">", .greater), (">=", .greaterEqual)]

/-- The operations of assignments by their signs. -/
def updates : List (String × Operation) :=
  [("+=", .add), ("-=", .subtract), ("*=", .multiply), ("/=", .divide), ("%=", .remainder), ("^=", .power)]

/-- Whether an operand may begin with a piece, so that what is before it is joined with it. -/
def beginsOperand : Token → Bool
  | .number _ | .text _ | .pattern _ | .name _ _ | .builtin _ => true
  | .sign s => ["(", "$", "!", "++", "--"].contains s
  | .word s => s == "getline"
  | _ => false

/-- The name in a place that is nothing but a name. -/
def bareName? : Expr → Option String
  | .place (.name n) => some n
  | _ => none

/-- The name of an array. -/
def arrayName : Reading String := do
  match ← peek with
  | .name s _ =>
    advance
    takeAs s .array
    return s
  | _ => fail

mutual

/-- An expression. -/
def expression : Nat → Reading Expr
  | 0 => throw .ended
  | n + 1 => do
    let condition ← alternatives n
    if ← accept "?" then
      let first ← expression n
      expect ":"
      return .choice condition first (← expression n)
    return condition

/-- Conditions of which one has to hold. -/
def alternatives : Nat → Reading Expr
  | 0 => throw .ended
  | n + 1 => do alternativesFrom n (← conjunctions n)

/-- More of them. -/
def alternativesFrom : Nat → Expr → Reading Expr
  | 0, _ => throw .ended
  | n + 1, e => do
    if ← accept "||" then alternativesFrom n (.either e (← conjunctions n)) else return e

/-- Conditions that all have to hold. -/
def conjunctions : Nat → Reading Expr
  | 0 => throw .ended
  | n + 1 => do conjunctionsFrom n (← memberships n)

/-- More of them. -/
def conjunctionsFrom : Nat → Expr → Reading Expr
  | 0, _ => throw .ended
  | n + 1, e => do
    if ← accept "&&" then conjunctionsFrom n (.both e (← memberships n)) else return e

/-- Whether a key is in an array. -/
def memberships : Nat → Reading Expr
  | 0 => throw .ended
  | n + 1 => do membershipsFrom n (← matchings n)

/-- More of them. -/
def membershipsFrom : Nat → Expr → Reading Expr
  | 0, _ => throw .ended
  | n + 1, e => do
    if (← peek) = .word "in" then
      advance
      membershipsFrom n (.member [e] (← arrayName))
    else return e

/-- Whether something matches. -/
def matchings : Nat → Reading Expr
  | 0 => throw .ended
  | n + 1 => do matchingsFrom n (← comparing n)

/-- More of them. -/
def matchingsFrom : Nat → Expr → Reading Expr
  | 0, _ => throw .ended
  | n + 1, e => do
    if ← accept "~" then matchingsFrom n (.matching false e (← asPattern (← comparing n)))
    else if ← accept "!~" then matchingsFrom n (.matching true e (← asPattern (← comparing n)))
    else return e

/-- Comparisons. -/
def comparing : Nat → Reading Expr
  | 0 => throw .ended
  | n + 1 => do comparingFrom n (← joined n)

/-- More of them. -/
def comparingFrom : Nat → Expr → Reading Expr
  | 0, _ => throw .ended
  | n + 1, e => do
    match ← peek with
    | .sign s =>
      match comparisons.find? fun (sign, _) => sign == s with
      | some (_, c) =>
        advance
        comparingFrom n (.compare c e (← joined n))
      | none => return e
    | _ => return e

/-- Operands one after another, which are joined. -/
def joined : Nat → Reading Expr
  | 0 => throw .ended
  | n + 1 => do joinedFrom n (← sums n true)

/-- More of them. -/
def joinedFrom : Nat → Expr → Reading Expr
  | 0, _ => throw .ended
  | n + 1, e => do
    if beginsOperand (← peek) then joinedFrom n (.join e (← sums n false)) else return e

/-- Sums; `first` says whether an assignment may stand here. -/
def sums : Nat → Bool → Reading Expr
  | 0, _ => throw .ended
  | n + 1, first => do sumsFrom n (← products n first)

/-- More of them. -/
def sumsFrom : Nat → Expr → Reading Expr
  | 0, _ => throw .ended
  | n + 1, e => do
    if ← accept "+" then sumsFrom n (.arithmetic .add e (← products n false))
    else if ← accept "-" then sumsFrom n (.arithmetic .subtract e (← products n false))
    else return e

/-- Products. -/
def products : Nat → Bool → Reading Expr
  | 0, _ => throw .ended
  | n + 1, first => do productsFrom n (← signed n first)

/-- More of them. -/
def productsFrom : Nat → Expr → Reading Expr
  | 0, _ => throw .ended
  | n + 1, e => do
    if ← accept "*" then productsFrom n (.arithmetic .multiply e (← signed n false))
    else if ← accept "/" then productsFrom n (.arithmetic .divide e (← signed n false))
    else if ← accept "%" then productsFrom n (.arithmetic .remainder e (← signed n false))
    else return e

/-- An operand with a sign before it. -/
def signed : Nat → Bool → Reading Expr
  | 0, _ => throw .ended
  | n + 1, first => do
    if ← accept "!" then return .not (← signed n false)
    else if ← accept "-" then return .negative (← signed n false)
    else if ← accept "+" then return .positive (← signed n false)
    else pipedFrom n (← powers n first)

/-- Records that commands write. -/
def pipedFrom : Nat → Expr → Reading Expr
  | 0, _ => throw .ended
  | n + 1, e => do
    if ← accept "|" then
      if (← peek) ≠ .word "getline" then fail
      advance
      pipedFrom n (.recordFrom e (← target n))
    else return e

/-- Powers. -/
def powers : Nat → Bool → Reading Expr
  | 0, _ => throw .ended
  | n + 1, first => do
    let base ← operand n first
    if ← accept "^" then return .arithmetic .power base (← exponent n) else return base

/-- What something is raised to. -/
def exponent : Nat → Reading Expr
  | 0 => throw .ended
  | n + 1 => do
    if ← accept "!" then return .not (← exponent n)
    else if ← accept "-" then return .negative (← exponent n)
    else if ← accept "+" then return .positive (← exponent n)
    else powers n false

/-- An operand, perhaps with one added to it or taken from it; an assignment, if it may stand here. -/
def operand : Nat → Bool → Reading Expr
  | 0, _ => throw .ended
  | n + 1, first => do
    if ← accept "++" then return .step (← place n) true true
    if ← accept "--" then return .step (← place n) false true
    let e ← primary n
    match e with
    | .place p =>
      match ← peek with
      | .sign "++" =>
        advance
        return .step p true false
      | .sign "--" =>
        advance
        return .step p false false
      | .sign s =>
        if ¬ first then return e
        if s = "=" then
          advance
          return .assign p (← expression n)
        match updates.find? fun (sign, _) => sign == s with
        | some (_, op) =>
          advance
          return .update p op (← expression n)
        | none => return e
      | _ => return e
    | e => return e

/-- Something that a value can be assigned to. -/
def place : Nat → Reading Place
  | 0 => throw .ended
  | n + 1 => do
    match ← peek with
    | .name s _ =>
      if isFunction (← get) s then fail
      advance
      match ← primaryName n s with
      | .place p => return p
      | _ => fail
    | .sign "$" =>
      advance
      return .field (← fieldIndex n)
    | _ => fail

/-- Where a record goes, if that is said. -/
def target : Nat → Reading (Option Place)
  | 0 => throw .ended
  | n + 1 => do
    match ← peek with
    | .name s called => if called ∨ isFunction (← get) s then return none else return some (← place n)
    | .sign "$" => return some (← place n)
    | _ => return none

/-- What tells which field is meant. -/
def fieldIndex : Nat → Reading Expr
  | 0 => throw .ended
  | n + 1 => do
    match ← peek with
    | .name "NF" _ | .sign "$" => operand n false
    | .sign "++" | .sign "--" => operand n false
    | .sign "-" | .sign "+" | .sign "!" => signed n false
    | _ => primary n

/-- A name that has been read, perhaps with keys after it. -/
def primaryName : Nat → String → Reading Expr
  | 0, _ => throw .ended
  | n + 1, s => do
    let bare := (← get).bare
    modify fun r => { r with bare := false }
    match ← peek with
    | .sign "[" =>
      if s = "NF" then fail
      advance
      takeAs s .array
      let keys ← list n []
      expect "]"
      return .place (.element s keys)
    | .sign t =>
      if ¬ (bare ∧ (t = "," ∨ t = ")")) then takeAs s .scalar
      return .place (.name s)
    | _ =>
      takeAs s .scalar
      return .place (.name s)

/-- An operand. -/
def primary : Nat → Reading Expr
  | 0 => throw .ended
  | n + 1 => do
    match ← peek with
    | .number s =>
      advance
      return .number (numberOf s)
    | .text s =>
      advance
      return .text s
    | .pattern s =>
      let e ← readPattern s
      advance
      return e
    | .name s called =>
      let r ← get
      let isOwn := (ownParameters r).any fun (n, _) => n == s
      let isKnown := (kindOf? r s).isSome || isOwn
      if isFunction r s ∨ (called ∧ ¬ isKnown) then
        let line := r.aheadLine
        advance
        expect "("
        let args ← arguments n []
        expect ")"
        let r ← get
        let told := args.map fun e => match bareName? e with
          | some name => (kindOf? r name, some name)
          | none => (some .scalar, none)
        modify fun r => { r with uses := ⟨s, line, r.within, told⟩ :: r.uses }
        return .invoke s args
      else
        advance
        primaryName n s
    | .builtin b =>
      advance
      builtinCall n b
    | .word "getline" =>
      advance
      let dest ← target n
      if ← accept "<" then return .recordOf (← powers n false) dest else return .nextRecord dest
    | .sign "$" =>
      modify fun r => { r with bare := false }
      advance
      return .place (.field (← fieldIndex n))
    | .sign "(" =>
      modify fun r => { r with bare := false }
      advance
      let e ← expression n
      if (← peek) = .sign "," then
        advance
        let keys ← list n [e]
        expect ")"
        if (← peek) ≠ .word "in" then fail
        advance
        return .member keys (← arrayName)
      expect ")"
      match e with
      | .place (.field i) => return .place (.field i)
      | e => return .group e
    | _ => fail

/-- Expressions with commas between them, after some that have been read, the last first. -/
def list : Nat → List Expr → Reading (List Expr)
  | 0, _ => throw .ended
  | n + 1, read => do
    let e ← expression n
    if ← accept "," then list n (e :: read) else return (e :: read).reverse

/-- The arguments of a function up to the parenthesis that closes them. -/
def arguments : Nat → List Expr → Reading (List Expr)
  | 0, _ => throw .ended
  | n + 1, read => do
    if (← peek) = .sign ")" ∧ read = [] then return []
    modify fun r => { r with bare := true }
    let e ← expression n
    modify fun r => { r with bare := false }
    if ← accept "," then arguments n (e :: read) else return (e :: read).reverse

/-- The call of a function that every program has. -/
def builtinCall : Nat → Builtin → Reading Expr
  | 0, _ => throw .ended
  | n + 1, b => do
    let line := (← get).aheadLine
    match b with
    | .length =>
      if (← peek) ≠ .sign "(" then return .call .length []
      advance
      if ← accept ")" then return .call .length []
      modify fun r => { r with bare := true }
      let e ← expression n
      modify fun r => { r with bare := false }
      expect ")"
      return .call .length [e]
    | .split =>
      expect "("
      let s ← expression n
      expect ","
      let a ← arrayName
      let by_ ← if ← accept "," then (fun e => [e]) <$> expression n else pure []
      expect ")"
      return .call .split ([s, .place (.name a)] ++ by_)
    | .sub | .gsub =>
      expect "("
      let p ← asPattern (← expression n)
      expect ","
      let by_ ← expression n
      let on ← if ← accept "," then (fun p => [Expr.place p]) <$> place n else pure []
      expect ")"
      return .call b ([p, by_] ++ on)
    | .match_ =>
      expect "("
      let s ← expression n
      expect ","
      let p ← asPattern (← expression n)
      expect ")"
      return .call .match_ [s, p]
    | b =>
      expect "("
      let args ← if (← peek) = .sign ")" then pure [] else list n []
      expect ")"
      let (least, most) := b.arity
      if args.length < least ∨ most < args.length then
        complainAt line ("wrong number of arguments in call to " ++ b.name)
      return .call b args

end

/-! ## Statements -/

/-- How deep expressions and statements may be. -/
def depth : Nat := 1000000

/-- An expression of a statement. -/
def whole : Reading Expr := expression depth

/-- A condition in parentheses, after which a statement comes. -/
def conditionOf : Reading Expr := do
  expect "("
  let e ← whole
  expect ")"
  return e

/-- Passes over the ends of lines before a statement. -/
def overLines : Reading Unit := do
  if (← peek) = .newline then advance

/-- An expression unless something stands there. -/
def optional (stops : Token → Bool) : Reading (Option Expr) := do
  if stops (← peek) then return none else return some (← whole)

/-- Whether nothing more is written. -/
def endsOutput : Token → Bool
  | .redirect _ => true
  | t => t.isEnd

/-- What is written, and where to. -/
def output : Reading (List Expr × Destination) := do
  modify fun r => { r with printing := true }
  let t ← peek
  let args ← if endsOutput t then pure [] else if t = .sign "(" then inParentheses else list depth []
  let dest ← match ← peek with
    | .redirect s =>
      advance
      let e ← whole
      pure (match s with
        | ">" => Destination.file e
        | ">>" => .append e
        | _ => .command e)
    | _ => pure .output
  endStatement
  return (args, dest)
where
  /-- What follows an opening parenthesis: all that is written, or the beginning of an expression. -/
  inParentheses : Reading (List Expr) := do
    let before ← get
    advance
    let args ← list depth []
    expect ")"
    let t ← peek
    if endsOutput t then return args
    if args.length ≠ 1 ∧ t ≠ .word "in" then fail
    set before
    list depth []

/-- A statement that is done again and again. -/
def inLoop (body : Reading Stmt) : Reading Stmt := do
  modify fun r => { r with loops := r.loops + 1 }
  let s ← body
  modify fun r => { r with loops := r.loops - 1 }
  return s

/-- Passes over what is left of a statement; `first` says whether a closing brace belongs to what comes after it. -/
def leave (first : Bool) : Nat → Reading Unit
  | 0 => throw .ended
  | n + 1 => do
    let t ← peek
    if t = .stop then throw .ended
    if t = .sign "\x7d" ∧ first then return
    advance
    if ¬ t.isEnd then leave first n

mutual

/-- A statement. -/
def statement : Nat → Reading Stmt
  | 0 => throw .ended
  | n + 1 => do
    let t ← peek
    if t.isEnd then
      advance
      return .nothing
    match t with
    | .sign "\x7b" =>
      advance
      return .block (← statements n true [])
    | .word "if" =>
      advance
      let condition ← conditionOf
      overLines
      let first ← statement n
      if (← peek) = .word "else" then
        advance
        return .if_ condition first (← statement n)
      return .if_ condition first .nothing
    | .word "while" =>
      advance
      let condition ← conditionOf
      return .while_ condition (← inLoop (do
        overLines
        statement n))
    | .word "do" =>
      advance
      let body ← inLoop (statement n)
      if (← peek) ≠ .word "while" then fail
      advance
      let condition ← conditionOf
      endStatement
      return .repeat_ body condition
    | .word "for" =>
      advance
      expect "("
      let start ← optional (· == .semicolon)
      let body : Reading Stmt := inLoop (do
        overLines
        statement n)
      match start with
      | some (.member [.place (.name name)] array) =>
        expect ")"
        return .forIn name array (← body)
      | start =>
        if (← peek) ≠ .semicolon then fail
        advance
        let condition ← optional (· == .semicolon)
        if (← peek) ≠ .semicolon then fail
        advance
        let next ← optional (· == .sign ")")
        expect ")"
        return .for_ start condition next (← body)
    | .word "print" =>
      advance
      let (args, dest) ← output
      return .print args dest
    | .word "printf" =>
      advance
      let (args, dest) ← output
      if args = [] then complain "no arguments in call to printf"
      return .printf args dest
    | .word "next" =>
      advance
      if ¬ (← get).inRule then complain "improper use of next"
      endStatement
      return .next
    | .word "nextfile" =>
      advance
      if ¬ (← get).inRule then complain "improper use of nextfile"
      endStatement
      return .nextFile
    | .word "exit" =>
      advance
      let e ← optional Token.isEnd
      endStatement
      return .exit e
    | .word "return" =>
      advance
      if (← get).within.isNone then complain "return outside function body"
      let e ← optional Token.isEnd
      endStatement
      return .return_ e
    | .word "break" =>
      advance
      if (← get).loops = 0 then complain "break statement outside of loop"
      endStatement
      return .break_
    | .word "continue" =>
      advance
      if (← get).loops = 0 then complain "continue statement outside of loop"
      endStatement
      return .continue_
    | .word "delete" =>
      advance
      let a ← arrayName
      if ← accept "[" then
        let keys ← list depth []
        expect "]"
        endStatement
        return .delete a keys
      endStatement
      return .clear a
    | _ =>
      let e ← whole
      endStatement
      return .expr e

/-- The statements up to the brace that closes them, after some that have been read, the last first; `first` says
whether none has been read. -/
def statements : Nat → Bool → List Stmt → Reading (List Stmt)
  | 0, _, _ => throw .ended
  | n + 1, first, read => do
    if (← peek) = .sign "\x7d" then
      advance
      return read.reverse
    let loops := (← get).loops
    let attempt : Reading (Option Stmt) := do return some (← statement n)
    let found ← tryCatch attempt fun
      | .ended => throw .ended
      | .recover => pure none
    match found with
    | some s => statements n false (s :: read)
    | none =>
      leave first ((← get).rest.length + 2)
      modify fun r => { r with parentheses := 0, printing := false, bare := false, loops }
      statements n first read

end

/-! ## Programs -/

/-- The statements in braces. -/
def blockOf : Reading (List Stmt) := do
  expect "\x7b"
  statements depth true []

/-- The parameters of a function up to the parenthesis that closes them, after some that have been read, the last
first. -/
def parametersOf (function : String) : Nat → List String → Reading (List String)
  | 0, _ => throw .ended
  | n + 1, read => do
    match ← peek with
    | .name s _ =>
      if s = function then complain "function parameter cannot be the function"
      if read.contains s then complain (s ++ " is duplicated in argument list")
      advance
      if ← accept "," then parametersOf function n (s :: read)
      else
        expect ")"
        return (s :: read).reverse
    | .sign ")" =>
      if read ≠ [] then fail
      advance
      return []
    | _ => fail

/-- A function. -/
def functionOf : Reading Unit := do
  advance
  match ← peek with
  | .name f _ =>
    let r ← get
    match r.kinds.find? fun (n, _) => n == f with
    | some (_, kind) => complain ("illegal reference to " ++ (if kind = .array then "array " else "variable ") ++ f)
    | none => pure ()
    if isFunction r f then complain ("redefinition of " ++ f)
    advance
    expect "("
    let names ← parametersOf f depth []
    modify fun r => { r with parameters := r.parameters ++ [(f, names.map fun n => (n, none))], within := some f }
    overLines
    let body ← blockOf
    modify fun r => { r with within := none, functions := r.functions ++ [⟨f, names, body⟩] }
  | _ => fail

/-- A rule. -/
def ruleOf : Reading Rule := do
  match ← peek with
  | .word "BEGIN" =>
    advance
    return ⟨.before, some (← blockOf)⟩
  | .word "END" =>
    advance
    return ⟨.after, some (← blockOf)⟩
  | _ =>
    modify fun r => { r with inRule := true }
    let scope ← if (← peek) = .sign "\x7b" then pure Scope.all else do
      let e ← whole
      if ← accept "," then Scope.range e <$> whole else pure (Scope.when e)
    let body ← if (← peek) = .sign "\x7b" then some <$> blockOf else do
      endStatement
      pure none
    modify fun r => { r with inRule := false }
    return ⟨scope, body⟩

/-- Passes over pieces up to a block, and over the block. -/
def leaveRule : Nat → Reading Unit
  | 0 => throw .ended
  | n + 1 => do
    match ← peek with
    | .stop => throw .ended
    | .sign "\x7b" =>
      advance
      discard <| statements depth true []
    | _ =>
      advance
      leaveRule n

/-- The rules of a program, after some that have been read, the last first. -/
def rulesFrom : Nat → List Rule → Reading (List Rule)
  | 0, _ => throw .ended
  | n + 1, read => do
    if (← peek) = .stop then return read.reverse
    let attempt : Reading (Option (List Rule)) := do
      if (← peek) = .word "function" then
        functionOf
        return some read
      else return some ((← ruleOf) :: read)
    let found ← tryCatch attempt fun
      | .ended => throw .ended
      | .recover => pure none
    match found with
    | some read => rulesFrom n read
    | none =>
      modify fun r => { r with within := none, inRule := false, loops := 0, printing := false, bare := false }
      leaveRule ((← get).rest.length + 2)
      rulesFrom n read

/-- What is known of the kind of an argument. -/
def kindOfArgument (r : Reader) (u : Use) (arg : Option Kind × Option String) : Option Kind :=
  match arg.2 with
  | some name => kindOf? { r with within := u.within } name
  | none => arg.1

/-- Takes arguments and the parameters that they are for to be of the same kind where only one kind is known. -/
def spread (r : Reader) : Reader :=
  r.uses.foldl (fun r u =>
    match r.parameters.find? fun (f, _) => f == u.function with
    | none => r
    | some (_, own) =>
      (u.args.zip own).foldl (fun r (arg, (parameter, known)) =>
        let put (function : Option String) (name : String) (kind : Kind) (r : Reader) : Reader :=
          match function with
          | some f =>
            { r with parameters := r.parameters.map fun (g, ps) =>
                      if g = f then (g, ps.map fun p => if p.1 = name then (p.1, some kind) else p) else (g, ps) }
          | none => { r with kinds := (name, kind) :: r.kinds }
        match kindOfArgument r u arg, known, arg.2 with
        | some kind, none, _ => put (some u.function) parameter kind r
        | none, some kind, some name =>
          let isOwn := (ownParameters { r with within := u.within }).any fun (n, _) => n == name
          put (if isOwn then u.within else none) name kind r
        | _, _, _ => r) r) r

/-- Spreads what is known as far as it goes. -/
def spreadAll : Nat → Reader → Reader
  | 0, r => r
  | n + 1, r => spreadAll n (spread r)

/-- Notes what is wrong with the uses of functions. -/
def checkUses : Reading Unit := do
  let r ← get
  for u in r.uses.reverse do
    match r.parameters.find? fun (f, _) => f == u.function with
    | none => complainAt r.line ("function " ++ u.function ++ " never defined")
    | some (_, own) =>
      if own.length < u.args.length then complainAt u.line ("too many arguments in call to " ++ u.function)
      for ((arg, (_, known)), i) in (u.args.zip own).zipIdx do
        match kindOfArgument r u arg, known with
        | some actual, some known =>
          let shown (k : Kind) : String := if k = .array then "local array" else "local variable"
          if actual ≠ known then
            complainAt u.line ("type error in arg(" ++ toString (i + 1) ++ ") in call to " ++ u.function ++ " (actual "
              ++ shown actual ++ " vs " ++ shown known ++ ")")
        | _, _ => pure ()

/-- Reads a program; tells what is wrong with it otherwise. -/
def readCode (file : Option String) (text : String) : Except (List String) Code :=
  let start : Reader :=
    { rest := text.toList ++ ['\n'], file, line := 1, last := .newline, ahead := none, aheadLine := 1, parentheses := 0, braces := 0
      printing := false, bare := false, faults := [], kinds := predeclared, functions := [], parameters := [], uses := []
      within := none, loops := 0, inRule := false }
  let all : Reading (List Rule) := do
    skip true
    let rules ← rulesFrom (text.length + 2) []
    let r ← get
    if r.faults = [] then
      set (spreadAll (r.parameters.length + 2) r)
      checkUses
    return rules
  match all.run start with
  | .ok rules r =>
    if r.faults = [] then
      .ok ⟨rules, r.functions, r.parameters.map fun (f, own) => (f, own.map Prod.snd)⟩
    else .error r.faults.reverse
  | .error _ r => .error r.faults.reverse

end TaskRunner.Tools.Records
