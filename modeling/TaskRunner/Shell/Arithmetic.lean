import TaskRunner.Decimal.Digits
import TaskRunner.Shell.Syntax

/-!
# Arithmetic

The values of expressions on whole numbers of 64 bits. An expression is read and its value found in one
go. Variables are looked up in what has been assigned so far and then in an environment; what an
expression assigns is given back with its value.
-/

namespace TaskRunner.Shell.Arithmetic

/-- A number brought into 64 bits. -/
def wrap (n : Int) : Int :=
  let m := n % 18446744073709551616
  if m < 9223372036854775808 then m else m - 18446744073709551616

/-- The largest number. -/
def largest : Int := 9223372036854775807

/-- A number brought into 64 bits by taking the nearest. -/
def saturate (n : Int) : Int := if largest < n then largest else if n < -largest - 1 then -largest - 1 else n

/-- The bits of a number. -/
def bits (n : Int) : Nat := (n % 18446744073709551616).toNat

/-- A truth value as a number. -/
def truth (b : Bool) : Int := if b then 1 else 0

/-- What an operator makes of two numbers; none for a division by zero. -/
def operate (operator : String) (a b : Int) : Option Int :=
  match operator with
  | "+" => some (wrap (a + b))
  | "-" => some (wrap (a - b))
  | "*" => some (wrap (a * b))
  | "/" => if b = 0 then none else some (wrap (a.tdiv b))
  | "%" => if b = 0 then none else some (wrap (a.tmod b))
  | "<<" => some (wrap (a * (Nat.pow 2 (bits b % 64) : Nat)))
  | ">>" => some (a / ((Nat.pow 2 (bits b % 64) : Nat) : Int))
  | "<" => some (truth (a < b))
  | "<=" => some (truth (a ≤ b))
  | ">" => some (truth (b < a))
  | ">=" => some (truth (b ≤ a))
  | "==" => some (truth (a = b))
  | "!=" => some (truth (a ≠ b))
  | "&" => some (wrap (bits a &&& bits b : Nat))
  | "^" => some (wrap (bits a ^^^ bits b : Nat))
  | "|" => some (wrap (bits a ||| bits b : Nat))
  | _ => some 0

/-- How tightly an operator between two operands binds; the least number binds most. -/
def precedence : String → Option Nat
  | "*" | "/" | "%" => some 0
  | "+" | "-" => some 1
  | "<<" | ">>" => some 2
  | "<" | "<=" | ">" | ">=" => some 3
  | "==" | "!=" => some 4
  | "&" => some 5
  | "^" => some 6
  | "|" => some 7
  | _ => none

/-- The operators that assign what another operator makes of the old and the new value. -/
def assigning : List String := ["+=", "-=", "*=", "/=", "%=", "<<=", ">>=", "&=", "^=", "|="]

/-- The operators of both languages, longer ones first. -/
def operators : List String :=
  ["<<=", ">>=", "+=", "-=", "*=", "/=", "%=", "&=", "^=", "|=", "<<", ">>", "<=", ">=", "==", "!=", "&&", "||",
    "+", "-", "*", "/", "%", "<", ">", "&", "^", "|", "=", "!", "~", "(", ")", "?", ":"]

/-- The operator at the beginning, if there is one. -/
def operatorAt (known : List String) (cs : List Char) : Option (String × List Char) :=
  (known.find? fun s => s.toList.isPrefixOf cs).map fun s => (s, cs.drop s.length)

/-- The digits of a number as they are in a base, and what follows. -/
def digitsAt (base : Nat) (cs : List Char) : List Char × List Char :=
  cs.span fun c => Decimal.isHexDigit c && Decimal.digitValue c < base

/-- The number at the beginning of a text, in base eight after a zero and sixteen after `0x`; and what follows. -/
def numberAt (cs : List Char) : Int × List Char :=
  match cs with
  | '0' :: x :: rest =>
    if x = 'x' ∨ x = 'X' then
      match digitsAt 16 rest with
      | ([], _) => (0, x :: rest)
      | (found, after) => (Decimal.natOf 16 found, after)
    else
      let (found, after) := digitsAt 8 (x :: rest)
      (Decimal.natOf 8 found, after)
  | cs =>
    let (found, after) := digitsAt 10 cs
    (Decimal.natOf 10 found, after)

/-! ## The plain language -/

namespace Plain

/-- A token. -/
inductive Token where
  | number (n : Int)
  | label (name : String)
  | operator (s : String)
  | unknown
  | ending
  deriving DecidableEq, Repr

/-- Why an expression has no value. -/
inductive Fault where
  /-- The expression is wrong. -/
  | expression (message : String)
  /-- The value of a variable is no number. -/
  | number (value : String)
  /-- A quotient is too large, which ends the process. -/
  | overflow

/-- The state of an evaluation: what is left, the token that comes next, and what has been assigned. -/
structure State where
  chars : List Char
  next : Token
  assigned : List (String × Int)

/-- An evaluation. -/
abbrev Eval (α : Type) := StateT State (Except Fault) α

/-- Reads a token. -/
def lex (cs : List Char) : Token × List Char :=
  match cs.dropWhile fun c => c == ' ' || c == '\t' || c == '\n' with
  | [] => (.ending, [])
  | c :: rest =>
    if c.isDigit then
      let (n, after) := numberAt (c :: rest)
      (.number (saturate n), after)
    else if isNameStart c then
      let (name, after) := (c :: rest).span isNameInside
      (.label (String.ofList name), after)
    else match operatorAt operators (c :: rest) with
      | some (s, after) => (.operator s, after)
      | none => (.unknown, rest)

/-- The token that comes next; the one after it is read. -/
def take : Eval Token := do
  let s ← get
  let (next, chars) := lex s.chars
  set { s with next, chars }
  return s.next

/-- Stops. -/
def fail {α : Type} (message : String) : Eval α := throw (.expression message)

/-- The number that the value of a variable is. -/
def valueOf (value : String) : Except Fault Int := do
  let isBlank (c : Char) : Bool := c == ' ' || ('\t' ≤ c && c ≤ '\r')
  let cs := value.toList.dropWhile isBlank
  let (negative, cs) := match cs with
    | '-' :: rest => (true, rest)
    | '+' :: rest => (false, rest)
    | cs => (false, cs)
  let (n, after) := numberAt cs
  let n := if negative then -n else n
  if saturate n ≠ n ∨ ¬ after.all isBlank then throw (.number value)
  if (cs.head?.map Char.isDigit).getD false = false ∧ value.toList.any (fun c => !isBlank c) then throw (.number value)
  return n

/-- The value of a variable as a number. -/
def lookup (environment : String → Option String) (name : String) : Eval Int := do
  match (← get).assigned.find? fun (n, _) => n == name with
  | some (_, n) => return n
  | none => valueOf ((environment name).getD "")

/-- Applies an operator. -/
def apply (skipped : Bool) (operator : String) (a b : Int) : Eval Int := do
  if skipped then return b
  if (operator = "/" ∨ operator = "%") ∧ a = -largest - 1 ∧ b = -1 then throw .overflow
  match operate operator a b with
  | some n => return n
  | none => fail "division by zero"

mutual

/-- An operand. -/
def primary (environment : String → Option String) (skipped : Bool) : Nat → Token → Eval Int
  | 0, _ => fail "expecting primary"
  | n + 1, t => do
    match t with
    | .operator "(" =>
      let a ← assignment environment skipped n
      if (← take) ≠ .operator ")" then fail "expecting ')'"
      return a
    | .number a => return a
    | .label name => if skipped then return 0 else lookup environment name
    | .operator "+" => primary environment skipped n (← take)
    | .operator "-" => return wrap (-(← primary environment skipped n (← take)))
    | .operator "!" => return truth ((← primary environment skipped n (← take)) = 0)
    | .operator "~" => return -(← primary environment skipped n (← take)) - 1
    | _ => fail "expecting primary"

/-- What operators make of an operand and what follows, as long as they bind more tightly than `limit`. -/
def operations (environment : String → Option String) (skipped : Bool) : Nat → Nat → Int → Eval Int
  | 0, _, a => return a
  | n + 1, limit, a => do
    match (← get).next with
    | .operator s =>
      match precedence s with
      | some p =>
        if limit ≤ p then return a
        let _ ← take
        let b ← primary environment skipped n (← take)
        let b ← operations environment skipped n p b
        operations environment skipped n limit (← apply skipped s a b)
      | none => return a
    | _ => return a

/-- Operands that all have to be true. -/
def conjunction (environment : String → Option String) (skipped : Bool) : Nat → Token → Eval Int
  | 0, _ => fail "expecting primary"
  | n + 1, t => do
    let a ← operations environment skipped n 8 (← primary environment skipped n t)
    if (← get).next = .operator "&&" then
      let _ ← take
      let b ← conjunction environment (skipped || a == 0) n (← take)
      return truth (a ≠ 0 ∧ b ≠ 0)
    return a

/-- Operands of which one has to be true. -/
def disjunction (environment : String → Option String) (skipped : Bool) : Nat → Token → Eval Int
  | 0, _ => fail "expecting primary"
  | n + 1, t => do
    let a ← conjunction environment skipped n t
    if (← get).next = .operator "||" then
      let _ ← take
      let b ← disjunction environment (skipped || a != 0) n (← take)
      return truth (a ≠ 0 ∨ b ≠ 0)
    return a

/-- One of two values. -/
def choice (environment : String → Option String) (skipped : Bool) : Nat → Token → Eval Int
  | 0, _ => fail "expecting primary"
  | n + 1, t => do
    let a ← disjunction environment skipped n t
    if (← get).next = .operator "?" then
      let _ ← take
      let b ← assignment environment (skipped || a == 0) n
      if (← take) ≠ .operator ":" then fail "expecting ':'"
      let c ← choice environment (skipped || a != 0) n (← take)
      return if a ≠ 0 then b else c
    return a

/-- A value, perhaps assigned to a variable. -/
def assignment (environment : String → Option String) (skipped : Bool) : Nat → Eval Int
  | 0 => fail "expecting primary"
  | n + 1 => do
    let t ← take
    match t, (← get).next with
    | .label name, .operator s =>
      if s = "=" ∨ assigning.contains s then
        let _ ← take
        let value ← assignment environment skipped n
        if skipped then return value
        let value ← if s = "=" then pure value
          else apply false (s.dropEnd 1).toString (← lookup environment name) value
        modify fun s => { s with assigned := (name, value) :: s.assigned }
        return value
      else choice environment skipped n t
    | _, _ => choice environment skipped n t

end

/-- The value of an expression, and what it assigns, the last first. -/
def value (environment : String → Option String) (expression : String) : Except Fault (Int × List (String × Int)) := do
  let (next, chars) := lex expression.toList
  let run : Eval Int := do
    let n ← assignment environment false (4 * expression.length + 8)
    if (← get).next ≠ .ending then fail "expecting EOF"
    return n
  let (n, s) ← run.run ⟨chars, next, []⟩
  return (n, s.assigned)

end Plain

/-! ## The extended language -/

namespace Extended

/-- A variable, perhaps an item of an array. -/
structure Label where
  name : String
  subscript : Option String
  deriving DecidableEq, Repr

/-- What is known about variables. -/
structure Environment where
  read : Label → Option String
  /-- Whether places of an array are texts. -/
  isTable : String → Bool

/-- A token. -/
inductive Token where
  | number (n : Int)
  | label (l : Label)
  | operator (s : String)
  | ending
  deriving DecidableEq, Repr

/-- The state of an evaluation. -/
structure State where
  chars : List Char
  token : Token
  previous : Token
  /-- What is left from the last token on. -/
  mark : List Char
  /-- The value of the variable that was read last. -/
  label : Label
  skipped : Nat
  assigned : List (Label × Int)

/-- Why an expression has no value: the expression, a message, and the rest from the wrong token on. -/
structure Fault where
  expression : String
  message : String
  rest : String

/-- An evaluation. -/
abbrev Eval (α : Type) := StateT State (Except Fault) α

/-- Stops. -/
def fail {α : Type} (expression message : String) : Eval α := do
  let s ← get
  throw ⟨expression, message, String.ofList s.mark⟩

/-- The operators, longer ones first. -/
def known : List String := ["**"] ++ operators ++ [","]

/-- The value of a digit in a base up to 64. -/
def digit (base : Nat) (c : Char) : Option Nat :=
  if c.isDigit then some (c.toNat - 48)
  else if 'a' ≤ c ∧ c ≤ 'z' then some (c.toNat - 87)
  else if 'A' ≤ c ∧ c ≤ 'Z' then some (if base ≤ 36 then c.toNat - 55 else c.toNat - 29)
  else if c = '@' then some 62
  else if c = '_' then some 63
  else none

/-- The number that digits write in a base. -/
def inBase (base : Nat) (cs : List Char) : Option Int :=
  (cs.foldlM (fun n c => do
    let d ← digit base c
    if d < base then some (n * base + d) else none) 0).map fun (n : Nat) => wrap n

/-- The number that a text writes, or what is wrong with it. -/
def constant (cs : List Char) : Except String Int :=
  let must (base : Nat) (cs : List Char) : Except String Int :=
    match inBase base cs with
    | some n => .ok n
    | none => .error (if cs.contains '#' then "invalid number" else "value too great for base")
  match cs.span (· != '#') with
  | (_, []) =>
    match cs with
    | '0' :: x :: rest => if x = 'x' ∨ x = 'X' then must 16 rest else must 8 (x :: rest)
    | cs => must 10 cs
  | (base, _ :: rest) =>
    let b := Decimal.natOf 10 base
    if ¬ base.all Char.isDigit ∨ b < 2 ∨ 64 < b then .error "invalid arithmetic base"
    else if rest = [] then .error "invalid integer constant"
    else must b rest

/-- What stands in brackets, and what follows them. -/
def bracketed : Nat → List Char → List Char → Option (List Char × List Char)
  | _, _, [] => none
  | depth, read, '[' :: cs => bracketed (depth + 1) ('[' :: read) cs
  | 0, read, ']' :: cs => some (read.reverse, cs)
  | depth + 1, read, ']' :: cs => bracketed depth (']' :: read) cs
  | depth, read, c :: cs => bracketed depth (c :: read) cs

/-- Whether a token is followed by an operand. -/
def wantsOperand : Token → Bool
  | .operator s => s != ")"
  | .ending => true
  | _ => false

/-- Reads a token. -/
def next (expression : String) : Eval Unit := do
  let s ← get
  let put (token : Token) (chars mark : List Char) : Eval Unit :=
    modify fun s => { s with previous := s.token, token, chars, mark }
  match s.chars.dropWhile fun c => c == ' ' || c == '\t' || c == '\n' with
  | [] => modify fun s => { s with previous := s.token, token := .ending, chars := [] }
  | c :: rest =>
    let here := c :: rest
    if isNameStart c then
      let (name, after) := here.span isNameInside
      let name := String.ofList name
      match after with
      | '[' :: more =>
        match bracketed 0 [] more with
        | some (inside, after) => put (.label ⟨name, some (String.ofList inside)⟩) after here
        | none =>
          set { s with mark := here }
          fail expression "bad array subscript"
      | _ => put (.label ⟨name, none⟩) after here
    else if c.isDigit then
      let (digits, after) := here.span fun c => c.isAlphanum || c == '#' || c == '@' || c == '_'
      match constant digits with
      | .ok n => put (.number n) after here
      | .error message =>
        set { s with mark := here }
        fail expression message
    else
      let twice := rest.head? = some c
      if (c = '+' ∨ c = '-') ∧ twice then
        let isLabel : Bool := match s.token with
          | .label _ => true
          | _ => false
        let isChanged : Bool := match s.token with
          | .number _ => s.previous == .operator "++" || s.previous == .operator "--"
          | _ => false
        let after := rest.drop 1
        let ahead := after.dropWhile fun c => c == ' ' || c == '\t' || c == '\n'
        let name := String.ofList [c, c]
        if isChanged then
          set { s with mark := here }
          fail expression (name ++ ": assignment requires lvalue")
        if isLabel then put (.operator ("post" ++ name)) after here
        else if (ahead.head?.map isNameStart).getD false then put (.operator name) after here
        else put (.operator (String.singleton c)) rest here
      else match operatorAt known here with
        | some (o, after) => put (.operator o) after here
        | none =>
          set { s with mark := here }
          fail expression (if wantsOperand s.token then "syntax error: operand expected"
            else "syntax error: invalid arithmetic operator")

/-- The operators of each level of operators between two operands, the loosest first. -/
def levels : List (List String) :=
  [["|"], ["^"], ["&"], ["==", "!="], ["<=", ">=", "<", ">"], ["<<", ">>"], ["+", "-"], ["*", "/", "%"]]

/-- Keeps what is assigned. -/
def assign (l : Label) (n : Int) : Eval Unit := do
  if (← get).skipped = 0 then modify fun s => { s with assigned := (l, n) :: s.assigned }

/-- Evaluates something that counts only if a condition holds. -/
def only {α : Type} (counts : Bool) (e : Eval α) : Eval α := do
  if counts then e
  else
    modify fun s => { s with skipped := s.skipped + 1 }
    let a ← e
    modify fun s => { s with skipped := s.skipped - 1 }
    return a

/-- The power of a number. -/
def power (a : Int) (n : Nat) : Int := wrap (Nat.rec (1 : Int) (fun _ r => wrap (r * a)) (min n 100000))

mutual

/-- The value of a text as an expression of its own. -/
def nested (env : Environment) : Nat → String → Eval Int
  | 0, s => fail s "expression recursion level exceeded"
  | n + 1, s => do
    if s.toList.all fun c => c == ' ' || c == '\t' || c == '\n' then return 0
    let before ← get
    set { before with chars := s.toList, token := .ending, previous := .ending, mark := s.toList }
    next s
    let a ← comma env s n
    if (← get).token ≠ .ending then fail s "syntax error in expression"
    modify fun after => { before with assigned := after.assigned }
    return a

/-- The variable that a place in an array stands for. -/
def located (env : Environment) : Nat → Label → Eval Label
  | 0, l => return l
  | n + 1, l => do
    match l.subscript with
    | none => return l
    | some s => if env.isTable l.name then return l else return { l with subscript := some (toString (← nested env n s)) }

/-- The value of a variable. -/
def valueOf (env : Environment) : Nat → Label → Eval Int
  | 0, l => fail l.name "expression recursion level exceeded"
  | n + 1, l => do
    let s ← get
    if 0 < s.skipped then return 0
    match s.assigned.find? fun (m, _) => m == l with
    | some (_, v) => return v
    | none => nested env n ((env.read l).getD "")

/-- An operand. -/
def operand (env : Environment) (e : String) : Nat → Eval Int
  | 0 => fail e "expression recursion level exceeded"
  | n + 1 => do
    match (← get).token with
    | .operator "++" | .operator "--" =>
      let change : Int := if (← get).token = .operator "++" then 1 else -1
      next e
      match (← get).token with
      | .label l =>
        let l ← located env n l
        let v := wrap ((← valueOf env n l) + change)
        assign l v
        modify fun s => { s with token := .number v }
        next e
        return v
      | _ => fail e "identifier expected after pre-increment or pre-decrement"
    | .operator "(" =>
      next e
      let a ← comma env e n
      if (← get).token ≠ .operator ")" then fail e "missing \x60)\x27"
      next e
      return a
    | .number a =>
      next e
      return a
    | .label l =>
      let before ← get
      next e
      let l ← located env n l
      match (← get).token with
      | .operator "post++" | .operator "post--" =>
        let change : Int := if (← get).token = .operator "post++" then 1 else -1
        let v ← valueOf env n l
        assign l (wrap (v + change))
        modify fun s => { s with token := .number v }
        next e
        return v
      | t =>
        modify fun s => { s with label := l }
        if t = .operator "=" then
          modify fun s => { s with previous := before.token }
          return 0
        else
          let v ← valueOf env n l
          modify fun s => { s with label := l, previous := before.token }
          return v
    | _ => fail e "syntax error: operand expected"

/-- An operand with signs before it. -/
def signed (env : Environment) (e : String) : Nat → Eval Int
  | 0 => fail e "expression recursion level exceeded"
  | n + 1 => do
    match (← get).token with
    | .operator o =>
      if ["!", "~", "-", "+"].contains o then
        next e
        let a ← signed env e n
        modify fun s => { s with previous := .number 0 }
        return match o with
          | "!" => truth (a = 0)
          | "~" => -a - 1
          | "-" => wrap (-a)
          | _ => a
      else operand env e n
    | _ => operand env e n

/-- A power. -/
def powers (env : Environment) (e : String) : Nat → Eval Int
  | 0 => fail e "expression recursion level exceeded"
  | n + 1 => do
    let a ← signed env e n
    if (← get).token = .operator "**" then
      next e
      let b ← powers env e n
      modify fun s => { s with previous := .number 0 }
      if b < 0 then fail e "exponent less than 0"
      return power a b.toNat
    return a

/-- What the operators of levels make of operands. -/
def operations (env : Environment) (e : String) : Nat → List (List String) → Eval Int
  | 0, _ => fail e "expression recursion level exceeded"
  | n + 1, [] => powers env e n
  | n + 1, here :: tighter => do
    let a ← operations env e n tighter
    furtherOperations env e n here tighter a

/-- What the operators of one level make of an operand and what follows. -/
def furtherOperations (env : Environment) (e : String) : Nat → List String → List (List String) → Int → Eval Int
  | 0, _, _, a => return a
  | n + 1, here, tighter, a => do
    match (← get).token with
    | .operator o =>
      if here.contains o then
        next e
        let b ← operations env e n tighter
        let s ← get
        match operate o a b with
        | some v =>
          modify fun s => { s with previous := .number 0 }
          furtherOperations env e n here tighter v
        | none =>
          if 0 < s.skipped then furtherOperations env e n here tighter 0
          else fail e "division by 0"
      else return a
    | _ => return a

/-- Operands that all have to be true. -/
def conjunction (env : Environment) (e : String) : Nat → Eval Int
  | 0 => fail e "expression recursion level exceeded"
  | n + 1 => do
    let a ← operations env e n levels
    if (← get).token = .operator "&&" then
      next e
      let b ← only (a ≠ 0) (conjunction env e n)
      modify fun s => { s with previous := .number 0 }
      return truth (a ≠ 0 ∧ b ≠ 0)
    return a

/-- Operands of which one has to be true. -/
def disjunction (env : Environment) (e : String) : Nat → Eval Int
  | 0 => fail e "expression recursion level exceeded"
  | n + 1 => do
    let a ← conjunction env e n
    if (← get).token = .operator "||" then
      next e
      let b ← only (a = 0) (disjunction env e n)
      modify fun s => { s with previous := .number 0 }
      return truth (a ≠ 0 ∨ b ≠ 0)
    return a

/-- One of two values. -/
def choice (env : Environment) (e : String) : Nat → Eval Int
  | 0 => fail e "expression recursion level exceeded"
  | n + 1 => do
    let a ← disjunction env e n
    if (← get).token = .operator "?" then
      next e
      if (← get).token = .ending ∨ (← get).token = .operator ":" then fail e "expression expected"
      let b ← only (a ≠ 0) (comma env e n)
      if (← get).token ≠ .operator ":" then fail e "\x60:\x27 expected for conditional expression"
      next e
      if (← get).token = .ending then fail e "expression expected"
      let c ← only (a = 0) (choice env e n)
      modify fun s => { s with previous := .operator "?" }
      return if a ≠ 0 then b else c
    return a

/-- A value, perhaps assigned to a variable. -/
def assignment (env : Environment) (e : String) : Nat → Eval Int
  | 0 => fail e "expression recursion level exceeded"
  | n + 1 => do
    let a ← choice env e n
    match (← get).token with
    | .operator o =>
      if o = "=" ∨ assigning.contains o then
        match (← get).previous with
        | .label _ =>
          let l := (← get).label
          next e
          let b ← assignment env e n
          let v ← if o = "=" then pure b
            else match operate (o.dropEnd 1).toString a b with
              | some v => pure v
              | none => if 0 < (← get).skipped then pure 0 else fail e "division by 0"
          assign l v
          modify fun s => { s with previous := .number v }
          return v
        | _ => fail e "attempted assignment to non-variable"
      else return a
    | _ => return a

/-- Values one after another, of which the last counts. -/
def comma (env : Environment) (e : String) : Nat → Eval Int
  | 0 => fail e "expression recursion level exceeded"
  | n + 1 => do
    let a ← assignment env e n
    if (← get).token = .operator "," then
      next e
      comma env e n
    else return a

end

/-- The value of an expression, and what it assigns, the last first. -/
def value (env : Environment) (expression : String) : Except Fault (Int × List (Label × Int)) := do
  let start : State := ⟨[], .ending, .ending, [], ⟨"", none⟩, 0, []⟩
  let (n, s) ← (nested env (40 * expression.length + 4000) expression).run start
  return (n, s.assigned)

end Extended

end TaskRunner.Shell.Arithmetic
