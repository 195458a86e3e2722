import TaskRunner.Regex

/-!
# Programs that go through records

A program is a row of rules, each with a pattern that says for which records it is and statements that are
run for them, and functions. Names that stand for arrays are known as such before the program runs.
-/

namespace TaskRunner.Tools.Records

/-- A regular expression, as it was written and as it was read. -/
structure Pattern where
  source : String
  regex : Regex

/-- Functions that every program has. -/
inductive Builtin where
  | length
  | index
  | substr
  | split
  | match_
  | sub
  | gsub
  | sprintf
  | sin
  | cos
  | atan2
  | exp
  | log
  | int
  | sqrt
  | rand
  | srand
  | close
  | system
  | toupper
  | tolower
  | fflush
  | systime
  | mktime
  | strftime
  deriving DecidableEq

namespace Builtin

/-- The names of the functions. -/
def names : List (String × Builtin) :=
  [("length", length), ("index", index), ("substr", substr), ("split", split), ("match", match_), ("sub", sub),
    ("gsub", gsub), ("sprintf", sprintf), ("sin", sin), ("cos", cos), ("atan2", atan2), ("exp", exp), ("log", log),
    ("int", int), ("sqrt", sqrt), ("rand", rand), ("srand", srand), ("close", close), ("system", system),
    ("toupper", toupper), ("tolower", tolower), ("fflush", fflush), ("systime", systime), ("mktime", mktime),
    ("strftime", strftime)]

/-- The name of a function. -/
def name (b : Builtin) : String := ((names.find? fun (_, other) => other == b).map Prod.fst).getD ""

/-- How many arguments a function takes, at least and at most. -/
def arity : Builtin → Nat × Nat
  | length => (0, 1)
  | index => (2, 2)
  | substr => (2, 3)
  | split => (2, 3)
  | match_ => (2, 2)
  | sub | gsub => (2, 3)
  | sprintf => (1, 255)
  | atan2 => (2, 2)
  | sin | cos | exp | log | int | sqrt | close | system | toupper | tolower | mktime => (1, 1)
  | rand | systime => (0, 0)
  | srand | fflush => (0, 1)
  | strftime => (0, 3)

end Builtin

/-- Operations on numbers. -/
inductive Operation where
  | add
  | subtract
  | multiply
  | divide
  | remainder
  | power
  deriving DecidableEq

/-- Comparisons. -/
inductive Comparison where
  | less
  | lessEqual
  | equal
  | notEqual
  | greater
  | greaterEqual
  deriving DecidableEq

mutual

/-- What a value can be assigned to. -/
inductive Place where
  | name (n : String)
  | element (array : String) (keys : List Expr)
  | field (index : Expr)

/-- Expressions. -/
inductive Expr where
  | number (x : Float)
  | text (s : String)
  /-- Whether the record matches. -/
  | pattern (p : Pattern)
  | place (p : Place)
  /-- An expression in parentheses. -/
  | group (e : Expr)
  | assign (p : Place) (e : Expr)
  | update (p : Place) (op : Operation) (e : Expr)
  /-- One more or one less; the value is the one from before or the one from after. -/
  | step (p : Place) (up before : Bool)
  | choice (condition first second : Expr)
  | both (a b : Expr)
  | either (a b : Expr)
  | not (e : Expr)
  | negative (e : Expr)
  | positive (e : Expr)
  | arithmetic (op : Operation) (a b : Expr)
  | compare (c : Comparison) (a b : Expr)
  | join (a b : Expr)
  | matching (negated : Bool) (a b : Expr)
  | member (keys : List Expr) (array : String)
  | call (b : Builtin) (args : List Expr)
  | invoke (function : String) (args : List Expr)
  /-- A record of the input. -/
  | nextRecord (target : Option Place)
  | recordOf (file : Expr) (target : Option Place)
  | recordFrom (command : Expr) (target : Option Place)

end

instance : Inhabited Expr := ⟨.text ""⟩

instance : Inhabited Place := ⟨.name ""⟩

/-- Where something is written to. -/
inductive Destination where
  | output
  | file (e : Expr)
  | append (e : Expr)
  | command (e : Expr)

/-- Statements. -/
inductive Stmt where
  | nothing
  | expr (e : Expr)
  | print (args : List Expr) (dest : Destination)
  | printf (args : List Expr) (dest : Destination)
  | block (body : List Stmt)
  | if_ (condition : Expr) (first second : Stmt)
  | while_ (condition : Expr) (body : Stmt)
  | repeat_ (body : Stmt) (condition : Expr)
  | for_ (start condition next : Option Expr) (body : Stmt)
  | forIn (name array : String) (body : Stmt)
  | next
  | nextFile
  | exit (status : Option Expr)
  | return_ (e : Option Expr)
  | break_
  | continue_
  | delete (array : String) (keys : List Expr)
  | clear (array : String)

instance : Inhabited Stmt := ⟨.nothing⟩

/-- What records a rule is for. -/
inductive Scope where
  | before
  | after
  | all
  | when (e : Expr)
  /-- From a record to another one. -/
  | range (first last : Expr)

/-- A rule; without statements it writes the record. -/
structure Rule where
  scope : Scope
  body : Option (List Stmt)

/-- What a name stands for. -/
inductive Kind where
  | scalar
  | array
  deriving DecidableEq

/-- A function of a program. -/
structure Function where
  name : String
  parameters : List String
  body : List Stmt

/-- A program. -/
structure Code where
  rules : List Rule
  functions : List Function
  /-- What the parameters of functions stand for, as far as it is known. -/
  kinds : List (String × List (Option Kind))

end TaskRunner.Tools.Records
