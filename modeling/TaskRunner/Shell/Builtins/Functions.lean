import TaskRunner.Shell.Builtins.Usage

/-!
# Commands of the shell for functions

Functions are shown as they would be defined, and like variables they can be kept from being changed or be told to
other shells.
-/

namespace TaskRunner.Shell.Builtins

/-- The letters of what a function has. -/
def functionLetters (f : Function) : String :=
  (if f.readonly then "r" else "") ++ (if f.traced then "t" else "") ++ (if f.exported then "x" else "")

/-- How the attributes of a function are declared. -/
def functionDeclaration (name : String) (f : Function) : String :=
  "declare -f" ++ functionLetters f ++ " " ++ name ++ "\n"

/-- How a function is written, by its name. -/
def functionListing (s : State) (name : String) : String :=
  match s.functions.find? name with
  | some f => Listing.function s.documents name f.body
  | none => ""

/-- Shows functions with their attributes, in the order of their names. -/
def showFunctions (keep : Function → Bool) (named : Bool) : Sh Unit := do
  let s ← get
  for (name, f) in s.functions.toList.mergeSort fun a b => a.1 ≤ b.1 do
    if keep f then
      if ¬ named then Sh.put (Listing.function s.documents name f.body ++ "\n")
      if named ∨ functionLetters f ≠ "" then Sh.put (functionDeclaration name f)

/-- Changes a function. -/
def changeFunction (name : String) (change : Function → Function) : Sh Unit := modify fun s =>
  match s.functions.find? name with
  | some f => { s with functions := s.functions.insert name (change f) }
  | none => s

/-- Marks functions, or shows those that are marked. -/
def markFunctions (mark : Function → Function) (keep : Function → Bool) (names : List String) : Sh Nat := do
  if names = [] then
    showFunctions keep false
    return 0
  let mut status := 0
  for name in names do
    if (← get).functions.contains name then changeFunction name mark
    else
      Sh.complainAbout (name ++ ": not a function")
      status := 1
  return status

/-- Whether a function has what a letter stands for. -/
def Function.has (f : Function) (c : Char) : Bool :=
  match c with
  | 'r' => f.readonly
  | 't' => f.traced
  | 'x' => f.exported
  | _ => true

/-- A function that has what a letter stands for, or has it no more. -/
def withLetter (on : Bool) (f : Function) (c : Char) : Function :=
  match c with
  | 'r' => { f with readonly := on }
  | 't' => { f with traced := on }
  | 'x' => { f with exported := on }
  | _ => f

/-- Declares functions, or shows them; `minus` and `plus` are the letters that are turned on and off. -/
def declareFunctions (minus plus : List Char) (names : List String) : Sh Nat := do
  let onlyNames := minus.contains 'F'
  if names = [] then
    showFunctions (fun f => minus.all fun c => Function.has f c) onlyNames
    return 0
  let changes := (minus ++ plus).filter fun c => !(['f', 'F', 'p', 'g']).contains c
  let mut status := 0
  for name in names do
    match (← get).functions.find? name with
    | none => status := 1
    | some f =>
      match changes.find? fun c => ['a', 'A', 'i', 'n'].contains c with
      | some c =>
        Sh.complainAbout ("-" ++ String.singleton c ++ ": invalid option")
        status := 1
      | none =>
        if f.readonly ∧ plus.contains 'r' then
          Sh.complainAbout (name ++ ": readonly function")
          status := 1
        else if changes ≠ [] then
          changeFunction name fun f => plus.foldl (withLetter false) (minus.foldl (withLetter true) f)
        else if minus.contains 'p' then
          if ¬ onlyNames then Sh.put (Listing.function (← get).documents name f.body ++ "\n")
          if onlyNames ∨ functionLetters f ≠ "" then Sh.put (functionDeclaration name f)
        else
          let listing := Listing.function (← get).documents name f.body
          Sh.put (if onlyNames then name ++ "\n" else listing ++ "\n")
  return status

end TaskRunner.Shell.Builtins
