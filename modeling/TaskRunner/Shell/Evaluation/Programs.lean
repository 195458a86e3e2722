import TaskRunner.Shell.Evaluation.Directing

/-!
# Programs that a shell starts

A name leads to a program through the search path, or is a path itself. The program takes the place of the
shell if nothing is left for the shell to do, and is another process otherwise. A file that has no form in
which it can be executed is a script for a shell.
-/

namespace TaskRunner.Shell.Evaluation

open Processes

/-!
## Assignments

What an assignment puts in a variable, one assignment after another; and variables that are brought back
after a command that they were assigned for.
-/

/-! ## Variables that are brought back -/

/-- What variables were. -/
abbrev Former := List (String × Option Variable)

/-- What variables are. -/
def formerOf (s : State) (names : List String) : Former := names.eraseDups.map fun name => (name, s.vars.find? name)

/-- Lets variables be what they were. -/
def bringBack (former : Former) : Sh Unit := modify fun s =>
  let vars := former.foldl (fun vs (name, v) => match v with
    | some v => vs.insert name v
    | none => vs.erase name) s.vars
  let s := { s with vars }
  let s := if former.any fun (name, _) => Sh.localeNames.contains name then Sh.relocated s else s
  let unset (name option : String) (s : State) : State :=
    if s.dialect = .extended ∧ former.any (fun (n, v) => n == name && v.isNone) then
      { s with options := s.options.filter fun o => !(Sh.together option).contains o }
    else s
  let s := unset "GLOBIGNORE" "dotglob" (unset "POSIXLY_CORRECT" "posix" s)
  let s := if former.any fun (name, _) => name == "PATH" then { s with hashed := Assoc.empty } else s
  if former.any fun (name, _) => name == "OPTIND" then
    { s with optionPlace := 0, optionIndex := max 1 (((Sh.value? s "OPTIND").bind String.toNat?).getD 1) }
  else s

/-- Lets what the innermost function has changed for itself be what it was. -/
def leaveFrame : Sh Unit := do
  let s ← get
  match s.locals with
  | inner :: outer =>
    set { s with locals := outer, options := (inner.options.map fun kept => Options.back s kept).getD s.options }
    bringBack inner.vars
  | [] => pure ()

/-- The name of the variable that an assignment is about. -/
def nameOf : Assignment → String
  | .scalar name _ _ _ => name
  | .array name _ _ => name

/-! ## Assigning -/

/-- Puts a text in a place of an array. -/
def putAt (k : Knot) (name : String) (subscript : Word) (append : Bool) (value : String) : Sh Unit := do
  let key ← Expansion.text k.means subscript
  let written := Listing.word subscript
  let wrong : Sh Unit := do
    Sh.complain (name ++ "[" ++ written ++ "]: bad array subscript")
    throw (.discard 1)
  if Arrays.isTable (← get) name then
    if key = "" then wrong
    Arrays.putUnder name key append value
  else if ["", "@", "*"].contains written then wrong
  else
    let n ← Expansion.arithmetic key
    let value ← match Sh.binding? (← get) name with
      | some v => if v.integer then toString <$> Expansion.arithmetic value else pure value
      | none => pure value
    if ¬ (← Arrays.putAt name n append value) then
      Sh.complain (name ++ "[" ++ key ++ "]: bad array subscript")
      throw (.discard 1)

/-- A text, or its value as an expression if the variable is one of numbers. -/
def valueFor (name value : String) : Sh String := do
  match Sh.binding? (← get) name with
  | some v => if v.integer then toString <$> Expansion.arithmetic value else return value
  | none => return value

/-- Puts items in an array, from a place on. -/
def putItems (k : Knot) (name : String) : Nat → List (Option Word × Word) → Sh Unit
  | _, [] => pure ()
  | next, (none, w) :: rest => do
    let values ← Expansion.fields k.means w
    for (value, i) in values.zipIdx do discard <| Arrays.putAt name (next + i : Nat) false (← valueFor name value)
    putItems k name (next + values.length) rest
  | next, (some place, w) :: rest => do
    let n ← Expansion.arithmetic (← Expansion.text k.means place)
    let value ← valueFor name (← Expansion.value k.means w)
    if ¬ (← Arrays.putAt name n false value) then
      Sh.complain ("[" ++ Listing.word place ++ "]=" ++ value ++ ": bad array subscript")
      putItems k name next rest
    else putItems k name ((if n < 0 then (next : Int) else n + 1).toNat) rest

/-- The items of a table: those with places, and pairs of those without. -/
def putEntries (k : Knot) (name : String) : List (Option Word × Word) → List String → Sh Unit
  | [], [] => pure ()
  | [], key :: [] => Arrays.putUnder name key false ""
  | [], key :: value :: rest => do
    Arrays.putUnder name key false (← valueFor name value)
    putEntries k name [] rest
  | (some place, w) :: rest, loose => do
    let key ← Expansion.text k.means place
    let value ← Expansion.value k.means w
    if key = "" then Sh.complain ("[" ++ Listing.word place ++ "]=" ++ value ++ ": bad array subscript")
    else Arrays.putUnder name key false (← valueFor name value)
    putEntries k name rest loose
  | (none, w) :: rest, loose => do
    let values ← Expansion.fields k.means w
    putEntries k name rest (loose ++ values)
termination_by items loose => (items.length, loose.length)

/-- Gives a variable the value that an assignment of the extended language says. -/
def assignExtended (k : Knot) (a : Assignment) : Sh Unit := do
  match a with
  | .scalar name subscript append value =>
    let value ← Expansion.value k.means value
    let place := match subscript with
      | some w => "[" ++ Listing.word w ++ "]"
      | none => ""
    let text := if value = "" then "" else shown .extended value
    trace k.means 2 (name ++ place ++ (if append then "+=" else "=") ++ text)
    match subscript with
    | none => Builtins.assignValue name value append
    | some w => putAt k name w append value
  | .array name append items =>
    trace k.means 2 (Listing.assignment #[] a)
    let s ← get
    let content := (Sh.binding? s name).bind Variable.content
    if Arrays.isTable s name then
      if ¬ append then Sh.change name fun v => { v with content := some (.table Assoc.empty), vacant := false }
      putEntries k name items []
    else
      let kept : List (Nat × String) := match append, content with
        | true, some (.array items) => items
        | true, some (.scalar s) => [(0, s)]
        | _, _ => []
      -- The words are read before the array is emptied, so that they may come from it.
      let next : Nat := match kept.getLast? with
        | some (n, _) => n + 1
        | none => 0
      let words ← items.mapM fun (place, w) => do
        match place with
        | some _ => return [(place, w)]
        | none => return (← Expansion.fields k.means w).map fun s => (none, [Piece.quote true, .text s, .quote true])
      Sh.change name fun v => { v with content := some (.array kept), vacant := false }
      putItems k name next words.flatten

/-- Gives a variable the value that an assignment of the plain language says, and shows the assignment as text. -/
def assignPlain (k : Knot) (exports : Bool) (a : Assignment) : Sh String := do
  match a with
  | .scalar name _ _ value =>
    let value ← Expansion.value k.means value
    if exports then Sh.assignExported name value else Sh.assign name value
    return name ++ "=" ++ value
  | .array _ _ _ => return ""

/-- Gives variables what was written after a command that declares them, also if they are not to be changed any
more. -/
def assignLate (k : Knot) (a : Assignment) : Sh Unit := do
  let name := nameOf a
  let fixed := ((Sh.binding? (← get) name).map Variable.readonly).getD false
  let mark (readonly : Bool) : Sh Unit := modify fun s =>
    let name := Sh.resolve s 8 name
    match s.vars.find? name with
    | some v => { s with vars := s.vars.insert name { v with readonly } }
    | none => s
  mark false
  assignExtended k a
  mark fixed

/-! ## Starting a program -/

/-- Why a program is not started, and the status of the command. -/
structure Unstartable where
  message : String
  status : Nat

/-- The environment for other programs, in the order in which the languages keep their variables: in classes by a sum
of the bytes of their names. -/
def environment (s : State) : List (String × String) :=
  let all := Sh.environment s
  match s.dialect with
  | .plain =>
    let (fixed, others) := all.partition fun (name, _) => name == "PATH"
    (fixed ++ others).mergeSort fun a b => Builtins.aliasRank a.1 ≤ Builtins.aliasRank b.1
  | .extended => all.reverse.mergeSort fun a b => Arrays.rank a.1 ≤ Arrays.rank b.1

/-- Whether the first line of a file holds a byte that no script has. -/
def isBinary (content : ByteArray) : Bool :=
  ((content.extract 0 80).toList.takeWhile (· != 10)).any (· == 0)

/-- The status of a command that is refused to be executed. -/
def refusedStatus : Refusal → Nat
  | .noEntry | .notDirectory | .tooManyLinks | .nameTooLong => 127
  | _ => 126

/-- What executing a path comes to in the plain language. -/
def imagePlain (path name : String) (args : List String) : Sh (Except Unstartable Image) := do
  let s ← get
  let (fs, place) ← Proc.files
  match Executable.image fs place path name args (environment s) with
  | .ok image => return .ok image
  | .error .notExecutable =>
    match Executable.image fs place "/bin/sh" "/bin/sh" (path :: args) (environment s) with
    | .ok image => return .ok image
    | .error r => return .error ⟨name ++ ": " ++ Sh.reason r, refusedStatus r⟩
  | .error r =>
    let why := match r with
      | .noEntry | .notDirectory => "not found"
      | r => Sh.reason r
    return .error ⟨name ++ ": " ++ why, refusedStatus r⟩

/-- What executing a path comes to in the extended language. -/
def imageExtended (path name : String) (args : List String) : Sh (Except Unstartable Image) := do
  let s ← get
  let (fs, place) ← Proc.files
  let functions := (Sh.exportedFunctions s).reverse.mergeSort fun a b => Arrays.rank a.1 % 512 ≤ Arrays.rank b.1 % 512
  let environment := environment s ++ functions.map (fun (n, text) => (Sh.exportedName n, text)) ++ [("_", path)]
  let target : Option Entry := match fs.walk true place (Text.Octets.toText path) with
    | .ok l => fs.held? l
    | .error _ => none
  let content : ByteArray := match target with
    | some (.file node) => fs.content node
    | _ => ByteArray.empty
  match Executable.image fs place path name args environment with
  | .ok image => return .ok image
  | .error .notExecutable =>
    if isBinary content then return .error ⟨path ++ ": cannot execute binary file: Exec format error", 126⟩
    else return .ok ⟨"bash", name, path :: args, environment⟩
  | .error r =>
    match target with
    | some (.directory _) => return .error ⟨path ++ ": Is a directory", 126⟩
    | some (.file _) =>
      if r = .noEntry then return .error ⟨path ++ ": cannot execute: required file not found", 127⟩
      else
        let allowed ← Builtins.canExecute path
        match if allowed then (Executable.interpreter? content).map Prod.fst else none with
        | some name => return .error ⟨path ++ ": " ++ name ++ ": bad interpreter: " ++ Sh.reason r, 126⟩
        | none => return .error ⟨path ++ ": " ++ Sh.reason r, 126⟩
    | _ => return .error ⟨path ++ ": " ++ Sh.reason r, if r = .noEntry then 127 else 126⟩

/-- What a name leads to in the plain language. -/
def leadPlain (searchPath : Option String) (name : String) (args : List String) : Sh (Except Unstartable Image) := do
  if name.toList.contains '/' then imagePlain name name args
  else
    let path := (searchPath <|> Sh.value? (← get) "PATH").getD ""
    match ← Builtins.search path name with
    | .at found =>
      if searchPath.isNone then Builtins.note name found 1
      imagePlain found name args
    | .forbidden _ => return .error ⟨name ++ ": " ++ Sh.reason .noPermission, 127⟩
    | .nothing => return .error ⟨name ++ ": not found", 127⟩

/-- What a name leads to in the extended language. -/
def leadExtended (searchPath : Option String) (name zero : String) (args : List String) :
    Sh (Except Unstartable Image) := do
  if name.toList.contains '/' then imageExtended name zero args
  else
    let s ← get
    let shownName := if Quoting.needsEscapes name then Quoting.escaped name else name
    let path := (searchPath <|> Sh.value? s "PATH").getD ""
    let known : Option String := (s.hashed.find? name).map Prod.fst
    match if searchPath.isNone then known else none with
    | some found =>
      Builtins.note name found 1
      imageExtended found zero args
    | none =>
      let found ← if name = "" then pure Executable.Found.nothing else Builtins.search path name
      match found with
      | .at found =>
        if searchPath.isNone then Builtins.note name found 1
        imageExtended found zero args
      | .forbidden found => imageExtended found zero args
      | .nothing =>
        let why := if path = "" then Sh.reason .noEntry else "command not found"
        return .error ⟨shownName ++ ": " ++ why, 127⟩

/-- Whether the shell is to do something before it ends, so that no program can take its place. -/
def hasDuties (s : State) : Bool :=
  s.traps.toList.any (fun (_, action) => action != "") || s.hooks.toList.any (fun (_, action) => action != "")

/-- An image that is one level less deep. -/
def raised (image : Image) : Image :=
  { image with environment := image.environment.map fun (name, value) =>
      if name = "SHLVL" then (name, toString ((value.toNat?.getD 0) - 1)) else (name, value) }

/-- Runs a program, as another process if anything is left for the shell to do. How a signal ended it is said on a
descriptor, with the text of the command. -/
def start (k : Knot) (m : Mode) (errors : Nat) (text : String) (found : Except Unstartable Image) : Sh Unit := do
  match found with
  | .error u =>
    Sh.complain u.message
    Sh.setStatus u.status
  | .ok image =>
    let s ← get
    if m.exits && !hasDuties s then Proc.become (if m.rises ∧ s.dialect = .extended then raised image else image)
    else
      let child ← Proc.spawn fun _ => .become image
      Sh.setStatus (Signals.statusOf (← waitFor k errors child text))

/-- Lets a program take the place of the shell, or says why that cannot be done, and ends the shell. -/
def takeOver (found : Except Unstartable Image) : Sh Nat := do
  match found with
  | .ok image => Proc.become image
  | .error u =>
    Sh.complain u.message
    throw (.exit u.status)

/-- Carries out `exec`: a program takes the place of the shell if one is named. -/
def replace (args : List String) : Sh Nat := do
  match (← get).dialect with
  | .plain =>
    let (_, args) ← Builtins.readOptions "" args
    match args with
    | [] => return 0
    | name :: args => takeOver (← leadPlain none name args)
  | .extended =>
    let (flags, args) ← Builtins.readOptions "cla:" args
    match args with
    | [] => return 0
    | name :: args =>
      let zero := ((flags.find? fun (c, _) => c == 'a').map Prod.snd).getD name
      let zero := if flags.any fun (c, _) => c == 'l' then "-" ++ zero else zero
      if flags.any fun (c, _) => c == 'c' then
        modify fun s => { s with vars := ⟨s.vars.toList.map fun (n, v) => (n, { v with exported := false })⟩ }
      let command := (← get).command
      modify fun s => { s with command := none }
      match ← leadExtended none name zero args with
      | .ok image => Proc.become (if (← get).isCopy = 0 then raised image else image)
      | .error u =>
        if ¬ name.toList.contains '/' then Sh.complain ("exec: " ++ name ++ ": not found")
        else
          Sh.complain u.message
          if u.status = 126 then
            let why := (u.message.splitOn ": ").getLast?.getD ""
            Sh.complain ("exec: " ++ name ++ ": cannot execute: " ++ why)
        modify fun s => { s with command }
        if Sh.isOn (← get) "execfail" then return u.status
        throw (.exit u.status)

end TaskRunner.Shell.Evaluation
