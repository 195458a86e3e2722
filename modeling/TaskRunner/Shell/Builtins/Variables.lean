import TaskRunner.Shell.Builtins.Directories
import TaskRunner.Shell.Builtins.Functions
import TaskRunner.Shell.Builtins.Limits
import TaskRunner.Shell.Builtins.Output

/-!
# Commands of the shell for variables

Commands that give values and attributes to variables, take them away, and show them; and the options and
parameters of the shell.
-/

namespace TaskRunner.Shell.Builtins

open Processes

/-- Says that a text is no name. -/
def badName (text name : String) : Sh Unit := do
  match (← get).dialect with
  | .plain => Sh.fail (name ++ ": bad variable name")
  | .extended => Sh.complainAbout ("\x60" ++ text ++ "\x27: not a valid identifier")

/-- Shows variables after a word, in the plain language. -/
def showPlain (word : String) (keep : Variable → Bool) : Sh Unit := do
  let lead := if word = "" then "" else word ++ " "
  for (name, v) in Parameters.listed (← get) do
    if keep v then
      match v.content.bind Content.first with
      | some value => Sh.put (lead ++ name ++ "=" ++ Quoting.plain value ++ "\n")
      | none => if word ≠ "" then Sh.put (lead ++ name ++ "\n")

/-- Shows variables as they would be declared. -/
def showDeclared (keep : Variable → Bool) : Sh Unit := do
  for (name, v) in Parameters.listed (← get) do
    if keep v then Sh.put (Parameters.declaration name v ++ "\n")

/-- Marks variables, giving them values if there are any, or functions. -/
def markNames (mark : Variable → Variable) (keep : Variable → Bool) (letter : Char) (args : List String) : Sh Nat := do
  let s ← get
  let word := s.command.getD ""
  let plain := s.dialect = .plain
  let (flags, args) ← readOptions (if plain then "p" else "pfnaA") args
  let undo := flags.any fun (c, _) => c == 'n'
  if flags.any fun (c, _) => c == 'f' then
    return ← markFunctions (fun f => withLetter (!undo) f letter) (fun f => Function.has f letter) args
  if args = [] ∨ (plain ∧ flags ≠ []) then
    if plain then showPlain word keep
    else if Sh.isOn s "posix" then
      for (name, v) in Parameters.listed s do
        if keep v then
          let declared := Parameters.declaration name v
          Sh.put (word ++ " " ++ (" ".intercalate ((declared.splitOn " ").drop 2)) ++ "\n")
    else showDeclared keep
    return 0
  let mut status := 0
  for arg in args do
    let (name, value) := nameAndValue arg
    let append := !plain && value.isSome && name.endsWith "+"
    let name := if append then (name.dropEnd 1).toString else name
    if ¬ isName name then
      badName arg name
      status := 1
    else
      let s ← get
      match value with
      | some v =>
        if s.dialect = .extended ∧ Sh.isFixed s name then
          Sh.complain (name ++ ": readonly variable")
          status := 1
        else Sh.assign name (if append then Sh.valueOf s name ++ v else v)
      | none => pure ()
      modify fun s =>
        let name := Sh.resolve s 8 name
        let v := (s.vars.find? name).getD { content := none }
        { s with vars := s.vars.insert name (if undo then { v with exported := false } else mark v) }
  return status

/-- Makes variables seen by other programs. -/
def exportNames : List String → Sh Nat := markNames (fun v => { v with exported := true }) Variable.exported 'x'

/-- Makes variables that cannot be changed. -/
def readonlyNames : List String → Sh Nat := markNames (fun v => { v with readonly := true }) Variable.readonly 'r'

/-- Keeps what a variable is outside the function that is running. -/
def keepOutside (name : String) : Sh Unit := modify fun s =>
  match s.locals with
  | inner :: outer =>
    if inner.vars.any fun (n, _) => n == name then s
    else { s with locals := { inner with vars := (name, s.vars.find? name) :: inner.vars } :: outer }
  | [] => s

/-- Keeps what the options are outside the function that is running. -/
def keepOptions : Sh Unit := modify fun s =>
  match s.locals with
  | inner :: outer => { s with locals := { inner with options := inner.options <|> some s.options } :: outer }
  | [] => s

/-- Takes a variable away that a function which called the running one has for itself: what it was outside comes back.
False if there is none. -/
def uncover (name : String) : Sh Bool := do
  let s ← get
  let (inner, outer) := s.locals.span fun frame => !frame.vars.any fun (n, _) => n == name
  match inner, outer with
  | _ :: _, frame :: rest =>
    let former := (frame.vars.find? fun (n, _) => n == name).bind Prod.snd
    let frame := { frame with vars := frame.vars.filter fun (n, _) => n != name }
    let vars := match former with
      | some v => s.vars.insert name v
      | none => s.vars.erase name
    set { s with vars, locals := inner ++ frame :: rest }
    return true
  | _, _ => return false

/-- Takes variables or functions away. -/
def unset (args : List String) : Sh Nat := do
  let plain := (← get).dialect = .plain
  let (flags, args) ← readOptions (if plain then "fv" else "fvn") args
  let kind := flags.getLast?.map Prod.fst
  if ¬ plain ∧ flags.any (fun (c, _) => c == 'f') ∧ flags.any (fun (c, _) => c == 'v') then
    Sh.complainAbout "cannot simultaneously unset a function and a variable"
    return 1
  let mut status := 0
  for word in args do
    let s ← get
    -- A reference may stand for a place in an array.
    let arg := if plain ∨ kind.isSome ∨ ¬ (Sh.resolve s 8 word).toList.contains '[' then word else Sh.resolve s 8 word
    let removeFunction : Sh Nat := do
      match s.functions.find? arg with
      | some f =>
        if f.readonly then
          Sh.complainAbout (arg ++ ": cannot unset: readonly function")
          return 1
      | none => pure ()
      modify fun s => { s with functions := s.functions.erase arg }
      return 0
    if kind = some 'f' ∨ (¬ plain ∧ kind.isNone ∧ ¬ isName ((arg.takeWhile (· != '[')).toString)) then
      status := max status (← removeFunction)
    else
      match arg.toList.span (· != '[') with
      | (name, _ :: rest) =>
        let name := String.ofList name
        let key := String.ofList rest.dropLast
        if plain ∨ ¬ isName name then
          badName arg arg
          status := 1
        else
          match (Sh.binding? s name).bind Variable.content with
          | some (.table items) => Sh.change name fun v => { v with content := some (.table (items.erase key)) }
          | some (.array items) =>
            let n ← Expansion.arithmetic key
            match Arrays.placeOf items n with
            | some k => Sh.change name fun v => { v with content := some (.array (items.filter fun (m, _) => m != k)) }
            | none =>
              Sh.complainAbout ("[" ++ key ++ "]: bad array subscript")
              status := 1
          | _ => pure ()
      | _ =>
        if ¬ isName arg then
          if kind ≠ some 'n' then
            badName arg arg
            status := 1
        else
          let name := if kind = some 'n' then arg else Sh.resolve s 8 arg
          match s.vars.find? name with
          | some v =>
            if v.readonly then
              if plain then Sh.fail (name ++ ": is read only")
              else
                Sh.complainAbout (name ++ ": cannot unset: readonly variable")
                status := 1
            else
              let uncovered ← if plain ∨ Sh.isOn s "localvar_unset" then pure false else uncover name
              if ¬ uncovered then modify fun s => { s with vars := s.vars.erase name }
              if ¬ plain ∧ name = "GLOBIGNORE" then Sh.turn "dotglob" false
              if ¬ plain ∧ Sh.localeNames.contains name then modify Sh.relocated
              if ¬ plain ∧ name = "POSIXLY_CORRECT" then Sh.turn "posix" false
          | none =>
            if ¬ plain then modify fun s => { s with givenUp := name :: s.givenUp }
            if ¬ plain ∧ kind.isNone then status := max status (← removeFunction)
  return status

/-- Whether a variable belongs to the function that is running. -/
def isKept (s : State) (name : String) : Bool :=
  match s.locals with
  | inner :: _ => inner.vars.any fun (n, _) => n == name
  | [] => false

/-- What is asked of a variable that is declared. -/
structure Attributes where
  array : Bool
  table : Bool
  plus : List Char
  minus : List Char

/-- A variable with attributes given to it and taken from it. -/
def Attributes.apply (a : Attributes) (v : Variable) : Variable :=
  let vacant := v.vacant || v.content.isNone
  let v := if a.array then
      match v.content with
      | some (.array _) => v
      | some (.scalar s) => { v with content := some (.array [(0, s)]) }
      | _ => { v with content := some (.array []), vacant }
    else v
  let v := if a.table then
      match v.content with
      | some (.table _) => v
      | _ => { v with content := some (.table Assoc.empty), vacant }
    else v
  let cases := (a.minus.filter fun c => c == 'c' || c == 'l' || c == 'u').eraseDups
  let v := match cases with
    | [] => v
    | [c] => { v with capital := c == 'c', lower := c == 'l', upper := c == 'u' }
    | _ => { v with capital := false, lower := false, upper := false }
  let v := a.minus.foldl (fun v c => match c with
    | 'i' => { v with integer := true }
    | 't' => { v with traced := true }
    | 'x' => { v with exported := true }
    | 'n' => { v with reference := true }
    | _ => v) v
  a.plus.foldl (fun v c => match c with
    | 'i' => { v with integer := false }
    | 'c' => { v with capital := false }
    | 'l' => { v with lower := false }
    | 'u' => { v with upper := false }
    | 't' => { v with traced := false }
    | 'x' => { v with exported := false }
    | 'n' => { v with reference := false }
    | _ => v) v

/-- What is wrong with declaring a variable as an array or a reference, if anything is. -/
def Attributes.fault (a : Attributes) (v : Option Variable) (name : String) (value : Option String) : Option String :=
  let isReference := a.minus.contains 'n'
  match v.bind Variable.content with
  | some (.array _) =>
    if a.table then some (name ++ ": cannot convert indexed to associative array")
    else if isReference then some (name ++ ": reference variable cannot be an array")
    else none
  | some (.table _) =>
    if a.array then some (name ++ ": cannot convert associative to indexed array")
    else if isReference then some (name ++ ": reference variable cannot be an array")
    else none
  | _ =>
    match if isReference then value else none with
    | none => none
    | some target =>
      if target = "" then some ("\x60\x27: not a valid identifier")
      else if target = name then some (name ++ ": nameref variable self references not allowed")
      else if Test.isTarget target then none
      else some ("\x60" ++ target ++ "\x27: invalid variable name for name reference")

/-- The letters that are turned on, those that are turned off, and the words after them. -/
def splitFlags : List String → List Char → List Char → List Char × List Char × List String
  | [], minus, plus => (minus, plus, [])
  | arg :: rest, minus, plus =>
    if arg = "--" then (minus, plus, rest)
    else match arg.toList with
      | '-' :: c :: cs => splitFlags rest (minus ++ c :: cs) plus
      | '+' :: c :: cs => splitFlags rest minus (plus ++ c :: cs)
      | _ => (minus, plus, arg :: rest)

/-- Puts the value of an expression, or a text, in a variable that may want the one or the other. -/
def assignValue (name value : String) (append : Bool) : Sh Unit := do
  let s ← get
  let target := Sh.resolve s 8 name
  if target.toList.contains '[' then return ← putIn target append value
  match Sh.binding? s name with
  | some v =>
    if v.integer then
      let text := if append then "(" ++ Sh.valueOf s name ++ ")+(" ++ value ++ ")" else value
      Sh.assign name (toString (← Expansion.arithmetic text))
    else Sh.assign name (if append then Sh.valueOf s name ++ value else value)
  | none =>
    if name = "RANDOM" ∧ (Sh.owned s).contains name then Sh.assign name (toString (← Expansion.arithmetic value))
    else Sh.assign name value

/-- Shows the variables that belong to the function that is running. -/
def showLocals : Sh Unit := do
  let s ← get
  let frame := s.locals.headD {}
  if frame.options.isSome then Sh.put "local -\n"
  let names := (frame.vars.map Prod.fst).mergeSort (· ≤ ·)
  for name in names do
    match s.vars.find? name with
    | some v => Sh.put (Parameters.declaration name v ++ "\n")
    | none => pure ()

/-- A variable as a function begins with it that makes it its own. -/
def beginning (s : State) (inherits : Bool) (name : String) : Variable :=
  match if inherits ∨ Sh.isOn s "localvar_inherit" then s.vars.find? name else none with
  | some v => { v with reference := false }
  | none => { content := none }

/-- Declares variables. -/
def declare (isLocal : Bool) (args : List String) : Sh Nat := do
  let (minus, plus, args) := splitFlags args [] []
  let s ← get
  match minus.find? fun c => !"aAcfFgiIlnrtuxp".toList.contains c with
  | some c => badOption c
  | none => pure ()
  let inside := isLocal || (!s.locals.isEmpty && !minus.contains 'g')
  if isLocal ∧ s.locals.isEmpty then
    Sh.complainAbout "can only be used in a function"
    return 1
  if minus.contains 'f' ∨ minus.contains 'F' then return ← declareFunctions minus plus args
  if isLocal ∧ args = [] ∧ minus.all (· == 'p') then
    showLocals
    return 0
  if minus.contains 'p' ∨ (args = [] ∧ ¬ isLocal) then
    if args = [] then
      let asked := minus.filter fun c => c != 'p' && c != 'g'
      if asked ≠ [] ∨ minus.contains 'p' then
        showDeclared fun v => asked = [] || asked.any fun c => (Parameters.attributes v).toList.contains c
      else
        for (name, v) in Parameters.listed s do
          match v.content with
          | some (.scalar value) => Sh.put (name ++ "=" ++ Quoting.ifNeeded value ++ "\n")
          | _ => Sh.put (Parameters.declaration name v ++ "\n")
      return 0
    let mut status := 0
    for name in args do
      match (Parameters.listed s).find? fun (n, _) => n == name with
      | some (_, v) =>
        let value : Option Content := (Parameters.own s (← Proc.now) name).map Content.scalar
        let items := (Parameters.ownArray s name).map fun items => Content.array ((List.range items.length).zip items)
        let content := if s.vars.contains name then v.content else items <|> value <|> v.content
        Sh.put (Parameters.declaration name { v with content } ++ "\n")
      | none =>
        Sh.complainAbout (name ++ ": not found")
        status := 1
    return status
  let attributes : Attributes := ⟨minus.contains 'a', minus.contains 'A', plus, minus⟩
  let mut status := 0
  for arg in args do
    let (name, value) := nameAndValue arg
    let append := value.isSome && name.endsWith "+"
    let name := if append then (name.dropEnd 1).toString else name
    let (base, key) := match name.toList.span (· != '[') with
      | (b, _ :: rest) => (String.ofList b, some (String.ofList rest.dropLast))
      | (b, []) => (String.ofList b, none)
    let fixed := Sh.isFixed (← get) base
    let changes := value.isSome || plus.contains 'r' || (inside && !isKept (← get) base)
    let now ← get
    let own := if inside ∧ ¬ isKept now base then none else now.vars.find? base
    let fault := attributes.fault own base value
    if isLocal ∧ arg = "-" then keepOptions
    else if ¬ isName base then
      badName arg name
      status := 1
    else if fault.isSome then
      Sh.complainAbout (fault.getD "")
      status := 1
    else if fixed && changes then
      Sh.complainAbout (base ++ ": readonly variable")
      status := 1
    else if fixed then
      let mark (v : Variable) : Variable :=
        { v with exported := (v.exported || minus.contains 'x') && !plus.contains 'x' }
      modify fun s => match s.vars.find? base with
        | some v => { s with vars := s.vars.insert base (mark v) }
        | none => s
    else
      if inside then
        if ¬ isKept (← get) base then
          keepOutside base
          modify fun s => { s with vars := s.vars.insert base (beginning s (minus.contains 'I') base) }
      Sh.change base attributes.apply
      match value, key with
      | some v, none =>
        if minus.contains 'n' then
          let named : Variable := { content := some (.scalar v), reference := true }
          modify fun s => { s with vars := s.vars.insert base named }
        else assignValue base v append
      | some v, some k => putIn (base ++ "[" ++ k ++ "]") append v
      | none, _ => pure ()
      if minus.contains 'r' then
        modify fun s =>
          let v := (s.vars.find? base).getD { content := none }
          { s with vars := s.vars.insert base { v with readonly := true } }
  return status

/-- Makes variables belong to the function that is running. -/
def makeLocal (args : List String) : Sh Nat := do
  match (← get).dialect with
  | .extended => declare true args
  | .plain =>
    if (← get).locals.isEmpty then Sh.fail "not in a function"
    for arg in args do
      let (name, value) := nameAndValue arg
      if arg = "-" then keepOptions
      else
        if ¬ isName name then badName arg name
        keepOutside name
        match value with
        | some v => Sh.assign name v
        | none => pure ()
    return 0

/-! ## Options and parameters -/

/-- Lists the options. -/
def listOptions (asCommands : Bool) : Sh Unit := do
  let s ← get
  if s.dialect = .plain ∧ ¬ asCommands then Sh.put "Current option settings\n"
  for name in Options.names s.dialect do
    let on := Sh.isOn s name
    if asCommands then Sh.put ("set " ++ (if on then "-o " else "+o ") ++ name ++ "\n")
    else
      let width := if s.dialect = .plain then 16 else 15
      let pad := String.ofList (List.replicate (width - name.length) ' ')
      Sh.put (name ++ pad ++ (if s.dialect = .plain then "" else "\t") ++ (if on then "on\n" else "off\n"))

/-- Turns an option with a name on or off. -/
def turnNamed (on : Bool) (name : String) : Sh Nat := do
  let s ← get
  if (Options.names s.dialect).contains name then
    Sh.turn name on
    return 0
  else match s.dialect with
    | .plain => Sh.fail ("Illegal option -o " ++ name)
    | .extended =>
      Sh.complainAbout (name ++ ": invalid option name")
      return 2

/-- Turns an option with a letter on or off. -/
def turnLetter (on : Bool) (c : Char) : Sh Nat := do
  let s ← get
  match (Options.lettered s.dialect).find? fun (l, _) => l == c with
  | some (_, name) =>
    Sh.turn name on
    return 0
  | none =>
    match s.dialect with
    | .plain => Sh.fail ("Illegal option -" ++ String.singleton c)
    | .extended =>
      Sh.complainAbout ((if on then "-" else "+") ++ String.singleton c ++ ": invalid option")
      sayUsage
      return 2

/-- Turns options on or off, and sets parameters if there are words left. -/
def setFrom : Nat → List String → Sh Nat
  | 0, _ => return 0
  | _, [] => return 0
  | n + 1, arg :: rest => do
    match arg.toList with
    | ['-'] =>
      Sh.turn "xtrace" false
      Sh.turn "verbose" false
      if rest ≠ [] then Sh.setParams rest
      return 0
    | ['-', '-'] =>
      Sh.setParams rest
      return 0
    | sign :: letters =>
      if (sign = '-' ∨ sign = '+') ∧ (letters ≠ [] ∨ (← get).dialect = .plain) then each n (sign == '-') rest letters
      else
        Sh.setParams (arg :: rest)
        return 0
    | [] =>
      Sh.setParams (arg :: rest)
      return 0
where
  /-- The options of one word. -/
  each (n : Nat) (on : Bool) (rest : List String) : List Char → Sh Nat
    | [] => setFrom n rest
    | 'o' :: cs => do
      match rest with
      | name :: rest =>
        let status ← turnNamed on name
        if status ≠ 0 then return status else each n on rest cs
      | [] =>
        listOptions (!on)
        each n on [] cs
    | c :: cs => do
      let status ← turnLetter on c
      if status ≠ 0 then return status else each n on rest cs

/-- Sets options and parameters, or shows the variables. -/
def setOptions (args : List String) : Sh Nat := do
  if args ≠ [] then setFrom (args.length + 1) args
  else
    let s ← get
    match s.dialect with
    | .plain => showPlain "" fun v => v.content.isSome
    | .extended =>
      for (name, v) in Parameters.listed s do
        match v.content with
        | some (.scalar value) => Sh.put (name ++ "=" ++ (if value = "" then "" else Quoting.ifNeeded value) ++ "\n")
        | some _ =>
          if ¬ v.vacant then Sh.put (((Parameters.declaration name v).splitOn " " |>.drop 2 |> " ".intercalate) ++ "\n")
        | none => pure ()
      if ¬ Sh.isOn s "posix" then showFunctions (fun _ => true) false
    return 0

/-- Drops the first parameters. -/
def shift (args : List String) : Sh Nat := do
  let s ← get
  match s.dialect with
  | .plain =>
    let n ← match args with
      | a :: _ => number a
      | [] => pure 1
    if s.params.length < n then Sh.fail "can't shift that many"
    Sh.setParams (s.params.drop n)
    return 0
  | .extended =>
    let n := match args with
      | a :: _ => Test.number? a
      | [] => some 1
    let given := match args with
      | a :: _ => a ++ ": "
      | [] => ""
    if n.isSome ∧ 1 < args.length then
      Sh.complainAbout "too many arguments"
      throw (.discard 1)
    match n with
    | none =>
      Sh.complainAbout (args.headD "" ++ ": numeric argument required")
      return 1
    | some n =>
      if n < 0 then
        Sh.complainAbout (args.headD "" ++ ": shift count out of range")
        return 1
      if (s.params.length : Int) < n then
        if Sh.isOn s "shift_verbose" then Sh.complainAbout (given ++ "shift count out of range")
        return 1
      modify fun s => { s with params := s.params.drop n.toNat }
      return 0

/-- Turns options on or off, or shows them: further ones, or with `-o` those of `set`. -/
def shopt (args : List String) : Sh Nat := do
  let (flags, names) ← readOptions "psuqo" args
  let has (c : Char) : Bool := flags.any fun (d, _) => d == c
  if has 's' ∧ has 'u' then
    Sh.complainAbout "cannot set and unset shell options simultaneously"
    return 1
  let ordinary := has 'o'
  let known : List (String × Bool) := if ordinary then (Options.names .extended).map fun n => (n, false) else Options.further
  let line (name : String) (on : Bool) : String :=
    if has 'p' then
      (if ordinary then (if on then "set -o " else "set +o ") else if on then "shopt -s " else "shopt -u ") ++ name ++ "\n"
    else name ++ String.ofList (List.replicate (15 - name.length) ' ') ++ "\t" ++ (if on then "on\n" else "off\n")
  let s ← get
  if names = [] then
    for (name, usual) in known do
      let on := Options.holds s name usual
      if (¬ has 's' ∨ on) ∧ (¬ has 'u' ∨ ¬ on) ∧ ¬ has 'q' then Sh.put (line name on)
    return 0
  let mut status := 0
  for name in names do
    match known.find? fun (n, _) => n == name with
    | none =>
      Sh.complainAbout (name ++ (if ordinary then ": invalid option name" else ": invalid shell option name"))
      status := 1
    | some (_, usual) =>
      if has 's' ∨ has 'u' then
        if usual then Sh.turn ("no:" ++ name) (has 'u') else Sh.turn name (has 's')
      else
        let on := Options.holds s name usual
        if ¬ has 'q' then Sh.put (line name on)
        if ¬ on then status := 1
  return status

/-! ## Aliases -/

/-- Where an alias comes in the list of all, by a sum of its bytes. -/
def aliasRank (name : String) : Nat :=
  (((name.toList.head?.map Char.toNat).getD 0) * 16 + name.foldl (fun n c => n + c.toNat) 0) % 39

/-- Whether the extended language takes a text as the name of an alias. -/
def isAliasName (name : String) : Bool := name != "" && name.toList.all fun c => !"()<>;&| \t\n\\\"'\x60$/".toList.contains c

/-- Whether an alias comes before another one in the extended language: bytes beyond ASCII come first. -/
def aliasPrecedes (a b : String) : Bool :=
  let first (s : String) : Int := match s.toList with
    | c :: _ => if c.toNat < 128 then c.toNat else (c.toNat : Int) - 256
    | [] => 0
  if first a = first b then a ≤ b else first a < first b

/-- Shows or sets aliases. -/
def runAlias (args : List String) : Sh Nat := do
  let s ← get
  let plain := s.dialect = .plain
  let (flags, args) ← if plain then pure ([], args) else readOptions "p" args
  let one (name value : String) : String :=
    if plain then name ++ "=" ++ Quoting.plain value ++ "\n"
    else (if Sh.isOn s "posix" ∧ flags = [] then "" else "alias ") ++ (if name.startsWith "-" then "-- " else "") ++ name ++ "='" ++ value.replace "'" "'\\''" ++ "'\n"
  if args = [] ∨ flags ≠ [] then
    let sorted := s.aliases.toList.mergeSort fun a b =>
      if plain then aliasRank a.1 ≤ aliasRank b.1 else aliasPrecedes a.1 b.1
    for (name, value) in sorted do Sh.put (one name value)
  let mut status := 0
  for arg in args do
    match nameAndValue arg with
    | (name, some value) =>
      if plain ∨ isAliasName name then modify fun s => { s with aliases := s.aliases.insert name value }
      else
        Sh.complainAbout (if name = "" then arg ++ ": not found" else "\x60" ++ name ++ "\x27: invalid alias name")
        status := 1
    | (name, none) =>
      match (← get).aliases.find? name with
      | some value => Sh.put (one name value)
      | none =>
        if plain then discard <| Proc.write 2 (Sh.bytes ("alias: " ++ name ++ " not found\n"))
        else Sh.complainAbout (name ++ ": not found")
        status := 1
  return status

/-- Takes aliases away. -/
def unalias (args : List String) : Sh Nat := do
  let (flags, names) ← readOptions "a" args
  if flags ≠ [] then
    modify fun s => { s with aliases := Assoc.empty }
    return 0
  if names = [] ∧ (← Sh.isExtended) then
    sayUsage
    return 2
  let mut status := 0
  for name in names do
    let s ← get
    if s.aliases.contains name then set { s with aliases := s.aliases.erase name }
    else
      if s.dialect = .plain then discard <| Proc.write 2 (Sh.bytes ("unalias: " ++ name ++ " not found\n"))
      else Sh.complainAbout (name ++ ": not found")
      status := 1
  return status

end TaskRunner.Shell.Builtins
