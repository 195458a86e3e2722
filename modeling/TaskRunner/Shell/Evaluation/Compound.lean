import TaskRunner.Shell.Evaluation.Condition

/-!
# Commands made of commands

Copies of the shell that carry out commands, one beside the other or on their own; choices and loops; and
commands that go on while the shell does. What lies in a command is carried out by the `Knot`.
-/

namespace TaskRunner.Shell.Evaluation

open Processes

/-- Keeps the status of a command of which there is only one in its pipeline. -/
def keepAlone (status : Nat) : Sh Unit := modify fun s => { s with status, statuses := [status] }

/-! ## Copies of the shell -/

/-- Whether a program that a command of the extended language ends with can take the place of the shell. -/
def takesOver : Command → Bool
  | .simple _ _ _ redirects _ => redirects.isEmpty
  | .sequence _ c | .both _ c | .either _ c => takesOver c
  | _ => false

/-- How the last command of a shell is carried out. -/
def lastMode (s : State) (tested : Bool) (c : Command) : Mode := ⟨tested, s.dialect = .plain || takesOver c, true⟩

/-- Carries out an action while redirections hold; the copy of the shell ends if they cannot be followed. -/
def underRedirections (ready : List Redirection.Ready) (action : Sh Unit) : Sh Unit := do
  let (followed, _) ← Redirection.enter ready []
  if followed then action
  else throw (.exit (redirectionStatus (← get).dialect))

/-- Whether a command is a simple one. -/
def isSimple : Command → Bool
  | .simple _ _ _ _ _ => true
  | _ => false

/-- Forgets what the shell was connected with, and the jobs of the shell that this one is a copy of. -/
def forget (partners : List Nat) : Sh Unit := do
  for n in partners do Proc.close n
  modify fun s => { s with jobs := [], bygone := [] }

/-- Carries out a command in a copy of the shell. -/
def subshell (k : Knot) (m : Mode) (line : Nat) (redirects : List Redirect) (c : Command) : Sh Unit := do
  setLine line
  noteCommand (Listing.line (← get).documents
    (if redirects.isEmpty then .subshell line c else .redirected line (.subshell line c) redirects))
  let ready ← redirects.mapM (Redirection.ready k.means)
  let s ← get
  let mode := lastMode s m.tested c
  let inside : Sh Unit := do
    forget (Coprocess.descriptors s)
    underRedirections ready (k.run { mode with exits := mode.exits || isSimple c } c)
  if m.exits && !hasDuties s then
    modify copyOf
    absorb inside
    throw (.exit (← get).status)
  else
    let child ← fork k inside
    keepAlone (Signals.statusOf (← waitFor k 2 child ("( " ++ Listing.line s.documents c ++ " )")))
    checkFailure k m
    answerSignals k

/-- Lets a process that goes on while the shell does read nothing, and pass over what interrupts the shell. -/
def setApart (first : Bool) : Sh Unit := do
  Proc.change fun pid k => k.modifyProcess pid fun p => { p with ignored := [2, 3] ++ p.ignored }
  if first then discard <| Proc.openAs 0 Kernel.OpenMode.input "/dev/null"

/-- Looks in advance for the program that a command of a pipeline names outright, as the plain language does. -/
def lookAhead (c : Command) : Sh Unit := do
  let s ← get
  match s.dialect, c with
  | .plain, .simple _ _ ([.text name] :: _) _ _ =>
    if isName name ∧ ¬ Builtins.isOwn s name ∧ (s.functions.find? name).isNone then
      match ← Builtins.search ((Sh.value? s "PATH").getD "") name with
      | .at found => Builtins.note name found 0
      | _ => pure ()
  | _, _ => pure ()

/-- Begins a process for every command, each reading what the one before writes. The last one writes to where `end_` leads,
if that is given. -/
def stages (k : Knot) (m : Mode) (apart : Bool) (end_ : Option Nat) : Option Nat → List Command → Sh (List Nat)
  | _, [] => return []
  | input, c :: rest => do
    let source ← Sh.newPrivate
    let drain ← Sh.newPrivate
    let isLast := rest.isEmpty
    if ¬ isLast then Proc.pipe source drain
    if ¬ isLast || input.isSome then lookAhead c
    let partners := Coprocess.descriptors (← get)
    let child ← fork k do
      if isSimple c then for n in partners do Proc.close n
      else forget partners
      if apart then setApart input.isNone
      match input with
      | some n =>
        discard <| Proc.duplicate n 0
        Proc.close n
      | none => pure ()
      if ¬ isLast then
        discard <| Proc.duplicate drain 1
        Proc.close source
        Proc.close drain
      else match end_ with
        | some n =>
          discard <| Proc.duplicate n 1
          Proc.close n
        | none => pure ()
      k.run ⟨m.tested, true, apart && isLast && input.isNone⟩ c
    match input with
    | some n => Proc.close n
    | none => pure ()
    if ¬ isLast then Proc.close drain
    return child :: (← stages k m apart end_ (some source) rest)

/-- Waits for the processes of a pipeline. -/
def waitForStages (k : Knot) (text : String) : List Nat → Sh (List Nat)
  | [] => return []
  | child :: rest => do
    let e ← reap k child
    match e with
    | .killed signal => if rest.isEmpty ∨ ¬ (← Sh.isExtended) then Builtins.sayKilled 2 child signal text
    | .exited _ => pure ()
    return Signals.statusOf e :: (← waitForStages k text rest)

/-- Carries out the commands of a pipeline side by side. -/
def pipeline (k : Knot) (m : Mode) (cs : List Command) : Sh Unit := do
  Proc.step
  let text := Listing.line (← get).documents (.pipeline cs)
  let statuses ←
    match if Sh.isOn (← get) "lastpipe" then cs.getLast? else none with
    | some last => do
      let source ← Sh.newPrivate
      let drain ← Sh.newPrivate
      Proc.pipe source drain
      let children ← stages k m false (some drain) none cs.dropLast
      Proc.close drain
      let saved ← Sh.save 0
      discard <| Proc.duplicate source 0
      Proc.close source
      Sh.andFinally (k.run { m.goingOn with tested := true } last) (Sh.restore [saved])
      let status := (← get).status
      pure ((← waitForStages k text children) ++ [status])
    | none => do
      let children ← stages k m false none none cs
      waitForStages k text children
  Builtins.settle
  let s ← get
  let last := statuses.getLast?.getD 0
  let status := if Sh.isOn s "pipefail" then (statuses.reverse.find? (· != 0)).getD 0 else last
  set { s with status, statuses }
  checkFailure k m
  answerSignals k

/-- Leaves a command running. -/
def background (k : Knot) (m : Mode) (c : Command) : Sh Unit := do
  let children ← match c with
    | .pipeline cs => stages k { m with tested := false } true none none cs
    | c => stages k { m with tested := false } true none none [c]
  Signals.newJob children (Listing.line (← get).documents c)
  modify fun s => { s with background := children.getLast?, status := 0 }

/-- Begins a command that the shell is connected with. -/
def coprocess (k : Knot) (line : Nat) (name : Word) (c : Command) : Sh Unit := do
  setLine line
  let partners := Coprocess.descriptors (← get)
  match (← get).coprocess with
  | some old =>
    if partners ≠ [] then
      Sh.complain ("warning: execute_coproc: coproc [" ++ toString old.pid ++ ":" ++ old.name ++ "] still exists")
  | none => pure ()
  let name' ← Expansion.text k.means name
  if ¬ isName name' then
    Sh.complain ("\x60" ++ name' ++ "\x27: not a valid identifier")
    Sh.setStatus 1
  else
    let text := Listing.line (← get).documents (.coprocess line (Word.ofText name') c)
    let reader := ((← Coprocess.free 1).head?).getD 10
    let theirOutput ← Sh.newPrivate
    Proc.pipe reader theirOutput
    let writer := ((← Coprocess.free 3).getLast?).getD 11
    let theirInput ← Sh.newPrivate
    Proc.pipe theirInput writer
    let s ← get
    let child ← fork k do
      Proc.change fun pid k => k.modifyProcess pid fun p => { p with ignored := [2, 3] ++ p.ignored }
      forget (reader :: writer :: partners)
      discard <| Proc.duplicate theirInput 0
      discard <| Proc.duplicate theirOutput 1
      Proc.close theirInput
      Proc.close theirOutput
      k.run (lastMode s false c) c
    Proc.close theirInput
    Proc.close theirOutput
    Proc.withhold reader
    Proc.withhold writer
    Signals.newJob [child] text
    modify fun s => { s with background := some child, status := 0 }
    Coprocess.keep ⟨name', child, some reader, some writer⟩

/-! ## Loops -/

/-- Carries out a body as long as a condition holds, or as long as it does not; `last` is the status of the body. -/
def whileFrom (k : Knot) (m : Mode) (negated : Bool) (condition body : Command) : Nat → Nat → Sh Unit
  | 0, _ => pure ()
  | n + 1, last => do
    Proc.step
    match ← inRound (do k.run .condition condition; return (← get).status) with
    | .leave => Sh.setStatus last
    | .again => whileFrom k m negated condition body n last
    | .done status =>
      if (status != 0) != negated then Sh.setStatus last
      else match ← inRound (k.run m body) with
        | .leave => pure ()
        | _ => whileFrom k m negated condition body n (← get).status

/-- Puts a text in the variable of a loop; false if that cannot be done. -/
def assignItem (name value : String) : Sh Bool := do
  if isName name then
    let s ← get
    if s.dialect = .extended ∧ Sh.isFixed s name then
      Sh.complain (name ++ ": readonly variable")
      return false
    Sh.assign name value
    return true
  else
    match (← get).dialect with
    | .plain => Sh.fail (name ++ ": bad variable name")
    | .extended =>
      Sh.complain ("\x60" ++ name ++ "\x27: not a valid identifier")
      if Sh.isOn (← get) "posix" then throw (.exit 2)
      return false

/-- Carries out a body for every text. -/
def eachFrom (k : Knot) (m : Mode) (name trail : String) (body : Command) : List String → Sh Unit
  | [] => pure ()
  | value :: rest => do
    Proc.step
    if ← Sh.isExtended then
      noteCommand trail
      answerEvent k "DEBUG"
      trace k.means 2 trail
    if ¬ (← assignItem name value) then Sh.setStatus 1
    else match ← inRound (k.run m body) with
      | .leave => pure ()
      | _ => eachFrom k m name trail body rest

/-- The texts that a loop is over: the fields of words, or the parameters. -/
def textsOf (k : Knot) (words : Option (List Word)) : Sh (List String) := do
  match words with
  | some ws => return (← ws.mapM (Expansion.fields k.means)).flatten
  | none => return (← get).params

/-- The words of a loop as they are written. -/
def trailOf (kind name : String) (words : Option (List Word)) : String :=
  match words with
  | some ws => kind ++ " " ++ name ++ " in " ++ Listing.words ws
  | none => kind ++ " " ++ name ++ " in \"$@\""

/-- Carries out a body for every text that words stand for. -/
def each (k : Knot) (m : Mode) (line : Nat) (name : String) (words : Option (List Word)) (body : Command) : Sh Unit := do
  setLine line
  let texts ← textsOf k words
  Sh.setStatus 0
  looping (eachFrom k m.goingOn name (trailOf "for" name words) body texts)

/-- The value of an expression of a loop; none, with a message, if it has none. -/
def stepValue (k : Knot) (expression : Word) (usual : Int) : Sh (Option Int) := do
  let text ← Expansion.document k.means expression
  if text.toList.all fun c => c == ' ' || c == '\t' || c == '\n' then return some usual
  trace k.means 2 ("(( " ++ String.ofList (text.toList.dropWhile (· == ' ')) ++ " ))")
  let before := (← get).command
  modify fun s => { s with command := some "((" }
  let found ← Expansion.valueOf text
  modify fun s => { s with command := before }
  return found.toOption

/-- Carries out a body as long as an expression is not zero, and another expression after each round. -/
def countedFrom (k : Knot) (m : Mode) (condition next : Word) (body : Command) : Nat → Sh Unit
  | 0 => pure ()
  | n + 1 => do
    Proc.step
    match ← stepValue k condition 1 with
    | none => Sh.setStatus 1
    | some 0 => pure ()
    | some _ =>
      match ← inRound (k.run m body) with
      | .leave => pure ()
      | _ =>
        match ← stepValue k next 0 with
        | none => Sh.setStatus 1
        | some _ => countedFrom k m condition next body n

/-- Carries out a loop that counts. -/
def counted (k : Knot) (m : Mode) (line : Nat) (first condition next : Word) (body : Command) : Sh Unit := do
  setLine line
  Sh.setStatus 0
  match ← stepValue k first 0 with
  | none => Sh.setStatus 1
  | some _ => looping (countedFrom k m.goingOn condition next body Proc.endless)

/-! ## Choices -/

/-- The texts that can be chosen, with their numbers, on lines or in columns. -/
def menu (texts : List String) : String :=
  let size := texts.length
  let width (n : Nat) : Nat := (toString n).length
  let longest := (texts.map fun t => (Text.Octets.characters t).length).foldl max 0
  let cell := longest + width size + 2
  let across := max 1 (80 / (cell + 2))
  let rows := (size + across - 1) / across
  let across' := (size + rows - 1) / max rows 1
  let (rows, columns) := if rows = 1 then (size, 1) else (rows, across')
  let one (i : Nat) (isLast : Bool) : String :=
    match texts[i]? with
    | none => ""
    | some t =>
      let number := toString (i + 1)
      let text := String.ofList (List.replicate (width size - number.length) ' ') ++ number ++ ") " ++ t
      if isLast then text
      else text ++ String.ofList (List.replicate (cell + 2 - (Text.Octets.characters text).length) ' ')
  String.join <| (List.range rows).map fun r =>
    String.join ((List.range columns).map fun c =>
      one (r + c * rows) (c + 1 == columns || texts[r + (c + 1) * rows]?.isNone)) ++ "\n"

/-- Lets a number of lines of the input choose texts, until the body leaves the loop or the input ends. -/
def choiceFrom (k : Knot) (m : Mode) (name : String) (texts : List String) (body : Command) : Nat → Bool → Sh Unit
  | 0, _ => pure ()
  | n + 1, shows => do
    Proc.step
    if shows then discard <| Proc.write 2 (Sh.bytes (menu texts))
    let prompt := (Sh.value? (← get) "PS3").getD "#? "
    discard <| Proc.write 2 (Sh.bytes prompt)
    let status ← Builtins.read ["-r", "REPLY"]
    let reply := Sh.valueOf (← get) "REPLY"
    if status ≠ 0 then
      discard <| Proc.write 2 (Sh.bytes "\n")
      Sh.setStatus 1
    else if reply = "" then choiceFrom k m name texts body n true
    else
      let chosen := match Test.number? reply with
        | some i => if 1 ≤ i then (texts[(i - 1).toNat]?).getD "" else ""
        | none => ""
      if ¬ (← assignItem name chosen) then Sh.setStatus 1
      else match ← inRound (k.run m body) with
      | .leave => pure ()
      | _ => choiceFrom k m name texts body n (Sh.valueOf (← get) "REPLY" = "")

/-- Carries out a body for what is chosen from a menu. -/
def choice (k : Knot) (m : Mode) (line : Nat) (name : String) (words : Option (List Word)) (body : Command) : Sh Unit := do
  setLine line
  let texts ← textsOf k words
  Sh.setStatus 0
  trace k.means 2 (trailOf "select" name words)
  if texts ≠ [] then
    looping (choiceFrom k m.goingOn name texts body Proc.endless true)

/-- Whether one of several patterns matches a text. -/
def matchesAny (k : Knot) (text : String) : List Word → Sh Bool
  | [] => return false
  | w :: rest => do
    let cells ← Expansion.cells k.means w
    let s ← get
    if Glob.matchesText (Sh.style s (Sh.isOn s "extglob") (Sh.isOn s "nocasematch")) cells text then return true
    else matchesAny k text rest

/-- Carries out the commands of the first case that matches, and of those that it leads to. -/
def selectFrom (k : Knot) (m : Mode) (text : String) : Bool → List (List Word × Option Command × CaseEnd) → Sh Unit
  | _, [] => pure ()
  | falls, (patterns, body, ending) :: rest => do
    let found ← if falls then pure true else matchesAny k text patterns
    if ¬ found then selectFrom k m text false rest
    else
      match body with
      | some c => k.run (if ending = .leaves then m else m.goingOn) c
      | none => Sh.setStatus 0
      match ending with
      | .leaves => pure ()
      | .fallsThrough => selectFrom k m text true rest
      | .goesOn => selectFrom k m text false rest

/-- Carries out the commands for a text. -/
def select (k : Knot) (m : Mode) (line : Nat) (subject : Word) (cases : List (List Word × Option Command × CaseEnd)) :
    Sh Unit := do
  setLine line
  if ← Sh.isExtended then
    noteCommand ("case " ++ Listing.word subject ++ " in ")
    answerEvent k "DEBUG"
    trace k.means 2 ("case " ++ Listing.word subject ++ " in")
  let text ← Expansion.text k.means subject
  Sh.setStatus 0
  selectFrom k m text false cases

/-! ## Everything -/

/-- A time with so many places of a fraction, in minutes and seconds if it is to be long. -/
def duration (places : Nat) (long : Bool) (time : Nat) : String :=
  let pad (width n : Nat) : String := String.ofList (List.replicate (width - (toString n).length) '0') ++ toString n
  let unit := Nat.pow 10 (9 - places)
  let parts := time / unit
  let perSecond := Nat.pow 10 places
  let fraction := if places = 0 then "" else "." ++ pad places (parts % perSecond)
  let whole := parts / perSecond
  if long then toString (whole / 60) ++ "m" ++ toString (whole % 60) ++ fraction ++ "s" else toString whole ++ fraction

/-- What is said about the time that a command took, by a format; or the letter in it that means nothing. Nothing but the
real time is measured. -/
def timeText (time : Nat) : Nat → List Char → String → Except Char String
  | 0, _, written | _, [], written => .ok written
  | _, ['%'], written => .ok (written ++ "%")
  | n + 1, '%' :: '%' :: rest, written => timeText time n rest (written ++ "%")
  | n + 1, '%' :: 'P' :: rest, written => timeText time n rest (written ++ "0.00")
  | n + 1, '%' :: c :: rest, written =>
    let (places, rest) := if c.isDigit then (min (c.toNat - 48) 3, rest) else (3, c :: rest)
    let (long, rest) := match rest with
      | 'l' :: more => (true, more)
      | more => (false, more)
    match rest with
    | 'R' :: more | 'E' :: more => timeText time n more (written ++ duration places long time)
    | 'U' :: more | 'S' :: more => timeText time n more (written ++ duration places long 0)
    | d :: _ => .error d
    | [] => .error '\x00'
  | n + 1, c :: rest, written => timeText time n rest (written.push c)

/-- Says how long a command took. -/
def timed (k : Knot) (m : Mode) (posix : Bool) (c : Option Command) : Sh Unit := do
  let before ← Proc.now
  match c with
  | some c => k.run m.goingOn c
  | none => Sh.setStatus 0
  let time := (← Proc.now) - before
  let usual := "\nreal\t%3lR\nuser\t%3lU\nsys\t%3lS"
  let s ← get
  let form := if posix then "real %2R\nuser %2U\nsys %2S" else (Sh.value? s "TIMEFORMAT").getD usual
  if form ≠ "" then
    match timeText time (form.length + 1) form.toList "" with
    | .ok text => discard <| Proc.write 2 (Sh.bytes (text ++ "\n"))
    | .error c => Sh.complain ("TIMEFORMAT: \x60" ++ String.singleton c ++ "\x27: invalid format character")

/-- Keeps a function. -/
def define (line : Nat) (name : String) (body : Command) : Sh Unit := do
  let s ← get
  if Sh.isOn s "posix" ∧ (Grammar.isSpecial name ∨ ¬ isName name) then
    Sh.complain ("\x60" ++ name ++ "\x27: " ++ (if isName name then "is a special builtin" else "not a valid identifier"))
    throw (.exit 2)
  let source := match s.sources with
    | source :: _ => source
    | [] => if s.isArgument then "environment" else s.zero
  let marked := s.dialect = .extended && Sh.isOn s "allexport"
  let f : Function := match s.functions.find? name with
    | some f => { f with line, source, body, exported := f.exported || marked }
    | none => { line, source, body, exported := marked }
  if f.readonly then
    Sh.complain (name ++ ": readonly function")
    Sh.setStatus 1
  else set { s with functions := s.functions.insert name f, status := 0 }

/-- Carries out a command. -/
def run (k : Knot) (m : Mode) : Command → Sh Unit
  | .simple line assignments words redirects late => simple k m line assignments words redirects late
  | .pipeline cs => pipeline k m cs
  | .negation c => do
    k.run .condition c
    modify fun s => { s with status := if s.status = 0 then 1 else 0 }
  | .timed posix c => timed k m posix c
  | .sequence a b => do
    k.run m.goingOn a
    k.run m b
  | .both a b => do
    k.run .condition a
    if (← get).status = 0 then k.run m b
  | .either a b => do
    k.run .condition a
    if (← get).status ≠ 0 then k.run m b
  | .background c => background k m c
  | .group c => k.run m c
  | .subshell line c => subshell k m line [] c
  | .redirected _ (.subshell line c) redirects => subshell k m line redirects c
  | .redirected line c redirects => redirected k m line redirects (k.run m.goingOn c)
  | .branch condition yes no => do
    k.run .condition condition
    if (← get).status = 0 then k.run m yes
    else match no with
      | some c => k.run m c
      | none => Sh.setStatus 0
  | .loop negated condition body =>
    looping (whileFrom k m.goingOn negated condition body Proc.endless 0)
  | .each line name words body => each k m line name words body
  | .counted line first condition next body => counted k m line first condition next body
  | .choice line name words body => choice k m line name words body
  | .select line subject cases => select k m line subject cases
  | .define line name body => define line name body
  | .arithmetic line expression => calculate k m line expression
  | .condition line c => answer k m line c
  | .coprocess line name c => coprocess k line name c

end TaskRunner.Shell.Evaluation
