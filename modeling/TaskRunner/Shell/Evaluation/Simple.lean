import TaskRunner.Shell.Evaluation.Programs

/-!
# Simple commands

A simple command is words, assignments before them and redirections. The first word names a function, a
command of the shell or a program. Assignments before a name hold for that command alone, except, in the
plain language, before the special commands. The two languages differ in the order in which they do
things, and in what an error ends.
-/

namespace TaskRunner.Shell.Evaluation

open Processes

/-- Notes the line that a command stands in. -/
def setLine (line : Nat) : Sh Unit := modify fun s =>
  { s with line := if s.functionLine = 0 then line else line - (s.functionLine - 1) }

/-! ## Commands of the shell -/

/-- What `command` is to do. -/
inductive Wish where
  /-- Says what names stand for, briefly or at length. -/
  | describe (verbose : Bool) (standard : Bool) (names : List String)
  | run (standard : Bool) (args : List String)

/-- Reads the options of `command`. -/
def wishOf (args : List String) : Sh Wish := do
  let (flags, args) ← Builtins.readOptions "pvV" args
  let has (c : Char) : Bool := flags.any fun (d, _) => d == c
  return if has 'v' ∨ has 'V' then .describe (has 'V') (has 'p') args else .run (has 'p') args

/-- The action of a command of the shell. -/
def actionOf (k : Knot) (m : Mode) (name : String) (args : List String) : Sh Nat :=
  match name with
  | "eval" => evaluateText k m.goingOn args
  | "." | "source" => evaluateFile k m args
  | "exec" => replace args
  | "export" | "readonly" => do
    if ← Sh.isExtended then
      for a in args do
        let (target, value) := Builtins.nameAndValue a
        let lone := if target.endsWith "+" then (target.dropEnd 1).toString else target
        match value with
        | some value =>
          if isName lone then trace k.means 2 (target ++ "=" ++ (if value = "" then "" else shown .extended value))
        | none => pure ()
    if name = "export" then Builtins.exportNames args else Builtins.readonlyNames args
  | "compgen" => Builtins.compgen k.means args
  | "mapfile" | "readarray" => Builtins.mapfile (fun text => discard <| evaluateText k m.goingOn [text]) args
  | "fc" => Builtins.fc (fun line => evaluateText k m.goingOn [line]) args
  | "command" => do
    match ← wishOf args with
    | .describe verbose standard names => do
      let s ← get
      let path := if standard then Builtins.standardPath else (Sh.value? s "PATH").getD ""
      match s.dialect, names with
      | .plain, name :: _ => Builtins.describePlain verbose path name
      | .plain, [] => return 0
      | .extended, names => Builtins.describeExtended (Builtins.functionListing s) verbose path names
    | .run _ _ => return 0
  | name => do
    match regular? (← get).dialect name with
    | some action => action args
    | none => return 0

/-- Hands on what a command of the shell has written, and gives its status. -/
def handOn (name : String) (status : Nat) : Sh Nat := do
  match ← Sh.flush with
  | none => return status
  | some r =>
    match (← get).dialect with
    | .plain =>
      Sh.complain (name ++ ": I/O error")
      return status ||| 1
    | .extended =>
      Sh.complain (name ++ ": write error: " ++ Sh.reason r)
      return 1

/-- Runs a command of the shell. An error ends only the command, unless the command is special. -/
def runBuiltin (k : Knot) (m : Mode) (special : Bool) (name : String) (args : List String) : Sh Unit := do
  let before := (← get).command
  modify fun s => { s with command := some name }
  tryCatch (do
      let status ← actionOf k m name args
      Sh.setStatus (← handOn name status)
      modify fun s => { s with command := before }
      if special ∧ (name = "return" ∨ name = "set") ∧ status = 2 ∧ (← Sh.isExtended) then throw (.exit status)) fun
    | .error n => do
      modify fun s => { s with command := before, out := "", status := n }
      if special then throw (if ← Sh.isExtended then .exit n else .error n)
    | .breakLoop n => do
      discard <| handOn name 0
      modify fun s => { s with command := before }
      throw (.breakLoop n)
    | .continueLoop n => do
      discard <| handOn name 0
      modify fun s => { s with command := before }
      throw (.continueLoop n)
    | jump => do
      modify fun s => { s with command := before, out := "" }
      throw jump

/-! ## Functions -/

/-- The events whose answers a function does not see unless it is traced. -/
def hidden (s : State) : List (String × String) :=
  s.hooks.toList.filter fun (name, _) => !Sh.isOn s (if name = "ERR" then "errtrace" else "functrace")

/-- Calls a function. -/
def call (k : Knot) (m : Mode) (name : String) (f : Function) (args : List String) : Sh Unit := do
  let s ← get
  let body : Sh Unit := tryCatch (k.run m.goingOn f.body) fun
    | .giveBack n => Sh.setStatus n
    | jump => throw jump
  match s.dialect with
  | .plain =>
    set { s with
      params := args, optionIndex := 1, optionPlace := 0, loops := 0, functionLine := f.line
      callers := name :: s.callers }
    Sh.andFinally body <| modify fun t =>
      { t with
        params := s.params, optionIndex := s.optionIndex, optionPlace := s.optionPlace, loops := s.loops
        functionLine := s.functionLine, callers := s.callers, line := s.line }
  | .extended =>
    match (Sh.value? s "FUNCNEST").bind String.toNat? with
    | some most =>
      if 0 < most ∧ most ≤ s.callers.length then
        Sh.complain (name ++ ": maximum function nesting level exceeded (" ++ toString most ++ ")")
        throw (.discard 1)
    | none => pure ()
    let concealed := hidden s
    set { s with
      params := args, loops := 0, callers := name :: s.callers, calls := s.line :: s.calls
      sources := f.source :: s.sources
      hooks := ⟨s.hooks.toList.filter fun (n, _) => !concealed.any fun (c, _) => c == n⟩ }
    Sh.andFinally (do body; answerEvent k "RETURN") <| modify fun t =>
      { t with
        params := s.params, loops := s.loops, callers := s.callers, calls := s.calls, sources := s.sources, line := s.line
        hooks := ⟨t.hooks.toList ++ concealed.filter fun (n, _) => !t.hooks.contains n⟩ }

/-! ## The plain language -/

/-- What the words of a plain command come to, as far as they have been expanded. -/
structure Plain where
  /-- All words, those that only say how to find the command too. -/
  shown : List String
  /-- The words from the name of the command on. -/
  args : List String
  rest : List Word
  functions : Bool
  standard : Bool
  /-- Whether the first command of the shell that was named is special. -/
  special : Option Bool
  assigns : Bool

/-- The fields of the first words that have any, and the words after them. -/
def firstFields (k : Knot) : List Word → Sh (List String × List Word)
  | [] => return ([], [])
  | w :: rest => do
    match ← Expansion.fields k.means w with
    | [] => firstFields k rest
    | found => return (found, rest)

/-- The words after the first one of those that were expanded, others expanded if there are none. -/
def afterFirst (k : Knot) (c : Plain) : Sh (Option Plain) := do
  match c.args with
  | _ :: next :: more => return some { c with args := next :: more }
  | _ =>
    match ← firstFields k c.rest with
    | ([], _) => return none
    | (found, rest) => return some { c with args := found, rest, shown := c.shown ++ found }

/-- Passes over the options of `command`; none if it is not to run anything. -/
def passOptions (k : Knot) : Nat → Plain → Sh (Except Plain Plain)
  | 0, c => return .error c
  | n + 1, c => do
    match ← afterFirst k c with
    | none => return .error c
    | some next =>
      let word := next.args.headD ""
      if word = "--" then
        match ← afterFirst k next with
        | none => return .error next
        | some after => return .ok after
      else if word.startsWith "-" ∧ word ≠ "-" then
        if word.toList.drop 1 |>.all (· == 'p') then passOptions k n { next with standard := true }
        else return .error next
      else return .ok next

/-- Finds the command that words name, further words expanded as far as that needs. -/
def resolvePlain (k : Knot) : Nat → Plain → Sh Plain
  | 0, c => return c
  | n + 1, c => do
    let s ← get
    let name := c.args.headD ""
    if c.functions ∧ s.functions.contains name ∨ ¬ (Builtins.names .plain).contains name then return c
    let c := { c with special := c.special <|> some (Builtins.isSpecial name), assigns := Builtins.takesAssignments name }
    if name ≠ "command" then return c
    let size := c.shown.length - c.args.length
    match ← passOptions k n c with
    | .ok next => resolvePlain k n { next with functions := false }
    | .error next => return { next with args := next.shown.drop size }

/-- Expands the words of a plain command. -/
def expandPlain (k : Knot) (words : List Word) : Sh (Option Plain) := do
  match ← firstFields k words with
  | ([], _) => return none
  | (args, rest) =>
    let c ← resolvePlain k (words.length + args.length + 1) ⟨args, args, rest, true, false, none, false⟩
    let more ← c.rest.mapM fun w => do
      let found ← if c.assigns then Expansion.assignmentField k.means w else pure none
      match found with
      | some field => return [field]
      | none => Expansion.fields k.means w
    return some { c with args := c.args ++ more.flatten, rest := [], shown := c.shown ++ more.flatten }

/-- Runs what a plain command names. -/
def runPlain (k : Knot) (m : Mode) (c : Plain) : Sh Unit := do
  let s ← get
  match c.args with
  | [] => pure ()
  | name :: args =>
    match if c.functions then s.functions.find? name else none with
    | some f => call k m name f args
    | none =>
      if (Builtins.names .plain).contains name then runBuiltin k m (c.special == some true) name args
      else
        let found ← leadPlain (if c.standard then some Builtins.standardPath else none) name args
        start k m 2 name found

/-- Carries out a simple command of the plain language. -/
def simplePlain (k : Knot) (m : Mode) (assignments : List Assignment) (words : List Word) (redirects : List Redirect) :
    Sh Unit := do
  modify fun s => { s with substituted := none }
  let c ← expandPlain k words
  let ready ← redirects.mapM (Redirection.ready k.means)
  let (followed, saved) ← Redirection.enter ready []
  let special : Bool := match c with
    | none => true
    | some c => c.special == some true
  if ¬ followed then
    Sh.restore saved
    Sh.setStatus 2
    if special ∧ c.isSome then throw (.error 2)
  else
    let replaces := (c.map fun c => c.args == ["exec"]).getD false
    let back : Sh Unit := if replaces then saved.forM fun v => v.copy.forM Proc.close else Sh.restore saved
    let errors := errorsBefore saved
    match c with
    | none =>
      Sh.andFinally (do
          let texts ← assignments.mapM (assignPlain k false)
          trace k.means errors (" ".intercalate texts)) back
      Sh.setStatus ((← get).substituted.getD 0)
    | some c =>
      let lone := assignments.isEmpty
      let known := (← get).functions.contains (c.args.headD "")
      let shares := c.functions && known
      if shares then modify fun s => { s with locals := {} :: s.locals }
      let state ← get
      let former := if special || shares then [] else formerOf state (assignments.map nameOf)
      Sh.andFinally (do
          let texts ← assignments.mapM fun a => do
            if shares then Builtins.keepOutside (nameOf a)
            assignPlain k (!special || (c.args.head? == some "exec" && 1 < c.args.length)) a
          trace k.means errors (" ".intercalate (texts ++ c.shown))
          runPlain k m c) do
        back
        if shares then leaveFrame else if ¬ lone then bringBack former

/-! ## The extended language -/

/-- Whether a word of a command that looks like an assignment is expanded like one. -/
def declares (words : List Word) : Bool :=
  let named := (words.map Word.plain?).dropWhile fun w => w == some "command" || w == some "builtin"
  match named with
  | some name :: _ => ["alias", "declare", "export", "local", "readonly", "typeset"].contains name
  | _ => false

/-- Expands the words of a command. -/
def expandExtended (k : Knot) (words : List Word) : Sh (List String) := do
  let assigns := declares words
  let found ← words.mapM fun w => do
    let field ← if assigns then Expansion.assignmentField k.means w else pure none
    match field with
    | some field => return [field]
    | none => Expansion.fields k.means w
  return found.flatten

/-- Whether a name is that of a special command, which counts in the extended language only if it follows the standard. -/
def isSpecialIn (s : State) (name : String) : Bool := 
  Sh.isOn s "posix" && (Grammar.isSpecial name || name == "source") && Builtins.isOwn s name

/-- Runs what a command of the extended language names; how a signal ended a program is said on a descriptor, with the
text of the command. -/
def runExtended (k : Knot) (m : Mode) (errors : Nat) (text : String) : Nat → Bool → Bool → Option String → List String → Sh Unit
  | 0, _, _, _, _ => pure ()
  | _, _, _, _, [] => Sh.setStatus 0
  | n + 1, functions, programs, path, name :: args => do
    let s ← get
    let special := functions && isSpecialIn s name
    match if functions then s.functions.find? name else none with
    | some f => call k m name f args
    | none =>
      if ¬ Builtins.isOwn s name then
        if programs then start k m errors text (← leadExtended path name name args)
        else
          Sh.complain ("builtin: " ++ name ++ ": not a shell builtin")
          Sh.setStatus 1
      else match name with
        | "command" =>
          let before := s.command
          modify fun s => { s with command := some name }
          let wish : Option Wish ← tryCatch (some <$> wishOf args) fun
            | .error n => do
              Sh.setStatus n
              return none
            | jump => throw jump
          modify fun s => { s with command := before }
          match wish with
          | none => pure ()
          | some (.run standard args) =>
            runExtended k m errors text n false true (if standard then some Builtins.standardPath else path) args
          | some _ => runBuiltin k m false name args
        | "builtin" => runExtended k m errors text n false false path (if args.head? = some "--" then args.drop 1 else args)
        | _ => runBuiltin k m special name args

/-- Carries out a simple command of the extended language. -/
def simpleExtended (k : Knot) (m : Mode) (assignments : List Assignment) (words : List Word) (redirects : List Redirect)
    (late : List Assignment) : Sh Unit := do
  let text := Listing.line (← get).documents (.simple 0 assignments words redirects late)
  noteCommand text
  answerEvent k "DEBUG"
  modify fun s => { s with substituted := none }
  let before := (← get).connections
  match ← expandExtended k words with
  | [] =>
    for a in assignments do assignExtended k a
    let ready ← redirects.mapM (Redirection.ready k.means)
    let (followed, saved) ← Redirection.enter ready []
    Sh.restore saved
    let substituted := (← get).substituted
    Sh.setStatus (if followed then substituted.getD 0 else 1)
    modify fun s => { s with lastArgument := "" }
  | name :: args =>
    let function := (← get).functions.contains name
    let state ← get
    let special := !function && isSpecialIn state name
    let former := if function ∨ special then [] else formerOf state (assignments.map nameOf)
    if function then modify fun s => { s with locals := {} :: s.locals }
    let last : Sh Unit := do if function then leaveFrame else if ¬ assignments.isEmpty then bringBack former
    Sh.andFinally (do
        modify fun s => { s with passing := !function && !Builtins.isOwn state name }
        for a in assignments do
          let target := nameOf a
          if function then Builtins.keepOutside target
          let fixed := ((Sh.binding? (← get) target).map Variable.readonly).getD false
          if fixed then
            Sh.complain (target ++ ": readonly variable")
            if Sh.isOn state "posix" then throw (.exit 1)
          else
            assignExtended k a
            Sh.change target fun v => { v with exported := true }
        modify fun s => { s with passing := false }
        trace k.means 2 (" ".intercalate ((name :: args).map (shown .extended)))
        let ready ← redirects.mapM (Redirection.ready k.means)
        let (followed, saved) ← Redirection.enter ready []
        if followed then
          let back : Sh Unit :=
            if name = "exec" ∧ args = [] then saved.forM fun v => v.copy.forM Proc.close else Sh.restore saved
          Sh.andFinally (do
              runExtended k m (errorsBefore saved) text (args.length + 2) true true none (name :: args)
              for a in late do assignLate k a) back
        else
          Sh.restore saved
          Sh.setStatus 1
          if special then throw (.exit 1)) last
    disconnect before
    modify fun s => { s with lastArgument := args.getLast?.getD name }
  modify fun s => { s with statuses := [s.status] }

/-! ## Both -/

/-- Carries out a simple command. -/
def simple (k : Knot) (m : Mode) (line : Nat) (assignments : List Assignment) (words : List Word)
    (redirects : List Redirect) (late : List Assignment) : Sh Unit := do
  setLine line
  Proc.step
  match (← get).dialect with
  | .plain => simplePlain k m assignments words redirects
  | .extended => simpleExtended k m assignments words redirects late
  checkFailure k m
  answerSignals k

end TaskRunner.Shell.Evaluation
