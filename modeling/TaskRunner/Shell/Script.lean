import TaskRunner.Shell.Evaluation.Compound

/-!
# Carrying out texts

A text is read line by line, and every line is carried out before the next one is read, since it may
change how the next one is read. `knot` says how commands and texts are carried out that lie in one
another as deep as a number says; a shell that goes deeper ends as one does whose stack is used up.
-/

namespace TaskRunner.Shell

open Processes

namespace Script

open Evaluation

/-! ## What is wrong with a text -/

/-- A line of a text, known by its number and by that of the first line. -/
def lineOf (text : String) (first line : Nat) : String := ((text.splitOn "\n")[line - first]?).getD ""

/-- What a message about a text of the extended language begins with. -/
def lead (s : State) (o : Origin) (line : Nat) : String :=
  let name := s.sources.headD s.zero
  let name := if o.tag = "" ∨ o.tag = name then name else name ++ ": " ++ o.tag
  name ++ ": line " ++ toString line ++ ": "

/-- What is said about a text of the extended language that cannot be read. -/
def faultLines (s : State) (o : Origin) (text : String) : SyntaxFault → List String
  | .because line message => (message.splitOn "\n").map fun part => lead s o line ++ part
  | .unexpected line token =>
    [lead s o line ++ "syntax error near unexpected token \x60" ++ token ++ "\x27",
      lead s o line ++ "\x60" ++ lineOf text o.line line ++ "\x27"]
  | .endsEarly line => [lead s o line ++ "syntax error: unexpected end of file"]
  | .unclosed line closing => [lead s o line ++ "unexpected EOF while looking for matching \x60" ++ closing ++ "\x27"]

/-- Says what is wrong with a text; in the plain language that ends what is being carried out. -/
def refuse (o : Origin) (text : String) (f : SyntaxFault) : Sh Unit := do
  let s ← get
  match s.dialect with
  | .plain =>
    match f with
    | .because line message =>
      set { s with line }
      Sh.complain ("Syntax error: " ++ message)
    | _ => pure ()
    throw (.error 2)
  | .extended =>
    for message in faultLines s o text f do discard <| Proc.write 2 (Sh.bytes (message ++ "\n"))
    Sh.setStatus 2
    if Sh.isOn s "posix" then throw (.exit 2)

/-- Gives warnings about what was read. -/
def warn (r : Reader) : Sh Unit := do
  let s ← get
  for (line, message) in r.warnings do
    discard <| Proc.write 2 (Sh.bytes (s.sources.headD s.zero ++ ": line " ++ toString line ++ ": warning: " ++ message ++ "\n"))

/-! ## Lines -/

/-- A reader that knows what the shell knows by now. -/
def refreshed (s : State) (r : Reader) : Reader :=
  { r with
    aliases := if s.dialect = .plain || Sh.isOn s "expand_aliases" then s.aliases else Assoc.empty
    documents := s.documents
    extendedPatterns := Sh.isOn s "extglob"
    warnings := [] }

/-- Whether nothing is left to be read. -/
def isAtEnd (r : Reader) : Bool :=
  match r.dialect, r.last with
  | .plain, .endOfFile => r.again
  | .plain, _ => false
  | .extended, _ => r.chars.isEmpty

/-- Carries out the command of a line. -/
def lineCommand (k : Knot) (m : Mode) (r : Reader) (c : Command) : Sh Unit := do
  let s ← get
  if Sh.isOn s "noexec" then return
  let mode := if m.exits && isAtEnd r then lastMode s m.tested c else m.goingOn
  tryCatch (k.run mode c) fun
    | .discard status => do
      let s ← get
      if 0 < s.isCopy then throw (.exit status)
      if Sh.isOn s "posix" then throw (.exit 127)
      Sh.setStatus status
    | jump => throw jump

/-- Shows what has been read of a text, if that is asked for. -/
def echoInput (before after : Reader) : Sh Unit := do
  let s ← get
  if Sh.isOn s "verbose" then
    if s.dialect = .extended ∨ ¬ s.isArgument then
      let read := before.chars.take (before.chars.length - after.chars.length)
      discard <| Proc.write 2 (Sh.bytes (String.ofList read))

/-- Carries out what a reader is still to read, line by line: whether there was any command. -/
def linesFrom (k : Knot) (m : Mode) (o : Origin) (whole : String) : Nat → Bool → Reader → Sh Bool
  | 0, ran, _ => return ran
  | n + 1, ran, r => do
    let r := refreshed (← get) r
    match Grammar.nextLine r with
    | .error f after =>
      echoInput r after
      warn after
      refuse o whole f
      return true
    | .ok found after =>
      echoInput r after
      warn after
      modify fun s => { s with documents := after.documents }
      match found with
      | none => return ran
      | some none => linesFrom k m o whole n ran after
      | some (some c) =>
        lineCommand k m after c
        linesFrom k m o whole n true after

/-- Carries out a text. -/
def text (k : Knot) (m : Mode) (o : Origin) (whole : String) : Sh Unit := do
  let s ← get
  let r := Reader.start s.dialect s.aliases s.documents false o.line whole
  if ¬ (← linesFrom k m o whole Proc.endless false r) then Sh.setStatus 0

/-! ## The input -/

/-- Reads a line of the input, onto what has been read of it. -/
def readLine : Nat → ByteArray → Sh ByteArray
  | 0, read => return read
  | n + 1, read => do
    match ← Proc.readThrough 0 10 with
    | .error _ => return read
    | .ok bytes =>
      if bytes.isEmpty then return read
      let read := read ++ bytes
      if read.get! (read.size - 1) = 10 then return read else readLine n read

/-- Whether the text of a reader ends within a line. -/
def endsInside (r : Reader) : Bool := match r.chars.reverse with
  | '\n' :: rest => (rest.takeWhile (· == '\x5c')).length % 2 == 1
  | _ => false

/-- Carries out the lines of the input; each is read when it is needed, so that commands find what comes after it. -/
def inputFrom (k : Knot) (o : Origin) : Nat → List Char → Reader → Bool → Sh Unit
  | 0, _, _, _ => pure ()
  | n + 1, whole, r, more => do
    let lengthen : Sh Unit := do
      let bytes ← readLine Proc.endless ByteArray.empty
      if bytes.isEmpty then inputFrom k o n whole r false
      else
        let line := (Text.Octets.ofBytes bytes).toList
        let line := if line.getLast? = some '\n' then line else line ++ ['\n']
        inputFrom k o n (whole ++ line) { r with chars := r.chars ++ line } true
    if r.chars.isEmpty then (if more then lengthen else pure ())
    else if more && endsInside r then lengthen
    else
      let now := refreshed (← get) r
      match Grammar.nextLine now with
      | .error f after =>
        let isOpen : Bool := match f with
          | .endsEarly _ | .unclosed _ _ => true
          | _ => false
        if more && isOpen then lengthen
        else
          echoInput now after
          refuse o (String.ofList whole) f
      | .ok found after =>
        if more && !after.warnings.isEmpty then lengthen
        else
          echoInput now after
          warn after
          modify fun s => { s with documents := after.documents }
          match found with
          | some (some c) => lineCommand k .plain after c
          | _ => pure ()
          inputFrom k o n whole after more

/-- Carries out the input as a script. -/
def input (k : Knot) : Sh Unit := do
  let s ← get
  match s.dialect with
  | .plain =>
    match ← Proc.readAll 0 with
    | .ok bytes => text k .plain ⟨"", 1⟩ (Text.Octets.ofBytes bytes)
    | .error _ => pure ()
  | .extended =>
    inputFrom k ⟨"", 1⟩ Proc.endless [] { Reader.start .extended s.aliases s.documents false 1 "" with chars := [] } true

/-! ## The knot -/

/-- How deep commands may lie in one another. -/
def mostDeep : Nat := 100000

/-- Ends a shell whose stack is used up. -/
def overflow {α : Type} : Sh α := Proc.finish (.killed 11)

/-- How commands and texts are carried out that lie in one another as deep as a number says. -/
def knot : Nat → Knot
  | 0 => ⟨fun _ _ => overflow, fun _ _ _ => overflow, ⟨fun _ => overflow, fun _ _ => overflow⟩⟩
  | n + 1 =>
    { run := fun m c s done stop => Evaluation.run (knot n) m c s done stop
      text := fun m o t s done stop => text (knot n) m o t s done stop
      means :=
        { output := fun c s done stop => Evaluation.output (knot n) c s done stop
          connection := fun reads c s done stop => Evaluation.connection (knot n) reads c s done stop } }

end Script

end TaskRunner.Shell
