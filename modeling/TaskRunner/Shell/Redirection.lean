import TaskRunner.Shell.Builtins.Output
import TaskRunner.Shell.Coprocess

/-!
# Redirections

Redirections make descriptors lead elsewhere, one after another. What a descriptor stood for before can
be kept, so that it can be brought back. The first redirection that cannot be followed ends it.
-/

namespace TaskRunner.Shell.Redirection

open Processes

/-- A redirection, its words expanded. -/
inductive Ready where
  | file (descriptor : Nat) (opening : Opening) (path : String)
  /-- A descriptor leads to where another one does; `shown` is what a message calls that one. -/
  | duplicate (descriptor source : Nat) (shown : String)
  /-- Another one takes the place of a descriptor, which is given up. -/
  | move (descriptor source : Nat)
  | close (descriptor : Nat)
  | content (descriptor : Nat) (bytes : String)
  | both (append : Bool) (path : String)
  | named (label : String) (r : Ready)
  /-- The message of one that makes no sense. -/
  | refused (message : String)

/-- The one word that the name of a file stands for. -/
def pathOf (means : Means) (w : Word) : Sh (Except String String) := do
  match (← get).dialect with
  | .plain => return .ok (← Expansion.text means w)
  | .extended =>
    match ← Expansion.fields means w with
    | [path] => return .ok path
    | _ => return .error (Listing.word w ++ ": ambiguous redirect")

/-- Expands the words of a redirection. -/
def ready (means : Means) : Redirect → Sh Ready
  | .file descriptor opening name => do
    match ← pathOf means name with
    | .ok path => return .file descriptor opening path
    | .error message => return .refused message
  | .duplicate descriptor output target => do
    let s ← Expansion.text means target
    if s = "-" then return .close descriptor
    let plain := (← get).dialect = .plain
    let isDigits := s ≠ "" ∧ s.toList.all Char.isDigit
    if isDigits ∧ (¬ plain ∨ s.length = 1) then
      let isUsual := descriptor = (if output then 1 else 0)
      let shown := if plain ∨ (Word.plain? target).isSome then s else if isUsual then Listing.word target else toString descriptor
      return .duplicate descriptor ((s.toNat?).getD 0) shown
    let digits := (s.dropEnd 1).toString
    if ¬ plain ∧ s.endsWith "-" ∧ digits.toList.all Char.isDigit then return .move descriptor ((digits.toNat?).getD 0)
    if plain then Sh.fail "Syntax error: Bad fd number"
    else return .refused (Listing.word target ++ ": ambiguous redirect")
  | .document descriptor number => do
    let body := ((← get).documents[number]?).getD default
    return .content descriptor (← Expansion.document means body.content)
  | .line descriptor word => do return .content descriptor ((← Expansion.text means word) ++ "\n")
  | .both append name => do
    match ← pathOf means name with
    | .ok path => return .both append path
    | .error message => return .refused message
  | .named label r => do return .named label (← ready means r)

/-- Why a file cannot be opened. -/
def reason (d : Dialect) (creating : Bool) (r : Refusal) : String :=
  match d, r with
  | .plain, .noEntry | .plain, .notDirectory => if creating then "Directory nonexistent" else "No such file"
  | _, r => Sh.reason r

/-- How a file is opened. -/
def modeOf : Opening → Kernel.OpenMode
  | .input => Kernel.OpenMode.input
  | .append => Kernel.OpenMode.addition
  | .inputAndOutput => { reads := true, writes := true, create := true }
  | _ => Kernel.OpenMode.output

/-- Whether a path leads to a regular file. -/
def isRegular (path : String) : Sh Bool := do
  let (fs, place) ← Proc.files
  match fs.lookup place (Text.Octets.toText path) with
  | .ok (some (.file _)) => return true
  | _ => return false

/-- Opens a file for a redirection; a message if that cannot be done. -/
def openFile (descriptor : Nat) (opening : Opening) (path : String) : Sh (Option String) := do
  let s ← get
  let d := s.dialect
  let creating := opening ≠ .input
  let refuse (why : String) : Option String :=
    match d with
    | .plain => some ((if creating then "cannot create " else "cannot open ") ++ path ++ ": " ++ why)
    | .extended => some (path ++ ": " ++ why)
  if opening = .output ∧ Sh.isOn s "noclobber" then
    if ← isRegular path then
      return refuse (if d = .plain then "File exists" else "cannot overwrite existing file")
  match ← Proc.openAs descriptor (modeOf opening) path with
  | .ok () => return none
  | .error r => return refuse (reason d creating r)

/-- The first descriptor from ten on that stands for nothing. -/
def freeDescriptor : Sh Nat := Proc.observe fun pid k =>
  ((List.range 200).map (· + 10)).find? (fun n => (k.index? pid n).isNone) |>.getD 255

/-- Follows a redirection of descriptors that have numbers; a message if that cannot be done. -/
def followNumbered : Ready → Sh (Option String)
  | .file descriptor opening path => openFile descriptor opening path
  | .duplicate descriptor source shown => do
    match ← Proc.duplicate source descriptor with
    | .ok () => return none
    | .error r => return some (shown ++ ": " ++ Sh.reason r)
  | .move descriptor source => do
    match ← Proc.duplicate source descriptor with
    | .ok () =>
      if source ≠ descriptor then
        Proc.close source
        Coprocess.noteClosed source
      return none
    | .error r => return some (toString source ++ ": " ++ Sh.reason r)
  | .close descriptor => do
    Proc.close descriptor
    Coprocess.noteClosed descriptor
    return none
  | .content descriptor bytes => do
    let drain ← Sh.newPrivate
    Proc.pipe descriptor drain
    discard <| Proc.write drain (Sh.bytes bytes)
    Proc.close drain
    return none
  | .both append path => do
    match ← openFile 1 (if append then .append else .output) path with
    | some message => return some message
    | none =>
      discard <| Proc.duplicate 1 2
      return none
  | .named _ _ => return none
  | .refused message => return some message

/-- A redirection of another descriptor. -/
def Ready.renumber (n : Nat) : Ready → Ready
  | .file _ opening path => .file n opening path
  | .duplicate _ source shown => .duplicate n source shown
  | .move _ source => .move n source
  | .content _ bytes => .content n bytes
  | r => r

/-- The value of a variable, or of a place in an array, that is to hold the number of a descriptor. -/
def labelled (label : String) : Sh (Option String) := do
  match label.toList.span (· != '[') with
  | (_, []) => return Sh.value? (← get) label
  | (name, _ :: rest) =>
    let name := String.ofList name
    let key := String.ofList rest.dropLast
    let content := (Sh.binding? (← get) name).bind Variable.content
    match content with
    | some (.table items) => return items.find? key
    | _ => return Arrays.at? content (← Expansion.arithmetic key)

/-- Follows a redirection; a message if that cannot be done. -/
def follow : Ready → Sh (Option String)
  | .named label (.close _) => do
    match ← labelled label with
    | none => return some (label ++ ": ambiguous redirect")
    | some text =>
      match text.toNat? with
      | some n => followNumbered (.close n)
      | none => return none
  | .named label r => do
    let n ← freeDescriptor
    Builtins.putIn label false (toString n)
    followNumbered (r.renumber n)
  | r => followNumbered r

/-- Follows redirections one after another; a message if one of them cannot be followed. -/
def followAll : List Ready → Sh (Option String)
  | [] => return none
  | r :: rest => do
    match ← follow r with
    | some message => return some message
    | none => followAll rest

/-- Follows redirections for good; false, with a message, if one of them cannot be followed. -/
def apply (means : Means) (rs : List Redirect) : Sh Bool := do
  let rs ← rs.mapM (ready means)
  match ← followAll rs with
  | none => return true
  | some message =>
    Sh.complain message
    return false

/-- The descriptors that a redirection changes. -/
def Ready.touched : Ready → List Nat
  | .file d _ _ | .duplicate d _ _ | .close d | .content d _ => [d]
  | .move d source => [d, source]
  | .both _ _ => [1, 2]
  | .named _ _ | .refused _ => []

/-- Follows redirections for a time: whether all could be followed, and how descriptors are brought back. -/
def enter : List Ready → List Sh.Saved → Sh (Bool × List Sh.Saved)
  | [], saved => return (true, saved)
  | r :: rest, saved => do
    let new ← (r.touched.filter fun d => !saved.any fun v => v.descriptor == d).mapM Sh.save
    let saved := new ++ saved
    match ← follow r with
    | some message =>
      Sh.complain message
      return (false, saved)
    | none => enter rest saved

end TaskRunner.Shell.Redirection
