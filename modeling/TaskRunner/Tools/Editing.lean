import TaskRunner.Tools.EditScript.Written
import TaskRunner.Tools.Making
import TaskRunner.Tools.Numbers

/-!
# Editing a stream

Lines are read one after the other, edited by the commands of a script, and written. The line that is being
edited may grow by others, and another one is kept aside. Where the last line of the input has no end,
neither has what is written, unless more follows it.
-/

namespace TaskRunner.Tools.Editing

open Processes EditScript

/-! ## What is known while editing -/

/-- A line: its bytes, and whether it has an end. -/
structure Line where
  text : String
  ended : Bool

/-- What is written at the end of a cycle. -/
inductive Later where
  | text (s : String)
  | file (path : String)
  /-- The next line of a file. -/
  | line (path : String)

/-- What is read. -/
structure Input where
  files : List String
  /-- The descriptor of the file that is being read, and its name. -/
  current : Option (Nat × String)
  /-- Lines that have been read and not used, with the names of their files. -/
  pending : List (Line × String)
  /-- The beginning of a line. -/
  part : ByteArray

/-- How far a range of lines has come. -/
inductive Range where
  | before
  /-- It has begun; where it ends may be known. -/
  | within (last : Option Nat)
  | after
  deriving Inhabited

/-- How far the range of a command has come before the first line; one from no line on has begun. -/
def Range.ofScope (s : Scope) : Range := match s.first with
  | some (.line 0) => .within none
  | _ => .before

/-- What is known while editing. -/
structure Session where
  input : Input
  commands : Array Command
  labels : List (String × Nat)
  quiet : Bool
  separate : Bool
  /-- Whether files are changed, and what their old contents are called then. -/
  inPlace : Option String
  ending : Char
  width : Nat
  space : Line
  held : Line
  replaced : Bool
  number : Nat
  file : String
  later : List Later
  lastPattern : Option Pattern
  /-- How far the range of every command has come. -/
  ranges : Array Range
  /-- Whether the end of the last line that was written is missing. -/
  openEnd : Bool
  /-- The files that are written, their descriptors, and whether the end of their last line is missing. -/
  outputs : List (String × Nat × Bool)
  /-- The files of which lines are read one by one, with the lines that are left. -/
  sources : List (String × List String)
  /-- What a file that is changed will hold. -/
  changed : Option String
  /-- Whether everything that is done is told, and how deep the next command lies in what is told. -/
  told : Bool
  depth : Nat
  status : Nat

/-- A step of editing. -/
abbrev Edit := StateT Session Tool

/-- A step of the program. -/
def tool {α : Type} (m : Tool α) : Edit α := StateT.lift m

/-! ## Output -/

/-- Writes to the output. -/
def emit (s : String) : Edit Unit := do
  match (← get).changed with
  | some text => modify fun e => { e with changed := some (text ++ s) }
  | none => Tool.emit s

/-- Writes the end of a line that is missing. -/
def closeLine : Edit Unit := do
  let e ← get
  if e.openEnd then
    emit (String.singleton e.ending)
    modify fun e => { e with openEnd := false }

/-- Writes a text after whole lines. -/
def emitText (s : String) : Edit Unit := do
  closeLine
  emit s

/-- Writes a line. -/
def emitLine (l : Line) : Edit Unit := do
  emitText l.text
  if l.ended then emit (String.singleton (← get).ending) else modify fun e => { e with openEnd := true }

/-- Writes a line to a file. -/
def writeTo (path : String) (l : Line) : Edit Unit := do
  if path = "/dev/stdout" then
    if (← get).changed.isSome then Tool.emit (l.text ++ "\n") else emitLine l
  else if path = "/dev/stderr" then Tool.note (l.text ++ "\n")
  else
    match (← get).outputs.find? fun (p, _) => p == path with
    | none => pure ()
    | some (_, descriptor, isOpen) =>
      let ending := String.singleton (← get).ending
      let text := (if isOpen then ending else "") ++ l.text ++ (if l.ended then ending else "")
      tool <| discard <| Proc.write descriptor (Text.Octets.toBytes text)
      modify fun e => { e with outputs := e.outputs.map fun (p, d, o) => if p = path then (p, d, !l.ended) else (p, d, o) }

/-! ## Telling what is done -/

/-- Tells something, if everything is to be told. -/
def tell (s : Session → String) : Edit Unit := do
  let e ← get
  if e.told then Tool.emit (s e)

/-- Tells the line that is being edited. -/
def tellSpace : Edit Unit := tell fun e => "PATTERN: " ++ shown e.space.text ++ "\n"

/-- Tells the line that is kept aside. -/
def tellHeld : Edit Unit := tell fun e => "HOLD:    " ++ shown e.held.text ++ "\n"

/-- Tells that the commands for a line have been carried out. -/
def tellEnd : Edit Unit := tell fun _ => "END-OF-CYCLE:\n"

/-- Tells a command. -/
def tellCommand (c : Command) : Edit Unit := do
  let e ← get
  if e.told then
    let (line, depth) := c.shown e.depth
    set { e with depth }
    Tool.emit ("COMMAND: " ++ line)

/-- Tells what a pattern and its groups matched. -/
def tellMatch (t : Regex.Subject) (m : Regex.Match) : Edit Unit := tell fun _ =>
  let part (start stop : Nat) : String := Text.Octets.ofCharacters ((t.chars.toList.drop start).take (stop - start))
  let line (i start stop : Nat) : String :=
    let place (n : Nat) : Nat := (part 0 n).length
    "  regex[" ++ toString i ++ "] = " ++ toString (place start) ++ "-" ++ toString (place stop) ++ " \x27" ++ part start stop ++ "\x27\n"
  "MATCHED REGEX REGISTERS\n" ++ line 0 m.start m.stop
    ++ String.join ((m.groups.mergeSort fun a b => a.1 ≤ b.1).map fun (n, a, b) => line n a b)

/-! ## Input -/

/-- Says that a file cannot be read. -/
def unreadable (message : String) (status : Nat) : Edit Unit := do
  Tool.say message
  modify fun e => { e with status := max e.status status }

/-- Ends a file; what has been made of it takes its place if files are changed. -/
def finishFile : Edit Unit := do
  let e ← get
  match e.input.current with
  | none => pure ()
  | some (descriptor, path) =>
    Tool.closeInput descriptor
    set { e with input := { e.input with current := none } }
    match e.changed, e.inPlace with
    | some text, some suffix =>
      let (fs, place) ← tool Proc.files
      let mode := match fs.info true place (Text.Octets.toText path) with
        | .ok (_, i) => i.mode
        | .error _ => 0o644
      let last := (path.splitOn "/").getLast?.getD path
      let front := (path.dropEnd last.length).toString
      let backup := if suffix.toList.contains '*' then
          (if suffix.toList.contains '/' then "" else front) ++ suffix.replace "*" last
        else path ++ suffix
      if suffix = "" then tool <| discard <| Proc.changeFiles fun fs place => fs.unlinkAt place (Text.Octets.toText path)
      else
        tool <| discard <| Proc.changeFiles fun fs place => fs.renameAt place (Text.Octets.toText path) (Text.Octets.toText backup)
      discard <| Tool.writeFile Kernel.OpenMode.output path (Text.Octets.toBytes text)
      tool <| discard <| Proc.changeFiles fun fs place => do
        return fs.chmodAt (← fs.walk true place (Text.Octets.toText path)) mode
      modify fun e => { e with changed := none, openEnd := false }
    | _, _ => pure ()

/-- Opens the next file, if there is one. -/
def openNext : Edit Unit := do
  let e ← get
  match e.input.files with
  | [] => pure ()
  | path :: rest =>
    set { e with input := { e.input with files := rest } }
    if e.inPlace.isSome then
      let (fs, place) ← tool Proc.files
      match fs.info false place (Text.Octets.toText path) with
      | .error r => unreadable ("can\x27t read " ++ path ++ ": " ++ r.message) 2
      | .ok (_, i) =>
        if i.kind ≠ .file then unreadable ("couldn\x27t edit " ++ path ++ ": not a regular file") 4
        else
          let descriptor ← Tool.newDescriptor
          match ← tool (Proc.openAs descriptor Kernel.OpenMode.input path) with
          | .error r => unreadable ("can\x27t read " ++ path ++ ": " ++ r.message) 2
          | .ok () => modify fun e =>
            { e with input := { e.input with current := some (descriptor, path) }, changed := some "" }
    else
      match ← Tool.openInput path with
      | .error r => unreadable ("can\x27t read " ++ path ++ ": " ++ r.message) 2
      | .ok descriptor => modify fun e => { e with input := { e.input with current := some (descriptor, path) } }
    if e.separate then
      modify fun e =>
        { e with number := 0, ranges := e.commands.map fun c => Range.ofScope c.scope }

/-- Reads on in the file that is being read until there is a line, or the file is at its end. -/
def fillFrom (descriptor : Nat) (path : String) : Nat → Edit Bool
  | 0 => return false
  | n + 1 => do
    let e ← get
    match ← tool (Proc.read descriptor Proc.blockSize) with
    | .error r =>
      unreadable ("read error on " ++ (if path = "-" then "stdin" else path) ++ ": " ++ r.message) 4
      throw 4
    | .ok bytes =>
      if bytes.isEmpty then
        if e.input.part.isEmpty then return false
        let line : Line := ⟨Text.Octets.ofBytes e.input.part, false⟩
        set { e with input := { e.input with pending := [(line, path)], part := ByteArray.empty } }
        return true
      let all := e.input.part ++ bytes
      let (read, start) := Tool.cutLines e.ending.toNat.toUInt8 all (all.size + 1) 0 0 []
      let pending := read.reverse.map fun line => ((⟨Text.Octets.ofBytes line, true⟩ : Line), path)
      set { e with input := { e.input with pending, part := all.extract start all.size } }
      if pending = [] then fillFrom descriptor path n else return true

/-- Whether there is another line; in the file that is being read alone, if that is wanted. -/
def hasMore (sameFile : Bool) : Nat → Edit Bool
  | 0 => return false
  | n + 1 => do
    let e ← get
    if e.input.pending.isEmpty then
      match e.input.current with
      | some (descriptor, path) =>
        if ← fillFrom descriptor path Proc.endless then return true
        if sameFile then return false
        finishFile
        hasMore sameFile n
      | none =>
        if sameFile ∨ e.input.files.isEmpty then return false
        openNext
        hasMore sameFile n
    else return true

/-- Whether the line is the last one. -/
def isLast : Edit Bool := do return !(← hasMore (← get).separate Proc.endless)

/-- Writes what was to be written at the end of a cycle. -/
def writeLater : Edit Unit := do
  let e ← get
  set { e with later := [] }
  for item in e.later.reverse do
    match item with
    | .text s => emitText s
    | .file path =>
      let found ← if path = "/dev/stdin" then Tool.contentOf "-" else Tool.contentOf path
      match found with
      | .ok bytes => if ¬ bytes.isEmpty then emitText (Text.Octets.ofBytes bytes)
      | .error _ => pure ()
    | .line path =>
      let known := (← get).sources.find? fun (p, _) => p == path
      let lines ← match known with
        | some (_, lines) => pure lines
        | none => do match ← Tool.contentOf path with
          | .ok bytes => pure (Text.Octets.lines bytes)
          | .error _ => pure []
      match lines with
      | [] => pure ()
      | line :: _ => emitText (line ++ "\n")
      modify fun e => { e with sources := (path, lines.drop 1) :: e.sources.filter fun (p, _) => p != path }

/-- Reads the next line. -/
def nextLine : Edit (Option Line) := do
  writeLater
  modify fun e => { e with replaced := false }
  if ¬ (← hasMore false Proc.endless) then return none
  let e ← get
  match e.input.pending with
  | [] => return none
  | (line, file) :: rest =>
    set { e with input := { e.input with pending := rest }, number := e.number + 1, file }
    return some line

/-! ## Addresses -/

/-- The pattern that is meant, which is the one that was used last if none is given. -/
def patternOr (p : Option Pattern) : Edit Pattern := do
  match p <|> (← get).lastPattern with
  | some p =>
    modify fun e => { e with lastPattern := some p }
    return p
  | none => do Tool.fail 1 "-e expression #1, char 0: no previous regular expression"

/-- The text in which a pattern is looked for. -/
def subjectOf (p : Pattern) (ending : Char) (text : String) : Regex.Subject :=
  { Regex.Subject.ofList (p.locale.characters text) p.ignoresCase with hasLines := p.hasLines && ending == '\n' }

/-- The first match from a place on, in a text that has a match with the anchors of lines at their word. -/
def firstMatch (p : Pattern) (t : Regex.Subject) (withGroups : Bool) (start : Nat) : Option Regex.Match :=
  if p.regex.hasCopiedAnchor ∧ ¬ p.regex.occurs t then none else p.regex.search t withGroups start

/-- Whether an address stands for the line. -/
def isAt (a : Address) : Edit Bool := do
  let e ← get
  match a with
  | .line n => return e.number == n
  | .step first every => return first ≤ e.number && (e.number - first) % every == 0
  | .last => isLast
  | .matching p =>
    let p ← patternOr p
    return (firstMatch p (subjectOf p e.ending e.space.text) false 0).isSome

/-- Whether a range begins at the line. One that begins at a line by its number begins once, at that line or at the first
one after it. -/
def begins (a : Address) (r : Range) : Edit Bool := do
  match a, r with
  | .line _, .after => return false
  | .line n, _ => return n ≤ (← get).number
  | a, _ => isAt a

/-- Whether a command with a place in the row is for the line. -/
def isFor (i : Nat) (s : Scope) : Edit Bool := do
  let put (r : Range) : Edit Unit := modify fun e => { e with ranges := e.ranges.set! i r }
  match s.first, s.stop with
  | none, _ => return !s.negated
  | some a, none => return (← isAt a) != s.negated
  | some a, some stop =>
    let e ← get
    let now := e.number
    let inside : Bool ← match (e.ranges[i]?).getD .before, stop with
      | .within _, .address (.line n) => do
        if n ≤ now then put .after
        pure (now ≤ n)
      | .within (some n), _ => do
        if n ≤ now then put .after
        pure true
      | .within none, .address b => do
        if ← isAt b then put .after
        pure true
      | .within none, _ => pure true
      | state, stop =>
        if ← begins a state then
          match stop with
          | .address (.line n) =>
            put (if now < n then .within none else .after)
            pure (match a with
              | .line first => now ≤ n || now == first
              | _ => true)
          | .address _ => do
            put (.within none)
            pure true
          | .more n => do
            put (if 0 < n then .within (some (now + n)) else .after)
            pure true
          | .multiple n => do
            put (if 0 < n then .within (some ((now / n + 1) * n)) else .after)
            pure true
        else pure false
    return inside != s.negated

/-! ## Replacing -/

/-- What letters become: a change that lasts, and one for the next letter. -/
structure Mode where
  lasting : Option Casing
  once : Option Casing

/-- A text with its letters changed. -/
def Mode.apply (m : Mode) (cs : List Char) : List Char × Mode :=
  match cs with
  | [] => ([], m)
  | c :: rest =>
    let all (c : Char) : Char := match m.lasting with
      | some .upper => Text.upperOne c
      | some .lower => Text.lowerOne c
      | _ => c
    let first := match m.once with
      | some .upperFirst => Text.upperOne c
      | some .lowerFirst => Text.lowerOne c
      | _ => all c
    (first :: rest.map all, { m with once := none })

/-- What takes the place of a match, the last characters first. -/
def expand (l : Text.Locale) (t : Regex.Subject) (m : Regex.Match) : List Piece → Mode → List Char → List Char
  | [], _, read => read
  | p :: rest, mode, read =>
    match p with
    | .casing c =>
      let mode : Mode := match c with
        | .upper | .lower => ⟨some c, none⟩
        | .plain => ⟨none, none⟩
        | c => { mode with once := some c }
      expand l t m rest mode read
    | .text s =>
      let (cs, mode) := mode.apply (l.characters s)
      expand l t m rest mode (cs.reverse ++ read)
    | .group n =>
      let (cs, mode) := mode.apply ((m.group? t n).getD [])
      expand l t m rest mode (cs.reverse ++ read)

/-- The characters from one place to another, the last first, before what has been read. -/
def copied (t : Regex.Subject) (i j : Nat) (read : List Char) : List Char :=
  (t.chars.extract i j).foldl (fun read c => c :: read) read

/-- Replaces matches from a place on: whether one was replaced, and the characters, the last first. `before` is where
the last match ended. -/
def replaceFrom (r : Replacement) (p : Pattern) (t : Regex.Subject) :
    Nat → Nat → Option Nat → Nat → Bool → List Char → Bool × List Char
  | 0, start, _, _, done, read => (done, copied t start t.chars.size read)
  | n + 1, start, before, count, done, read =>
    let rest := copied t start t.chars.size read
    match firstMatch p t true start with
    | none => (done, rest)
    | some m =>
      let isEmpty := m.start == m.stop
      if isEmpty ∧ before = some m.start then
        -- Nothing is matched again where a match has just ended.
        if t.chars.size ≤ m.start then (done, rest)
        else replaceFrom r p t n (m.start + 1) none count done (copied t start (m.start + 1) read)
      else
        let read := copied t start m.start read
        let replaces := r.number ≤ count + 1
        let read := if replaces then expand p.locale t m r.pieces ⟨none, none⟩ read else copied t m.start m.stop read
        if replaces ∧ ¬ r.all then (true, copied t m.stop t.chars.size read)
        else if isEmpty then
          if t.chars.size ≤ m.stop then (done || replaces, read)
          else replaceFrom r p t n (m.stop + 1) none (count + 1) (done || replaces) (copied t m.stop (m.stop + 1) read)
        else replaceFrom r p t n m.stop (some m.stop) (count + 1) (done || replaces) read

/-- What a shell command writes. -/
def run (command : String) : Edit String := do
  let (bytes, _) ← Running.outputOf command
  return Text.Octets.ofBytes bytes

/-- A text without its last line end. -/
def withoutEnd (s : String) : String := if s.endsWith "\n" then (s.dropEnd 1).toString else s

/-- Carries out a replacement. -/
def replace (r : Replacement) : Edit Unit := do
  let p ← patternOr r.pattern
  let e ← get
  let t := subjectOf p e.ending e.space.text
  if e.told then
    match firstMatch p t true 0 with
    | some m => tellMatch t m
    | none => pure ()
  let (done, read) := replaceFrom r p t (2 * t.chars.size + 3) 0 none 0 false []
  if ¬ done then
    tellSpace
    return
  let text := Text.Octets.ofCharacters read.reverse
  modify fun e => { e with space := { e.space with text }, replaced := true }
  if r.runs then
    let text ← run text
    modify fun e => { e with space := { e.space with text := withoutEnd text } }
  if r.prints then emitLine (← get).space
  match r.file with
  | some path => writeTo path (← get).space
  | none => pure ()
  tellSpace

/-! ## Commands -/

/-- A line with everything that is not plain written as an escape, in pieces of a width. -/
def listing (width : Nat) (text : String) : String :=
  let piece (c : Char) : String := match c with
    | '\x5c' => "\\\\"
    | '\n' => "\\n"
    | '\t' => "\\t"
    | '\r' => "\\r"
    | '\x07' => "\\a"
    | '\x08' => "\\b"
    | '\x0b' => "\\v"
    | '\x0c' => "\\f"
    | c => if c.toNat < 32 ∨ 126 < c.toNat then "\\" ++ Shell.Quoting.octal c.toNat else String.singleton c
  let (written, _) := text.toList.foldl (fun (written, used) c =>
    let s := piece c
    if 1 < width ∧ width - 1 < used + s.length then (written ++ "\\\n" ++ s, s.length)
    else (written ++ s, used + s.length)) ("", 0)
  written ++ "$\n"

/-- How the commands for a line end. -/
inductive Flow where
  /-- The line is written, unless lines are only written when that is asked for. -/
  | done
  | discard
  /-- The commands begin again with what is left of the line. -/
  | again
  | quit (status : Nat) (writes : Bool)

/-- Adds a line after another one. -/
def Line.add (l other : Line) : Line := ⟨l.text ++ "\n" ++ other.text, l.ended || other.ended⟩

/-- Carries out the commands from a place in the row on. -/
def perform : Nat → Nat → Edit Flow
  | 0, _ => return .done
  | n + 1, i => do
    tool Proc.step
    match (← get).commands[i]? with
    | none => return .done
    | some c =>
      tellCommand c
      let selected ← isFor i c.scope
      match selected, c.action with
      | false, .opening stop => perform n stop
      | false, _ => perform n (i + 1)
      | true, action =>
        let e ← get
        let goOn : Edit Flow := perform n (i + 1)
        let jump (name : String) : Edit Flow :=
          if name = "" then return .done
          else match e.labels.find? fun (l, _) => l == name with
            | some (_, j) => perform n j
            | none => return .done
        match action with
        | .nothing _ | .opening _ | .closing | .label _ => goOn
        | .jump .always name => jump name
        | .jump .ifReplaced name =>
          if e.replaced then
            set { e with replaced := false }
            jump name
          else goOn
        | .jump .unlessReplaced name =>
          if e.replaced then
            set { e with replaced := false }
            goOn
          else jump name
        | .number =>
          emitText (toString e.number ++ "\n")
          goOn
        | .append s =>
          set { e with later := .text s :: e.later }
          goOn
        | .insert s =>
          emitText s
          goOn
        | .change s =>
          let goesOn : Bool := match e.ranges[i]? with
            | some (.within _) => true
            | _ => false
          let inRange := c.scope.stop.isSome && goesOn && !c.scope.negated
          if ¬ inRange then emitText s
          tellEnd
          return .discard
        | .delete =>
          tellEnd
          return .discard
        | .deleteFirst =>
          match e.space.text.toList.span (· != '\n') with
          | (_, _ :: rest) =>
            set { e with space := { e.space with text := String.ofList rest } }
            tellSpace
            return .again
          | _ => return .discard
        | .execute command =>
          if command = "" then
            let text ← run e.space.text
            modify fun e => { e with space := { e.space with text := withoutEnd text } }
          else
            let text ← run command
            emitText text
          goOn
        | .fileName =>
          emitText (e.file ++ "\n")
          goOn
        | .takeHeld =>
          set { e with space := e.held }
          tellHeld
          goOn
        | .takeHeldAfter =>
          set { e with space := e.space.add e.held }
          tellSpace
          goOn
        | .hold =>
          set { e with held := e.space }
          tellHeld
          goOn
        | .holdAfter =>
          set { e with held := e.held.add e.space }
          tellHeld
          goOn
        | .list width =>
          emitText (listing (width.getD e.width) e.space.text)
          goOn
        | .next =>
          if ← isLast then
            if (← get).separate ∧ (← hasMore false Proc.endless) then pure ()
            else
              if ¬ e.quiet then emitLine e.space
              tellEnd
              return .quit 0 false
          if ¬ e.quiet then emitLine e.space
          match ← nextLine with
          | some line =>
            modify fun now => { now with space := line, replaced := e.replaced }
            tellSpace
            goOn
          | none => return .quit 0 false
        | .nextAfter =>
          if ← isLast then
            if (← get).separate ∧ (← hasMore false Proc.endless) then pure ()
            else
              tellEnd
              return .quit 0 true
          match ← nextLine with
          | some line =>
            let joined : Line := ⟨e.space.text ++ String.singleton e.ending ++ line.text, line.ended⟩
            modify fun now => { now with space := joined, replaced := e.replaced }
            tellSpace
            goOn
          | none => return .quit 0 true
        | .print =>
          emitLine e.space
          goOn
        | .printFirst =>
          let first := String.ofList (e.space.text.toList.takeWhile (· != '\n'))
          emitLine ⟨first, first.length < e.space.text.length || e.space.ended⟩
          goOn
        | .quit status => return .quit (status.getD 0) true
        | .quitAtOnce status =>
          modify fun e => { e with later := [] }
          return .quit (status.getD 0) false
        | .readFile path =>
          set { e with later := .file path :: e.later }
          goOn
        | .readLine path =>
          set { e with later := .line path :: e.later }
          goOn
        | .replace r =>
          replace r
          goOn
        | .writeFile path =>
          writeTo path e.space
          goOn
        | .writeFirst path =>
          writeTo path ⟨String.ofList (e.space.text.toList.takeWhile (· != '\n')), true⟩
          goOn
        | .exchange =>
          set { e with space := e.held, held := e.space }
          tellSpace
          tellHeld
          goOn
        | .translate first second =>
          let change (c : Char) : Char := ((first.zip second).find? fun (a, _) => a == c).map Prod.snd |>.getD c
          let locale ← tool Tool.locale
          let text := Text.Octets.ofCharacters ((locale.characters e.space.text).map change)
          set { e with space := { e.space with text } }
          tellSpace
          goOn
        | .clear =>
          set { e with space := { e.space with text := "" } }
          tellSpace
          goOn

/-- Edits line after line: the status. -/
def cycles : Nat → Bool → Edit Nat
  | 0, _ => return 0
  | n + 1, keeps => do
    let goesOn ←
      if keeps then do
        writeLater
        pure true
      else match ← nextLine with
        | some line =>
          modify fun e => { e with space := line }
          tell fun e =>
            let file := if e.file = "-" then "STDIN" else e.file
            "INPUT:   \x27" ++ file ++ "\x27 line " ++ toString e.number ++ "\n"
          tellSpace
          pure true
        | none => pure false
    if ¬ goesOn then return 0
    let write : Edit Unit := do
      let e ← get
      if ¬ e.quiet then emitLine e.space
    match ← perform Proc.endless 0 with
    | .done =>
      tellEnd
      write
      cycles n false
    | .discard => cycles n false
    | .again => cycles n true
    | .quit status writes =>
      if writes then write
      writeLater
      -- What is left of a file that is changed stays as it is.
      if (← get).changed.isSome then
        for (line, _) in (← get).input.pending do emitLine line
        let rest ← match (← get).input.current with
          | some (descriptor, _) => tool (Proc.readAll descriptor)
          | none => pure (.ok ByteArray.empty)
        let part := (← get).input.part ++ rest.toOption.getD ByteArray.empty
        if ¬ part.isEmpty then emitText (Text.Octets.ofBytes part)
      else
        match (← get).input.current with
        | some (0, _) =>
          -- What was read of the input and not used is given back.
          let input := (← get).input
          let unused := input.pending.foldl (fun n (l, _) => n + l.text.length + (if l.ended then 1 else 0)) input.part.size
          tool <| Proc.change fun pid k => k.giveBack pid 0 unused
        | _ => pure ()
      return status

/-- The files that commands write. -/
def writtenFiles (commands : Array Command) : List String :=
  let paths := commands.toList.filterMap fun c => match c.action with
    | .writeFile path | .writeFirst path => some path
    | .replace r => r.file
    | _ => none
  (paths.filter fun p => p ≠ "/dev/stdout" ∧ p ≠ "/dev/stderr").eraseDups

/-- How the program is called. -/
def usage (name : String) : String :=
  "Usage: " ++ name ++ " [OPTION]... \x7bscript-only-if-no-other-script\x7d [input-file]...\n\n"
    ++ "  -n, --quiet, --silent\n                 suppress automatic printing of pattern space\n"
    ++ "      --debug\n                 annotate program execution\n"
    ++ "  -e script, --expression=script\n                 add the script to the commands to be executed\n"
    ++ "  -f script-file, --file=script-file\n"
    ++ "                 add the contents of script-file to the commands to be executed\n"
    ++ "  --follow-symlinks\n                 follow symlinks when processing in place\n"
    ++ "  -i[SUFFIX], --in-place[=SUFFIX]\n"
    ++ "                 edit files in place (makes backup if SUFFIX supplied)\n"
    ++ "  -l N, --line-length=N\n                 specify the desired line-wrap length for the \x60l\x27 command\n"
    ++ "  --posix\n                 disable all GNU extensions.\n"
    ++ "  -E, -r, --regexp-extended\n                 use extended regular expressions in the script\n"
    ++ "                 (for portability use POSIX -E).\n"
    ++ "  -s, --separate\n                 consider files as separate rather than as a single,\n"
    ++ "                 continuous long stream.\n"
    ++ "      --sandbox\n                 operate in sandbox mode (disable e/r/w commands).\n"
    ++ "  -u, --unbuffered\n                 load minimal amounts of data from the input files and flush\n"
    ++ "                 the output buffers more often\n"
    ++ "  -z, --null-data\n                 separate lines by NUL characters\n"
    ++ "      --help     display this help and exit\n      --version  output version information and exit\n\n"
    ++ "If no -e, --expression, -f, or --file option is given, then the first\n"
    ++ "non-option argument is taken as the sed script to interpret.  All\n"
    ++ "remaining arguments are names of input files; if no input files are\n"
    ++ "specified, then the standard input is read.\n\n"

/-- Edits a stream. -/
def sed (args : List String) : Tool Nat := do
  let known := [flag "n" "quiet", word "silent", taking "e" "expression", taking "f" "file", mayTake "i" "in-place",
    flag "E" "regexp-extended", flag "r", flag "s" "separate", flag "u" "unbuffered", flag "z" "null-data",
    taking "l" "line-length", word "posix", word "debug", word "follow-symlinks", word "sandbox", flag "b" "binary"]
  let usage := usage (← Tool.name)
  let g ← Options.read { known, usage := some usage } args
  let sources ← (g.options.filter fun (key, _) => key == "e" || key == "f").mapM fun (key, value) => do
    let value := value.getD ""
    if key = "e" then return Sum.inl value
    else match ← Tool.contentOf value with
      | .ok bytes => return Sum.inr (value, withoutEnd (Text.Octets.ofBytes bytes))
      | .error r => Tool.fail 1 ("couldn\x27t open file " ++ value ++ ": " ++ r.message)
  let (sources, files) ← match sources, g.operands with
    | [], [] =>
      Tool.note usage
      throw 1
    | [], script :: files => pure ([Sum.inl script], files)
    | sources, files => pure (sources, files)
  let sources := sources.zipIdx.map fun (source, i) => match source with
    | .inl s =>
      let before := ((sources.take i).filter fun s => match s with
        | .inl _ => true
        | .inr _ => false).length
      Source.expression (before + 1) s
    | .inr (path, s) => Source.file path s
  let (commands, quiet) ← match ofSources (← Tool.locale) (g.has "E" || g.has "r") (g.has "sandbox") sources with
    | .ok found => pure found
    | .error message => Tool.fail 1 message
  match missingLabel commands with
  | some name => Tool.fail 4 ("can\x27t find label for jump to \x60" ++ name ++ "\x27")
  | none => pure ()
  let width ← match (g.last? "l") with
    | none => pure 70
    | some s => match Numbers.whole s with
      | .ok n => pure n
      | .error _ => Tool.fail 1 ("invalid line length: " ++ s)
  let inPlace := if g.has "i" then some ((g.last? "i").getD "") else none
  if inPlace.isSome ∧ files = [] then Tool.fail 4 "no input files"
  let outputs ← (writtenFiles commands).mapM fun path => do
    let d ← Tool.newDescriptor
    match ← Proc.openAs d Kernel.OpenMode.output path with
    | .ok () => return (path, d, false)
    | .error r => Tool.fail 4 ("couldn\x27t open file " ++ path ++ ": " ++ r.message)
  let start : Session :=
    { input := ⟨if files = [] then ["-"] else files, none, [], ByteArray.empty⟩, commands, labels := labels commands,
      quiet := quiet || g.has "n" || g.has "silent", separate := g.has "s" || inPlace.isSome, inPlace,
      ending := if g.has "z" then '\x00' else '\n', width, space := ⟨"", true⟩, held := ⟨"", true⟩, replaced := false,
      number := 0, file := "-", later := [], lastPattern := none,
      ranges := commands.map fun c => Range.ofScope c.scope,
      openEnd := false, outputs, sources := [], changed := none, told := g.has "debug", depth := 0, status := 0 }
  let whole : Edit Nat := do
    tell fun e => shownScript e.commands.toList
    let status ← cycles Proc.endless false
    finishFile
    let failures := (← get).status
    return if status ≠ 0 then status else failures
  let (status, _) ← whole.run start
  return status

end TaskRunner.Tools.Editing
