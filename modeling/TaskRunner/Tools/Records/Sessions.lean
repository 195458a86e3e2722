import TaskRunner.Tools.Dates
import TaskRunner.Tools.Records.Tables
import TaskRunner.Tools.Records.Values
import TaskRunner.Tools.Records.Patterns
import TaskRunner.Tools.Running

/-!
# What is known while records are gone through

The values of names, the record and its fields, what is read and what is written. A record is cut into
fields when one of them is asked for, and put together again when it is asked for after one of them has
changed.
-/

namespace TaskRunner.Tools.Records

open Processes

/-! ## State -/

/-- What cuts a record into fields. -/
inductive Separator where
  | blanks
  /-- Nothing: every byte is a field. -/
  | each
  | byte (c : Char)
  | pattern (p : Pattern)

/-- What ends a record. -/
inductive Delimiter where
  | byte (b : UInt8)
  /-- Empty lines. -/
  | emptyLines
  | pattern (p : Pattern)

/-- Something that records are read from: what has been read of it, and where the next record begins in that. -/
structure Source where
  descriptor : Nat
  held : ByteArray
  place : Nat
  ended : Bool

/-- Something that records are read from by its name, and the process that writes it if it is a command. -/
structure Opened where
  name : String
  source : Source
  process : Option Nat

/-- Something that is written to by its name, with what has not been handed on, and the process that reads it if it is
a command. -/
structure Drain where
  name : String
  descriptor : Nat
  held : ByteArray
  process : Option Nat

/-- What a name stands for in a function. -/
inductive Slot where
  | value (v : Value)
  | array (n : Nat)

/-- What is known. -/
structure Session where
  tool : State
  code : Code
  scalars : Std.HashMap String Value
  arrays : Std.HashMap Nat (Table Value)
  /-- The arrays that names stand for. -/
  names : Std.HashMap String Nat
  nextArray : Nat
  frame : List (String × Slot)
  /-- The record, unless it has to be put together. -/
  record : Option Value
  /-- The fields, if the record has been cut. -/
  fields : Option (Array Value)
  separator : Separator
  delimiter : Delimiter
  input : Option Source
  /-- The number of the argument that was met last. -/
  operand : Nat
  /-- Whether an input has been met. -/
  started : Bool
  sources : List Opened
  drains : List Drain
  patterns : Std.HashMap String Pattern
  /-- The rules whose range has begun. -/
  active : List Nat
  status : Nat
  seed : Value
  random : Nat

/-- Why what is being done ends. -/
inductive Halt where
  | next
  | nextFile
  | exit
  | quit (status : Nat)

/-- A step of going through records. -/
abbrev Work (α : Type) := Proc Halt Session α

/-- A step of the program. -/
def tool {α : Type} (m : Tool α) : Work α := do
  let s ← get
  Proc.within m s.tool
    (fun status t => do
      modify fun s => { s with tool := t }
      throw (.quit status))
    (fun a t => do
      modify fun s => { s with tool := t }
      return a)

/-- The status of a program with which something is wrong. -/
def wrongStatus : Nat := 2

/-- Stops, saying what is wrong. -/
def quit {α : Type} (message : String) : Work α := do
  tool (do Tool.note ((← Tool.name) ++ ": " ++ message ++ "\n"))
  throw (.quit wrongStatus)

/-! ## Names -/

/-- The value of a global name. -/
def global (name : String) : Work Value := return ((← get).scalars[name]?).getD .missing

/-- How numbers with a fraction become texts. -/
def conversion : Work String := return (← global "CONVFMT").toText "%.6g"

/-- The text of a value. -/
def textOf (v : Value) : Work String := do
  match v with
  | .text s | .read s => return s
  | v => return v.toText (← conversion)

/-- Stops because of what happens while records are gone through. -/
def stopRunning {α : Type} (message : String) : Work α := do
  let shown (name : String) : Work String := return (← global name).toText "%.6g"
  let count (name : String) : Work String := return numberText "%.6g" (← global name).toNumber
  quit ("run time error: " ++ message ++ "\n\tFILENAME=\"" ++ (← shown "FILENAME") ++ "\" FNR=" ++ (← count "FNR") ++ " NR="
    ++ (← count "NR"))

/-- A pattern that is known only now. -/
def patternOf (s : String) : Work Pattern := do
  match (← get).patterns[s]? with
  | some p => return p
  | none =>
    match Pattern.ofString s with
    | .ok p =>
      modify fun st => { st with patterns := st.patterns.insert s p }
      return p
    | .error fault => stopRunning ("regular expression compile failed (" ++ fault.message ++ ")\n" ++ s)

/-- What a text separates fields as. -/
def separatorOf (s : String) : Work Separator := do
  match s.toList with
  | [] => return .each
  | [' '] => return .blanks
  | [c] => return .byte c
  | _ => return .pattern (← patternOf s)

/-- What a text ends records as. -/
def delimiterOf (s : String) : Work Delimiter := do
  match s.toList with
  | [] => return .emptyLines
  | [c] => return .byte c.toNat.toUInt8
  | _ => return .pattern (← patternOf s)

/-! ## Fields -/

/-- The pieces of a text between matches of a pattern, after some that have been found, the last first. -/
def cutByPattern (p : Pattern) (t : Regex.Subject) (cs : Array Char) : Nat → Nat → List String → List String
  | 0, start, read => (String.ofList (cs.extract start cs.size).toList :: read).reverse
  | n + 1, start, read =>
    match Pattern.firstFilled p t (cs.size + 2) start with
    | some m => cutByPattern p t cs n m.stop (String.ofList (cs.extract start m.start).toList :: read)
    | none => (String.ofList (cs.extract start cs.size).toList :: read).reverse

/-- The words of a text, the last first, given the one that is being read. -/
def cutByBlanks : List Char → List Char → List String → List String
  | [], word, read => if word = [] then read else String.ofList word.reverse :: read
  | c :: cs, word, read =>
    if isBlank c then cutByBlanks cs [] (if word = [] then read else String.ofList word.reverse :: read)
    else cutByBlanks cs (c :: word) read

/-- The pieces of a text that a separator makes. -/
def Separator.pieces (sep : Separator) (s : String) : List String :=
  if s = "" then []
  else match sep with
    | .blanks => (cutByBlanks s.toList [] []).reverse
    | .each => s.toList.map String.singleton
    | .byte c => s.splitOn (String.singleton c)
    | .pattern p => cutByPattern p (Pattern.subject s) s.toList.toArray (s.length + 2) 0 []

/-- The text of the record, which is put together if it has to be. -/
def recordValue : Work Value := do
  let s ← get
  match s.record, s.fields with
  | some v, _ => return v
  | none, none => return .missing
  | none, some fields =>
    let form ← conversion
    let between ← textOf (← global "OFS")
    let v := Value.text (between.intercalate (fields.toList.map fun f => f.toText form))
    modify fun s => { s with record := some v }
    return v

/-- The fields of the record. -/
def fieldsOf : Work (Array Value) := do
  let s ← get
  match s.fields with
  | some fields => return fields
  | none =>
    let text ← textOf (← recordValue)
    let fields := ((s.separator.pieces text).map Value.read).toArray
    modify fun s => { s with fields := some fields }
    return fields

/-- Puts another record in the place of the record. -/
def setRecord (v : Value) : Work Unit := modify fun s => { s with record := some v, fields := none }

/-- A field. -/
def field (n : Int) : Work Value := do
  if n = 0 then recordValue
  else if n < 0 then stopRunning ("negative field index $" ++ toString n)
  else return ((← fieldsOf)[n.toNat - 1]?).getD .missing

/-- Gives the record a number of fields. -/
def setCount (n : Int) : Work Unit := do
  if n < 0 then stopRunning "negative value assigned to NF"
  let fields ← fieldsOf
  let fields := if n.toNat ≤ fields.size then fields.extract 0 n.toNat
    else fields ++ Array.replicate (n.toNat - fields.size) (Value.text "")
  modify fun s => { s with fields := some fields, record := none }

/-- Puts a value in a field. -/
def setField (n : Int) (v : Value) : Work Unit := do
  if n = 0 then setRecord v
  else if n < 0 then stopRunning ("negative field index $" ++ toString n)
  else
    let fields ← fieldsOf
    if fields.size < n.toNat then setCount n
    modify fun s => { s with fields := s.fields.map fun fs => fs.set! (n.toNat - 1) v, record := none }

/-! ## Values of names -/

/-- The value of a name. -/
def scalar (name : String) : Work Value := do
  let s ← get
  match s.frame.find? fun (n, _) => n == name with
  | some (_, .value v) => return v
  | some (_, .array _) => return .missing
  | none => if name = "NF" then return .number (Float.ofNat (← fieldsOf).size) else global name

/-- Gives a name a value. -/
def setScalar (name : String) (v : Value) : Work Unit := do
  let s ← get
  if s.frame.any fun (n, _) => n == name then
    set { s with frame := s.frame.map fun (n, old) => if n = name then (n, .value v) else (n, old) }
  else if name = "NF" then setCount (wordOf v.toNumber)
  else
    if name = "FS" then
      discard fieldsOf
      let separator ← separatorOf (← textOf v)
      modify fun s => { s with separator }
    else if name = "RS" then
      let delimiter ← delimiterOf (← textOf v)
      modify fun s => { s with delimiter }
    modify fun s => { s with scalars := s.scalars.insert name v }

/-- A new array. -/
def newArray (t : Table Value) : Work Nat := do
  let s ← get
  set { s with arrays := s.arrays.insert s.nextArray t, nextArray := s.nextArray + 1 }
  return s.nextArray

/-- The array that a name stands for. -/
def arrayOf (name : String) : Work Nat := do
  let s ← get
  match s.frame.find? fun (n, _) => n == name with
  | some (_, .array n) => return n
  | found =>
    match if found.isSome then none else s.names[name]? with
    | some n => return n
    | none =>
      let n ← newArray .empty
      if found.isSome then
        modify fun s => { s with frame := s.frame.map fun (m, old) => if m = name then (m, .array n) else (m, old) }
      else modify fun s => { s with names := s.names.insert name n }
      return n

/-- An array. -/
def table (n : Nat) : Work (Table Value) := return ((← get).arrays[n]?).getD .empty

/-- Changes an array. -/
def setTable (n : Nat) (t : Table Value) : Work Unit := modify fun s => { s with arrays := s.arrays.insert n t }

/-- The number that a key is, if it is one without a fraction, and its text. -/
def keyOf (v : Value) : Work (Option Int × String) := do
  match v with
  | .number x =>
    let n := wordOf x
    if Float.ofInt n == x then return (some n, toString n) else return (none, ← textOf v)
  | v => return (none, ← textOf v)

/-- An array in which a key is asked for. -/
def used (t : Table Value) (key : Option Int × String) (fresh : Option Value) : Table Value :=
  match key.1 with
  | some n => t.useNumber n fresh
  | none => t.useText key.2 fresh

/-! ## What is read -/

/-- A source that nothing has been read of. -/
def Source.ofDescriptor (descriptor : Nat) : Source := ⟨descriptor, ByteArray.empty, 0, false⟩

/-- How much is read at once. -/
def blockSize : Nat := 4096

/-- Reads more of a source. -/
def Source.fill (s : Source) : Work Source := do
  match ← Proc.read s.descriptor blockSize with
  | .error r => quit ("read error (" ++ r.message ++ ")")
  | .ok bytes =>
    if bytes.isEmpty then return { s with ended := true }
    else return { s with held := s.held.extract s.place s.held.size ++ bytes, place := 0 }

/-- The place of a byte in so many bytes from a place on. -/
def placeOf (b : UInt8) (bytes : ByteArray) : Nat → Nat → Option Nat
  | 0, _ => none
  | n + 1, i => if bytes.get! i == b then some i else placeOf b bytes n (i + 1)

/-- The bytes of a source from one place to another. -/
def Source.text (s : Source) (start stop : Nat) : String := Text.Octets.ofBytes (s.held.extract start stop)

/-- The rest of a source that has come to its end. -/
def Source.rest (s : Source) : Option String × Source :=
  if s.held.size ≤ s.place then (none, s) else (some (s.text s.place s.held.size), { s with place := s.held.size })

/-- The next record up to a byte; `looked` bytes have been looked at. -/
def recordByByte (b : UInt8) : Nat → Nat → Source → Work (Option String × Source)
  | 0, _, s => return (none, s)
  | n + 1, looked, s => do
    let start := s.place + looked
    match placeOf b s.held (s.held.size - start) start with
    | some i => return (some (s.text s.place i), { s with place := i + 1 })
    | none =>
      if s.ended then return s.rest
      let looked := s.held.size - s.place
      recordByByte b n looked (← s.fill)

/-- The place after which so many bytes are line feeds, from a place on. -/
def afterLineFeeds (bytes : ByteArray) : Nat → Nat → Nat
  | 0, i => i
  | n + 1, i => if i < bytes.size ∧ bytes.get! i = 10 then afterLineFeeds bytes n (i + 1) else i

/-- The place of the first empty line in so many bytes from a place on. -/
def emptyLine (bytes : ByteArray) : Nat → Nat → Option Nat
  | 0, _ => none
  | n + 1, i =>
    if i + 1 < bytes.size then
      if bytes.get! i = 10 ∧ bytes.get! (i + 1) = 10 then some i else emptyLine bytes n (i + 1)
    else none

/-- The next record up to an empty line. -/
def recordByLines : Nat → Source → Work (Option String × Source)
  | 0, s => return (none, s)
  | n + 1, s => do
    let s := { s with place := afterLineFeeds s.held s.held.size s.place }
    match emptyLine s.held s.held.size s.place with
    | some i => return (some (s.text s.place i), { s with place := i + 2 })
    | none =>
      if ¬ s.ended then recordByLines n (← s.fill)
      else
        let (found, s) := s.rest
        return (found.map fun t => if t.endsWith "\n" then (t.dropEnd 1).toString else t, s)

/-- The next record up to a match. -/
def recordByPattern (p : Pattern) : Nat → Source → Work (Option String × Source)
  | 0, s => return (none, s)
  | n + 1, s => do
    let left := s.text s.place s.held.size
    let size := left.length
    match Pattern.firstFilled p (Pattern.subject left) (size + 2) 0 with
    | some m =>
      if m.stop < size ∨ s.ended then
        return (some (s.text s.place (s.place + m.start)), { s with place := s.place + m.stop })
      else recordByPattern p n (← s.fill)
    | none => if s.ended then return s.rest else recordByPattern p n (← s.fill)

/-- The next record of a source. -/
def Source.next (s : Source) : Work (Option String × Source) := do
  match (← get).delimiter with
  | .byte b => recordByByte b Proc.endless 0 s
  | .emptyLines => recordByLines Proc.endless s
  | .pattern p => recordByPattern p Proc.endless s

/-- Adds one to a number that counts records. -/
def countRecord (name : String) : Work Unit := do
  let n := (← global name).toNumber + 1
  modify fun s => { s with scalars := s.scalars.insert name (.number n) }

/-- The name and the value of an assignment. -/
def assignment? (s : String) : Option (String × String) :=
  match s.toList.span (· != '=') with
  | (c :: cs, _ :: value) =>
    if (c.isAlpha || c == '_') && cs.all fun d => d.isAlphanum || d == '_' then
      some (String.ofList (c :: cs), String.ofList value)
    else none
  | _ => none

/-- Stops because a file cannot be opened. -/
def cannotOpen {α : Type} (what : String) (r : Refusal) : Work α :=
  quit ("cannot open " ++ what ++ " (" ++ r.message ++ ")")

/-- Goes on to the next input that the arguments name; `unescape` reads the escapes of values. Whether there is one. -/
def nextInput (unescape : String → String) : Nat → Work Bool
  | 0 => return false
  | n + 1 => do
    let s ← get
    let i := s.operand + 1
    let count := wordOf (← global "ARGC").toNumber
    if count ≤ i then
      if s.started then return false
      modify fun s =>
        { s with started := true, input := some (.ofDescriptor 0), scalars := s.scalars.insert "FILENAME" (.text "-") }
      return true
    set { s with operand := i }
    let argument ← textOf (((← table (← arrayOf "ARGV")).get? (toString i)).getD .missing)
    if argument = "" then return ← nextInput unescape n
    match assignment? argument with
    | some (name, value) =>
      setScalar name (.read (unescape value))
      nextInput unescape n
    | none =>
      match ← tool (Tool.openInput argument) with
      | .error r => cannotOpen argument r
      | .ok d =>
        modify fun s =>
          { s with
            started := true, input := some (.ofDescriptor d)
            scalars := (s.scalars.insert "FILENAME" (.text argument)).insert "FNR" (.number 0) }
        return true

/-- Gives up the input that is being read. -/
def closeInput : Work Unit := do
  match (← get).input with
  | some source =>
    tool (Tool.closeInput source.descriptor)
    modify fun s => { s with input := none }
  | none => pure ()

/-- The next record of the input. -/
def nextRecord (unescape : String → String) : Nat → Work (Option String)
  | 0 => return none
  | n + 1 => do
    match (← get).input with
    | some source =>
      let (found, source) ← source.next
      modify fun s => { s with input := some source }
      match found with
      | some text =>
        countRecord "NR"
        countRecord "FNR"
        return some text
      | none =>
        closeInput
        nextRecord unescape n
    | none => if ← nextInput unescape Proc.blockSize then nextRecord unescape n else return none

/-! ## What is written -/

/-- Hands on what has been written to something. -/
def Drain.flush (d : Drain) : Work Drain := do
  if ¬ d.held.isEmpty then discard <| Proc.write d.descriptor d.held
  return { d with held := ByteArray.empty }

/-- Hands on all that has been written. -/
def flushAll : Work Unit := do
  tool Tool.flush
  let drains ← (← get).drains.mapM Drain.flush
  modify fun s => { s with drains }

/-- What running a command comes to. -/
def commandImage (command : String) : Work (Except Refusal Image) := do
  let (fs, place) ← Proc.files
  return Executable.image fs place "/bin/sh" "/bin/sh" ["-c", command] (← get).tool.environment

/-- Begins a command. -/
def beginCommand (command : String) (wiring : Tool Unit) : Work Nat := do
  flushAll
  match ← commandImage command with
  | .ok image => tool (Running.begin wiring image)
  | .error r => quit ("cannot run \"" ++ command ++ "\" (" ++ r.message ++ ")")

/-- The number that tells how a command has ended. -/
def endingValue : Ending → Value
  | .exited n => .number (Float.ofNat n)
  | .killed n => .number (Float.ofNat (256 + n))

/-- The drain of a name, which is opened if it has to be. -/
def drainOf (name : String) (isCommand appends : Bool) : Work Drain := do
  let s ← get
  match s.drains.find? fun d => d.name == name && d.process.isSome == isCommand with
  | some d =>
    set { s with drains := d :: s.drains.filter fun e => !(e.name == name && e.process.isSome == isCommand) }
    return d
  | none =>
    let d ← if isCommand then do
        let source ← tool Tool.newDescriptor
        let drain ← tool Tool.newDescriptor
        Proc.pipe source drain
        let child ← beginCommand name (discard <| Proc.duplicate source 0)
        Proc.close source
        pure { name, descriptor := drain, held := ByteArray.empty, process := some child }
      else do
        let descriptor ← tool Tool.newDescriptor
        let mode : Kernel.OpenMode := if appends then { writes := true, append := true, create := true } else .output
        match ← Proc.openAs descriptor mode name with
        | .ok () => pure { name, descriptor, held := ByteArray.empty, process := none }
        | .error r => cannotOpen ("\"" ++ name ++ "\" for output") r
    modify fun s => { s with drains := d :: s.drains }
    return d

/-- Writes to a file or to a command. -/
def writeTo (name text : String) (isCommand appends : Bool) : Work Unit := do
  if ¬ isCommand ∧ (name = "/dev/stdout" ∨ name = "-") then tool (Tool.emit text)
  else if ¬ isCommand ∧ name = "/dev/stderr" then tool (Tool.note text)
  else
    let d ← drainOf name isCommand appends
    let d := { d with held := d.held ++ Text.Octets.toBytes text }
    let d ← if blockSize ≤ d.held.size then d.flush else pure d
    modify fun s => { s with drains := d :: s.drains.drop 1 }

/-- Gives up a drain; how it went. -/
def closeDrain (d : Drain) : Work Value := do
  discard d.flush
  Proc.close d.descriptor
  match d.process with
  | some child => return endingValue (← Proc.reap child)
  | none => return .number 0

/-- Gives up a source; how it went. -/
def closeOpened (o : Opened) : Work Value := do
  tool (Tool.closeInput o.source.descriptor)
  match o.process with
  | some child => return endingValue (← Proc.reap child)
  | none => return .number 0

/-- Gives up all that has a name; how it went. -/
def closeNamed (name : String) : Work Value := do
  let s ← get
  let drains := s.drains.filter fun d => d.name == name
  let sources := s.sources.filter fun o => o.name == name
  set { s with drains := s.drains.filter fun d => d.name != name, sources := s.sources.filter fun o => o.name != name }
  let mut found := Value.number (-1)
  for d in drains do found ← closeDrain d
  for o in sources do found ← closeOpened o
  return found

/-- The source of a name, which is opened if it has to be. -/
def sourceOf (name : String) (isCommand : Bool) : Work (Except Refusal Opened) := do
  match (← get).sources.find? fun o => o.name == name && o.process.isSome == isCommand with
  | some o => return .ok o
  | none =>
    if isCommand then
      let source ← tool Tool.newDescriptor
      let drain ← tool Tool.newDescriptor
      Proc.pipe source drain
      let child ← beginCommand name (discard <| Proc.duplicate drain 1)
      Proc.close drain
      return .ok ⟨name, .ofDescriptor source, some child⟩
    else
      match ← tool (Tool.openInput (if name = "/dev/stdin" then "-" else name)) with
      | .ok d => return .ok ⟨name, .ofDescriptor d, none⟩
      | .error r => return .error r

/-- The next record of a file or of a command; nothing if it cannot be opened. -/
def recordFrom (name : String) (isCommand : Bool) : Work (Option (Option String)) := do
  match ← sourceOf name isCommand with
  | .error _ => return none
  | .ok o =>
    let (found, source) ← o.source.next
    modify fun s =>
      { s with sources := { o with source } :: s.sources.filter fun p => !(p.name == name && p.process.isSome == isCommand) }
    return some found

end TaskRunner.Tools.Records
