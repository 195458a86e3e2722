import TaskRunner.Assoc
import TaskRunner.Shell.Syntax

/-!
# Reading the bytes of a script

A reader goes through a script byte by byte. What an alias stands for is put in front of what is left
to be read, and an alias is not looked at again within what it stands for. A backslash before a line
end is as good as nothing wherever both are not quoted.
-/

namespace TaskRunner.Shell

/-- What stops the reading of a script. -/
inductive SyntaxFault where
  /-- A message, and the line that it is about. -/
  | because (line : Nat) (message : String)
  /-- Something stands where it cannot stand: its line and name. -/
  | unexpected (line : Nat) (token : String)
  /-- The script ends too early. -/
  | endsEarly (line : Nat)
  /-- The script ends before something that began in a line has ended. -/
  | unclosed (line : Nat) (closing : String)
  deriving Repr

/-- A word of a script as it is read first. -/
inductive Token where
  | word (w : Word) (quoted : Bool)
  /-- The descriptor, if one is given, and the operator. -/
  | redirect (descriptor : Option Nat) (label : String) (operator : String)
  | newline
  | endOfFile
  /-- One of the marks between commands. -/
  | mark (s : String)
  | keyword (s : String)
  /-- An array that is assigned. -/
  | assignment (a : Assignment)
  /-- The text of an arithmetic command. -/
  | arithmetic (w : Word)

instance : Inhabited Token := ⟨.endOfFile⟩

/-- What a token may be. -/
structure Expectation where
  /-- Line ends are passed over. -/
  newlines : Bool := false
  keywords : Bool := false
  aliases : Bool := false
  /-- A word that ends a text of several lines: nothing in it stands for something else. -/
  endMark : Bool := false

/-- What an alias stands for, as far as it is still to be read. -/
structure Inserted where
  chars : List Char
  aliasName : String
  /-- Whether the word after it may be an alias too. -/
  endsBlank : Bool

/-- A text of several lines that follows a command. -/
structure Pending where
  number : Nat
  mark : EndMark
  line : Nat

/-- The state of a reader. -/
structure Reader where
  dialect : Dialect
  inserted : List Inserted
  chars : List Char
  line : Nat
  aliases : Assoc String String
  /-- Whether the last token is to be read again. -/
  again : Bool
  last : Token
  /-- The line on which the last token began. -/
  startLine : Nat
  expectation : Expectation
  /-- Texts that are still to be read. -/
  pending : List Pending
  /-- Texts that have been read, by their numbers. -/
  documents : Array Document
  /-- Warnings about what was read, with their lines. -/
  warnings : List (Nat × String)
  /-- Whether patterns may hold alternatives in parentheses. -/
  extendedPatterns : Bool

/-- A step of reading. -/
abbrev Reading (α : Type) := EStateM SyntaxFault Reader α

namespace Reader

/-- A reader at the beginning of a script. -/
def start (dialect : Dialect) (aliases : Assoc String String) (documents : Array Document) (extendedPatterns : Bool)
    (line : Nat) (script : String) : Reader where
  dialect
  inserted := []
  chars := if dialect = .extended ∧ ¬ script.endsWith "\n" then script.toList ++ ['\n'] else script.toList
  line
  aliases
  again := false
  last := .endOfFile
  startLine := line
  expectation := {}
  pending := []
  documents
  warnings := []
  extendedPatterns

/-- Whether the language has additions. -/
def isExtended : Reading Bool := return (← get).dialect = .extended

/-- The next byte of what is to be read, if there is one. -/
def takeFrom (r : Reader) : List Inserted → Option Char × Reader
  | [] =>
    match r.chars with
    | [] => (none, { r with inserted := [] })
    | c :: chars => (some c, { r with inserted := [], chars })
  | i :: rest =>
    match i.chars with
    | c :: chars => (some c, { r with inserted := { i with chars } :: rest })
    | [] =>
      takeFrom (if i.endsBlank then { r with expectation := { r.expectation with aliases := true } } else r) rest

/-- Reads a byte. -/
def next : Reading (Option Char) := fun r =>
  match r.inserted, r.chars with
  | [], c :: chars => .ok (some c) { r with chars }
  | inserted, _ => let (c, r) := takeFrom r inserted; .ok c r

/-- Puts a byte back. -/
def unread (c : Option Char) : Reading Unit := fun r =>
  match c, r.inserted with
  | none, _ => .ok () r
  | some c, [] => .ok () { r with chars := c :: r.chars }
  | some c, i :: rest => .ok () { r with inserted := { i with chars := c :: i.chars } :: rest }

/-- Puts bytes back. -/
def unreadAll (cs : List Char) : Reading Unit := fun r =>
  match r.inserted with
  | [] => .ok () { r with chars := cs ++ r.chars }
  | i :: rest => .ok () { r with inserted := { i with chars := cs ++ i.chars } :: rest }

/-- Goes on to the next line. -/
def nextLine : Reading Unit := modify fun r => { r with line := r.line + 1 }

/-- How often a loop over the bytes of a script may go round. -/
def manyTimes : Nat := 1000000000000

/-- Reads a byte, line ends after backslashes passed over. -/
def joinedFrom : Nat → Reading (Option Char)
  | 0 => return none
  | n + 1 => do
    let c ← next
    if c = some '\x5c' then
      let d ← next
      if d = some '\n' then
        nextLine
        joinedFrom n
      else
        unread d
        return c
    else return c

/-- Reads a byte, line ends after backslashes passed over. -/
def nextJoined : Reading (Option Char) := joinedFrom manyTimes

/-- Whether a byte comes next; it is read then. -/
def accept (c : Char) : Reading Bool := do
  let d ← nextJoined
  if d = some c then return true
  unread d
  return false

/-- Stops with a message. -/
def fail {α : Type} (message : String) : Reading α := do throw (.because (← get).line message)

/-- Sets what the next token may be. -/
def expect (e : Expectation) : Reading Unit := modify fun r => { r with expectation := e }

/-- Has the last token read again. -/
def pushBack : Reading Unit := modify fun r => { r with again := true }

/-- The bytes up to the end of the line. -/
def restOfLine : Nat → List Char → Reading (List Char)
  | 0, read => return read
  | n + 1, read => do
    match ← next with
    | none => return read
    | some '\n' =>
      unread (some '\n')
      return read
    | some c => restOfLine n (c :: read)

/-- Whether the line that begins with `first` is a mark and nothing else; it is read then, and otherwise put back but
for `first`. -/
def isMark (first : Option Char) (mark : List Char) : Reading Bool := do
  let rec go (c : Option Char) (read : List Char) : List Char → Reading Bool
    | [] => do
      if c = some '\n' ∨ c = none then
        if c = some '\n' then nextLine
        return true
      else
        if read ≠ [] then
          unread c
          unreadAll (read.reverse.drop 1)
        return false
    | m :: ms => do
      if c = some m then go (← next) (m :: read) ms
      else
        if read ≠ [] then
          unread c
          unreadAll (read.reverse.drop 1)
        return false
  go first [] mark

end Reader

end TaskRunner.Shell
