import TaskRunner.Regex.Reader
import TaskRunner.Tools.Tool
import TaskRunner.Tools.Running

/-!
# Scripts that edit a stream

A script is a row of commands, each with the addresses of the lines that it is for. Commands in braces are
kept in the same row, and what opens a pair of braces knows where they close. What is wrong with a script
is told with the place where reading has come to.
-/

namespace TaskRunner.Tools

namespace EditScript

/-! ## Commands -/

/-- A pattern, with what its letters ask for. -/
structure Pattern where
  regex : Regex
  groups : Nat
  /-- The pattern as it is written, escapes for characters carried out. -/
  source : String
  ignoresCase : Bool
  hasLines : Bool
  locale : Text.Locale

/-- Lines that an address stands for. -/
inductive Address where
  | line (n : Nat)
  /-- Every so many lines from one on. -/
  | step (first every : Nat)
  | last
  /-- Lines that match; without a pattern, the one that was used last. -/
  | matching (p : Option Pattern)

/-- Where a range of lines ends. -/
inductive Until where
  | address (a : Address)
  /-- After so many more lines. -/
  | more (n : Nat)
  /-- At the next line whose number is a multiple. -/
  | multiple (n : Nat)

/-- The lines that a command is for. -/
structure Scope where
  first : Option Address
  stop : Option Until
  negated : Bool

/-- A change of letters. -/
inductive Casing where
  | upper
  | lower
  | upperFirst
  | lowerFirst
  | plain
  deriving DecidableEq

/-- A part of what takes the place of a match. -/
inductive Piece where
  | text (s : String)
  | group (n : Nat)
  | casing (c : Casing)

/-- What is put in the place of matches. -/
structure Replacement where
  pattern : Option Pattern
  pieces : List Piece
  all : Bool
  /-- The first of the matches that are replaced. -/
  number : Nat
  prints : Bool
  runs : Bool
  file : Option String

/-- When a jump is made. -/
inductive Jump where
  | always
  | ifReplaced
  | unlessReplaced

/-- What a command does. -/
inductive Action where
  /-- Something that is not done any more. -/
  | nothing (width : Option Nat)
  /-- Opens braces that close at a place in the row. -/
  | opening (stop : Nat)
  | closing
  | label (name : String)
  | jump (j : Jump) (name : String)
  | number
  | append (text : String)
  | insert (text : String)
  | change (text : String)
  | delete
  | deleteFirst
  | execute (command : String)
  | fileName
  | takeHeld
  | takeHeldAfter
  | hold
  | holdAfter
  | list (width : Option Nat)
  | next
  | nextAfter
  | print
  | printFirst
  | quit (status : Option Nat)
  | quitAtOnce (status : Option Nat)
  | readFile (path : String)
  | readLine (path : String)
  | replace (r : Replacement)
  | writeFile (path : String)
  | writeFirst (path : String)
  | exchange
  | translate (first second : List Char)
  | clear

/-- A command. -/
structure Command where
  scope : Scope
  action : Action

/-! ## Reading -/

/-- A part of a script: where it comes from, and its text. -/
inductive Source where
  | expression (number : Nat) (text : String)
  | file (path : String) (text : String)

/-- Where reading is. -/
structure Place where
  left : List Char
  /-- How many characters have been read. -/
  count : Nat
  line : Nat
  source : Source
  commands : Array Command
  /-- Where braces have been opened, the last first. -/
  opened : List Nat
  /-- Whether the text of the last command goes on. -/
  open_ : Bool
  extended : Bool
  /-- Whether lines are only written when that is asked for. -/
  quiet : Bool
  /-- Whether commands that touch files are forbidden. -/
  sandbox : Bool
  /-- Whether nothing has been read before this part. -/
  first : Bool
  locale : Text.Locale

/-- A step of reading. -/
abbrev Reading := StateT Place (Except String)

/-- Stops, saying what is wrong at the place. -/
def wrong {α : Type} (message : String) : Reading α := do
  let p ← get
  match p.source with
  | .expression n _ =>
    throw ("-e expression #" ++ toString n ++ ", char " ++ toString p.count ++ ": " ++ message)
  | .file path _ => throw ("file " ++ path ++ " line " ++ toString p.line ++ ": " ++ message)

/-- Reads a character. -/
def take : Reading (Option Char) := do
  let p ← get
  match p.left with
  | [] => return none
  | c :: rest =>
    set { p with left := rest, count := p.count + 1, line := if c = '\n' then p.line + 1 else p.line }
    return some c

/-- Gives a character back. -/
def giveBack : Option Char → Reading Unit
  | none => pure ()
  | some c => modify fun p =>
    { p with left := c :: p.left, count := p.count - 1, line := if c = '\n' then p.line - 1 else p.line }

/-- Passes over characters. -/
def skipWhile (test : Char → Bool) : Reading Unit := modify fun p =>
  let passed := p.left.takeWhile test
  { p with left := p.left.drop passed.length, count := p.count + passed.length,
           line := p.line + (passed.filter (· == '\n')).length }

/-- Reads the first character that is no blank. -/
def takeSolid : Reading (Option Char) := do
  skipWhile fun c => c == ' ' || c == '\t'
  take

/-- A number; zero if there is none. -/
def number : Reading Nat := do
  let p ← get
  let digits := p.left.takeWhile Char.isDigit
  set { p with left := p.left.drop digits.length, count := p.count + digits.length }
  return Decimal.natOf 10 digits

/-- Reads the end of a command. -/
def endCommand : Reading Unit := do
  match ← takeSolid with
  | none | some '\n' | some ';' => pure ()
  | some c => if c = '\x7d' ∨ c = '#' then giveBack (some c) else wrong "extra characters after command"

/-- The characters of a set in brackets, the opening one read; none if it does not end. -/
def bracket (cs : List Char) : Option (List Char × List Char) :=
  let (front, rest) : List Char × List Char := match cs with
    | '^' :: ']' :: rest => (['^', ']'], rest)
    | '^' :: rest => (['^'], rest)
    | ']' :: rest => ([']'], rest)
    | rest => ([], rest)
  body (rest.length + 1) rest front.reverse
where
  /-- The rest of the set. -/
  body : Nat → List Char → List Char → Option (List Char × List Char)
    | 0, _, _ => none
    | _, [], _ => none
    | n + 1, c :: rest, read =>
      if c = ']' then some ((c :: read).reverse, rest)
      else if c = '[' then
        match rest with
        | sign :: more =>
          if sign = ':' ∨ sign = '.' ∨ sign = '=' then
            let inner := named sign more
            match inner with
            | some (name, after) => body n after (name.reverse ++ sign :: c :: read)
            | none => body n rest (c :: read)
          else body n rest (c :: read)
        | [] => none
      else body n rest (c :: read)
  /-- A name in a set, up to its sign and the bracket. -/
  named (sign : Char) : List Char → Option (List Char × List Char)
    | [] => none
    | [_] => none
    | c :: d :: rest =>
      if c = sign ∧ d = ']' then some ([c, d], rest)
      else (named sign (d :: rest)).map fun (name, after) => (c :: name, after)

/-- What stands before a mark; none if the mark does not come. In a pattern, brackets are taken as a whole. -/
def upTo (mark : Char) (isPattern : Bool) : Nat → List Char → Reading (Option (List Char))
  | 0, _ => return none
  | n + 1, read => do
    match ← take with
    | none => return none
    | some c =>
      if c = mark then return some read.reverse
      else if c = '\n' ∧ ¬ isPattern then
        giveBack (some c)
        return none
      else if c = '\x5c' then
        match ← take with
        | none => return none
        | some d =>
          if d = 'n' ∧ isPattern ∧ mark ≠ 'n' then upTo mark isPattern n ('n' :: '\x5c' :: read)
          else if d = mark ∧ (isPattern ∨ d ≠ '&') then upTo mark isPattern n (d :: read)
          else if d = '\n' then upTo mark isPattern n ('\n' :: (if isPattern then read else '\x5c' :: read))
          else upTo mark isPattern n (d :: '\x5c' :: read)
      else if c = '[' ∧ isPattern ∧ mark ≠ '[' then
        let p ← get
        match bracket p.left with
        | none =>
          set { p with left := [], count := p.count + p.left.length }
          return none
        | some (set_, rest) =>
          set { p with left := rest, count := p.count + set_.length }
          upTo mark isPattern n (set_.reverse ++ c :: read)
      else upTo mark isPattern n (c :: read)

/-- The character that an escape for a character stands for, and what follows it. -/
def charEscape : List Char → Option (Char × List Char)
  | 'a' :: rest => some ('\x07', rest)
  | 'f' :: rest => some ('\x0c', rest)
  | 'n' :: rest => some ('\n', rest)
  | 'r' :: rest => some ('\r', rest)
  | 't' :: rest => some ('\t', rest)
  | 'v' :: rest => some ('\x0b', rest)
  | 'c' :: c :: rest => some (Char.ofNat (c.toUpper.toNat ^^^ 64), rest)
  | 'd' :: rest => numbered 10 3 rest
  | 'o' :: rest => numbered 8 3 rest
  | 'x' :: rest => numbered 16 2 rest
  | _ => none
where
  /-- A character by its number. -/
  numbered (base most : Nat) (cs : List Char) : Option (Char × List Char) :=
    let isDigit (c : Char) : Bool := Decimal.isHexDigit c && Decimal.natOf 16 [c] < base
    let digits := (cs.take most).takeWhile isDigit
    if digits = [] then none else some (Char.ofNat (Decimal.natOf base digits % 256), cs.drop digits.length)

/-- The characters of a pattern; one that is written by an escape is quoted. -/
def cellsOf : Nat → List Char → List Regex.Cell
  | 0, _ => []
  | _, [] => []
  | n + 1, '\x5c' :: rest =>
    match charEscape rest with
    | some (c, after) => (c, true) :: cellsOf n after
    | none => match rest with
      | c :: after => ('\x5c', false) :: (c, false) :: cellsOf n after
      | [] => [('\x5c', false)]
  | n + 1, c :: rest => (c, c == '\n') :: cellsOf n rest

/-- Reads a pattern from its characters; none if there are none. -/
def patternOf (cs : List Char) (ignoresCase hasLines : Bool) : Reading (Option Pattern) := do
  if cs = [] then
    if ignoresCase ∨ hasLines then wrong "cannot specify modifiers on empty regexp"
    return none
  let cells := cellsOf (cs.length + 1) cs
  match Regex.ofCells ⟨(← get).extended, true, true, true, false⟩ cells with
  | .ok (regex, groups) =>
    let source := Text.Octets.ofCharacters (cells.map Prod.fst)
    return some ⟨regex, groups, source, ignoresCase, hasLines, (← get).locale⟩
  | .error f => wrong f.message

/-- Reads the letters after the pattern of an address. -/
def addressLetters : Nat → Bool → Bool → Reading (Bool × Bool)
  | 0, i, m => return (i, m)
  | n + 1, i, m => do
    match ← takeSolid with
    | some 'I' => addressLetters n true m
    | some 'M' => addressLetters n i true
    | c =>
      giveBack c
      return (i, m)

/-- Reads an address that begins with a character, if one does. -/
def address (c : Option Char) : Reading (Option Address) := do
  let size := (← get).left.length + 1
  let pattern (mark : Char) : Reading (Option Address) := do
    match ← upTo mark true size [] with
    | none => wrong "unterminated address regex"
    | some cs =>
      let (i, m) ← addressLetters size false false
      return some (.matching (← patternOf cs i m))
  match c with
  | some '/' => pattern '/'
  | some '\x5c' =>
    match ← take with
    | some mark => pattern mark
    | none => wrong "unterminated address regex"
  | some '$' => return some .last
  | some c =>
    if ¬ c.isDigit then return none
    giveBack (some c)
    let n ← number
    match ← takeSolid with
    | some '~' =>
      skipWhile fun c => c == ' ' || c == '\t'
      let every ← number
      return some (if every = 0 then .line n else .step n every)
    | c =>
      giveBack c
      return some (.line n)
  | none => return none

/-- Reads where a range ends. -/
def rangeEnd : Reading (Option Until) := do
  match ← takeSolid with
  | some '+' => return some (.more (← number))
  | some '~' => return some (.multiple (← number))
  | c => return (← address c).map Until.address

/-- The text of a command with the escapes in it carried out. -/
def textOf : Nat → List Char → List Char
  | 0, _ => []
  | _, [] => []
  | n + 1, '\x5c' :: rest =>
    match charEscape rest with
    | some (c, after) => c :: textOf n after
    | none => match rest with
      | c :: after => c :: textOf n after
      | [] => []
  | n + 1, c :: rest => c :: textOf n rest

/-- The rest of a text, up to a line end that nothing quotes, and whether the text goes on in the next part. -/
def restOfText : Nat → List Char → Reading (List Char × Bool)
  | 0, read => return (read.reverse, false)
  | n + 1, read => do
    match ← take with
    | none => return (('\n' :: read).reverse, false)
    | some '\n' => return (('\n' :: read).reverse, false)
    | some '\x5c' =>
      match ← take with
      | none => return (('\n' :: read).reverse, true)
      | some c => restOfText n (c :: '\x5c' :: read)
    | some c => restOfText n (c :: read)

/-- Reads the text of a command; whether it goes on in the next part comes with it. -/
def text : Reading (String × Bool) := do
  let size := (← get).left.length + 1
  let finish : Reading (String × Bool) := do
    let (cs, goesOn) ← restOfText size []
    return (Text.Octets.ofCharacters (textOf (cs.length + 1) cs), goesOn)
  match ← takeSolid with
  | none => wrong "expected \\ after \x60a\x27, \x60c\x27 or \x60i\x27"
  | some '\x5c' =>
    let p ← get
    let after := p.left.dropWhile fun c => c == ' ' || c == '\t'
    match after with
    | [] =>
      set { p with left := [], count := p.count + p.left.length }
      return ("", true)
    | '\n' :: rest =>
      set { p with left := rest, count := p.count + p.left.length - rest.length, line := p.line + 1 }
      if rest = [] then return ("\n", true) else finish
    | _ => finish
  | c =>
    giveBack c
    finish

/-- Reads the name of a file, which is the rest of the line. -/
def path : Reading String := do
  skipWhile fun c => c == ' ' || c == '\t'
  let p ← get
  let cs := p.left.takeWhile (· != '\n')
  if cs = [] then wrong "missing filename in r/R/w/W commands"
  if p.sandbox then wrong "e/r/w commands disabled in sandbox mode"
  set { p with left := p.left.drop cs.length, count := p.count + cs.length }
  discard <| take
  return Text.Octets.ofCharacters cs

/-- Reads a label. -/
def labelName : Reading String := do
  skipWhile fun c => c == ' ' || c == '\t'
  let p ← get
  let cs := p.left.takeWhile fun c => !(c.isWhitespace || c == ';' || c == '\x7d')
  set { p with left := p.left.drop cs.length, count := p.count + cs.length }
  skipWhile fun c => c == ' ' || c == '\t'
  match (← get).left with
  | ';' :: _ | '\n' :: _ => discard <| take
  | _ => pure ()
  return String.ofList cs

/-- The parts of what takes the place of a match. -/
def piecesOf : Nat → List Char → List Piece
  | 0, _ => []
  | _, [] => []
  | n + 1, '&' :: rest => .group 0 :: piecesOf n rest
  | n + 1, '\x5c' :: rest =>
    match rest with
    | [] => [.text "\\"]
    | c :: after =>
      if c.isDigit then .group (c.toNat - 48) :: piecesOf n after
      else match c with
        | 'U' => .casing .upper :: piecesOf n after
        | 'L' => .casing .lower :: piecesOf n after
        | 'u' => .casing .upperFirst :: piecesOf n after
        | 'l' => .casing .lowerFirst :: piecesOf n after
        | 'E' => .casing .plain :: piecesOf n after
        | c => match charEscape (c :: after) with
          | some (d, after) => .text (Text.Octets.ofChar d) :: piecesOf n after
          | none => .text (Text.Octets.ofChar c) :: piecesOf n after
  | n + 1, c :: rest => .text (Text.Octets.ofChar c) :: piecesOf n rest

/-- Reads the letters after a replacement. -/
def letters : Nat → Replacement → Bool → Bool → Reading (Replacement × Bool × Bool)
  | 0, r, i, m => return (r, i, m)
  | n + 1, r, i, m => do
    match ← take with
    | none | some '\n' | some ';' => return (r, i, m)
    | some c =>
      match c with
      | ' ' | '\t' | '\r' => letters n r i m
      | 'i' | 'I' => letters n r true m
      | 'm' | 'M' => letters n r i true
      | 'e' =>
        if (← get).sandbox then wrong "e/r/w commands disabled in sandbox mode"
        letters n { r with runs := true } i m
      | 'p' =>
        if r.prints then wrong "multiple \x60p\x27 options to \x60s\x27 command"
        letters n { r with prints := true } i m
      | 'g' =>
        if r.all then wrong "multiple \x60g\x27 options to \x60s\x27 command"
        letters n { r with all := true } i m
      | 'w' =>
        let file ← path
        return ({ r with file := some file }, i, m)
      | c =>
        if c.isDigit then
          if r.number ≠ 0 then wrong "multiple number options to \x60s\x27 command"
          giveBack (some c)
          let k ← number
          if k = 0 then wrong "number option to \x60s\x27 command may not be zero"
          letters n { r with number := k } i m
        else if c = '#' ∨ c = '\x7d' then
          giveBack (some c)
          return (r, i, m)
        else wrong "unknown option to \x60s\x27"

/-- Reads a replacement. -/
def replacement : Reading Action := do
  let size := (← get).left.length + 1
  let unterminated {α : Type} : Reading α := wrong "unterminated \x60s\x27 command"
  let mark ← match ← take with
    | none | some '\n' | some '\x5c' => unterminated
    | some c => pure c
  let first ← match ← upTo mark true size [] with
    | none => unterminated
    | some cs => pure cs
  let second ← match ← upTo mark false size [] with
    | none => unterminated
    | some cs => pure cs
  let pieces := piecesOf (second.length + 1) second
  let (r, i, m) ← letters size ⟨none, pieces, false, 0, false, false, none⟩ false false
  let pattern ← patternOf first i m
  let most := pieces.foldl (fun n p => match p with
    | .group k => max n k
    | _ => n) 0
  match pattern with
  | some p =>
    if p.groups < most then wrong ("invalid reference \\" ++ toString most ++ " on \x60s\x27 command\x27s RHS")
  | none => pure ()
  return .replace { r with pattern, number := max r.number 1 }

/-- The characters of a row that is translated. -/
def rowOf (mark : Char) : Nat → List Char → List Char
  | 0, _ => []
  | _, [] => []
  | n + 1, '\x5c' :: rest =>
    match rest with
    | '\x5c' :: after => '\x5c' :: rowOf mark n after
    | '\n' :: after => '\n' :: rowOf mark n after
    | _ => match charEscape rest with
      | some (c, after) => c :: rowOf mark n after
      | none => '\x5c' :: rowOf mark n rest
  | n + 1, c :: rest => c :: rowOf mark n rest

/-- Reads a translation. -/
def translation : Reading Action := do
  let size := (← get).left.length + 1
  let unterminated {α : Type} : Reading α := wrong "unterminated \x60y\x27 command"
  let mark ← match ← take with
    | none | some '\n' | some '\x5c' => unterminated
    | some c => pure c
  let first ← match ← upTo mark false size [] with
    | none => unterminated
    | some cs => pure (rowOf mark (cs.length + 1) cs)
  let second ← match ← upTo mark false size [] with
    | none => unterminated
    | some cs => pure (rowOf mark (cs.length + 1) cs)
  if first.length ≠ second.length then wrong "strings for \x60y\x27 command are different lengths"
  endCommand
  return .translate first second

/-- Adds a command to the row. -/
def add (scope : Scope) (action : Action) : Reading Unit := modify fun p =>
  { p with commands := p.commands.push ⟨scope, action⟩ }

/-- Reads what a command does from its letter on. -/
def action (scope : Scope) (c : Char) : Reading Unit := do
  let plain (a : Action) : Reading Unit := do
    endCommand
    add scope a
  let single : Reading Unit := do if scope.stop.isSome then wrong "command only uses one address"
  let counted (f : Option Nat → Action) : Reading Unit := do
    let c ← takeSolid
    giveBack c
    let n ← if (c.map Char.isDigit).getD false then some <$> number else pure none
    endCommand
    add scope (f n)
  let written (f : String → Action) : Reading Unit := do
    let (s, goesOn) ← text
    add scope (f s)
    modify fun p => { p with open_ := goesOn }
  match c with
  | '\x7b' =>
    modify fun p => { p with opened := p.commands.size :: p.opened }
    add scope (.opening 0)
  | '\x7d' =>
    let p ← get
    match p.opened with
    | [] => wrong "unexpected \x60\x7d\x27"
    | i :: rest =>
      if scope.first.isSome then wrong "\x7d doesn\x27t want any addresses"
      endCommand
      modify fun q =>
        { q with opened := rest,
                 commands := (q.commands.modify i fun c => { c with action := .opening q.commands.size }).push ⟨scope, .closing⟩ }
  | ':' =>
    if scope.first.isSome then wrong ": doesn\x27t want any addresses"
    let name ← labelName
    if name = "" then wrong "\":\" lacks a label"
    add scope (.label name)
  | 'b' => add scope (.jump .always (← labelName))
  | 't' => add scope (.jump .ifReplaced (← labelName))
  | 'T' => add scope (.jump .unlessReplaced (← labelName))
  | 'a' => written .append
  | 'i' => written .insert
  | 'c' => written .change
  | '=' => plain .number
  | 'd' => plain .delete
  | 'D' => plain .deleteFirst
  | 'e' =>
    if (← get).sandbox then wrong "e/r/w commands disabled in sandbox mode"
    skipWhile fun c => c == ' ' || c == '\t'
    let p ← get
    let cs := p.left.takeWhile (· != '\n')
    set { p with left := p.left.drop (cs.length + 1), count := p.count + cs.length }
    add scope (.execute (Text.Octets.ofCharacters cs))
  | 'F' => plain .fileName
  | 'g' => plain .takeHeld
  | 'G' => plain .takeHeldAfter
  | 'h' => plain .hold
  | 'H' => plain .holdAfter
  | 'l' => counted .list
  | 'L' => counted .nothing
  | 'n' => plain .next
  | 'N' => plain .nextAfter
  | 'p' => plain .print
  | 'P' => plain .printFirst
  | 'q' =>
    single
    counted .quit
  | 'Q' =>
    single
    counted .quitAtOnce
  | 'r' => add scope (.readFile (← path))
  | 'R' => add scope (.readLine (← path))
  | 's' => add scope (← replacement)
  | 'v' =>
    let version ← labelName
    let parts := (version.splitOn ".").map fun s => s.toNat?.getD 0
    if 4 < parts.headD 0 ∨ (parts.headD 0 = 4 ∧ 9 < (parts.drop 1).headD 0) then wrong "expected newer version of sed"
  | 'w' => add scope (.writeFile (← path))
  | 'W' => add scope (.writeFirst (← path))
  | 'x' => plain .exchange
  | 'y' => add scope (← translation)
  | 'z' => plain .clear
  | c => wrong ("unknown command: \x60" ++ String.singleton c ++ "\x27")

/-- Reads the addresses of a command that begins with a character, and the character of what it does. -/
def scope (c : Char) : Reading (Scope × Option Char) := do
  if c = '+' ∨ c = '~' then
    discard <| number
    wrong "invalid usage of +N or ~N as first address"
  match ← address (some c) with
  | none => return (⟨none, none, false⟩, some c)
  | some a =>
    let (stop, c) ← match ← takeSolid with
      | some ',' =>
        match ← rangeEnd with
        | none => wrong "unexpected \x60,\x27"
        | some stop => do pure (some stop, ← takeSolid)
      | c => pure (none, c)
    match a, stop with
    | .line 0, some (.address (.matching _)) => pure ()
    | .line 0, _ => wrong "invalid usage of line address 0"
    | _, _ => pure ()
    return (⟨some a, stop, false⟩, c)

/-- Reads commands. -/
def commands : Nat → Reading Unit
  | 0 => pure ()
  | n + 1 => do
    skipWhile fun c => c.isWhitespace || c == ';'
    match ← take with
    | none => pure ()
    | some c =>
      let (found, c) ← scope c
      let (found, c) ← match c with
        | some '!' =>
          match ← takeSolid with
          | some '!' => wrong "multiple \x60!\x27s"
          | c => pure ({ found with negated := true }, c)
        | c => pure (found, c)
      match c with
      | none => wrong "missing command"
      | some '#' =>
        if found.first.isSome then wrong "comments don\x27t accept any addresses"
        let p ← get
        let line := p.left.takeWhile (· != '\n')
        if p.first ∧ p.count = 1 ∧ line = ['n'] then modify fun p => { p with quiet := true }
        skipWhile (· != '\n')
        commands n
      | some c =>
        action found c
        commands n

/-- Reads a part of a script; the text of the last command of the part before may go on. -/
def part (source : Source) (isFirst : Bool) : Reading Unit := do
  let s := match source with
    | .expression _ s | .file _ s => s
  let left := (← get).locale.characters s
  modify fun p => { p with left, count := 0, line := 1, source, first := isFirst }
  if (← get).open_ then
    let (cs, goesOn) ← restOfText (left.length + 1) []
    let more := Text.Octets.ofCharacters (textOf (cs.length + 1) cs)
    modify fun p =>
      { p with open_ := goesOn,
               commands := p.commands.modify (p.commands.size - 1) fun c => { c with action := match c.action with
                 | .append s => .append (s ++ more)
                 | .insert s => .insert (s ++ more)
                 | .change s => .change (s ++ more)
                 | a => a } }
  commands (left.length + 2)

/-- Reads a script: its commands, and whether lines are only written when that is asked for. -/
def ofSources (locale : Text.Locale) (extended sandbox : Bool) (sources : List Source) : Except String (Array Command × Bool) := do
  let start : Place :=
    { left := [], count := 0, line := 1, source := .expression 1 "", commands := #[], opened := [], open_ := false,
      extended, quiet := false, sandbox, first := true, locale }
  let whole : Reading Unit := do
    for (source, i) in sources.zipIdx do part source (i == 0)
    if (← get).opened ≠ [] then
      modify fun p => { p with count := 0 }
      wrong "unmatched \x60\x7b\x27"
  let (_, p) ← whole.run start
  return (p.commands, p.quiet)

/-- The places of labels. -/
def labels (commands : Array Command) : List (String × Nat) :=
  commands.toList.zipIdx.filterMap fun (c, i) => match c.action with
    | .label name => some (name, i)
    | _ => none

/-- The first label that is jumped to and not there. -/
def missingLabel (commands : Array Command) : Option String :=
  let known := labels commands
  commands.toList.findSome? fun c => match c.action with
    | .jump _ name => if name ≠ "" ∧ (known.find? fun (n, _) => n == name).isNone then some name else none
    | _ => none

end EditScript

end TaskRunner.Tools
