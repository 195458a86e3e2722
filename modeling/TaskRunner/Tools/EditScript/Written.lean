import TaskRunner.Tools.EditScript

/-!
# How scripts that edit a stream are written out

Commands one to a line, those in braces set in, and texts with everything that is not plain written as an
escape.
-/

namespace TaskRunner.Tools.EditScript

/-- A byte of a text. -/
def shownChar (c : Char) : String :=
  match c with
  | '\x5c' => "\\\\"
  | '\n' => "\\n"
  | '\t' => "\\t"
  | '\r' => "\\r"
  | '\x07' => "\\a"
  | '\x0b' => "\\v"
  | '\x0c' => "\\f"
  | c =>
    if c.toNat < 32 ∨ c.toNat = 127 then
      let digits := String.ofList (Nat.toDigits 8 c.toNat)
      "\\o" ++ String.ofList (List.replicate (3 - digits.length) '0') ++ digits
    else if 127 < c.toNat then "\\o" ++ String.ofList (Nat.toDigits 8 (4294967040 + c.toNat))
    else String.singleton c

/-- A text. -/
def shown (s : String) : String := String.join (s.toList.map shownChar)

/-- A pattern between its marks; none is the one that was used last. -/
def Pattern.shown : Option Pattern → String
  | none => "//"
  | some p => "/" ++ String.join (p.source.toList.map fun c => if c = '/' then "\\/" else shownChar c) ++ "/"

/-- What the letters of a pattern ask for. -/
def Pattern.letters (p : Option Pattern) (ignores lines : String) : String :=
  match p with
  | none => ""
  | some p => (if p.ignoresCase then ignores else "") ++ (if p.hasLines then lines else "")

/-- An address. -/
def Address.shown : Address → String
  | .line n => toString n
  | .step first every => toString first ++ "~" ++ toString every
  | .last => "$"
  | .matching p => Pattern.shown p ++ Pattern.letters p "I" "M"

/-- The end of a range. -/
def Until.shown : Until → String
  | .address a => a.shown
  | .more n => "+" ++ toString n
  | .multiple n => "~" ++ toString n

/-- How letters are changed: all of them, and the first one besides. -/
structure Change where
  all : Option Casing := none
  first : Option Casing := none
  deriving DecidableEq

/-- What is written when letters begin to be changed in some way. -/
def Change.shown (c : Change) : String :=
  match c.first, c.all with
  | some .upperFirst, _ => "\\u"
  | some _, _ => "\\l"
  | none, some .upper => "\\U"
  | none, some _ => "\\L"
  | none, none => "\\E"

/-- What takes the place of a match: `now` is how letters are changed, `before` how they were changed in what has been
written, and `text` what is still to be written. -/
def shownPieces (now before : Change) (text : String) : List Piece → String
  | [] => if text = "" then "" else (if now = before then "" else now.shown) ++ text
  | .text s :: rest => shownPieces now before (text ++ s) rest
  | .group n :: rest =>
    (if now = before then "" else now.shown) ++ text ++ (if n = 0 then "&" else "\\" ++ toString n)
      ++ shownPieces { now with first := none } now "" rest
  | .casing c :: rest =>
    let next : Change := match c with
      | .upperFirst | .lowerFirst => { now with first := some c }
      | .plain => {}
      | c => ⟨some c, none⟩
    (if now = before then "" else now.shown) ++ text ++ shownPieces next now "" rest

/-- A replacement after its letter. -/
def Replacement.shown (r : Replacement) : String :=
  Pattern.shown r.pattern ++ shownPieces {} {} "" r.pieces ++ "/" ++ Pattern.letters r.pattern "i" "m"
    ++ (if r.all then "g" else "") ++ (if r.runs then "e" else "") ++ (if r.prints then "p" else "")
    ++ (if r.number ≤ 1 then "" else toString r.number) ++ (r.file.map ("w" ++ ·)).getD ""

/-- What a command does. -/
def Action.shown : Action → String
  | .nothing n => "L" ++ counted n
  | .opening _ => "\x7b"
  | .closing => "\x7d"
  | .label name => ":" ++ name
  | .jump j name =>
    (match j with
      | .always => "b"
      | .ifReplaced => "t"
      | .unlessReplaced => "T") ++ (if name = "" then "" else " " ++ name)
  | .number => "="
  | .append s => "a\\" ++ s
  | .insert s => "i\\" ++ s
  | .change s => "c\\" ++ s
  | .delete => "d"
  | .deleteFirst => "D"
  | .execute s => "e " ++ (if s = "" then "" else s ++ "\n")
  | .fileName => "F"
  | .takeHeld => "g"
  | .takeHeldAfter => "G"
  | .hold => "h"
  | .holdAfter => "H"
  | .list n => "l" ++ counted n
  | .next => "n"
  | .nextAfter => "N"
  | .print => "p"
  | .printFirst => "P"
  | .quit n => "q" ++ counted n
  | .quitAtOnce n => "Q" ++ counted n
  | .readFile path => "r " ++ path
  | .readLine path => "R " ++ path
  | .replace r => "s" ++ r.shown
  | .writeFile path => "w" ++ path
  | .writeFirst path => "W" ++ path
  | .exchange => "x"
  | .translate first second => "y/" ++ Text.Octets.ofCharacters first ++ "/" ++ Text.Octets.ofCharacters second ++ "/"
  | .clear => "z"
where
  /-- A number, if there is one. -/
  counted : Option Nat → String
    | some n => " " ++ toString n
    | none => ""

/-- The lines that a command is for. -/
def Scope.shown (s : Scope) : String :=
  ((s.first.map Address.shown).getD "") ++ ((s.stop.map fun e => "," ++ e.shown).getD "") ++ (if s.negated then "!" else "")
    ++ (if s.first.isSome then " " else "")

/-- How deep a command lies, and how deep the next one does. -/
def Command.depths (c : Command) (depth : Nat) : Nat × Nat :=
  match c.action with
  | .opening _ => (depth, depth + 1)
  | .closing => (depth - 1, depth - 1)
  | _ => (depth, depth)

/-- A command on a line of its own, and how deep the next one lies. -/
def Command.shown (c : Command) (depth : Nat) : String × Nat :=
  let (here, next) := c.depths depth
  (String.ofList (List.replicate (2 * here) ' ') ++ c.scope.shown ++ c.action.shown ++ "\n", next)

/-- A script. -/
def shownScript (commands : List Command) : String :=
  (commands.foldl (fun ((s : String), (depth : Nat)) c =>
    let (line, depth) := c.shown depth
    (s ++ line, depth)) ("SED PROGRAM:\n", 1)).1

end TaskRunner.Tools.EditScript
