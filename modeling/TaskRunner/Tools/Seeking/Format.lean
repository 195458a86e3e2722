import TaskRunner.Tools.Listing
import TaskRunner.Tools.Seeking.Query

/-!
# What is written about a file that was found

Formats with letters for what is known about a file, and the line that a list has for it.
-/

namespace TaskRunner.Tools.Seeking

open Processes

/-- A file that was found. -/
structure Visit where
  path : String
  /-- Where the search began. -/
  start : String
  depth : Nat
  location : Location
  info : FileSystem.Info
  /-- What is known about the link, if it was followed. -/
  own : FileSystem.Info
  /-- What a link leads to, or why it leads to nothing. -/
  beyond : Except Refusal FileSystem.Info

namespace Visit

/-- A path without the slashes at its end, unless it has nothing else. -/
def trimmed (path : String) : String :=
  let cs := (path.toList.reverse.dropWhile (· == '/')).reverse
  if cs = [] ∧ path ≠ "" then "/" else String.ofList cs

/-- The last name of a path. -/
def base (path : String) : String :=
  let s := trimmed path
  if s = "/" then s else String.ofList (s.toList.reverse.takeWhile (· != '/')).reverse

/-- The last name of the path. -/
def name (v : Visit) : String := base v.path

/-- What stands before the last slash of the path. -/
def around (v : Visit) : String :=
  match v.path.toList.reverse.dropWhile (· != '/') with
  | [] => "."
  | _ :: cs => String.ofList cs.reverse

/-- The path after where the search began. -/
def below (v : Visit) : String :=
  let s := (v.path.drop v.start.length).toString
  if s.startsWith "/" then (s.drop 1).toString else s

end Visit

/-- The letter of a kind. -/
def letterOf (i : FileSystem.Info) : Char :=
  match i.kind with
  | .directory => 'd'
  | .file => 'f'
  | .link _ => 'l'
  | .device _ => 'c'
  | .pipe => 'p'

/-- The letter of what a file leads to. -/
def Visit.letterBeyond (v : Visit) : Char :=
  match v.beyond with
  | .ok i => letterOf i
  | .error .tooManyLinks => 'L'
  | .error .noEntry | .error .notDirectory => 'N'
  | .error _ => '?'

/-! ## Formats -/

/-- The letters that stand for something. -/
def aboutLetters : List Char := "abcdDfFgGhHiklmMnpPsStuUyYZ%".toList

/-- Reads a number in a format. -/
def digitsOf (cs : List Char) : Option Nat × List Char :=
  let (ds, rest) := cs.span Char.isDigit
  (if ds = [] then none else some (Decimal.natOf 10 ds), rest)

/-- What a letter after a backslash stands for. -/
def escaped? : Char → Option Char
  | 'a' => some '\x07'
  | 'b' => some '\x08'
  | 'f' => some '\x0c'
  | 'n' => some '\n'
  | 'r' => some '\r'
  | 't' => some '\t'
  | 'v' => some '\x0b'
  | '\x5c' => some '\x5c'
  | _ => none

/-- Reads a format, telling what is strange in it. -/
def readFormat : Nat → List Char → Tool (List Piece)
  | 0, _ | _, [] => return []
  | n + 1, '\x5c' :: rest => do
    match rest with
    | [] =>
      Tool.say "warning: escape \x60\\' followed by nothing at all"
      return [.text "\\"]
    | 'c' :: _ => return [.stop]
    | c :: after =>
      let isOctal (c : Char) : Bool := '0' ≤ c && c ≤ '7'
      if isOctal c then
        let ds := (rest.take 3).takeWhile isOctal
        return .text (String.singleton (Char.ofNat (Decimal.natOf 8 ds % 256))) :: (← readFormat n (rest.drop ds.length))
      match escaped? c with
      | some e => return .text (String.singleton e) :: (← readFormat n after)
      | none =>
        Tool.say ("warning: unrecognized escape \x60\\" ++ String.singleton c ++ "'")
        return .text ("\\" ++ String.singleton c) :: (← readFormat n after)
  | n + 1, '%' :: rest => do
    let (flags, after) := rest.span fun c => "-+ #".toList.contains c
    let zero := after.head? == some '0'
    let (width, after) := digitsOf after
    let (precision, after) : Option Nat × List Char := match after with
      | '.' :: more => let (p, after) := digitsOf more; (some (p.getD 0), after)
      | after => (none, after)
    let l : Layout := ⟨if zero then '0' :: flags else flags, width.getD 0, precision⟩
    match after with
    | [] => Tool.fail 1 ("error: %" ++ String.ofList rest ++ " at end of format string")
    | '%' :: after => return .text "%" :: (← readFormat n after)
    | c :: after =>
      if aboutLetters.contains c then return .about l c :: (← readFormat n after)
      match ["A", "B", "C", "T"].contains (String.singleton c), after with
      | true, k :: after => return .time l (c == 'A') k :: (← readFormat n after)
      | true, [] => return [.text ("%" ++ String.ofList rest)]
      | false, after =>
        if "\x7b[(".toList.contains c then
          Tool.fail 1 ("error: the format directive \x60%" ++ String.singleton c ++ "' is reserved for future use")
        Tool.say ("warning: unrecognized format directive \x60%" ++ String.singleton c ++ "'")
        let skipped := rest.take (rest.length - after.length)
        return .text ("%" ++ String.ofList skipped) :: (← readFormat n after)
  | n + 1, c :: rest => return .text (String.singleton c) :: (← readFormat n rest)

/-- Billionths of a second as digits, after a point. -/
def fraction (nanos : Nat) : String :=
  let s := toString nanos
  "." ++ String.ofList (List.replicate (9 - s.length) '0') ++ s ++ "0"

/-- A time as a letter says. -/
def timeText (p : Calendar.Parts) (letter : Char) : String :=
  match letter with
  | '@' => toString p.seconds ++ fraction p.nanos
  | 'S' => Calendar.written p "%S" ++ fraction p.nanos
  | 'T' | 'X' => Calendar.written p "%H:%M:%S" ++ fraction p.nanos
  | '+' => Calendar.written p "%Y-%m-%d+%H:%M:%S" ++ fraction p.nanos
  | c => Calendar.written p ("%" ++ String.singleton c)

/-- A time at length. -/
def fullTime (p : Calendar.Parts) : String :=
  Calendar.written p "%a %b %e %H:%M:%S" ++ fraction p.nanos ++ Calendar.written p " %Y"

/-- When a file was changed, or used. -/
def partsOf (zone : Calendar.Zone) (used : Bool) (i : FileSystem.Info) : Calendar.Parts :=
  let instant := i.time used
  Calendar.partsOf zone (instant / Dates.perSecond : Nat) (instant % Dates.perSecond)

/-- What a letter stands for; whether it is a number. -/
def aboutText (zone : Calendar.Zone) (v : Visit) (l : Layout) (letter : Char) : String × Bool :=
  let i := v.info
  match letter with
  | 'a' | 'c' | 't' => (fullTime (partsOf zone (letter == 'a') i), false)
  | 'b' => (toString (Listing.blocksOf i), false)
  | 'd' => (toString v.depth, true)
  | 'D' => ("65024", false)
  | 'f' =>
    let name := v.name
    (if v.path.endsWith "/" ∧ name ≠ "/" then name ++ "/" else name, false)
  | 'F' => ("overlay", false)
  | 'g' | 'u' => ("root", false)
  | 'G' | 'U' => ("0", false)
  | 'h' => (v.around, false)
  | 'H' => (v.start, false)
  | 'i' => (toString i.serial, false)
  | 'k' => (toString ((Listing.blocksOf i + 1) / 2), false)
  | 'l' => (match i.kind with
    | .link target => Text.Octets.ofName target
    | _ => "", false)
  | 'm' => (if l.flags.contains '#' then Modes.octal 1 i.mode |> fun s => if s = "0" then s else "0" ++ s
      else Modes.octal 1 i.mode, true)
  | 'M' => (Listing.kindLetter i ++ Modes.letters i.mode, false)
  | 'n' => (toString i.names, false)
  | 'p' => (v.path, false)
  | 'P' => (v.below, false)
  | 's' => (toString i.size, false)
  | 'S' => ("1", false)
  | 'y' => (String.singleton (letterOf i), false)
  | 'Y' => (String.singleton v.letterBeyond, false)
  | _ => ("", false)

/-- A text in its place. -/
def Layout.placed (l : Layout) (isNumber : Bool) (s : String) : String :=
  let s := match l.precision with
    | some p => if isNumber then String.ofList (List.replicate (p - s.length) '0') ++ s else (s.take p).toString
    | none => s
  let s := if isNumber ∧ l.flags.contains '+' then "+" ++ s else if isNumber ∧ l.flags.contains ' ' then " " ++ s else s
  if l.flags.contains '-' then Numbers.left l.width s
  else if isNumber ∧ l.flags.contains '0' ∧ l.precision.isNone then
    String.ofList (List.replicate (l.width - s.length) '0') ++ s
  else Numbers.right l.width s

/-- What a format says about a file. -/
def written (zone : Calendar.Zone) (v : Visit) : List Piece → String
  | [] | .stop :: _ => ""
  | .text s :: rest => s ++ written zone v rest
  | .about l letter :: rest =>
    let (s, isNumber) := aboutText zone v l letter
    l.placed isNumber s ++ written zone v rest
  | .time l used letter :: rest => l.placed false (timeText (partsOf zone used v.info) letter) ++ written zone v rest

/-! ## Lines of a list -/

/-- A name with escapes for what cannot stand in a line. -/
def listedName (s : String) : String :=
  String.join <| s.toList.map fun c => match c with
    | '\x5c' => "\\\\"
    | '\n' => "\\n"
    | '\x08' => "\\b"
    | '\r' => "\\r"
    | '\t' => "\\t"
    | '\x0c' => "\\f"
    | ' ' => "\\ "
    | '"' => "\\\""
    | c => if ' ' < c ∧ c < '\x7f' then String.singleton c else "\\" ++ Modes.octal 3 c.toNat

/-- The line of a list. -/
def listed (zone : Calendar.Zone) (now : Nat) (v : Visit) : String :=
  let i := v.info
  let half := 31556952 / 2 * Dates.perSecond
  let recent : Bool := now < i.modified + half && i.modified ≤ now
  let time := Calendar.written (partsOf zone false i) (if recent then "%b %e %H:%M" else "%b %e  %Y")
  let size := match i.kind with
    | .device d => Numbers.right 3 (toString (Listing.deviceNumbers d).1) ++ ", " ++
      Numbers.right 3 (toString (Listing.deviceNumbers d).2)
    | _ => Numbers.right 8 (toString i.size)
  let after := match i.kind with
    | .link target => " -> " ++ listedName (Text.Octets.ofName target)
    | _ => ""
  Numbers.right 9 (toString i.serial) ++ " " ++ Numbers.right 6 (toString ((Listing.blocksOf i + 1) / 2)) ++ " "
    ++ Listing.kindLetter i ++ Modes.letters i.mode ++ " " ++ Numbers.right 3 (toString i.names) ++ " root     root     "
    ++ size ++ " " ++ time ++ " " ++ listedName v.path ++ after ++ "\n"

end TaskRunner.Tools.Seeking
