import TaskRunner.Regex.Reader
import TaskRunner.Tools.Options

/-!
# Numbers before lines

A text has pages of a header, a body and a footer, which lines of marks begin. In each of these parts some of the lines
are given a number, and the numbers start again with a part.
-/

namespace TaskRunner.Tools.Numbering

open Processes

/-- Which lines of a part have numbers. -/
inductive Style where
  | all
  /-- Those that are not empty. -/
  | filled
  | none
  | matching (r : Regex)

/-- How lines are numbered. -/
structure Manner where
  header : Style
  body : Style
  footer : Style
  /-- What begins a footer; twice a body, three times a header. -/
  mark : String
  first : Int
  step : Int
  /-- How many empty lines count as one, where all lines have numbers. -/
  joined : Nat
  restarts : Bool
  width : Nat
  format : String
  separator : String
  locale : Text.Locale

/-- Where the numbering is. -/
structure Place where
  style : Style
  next : Int
  /-- How many empty lines there were since the last number. -/
  empty : Nat

/-- The lines that an argument asks for, if it can be read. -/
def styleOf (locale : Text.Locale) (s : String) : Tool (Option Style) := do
  match s.toList with
  | 'a' :: _ => return some .all
  | 't' :: _ => return some .filled
  | 'n' :: _ => return some .none
  | 'p' :: _ =>
    match Regex.ofList ⟨false, false, false, false, true⟩ (locale.characters (s.drop 1).toString) with
    | .ok (r, _) => return some (.matching r)
    | .error fault => Tool.fail 1 fault.message
  | _ => return none

/-- The part that a line begins. -/
def partOf? (m : Manner) (line : String) : Option Style :=
  if m.mark.length < 2 then none
  else if line = m.mark ++ m.mark ++ m.mark then some m.header
  else if line = m.mark ++ m.mark then some m.body
  else if line = m.mark then some m.footer
  else none

/-- A number as it stands before a line. -/
def Manner.shown (m : Manner) (n : Int) : String :=
  let digits := toString n
  let text := match m.format with
    | "ln" => Numbers.left m.width digits
    | "rz" =>
      (if n < 0 then "-" else "") ++ String.ofList (List.replicate (m.width - digits.length) '0') ++ toString n.natAbs
    | _ => Numbers.right m.width digits
  text ++ m.separator

/-- Writes a line with what stands before it. -/
def write (m : Manner) (p : Place) (line : String) : Tool Place := do
  let bare (p : Place) : Tool Place := do
    Tool.emit (String.ofList (List.replicate (m.width + m.separator.length) ' '))
    return p
  let numbered (p : Place) : Tool Place := do
    if (Options.mostBytes : Int) < p.next ∨ p.next < -(Options.mostBytes + 1 : Int) then Tool.fail 1 "line number overflow"
    Tool.emit (m.shown p.next)
    return { p with next := p.next + m.step }
  let p ← match p.style with
    | .all =>
      if m.joined ≤ 1 then numbered p
      else if line ≠ "" ∨ p.empty + 1 = m.joined then numbered { p with empty := 0 }
      else bare { p with empty := p.empty + 1 }
    | .filled => if line ≠ "" then numbered p else bare p
    | .none => bare p
    | .matching r =>
      if (Regex.search r (Regex.Subject.ofList (m.locale.characters line) false) false 0).isSome then numbered p else bare p
  Tool.emit (line ++ "\n")
  return p

/-- Numbers the lines of files: the status. -/
def numberAll (m : Manner) : Place → List String → Tool Nat
  | _, [] => return 0
  | p, path :: rest => do
    match ← Tool.openInput path with
    | .error r =>
      Tool.say (Quoting.file path ++ ": " ++ r.message)
      return max 1 (← numberAll m p rest)
    | .ok d =>
      let passed ← Tool.eachLine d 10 false p fun p bytes _ => do
        let line := Text.Octets.ofBytes bytes
        match partOf? m line with
        | some style =>
          Tool.emit "\n"
          return .more { p with style, next := if m.restarts then m.first else p.next }
        | none => .more <$> write m p line
      Tool.closeInput d
      let status ← match passed.refused with
        | none => pure 0
        | some r => do
          Tool.say (Quoting.file path ++ ": " ++ r.message)
          pure 1
      return max status (← numberAll m passed.known rest)

/-- The styles of the parts, from the options in order, and whether all options can be used. -/
def readOptions (locale : Text.Locale) (m : Manner) : List (String × Option String) → Tool (Manner × Bool)
  | [] => return (m, true)
  | (key, value) :: rest => do
    let s := value.getD ""
    let wrong (message : String) : Tool (Manner × Bool) := do
      Tool.say (message ++ ": " ++ Quoting.local_ s)
      return (← readOptions locale m rest).map id fun _ => false
    let styled (part : String) (set : Style → Manner) : Tool (Manner × Bool) := do
      match ← styleOf locale s with
      | some style => readOptions locale (set style) rest
      | none => wrong ("invalid " ++ part ++ " numbering style")
    match key with
    | "h" => styled "header" fun header => { m with header }
    | "b" => styled "body" fun body => { m with body }
    | "f" => styled "footer" fun footer => { m with footer }
    | "v" => do
      let first ← Options.integer "invalid starting line number" none Options.mostBytes s
      readOptions locale { m with first } rest
    | "i" => do
      let step ← Options.integer "invalid line number increment" none Options.mostBytes s
      readOptions locale { m with step } rest
    | "l" => do
      let joined ← Options.integer "invalid line number of blank lines" (some 1) Options.mostBytes s
      readOptions locale { m with joined := joined.toNat } rest
    | "w" => do
      let width ← Options.integer "invalid line number field width" (some 1) 2147483647 s
      readOptions locale { m with width := width.toNat } rest
    | "n" =>
      if ["ln", "rn", "rz"].contains s then readOptions locale { m with format := s } rest
      else wrong "invalid line numbering format"
    | "s" => readOptions locale { m with separator := s } rest
    | "p" => readOptions locale { m with restarts := false } rest
    | _ =>
      let mark := if s.length = 1 then s ++ (m.mark.drop 1).toString else s
      readOptions locale { m with mark } rest

/-- Writes lines with their numbers. -/
def nl (args : List String) : Tool Nat := do
  let g ← Options.read
    { known := [taking "b" "body-numbering", taking "d" "section-delimiter", taking "f" "footer-numbering",
        taking "h" "header-numbering", taking "i" "line-increment", taking "l" "join-blank-lines", taking "n" "number-format",
        flag "p" "no-renumber", taking "s" "number-separator", taking "v" "starting-line-number",
        taking "w" "number-width"] } args
  let locale ← Tool.locale
  let usual : Manner :=
    { header := .none, body := .filled, footer := .none, mark := "\\:", first := 1, step := 1, joined := 1, restarts := true
      width := 6, format := "rn", separator := "\t", locale }
  let (m, good) ← readOptions locale usual g.options
  if ¬ good then
    Tool.hint
    return 1
  numberAll m ⟨m.body, m.first, 0⟩ (if g.operands = [] then ["-"] else g.operands)

end TaskRunner.Tools.Numbering
