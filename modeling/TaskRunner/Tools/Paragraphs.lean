import TaskRunner.Tools.Options

/-!
# Paragraphs

The words of a paragraph are set in lines so that the lines cost least: what they fall short of a goal, what they differ
from each other in length, and where they break a sentence. A paragraph goes on as long as its lines are indented alike.
Lines without the mark that is asked for, and empty ones, stay as they are.
-/

namespace TaskRunner.Tools.Paragraphs

open Processes

/-- How paragraphs are set. -/
structure Manner where
  /-- Whether the second line tells how all but the first one are indented. -/
  crown : Bool
  /-- Whether it has to be indented otherwise than the first one. -/
  tagged : Bool
  /-- Whether lines are only broken, never joined. -/
  split : Bool
  /-- Whether words are one blank apart, and sentences two. -/
  uniform : Bool
  /-- The mark before every line, without the blanks around it. -/
  mark : List Char
  /-- How many blanks come before the mark, at least. -/
  lead : Nat
  /-- How long the mark is with the blanks after it. -/
  reach : Nat
  width : Nat
  goal : Nat

/-- A word of a paragraph. -/
structure Word where
  text : List Char
  /-- How many blanks follow. -/
  space : Nat
  /-- Whether the word may end a sentence. -/
  period : Bool
  /-- Whether it does. -/
  final : Bool

namespace Word

/-- How long a word is. -/
def length (w : Word) : Nat := w.text.length

/-- Whether a word begins with an opening sign. -/
def isOpening (w : Word) : Bool := (w.text.head?).any ['(', '[', '\x60', '\x27', '\x22', '\x00'].contains

/-- Whether a word ends with a sign. -/
def isPunctuated (w : Word) : Bool := (w.text.getLast?).any fun c => '!' ≤ c && c ≤ '~' && !c.isAlphanum

/-- Whether the letters of a word end with the end of a sentence, signs that close something after it aside. -/
def endsSentence (text : List Char) : Bool :=
  let closing (c : Char) : Bool := [')', ']', '\x27', '\x22', '\x00'].contains c
  let left := text.reverse.dropWhile closing
  let last := match left with
    | [] => text.head?
    | c :: _ => some c
  last.any ['.', '?', '!', '\x00'].contains

end Word

/-! ## What lines cost -/

/-- What a line costs that is so much shorter or longer than the goal. -/
def shortCost (n : Int) : Int := (n * 10) * (n * 10)

/-- What two lines cost that differ so much. -/
def raggedCost (n : Int) : Int := shortCost n / 2

/-- What a line costs that begins with a word, given the words. -/
def baseCost (words : Array Word) (k : Nat) : Int :=
  let before (n : Nat) : Option Word := if n ≤ k then words[k - n]? else none
  let break_ : Int := match before 1 with
    | none => 0
    | some w =>
      if k = 0 then 0
      else if w.period then (if w.final then -2500 else 360000)
      else if w.isPunctuated then -1600
      else if 1 < k ∧ (before 2).any Word.final then 40000 / (w.length + 2)
      else 0
  let own : Int := match words[k]? with
    | none => 0
    | some w => if w.isOpening then -1600 else if w.final then 22500 / (w.length + 2) else 0
  4900 + break_ + own

/-- The best line that begins with a word: what it and all after it cost, the word the next one begins with, and how long
it is. -/
structure Line where
  cost : Int
  next : Nat
  length : Nat

/-- The best of the lines that begin with a word, if it is so long by now and the next word is the one given; `lines` are
the best ones that begin with later words. -/
def bestLine (m : Manner) (words : Array Word) (lines : Array Line) (former : Option Nat) :
    Nat → Nat → Nat → Option Line → Option Line
  | 0, _, _, best => best
  | n + 1, next, length, best =>
    let after : Line := (lines[next]?).getD ⟨0, 0, 0⟩
    let line : Int :=
      if next = words.size then 0
      else shortCost ((m.goal : Int) - length) + (if after.next = words.size then 0 else raggedCost ((length : Int) - after.length))
    let cost := line + after.cost + (match former with
      | some l => raggedCost ((length : Int) - l)
      | none => 0)
    let best := if best.all (cost < ·.cost) then some ⟨cost, next, length⟩ else best
    if next = words.size then best
    else
      let length := length + ((words[next - 1]?).map Word.space).getD 0 + ((words[next]?).map Word.length).getD 0
      if length < m.width then bestLine m words lines former n (next + 1) length best else best

/-- The best lines by the words that they begin with. `former` is how long the last line before was, if there was one. -/
def bestLines (m : Manner) (first other : Nat) (former : Nat) (words : Array Word) : Array Line :=
  let n := words.size
  (List.range n).foldl (fun lines i =>
    let k := n - 1 - i
    let length := (if k = 0 then first else other) + ((words[k]?).map Word.length).getD 0
    match bestLine m words lines (if k = 0 ∧ former ≠ 0 then some former else none) (n + 1) (k + 1) length none with
    | some l => lines.setIfInBounds k { l with cost := l.cost + baseCost words k }
    | none => lines) (Array.replicate (n + 1) ⟨0, n, 0⟩)

/-! ## Reading and writing -/

/-- How far a text has been set. -/
structure Setting where
  /-- What is still to be read. -/
  rest : List Char
  /-- Whether there are tabs in the text. -/
  tabs : Bool := false
  /-- The column that has been read up to. -/
  column : Nat := 0
  /-- How the mark of the line is indented. -/
  markIndent : Nat := 0
  /-- How the marks of the paragraph are indented. -/
  indent : Nat := 0
  /-- How the first line and the other ones of the paragraph are indented. -/
  first : Nat := 0
  other : Nat := 0
  /-- The words of the paragraph. -/
  words : Array Word := #[]
  /-- How many characters they have. -/
  held : Nat := 0
  /-- How long the last line was that was written. -/
  former : Nat := 0
  /-- The column that has been written up to. -/
  place : Nat := 0
  out : ByteArray := ByteArray.empty

/-- What sets a text. -/
abbrev Typesetting := StateM Setting

/-- The greatest number of words and of characters that are held. -/
def mostWords : Nat := 998

/-- The greatest number of characters that are held. -/
def mostHeld : Nat := 5000

/-- The next column where a tab leads to. -/
def tabStop (column : Nat) : Nat := (column / 8 + 1) * 8

/-- Writes characters. -/
def put (cs : List Char) : Typesetting Unit :=
  modify fun s => { s with out := cs.foldl (fun out c => out.push c.toNat.toUInt8) s.out }

/-- Writes blanks up to a column, as tabs where the text has some. -/
def putBlanks (target : Nat) : Typesetting Unit := modify fun s =>
  let tabbed := target / 8 * 8
  let usesTabs := s.tabs && s.place + 1 < tabbed
  let count := if usesTabs then tabbed / 8 - s.place / 8 else 0
  let from_ := if usesTabs then tabbed else s.place
  let out := (List.replicate count (9 : UInt8)).foldl ByteArray.push s.out
  { s with out := (List.replicate (target - from_) (32 : UInt8)).foldl ByteArray.push out, place := max from_ target }

/-- Passes over blanks. -/
def passBlanks : Typesetting Unit := do
  let s ← get
  let (blanks, rest) := s.rest.span fun c => c == ' ' || c == '\t'
  let column := blanks.foldl (fun column c => if c = '\t' then tabStop column else column + 1) s.column
  set { s with rest, column, tabs := s.tabs || blanks.contains '\t' }

/-- Passes over the mark of a line, as far as it is there. -/
def passMark (m : Manner) : Typesetting Unit := do
  modify fun s => { s with column := 0 }
  passBlanks
  if m.mark = [] then modify fun s => { s with markIndent := min m.lead s.column }
  else
    modify fun s => { s with markIndent := s.column }
    let rec pass : List Char → Typesetting Bool
      | [] => return true
      | c :: cs => do
        let s ← get
        match s.rest with
        | d :: rest =>
          if d ≠ c then return false
          set { s with rest, column := s.column + 1 }
          pass cs
        | [] => return false
    if ← pass m.mark then passBlanks

/-- Whether there is nothing more on the line. -/
def atEnd (s : Setting) : Bool := match s.rest with
  | [] | '\n' :: _ => true
  | _ => false

/-- Whether the line belongs to the paragraph. -/
def continues (m : Manner) (s : Setting) : Bool := s.markIndent == s.indent && s.markIndent + m.reach ≤ s.column && !atEnd s

/-- Settles how the lines but the first one are indented, told whether a second line was read. -/
def settle (m : Manner) (hasSecond : Bool) : Typesetting Unit := modify fun s =>
  let other :=
    if m.split then s.first
    else if m.crown then (if hasSecond then s.column else s.first)
    else if m.tagged then
      if hasSecond ∧ s.column ≠ s.first then s.column
      else if s.other = s.first then (if s.first = 0 then 3 else 0)
      else s.other
    else s.first
  { s with other }

/-- Writes the line of some words. -/
def putLine (m : Manner) (indent : Nat) (words : List Word) : Typesetting Unit := do
  modify fun s => { s with place := 0 }
  putBlanks (← get).indent
  put m.mark
  modify fun s => { s with place := s.place + m.mark.length }
  putBlanks indent
  let rec all : List Word → Typesetting Unit
    | [] => return
    | w :: rest => do
      put w.text
      modify fun s => { s with place := s.place + w.length }
      if rest ≠ [] then putBlanks ((← get).place + w.space)
      all rest
  all words
  modify fun s => { s with former := s.place }
  put ['\n']

/-- Writes the lines of words up to one of them, beginning with another. -/
def putLines (m : Manner) (words : Array Word) (lines : Array Line) (stop : Nat) : Nat → Nat → Typesetting Unit
  | 0, _ => return
  | n + 1, k => do
    if stop ≤ k then return
    let next := ((lines[k]?).map Line.next).getD stop
    let s ← get
    putLine m (if k = 0 then s.first else s.other) (words.extract k next).toList
    putLines m words lines stop n next

/-- Writes the whole paragraph. -/
def finish (m : Manner) : Typesetting Unit := do
  let s ← get
  let lines := bestLines m s.first s.other s.former s.words
  putLines m s.words lines s.words.size (s.words.size + 1) 0

/-- Where a paragraph that is not complete is best broken: the word that is left first. -/
def breakIn (lines : Array Line) (limit : Nat) : Nat → Nat → Nat → Option Int → Nat
  | 0, _, found, _ => found
  | n + 1, k, found, best =>
    if limit ≤ k then found
    else
      let line : Line := (lines[k]?).getD ⟨0, limit, 0⟩
      let cost := line.cost - ((lines[line.next]?).map Line.cost).getD 0
      let (found, best) := if best.all (cost < ·) then (k, some cost) else (found, best)
      breakIn lines limit n line.next found (best.map (· + 9))

/-- Writes the first lines of what is held and keeps the other ones; the characters given are those of a word that has been
begun. Those that are left of it are given back. -/
def flush (m : Manner) (begun : List Char) : Typesetting (List Char) := do
  let s ← get
  if s.words.isEmpty then
    put begun
    set { ← get with held := 0 }
    return []
  let n := s.words.size
  let lines := bestLines m s.first s.other s.former s.words
  let stop := breakIn lines n (n + 1) (((lines[0]?).map Line.next).getD n) n none
  putLines m s.words lines stop (n + 1) 0
  modify fun s =>
    let words := s.words.extract stop n
    { s with words, held := words.foldl (fun k w => k + w.length) begun.length }
  return begun

/-- Reads the letters of a word, of which some have been read, the last first. -/
def readWord (m : Manner) : List Char → List Char → Nat → Typesetting (List Char × Nat)
  | [], text, length => do
    modify fun s => { s with rest := [] }
    return (text, length)
  | c :: rest, text, length => do
    if length ≠ 0 ∧ (c = ' ' ∨ ('\t' ≤ c ∧ c ≤ '\r')) then
      modify fun s => { s with rest := c :: rest }
      return (text, length)
    let (text, length) ← if (← get).held = mostHeld then
        settle m true
        let text ← flush m text.reverse
        pure (text.reverse, text.length)
      else pure (text, length)
    modify fun s => { s with held := s.held + 1 }
    readWord m rest (c :: text) (length + 1)

/-- Reads the words of a line and the mark of the next one. -/
def readLine (m : Manner) : Nat → Typesetting Unit
  | 0 => return
  | n + 1 => do
    let (text, length) ← readWord m (← get).rest [] 0
    modify fun s => { s with column := s.column + length }
    let start := (← get).column
    passBlanks
    let s ← get
    let text := text.reverse
    let period := Word.endsSentence text
    let space := s.column - start
    let ends := atEnd s
    let final := s.rest.isEmpty || (period && (ends || 1 < space))
    let space := if ends || m.uniform then (if final then 2 else 1) else space
    if s.words.size = mostWords then
      settle m true
      discard <| flush m text
    modify fun s => { s with words := s.words.push ⟨text, space, period, final⟩ }
    if ends then
      modify fun s => { s with rest := s.rest.drop 1 }
      passMark m
    else readLine m n

/-- Reads lines as long as a test holds. -/
def readLines (m : Manner) (test : Setting → Bool) : Nat → Typesetting Unit
  | 0 => return
  | n + 1 => do
    let s ← get
    if test s then
      readLine m (s.rest.length + 1)
      readLines m test n

/-- Copies what is left of a line that is in no paragraph. -/
def copyLine (m : Manner) : Typesetting Unit := do
  modify fun s => { s with place := 0 }
  let s ← get
  let ended := s.rest.isEmpty
  if s.markIndent < s.column ∨ ¬ atEnd s then
    putBlanks s.markIndent
    let start := (← get).place
    let shown := m.mark.take (s.column - start)
    put shown
    modify fun s => { s with place := s.place + shown.length }
    if ¬ atEnd s then putBlanks s.column
    if ended ∧ s.markIndent + m.mark.length ≤ s.column then put ['\n']
  let (line, rest) := s.rest.span (· != '\n')
  put line
  modify fun s => { s with rest }

/-- Sets paragraphs until there is nothing left. -/
def setAll (m : Manner) : Nat → Typesetting Unit
  | 0 => return
  | n + 1 => do
    let s ← get
    if atEnd s ∨ s.markIndent < m.lead ∨ s.column < s.markIndent + m.reach then
      copyLine m
      let s ← get
      if s.rest.isEmpty then return
      put ['\n']
      modify fun s => { s with rest := s.rest.drop 1, former := 0 }
      passMark m
      setAll m n
    else
      set { s with indent := s.markIndent, first := s.column, words := #[], held := 0, former := 0 }
      readLine m (s.rest.length + 1)
      settle m (continues m (← get))
      let s ← get
      let same (s : Setting) : Bool := continues m s && s.column == s.other
      let goesOn : Bool := !m.split && (!(m.crown || m.tagged) || (continues m s && (m.crown || s.column != s.first)))
      if goesOn then
        if m.crown ∨ m.tagged then readLine m (s.rest.length + 1)
        readLines m same (s.rest.length + 1)
      modify fun s => { s with words := s.words.modify (s.words.size - 1) fun w => { w with period := true, final := true } }
      finish m
      setAll m n

/-- A text in paragraphs. -/
def ofText (m : Manner) (cs : List Char) : ByteArray :=
  (((do passMark m; setAll m (cs.length + 2) : Typesetting Unit).run { rest := cs }).2).out

/-! ## The program -/

/-- The greatest width that can be asked for. -/
def mostWidth : Nat := 2500

/-- Sets texts in paragraphs. -/
def fmt (args : List String) : Tool Nat := do
  let isDigit (c : Char) : Bool := c.isDigit
  let (old, args) : Option String × List String := match args with
    | arg :: rest => match arg.toList with
      | '-' :: c :: cs => if c.isDigit then (some (String.ofList (c :: cs)), rest) else (none, args)
      | _ => (none, args)
    | [] => (none, args)
  let g ← Options.read
    { known := [flag "c" "crown-margin", taking "g" "goal", taking "p" "prefix", flag "s" "split-only",
        flag "t" "tagged-paragraph", flag "u" "uniform-spacing", taking "w" "width"]
        ++ (List.range 10).map fun n => flag (toString n) } args
  if let some (d, _) := g.options.find? fun (k, _) => k.length == 1 && k.toList.all isDigit then
    Tool.misuse 1 ("invalid option -- " ++ d ++ "; -WIDTH is recognized only when it is the first\noption; use -w N instead")
  let width ← match g.last? "w", old with
    | some s, _ | none, some s => some <$> Options.amount "invalid width" 0 mostWidth false s
    | none, none => pure none
  let goal ← (g.last? "g").mapM (Options.amount "invalid width" 0 (width.getD 75) false)
  let width := width.getD ((goal.map (· + 10)).getD 75)
  let mark := (g.last? "p").getD ""
  let (lead, mark) := mark.toList.span (· == ' ')
  let bare := (mark.reverse.dropWhile (· == ' ')).reverse
  let m : Manner :=
    { crown := g.has "c", tagged := g.has "t", split := g.has "s", uniform := g.has "u", mark := bare, lead := lead.length
      reach := mark.length, width, goal := goal.getD (width * 187 / 200) }
  Tool.worst (fun path => do
    match ← Tool.openInput path with
    | .error r =>
      Tool.say ("cannot open " ++ Quoting.always path ++ " for reading: " ++ r.message)
      return 1
    | .ok d =>
      let found ← Proc.readAll d
      Tool.closeInput d
      match found with
      | .error _ =>
        Tool.say "read error"
        return 1
      | .ok bytes =>
        Tool.emitBytes (ofText m (Text.Octets.ofBytes bytes).toList)
        return 0) (if g.operands = [] then ["-"] else g.operands)

end TaskRunner.Tools.Paragraphs
