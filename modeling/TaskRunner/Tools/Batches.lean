import TaskRunner.Tools.Running

/-!
# Arguments from the input

Words are read from the input and given to a program as arguments, as many at a time as are wanted or fit, or
every line is put where a mark stands in the arguments.
-/

namespace TaskRunner.Tools.Batches

open Processes

/-! ## Words of the input -/

/-- What is read up to where a batch may end: words, and how many lines they count for. -/
structure Portion where
  words : List String
  lines : Nat

/-- How words are read. -/
structure Reading where
  /-- The word that is taken for the end. -/
  stop : Option String
  /-- Whether a line is one word. -/
  whole : Bool
  /-- How long a word can be. -/
  most : Nat

/-- Where reading is: the words of the portion, the last first, the word that is being read, its last character first,
and the quotation mark that is open. -/
structure Place where
  words : List String
  word : Option (List Char)
  mark : Option Char

/-- Where a portion begins. -/
def Place.start : Place := ⟨[], none, none⟩

/-- A word that has been read. -/
def Place.text (p : Place) : String := String.ofList (p.word.getD []).reverse

/-- Another character of a word. -/
def Place.push (p : Place) (c : Char) : Place := { p with word := some (c :: p.word.getD []) }

/-- Blanks between words on a line. -/
def isBlank (c : Char) : Bool := c == ' ' || c == '\t'

/-- Reads words that blanks and the ends of lines separate: the portions, the last first, and what is wrong. -/
def readWords (r : Reading) : Nat → Char → Place → List Portion → List Char → List Portion × Option String
  | 0, _, _, read, _ => (read, none)
  | n + 1, before, p, read, cs =>
    let isStop (s : String) : Bool := r.stop == some s
    let ended (p : Place) (lines : Nat) : List Portion :=
      if p.words = [] ∧ lines = 0 then read else ⟨p.words.reverse, lines⟩ :: read
    let unmatched (c : Char) : List Portion × Option String :=
      let kind := if c = '"' then "double" else "single"
      (ended { p with word := none } 0,
        some ("unmatched " ++ kind ++ " quote; by default quotes are special to xargs unless you use the -0 option"))
    match cs with
    | [] =>
      match p.mark with
      | some c => unmatched c
      | none =>
        if p.word.getD [] = [] ∨ isStop p.text then (ended p 0, none)
        else (ended { p with words := p.text :: p.words } 0, none)
    | c :: cs =>
      let longer (p : Place) : List Portion × Option String :=
        if r.most < (p.word.getD []).length then (ended { p with word := none } 0, some "argument line too long")
        else readWords r n c p read cs
      match p.mark with
      | some m =>
        if c = '\n' then unmatched m
        else if c = m then readWords r n c { p with mark := none } read cs
        else longer (p.push c)
      | none =>
        if p.word.isNone ∧ (c = ' ' ∨ ('\t' ≤ c ∧ c ≤ '\r')) then readWords r n c p read cs
        else if c = '\n' then
          if isStop p.text then (ended p 0, none)
          else
            let lines := if isBlank before then 0 else 1
            readWords r n c Place.start (ended { p with words := p.text :: p.words } lines) cs
        else if ¬ r.whole ∧ isBlank c then
          if isStop p.text then (ended p 0, none)
          else readWords r n c { p with words := p.text :: p.words, word := none } read cs
        else if c = '\x5c' then
          match cs with
          | [] => readWords r n c { p with word := some (p.word.getD []) } read []
          | e :: rest =>
            let p := p.push e
            if r.most < (p.word.getD []).length then (ended { p with word := none } 0, some "argument line too long")
            else readWords r n e p read rest
        else if c = '"' ∨ c = '\x27' then readWords r n c { p with word := some (p.word.getD []), mark := some c } read cs
        else longer (p.push c)

/-- Reads what stands before every mark as it is. -/
def readItems (mark : Char) (most : Nat) (content : String) : List Portion × Option String :=
  let pieces := content.splitOn (String.singleton mark)
  let pieces := if pieces.getLast? = some "" then pieces.dropLast else pieces
  let fitting := pieces.takeWhile fun s => s.length ≤ most
  (fitting.map fun s => ⟨[s], 1⟩, if fitting.length < pieces.length then some "argument line too long" else none)

/-- The character that separates items. -/
def markOf (s : String) : Tool Char := do
  let wrong : Tool Char := Tool.fail 1 ("Invalid input delimiter specification " ++ s
    ++ ": the delimiter must be either a single character or an escape sequence starting with \\.")
  match s.toList with
  | [c] => return c
  | '\x5c' :: c :: rest =>
    match "abfnrtv\\".toList.idxOf? c, rest with
    | some i, [] => return ['\x07', '\x08', '\x0c', '\n', '\r', '\t', '\x0b', '\x5c'][i]?.getD c
    | _, _ =>
      let isOctal (c : Char) : Bool := '0' ≤ c && c ≤ '7'
      if c = 'x' ∧ rest ≠ [] ∧ rest.all Decimal.isHexDigit then return Char.ofNat (Decimal.natOf 16 rest % 256)
      else if (c :: rest).all isOctal then return Char.ofNat (Decimal.natOf 8 (c :: rest) % 256)
      else Tool.fail 1 ("Invalid escape sequence " ++ s ++ " in input delimiter specification.")
  | _ => wrong

/-! ## Running in batches -/

/-- How a program is run. -/
structure Manner where
  command : List String
  mostWords : Option Nat
  mostLines : Option Nat
  mostBytes : Nat
  /-- The mark in the arguments that stands for a line. -/
  mark : Option String
  /-- Whether not all words fitting is an error. -/
  strict : Bool
  /-- Whether every command is written before it is run. -/
  shown : Bool
  /-- Whether the program has the input. -/
  sharesInput : Bool
  /-- A variable for the number of the place that a program has among those that run at once. -/
  slot : Option String

/-- How many bytes words take. -/
def sizeOf (words : List String) : Nat := words.foldl (fun n s => n + s.length + 1) 0

/-- Runs a program: the status so far. -/
def Manner.run (m : Manner) (status : Nat) (words : List String) : Tool Nat := do
  let command := m.command ++ words
  let name := command.headD ""
  if m.shown then Tool.note (" ".intercalate (command.map Quoting.ifNeeded) ++ "\n")
  let environment := (← get).environment
  let environment := match m.slot with
    | some name => Running.assign environment name "0"
    | none => environment
  match ← Running.imageOf environment name (command.drop 1) with
  | .error r => Tool.fail (Running.statusOf r) (name ++ ": " ++ r.message)
  | .ok image =>
    let wiring : Tool Unit := do
      if ¬ m.sharesInput then discard <| Proc.openAs 0 Kernel.OpenMode.input "/dev/null"
    let child ← Running.begin wiring image
    match ← Proc.reap child with
    | .killed signal => Tool.fail 125 (name ++ ": terminated by signal " ++ toString signal)
    | .exited 255 => Tool.fail 124 (name ++ ": exited with status 255; aborting")
    | .exited n => return if n % 256 = 0 then status else 123

/-- What waits for being run. -/
structure Waiting where
  words : List String
  lines : Nat
  status : Nat
  /-- Whether a program has been run. -/
  ran : Bool

/-- Runs what waits. -/
def Waiting.flush (w : Waiting) (m : Manner) : Tool Waiting := do
  return ⟨[], 0, ← m.run w.status w.words.reverse, true⟩

/-- Adds a word to what waits, which is run before if there is no room. -/
def Waiting.add (w : Waiting) (m : Manner) (word : String) : Tool Waiting := do
  let w ←
    if m.mostBytes < sizeOf m.command + sizeOf w.words + word.length + 1 then
      if w.words = [] then Tool.fail 1 "cannot fit single argument within argument list size limit"
      else if m.strict ∧ (m.mostWords.isSome ∨ m.mostLines.isSome) then Tool.fail 1 "argument list too long"
      else w.flush m
    else pure w
  let w ← if m.mostWords = some w.words.length then w.flush m else pure w
  return { w with words := word :: w.words }

/-- Runs a program for words that have been read. -/
def Waiting.addAll (m : Manner) : Waiting → List Portion → Tool Waiting
  | w, [] => return w
  | w, p :: rest => do
    match m.mark with
    | some mark =>
      let line := p.words.headD ""
      let command := match m.command with
        | [] => []
        | name :: args => name :: args.map fun a => a.replace mark line
      if m.mostBytes < sizeOf command then Tool.fail 1 "argument list too long"
      let status ← ({ m with command } : Manner).run w.status []
      addAll m ⟨[], 0, status, true⟩ rest
    | none =>
      let w ← p.words.foldlM (fun w word => w.add m word) w
      let w := { w with lines := w.lines + p.lines }
      let full : Bool := match m.mostLines with
        | some n => n ≤ w.lines
        | none => false
      let w ← if full then w.flush m else pure w
      addAll m w rest

/-- A number that an option has, which is at least so much. -/
def numberOf (option : String) (least : Int) (s : String) : Tool Nat := do
  match Numbers.integer? s with
  | none => Tool.misuse 1 ("invalid number \"" ++ s ++ "\" for -" ++ option ++ " option")
  | some n =>
    if n < least then Tool.misuse 1 ("value " ++ s ++ " for -" ++ option ++ " option should be >= " ++ toString least)
    else return n.toNat

/-- The last of the options that say how much is run at once: each takes the place of the one before, which is told. -/
def lastLimit : List (String × Option String) → Option (String × Option String) → Tool (Option (String × Option String))
  | [], found => return found
  | (key, value) :: rest, found => do
    let kind (key : String) : Nat := match key with
      | "n" => 0
      | "L" | "l" => 1
      | _ => 2
    let option : Nat → String
      | 0 => "--max-args"
      | 1 => "--max-lines"
      | _ => "--replace"
    let shown : String := match key with
      | "n" => "--max-args/-n"
      | "L" => "-L"
      | "l" => "--max-lines/-l"
      | _ => "--replace/-I/-i"
    match found with
    | none => lastLimit rest (some (key, value))
    | some (earlier, old) =>
      if kind earlier = kind key then lastLimit rest (some (key, value))
      else if kind earlier = 2 ∧ key = "n" ∧ value = some "1" then lastLimit rest (some (earlier, old))
      else
        let replaced := option (kind earlier)
        Tool.say ("warning: options " ++ replaced ++ " and " ++ shown ++ " are mutually exclusive, ignoring previous "
          ++ replaced ++ " value")
        lastLimit rest (some (key, value))

/-- Runs a program with arguments that are read. -/
def xargs (args : List String) : Tool Nat := do
  let known := [flag "0" "null", taking "a" "arg-file", taking "d" "delimiter", mayTake "e" "eof", taking "E",
    taking "I", mayTake "i" "replace", mayTake "l" "max-lines", taking "L", taking "n" "max-args", flag "o" "open-tty",
    flag "p" "interactive", flag "r" "no-run-if-empty", taking "s" "max-chars", word "show-limits", flag "t" "verbose",
    flag "x" "exit", taking "P" "max-procs", wordTaking "process-slot-var"]
  let g ← Options.read { known, first := true } args
  for (key, value) in g.options do
    match key with
    | "n" | "L" => discard <| numberOf key 1 (value.getD "")
    | "l" => discard <| numberOf key 1 (value.getD "1")
    | "P" => discard <| numberOf key 0 (value.getD "")
    | "d" => discard <| markOf (value.getD "")
    | _ => pure ()
  let limit ← lastLimit (g.options.filter fun (key, _) => ["n", "L", "l", "I", "i"].contains key) none
  let mostBytes ← match g.last? "s" with
    | some s => match Numbers.integer? s with
      | none => Tool.misuse 1 ("invalid number \"" ++ s ++ "\" for -s option")
      | some n =>
        if n < 1 then Tool.say ("value " ++ s ++ " for -s option should be >= 1")
        pure (max n 1).toNat
    | none => pure 131072
  let command := if g.operands = [] then ["echo"] else g.operands
  let (mostWords, mostLines, mark) : Option Nat × Option Nat × Option String := match limit with
    | some ("n", value) => ((value.bind String.toNat?), none, none)
    | some ("L", value) | some ("l", value) => (none, some ((value.bind String.toNat?).getD 1), none)
    | some (_, value) => (none, none, some (value.getD "\x7b\x7d"))
    | none => (none, none, none)
  if mark = some "" then Tool.fail 1 "command too long"
  if mostBytes < sizeOf command then Tool.fail 1 "cannot fit single argument within argument list size limit"
  let sharesInput := (g.last? "a").isSome && g.last? "a" != some "-"
  let m : Manner :=
    { command, mostWords, mostLines, mostBytes, mark, strict := g.has "x", shown := g.has "t" || g.has "p", sharesInput,
      slot := g.last? "process-slot-var" }
  let content ← match ← Tool.contentOf ((g.last? "a").getD "-") with
    | .ok bytes => pure (Text.Octets.ofBytes bytes)
    | .error r =>
      if sharesInput then
        Tool.fail 1 ("Cannot open input file " ++ Quoting.local_ ((g.last? "a").getD "") ++ ": " ++ r.message)
      else pure ""
  let most := mostBytes - sizeOf command - 1
  let stop := ((g.last? "E") <|> (g.last? "e")).filter (· != "")
  let (portions, wrong) ← match g.lastOf? ["0", "d"] with
    | some "0" => pure (readItems '\x00' most content)
    | some _ => do pure (readItems (← markOf ((g.last? "d").getD "")) most content)
    | none =>
      let (read, wrong) := readWords ⟨stop, mark.isSome, most⟩ (content.length + 1) '\n' Place.start [] content.toList
      pure (read.reverse, wrong)
  let w ← Waiting.addAll m ⟨[], 0, 0, false⟩ portions
  match wrong with
  | some why =>
    let w ← if w.words = [] ∨ mark.isSome then pure w else w.flush m
    Tool.say why
    return max 1 (min w.status 1)
  | none =>
    let runsAnyway := !w.ran && !g.has "r" && mark.isNone
    let w ← if w.words ≠ [] ∨ runsAnyway then w.flush m else pure w
    return w.status

end TaskRunner.Tools.Batches
