import TaskRunner.Tools.Streams

/-!
# Programs that take lines apart

Programs that choose parts of lines, put lines beside each other, or break them.
-/

namespace TaskRunner.Tools.Fields

open Processes

/-- Opens a file, or says that it cannot be opened. -/
def opened (path : String) : Tool (Option Nat) := do
  match ← Tool.openInput path with
  | .ok d => return some d
  | .error r =>
    Tool.say (Quoting.file path ++ ": " ++ r.message)
    return none

/-- Says that a file cannot be read. -/
def unread (path : String) : Option Refusal → Tool Nat
  | none => return 0
  | some r => do
    Tool.say (Quoting.file path ++ ": " ++ r.message)
    return 1

/-- The lines of a file as texts, or a message and none. -/
def linesOf (ending : UInt8) (path : String) : Tool (List String × Nat) := do
  match ← Tool.contentOf path with
  | .ok bytes => return ((Tool.linesOf ending bytes).1.map Text.Octets.ofBytes, 0)
  | .error r => return ([], ← unread path (some r))

/-! ## Parts of lines -/

/-- A run of places; none is the end. -/
structure Span where
  first : Nat
  last : Option Nat

/-- The words for what a list of places is about. -/
structure Named where
  zero : String
  invalid : String
  large : String
  range : String

/-- The words about fields. -/
def Named.fields : Named := ⟨"fields are numbered from 1", "invalid field value ", "field number ", "invalid field range"⟩

/-- The words about bytes. -/
def Named.bytes : Named :=
  ⟨"byte/character positions are numbered from 1", "invalid byte/character position ", "byte/character offset ",
    "invalid byte or character range"⟩

/-- What of a run of places has been read. -/
structure Reading where
  dash : Bool := false
  left : Bool := false
  right : Bool := false
  value : Nat := 0
  initial : Nat := 0

/-- Reads a list of places, onto those that were read. -/
def spansFrom (w : Named) : Nat → Reading → List Span → List Char → Tool (List Span)
  | 0, _, read, _ => return read.reverse
  | n + 1, r, read, cs => do
    let ended (c : Option Char) (rest : List Char) : Tool (List Span) := do
      let span : Span ←
        if r.dash then
          if ¬ r.left ∧ ¬ r.right then Tool.misuse 1 "invalid range with no endpoint: -"
          else if ¬ r.right then pure ⟨r.initial, none⟩
          else if r.value < r.initial then Tool.misuse 1 "invalid decreasing range"
          else pure ⟨r.initial, some r.value⟩
        else if r.value = 0 then Tool.misuse 1 w.zero
        else pure ⟨r.value, some r.value⟩
      match c with
      | none => return (span :: read).reverse
      | some _ => spansFrom w n {} (span :: read) rest
    match cs with
    | [] => ended none []
    | c :: rest =>
      if c = '-' then
        if r.dash then Tool.misuse 1 w.range
        if r.left ∧ r.value = 0 then Tool.misuse 1 w.zero
        spansFrom w n { r with dash := true, initial := if r.left then r.value else 1, value := 0 } read rest
      else if c = ',' ∨ c = ' ' ∨ c = '\t' then ended (some c) rest
      else if c.isDigit then
        let (digits, rest) := cs.span Char.isDigit
        let value := Decimal.natOf 10 digits
        if Numbers.most ≤ value then
          Tool.misuse 1 (w.large ++ Quoting.local_ (String.ofList digits) ++ " is too large")
        spansFrom w n { r with value, left := r.left || !r.dash, right := r.right || r.dash } read rest
      else Tool.misuse 1 (w.invalid ++ Quoting.local_ (String.ofList cs))

/-- Runs of places in order, those that touch made one. -/
def merged (spans : List Span) : List Span :=
  let rec join : List Span → List Span
    | a :: b :: rest =>
      match a.last with
      | none => [a]
      | some stop =>
        if b.first ≤ stop then
          let last : Option Nat := match b.last with
            | none => none
            | some other => some (max stop other)
          join (⟨a.first, last⟩ :: rest)
        else a :: join (b :: rest)
    | rest => rest
  termination_by spans => spans.length
  join (spans.mergeSort fun a b => a.first ≤ b.first)

/-- The places that are in none of some runs. -/
def others (next : Nat) : List Span → List Span
  | [] => [⟨next, none⟩]
  | s :: rest =>
    let before : List Span := if next < s.first then [⟨next, some (s.first - 1)⟩] else []
    match s.last with
    | none => before
    | some stop => before ++ others (stop + 1) rest

/-- The items of a list in a run of places. -/
def Span.of {α : Type} (s : Span) (items : List α) : List α :=
  let rest := items.drop (s.first - 1)
  match s.last with
  | none => rest
  | some stop => rest.take (stop + 1 - s.first)

/-- Writes parts of lines. -/
def cut (args : List String) : Tool Nat := do
  let g ← Options.read
    { known := [taking "b" "bytes", taking "c" "characters", taking "d" "delimiter", taking "f" "fields", flag "n",
        flag "s" "only-delimited", flag "z" "zero-terminated", word "complement", wordTaking "output-delimiter"] } args
  let lists := g.options.filter fun (k, _) => ["b", "c", "f"].contains k
  let (kind, list) ← match lists with
    | [] => Tool.misuse 1 "you must specify a list of bytes, characters, or fields"
    | [(k, v)] => pure (k, v.getD "")
    | _ => Tool.misuse 1 "only one list may be specified"
  let fields := kind = "f"
  let delimiter := g.last? "d"
  if delimiter.any fun d => 1 < d.length then Tool.misuse 1 "the delimiter must be a single character"
  if ¬ fields ∧ delimiter.isSome then
    Tool.misuse 1 "an input delimiter may be specified only when operating on fields"
  if ¬ fields ∧ g.has "s" then
    Tool.misuse 1 "suppressing non-delimited lines makes sense\n\tonly when operating on fields"
  let spans ← spansFrom (if fields then Named.fields else Named.bytes) (2 * list.length + 2) {} [] list.toList
  let spans := merged spans
  let spans := if g.has "complement" then others 1 spans else spans
  let mark : Char := match delimiter.map String.toList with
    | some (c :: _) => c
    | some [] => '\x00'
    | none => '\t'
  let joiner := g.last? "output-delimiter"
  let ending : UInt8 := if g.has "z" then 0 else 10
  let one (line : String) : Option String :=
    if fields then
      let parts := line.splitOn (String.singleton mark)
      match parts with
      | [_] => if g.has "s" then none else some line
      | parts => some ((joiner.getD (String.singleton mark)).intercalate (spans.flatMap fun s => s.of parts))
    else
      let cs := line.toList
      let pieces := (spans.map fun s => String.ofList (s.of cs)).filter (· ≠ "")
      some ((joiner.getD "").intercalate pieces)
  Tool.worst (fun path => do
    match ← opened path with
    | none => return 1
    | some d =>
      let passed ← Tool.eachLine d ending false () fun _ line _ => do
        match one (Text.Octets.ofBytes line) with
        | some s => Tool.emit (s.push (Char.ofNat ending.toNat))
        | none => pure ()
        return .more ()
      Tool.closeInput d
      unread path passed.refused) (if g.operands = [] then ["-"] else g.operands)

/-- The marks of a list of them: none is nothing at all. -/
def marksOf : Nat → List Char → Option (List (Option Char))
  | 0, _ => some []
  | _, [] => some []
  | _, ['\x5c'] => none
  | n + 1, '\x5c' :: c :: rest =>
    let mark : Option Char := match c with
      | '0' => none
      | 'n' => some '\n'
      | 't' => some '\t'
      | 'b' => some '\x08'
      | 'f' => some '\x0c'
      | 'r' => some '\r'
      | 'v' => some '\x0b'
      | c => some c
    (marksOf n rest).map (mark :: ·)
  | n + 1, c :: rest => (marksOf n rest).map (some c :: ·)

/-- Pieces with marks between them, the marks used in turn. -/
def withMarks (marks : List (Option Char)) (pieces : List String) : String :=
  let size := max 1 marks.length
  String.join <| pieces.zipIdx.map fun (piece, i) =>
    if i + 1 = pieces.length then piece
    else match (marks[i % size]?).bind id with
      | some c => piece.push c
      | none => piece

/-- Takes a line from every file that has one: the lines, and what is left of all files by their names. -/
def takeLines : List String → Assoc String (List String) → List (Option String) × Assoc String (List String)
  | [], files => ([], files)
  | path :: rest, files =>
    match files.find? path with
    | some (line :: lines) =>
      let (found, files) := takeLines rest (files.insert path lines)
      (some line :: found, files)
    | _ =>
      let (found, files) := takeLines rest files
      (none :: found, files)

/-- Puts lines of several files beside each other. -/
def paste (args : List String) : Tool Nat := do
  let g ← Options.read
    { known := [taking "d" "delimiters", flag "s" "serial", flag "z" "zero-terminated"] } args
  let list := (g.last? "d").getD "\t"
  let marks ← match marksOf (list.length + 1) list.toList with
    | some marks => pure marks
    | none => Tool.fail 1 ("delimiter list ends with an unescaped backslash: " ++ list)
  let ending : UInt8 := if g.has "z" then 0 else 10
  let endMark := Char.ofNat ending.toNat
  let paths := if g.operands = [] then ["-"] else g.operands
  if g.has "s" then
    Tool.worst (fun path => do
      match ← Tool.contentOf path with
      | .error r =>
        if path = "-" then Tool.emit (String.singleton endMark)
        unread path (some r)
      | .ok bytes =>
        let lines := (Tool.linesOf ending bytes).1.map Text.Octets.ofBytes
        Tool.emit ((withMarks marks lines).push endMark)
        return 0) paths
  else
    let mut files : Assoc String (List String) := Assoc.empty
    let mut status := 0
    let mut names : List (String × String) := []
    -- The same file may be given several times, and then begins again; the input does not.
    for (path, i) in paths.zipIdx do
      let key := if path = "-" then "-" else toString i ++ "/" ++ path
      if ¬ files.contains key then
        match ← Tool.contentOf path with
        | .error r =>
          status ← unread path (some r)
          if r ≠ .isDirectory ∧ path ≠ "-" then throw 1
          files := files.insert key []
        | .ok bytes => files := files.insert key ((Tool.linesOf ending bytes).1.map Text.Octets.ofBytes)
      names := names ++ [(path, key)]
    let rec rows : Nat → Assoc String (List String) → Tool Unit
      | 0, _ => pure ()
      | n + 1, files => do
        let (found, files) := takeLines (names.map Prod.snd) files
        if found.all Option.isNone then pure ()
        else
          Proc.step
          Tool.emit ((withMarks marks (found.map fun s => s.getD "")).push endMark)
          rows n files
    rows ((files.values.map List.length).foldl (· + ·) 1) files
    return status

/-! ## Characters -/

/-- A part of a set of bytes. -/
inductive SetPart where
  | byte (b : Nat)
  | range (a b : Nat)
  | members (name : String)
  | same (b : Nat)
  /-- A byte so many times; none is as often as it takes. -/
  | times (b : Nat) (n : Option Nat)

/-- A byte of a set, and whether it was written with a backslash. -/
abbrev SetByte := Nat × Bool

/-- The bytes of a set, escapes read, with warnings about them. -/
def setBytes : Nat → List Char → List SetByte → List String → List SetByte × List String
  | 0, _, read, warnings => (read.reverse, warnings.reverse)
  | _, [], read, warnings => (read.reverse, warnings.reverse)
  | n + 1, '\x5c' :: rest, read, warnings =>
    match rest with
    | [] => setBytes n [] ((92, true) :: read) ("warning: an unescaped backslash at end of string is not portable" :: warnings)
    | c :: after =>
      if '0' ≤ c ∧ c ≤ '7' then
        let isOctal (c : Char) : Bool := '0' ≤ c && c ≤ '7'
        let digits := (rest.take 3).takeWhile isOctal
        let value := Decimal.natOf 8 digits
        if 255 < value then
          let short := digits.take 2
          let text := String.ofList digits
          let warning := "warning: the ambiguous octal escape \\" ++ text ++ " is being\n\tinterpreted as the 2-byte sequence \\0"
            ++ String.ofList short ++ ", " ++ String.ofList (digits.drop 2)
          setBytes n (rest.drop 2) ((Decimal.natOf 8 short, true) :: read) (warning :: warnings)
        else setBytes n (rest.drop digits.length) ((value, true) :: read) warnings
      else
        let b : Nat := match c with
          | 'a' => 7
          | 'b' => 8
          | 'f' => 12
          | 'n' => 10
          | 'r' => 13
          | 't' => 9
          | 'v' => 11
          | c => c.toNat
        setBytes n after ((b, true) :: read) warnings
  | n + 1, c :: rest, read, warnings => setBytes n rest ((c.toNat, false) :: read) warnings

/-- The bytes before two bytes that close a bracket, and those after. -/
def beforeClosing (mark : Nat) : List SetByte → List SetByte → Option (List SetByte × List SetByte)
  | _, [] => none
  | _, [_] => none
  | read, (a, false) :: (93, false) :: rest =>
    if a = mark then some (read.reverse, rest) else beforeClosing mark ((a, false) :: read) ((93, false) :: rest)
  | read, a :: rest => beforeClosing mark (a :: read) rest

/-- A text of the bytes of a set. -/
def textOf (bytes : List SetByte) : String := String.ofList (bytes.map fun (b, _) => Char.ofNat b)

/-- The parts of a set. -/
def setParts : Nat → List SetByte → List SetPart → Tool (List SetPart)
  | 0, _, read => return read.reverse
  | _, [], read => return read.reverse
  | n + 1, (91, false) :: (58, false) :: rest, read => do
    match beforeClosing 58 [] rest with
    | some ([], _) => Tool.fail 1 "missing character class name '[::]'"
    | some (name, after) => do
      let name := textOf name
      if ["alnum", "alpha", "blank", "cntrl", "digit", "graph", "lower", "print", "punct", "space", "upper",
          "xdigit"].contains name then
        setParts n after (.members name :: read)
      else Tool.fail 1 ("invalid character class " ++ Quoting.local_ name)
    | none => setParts n ((58, false) :: rest) (.byte 91 :: read)
  | n + 1, (91, false) :: (61, false) :: rest, read => do
    match beforeClosing 61 [] rest with
    | some ([(b, _)], after) => setParts n after (.same b :: read)
    | some ([], _) => Tool.fail 1 "missing equivalence class character '[==]'"
    | some (name, _) => Tool.fail 1 (textOf name ++ ": equivalence class operand must be a single character")
    | none => setParts n ((61, false) :: rest) (.byte 91 :: read)
  | n + 1, (91, false) :: (b, q) :: (42, false) :: rest, read => do
    let (inside, after) := rest.span fun (c, q) => !(c == 93 && !q)
    let digits := inside.map fun (c, _) => Char.ofNat c
    match after with
    | [] => setParts n ((b, q) :: (42, false) :: rest) (.byte 91 :: read)
    | _ :: after =>
      if digits.all Char.isDigit then
        let count := if digits.head? = some '0' then Decimal.natOf 8 digits else Decimal.natOf 10 digits
        setParts n after (.times b (if count = 0 then none else some count) :: read)
      else Tool.fail 1 ("invalid repeat count " ++ Quoting.local_ (String.ofList digits) ++ " in [c*n] construct")
  | n + 1, (a, _) :: (45, false) :: (b, q) :: rest, read => do
    if b < a then
      let show_ (c : Nat) : String := String.singleton (Char.ofNat c)
      Tool.fail 1 ("range-endpoints of '" ++ show_ a ++ "-" ++ show_ b ++ "' are in reverse collating sequence order")
    else
      let _ := q
      setParts n rest (.range a b :: read)
  | n + 1, (b, _) :: rest, read => setParts n rest (.byte b :: read)

/-- The bytes of a class. -/
def membersOf (name : String) : List Nat :=
  (List.range 256).filter fun b =>
    let c := Char.ofNat b
    b < 128 && match name with
      | "alnum" => c.isAlphanum
      | "alpha" => c.isAlpha
      | "blank" => b == 32 || b == 9
      | "cntrl" => b < 32 || b == 127
      | "digit" => c.isDigit
      | "graph" => 32 < b && b < 127
      | "lower" => c.isLower
      | "print" => 32 ≤ b && b < 127
      | "punct" => 32 < b && b < 127 && !c.isAlphanum
      | "space" => b == 32 || (9 ≤ b && b ≤ 13)
      | "upper" => c.isUpper
      | _ => c.isDigit || (65 ≤ b && b ≤ 70) || (97 ≤ b && b ≤ 102)

/-- The bytes of a part; `fill` says how often a byte comes whose number is left open. -/
def SetPart.bytes (fill : Nat) : SetPart → List Nat
  | .byte b | .same b => [b]
  | .range a b => (List.range (b + 1 - a)).map (· + a)
  | .members name => membersOf name
  | .times b n => List.replicate (n.getD fill) b

/-- How many bytes a part has. -/
def SetPart.size (p : SetPart) : Nat := (p.bytes 0).length

/-- Reads a set. -/
def readSet (s : String) : Tool (List SetPart) := do
  let (bytes, warnings) := setBytes (s.length + 1) s.toList [] []
  for w in warnings do Tool.say w
  setParts (bytes.length + 1) bytes []

/-- Where classes of letters begin among the bytes of a set. -/
def caseStarts : Nat → List SetPart → List (Nat × String)
  | _, [] => []
  | n, p :: rest =>
    let here : List (Nat × String) := match p with
      | .members "lower" => [(n, "lower")]
      | .members "upper" => [(n, "upper")]
      | _ => []
    here ++ caseStarts (n + p.size) rest

/-- The bytes that the bytes of two sets are translated to. -/
def translation (first : List Nat) (second : List Nat) : Array UInt8 :=
  let plain : Array UInt8 := ((List.range 256).map fun b => b.toUInt8).toArray
  (first.zip second).foldl (fun table (a, b) => table.set! a b.toUInt8) plain

/-- The second set, as long as the first one. -/
def secondSet (first : List Nat) (firstParts second : List SetPart) (complement truncates : Bool) : Tool (List Nat) := do
  let fillers := second.filter fun p => match p with
    | .times _ none => true
    | _ => false
  if 1 < fillers.length then Tool.fail 1 "only one [c*] repeat construct may appear in string2"
  if second.any fun p => match p with
      | .same _ => true
      | _ => false then
    Tool.fail 1 "[=c=] expressions may not appear in string2 when translating"
  if second.any fun p => match p with
      | .members name => !(name == "upper" || name == "lower")
      | _ => false then
    Tool.fail 1 "when translating, the only character classes that may appear in\nstring2 are 'upper' and 'lower'"
  let starts := if complement then [] else caseStarts 0 firstParts
  if (caseStarts 0 second).any fun (n, _) => !starts.any fun (m, _) => m == n then
    Tool.fail 1 "misaligned [:upper:] and/or [:lower:] construct"
  let size := (second.map SetPart.size).foldl (· + ·) 0
  let bytes := second.flatMap (SetPart.bytes (first.length - size))
  if truncates then return bytes
  match bytes.getLast? with
  | some b =>
    let hasClass := firstParts.any fun p => match p with
      | .members _ => true
      | _ => false
    let out := bytes ++ List.replicate (first.length - bytes.length) b
    if complement ∧ hasClass ∧ (out.eraseDups.length ≠ 1) then
      Tool.fail 1 "when translating with complemented character classes,\nstring2 must map all characters in the domain to one"
    return out
  | none =>
    if first = [] then return []
    else Tool.fail 1 "when not truncating set1, string2 must be non-empty"

/-- Replaces, deletes or squeezes bytes. -/
def tr (args : List String) : Tool Nat := do
  let g ← Options.read
    { known := [flag "c" "complement", flag "C", flag "d" "delete", flag "s" "squeeze-repeats", flag "t" "truncate-set1"]
      first := true } args
  let deletes := g.has "d"
  let squeezes := g.has "s"
  let translates := g.operands.length = 2 ∧ ¬ deletes
  let least := if deletes = squeezes then 2 else 1
  let most := if deletes ∧ ¬ squeezes then 1 else 2
  if g.operands.length < least then
    match g.operands with
    | [] => Tool.misuse 1 "missing operand"
    | one :: _ =>
      Tool.say ("missing operand after " ++ Quoting.local_ one)
      Tool.note (if squeezes then "Two strings must be given when both deleting and squeezing repeats.\n"
        else "Two strings must be given when translating.\n")
      Tool.hint
      throw 1
  match g.operands.drop most with
  | extra :: _ =>
    Tool.say ("extra operand " ++ Quoting.local_ extra)
    if g.operands.length = 2 then
      Tool.note "Only one string may be given when deleting without squeezing repeats.\n"
    Tool.hint
    throw 1
  | [] => pure ()
  let firstParts ← readSet (g.operands.headD "")
  let secondParts ← readSet ((g.operands[1]?).getD "")
  if firstParts.any fun p => match p with
      | .times _ none => true
      | _ => false then
    Tool.fail 1 "the [c*] repeat construct may not appear in string1"
  let given := firstParts.flatMap (SetPart.bytes 0)
  let complement := g.has "c" ∨ g.has "C"
  let first := if complement then (List.range 256).filter fun b => !given.contains b else given
  let second ← if translates then secondSet first firstParts secondParts complement (g.has "t")
    else pure (secondParts.flatMap (SetPart.bytes 0))
  let flags (bytes : List Nat) : Array Bool := bytes.foldl (fun table b => table.set! b true) (Array.replicate 256 false)
  let among := flags first
  let squeezed := flags (if g.operands.length = 2 then second else first)
  let table := if translates then translation first second else translation [] []
  let change (last : Option UInt8) (bytes : ByteArray) : Option UInt8 × ByteArray :=
    bytes.foldl (fun (last, out) b =>
      if deletes && among[b.toNat]! then (last, out)
      else
        let c := table[b.toNat]!
        if squeezes && squeezed[c.toNat]! && last == some c then (last, out) else (some c, out.push c))
      (last, ByteArray.empty)
  match ← Streams.passBlocks 0 change Proc.endless none with
  | .ok _ => return 0
  | .error r => Tool.fail 1 ("read error: " ++ r.message)

/-! ## Broken lines -/

/-- The place after a byte. -/
def placeAfter (countsBytes : Bool) (place : Nat) (c : Char) : Nat :=
  if countsBytes then place + 1
  else match c with
    | '\x08' => place - 1
    | '\r' => 0
    | '\t' => (place / 8 + 1) * 8
    | _ => place + 1

/-- Breaks a line: what has been written of it, what is held back, and its place. -/
def foldLine (width : Nat) (countsBytes atBlanks : Bool) : Nat → List Char → List Char → Nat → List Char → String
  | 0, out, held, _, _ => String.ofList (held ++ out).reverse
  | _, out, held, _, [] => String.ofList (held ++ out).reverse
  | n + 1, out, held, place, c :: rest =>
    let next := placeAfter countsBytes place c
    if next ≤ width then foldLine width countsBytes atBlanks n out (c :: held) next rest
    else if atBlanks ∧ held.any (fun d => d == ' ' || d == '\t') then
      let (after, before) := held.span fun d => !(d == ' ' || d == '\t')
      let place := after.reverse.foldl (placeAfter countsBytes) 0
      foldLine width countsBytes atBlanks n ('\n' :: (before ++ out)) after place (c :: rest)
    else if place = 0 then foldLine width countsBytes atBlanks n out (c :: held) next rest
    else foldLine width countsBytes atBlanks n ('\n' :: (held ++ out)) [] 0 (c :: rest)

/-- Breaks long lines. -/
def fold (args : List String) : Tool Nat := do
  let args := args.map fun a => match a.toList with
    | '-' :: c :: cs => if c.isDigit ∧ cs.all Char.isDigit then "-w" ++ String.ofList (c :: cs) else a
    | _ => a
  let g ← Options.read { known := [flag "b" "bytes", flag "s" "spaces", taking "w" "width"] } args
  let width ← match g.last? "w" with
    | none => pure 80
    | some s => Options.amount "invalid number of columns" 1 (Numbers.most - 9) false s
  Tool.worst (fun path => do
    match ← opened path with
    | none => return 1
    | some d =>
      let passed ← Tool.eachLine d 10 false () fun _ line ended => do
        let cs := (Text.Octets.ofBytes line).toList
        Tool.emit (foldLine width (g.has "b") (g.has "s") (3 * cs.length + 3) [] [] 0 cs ++ (if ended then "\n" else ""))
        return .more ()
      Tool.closeInput d
      unread path passed.refused) (if g.operands = [] then ["-"] else g.operands)

/-- The places where tabs lead: one after another, and then every so many. -/
structure Tabs where
  stops : List Nat
  every : Nat

/-- The place that a tab leads to. -/
def Tabs.after (t : Tabs) (place : Nat) : Nat :=
  match t.stops.find? (place < ·) with
  | some stop => stop
  | none => if t.every = 0 then place + 1 else (place / t.every + 1) * t.every

/-- Reads places of tabs. -/
def tabsOf (list : Option String) : Tool Tabs := do
  match list with
  | none => return ⟨[], 8⟩
  | some s =>
    let words := (s.splitOn ",").flatMap fun w => w.splitOn " "
    let numbers ← (words.filter (· ≠ "")).mapM fun w =>
      match w.toNat? with
      | some 0 => Tool.fail 1 "tab size cannot be 0"
      | some n => pure n
      | none => Tool.fail 1 ("tab size contains invalid character(s): " ++ Quoting.local_ w)
    match numbers with
    | [] => return ⟨[], 8⟩
    | [n] => return ⟨[], n⟩
    | stops =>
      if (stops.zip (stops.drop 1)).any fun (a, b) => b ≤ a then Tool.fail 1 "tab sizes must be ascending"
      return ⟨stops, 0⟩

/-- A line with blanks instead of its tabs. -/
def expandLine (t : Tabs) (initial : Bool) (line : List Char) : String :=
  let step (s : List Char × Nat × Bool) (c : Char) : List Char × Nat × Bool :=
    let (out, place, open_) := s
    let active := open_ || !initial
    if c = '\t' ∧ active then
      let next := t.after place
      (List.replicate (next - place) ' ' ++ out, next, open_)
    else if c = '\x08' then (c :: out, place - 1, open_)
    else (c :: out, place + 1, open_ && c == ' ')
  String.ofList (line.foldl step ([], 0, true)).1.reverse

/-- A line with tabs instead of its blanks; `pending` counts blanks that have not been written. -/
def unexpandLine (t : Tabs) (all : Bool) (line : List Char) : String :=
  let rec go : List Char → List Char → Nat → Nat → Bool → List Char
    | [], out, _, pending, _ => List.replicate pending ' ' ++ out
    | c :: rest, out, place, pending, active =>
      if ¬ active then go rest (c :: out) (place + 1) 0 false
      else if c = ' ' then
        let next := place + 1
        let stop := t.after place
        if next = stop ∧ (1 < pending + 1 ∨ ¬ all ∨ pending + 1 = 1 ∧ rest.head? = some ' ') then go rest ('\t' :: out) next 0 active
        else go rest out next (pending + 1) active
      else if c = '\t' then go rest ('\t' :: out) (t.after place) 0 active
      else go rest (c :: (List.replicate pending ' ' ++ out)) (place + 1) 0 all
  String.ofList (go line [] 0 0 true).reverse

/-- Changes every line of files. -/
def changeLines (paths : List String) (change : List Char → String) : Tool Nat :=
  Tool.worst (fun path => do
    match ← opened path with
    | none => return 1
    | some d =>
      let passed ← Tool.eachLine d 10 false () fun _ line ended => do
        Tool.emit (change (Text.Octets.ofBytes line).toList ++ (if ended then "\n" else ""))
        return .more ()
      Tool.closeInput d
      unread path passed.refused) (if paths = [] then ["-"] else paths)

/-- Writes blanks instead of tabs. -/
def expand (args : List String) : Tool Nat := do
  let g ← Options.read { known := [flag "i" "initial", taking "t" "tabs"] } args
  let tabs ← tabsOf (g.last? "t")
  changeLines g.operands (expandLine tabs (g.has "i"))

/-- Writes tabs instead of blanks. -/
def unexpand (args : List String) : Tool Nat := do
  let g ← Options.read { known := [flag "a" "all", word "first-only", taking "t" "tabs"] } args
  let tabs ← tabsOf (g.last? "t")
  changeLines g.operands (unexpandLine tabs ((g.has "a" || (g.last? "t").isSome) && !g.has "first-only"))

/-! ## Lines that repeat -/

/-- Drops what is not compared of a line. -/
def compared (fields characters : Nat) (width : Option Nat) (ignoresCase : Bool) (line : String) : String :=
  let rec drop : Nat → List Char → List Char
    | 0, cs => cs
    | n + 1, cs =>
      let isBlank (c : Char) : Bool := c == ' ' || c == '\t'
      drop n ((cs.dropWhile isBlank).dropWhile fun c => !isBlank c)
  let cs := (drop fields line.toList).drop characters
  let cs := match width with
    | some n => cs.take n
    | none => cs
  String.ofList (if ignoresCase then cs.map Char.toUpper else cs)

/-- Drops lines that repeat the line before. -/
def uniq (args : List String) : Tool Nat := do
  let g ← Options.read
    { known := [flag "c" "count", flag "d" "repeated", flag "D", wordMayTake "all-repeated", taking "f" "skip-fields",
        wordMayTake "group", flag "i" "ignore-case", taking "s" "skip-chars", flag "u" "unique", taking "w" "check-chars",
        flag "z" "zero-terminated"] } args
  let number (key what : String) : Tool (Option Nat) := match g.last? key with
    | none => pure none
    | some s => match Numbers.whole s with
      | .ok n => pure (some n)
      | .error _ => Tool.fail 1 (s ++ ": invalid number of " ++ what)
  let fields := (← number "f" "fields to skip").getD 0
  let characters := (← number "s" "bytes to skip").getD 0
  let width ← number "w" "bytes to compare"
  let (source, target) ← match g.operands with
    | [] => pure ("-", "-")
    | [a] => pure (a, "-")
    | [a, b] => pure (a, b)
    | _ :: _ :: extra :: _ => Options.extra 1 extra
  let everyRepeated := g.has "D" || g.has "all-repeated"
  if everyRepeated ∧ g.has "c" then Tool.misuse 1 "printing all duplicated lines and repeat counts is meaningless"
  let ending : UInt8 := if g.has "z" then 0 else 10
  let endMark := String.singleton (Char.ofNat ending.toNat)
  let keyOf (line : String) : String := compared fields characters width (g.has "i") line
  if target ≠ "-" then
    match ← Proc.openAs 1 Kernel.OpenMode.output target with
    | .ok () => pure ()
    | .error r => Tool.fail 1 (Quoting.file target ++ ": " ++ r.message)
  let grouping := (g.last? "group").getD "separate"
  let separates := (g.last? "all-repeated").getD "none"
  -- The lines of a group that are written, told whether it is the first group that is.
  let shown (first : Bool) (group : List String) : List String :=
    let line := group.headD ""
    let size := group.length
    if g.has "group" then
      let before := if grouping = "prepend" ∨ grouping = "both" ∨ (grouping = "separate" ∧ ¬ first) then [""] else []
      before ++ group ++ (if grouping = "append" then [""] else [])
    else if everyRepeated then
      if size < 2 then []
      else (if separates = "prepend" ∨ (separates = "separate" ∧ ¬ first) then [""] else []) ++ group
    else if (g.has "d" ∧ size < 2) ∨ (g.has "u" ∧ 1 < size) then []
    else [(if g.has "c" then Numbers.right 7 (toString size) ++ " " else "") ++ line]
  let write (first : Bool) (group : List String) : Tool Bool := do
    let lines := shown first group
    for line in lines do Tool.emit (line ++ endMark)
    return first && lines.isEmpty
  match ← Tool.openInput source with
  | .error r => Tool.fail 1 (Quoting.file source ++ ": " ++ r.message)
  | .ok d =>
    let keepsAll := everyRepeated || g.has "group"
    let passed ← Tool.eachLine d ending false (([] : List String), 0, "", true) fun (held, size, key, first) line _ => do
      let line := Text.Octets.ofBytes line
      let next := keyOf line
      if size ≠ 0 ∧ next = key then
        return .more (if keepsAll then line :: held else held, size + 1, key, first)
      else
        let first ← if size = 0 then pure first
          else if keepsAll then write first held.reverse
          else write first (held.headD "" :: List.replicate (size - 1) "")
        return .more ([line], 1, next, first)
    match passed.refused with
    | some r => Tool.fail 1 ("error reading " ++ Quoting.always source ++ ": " ++ r.message)
    | none =>
      let (held, size, _, first) := passed.known
      if size ≠ 0 then
        let first ← if keepsAll then write first held.reverse else write first (held.headD "" :: List.replicate (size - 1) "")
        if g.has "group" ∧ grouping = "both" ∧ ¬ first then Tool.emit endMark
      return 0

end TaskRunner.Tools.Fields
