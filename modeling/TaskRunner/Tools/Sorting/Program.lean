import TaskRunner.Tools.Sorting

/-!
# The program that puts lines in order

Its options, the keys that they give, and what it does with the lines of its files: it puts them in
order, joins files that are in order already, or finds the first line that is out of order.
-/

namespace TaskRunner.Tools.Sorting

/-!
## What is told about keys

How keys will be compared, what about them may not be meant, and which part of every line each of them is
about, drawn below the line.
-/

/-- Whether a key is compared as a number. -/
def Manner.isNumeric (m : Manner) : Bool := m.numeric || m.general || m.human

/-- How many fields a key is about comes to nothing. -/
def Key.isEmpty (k : Key) : Bool :=
  match k.firstField, k.lastField with
  | some first, some last => last < first
  | _, _ => false

/-- Whether blanks at the beginning of a key count although that may not be meant. -/
def Key.countsBlanks (k : Key) : Bool :=
  let m := k.manner
  let byPlace := k.lastField == some 0 && k.lastPlace != 0
  !k.isEmpty && !byPlace && ((!m.skipsStart && !(m.isNumeric || m.month)) || (!m.skipsStart && k.firstPlace != 0)
    || (!m.skipsEnd && k.lastPlace != 0))

/-- Whether a key that is a number goes beyond a field. -/
def Key.spansFields (k : Key) : Bool :=
  let first := (k.firstField.map (· + 1)).getD 1
  match k.lastField with
  | none => true
  | some last => first < last + 1

/-- The letters of what is said for all keys and holds for none. -/
def Manner.unused (usual : Manner) (keys : List Key) : Manner :=
  let fresh (f : Manner → Bool) : Bool := f usual && !keys.any fun k => f k.manner
  { skipsStart := fresh Manner.skipsStart, skipsEnd := fresh Manner.skipsEnd, dictionary := fresh Manner.dictionary
    folds := fresh Manner.folds, general := fresh Manner.general, human := fresh Manner.human
    printable := fresh Manner.printable, month := fresh Manner.month, numeric := fresh Manner.numeric
    random := fresh Manner.random, reverse := fresh Manner.reverse, version := fresh Manner.version }

/-- The letters for a manner. -/
def Manner.letters (m : Manner) : String :=
  let all := [(m.skipsStart || m.skipsEnd, 'b'), (m.dictionary, 'd'), (m.folds, 'f'), (m.general, 'g'), (m.human, 'h'),
    (m.printable, 'i'), (m.month, 'M'), (m.numeric, 'n'), (m.random, 'R'), (m.reverse, 'r'), (m.version, 'V')]
  String.ofList (all.filterMap fun (on, c) => if on then some c else none)

/-- What is told about keys; `whole` says that no key was given but for the whole line. -/
def remarks (keys : List Key) (usual : Manner) (mark : Option Char) (whole keysOnly : Bool) : List String :=
  let one (k : Key) (i : Nat) : List String :=
    let number := "key " ++ toString (i + 1)
    (match k.former with
      | some (old, new) => ["obsolescent key " ++ Quoting.local_ old ++ " used; consider " ++ Quoting.local_ new ++ " instead"]
      | none => [])
    ++ (if k.isEmpty then [number ++ " has zero width and will be ignored"] else [])
    ++ (if !whole && mark.isNone && k.countsBlanks then
        ["leading blanks are significant in " ++ number ++ "; consider also specifying 'b'"] else [])
    ++ (if !whole && k.manner.isNumeric && k.spansFields then [number ++ " is numeric and spans multiple fields"] else [])
  let wide := if whole then [] else keys.filter fun k => k.manner.isNumeric && k.spansFields
  let separator := wide ≠ [] && mark == some '.'
  let treated (c : Char) (what : String) : List String :=
    ["field separator " ++ Quoting.local_ (String.singleton c) ++ " is treated as a " ++ what ++ " in numbers"]
  let marks := if separator then treated '.' "decimal point"
    else if wide ≠ [] && mark == some '-' then treated '-' "minus sign"
    else if (wide.any fun k => k.manner.general) && mark == some '+' then treated '+' "plus sign"
    else []
  let point := if (keys.any fun k => k.manner.isNumeric) && !separator then
      ["note numbers use " ++ Quoting.local_ "." ++ " as a decimal point in this locale"] else []
  let unused := usual.unused keys
  let ignored :=
    if !unused.isUsual || (unused.reverse && keysOnly && !keys.isEmpty) then
      let letters := { unused with reverse := unused.reverse && keysOnly }.letters
      [(if letters.length = 1 then "option '-" ++ letters ++ "' is ignored" else "options '-" ++ letters ++ "' are ignored")]
    else []
  let last := if unused.reverse && !keysOnly && !keys.isEmpty then ["option '-r' only applies to last-resort comparison"] else []
  keys.zipIdx.flatMap (fun (k, i) => one k i) ++ marks ++ point ++ ignored ++ last

/-! ## Drawings -/

/-- The bytes of a number at the beginning of a text. -/
def numberSize (human : Bool) (cs : List Char) : Nat :=
  let (sign, rest) : Nat × List Char := match cs with
    | '-' :: rest => (1, rest)
    | cs => (0, cs)
  let (digits, after) := rest.span Char.isDigit
  let (fraction, after) : List Char × List Char := match after with
    | '.' :: more =>
      let (fraction, after) := more.span Char.isDigit
      ('.' :: fraction, after)
    | after => ([], after)
  if digits = [] ∧ fraction.length ≤ 1 then 0
  else
    let unit : Nat := match after.head? with
      | some c => if human && "KMGTPEZYk".toList.contains c then 1 else 0
      | none => 0
    sign + digits.length + fraction.length + unit

/-- The part of a line that a key is about, as the bytes before it and how many it has; of numbers and months only what is
read. -/
def Key.extent (k : Key) (mark : Option Char) (line : List Char) : Nat × Nat :=
  let (begun, left) := k.bounds mark line
  let start := line.length - begun.length
  let size := begun.length - left
  let m := k.manner
  if (m.skipsStart && k.firstField.isNone) || m.month || m.isNumeric then
    let part := begun.take size
    let bare := part.dropWhile isBlank
    let read : Nat :=
      if m.month then
        if months.contains (String.ofList ((bare.take 3).map Char.toUpper)) then 3 else 0
      else if m.general then
        match Decimal.readNumber 64 bare with
        | some (_, rest) => bare.length - rest.length
        | none => 0
      else if m.numeric || m.human then numberSize m.human bare
      else bare.length
    (start + (part.length - bare.length), read)
  else (start, size)

/-- The places that a text takes, where a tab takes one. -/
def drawnWidth (l : Text.Locale) (cs : List Char) : Nat :=
  (l.characters (String.ofList cs)).foldl (fun n c => n + (if c = '\t' then 1 else (Text.width? c).getD 0)) 0

/-- A line, and below it what every key is about. -/
def Rules.drawn (r : Rules) (l : Text.Locale) (line : String) : List String :=
  let cs := line.toList
  let draw (start size : Nat) : String :=
    let offset := drawnWidth l (cs.take start)
    let width := drawnWidth l ((cs.drop start).take size)
    String.ofList (List.replicate offset ' ')
      ++ (if width = 0 then "^ no match for key" else String.ofList (List.replicate width '_'))
  let byKeys := r.keys.map fun k => let (start, size) := k.extent r.mark cs; draw start size
  line.map (fun c => if c = '\t' then '>' else c) :: byKeys
    ++ (if r.keys.isEmpty || !r.keysOnly then [draw 0 cs.length] else [])

open Processes

/-! ## Reading keys -/

/-- Stops because a key is not written as keys are. -/
def badKey {α : Type} (what spec : String) : Tool α :=
  Tool.fail 2 (what ++ ": invalid field specification " ++ Quoting.local_ spec)

/-- The number at the beginning of a text. -/
def count (what : Option String) (cs : List Char) : Tool (Nat × List Char) := do
  match cs.span Char.isDigit with
  | ([], _) => match what with
    | some what => Tool.fail 2 (what ++ ": invalid count at start of " ++ Quoting.local_ (String.ofList cs))
    | none => return (0, cs)
  | (digits, rest) => return (Decimal.natOf 10 digits, rest)

/-- Reads letters. -/
def lettersOf (starts ends : Bool) : Manner → List Char → Manner × List Char
  | m, [] => (m, [])
  | m, c :: cs => match m.letter? starts ends c with
    | some m => lettersOf starts ends m cs
    | none => (m, c :: cs)

/-- Reads a place in the old way: fields before it and, after a point, bytes. None if it is not written so. -/
def formerPlace (cs : List Char) : Option (Nat × Nat × List Char) :=
  match cs.span Char.isDigit with
  | ([], _) => none
  | (field, '.' :: rest) => match rest.span Char.isDigit with
    | ([], _) => none
    | (place, rest) => some (Decimal.natOf 10 field, Decimal.natOf 10 place, rest)
  | (field, rest) => some (Decimal.natOf 10 field, 0, rest)

/-- Whether an argument is the beginning of a key in the old way. -/
def beginsFormer (arg : String) : Bool :=
  match arg.toList with
  | '+' :: cs => match formerPlace cs with
    | some (_, _, rest) => (lettersOf true false {} rest).2.isEmpty
    | none => false
  | _ => false

/-- Whether an argument can be the end of a key in the old way. -/
def endsFormer (arg : String) : Bool :=
  match arg.toList with
  | '-' :: c :: _ => c.isDigit
  | _ => false

/-- Reads a key in the old way. -/
def formerKey (beginning ending : String) : Tool Key := do
  let (field, place, rest) := (formerPlace (beginning.toList.drop 1)).getD (0, 0, [])
  let (manner, _) := lettersOf true false {} rest
  let firstField : Option Nat := if field = 0 ∧ place = 0 then none else some field
  let old := "+" ++ toString field
  let new := "-k " ++ toString (field + 1)
  if ending = "" then return ⟨firstField, place, none, 0, manner, some (old, new)⟩
  let (last, rest) ← count (some "invalid number after '-'") (ending.toList.drop 1)
  let (lastPlace, rest) ← match rest with
    | '.' :: rest => count (some "invalid number after '.'") rest
    | rest => pure (0, rest)
  let last := if lastPlace = 0 then last - 1 else last
  let (manner, rest) := lettersOf false true manner rest
  if rest ≠ [] then badKey "stray character in field spec" ending
  return ⟨firstField, place, some last, lastPlace, manner,
    some (old ++ " -" ++ toString (last + 1), new ++ "," ++ toString (last + 1))⟩

/-- What no argument begins with; it marks keys in the old way. -/
def formerMark : String := "\x00"

/-- Reads a key. -/
def keyOf (spec : String) : Tool Key := do
  match spec.splitOn formerMark with
  | [_, beginning, ending] => return ← formerKey beginning ending
  | _ => pure ()
  let (field, rest) ← count (some "invalid number at field start") spec.toList
  if field = 0 then badKey "field number is zero" spec
  let (place, rest) ← match rest with
    | '.' :: rest => do
      let (n, rest) ← count (some "invalid number after '.'") rest
      if n = 0 then badKey "character offset is zero" spec
      pure (n - 1, rest)
    | rest => pure (0, rest)
  let firstField : Option Nat := if field = 1 ∧ place = 0 then none else some (field - 1)
  let (manner, rest) := lettersOf true false {} rest
  match rest with
  | ',' :: rest => do
    let (last, rest) ← count (some "invalid number after ','") rest
    if last = 0 then badKey "field number is zero" spec
    let (lastPlace, rest) ← match rest with
      | '.' :: rest => count (some "invalid number after '.'") rest
      | rest => pure (0, rest)
    let (manner, rest) := lettersOf false true manner rest
    if rest ≠ [] then badKey "stray character in field spec" spec
    return ⟨firstField, place, some (last - 1), lastPlace, manner, none⟩
  | [] => return ⟨firstField, place, none, 0, manner, none⟩
  | _ => badKey "stray character in field spec" spec

/-- Says that a file stands in the way, and stops. -/
def stopped {α : Type} (what path : String) (r : Refusal) : Tool α :=
  Tool.fail 2 (what ++ ": " ++ Quoting.file path ++ ": " ++ r.message)

/-- The ways that have a word. -/
def mannerWords : List (String × Char) :=
  [("general-numeric", 'g'), ("human-numeric", 'h'), ("month", 'M'), ("numeric", 'n'), ("random", 'R'), ("version", 'V')]

/-- Finds the first line that is not in order: its number and text. -/
def disorder? (r : Rules) (unique : Bool) : Nat → List Line → Option (Nat × String)
  | n, a :: b :: rest =>
    let o := r.compare a b
    if o == .gt || (unique && o == .eq) then some (n + 1, b.text) else disorder? r unique (n + 1) (b :: rest)
  | _, _ => none

/-- The options. -/
def options : List Known :=
  [flag "b" "ignore-leading-blanks", wordMayTake "check", flag "c", flag "C", flag "d" "dictionary-order",
    flag "f" "ignore-case", wordTaking "files0-from", flag "g" "general-numeric-sort", flag "i" "ignore-nonprinting",
    taking "k" "key", flag "m" "merge", flag "M" "month-sort", flag "n" "numeric-sort", flag "h" "human-numeric-sort",
    flag "V" "version-sort", flag "R" "random-sort", wordTaking "random-source", wordTaking "sort", taking "o" "output",
    flag "r" "reverse", flag "s" "stable", taking "S" "buffer-size", taking "t" "field-separator",
    taking "T" "temporary-directory", flag "u" "unique", flag "z" "zero-terminated", wordTaking "parallel",
    word "debug", wordTaking "batch-size", wordTaking "compress-program"]

/-- Whether the next argument belongs to an option. -/
def takesNext (arg : String) : Bool :=
  if arg.startsWith "--" then
    !arg.toList.contains '=' && options.any fun o => o.arity == .required && (o.word.any fun w => w.startsWith (arg.drop 2).toString)
  else
    match arg.toList with
    | '-' :: cs =>
      match cs.dropWhile fun c => !options.any fun o => o.key == String.singleton c && o.arity == .required with
      | [_] => true
      | _ => false
    | _ => false

/-- Arguments with keys in the old way made options. -/
def withKeys : List String → List String
  | [] => []
  | "--" :: rest => "--" :: rest
  | arg :: next :: rest =>
    if takesNext arg then arg :: next :: withKeys rest
    else if beginsFormer arg then
      if endsFormer next then "-k" :: (formerMark ++ arg ++ formerMark ++ next) :: withKeys rest
      else "-k" :: (formerMark ++ arg ++ formerMark) :: withKeys (next :: rest)
    else arg :: withKeys (next :: rest)
  | [arg] => if beginsFormer arg then ["-k", formerMark ++ arg ++ formerMark] else [arg]

/-- Stops because the argument of an option is no number that can be used. -/
def badNumber {α : Type} (option_ s : String) : Tool α :=
  let (digits, rest) := (s.toList.dropWhile fun c => c == ' ' || c == '+').span Char.isDigit
  let what := option_ ++ " argument '" ++ s ++ "'"
  Tool.fail 2 (if digits = [] then "invalid " ++ what else if rest ≠ [] then "invalid suffix in " ++ what else what ++ " too large")

/-- Checks an argument that says how much memory is used. -/
def checkSize (option_ s : String) : Tool Unit := do
  let (digits, rest) := (s.toList.dropWhile fun c => c == ' ' || c == '+').span Char.isDigit
  let fine : Bool := match rest with
    | [] => true
    | ['b'] | ['%'] => true
    | c :: rest => "EgGkKmMPtTYZ".toList.contains c && (rest == [] || rest == ['B'] || rest == ['i', 'B'])
  if digits = [] ∨ ¬ fine then badNumber option_ s

/-- Checks an argument that says how many processors are used. -/
def checkProcessors (s : String) : Tool Unit := do
  match Numbers.whole s with
  | .ok 0 => Tool.fail 2 "number in parallel must be nonzero"
  | .ok _ | .error .tooLarge => pure ()
  | .error .invalid => badNumber "--parallel" s

/-- Checks an argument that says how many files are joined at once. -/
def checkBatch (s : String) : Tool Unit := do
  let large : Tool Unit := do
    Tool.say ("--batch-size argument " ++ Quoting.local_ s ++ " too large")
    Tool.fail 2 ("maximum --batch-size argument with current rlimit is " ++ Quoting.local_ "1048573")
  match Numbers.whole s with
  | .ok n =>
    if n < 2 then
      Tool.say ("invalid --batch-size argument " ++ Quoting.local_ s)
      Tool.fail 2 ("minimum --batch-size argument is " ++ Quoting.local_ "2")
    if 1048573 < n then large
  | .error .tooLarge => large
  | .error .invalid => badNumber "--batch-size" s

/-- Checks the arguments of options, in order. -/
def checkOptions (g : Given) : Tool Unit := do
  let once (k what : String) : Tool Unit := do
    match g.all k with
    | a :: b :: _ => if a ≠ b then Tool.fail 2 ("multiple " ++ what ++ " specified")
    | _ => pure ()
  for (k, v) in g.options do
    let s := v.getD ""
    match k with
    | "S" => checkSize "-S" s
    | "parallel" => checkProcessors s
    | "batch-size" => checkBatch s
    | "check" => if v.isSome then discard <| Options.choice 1 "--check" [["quiet", "silent"], ["diagnose-first"]] s
    | _ => pure ()
  once "o" "output files"
  once "compress-program" "compress programs"
  once "random-source" "random sources"

/-- Tells about keys before anything is put in order. -/
def explain (keys : List Key) (usual : Manner) (mark : Option Char) (whole keysOnly : Bool) : Tool Unit := do
  let s ← get
  let valueOf (name : String) : Option String := (s.environment.find? fun (n, _) => n == name).map Prod.snd
  let name := Text.Locale.nameFor valueOf "LC_COLLATE"
  let isValid := Text.Locale.categories.all fun c => (Text.Locale.ofName? (Text.Locale.nameFor valueOf c)).isSome
  if ¬ isValid then Tool.say "failed to set locale"
  if isValid ∧ name ≠ "C" ∧ name ≠ "POSIX" then
    Tool.say ("text ordering performed using " ++ Quoting.local_ name ++ " sorting rules")
  else Tool.say "text ordering performed using simple byte comparison"
  for remark in remarks keys usual mark whole keysOnly do Tool.say remark

/-- Puts lines in order. -/
def sort (args : List String) : Tool Nat := do
  let g ← Options.read { known := options, status := 2 } (withKeys args)
  checkOptions g
  let name ← Tool.name
  Tool.ifUnwritten fun r => "fflush failed: 'standard output': " ++ r.message ++ "\n" ++ name ++ ": write error"
  let keys ← (g.all "k").mapM keyOf
  let mark ← match g.last? "t" with
    | none => pure none
    | some "" => Tool.fail 2 "empty tab"
    | some "\\0" => pure (some '\x00')
    | some s => match s.toList with
      | [c] => pure (some c)
      | _ => Tool.fail 2 ("multi-character tab " ++ Quoting.local_ s)
  let given ← match g.last? "sort" with
    | none => pure []
    | some s => do
      let chosen ← Options.choice 1 "--sort" (mannerWords.map fun (w, _) => [w]) s
      pure ((mannerWords.filter fun (w, _) => w == chosen).map Prod.snd)
  let usual : Manner := g.options.foldl (fun m (k, _) => match k.toList with
    | [c] => (m.letter? true true c).getD m
    | _ => m) {}
  let usual := given.foldl (fun m c => (m.letter? true true c).getD m) usual
  let full (k : Key) : Key :=
    if k.manner.isUsual && !k.manner.reverse then { k with manner := usual } else k
  let keys := keys.map full
  let whole := keys.isEmpty
  let keys := if whole && !usual.isUsual then [⟨none, 0, none, 0, usual, none⟩] else keys
  for k in keys do
    match k.manner.conflict? with
    | some letters => Tool.fail 2 ("options '-" ++ letters ++ "' are incompatible")
    | none => pure ()
  let check := (g.options.reverse.find? fun (k, _) => k == "c" || k == "C" || k == "check").map fun (k, v) =>
    if k = "C" ∨ v = some "quiet" ∨ v = some "silent" then "C" else "c"
  if g.has "c" ∧ g.has "C" then Tool.fail 2 "options '-cC' are incompatible"
  let debug := g.has "debug"
  let keysOnly := g.has "u" || g.has "s"
  if debug then
    match check.map (fun c => if c = "c" then "c" else "C") <|> (g.last? "o").map fun _ => "o" with
    | some c => Tool.fail 2 ("options '-" ++ c ++ " --debug' are incompatible")
    | none => explain keys usual mark (whole && !usual.isUsual) keysOnly
  match check, g.last? "o" with
  | some c, some _ => Tool.fail 2 ("options '-" ++ c ++ "o' are incompatible")
  | _, _ => pure ()
  let paths ← match g.last? "files0-from" with
    | some list => do
      let (names, whole) ← Options.listedIn 2 "open failed:" list g.operands
      if ¬ whole then throw 2
      if names = [] then Tool.fail 2 ("no input from " ++ Quoting.always list)
      pure names
    | none => pure (if g.operands = [] then ["-"] else g.operands)
  match check, paths with
  | some c, _ :: extra :: _ =>
    Tool.fail 2 ("extra operand " ++ Quoting.always extra ++ " not allowed with -" ++ c)
  | _, _ => pure ()
  match if keys.any fun k => k.manner.random then g.last? "random-source" else none with
  | some source =>
    match ← Tool.openInput source with
    | .ok d => Tool.closeInput d
    | .error r => stopped "open failed" source r
  | none => pure ()
  let ending : UInt8 := if g.has "z" then 0 else 10
  let unique := g.has "u"
  let rules : Rules := ⟨keys, mark, usual.reverse, keysOnly, (← Proc.now)⟩
  -- All files have to be there before any is read.
  for path in paths do
    if path ≠ "-" then
      let (fs, place) ← Proc.files
      match fs.walk true place (Text.Octets.toText path) with
      | .error r => if (Kernel.ownDescriptor? path).isNone then stopped "cannot read" path r
      | .ok _ => pure ()
  let files ← paths.mapM fun path => do
    match ← Tool.contentOf path with
    | .error .badDescriptor => stopped (if check.isSome then "read failed" else "stat failed") path .badDescriptor
    | .error r => stopped "read failed" path r
    | .ok bytes => pure ((Tool.linesOf ending bytes).1.map fun b => rules.line (Text.Octets.ofBytes b))
  match check with
  | some c =>
    match disorder? rules unique 1 files.flatten with
    | none => return 0
    | some (n, line) =>
      if c = "c" then Tool.say (Quoting.file (paths.headD "-") ++ ":" ++ toString n ++ ": disorder: " ++ line)
      return 1
  | none =>
    let precedes (a b : Line) : Bool := rules.compare a b != .gt
    let sorted := if g.has "m" then files.foldl (fun all file => all.merge file precedes) []
      else files.flatten.mergeSort precedes
    let sorted := if unique then rules.distinct sorted else sorted
    match g.last? "o" with
    | some path =>
      match ← Proc.openAs 1 Kernel.OpenMode.output path with
      | .ok () => pure ()
      | .error r => stopped "open failed" path r
    | none => pure ()
    let endMark := Char.ofNat ending.toNat
    let l ← Tool.locale
    for line in sorted do
      Proc.step
      if debug then for row in rules.drawn l line.text do Tool.emitLine row
      else Tool.emit (line.text.push endMark)
    return 0

end TaskRunner.Tools.Sorting
