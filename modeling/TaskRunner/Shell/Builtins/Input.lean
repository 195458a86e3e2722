import TaskRunner.Shell.Builtins.Variables

/-!
# Commands of the shell that read

`read` takes a line of the input apart and puts the fields in variables, `mapfile` puts lines in an
array, and `getopts` takes the parameters apart into options. A line is read up to its end and no
further, so that what follows is left for others.
-/

namespace TaskRunner.Shell.Builtins

open Processes

/-! ## Taking a line apart -/

/-- A byte of a line, and whether a backslash stood before it. -/
abbrev LineByte := Char × Bool

/-- The bytes without what is known about them. -/
def bare (line : List LineByte) : String := String.ofList (line.map Prod.fst)

/-- Whether a byte separates fields, and whether it is a blank that does. -/
def separates (separators : List Char) : LineByte → Bool × Bool
  | (c, escaped) =>
    let does := !escaped && separators.contains c
    (does, does && (c == ' ' || c == '\t' || c == '\n'))

/-- How far the plain language has taken a line apart. -/
structure Taken where
  /-- The fields that have been found, the last first. -/
  fields : List String
  /-- How many fields there are still to be. -/
  left : Nat
  /-- The field that is being read, its last byte first. -/
  field : List Char
  /-- How long the last field is if nothing else comes. -/
  keeps : Option Nat
  /-- Whether the separator before was a blank. -/
  afterBlank : Bool

/-- Passes over what belongs to a separator; a separator that is no blank only if a blank came first. -/
def passSeparators (separators : List Char) : Bool → List LineByte → List LineByte
  | _, [] => []
  | blankOnly, b :: rest =>
    match separates separators b with
    | (false, _) => b :: rest
    | (true, true) => passSeparators separators blankOnly rest
    | (true, false) => if blankOnly then passSeparators separators false rest else b :: rest

theorem length_passSeparators_le (separators : List Char) (line : List LineByte) :
    ∀ blankOnly, (passSeparators separators blankOnly line).length ≤ line.length := by
  induction line with
  | nil => intro blankOnly; simp [passSeparators]
  | cons b rest ih =>
    intro blankOnly
    unfold passSeparators
    split
    · exact Nat.le_refl _
    · exact Nat.le_succ_of_le (ih _)
    · split
      · exact Nat.le_succ_of_le (ih _)
      · exact Nat.le_refl _

/-- Takes the rest of a line apart. The last field is the rest of the line without the blanks at its end, or, if it
is a single field, without what separates it. -/
def takeFrom (separators : List Char) (t : Taken) : List LineByte → List String
  | [] =>
    let field := t.field.reverse
    let field := match t.keeps with
      | some n => field.take n
      | none => field
    (if field = [] then t.fields else String.ofList field :: t.fields).reverse
  | b :: rest =>
    let (does, blank) := separates separators b
    let pushed : Taken := { t with field := b.1 :: t.field }
    if b.2 then takeFrom separators { pushed with afterBlank := false } rest
    else if t.left = 0 then
      if blank then takeFrom separators { pushed with keeps := t.keeps <|> some t.field.length } rest
      else
        let keeps := if does ∧ t.afterBlank then t.keeps else none
        takeFrom separators { pushed with keeps, afterBlank := false } rest
    else if ¬ does then takeFrom separators pushed rest
    else if t.field = [] ∧ blank then takeFrom separators { t with afterBlank := false } rest
    else if t.left = 1 then
      takeFrom separators { pushed with left := 0, keeps := some t.field.length, afterBlank := blank } rest
    else
      takeFrom separators
        { t with fields := String.ofList t.field.reverse :: t.fields, left := t.left - 1, field := [], afterBlank := blank }
        (passSeparators separators blank rest)
termination_by line => line.length
decreasing_by
  all_goals simp only [List.length_cons]
  all_goals first
    | exact Nat.lt_succ_self _
    | exact Nat.lt_succ_of_le (length_passSeparators_le ..)

/-- The fields of a line in the plain language, at most so many. -/
def plainFields (separators : String) (count : Nat) (line : List LineByte) : List String :=
  takeFrom separators.toList ⟨[], count, [], none, false⟩ line

/-- The first field of a line, and what comes after its separator. -/
def firstField (separators : List Char) (line : List LineByte) : List LineByte × List LineByte :=
  let isBlank (b : LineByte) : Bool := (separates separators b).2
  let (field, after) := (line.dropWhile isBlank).span fun b => !(separates separators b).1
  match after with
  | [] => (field, [])
  | b :: rest => (field, if isBlank b then passSeparators separators true rest else rest.dropWhile isBlank)

/-- The fields of a line in the extended language, as many as there are names. -/
def extendedFields (separators : List Char) : Nat → List LineByte → List String
  | 0, _ => []
  | 1, line =>
    let (field, after) := firstField separators line
    if after.isEmpty then [bare field]
    else [bare (line.reverse.dropWhile fun b => (separates separators b).2).reverse]
  | n + 2, line =>
    let (field, after) := firstField separators line
    bare field :: extendedFields separators (n + 1) after

/-- All fields of a line. -/
def everyField (separators : List Char) : Nat → List LineByte → List String
  | 0, _ => []
  | n + 1, line =>
    if (line.dropWhile fun b => (separates separators b).2).isEmpty then []
    else
      let (field, after) := firstField separators line
      bare field :: everyField separators n after

/-! ## Reading a line -/

/-- What became of the reading of a line. -/
structure Line where
  bytes : List LineByte
  /-- Whether the line was read to its end. -/
  whole : Bool
  /-- Whether the time was over before. -/
  late : Bool
  refused : Option Refusal

/-- Reads some bytes before a time; none if the time is over. -/
def readBefore (descriptor : Nat) (last : UInt8) (deadline : Option Nat) : Sh (Option (Except Refusal ByteArray)) :=
  Proc.await fun pid k =>
    match k.index? pid descriptor with
    | none => .done (some (.error .badDescriptor)) k
    | some i =>
      let count (bytes : ByteArray) (start : Nat) : Nat :=
        (((bytes.extract start bytes.size).data.findIdx? (· == last)).map (· + 1)).getD (bytes.size - start)
      match k.readAt i count 1, deadline with
      | .done r k, _ => .done (some r) (k.modifyProcess pid fun p => { p with wake := none })
      | .waiting k, none => .waiting k
      | .waiting k, some time =>
        if time ≤ k.files.clock then .done none (k.modifyProcess pid fun p => { p with wake := none })
        else .waiting (k.modifyProcess pid fun p => { p with wake := some time })

/-- Adds bytes to a line; gives whether a backslash is left open at their end. -/
def addBytes (raw : Bool) : List Char → Bool → List LineByte → List LineByte × Bool
  | [], open_, line => (line, open_)
  | c :: rest, open_, line =>
    if c = '\x00' then addBytes raw rest open_ line
    else if open_ then addBytes raw rest false (if c = '\n' then line else (c, true) :: line)
    else if c = '\\' ∧ ¬ raw then addBytes raw rest true line
    else addBytes raw rest false ((c, false) :: line)

/-- Reads a line: up to a byte that no backslash stands before. -/
def readLineFrom (descriptor : Nat) (last : Char) (raw : Bool) (deadline : Option Nat) :
    Nat → Bool → List LineByte → Sh Line
  | 0, _, line => return ⟨line.reverse, false, false, none⟩
  | n + 1, open_, line => do
    match ← readBefore descriptor (UInt8.ofNat last.toNat) deadline with
    | none => return ⟨line.reverse, false, true, none⟩
    | some (.error r) => return ⟨line.reverse, false, false, some r⟩
    | some (.ok bytes) =>
      let s := (Text.Octets.ofBytes bytes).toList
      match s.getLast? with
      | none => return ⟨line.reverse, false, false, none⟩
      | some c =>
        if c = last then
          let (line, open_) := addBytes raw s.dropLast open_ line
          if open_ then
            readLineFrom descriptor last raw deadline n false (if last = '\n' then line else (last, true) :: line)
          else return ⟨line.reverse, true, false, none⟩
        else
          let (line, open_) := addBytes raw s open_ line
          readLineFrom descriptor last raw deadline n open_ line

/-- Reads so many characters, or up to a byte if there is one that ends it. -/
def readCountFrom (descriptor : Nat) (last : Option Char) (raw : Bool) : Nat → Nat → Bool → List LineByte → Sh Line
  | 0, _, _, line => return ⟨line.reverse, true, false, none⟩
  | _, 0, _, line => return ⟨line.reverse, true, false, none⟩
  | n + 1, count + 1, open_, line => do
    match ← Proc.read descriptor 1 with
    | .error r => return ⟨line.reverse, false, false, some r⟩
    | .ok bytes =>
      match (Text.Octets.ofBytes bytes).toList with
      | [] => return ⟨line.reverse, false, false, none⟩
      | c :: _ =>
        if open_ then
          if c = '\n' then readCountFrom descriptor last raw n (count + 1) false line
          else readCountFrom descriptor last raw n count false ((c, true) :: line)
        else if some c = last then return ⟨line.reverse, true, false, none⟩
        else if c = '\\' ∧ ¬ raw then readCountFrom descriptor last raw n (count + 1) true line
        else if 0x80 ≤ c.toNat ∧ c.toNat < 0xC0 then readCountFrom descriptor last raw n (count + 1) false ((c, false) :: line)
        else readCountFrom descriptor last raw n count false ((c, false) :: line)

/-- Puts fields in variables; those that get none are empty. -/
def putFields (put : String → String → Sh Unit) : List String → List String → Sh Unit
  | [], _ => return ()
  | name :: names, fields => do
    put name (fields.headD "")
    putFields put names fields.tail

/-- The time that a text gives, in billionths of a second. -/
def timeOf? (s : String) : Option Nat :=
  match s.splitOn "." with
  | [whole] => if isDigits whole then some ((whole.toNat?).getD 0 * 1000000000) else none
  | [whole, part] =>
    if isDigits whole ∧ isDigits part then
      some (((whole ++ (part ++ "000000000").take 9).toNat?).getD 0)
    else none
  | _ => none
where
  /-- Whether a text has only digits. -/
  isDigits (s : String) : Bool := s.toList.all Char.isDigit

/-- Reads a line into variables. -/
def read (args : List String) : Sh Nat := do
  match (← get).dialect with
  | .plain =>
    let (flags, names) ← readOptions "p:r" args
    if names = [] then Sh.fail "arg count"
    let line ← readLineFrom 0 '\n' (flags.any fun (c, _) => c == 'r') none Proc.endless false []
    putPlain names (plainFields (Sh.separators (← get)) names.length line.bytes)
    return if line.whole then 0 else 1
  | .extended =>
    let (flags, names) ← readOptions "ersa:d:i:n:N:p:t:u:" args
    let option (c : Char) : Option String := (flags.reverse.find? fun (d, _) => d == c).map Prod.snd
    match names.find? fun name => !Test.isTarget name with
    | some name =>
      badName name name
      return 1
    | none => pure ()
    let descriptor ← match option 'u' with
      | none => pure 0
      | some text =>
        match text.toNat? with
        | some n =>
          if ¬ (← Proc.isOpen n) then
            Sh.complainAbout (text ++ ": invalid file descriptor: Bad file descriptor")
            throw (.error 1)
          pure n
        | none =>
          Sh.complainAbout (text ++ ": invalid file descriptor specification")
          throw (.error 1)
    let deadline ← match option 't' with
      | none => pure none
      | some text =>
        match timeOf? text with
        | some time => pure (some ((← Proc.now) + time))
        | none =>
          Sh.complainAbout (text ++ ": invalid timeout specification")
          throw (.error 1)
    let raw := (option 'r').isSome
    let last := match option 'd' with
      | some d => d.toList.headD '\x00'
      | none => '\n'
    let count (text : String) : Sh Nat := do
      match text.toNat? with
      | some n => return n
      | none =>
        Sh.complainAbout (text ++ ": invalid number")
        throw (.error 1)
    let line ← match option 'n', option 'N' with
      | none, none => readLineFrom descriptor last raw deadline Proc.endless false []
      | some text, none => do readCountFrom descriptor (some last) raw Proc.endless (← count text) false []
      | _, some text => do readCountFrom descriptor none raw Proc.endless (← count text) false []
    match line.refused with
    | some r => Sh.complainAbout ("read error: " ++ toString descriptor ++ ": " ++ Sh.reason r)
    | none => pure ()
    let s ← get
    let separators := if (option 'N').isSome then [] else (Sh.separators s).toList
    let status := if line.whole then 0 else if line.late then 142 else 1
    match option 'a', names with
    | some array, _ => do
      if ¬ isName array then
        badName array array
        return 1
      Arrays.putAll array (everyField separators (line.bytes.length + 1) line.bytes)
    | none, [] => Sh.assign "REPLY" (bare line.bytes)
    | none, names =>
      let line := line.bytes.dropWhile fun b => (separates separators b).2
      putFields (fun name value => putIn name false value) names (extendedFields separators names.length line)
    return status
where
  /-- Puts fields in variables of the plain language. -/
  putPlain (names fields : List String) : Sh Unit :=
    putFields (fun name value => do
      if ¬ isName name then badName name name
      Sh.assign name value) names fields

/-! ## Lines in an array -/

/-- Reads the lines of the input, at most so many. -/
def readLines (descriptor : Nat) (last : Char) : Nat → List (String × Bool) → Sh (List (String × Bool))
  | 0, read => return read.reverse
  | n + 1, read => do
    let line ← readLineFrom descriptor last true none Proc.endless false []
    if line.whole then readLines descriptor last n ((bare line.bytes, true) :: read)
    else if line.bytes.isEmpty then return read.reverse
    else return ((bare line.bytes, false) :: read).reverse

/-- What is wrong with the numbers that options of `mapfile` take, if anything is. -/
def mapfileFault (flags : List (Char × String)) : Option String :=
  (flags.find? fun (c, text) => match Test.number? text with
    | some n => ("nOsu".toList.contains c && n < 0) || (c == 'c' && n ≤ 0)
    | none => "nOsuc".toList.contains c).map fun (c, text) =>
      text ++ match c with
        | 'u' => ": invalid file descriptor specification"
        | 'O' => ": invalid array origin"
        | 'c' => ": invalid callback quantum"
        | _ => ": invalid line count"

/-- Puts lines in an array; `evaluate` carries out a text before every so many of them. -/
def mapfile (evaluate : String → Sh Unit) (args : List String) : Sh Nat := do
  let (flags, names) ← readOptions "d:n:O:s:tu:C:c:" args
  match mapfileFault flags with
  | some message =>
    Sh.complainAbout message
    return 1
  | none => pure ()
  let option (c : Char) : Option String := (flags.reverse.find? fun (d, _) => d == c).map Prod.snd
  let number (c : Char) (usual : Nat) : Nat := ((option c).bind Test.number?).elim usual Int.toNat
  let last := match option 'd' with
    | some d => d.toList.headD '\x00'
    | none => '\n'
  let source := number 'u' 0
  if ¬ (← Proc.isOpen source) then
    Sh.complainAbout (toString source ++ ": invalid file descriptor: Bad file descriptor")
    return 1
  let name := names.headD "MAPFILE"
  if name = "" then
    Sh.complainAbout "empty array variable name"
    return 1
  if ¬ isName name then
    badName name name
    return 1
  if Arrays.isTable (← get) name then
    Sh.complainAbout (name ++ ": not an indexed array")
    return 1
  let skipped := number 's' 0
  let most := number 'n' 0
  let lines ← readLines source last (if most = 0 then Proc.endless else skipped + most) []
  let texts := (lines.drop skipped).map fun (s, whole) =>
    if (option 't').isSome ∨ ¬ whole then s else s.push last
  match option 'C', option 'O' with
  | none, none => Arrays.putAll name texts
  | call, origin =>
    if origin.isNone then Arrays.putAll name []
    for (s, i) in texts.zipIdx do
      match call with
      | some command =>
        if (i + 1) % number 'c' 5000 = 0 then
          evaluate (command ++ " " ++ toString (number 'O' 0 + i) ++ " " ++ Quoting.single s)
      | none => pure ()
      discard <| Arrays.putAt name ((number 'O' 0 + i : Nat) : Int) false s
  return 0

/-! ## Options of a script -/

/-- What comes of looking for the next option. -/
structure OptionFound where
  /-- The letter, or what says that there is none. -/
  letter : String
  argument : Option String
  index : Nat
  /-- How far the word has been read, zero if the next one is due. -/
  place : Nat
  status : Nat
  complaint : Option String

/-- Whether a letter is among those that are known, and whether it takes an argument. -/
def optionKind (known : String) (c : Char) : Option Bool :=
  match known.toList.dropWhile (· != c) with
  | _ :: rest => if c = ':' then none else some (rest.head? == some ':')
  | [] => none

/-- The next option of words, as the plain language finds it. -/
def nextPlain (known : String) (words : List String) (index place : Nat) : OptionFound :=
  let current := (words[index - 2]?).getD ""
  let silent := known.startsWith ":"
  let going := 1 < index ∧ 0 < place ∧ place < current.length
  let word := (words[index - 1]?).getD ""
  if ¬ going ∧ (¬ word.startsWith "-" ∨ word = "-") then ⟨"?", none, index, 0, 1, none⟩
  else if ¬ going ∧ word = "--" then ⟨"?", none, index + 1, 0, 1, none⟩
  else
    let (chars, index) := if going then (current.toList.drop place, index) else (word.toList.drop 1, index + 1)
    let at_ := if going then place else 1
    let c := chars.headD '?'
    let more := 1 < chars.length
    let next := if more then at_ + 1 else 0
    match optionKind known c with
    | none =>
      if silent then ⟨"?", some (String.singleton c), index, next, 0, none⟩
      else ⟨"?", none, index, next, 0, some ("Illegal option -" ++ String.singleton c)⟩
    | some false => ⟨String.singleton c, some "", index, next, 0, none⟩
    | some true =>
      if more then ⟨String.singleton c, some (String.ofList (chars.drop 1)), index, 0, 0, none⟩
      else match words[index - 1]? with
        | some argument => ⟨String.singleton c, some argument, index + 1, 0, 0, none⟩
        | none =>
          if silent then ⟨":", some (String.singleton c), index, 0, 0, none⟩
          else ⟨"?", none, index, 0, 0, some ("No arg for -" ++ String.singleton c ++ " option")⟩

/-- The next option of words, as the extended language finds it. -/
def nextExtended (known : String) (words : List String) (index place : Nat) : OptionFound :=
  let silent := known.startsWith ":"
  match words[index - 1]? with
  | none => ⟨"?", none, words.length + 1, 0, 1, none⟩
  | some word =>
    let at_ := max place 1
    if place = 0 ∧ word = "--" then ⟨"?", none, index + 1, 0, 1, none⟩
    else if place = 0 ∧ (¬ word.startsWith "-" ∨ word = "-") then ⟨"?", none, index, 0, 1, none⟩
    else
      let chars := word.toList.drop at_
      let c := chars.headD '?'
      let more := 1 < chars.length
      let (index, next) := if more then (index, at_ + 1) else (index + 1, 0)
      match optionKind known c with
      | none =>
        if silent then ⟨"?", some (String.singleton c), index, next, 0, none⟩
        else ⟨"?", none, index, next, 0, some ("illegal option -- " ++ String.singleton c)⟩
      | some false => ⟨String.singleton c, none, index, next, 0, none⟩
      | some true =>
        if more then ⟨String.singleton c, some (String.ofList (chars.drop 1)), index + 1, 0, 0, none⟩
        else match words[index - 1]? with
          | some argument => ⟨String.singleton c, some argument, index + 1, 0, 0, none⟩
          | none =>
            if silent then ⟨":", some (String.singleton c), index, 0, 0, none⟩
            else ⟨"?", none, index, 0, 0, some ("option requires an argument -- " ++ String.singleton c)⟩

/-- Finds the next option among the parameters. -/
def getopts (args : List String) : Sh Nat := do
  let s ← get
  let args ← match s.dialect with
    | .plain => pure args
    | .extended => Prod.snd <$> readOptions "" args
  match args with
  | known :: name :: given =>
    let words := if given = [] then s.params else given
    let found := match s.dialect with
      | .plain =>
        if words.length + 1 < s.optionIndex then nextPlain known words 1 0
        else nextPlain known words s.optionIndex s.optionPlace
      | .extended => nextExtended known words s.optionIndex s.optionPlace
    match found.complaint with
    | some message =>
      let quiet := s.dialect = .extended ∧ Sh.value? s "OPTERR" = some "0"
      if ¬ quiet then
        let lead := if s.dialect = .plain then "" else s.zero ++ ": "
        discard <| Proc.write 2 (Sh.bytes (lead ++ message ++ "\n"))
    | none => pure ()
    match found.argument with
    | some a => Sh.assign "OPTARG" a
    | none =>
      if s.dialect = .extended ∨ found.status = 0 then
        modify fun s => { s with vars := s.vars.erase "OPTARG" }
    Sh.assign "OPTIND" (toString found.index)
    modify fun s => { s with optionIndex := found.index, optionPlace := found.place }
    if ¬ isName name then
      badName name name
      return 1
    Sh.assign name found.letter
    return found.status
  | _ =>
    match s.dialect with
    | .plain => Sh.fail "Usage: getopts optstring var [arg]"
    | .extended =>
      sayUsage
      return 2

/-! ## Expressions -/

/-- The value of expressions: true unless the last of them is zero. -/
def evaluate (args : List String) : Sh Nat := do
  let args := match args with
    | "--" :: rest => rest
    | args => args
  match args with
  | [] =>
    Sh.complainAbout "expression expected"
    return 1
  | args => go args
where
  /-- The value of the last expression decides. -/
  go : List String → Sh Nat
    | [] => return 0
    | a :: rest => do
      match ← Expansion.valueOf a with
      | .error () => return 1
      | .ok n => if rest = [] then return (if n = 0 then 1 else 0) else go rest

end TaskRunner.Shell.Builtins
