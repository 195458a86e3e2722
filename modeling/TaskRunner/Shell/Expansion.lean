import TaskRunner.Shell.Braces
import TaskRunner.Shell.Escapes
import TaskRunner.Shell.Fields
import TaskRunner.Shell.Parameters
import TaskRunner.Shell.Paths
import TaskRunner.Shell.Prompts

/-!
# What words stand for

A word is expanded piece by piece into parts, which are then cut into fields and matched against the
files, or taken as one text, or as a pattern. How the output of a command is found, and what stands for
a command that is connected with, is said by `Means`.
-/

namespace TaskRunner.Shell

open Processes

/-- What words need besides the shell that they are in. -/
structure Means where
  /-- The output of a command. -/
  output : Option Command → Sh String
  /-- The name of a file that a command is connected with. -/
  connection : Bool → Option Command → Sh String

/-- Where a tilde stands for a directory. -/
inductive Tilde where
  | nowhere
  | atStart
  /-- At the beginning, and after every colon. -/
  | inValue
  deriving DecidableEq

/-- How a word is expanded. -/
structure Manner where
  quoted : Bool
  /-- Whether it becomes several fields. -/
  splits : Bool
  /-- Whether bytes that stand for themselves are cut too. -/
  inside : Bool
  tilde : Tilde

namespace Expansion

open Sh (fail complain)

/-- How deep parameters may lie in one another. -/
def mostDeep : Nat := 1000000

/-! ## Arithmetic -/

/-- The place of an array that a text stands for, as a key. -/
def readItem (s : State) (now : Nat) (l : Arithmetic.Extended.Label) : Option String :=
  match l.subscript with
  | none => (Parameters.named s now l.name).items.head?
  | some key =>
    let content := (Sh.binding? s l.name).bind Variable.content
    match content with
    | some (.table items) => items.find? key
    | content =>
      match Parameters.ownArray s l.name, content with
      | some items, none => (key.toNat?).bind fun n => items[n]?
      | _, content => (key.toInt?).bind fun n => Arrays.at? content n

/-- Puts what an expression has assigned in variables. -/
def assignAll : List (Arithmetic.Extended.Label × Int) → Sh Unit
  | [] => pure ()
  | (l, n) :: rest => do
    match l.subscript with
    | none => Sh.assign l.name (toString n)
    | some key =>
      if Arrays.isTable (← get) l.name then Arrays.putUnder l.name key false (toString n)
      else discard <| Arrays.putAt l.name ((key.toInt?).getD 0) false (toString n)
    assignAll rest

/-- The value of an expression, or a message that has been given. -/
def valueOf (expression : String) : Sh (Except Unit Int) := do
  let s ← get
  match s.dialect with
  | .plain =>
    let environment (name : String) : Option String := Sh.value? s name
    match Arithmetic.Plain.value environment expression with
    | .ok (n, assigned) =>
      for (name, v) in assigned.reverse do Sh.assign name (toString v)
      return .ok n
    | .error (.expression message) => fail ("arithmetic expression: " ++ message ++ ": \"" ++ expression ++ "\"")
    | .error (.number value) => fail ("Illegal number: " ++ value)
    | .error .overflow => Proc.finish (.killed 8)
  | .extended =>
    let now ← Proc.now
    if (expression.splitOn "RANDOM").length > 1 then Sh.drawNumber
    let env : Arithmetic.Extended.Environment := ⟨readItem (← get) now, Arrays.isTable s⟩
    match Arithmetic.Extended.value env expression with
    | .ok (n, assigned) =>
      assignAll assigned.reverse
      return .ok n
    | .error f =>
      let expression := String.ofList (f.expression.toList.dropWhile fun c => c == ' ' || c == '\t' || c == '\n')
      Sh.complainAbout (expression ++ ": " ++ f.message ++ " (error token is \"" ++ f.rest ++ "\")")
      return .error ()

/-- The value of an expression in a word. -/
def arithmetic (expression : String) : Sh Int := do
  let command := (← get).command
  if ← Sh.isExtended then modify fun s => { s with command := none }
  match ← valueOf expression with
  | .ok n =>
    modify fun s => { s with command }
    return n
  | .error () => throw (.discard 1)

/-! ## Directories -/

/-- The directory that a name after a tilde stands for. -/
def home (s : State) (name : String) : Option String :=
  match name with
  | "" =>
    match Sh.value? s "HOME", s.dialect with
    | some h, _ => some h
    | none, .extended => some "/root"
    | none, .plain => none
  | "root" => some "/root"
  | "+" => if s.dialect = .extended then Sh.value? s "PWD" else none
  | "-" => if s.dialect = .extended then Sh.value? s "OLDPWD" else none
  | "daemon" => some "/usr/sbin"
  | "bin" => some "/bin"
  | "nobody" => some "/nonexistent"
  | name => if s.dialect = .extended then inStack name else none
where
  /-- The directory in the stack that a number, perhaps with a sign, stands for. -/
  inStack (name : String) : Option String :=
    let all := s.directory :: s.directories
    let digits := if name.startsWith "+" ∨ name.startsWith "-" then (name.drop 1).toString else name
    if ¬ digits.toList.all Char.isDigit then none
    else (digits.toNat?).bind fun n =>
      if name.startsWith "-" then (if n < all.length then all[all.length - 1 - n]? else none) else all[n]?

/-- The parts of bytes that begin with a tilde, if it stands for a directory; `last` says whether the word ends with the
bytes. -/
def tildeParts (s : State) (t : Tilde) (last : Bool) (bytes : List Char) : Option (Part × List Char) :=
  match bytes with
  | '~' :: rest =>
    let (name, after) := rest.span fun c => c != '/' && !(t = .inValue && c == ':')
    if after = [] ∧ ¬ last then none
    else (home s (String.ofList name)).map fun h => (.text h true false, after)
  | _ => none

/-- The parts of bytes that stand for themselves. -/
def plainParts (s : State) (m : Manner) (first last : Bool) (bytes : String) : List Part :=
  let one (cs : List Char) : List Part := if cs = [] then [] else [.text (String.ofList cs) false m.inside]
  match m.tilde with
  | .nowhere => [.text bytes false m.inside]
  | .atStart =>
    match if first then tildeParts s .atStart last bytes.toList else none with
    | some (p, rest) => p :: one rest
    | none => [.text bytes false m.inside]
  | .inValue =>
    if ¬ bytes.toList.contains '~' then [.text bytes false m.inside]
    else
      let rec go : Nat → Bool → List Char → List Char → List Part
        | 0, _, read, rest => one (read.reverse ++ rest)
        | _, _, read, [] => one read.reverse
        | n + 1, start, read, c :: cs =>
          match if start then tildeParts s .inValue last (c :: cs) else none with
          | some (p, rest) => one read.reverse ++ p :: go n false [] rest
          | none => go n (c == ':') (c :: read) cs
      go (bytes.length + 1) first [] bytes.toList

/-! ## Parameters -/

/-- The parts of one text. -/
def oneText (m : Manner) (s : String) : List Part := [.text s m.quoted (m.splits && !m.quoted)]

/-- Puts a part between others. -/
def between (p : Part) : List Part → List Part
  | [] => []
  | [a] => [a]
  | a :: rest => a :: p :: between p rest

/-- The parts of what a parameter stands for. -/
def partsOf (s : State) (m : Manner) (f : Parameters.Found) : List Part :=
  if ¬ f.many then
    match f.items with
    | [] => []
    | item :: _ => oneText m item
  else
    let joiner := Parameters.joiner s
    let texts := f.items.map fun item => Part.text item m.quoted (m.splits && !m.quoted)
    let joinedBy (j : String) : List Part := oneText m (j.intercalate f.items)
    if m.splits then
      if m.quoted then
        if f.separately then between .gap texts else joinedBy joiner
      else
        let hard := String.singleton Fields.hardSeparator
        match s.dialect with
        | .plain => between (.text hard false true) texts
        | .extended => between (.text (if joiner = "" then hard else joiner) false true) texts
    else if f.separately ∧ s.dialect = .extended then joinedBy " "
    else joinedBy joiner

/-- The name of a parameter as messages give it. -/
def shownName (name : String) (subscript : Option Word) : String :=
  match subscript with
  | some w => name ++ "[" ++ Listing.word w ++ "]"
  | none => name

/-- Stops because a parameter is not set. -/
def unset {α : Type} (name message : String) : Sh α := do
  complain (name ++ ": " ++ message)
  match (← get).dialect with
  | .plain => throw (.error 2)
  | .extended => throw (.exit 127)

/-- Whether a piece stands for as many fields as there are texts. -/
def isAll : Piece → Bool
  | .parameter "@" none false _ _ _ => true
  | .parameter _ (some [.text "@"]) _ _ _ _ => true
  | .parameter _ _ _ (.names true) _ _ => true
  | _ => false

/-- Expands the pieces of a word, given how words and parameters are expanded. -/
def piecesFrom (parts : Manner → Word → Sh (List Part)) (parameter : Manner → Piece → Sh (List Part)) (means : Means)
    (m : Manner) : Bool → Bool → Word → List (List Part) → Sh (List Part)
  | _, _, [], read => return read.reverse.flatten
  | quotes, first, piece :: rest, read => do
    let quoted := m.quoted || quotes
    match piece with
    | .quote _ =>
      -- All parameters in quotes and nothing else are as many fields as there are parameters.
      let alone : Option Piece := match quotes, m.splits, rest with
        | false, true, p :: .quote _ :: _ => if isAll p then some p else none
        | _, _, _ => none
      match alone with
      | some p =>
        let found ← parameter { m with quoted := true } p
        piecesFrom parts parameter means m false false (rest.drop 2) (found :: read)
      | none => piecesFrom parts parameter means m (!quotes) false rest ([.text "" true false] :: read)
    | .text s =>
      if quoted then piecesFrom parts parameter means m quotes false rest ([.text s true false] :: read)
      else
        let found := plainParts (← get) m first (rest.isEmpty) s
        piecesFrom parts parameter means m quotes false rest (found :: read)
    | .escaped c => piecesFrom parts parameter means m quotes false rest ([.text (String.singleton c) true false] :: read)
    | .parameter .. =>
      let found ← parameter { m with quoted } piece
      piecesFrom parts parameter means m quotes false rest (found :: read)
    | .command c _ =>
      let s ← means.output c
      piecesFrom parts parameter means m quotes false rest (oneText { m with quoted } s :: read)
    | .arithmetic e =>
      let text := Fields.joined (← parts ⟨true, false, false, .nowhere⟩ e)
      let n ← arithmetic text
      piecesFrom parts parameter means m quotes false rest (oneText { m with quoted } (toString n) :: read)
    | .connected reads c =>
      let path ← means.connection reads c
      piecesFrom parts parameter means m quotes false rest ([.text path true false] :: read)
termination_by _ _ w => w.length
decreasing_by all_goals simp only [List.length_cons, List.length_drop]; omega

/-- The pattern of cells. -/
def globOf (s : State) (cells : List Glob.Cell) : List Glob := Glob.read (Sh.style s (Sh.isOn s "extglob") false) cells

/-- The text of a word that is not cut. -/
def textOf (parts : Manner → Word → Sh (List Part)) (quoted : Bool) (w : Word) : Sh String := do
  return Fields.joined (← parts ⟨quoted, false, false, .nowhere⟩ w)

/-- The parameter that another one names. -/
def target (value : String) : Option (String × Option Word) :=
  match value.toList.span (· != '[') with
  | (name, []) =>
    let name := String.ofList name
    if isName name ∨ (name ≠ "" ∧ name.toList.all Char.isDigit) ∨ ["@", "*", "#", "?", "$", "!", "-"].contains name then
      some (name, none)
    else none
  | (name, _ :: rest) =>
    let name := String.ofList name
    if isName name ∧ rest.getLast? = some ']' then some (name, some (Word.ofText (String.ofList rest.dropLast))) else none

/-- Finds what a parameter stands for. -/
def find (parts : Manner → Word → Sh (List Part)) (name : String) (subscript : Option Word) : Sh Parameters.Found := do
  let now ← if (← get).dialect = .plain then pure 0 else Proc.now
  let s ← get
  -- A reference may stand for a place in an array.
  let (name, subscript) := match subscript, target (Sh.resolve s 8 name) with
    | none, some (base, some place) => (base, some place)
    | _, _ => (name, subscript)
  match subscript with
  | none =>
    if name = "RANDOM" then Sh.drawNumber
    return Parameters.named (← get) now name
  | some [] =>
    complain ("$\x7b" ++ name ++ "[]\x7d: bad substitution")
    throw (.discard 1)
  | some [.text "@"] => return Parameters.all s name true
  | some [.text "*"] => return Parameters.all s name false
  | some w =>
    let key ← textOf parts false w
    let wrong : Sh Unit := complain (name ++ ": bad array subscript")
    if Arrays.isTable s name then
      if key = "" then wrong
      return .ofOption (readItem s now ⟨name, some key⟩)
    else
      let n ← arithmetic key
      match (Sh.binding? s name).bind Variable.content with
      | some (.array items) => if (Arrays.placeOf items n).isNone then wrong
      | _ => pure ()
      return .ofOption (readItem s now ⟨name, some (toString n)⟩)

/-- Assigns a text to a parameter that has no value. -/
def assignDefault (parts : Manner → Word → Sh (List Part)) (name : String) (subscript : Option Word) (value : String) :
    Sh Unit := do
  if ¬ isName name then
    match (← get).dialect with
    | .plain => fail (name ++ ": bad variable name")
    | .extended =>
      complain ("$" ++ name ++ ": cannot assign in this way")
      throw (.discard 1)
  match subscript with
  | none => Sh.assign name value
  | some w =>
    let key ← textOf parts false w
    if Arrays.isTable (← get) name then Arrays.putUnder name key false value
    else discard <| Arrays.putAt name (← arithmetic key) false value

/-- The items of a list from a place on. -/
def sliceItems (items : List String) (offset : Int) (length : Option Int) : Option (List String) :=
  let size : Int := items.length
  let start := if offset < 0 then size + offset else offset
  if start < 0 then some []
  else match length with
    | none => some (items.drop start.toNat)
    | some n => if n < 0 then none else some ((items.drop start.toNat).take n.toNat)

/-- The items of an array from a number on. -/
def sliceArray (s : State) (name : String) (found : Parameters.Found) (offset : Int) (length : Option Int) :
    Option (List String) :=
  match (Sh.binding? s name).bind Variable.content with
  | some (.array items) =>
    let size : Int := match items.getLast? with
      | some (k, _) => k + 1
      | none => 0
    let start := if offset < 0 then size + offset else offset
    if start < 0 then some []
    else
      let rest := (items.filter fun (k, _) => start ≤ (k : Int)).map Prod.snd
      match length with
      | none => some rest
      | some n => if n < 0 then none else some (rest.take n.toNat)
  | _ => sliceItems found.items offset length

/-- Expands a parameter. -/
def parameterWith (parts : Manner → Word → Sh (List Part)) (m : Manner) : Piece → Sh (List Part)
  | .parameter name subscript indirect form colon operands => do
    let extended ← Sh.isExtended
    let operand := operands.headD []
    let pattern (w : Word) : Sh (List Glob.Cell) := do
      return Fields.cellsOf (← parts ⟨false, false, false, .atStart⟩ w)
    if form = .bad then
      match (← get).dialect with
      | .plain => fail "Bad substitution"
      | .extended =>
        complain ("$\x7b" ++ name ++ Listing.word operand ++ "\x7d: bad substitution")
        throw (.discard 1)
    match form with
    | .names separately =>
      let s ← get
      let found := ((Parameters.listed s).map Prod.fst).filter fun n => n.startsWith name
      return partsOf s m ⟨found, true, separately, true⟩
    | .keys =>
      let s ← get
      let separately := match subscript with
        | some [.text "@"] => true
        | _ => false
      let keys := match Parameters.ownArray s name with
        | some items => (List.range items.length).map toString
        | none => (Arrays.items s name).map Prod.fst
      return partsOf s m ⟨keys, true, separately, true⟩
    | _ => pure ()
    let here ← get
    -- A reference is named itself.
    match here.vars.find? name, indirect && subscript.isNone && form == .value with
    | some { reference := true, content := some (.scalar target), .. }, true => return oneText m target
    | _, _ => pure ()
    -- The parameter, or the one that it names.
    let (name, subscript) ← if indirect then do
        let found ← find parts name subscript
        match found.items.head? with
        | some value =>
          match target value with
          | some t => pure t
          | none =>
            complain (value ++ ": invalid variable name")
            throw (.discard 1)
        | none =>
          complain (shownName name subscript ++ ": invalid indirect expansion")
          throw (.discard 1)
      else pure (name, subscript)
    let found ← find parts name subscript
    let s ← get
    let isNull := colon && "".intercalate found.items == ""
    let present := found.isSet && !isNull
    let inner : Manner := { m with inside := m.splits, tilde := if m.quoted then .nowhere else .atStart }
    let given (f : Parameters.Found) : Sh (List Part) := return partsOf s m f
    let mapped (f : List Char → List Char) : Sh (List Part) := do
      if ¬ extended ∧ found.many then
        let text := (if Parameters.joiner s = "" then "" else " ").intercalate found.items
        return oneText m (Text.Octets.ofCharacters (f ((Sh.locale s).characters text)))
      else given { found with items := found.items.map fun item => Text.Octets.ofCharacters (f ((Sh.locale s).characters item)) }
    let checkSet : Sh Unit := do
      let isAll := name = "@" ∨ name = "*" ∨ found.many
      if ¬ found.isSet ∧ Sh.isOn s "nounset" ∧ ¬ isAll then
        unset (shownName name subscript) (if extended then "unbound variable" else "parameter not set")
    match form with
    | .value =>
      checkSet
      given found
    | .default => if present then given found else parts inner operand
    | .alternative => if present then parts inner operand else return []
    | .assign =>
      if present then given found
      else
        let value := Fields.joined (← parts { m with splits := false, inside := false, tilde := .inValue } operand)
        if ¬ extended ∧ (name = "@" ∨ name = "*") ∧ s.params = [] then return []
        assignDefault parts name subscript value
        return oneText m (Fields.joined (partsOf (← get) { m with splits := false } (← find parts name subscript)))
    | .demand =>
      if present then given found
      else
        let message := Fields.joined (← parts { m with splits := false, inside := false, tilde := .atStart } operand)
        let message :=
          if ¬ operand.isEmpty then message
          else if ¬ colon then "parameter not set"
          else if extended then "parameter null or not set"
          else "parameter not set or null"
        unset (shownName name subscript) message
    | .length =>
      checkSet
      let size : Nat :=
        if found.many then
          if extended then found.items.length
          else ((if Parameters.joiner s = "" then "" else " ").intercalate found.items).length
        else ((Sh.locale s).characters (found.items.headD "")).length
      return oneText m (toString size)
    | .trimStart longest =>
      checkSet
      let p := globOf s (← pattern operand)
      mapped (Glob.trimStart p longest)
    | .trimEnd longest =>
      checkSet
      let p := globOf s (← pattern operand)
      mapped (Glob.trimEnd p longest)
    | .slice =>
      let offset ← arithmetic (← textOf parts false operand)
      let length ← match operands.drop 1 with
        | [] => pure none
        | w :: _ => some <$> (do arithmetic (← textOf parts false w))
      let below (n : Int) : Sh (List Part) := do
        complain (toString n ++ ": substring expression < 0")
        throw (.discard 1)
      let isText : Bool := match subscript, (Sh.binding? s name).bind Variable.content with
        | some _, some (.scalar _) => true
        | _, _ => false
      if found.many ∧ ¬ isText then
        let items :=
          if name = "@" ∨ name = "*" then
            if offset = 0 then sliceItems (s.zero :: s.params) 0 length
            else if offset < 0 then sliceItems (s.zero :: s.params) offset length
            else sliceItems s.params (offset - 1) length
          else sliceArray s name found offset length
        match items with
        | some items => given { found with items }
        | none => below (length.getD 0)
      else match found.items with
        | [] =>
          checkSet
          return []
        | item :: _ =>
          match Parameters.slice ((Sh.locale s).characters item) offset length with
          | .ok cs => given { found with items := [Text.Octets.ofCharacters cs] }
          | .error n => below n
    | .replace place =>
      checkSet
      let p := Glob.read (Sh.style s (Sh.isOn s "extglob") (Sh.isOn s "nocasematch")) (← pattern operand)
      let replacement := Glob.decode (Sh.locale s) (Fields.cellsOf (← parts ⟨false, false, false, .atStart⟩ ((operands.drop 1).headD [])))
      let replacement := if Options.holds s "patsub_replacement" true then replacement
        else replacement.map fun (c, _) => (c, true)
      mapped (Parameters.replace place p replacement)
    | .casing kind every =>
      checkSet
      let p ← if operand.isEmpty then pure none else do pure (some (globOf s (← pattern operand)))
      mapped (Parameters.casing kind every p)
    | .transform letter =>
      match letter, found.many && (name == "@" || name == "*"), found.many && subscript.isSome with
      | 'A', true, _ =>
        return if found.items = [] then [] else oneText m ("set -- " ++ " ".intercalate (found.items.map Quoting.single))
      | 'K', _, true => return if found.items = [] then [] else oneText m (Parameters.pairs s name)
      | 'k', _, true => given { found with items := (Arrays.items s name).flatMap fun (k, v) => [k, v] }
      | _, _, _ =>
      match letter with
      | 'a' => given { found with items := [((Sh.binding? s name).map Parameters.attributes).getD ""] }
      | 'A' =>
        match Sh.binding? s name with
        | some v =>
          let text := match v.content with
            | some (.scalar value) =>
              if Parameters.attributes v = "" then name ++ "=" ++ Quoting.single value
              else "declare -" ++ Parameters.attributes v ++ " " ++ name ++ "=" ++ Quoting.single value
            | _ => Parameters.declaration name v
          return oneText m text
        | none => return []
      | 'E' =>
        given { found with items := found.items.map fun item =>
          (Escapes.convert { octal := true, hexadecimal := true, escape := true, quotes := true, control := true } item).1 }
      | 'P' =>
        let now ← Proc.now
        let items ← found.items.mapM fun item => do
          let s ← get
          let text := Prompts.decode s now item
          match if Options.holds s "promptvars" true then Grammar.textOf? s.dialect s.documents text else none with
          | some (w, documents) => do
            set { s with documents }
            pure (Fields.joined (← parts ⟨true, false, false, .nowhere⟩ w))
          | none => pure text
        given { found with items }
      | letter =>
        match found.items.mapM (Parameters.transformed letter) with
        | some items => given { found with items }
        | none =>
          complain ("$\x7b" ++ name ++ "@" ++ String.singleton letter ++ "\x7d: bad substitution")
          throw (.discard 1)
    | _ => return []
  | _ => return []

/-- The parts of what a word stands for. -/
def parts (means : Means) : Nat → Manner → Word → Sh (List Part)
  | 0, _, _ => return []
  | n + 1, m, w => piecesFrom (parts means n) (parameterWith (parts means n)) means m false true w []

/-! ## What becomes of words -/

/-- The text of a word that is not cut, tildes replaced. -/
def text (means : Means) (w : Word) : Sh String := do
  return Fields.joined (← parts means mostDeep ⟨false, false, false, .atStart⟩ w)

/-- The text of a value that is assigned. -/
def value (means : Means) (w : Word) : Sh String := do
  match w with
  | [] => return ""
  | [.text s] => if ¬ s.toList.contains '~' then return s
  | _ => pure ()
  return Fields.joined (← parts means mostDeep ⟨false, false, false, .inValue⟩ w)

/-- The text of several lines, everything in it quoted. -/
def document (means : Means) (w : Word) : Sh String := do
  return Fields.joined (← parts means mostDeep ⟨true, false, false, .nowhere⟩ w)

/-- The text that a prompt stands for; the prompt itself if it makes no sense. -/
def prompt (means : Means) (text : String) : Sh String := do
  let s ← get
  let now ← Proc.now
  let decoded := match s.dialect with
    | .plain => text
    | .extended => Prompts.decode s now text
  match if Options.holds s "promptvars" true then Grammar.textOf? s.dialect s.documents decoded else none with
  | some (w, documents) =>
    set { s with documents }
    tryCatch (document means w) fun
      | .error _ | .discard _ | .exit _ => return text
      | jump => throw jump
  | none => return decoded

/-- The cells of a pattern. -/
def cells (means : Means) (w : Word) : Sh (List Glob.Cell) := do
  return Fields.cellsOf (← parts means mostDeep ⟨false, false, false, .atStart⟩ w)

/-- How paths are looked for. -/
def pathManner (s : State) : Paths.Manner :=
  let left : List (List Glob.Cell) := match s.dialect with
    | .plain => []
    | .extended => Paths.listed (Sh.valueOf s "GLOBIGNORE")
  ⟨Sh.style s (Sh.isOn s "extglob") (Sh.isOn s "nocaseglob"), Sh.isOn s "dotglob", Sh.isOn s "globstar", left⟩

/-- A field as words: the paths that match it if it is a pattern. -/
def pathsOf (f : Fields.Field) : Sh (List String) := do
  let s ← get
  let isPattern := f.any fun (t, quoted) => !quoted && t.toList.any fun c => c == '*' || c == '?' || c == '[' || c == '('
  if ¬ isPattern ∨ Sh.isOn s "noglob" then return [Fields.bytes f]
  let cells := Fields.cells f
  if ¬ Glob.isSpecial (Sh.isOn s "extglob") cells then return [Fields.bytes f]
  let (fs, place) ← Proc.files
  match Paths.find (pathManner s) fs place cells with
  | [] =>
    if Sh.isOn s "failglob" then
      complain ("no match: " ++ Fields.bytes f)
      throw (.discard 1)
    return if Sh.isOn s "nullglob" then [] else [Fields.bytes f]
  | found => return found

/-- The fields of a word without braces. -/
def simpleFields (means : Means) (w : Word) : Sh (List String) := do
  match w with
  | [.text s] =>
    let isPlain := !s.startsWith "~" && s.toList.all fun c => c != '*' && c != '?' && c != '[' && c != '(' && c != '='
    if isPlain then return [s]
  | _ => pure ()
  let extended ← Sh.isExtended
  let posix := Sh.isOn (← get) "posix"
  let tilde : Tilde := match extended && !posix, w with
    | true, .text s :: _ => if (Grammar.nameBefore s).isSome then .inValue else .atStart
    | _, _ => .atStart
  let found ← match tilde, w with
    | .inValue, .text s :: rest =>
      match Grammar.nameBefore s with
      | some (name, after) =>
        if after.startsWith "=" then do
          let tail := (after.drop 1).toString
          let ps ← parts means mostDeep ⟨false, true, false, .inValue⟩ (if tail = "" then rest else .text tail :: rest)
          pure (.text (name ++ "=") false false :: ps)
        else parts means mostDeep ⟨false, true, false, .atStart⟩ w
      | none => parts means mostDeep ⟨false, true, false, .atStart⟩ w
    | _, _ => parts means mostDeep ⟨false, true, false, .atStart⟩ w
  let fields := Fields.cut (Sh.separators (← get)) found
  List.flatten <$> fields.mapM pathsOf

/-- The fields of a word. -/
def fields (means : Means) (w : Word) : Sh (List String) := do
  let s ← get
  if s.dialect = .extended ∧ Sh.isOn s "braceexpand" then
    match Braces.expand w with
    | [w] => simpleFields means w
    | ws => List.flatten <$> ws.mapM (simpleFields means)
  else simpleFields means w

/-- A word that looks like an assignment, as one field. -/
def assignmentField (means : Means) (w : Word) : Sh (Option String) := do
  match w with
  | .text s :: rest =>
    match Grammar.nameBefore s with
    | some (name, after) =>
      let append := after.startsWith "+=" && (← Sh.isExtended)
      if after.startsWith "=" ∨ append then
        let size := if append then 2 else 1
        let tail := (after.drop size).toString
        let v ← value means (if tail = "" then rest else .text tail :: rest)
        return some (name ++ (if append then "+=" else "=") ++ v)
      else return none
    | none => return none
  | _ => return none

end Expansion

end TaskRunner.Shell
