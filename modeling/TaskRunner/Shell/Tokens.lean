import TaskRunner.Shell.Listing
import TaskRunner.Shell.Words

/-!
# Reading tokens

A token is a word, a redirection, a mark between commands, or a line end. What a word is besides a word
depends on what may come: a keyword, or an alias, which is replaced by what it stands for.
-/

namespace TaskRunner.Shell.Tokens

open Reader

/-- The words that have a meaning of their own. -/
def keywords : Dialect → List String
  | .plain =>
    ["!", "case", "do", "done", "elif", "else", "esac", "fi", "for", "if", "in", "then", "until", "while", "\x7b", "\x7d"]
  | .extended =>
    ["!", "[[", "case", "coproc", "do", "done", "elif", "else", "esac", "fi", "for", "function", "if", "in", "select",
      "then", "time", "until", "while", "\x7b", "\x7d"]

/-- What a token is called where it cannot stand, in the plain language. -/
def describe : Token → String
  | .word _ _ => "word"
  | .redirect _ _ _ => "redirection"
  | .newline => "newline"
  | .endOfFile => "end of file"
  | .mark s | .keyword s => "\"" ++ s ++ "\""
  | .assignment _ | .arithmetic _ => "word"

/-- The bytes of a token as they could be written. -/
def written : Token → String
  | .word w _ => Listing.word w
  | .redirect _ _ operator => operator
  | .newline => "newline"
  | .endOfFile => "end of file"
  | .mark s | .keyword s => s
  | .assignment _ | .arithmetic _ => "("

/-- Stops because of a token that cannot stand where it stands. -/
def unexpected {α : Type} (t : Token) (expecting : Option String) : Reading α := do
  let r ← get
  match r.dialect with
  | .plain =>
    let hint := match expecting with
      | some s => " (expecting " ++ s ++ ")"
      | none => ""
    throw (.because r.line (describe t ++ " unexpected" ++ hint))
  | .extended =>
    match t with
    | .endOfFile => throw (.endsEarly r.line)
    | _ => throw (.unexpected r.startLine (written t))

/-- The operator of a redirection after its first byte. -/
def redirection (descriptor : Option Nat) (label : String) (first : Char) : Reading Token := do
  let extended ← isExtended
  if first = '>' then
    if ← accept '>' then return .redirect descriptor label ">>"
    if ← accept '|' then return .redirect descriptor label ">|"
    if ← accept '&' then return .redirect descriptor label ">&"
    return .redirect descriptor label ">"
  else
    if ← accept '<' then
      if ← accept '-' then return .redirect descriptor label "<<-"
      if extended then
        if ← accept '<' then return .redirect descriptor label "<<<"
      return .redirect descriptor label "<<"
    if ← accept '&' then return .redirect descriptor label "<&"
    if ← accept '>' then return .redirect descriptor label "<>"
    return .redirect descriptor label "<"

/-- A number that is written before a redirection, or the name of a variable for one. -/
def descriptorOf (d : Dialect) (s : String) : Option (Option Nat × String) :=
  let isDigits := s.toList.all fun c => '0' ≤ c && c ≤ '9'
  if s = "" then some (none, "")
  else if isDigits then
    if d = .plain ∧ s.length ≠ 1 then none else (s.toNat?).map fun n => (some n, "")
  else if d = .extended ∧ s.startsWith "\x7b" ∧ s.endsWith "\x7d" then
    let name := ((s.drop 1).dropEnd 1).toString
    let isPlace : Bool := match name.toList.span (· != '[') with
      | (base, '[' :: rest) => isName (String.ofList base) && 1 < rest.length && rest.getLast? == some ']'
      | _ => false
    if isName name ∨ isPlace then some (none, name) else none
  else none

/-- The items of an array up to the closing parenthesis. -/
def arrayItems (sub : Inner) (line : Nat) : Nat → List (Option Word × Word) → Reading (List (Option Word × Word))
  | 0, read => return read.reverse
  | n + 1, read => do
    match ← nextJoined with
    | none => throw (.unclosed line ")")
    | some ')' => return read.reverse
    | some ' ' | some '\t' => arrayItems sub line n read
    | some '\n' =>
      nextLine
      arrayItems sub line n read
    | some '#' =>
      let _ ← restOfLine manyTimes []
      arrayItems sub line n read
    | some '[' =>
      if Words.beginsPlace (← get).chars then
        let place ← Words.bracketed line manyTimes 0 ""
        let _ ← accept '='
        let subscript ← sub.word place
        let (d, after) ← Words.wordFrom sub none manyTimes false (← nextJoined) (Draft.fresh .bare false)
        unread after
        arrayItems sub line n ((some subscript, d.word) :: read)
      else item '[' n read
    | some c => item c n read
where
  /-- An item without a place. -/
  item (c : Char) (n : Nat) (read : List (Option Word × Word)) : Reading (List (Option Word × Word)) := do
    if ['<', '>', '&', ';', '|', '('].contains c then throw (.unexpected (← get).line (String.singleton c))
    let (d, after) ← Words.wordFrom sub none manyTimes false (some c) (Draft.fresh .bare false)
    unread after
    arrayItems sub line n ((none, d.word) :: read)

/-- A mark that begins with a byte, if one does. -/
def markFrom (c : Char) : Reading (Option Token) := do
  let extended ← isExtended
  match c with
  | '&' =>
    if ← accept '&' then return some (.mark "&&")
    if extended then
      if ← accept '>' then
        if ← accept '>' then return some (.redirect none "" "&>>")
        return some (.redirect none "" "&>")
    return some (.mark "&")
  | '|' =>
    if ← accept '|' then return some (.mark "||")
    if extended then
      if ← accept '&' then return some (.mark "|&")
    return some (.mark "|")
  | ';' =>
    if ← accept ';' then
      if extended then
        if ← accept '&' then return some (.mark ";;&")
      return some (.mark ";;")
    if extended then
      if ← accept '&' then return some (.mark ";&")
    return some (.mark ";")
  | '(' => return some (.mark "(")
  | ')' => return some (.mark ")")
  | _ => return none

/-- A word or a redirection that begins with a byte. -/
def wordOrRedirection (sub : Inner) (c : Option Char) : Reading Token := do
  let r ← get
  let (d, after) ← Words.wordFrom sub none manyTimes false c (Draft.fresh .bare false)
  let isRun := d.isRun && !d.quoted
  match after with
  | some a =>
    if (a = '<' ∨ a = '>') ∧ isRun then
      match descriptorOf r.dialect d.run with
      | some (descriptor, label) => return ← redirection descriptor label a
      | none => pure ()
    if a = '(' ∧ r.dialect = .extended ∧ isRun then
      let s := d.run
      let append := s.endsWith "+="
      let name := (s.dropEnd (if append then 2 else 1)).toString
      if s.endsWith "=" ∧ isName name then
        let items ← arrayItems sub (← get).line manyTimes []
        return .assignment (.array name append items)
    unread after
  | none => pure ()
  return .word d.word d.quoted

/-- A token, whatever may come. -/
def raw (sub : Inner) : Nat → Reading Token
  | 0 => return .endOfFile
  | n + 1 => do
    let c ← nextJoined
    match c with
    | some ' ' | some '\t' => raw sub n
    | some '#' =>
      let _ ← restOfLine manyTimes []
      raw sub n
    | some '\n' =>
      nextLine
      return .newline
    | none => return .endOfFile
    | some b =>
      match ← markFrom b with
      | some t => return t
      | none => wordOrRedirection sub c

/-- A token that was put back, or the next one. -/
def again (sub : Inner) : Reading Token := do
  let r ← get
  if r.again then
    set { r with again := false }
    return r.last
  else
    modify fun r => { r with startLine := r.line }
    raw sub manyTimes

/-- Passes over line ends. -/
def overLines (sub : Inner) : Nat → Token → Reading Token
  | 0, t => return t
  | n + 1, t => do
    match t with
    | .newline =>
      Words.documents sub
      expect {}
      overLines sub n (← again sub)
    | t => return t

/-- What an alias stands for, unless it is being read already. -/
def aliasFor (r : Reader) (s : String) : Option String :=
  if r.inserted.any fun i => i.aliasName == s then none else r.aliases.find? s

/-- The next token, taken for what it may be. -/
def nextFrom (sub : Inner) : Nat → Expectation → Reading Token
  | 0, _ => return .endOfFile
  | n + 1, e => do
    let t ← again sub
    let t ← if e.newlines then overLines sub manyTimes t else pure t
    let r ← get
    let e : Expectation := { e with
      keywords := e.keywords || r.expectation.keywords, aliases := e.aliases || r.expectation.aliases }
    expect {}
    let keep (t : Token) : Reading Token := do
      modify fun r => { r with last := t }
      return t
    match t with
    | .word w false =>
      match Word.plain? w with
      | none => keep t
      | some s =>
        if e.keywords ∧ (keywords r.dialect).contains s then keep (.keyword s)
        else if e.aliases then
          match aliasFor (← get) s with
          | some value =>
            if value ≠ "" then
              let blank := value.endsWith " " || value.endsWith "\t"
              modify fun r => { r with inserted := ⟨value.toList, s, blank⟩ :: r.inserted }
            nextFrom sub n { e with newlines := e.newlines }
          | none => keep t
        else keep t
    | t => keep t

/-- The next token. -/
def next (sub : Inner) : Reading Token := do nextFrom sub manyTimes (← get).expectation

end TaskRunner.Shell.Tokens
