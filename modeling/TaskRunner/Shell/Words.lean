import TaskRunner.Shell.Escapes
import TaskRunner.Shell.Reader

/-!
# Reading words

A word ends before the first byte that is not part of it and not quoted. Inside it, quotations and the
values of parameters can lie in one another; a `Level` says what bytes mean at the moment. A command
whose output is part of a word is read by `Inner.command`, which reads commands up to something
that cannot begin one.
-/

namespace TaskRunner.Shell

/-- What quotes do to the bytes that are read. -/
inductive Quotation where
  | bare
  | single
  | double
  | arithmetic
  deriving DecidableEq, Repr

/-- What bytes mean. -/
structure Level where
  quoting : Quotation
  /-- Whether a double quotation began inside a parameter. -/
  inner : Bool
  /-- Whether the level began with a parameter. -/
  byParameter : Bool
  quoted : Bool
  /-- How many parameters are open. -/
  nest : Nat
  parens : Nat
  /-- How many parameters are open that began in quotes. -/
  quotedNest : Nat
  /-- The lines where what is open began, with what ends it. -/
  opened : List (Nat × String)

/-- A part of a word that is being read. -/
inductive Opened where
  | parameter (name : String) (subscript : Option Word) (indirect : Bool) (form : Form) (colon : Bool)
  | arithmetic

/-- A word that is being read. -/
structure Draft where
  levels : List Level
  /-- The parts that are open, with what was read before them. -/
  outer : List (Opened × Array Piece)
  pieces : Array Piece
  /-- Bytes at the end. -/
  run : String
  quoted : Bool
  /-- Whether the word is a regular expression. -/
  regular : Bool
  /-- How many parentheses are open that belong to a pattern. -/
  groups : Nat
  /-- Whether brackets of a place in an array are open. -/
  brackets : Nat

namespace Level

/-- A level of which nothing is read yet. -/
def fresh (quoting : Quotation) : Level := ⟨quoting, false, false, quoting ≠ .bare && quoting ≠ .single, 0, 0, 0, []⟩

end Level

namespace Draft

/-- A word of which nothing is read yet. -/
def fresh (quoting : Quotation) (regular : Bool) : Draft :=
  ⟨[Level.fresh quoting], [], #[], "", false, regular, 0, 0⟩

/-- What bytes mean at the moment. -/
def level (d : Draft) : Level := d.levels.headD (Level.fresh .bare)

/-- Changes what bytes mean. -/
def modify (d : Draft) (f : Level → Level) : Draft :=
  match d.levels with
  | l :: rest => { d with levels := f l :: rest }
  | [] => d

/-- Adds a byte. -/
def push (d : Draft) (c : Char) : Draft := { d with run := d.run.push c }

/-- Adds bytes. -/
def pushText (d : Draft) (s : String) : Draft := { d with run := d.run ++ s }

/-- The pieces up to here. -/
def flush (d : Draft) : Draft := if d.run = "" then d else { d with pieces := d.pieces.push (.text d.run), run := "" }

/-- Adds a piece. -/
def add (d : Draft) (p : Piece) : Draft := let d := d.flush; { d with pieces := d.pieces.push p }

/-- Begins a part. -/
def enter (d : Draft) (o : Opened) : Draft :=
  let d := d.flush
  { d with outer := (o, d.pieces) :: d.outer, pieces := #[] }

/-- Splits pieces at a byte that is not quoted, at most so many times. -/
def splitAt (separator : Char) : Nat → Bool → List Piece → List Piece → List (List Piece)
  | _, _, before, [] => [before.reverse]
  | n, quoted, before, .quote single :: rest => splitAt separator n (!quoted) (.quote single :: before) rest
  | 0, _, before, rest => [before.reverse ++ rest]
  | n + 1, quoted, before, .text s :: rest =>
    if quoted then splitAt separator (n + 1) quoted (.text s :: before) rest
    else
      match s.toList.span (· != separator) with
      | (_, []) => splitAt separator (n + 1) quoted (.text s :: before) rest
      | (left, _ :: right) =>
        ((Piece.text (String.ofList left)) :: before).reverse
          :: (match n with
            | 0 => [Piece.text (String.ofList right) :: rest]
            | n + 1 => splitAt separator (n + 1) quoted [] (Piece.text (String.ofList right) :: rest))
  | n + 1, quoted, before, p :: rest => splitAt separator (n + 1) quoted (p :: before) rest
termination_by n _ _ rest => (rest.length, n)

/-- What stands after the name of a parameter, taken apart. -/
def operands (form : Form) (w : Word) : List Word :=
  match form with
  | .slice => splitAt ':' 1 false [] w
  | .replace _ => splitAt '/' 1 false [] w
  | _ => [w]

/-- Ends a part. -/
def leave (d : Draft) : Draft :=
  let d := d.flush
  match d.outer with
  | [] => d
  | (.arithmetic, before) :: outer => { d with outer, pieces := before.push (.arithmetic d.pieces.toList) }
  | (.parameter name subscript indirect form colon, before) :: outer =>
    let piece := Piece.parameter name subscript indirect form colon (operands form d.pieces.toList)
    { d with outer, pieces := before.push piece }

/-- The word. -/
def word (d : Draft) : Word := d.flush.pieces.toList

/-- Whether nothing has been read that is more than bytes. -/
def isRun (d : Draft) : Bool := d.pieces.isEmpty && d.outer.isEmpty

end Draft

/-- How commands inside words are read. -/
structure Inner where
  command : Reading (Option Command)
  /-- A mark has to come next; it is read. -/
  closing : String → Reading Unit
  /-- The bytes of a text as a word. -/
  word : String → Reading Word

namespace Words

open Reader

/-- The bytes of a name from a byte on, and the byte after it. -/
def nameFrom (inside : Char → Bool) : Nat → Option Char → String → Reading (String × Option Char)
  | 0, c, read => return (read, c)
  | n + 1, c, read => do
    match c with
    | some b => if inside b then nameFrom inside n (← nextJoined) (read.push b) else return (read, c)
    | none => return (read, none)

/-- Reads commands from a text, as if it was the whole script. -/
def nested (sub : Inner) (s : String) (line : Nat) : Reading (Option Command) := do
  let r ← get
  set { r with inserted := [], chars := s.toList, line, again := false, pending := [], expectation := {} }
  let c ← sub.command
  modify fun after => { r with documents := after.documents, warnings := after.warnings, again := false }
  return c

/-- The bytes up to a backquote, with backslashes that it asks for taken away. -/
def backquoted (quoted : Bool) (line : Nat) : Nat → String → Reading String
  | 0, read => return read
  | n + 1, read => do
    match ← nextJoined with
    | some '\x60' => return read
    | some '\x5c' =>
      let c ← next
      match c with
      | none => return read.push '\x5c'
      | some c =>
        let kept := c != '\x5c' && c != '\x60' && c != '$' && (!quoted || c != '\x22')
        if c = '\n' then nextLine
        backquoted quoted line n (if kept then (read.push '\x5c').push c else read.push c)
    | none =>
      if ← isExtended then throw (.unclosed line "\x60") else fail "EOF in backquote substitution"
    | some '\n' =>
      nextLine
      backquoted quoted line n (read.push '\n')
    | some c => backquoted quoted line n (read.push c)

/-- The output of a command in backquotes. -/
def oldCommand (sub : Inner) (quoted : Bool) : Reading Piece := do
  let line := (← get).line
  let s ← backquoted quoted line manyTimes ""
  return .command (← nested sub s (if ← isExtended then line else 1)) (some s)

/-- Reads commands up to a closing parenthesis. -/
def parenthesized (sub : Inner) : Reading (Option Command) := do
  let r ← get
  set { r with again := false, pending := [], expectation := {} }
  let c ← sub.command
  sub.closing ")"
  modify fun after => { after with again := false, pending := r.pending, expectation := r.expectation }
  return c

/-- Whether parentheses that begin here end in two that follow each other. -/
def endsInTwo : List Char → Nat → Bool
  | [], _ => true
  | '\x5c' :: _ :: cs, depth => endsInTwo cs depth
  | '(' :: cs, depth => endsInTwo cs (depth + 1)
  | ')' :: ')' :: _, 0 => true
  | ')' :: _, 0 => false
  | ')' :: cs, depth + 1 => endsInTwo cs depth
  | _ :: cs, depth => endsInTwo cs depth

/-- The number that a letter of a case change has. -/
def isCasing (c : Char) : Bool := c == '^' || c == ',' || c == '~'

/-- Enters a parameter with more than a name. -/
def enterParameter (d : Draft) (line : Nat) (o : Opened) (quoting : Quotation) : Draft :=
  let current := d.level
  let quoting := if quoting = .arithmetic then .double else quoting
  let d := d.enter o
  let d := if quoting ≠ current.quoting ∨ current.inner then
      { d with levels := { Level.fresh quoting with byParameter := true, quoted := quoting ≠ .bare } :: d.levels }
    else d
  d.modify fun l =>
    { l with
      nest := l.nest + 1, quotedNest := if l.quoted then l.quotedNest + 1 else l.quotedNest
      opened := (line, "\x7d") :: l.opened }

/-- Reads what stands in brackets after a name, the brackets being read too. -/
def bracketed (line : Nat) : Nat → Nat → String → Reading String
  | 0, _, read => return read
  | n + 1, depth, read => do
    match ← nextJoined with
    | none => throw (.unclosed line "]")
    | some ']' => if depth = 0 then return read else bracketed line n (depth - 1) (read.push ']')
    | some '[' => bracketed line n (depth + 1) (read.push '[')
    | some c => bracketed line n depth (read.push c)

/-- Reads what stands in braces after a dollar sign, in the plain language. -/
def plainBraces (d : Draft) (line : Nat) : Reading Draft := do
  let c ← nextJoined
  let isNameChar (c : Option Char) : Bool := match c with
    | some c => isNameInside c
    | none => false
  let isDigit (c : Char) : Bool := '0' ≤ c && c ≤ '9'
  -- The name, whether the length is asked for, and whether that went wrong; `c` is then the byte after the name.
  let finish (name : String) (length bad : Bool) (c : Option Char) : Reading Draft := do
    let quoting := d.level.quoting
    if bad ∨ length then
      let bad := bad || c != some '\x7d'
      unread c
      return enterParameter d line (.parameter name none false (if bad then .bad else .length) false) quoting
    let (colon, c) ← if c = some ':' then do pure (true, ← nextJoined) else pure (false, c)
    let enter (form : Form) : Draft := enterParameter d line (.parameter name none false form colon) quoting
    match c with
    | some '\x7d' => return d.add (.parameter name none false .value true [])
    | some '-' => return enter .default
    | some '+' => return enter .alternative
    | some '?' => return enter .demand
    | some '=' => return enter .assign
    | some '%' | some '#' =>
      if colon then return enter .bad
      let longest ← accept (c.getD '%')
      let form := if c = some '#' then Form.trimStart longest else .trimEnd longest
      return enterParameter d line (.parameter name none false form false) .bare
    | _ => return enter .bad
  match c with
  | some '\x7d' | none =>
    unread c
    return enterParameter d line (.parameter "" none false .bad false) d.level.quoting
  | some b =>
    if isNameStart b then
      let (name, after) ← nameFrom isNameInside manyTimes c ""
      finish name false false after
    else if isDigit b then
      let (name, after) ← nameFrom isDigit manyTimes c ""
      finish name false false after
    else
      let after ← nextJoined
      if b = '#' ∧ isNameChar after then
        if (after.map isDigit).getD false then
          let (name, after) ← nameFrom isDigit manyTimes after ""
          finish name true false after
        else
          let (name, after) ← nameFrom isNameInside manyTimes after ""
          finish name true false after
      else if b = '#' ∧ after.isSome ∧ after ≠ some '\x7d' then
        let third ← nextJoined
        if third ≠ some '\x7d' then
          unread third
          finish "#" false false after
        else
          let special := (after.map isSpecialParameter).getD false
          if special then finish (after.elim "" String.singleton) true false third
          else finish "" false true third
      else if isSpecialParameter b then finish (String.singleton b) false false after
      else finish "" false true after

/-- Reads what is to be done with a parameter of the extended language; `pushed` is a byte to be put back. -/
def operation (d : Draft) (line : Nat) (quoting : Quotation) (name : String) (subscript : Option Word) (indirect : Bool)
    (c : Option Char) (pushed : Option (Option Char)) : Reading Draft := do
  match pushed with
  | some p => unread p
  | none => pure ()
  let enter (form : Form) (colon : Bool) (quoting : Quotation) : Draft :=
    enterParameter d line (.parameter name subscript indirect form colon) quoting
  match c with
  | some '\x7d' => return d.add (.parameter name subscript indirect .value true [])
  | some ':' =>
    match ← nextJoined with
    | some '-' => return enter .default true quoting
    | some '+' => return enter .alternative true quoting
    | some '?' => return enter .demand true quoting
    | some '=' => return enter .assign true quoting
    | other =>
      unread other
      return enter .slice false quoting
  | some '-' => return enter .default false quoting
  | some '+' => return enter .alternative false quoting
  | some '?' => return enter .demand false quoting
  | some '=' => return enter .assign false quoting
  | some '%' => return enter (.trimEnd (← accept '%')) false .bare
  | some '#' => return enter (.trimStart (← accept '#')) false .bare
  | some '/' =>
    match ← nextJoined with
    | some '/' => return enter (.replace '/') false .bare
    | some '#' => return enter (.replace '#') false .bare
    | some '%' => return enter (.replace '%') false .bare
    | other =>
      unread other
      return enter (.replace ' ') false .bare
  | some '@' =>
    let letter ← nextJoined
    let close ← nextJoined
    unread close
    match letter, close with
    | some l, some '\x7d' => return enter (.transform l) false quoting
    | _, _ => return enter .bad false quoting
  | some b =>
    if isCasing b then return enter (.casing b (← accept b)) false .bare
    else
      unread c
      return enter .bad false quoting
  | none => return enter .bad false quoting

/-- Reads what stands in braces after a dollar sign, in the extended language. -/
def extendedBraces (sub : Inner) (d : Draft) (line : Nat) : Reading Draft := do
  let quoting := d.level.quoting
  let isDigit (c : Char) : Bool := '0' ≤ c && c ≤ '9'
  let bad (c : Option Char) (name : String) : Reading Draft := do
    unread c
    return enterParameter d line (.parameter name none false .bad false) quoting
  let readName (c : Option Char) : Reading (Option String × Option Char) := do
    match c with
    | none => return (none, none)
    | some b =>
      if isNameStart b then
        let (name, after) ← nameFrom isNameInside manyTimes c ""
        return (some name, after)
      else if isDigit b then
        let (name, after) ← nameFrom isDigit manyTimes c ""
        return (some name, after)
      else if isSpecialParameter b then return (some (String.singleton b), ← nextJoined)
      else return (none, c)
  let readSubscript (c : Option Char) : Reading (Option Word × Option Char) := do
    if c = some '[' then
      let s ← bracketed line manyTimes 0 ""
      let w ← sub.word s
      return (some w, ← nextJoined)
    else return (none, c)
  let first ← nextJoined
  if first = some '#' then
    let c ← nextJoined
    match c with
    | some '\x7d' => return d.add (.parameter "#" none false .value true [])
    | _ =>
      let (name, after) ← readName c
      match name with
      | some name =>
        let (subscript, after) ← readSubscript after
        if after = some '\x7d' then
          unread after
          return enterParameter d line (.parameter name subscript false .length false) quoting
        else if c = some '#' ∨ c = some '-' ∨ c = some '?' ∨ c = some ':' then
          operation d line quoting "#" none false c (some after)
        else bad after ("#" ++ name)
      | none => operation d line quoting "#" none false c none
  else if first = some '!' then
    let c ← nextJoined
    let (name, after) ← readName c
    match name with
    | some name =>
      if (c.map isNameStart).getD false ∧ (after = some '@' ∨ after = some '*') then
        let close ← nextJoined
        if close = some '\x7d' then
          unread close
          return enterParameter d line (.parameter name none false (.names (after = some '@')) false) quoting
        else
          unread close
          operation d line quoting name none true after none
      else
        let (subscript, after) ← readSubscript after
        let all : Bool := match subscript with
          | some [.text s] => s == "@" || s == "*"
          | _ => false
        if all ∧ after = some '\x7d' then
          unread after
          return enterParameter d line (.parameter name subscript false .keys false) quoting
        else operation d line quoting name subscript true after none
    | none => operation d line quoting "!" none false c none
  else
    let (name, after) ← readName first
    match name with
    | none => bad after ""
    | some name =>
      let (subscript, after) ← readSubscript after
      operation d line quoting name subscript false after none

/-- Reads what follows a dollar sign. -/
def dollar (sub : Inner) (d : Draft) : Reading Draft := do
  let r ← get
  let line := r.line
  let c ← nextJoined
  match c with
  | none => return d.push '$'
  | some b =>
    if r.expectation.endMark then
      unread c
      return d.push '$'
    if b = '(' then
      let second ← nextJoined
      let isExpression ← if second = some '(' then do
          pure (r.dialect = .plain || endsInTwo (← get).chars 0)
        else pure false
      if isExpression then
        let d := d.enter .arithmetic
        let l := { Level.fresh .arithmetic with opened := [(line, ")")] }
        return { d with levels := l :: d.levels }
      else
        unread second
        return d.add (.command (← parenthesized sub) none)
    else if b = '\x7b' then
      if r.dialect = .plain then plainBraces d line else extendedBraces sub d line
    else if isNameStart b then
      let (name, after) ← nameFrom isNameInside manyTimes c ""
      unread after
      return d.add (.parameter name none false .value false [])
    else if isSpecialParameter b then return d.add (.parameter (String.singleton b) none false .value false [])
    else if r.dialect = .extended ∧ d.level.quoting = .bare ∧ b = '\x27' then
      let s ← quotedEscapes line manyTimes ""
      let d := { d.add (.quote true) with quoted := true }
      return (d.pushText (Escapes.ofQuotation s)).add (.quote true)
    else if r.dialect = .extended ∧ d.level.quoting = .bare ∧ b = '\x22' then
      unread c
      return d
    else
      unread c
      return d.push '$'
where
  /-- The bytes up to a quotation mark without a backslash before it. -/
  quotedEscapes (line : Nat) : Nat → String → Reading String
    | 0, read => return read
    | n + 1, read => do
      match ← next with
      | none => throw (.unclosed line "\x27")
      | some '\x27' => return read
      | some '\x5c' =>
        match ← next with
        | none => return read.push '\x5c'
        | some c => quotedEscapes line n ((read.push '\x5c').push c)
      | some '\n' =>
        nextLine
        quotedEscapes line n (read.push '\n')
      | some c => quotedEscapes line n (read.push c)

/-- The mark of a text of several lines, and whether tabs at the beginning of its lines are dropped. -/
structure Border where
  mark : String
  stripsTabs : Bool
  /-- The line of the command that the text belongs to. -/
  line : Nat

/-- Drops tabs. -/
def dropTabs : Nat → Option Char → Reading (Option Char)
  | 0, c => return c
  | n + 1, c => do if c = some '\t' then dropTabs n (← next) else return c

/-- The byte after one that was read, where backslashes before line ends count or not. -/
def following (d : Draft) : Reading (Option Char) := if d.level.quoting = .single then next else nextJoined

/-- Stops because the word cannot end where it ends. -/
def checkEnd (d : Draft) (isText : Bool) : Reading Unit := do
  let l := d.level
  if ← isExtended then
    let isOpen := d.levels.any fun l => l.opened ≠ []
    if isOpen ∧ (¬ isText ∨ l.nest ≠ 0 ∨ l.quoting = .arithmetic) then
      let (line, closing) := ((d.levels.flatMap Level.opened).head?).getD (0, "")
      throw (.unclosed line closing)
  else
    if l.quoting = .arithmetic then fail "Missing '))'"
    if l.quoting ≠ .bare ∧ ¬ isText then fail "Unterminated quoted string"
    if l.nest ≠ 0 then fail "Missing '\x7d'"

/-- Whether a byte may be the operator before a group of a pattern. -/
def isGroupOperator (s : String) : Bool := match s.toList.getLast? with
  | some c => ['?', '*', '+', '@', '!'].contains c
  | none => false

/-- Whether a byte begins a place in an array that is assigned, the text after it given. -/
def beginsPlace (chars : List Char) : Bool := go 0 chars
where
  /-- Goes to the bracket that ends the place. -/
  go : Nat → List Char → Bool
    | _, [] => false
    | _, '\n' :: _ => false
    | 0, ']' :: '=' :: _ => true
    | 0, ']' :: '+' :: '=' :: _ => true
    | 0, ']' :: _ => false
    | n + 1, ']' :: cs => go n cs
    | n, '[' :: cs => go (n + 1) cs
    | n, _ :: cs => go n cs

/-- Closes what was opened last. -/
def Level.close (l : Level) : Level := { l with opened := l.opened.drop 1 }

/-- Notes that a text of several lines ends because the script does. -/
def warnOfEnd (m : Border) : Reading Unit := do
  let message := "here-document at line " ++ toString m.line ++ " delimited by end-of-file (wanted \x60" ++ m.mark ++ "\x27)"
  if m.mark ≠ "" then modify fun r => { r with warnings := r.warnings ++ [(r.line - 1, message)] }

/-- Reads a word, or a text up to a mark, from a byte on: the word, and the byte after it. `fresh` says whether a line
begins. -/
def wordFrom (sub : Inner) (mark : Option Border) : Nat → Bool → Option Char → Draft → Reading (Draft × Option Char)
  | 0, _, c, d => return (d, c)
  | n + 1, fresh, c, d => do
    -- The end of a text of several lines.
    let (c, ended) ← match fresh, mark with
      | true, some m => do
        let c ← if m.stripsTabs then dropTabs manyTimes c else pure c
        let ended ← isMark c m.mark.toList
        pure (if ended then none else c, ended)
      | _, _ => pure (c, false)
    if ended then
      checkEnd d true
      return (d, none)
    let l := d.level
    let isText := mark.isSome
    match c with
    | none =>
      match mark with
      | some m => warnOfEnd m
      | none => pure ()
      checkEnd d isText
      return (d, none)
    | some b =>
      let goOn (d : Draft) : Reading (Draft × Option Char) := do wordFrom sub mark n false (← following d) d
      let bare := l.quoting = .bare
      let extended ← isExtended
      if b = '\n' then
        if bare ∧ l.nest = 0 ∧ d.groups = 0 then
          checkEnd d isText
          return (d, c)
        nextLine
        wordFrom sub mark n true (← following d) (d.push b)
      else if l.quoting = .single then
        if b = '\x27' ∧ ¬ isText then
          let d := { d.add (.quote true) with quoted := true }
          goOn (d.modify fun l => { Level.close l with quoting := .bare, quoted := false })
        else goOn (d.push b)
      else if b = '\x5c' then
        let e ← next
        match e with
        | none => goOn ((d.push '\x5c'))
        | some e =>
          if e = '\n' then nextLine
          let kept := l.quoted && e != '\x5c' && e != '\x60' && e != '$' && (e != '\x22' || (isText && l.nest = 0))
            && (e != '\x7d' || l.nest = 0)
          let d := if kept then d.add (.escaped '\x5c') else d
          goOn { d.add (.escaped e) with quoted := true }
      else if b = '$' then goOn (← dollar sub d)
      else if b = '\x60' then
        if (← get).expectation.endMark then goOn (d.push b)
        else goOn (d.add (← oldCommand sub l.quoted))
      else if b = '\x7d' then
        if ¬ l.inner ∧ 0 < l.nest then
          let d := d.leave
          let d := d.modify fun l => { Level.close l with nest := l.nest - 1 }
          let d := if l.nest = 1 ∧ l.byParameter then { d with levels := d.levels.drop 1 }
            else d.modify fun l => { l with quotedNest := l.quotedNest - 1 }
          goOn d
        else goOn (d.push b)
      else if l.quoting = .double then
        if b = '\x22' then
          if isText ∧ l.nest = 0 then goOn (d.push b)
          else
            let d := if l.quotedNest = 0 then
                d.modify fun l => { Level.close l with quoting := .bare, quoted := false }
              else d
            let d := d.modify fun l => if 0 < l.nest then { l with inner := !l.inner } else l
            goOn { d.add (.quote false) with quoted := true }
        else goOn (d.push b)
      else if l.quoting = .arithmetic then
        if b = '(' then goOn ((d.push b).modify fun l => { l with parens := l.parens + 1 })
        else if b = ')' then
          if 0 < l.parens then goOn ((d.push b).modify fun l => { l with parens := l.parens - 1 })
          else if ← accept ')' then
            let d := d.leave
            goOn { d with levels := d.levels.drop 1 }
          else goOn (d.push b)
        else if b = '\x22' ∧ extended then goOn d
        else goOn (d.push b)
      else if b = '\x27' then
        let line := (← get).line
        goOn ((d.add (.quote true)).modify fun l => { l with quoting := .single, opened := (line, "\x27") :: l.opened })
      else if b = '\x22' then
        let line := (← get).line
        let d := (d.add (.quote false)).modify fun l =>
          { l with quoting := .double, quoted := true, opened := (line, "\"") :: l.opened }
        goOn (d.modify fun l => if 0 < l.nest then { l with inner := !l.inner } else l)
      else if extended ∧ l.nest = 0 ∧ (b = '<' ∨ b = '>') ∧ d.groups = 0 ∧ ¬ d.regular then
        let e ← nextJoined
        if e = some '(' then goOn (d.add (.connected (b = '<') (← parenthesized sub)))
        else
          unread e
          checkEnd d isText
          return (d, c)
      else if l.nest = 0 ∧ (0 < d.groups ∨ d.regular ∨ 0 < d.brackets)
          ∧ ['(', ')', '|', ' ', '\t', '<', '>', ';', '&', '[', ']'].contains b then
        if b = '(' then goOn { d.push b with groups := d.groups + 1 }
        else if b = ')' then
          if 0 < d.groups then goOn { d.push b with groups := d.groups - 1 }
          else
            checkEnd d isText
            return (d, c)
        else if b = '[' ∧ 0 < d.brackets then goOn { d.push b with brackets := d.brackets + 1 }
        else if b = ']' ∧ 0 < d.brackets then goOn { d.push b with brackets := d.brackets - 1 }
        else if 0 < d.groups ∨ 0 < d.brackets ∨ ['|', '[', ']', '<', '>'].contains b then goOn (d.push b)
        else
          checkEnd d isText
          return (d, c)
      else if l.nest = 0 ∧ b = '(' ∧ (← get).extendedPatterns ∧ isGroupOperator d.run then
        goOn { d.push b with groups := 1 }
      else if l.nest = 0 ∧ ['<', '>', '(', ')', ';', '&', '|', ' ', '\t'].contains b then
        checkEnd d isText
        return (d, c)
      else if extended ∧ b = '[' ∧ l.nest = 0 ∧ d.isRun ∧ isName d.run ∧ beginsPlace (← get).chars then
        goOn { d.push b with brackets := 1 }
      else goOn (d.push b)

/-- The lines of a text of several lines as they are written, up to what ends it. -/
def writtenLines (m : EndMark) (cs : List Char) : String :=
  let cs := if m.isQuoted then cs else joinedLines cs
  let lines := ((String.ofList cs).splitOn "\n").map fun line =>
    if m.stripsTabs then (line.dropWhile (· == '\t')).toString else line
  String.join ((lines.takeWhile fun line => line != m.text).map (· ++ "\n"))
where
  /-- Lines that end in backslashes joined with the next ones. -/
  joinedLines : List Char → List Char
    | '\x5c' :: '\n' :: rest => joinedLines rest
    | '\x5c' :: c :: rest => '\x5c' :: c :: joinedLines rest
    | c :: rest => c :: joinedLines rest
    | [] => []

/-- Reads a text of several lines. -/
def document (sub : Inner) (p : Pending) : Reading Document := do
  let r ← get
  let quoting : Quotation := if p.mark.isQuoted then .single else .double
  let c ← if p.mark.isQuoted then next else nextJoined
  let (d, _) ← wordFrom sub (some ⟨p.mark.text, p.mark.stripsTabs, p.line⟩) manyTimes true c (Draft.fresh quoting false)
  modify fun after => { after with expectation := r.expectation }
  return ⟨p.mark, writtenLines p.mark (r.chars.take (r.chars.length - (← get).chars.length)), d.word⟩

/-- Reads the texts of several lines that are still to be read. -/
def documents (sub : Inner) : Reading Unit := do
  let pending := (← get).pending
  modify fun r => { r with pending := [] }
  for p in pending do
    let d ← document sub p
    modify fun r => { r with documents := r.documents.set! p.number d }

end Words

end TaskRunner.Shell
