import TaskRunner.Decimal.Digits
import TaskRunner.Regex.Rich

/-!
# Reading rich expressions

All signs that join and repeat stand without a backslash, and a letter after a backslash has a meaning.
Flags after a question mark hold up to the end of the group that they stand in.
-/

namespace TaskRunner.Regex.Rich

/-- Why an expression cannot be read. -/
inductive Fault where
  | trailingBackslash
  | trailingControl
  | unknownEscape
  | disordered
  | bigNumber
  | openSet
  | badRange
  | disorderedRange
  | nothingToRepeat
  | badFlag
  | openGroup
  | closeGroup
  | noGroup
  | badClass
  | bareClass
  | collating
  | variableBehind
  | noName
  | digitName
  | openName
  | sameName
  | badReference
  | badCode
  | openBrace
  | largeCode
  | halfCode
  | badProperty
  | unknownProperty
  | openComment
  deriving DecidableEq, Repr

/-- What is said about it. -/
def Fault.message : Fault → String
  | .trailingBackslash => "\\ at end of pattern"
  | .trailingControl => "\\c at end of pattern"
  | .unknownEscape => "unrecognized character follows \\"
  | .disordered => "numbers out of order in \x7b\x7d quantifier"
  | .bigNumber => "number too big in \x7b\x7d quantifier"
  | .openSet => "missing terminating ] for character class"
  | .badRange => "invalid range in character class"
  | .disorderedRange => "range out of order in character class"
  | .nothingToRepeat => "quantifier does not follow a repeatable item"
  | .badFlag => "unrecognized character after (? or (?-"
  | .openGroup => "missing closing parenthesis"
  | .closeGroup => "unmatched closing parenthesis"
  | .noGroup => "reference to non-existent subpattern"
  | .badClass => "unknown POSIX class name"
  | .bareClass => "POSIX named classes are supported only within a class"
  | .collating => "POSIX collating elements are not supported"
  | .variableBehind => "lookbehind assertion is not fixed length"
  | .noName => "subpattern name expected"
  | .digitName => "subpattern name must start with a non-digit"
  | .openName => "syntax error in subpattern name (missing terminator?)"
  | .sameName => "two named subpatterns have the same name (PCRE2_DUPNAMES not set)"
  | .badReference => "\\g is not followed by a braced, angle-bracketed, or quoted name/number or by a plain number"
  | .badCode => "non-hex character in \\x\x7b\x7d (closing brace missing?)"
  | .openBrace => "missing opening brace after \\o"
  | .largeCode => "character code point value in \\x\x7b\x7d or \\o\x7b\x7d is too large"
  | .halfCode => "disallowed Unicode code point (>= 0xd800 && <= 0xdfff)"
  | .badProperty => "malformed \\P or \\p sequence"
  | .unknownProperty => "unknown property after \\P or \\p"
  | .openComment => "missing ) after (?# comment"

/-- What flags say. -/
structure Flags where
  folds : Bool
  /-- Whether blanks and remarks do not count. -/
  spaced : Bool := false
  /-- Whether the point stands for the end of a line too. -/
  whole : Bool := false
  /-- Whether lines begin and end inside the text. -/
  lines : Bool := false

/-- What is left to be read, and what is known. -/
structure State where
  left : List Char
  flags : Flags
  groups : Nat := 0
  names : List (String × Nat) := []
  /-- The groups that are asked for. -/
  wanted : List (Nat ⊕ String) := []
  depth : Nat := 0

/-- A step of reading. -/
abbrev Reading (α : Type) := EStateM Fault State α

/-- Passes over characters. -/
def skip (n : Nat) : Reading Unit := modify fun s => { s with left := s.left.drop n }

/-- Sets what is left to be read. -/
def goOn (cs : List Char) : Reading Unit := modify fun s => { s with left := cs }

/-- The character of a code. -/
def coded (n : Nat) : Reading Char := do
  if 0x10FFFF < n then throw .largeCode
  if 0xD800 ≤ n ∧ n < 0xE000 then throw .halfCode
  return Char.ofNat n

/-- The code between braces, in a base. -/
def bracedCode (base : Nat) (isDigit : Char → Bool) (cs : List Char) : Reading Char := do
  match cs.span isDigit with
  | (digits, '\x7d' :: rest) =>
    if digits = [] then throw .badCode
    goOn rest
    coded (Decimal.natOf base digits)
  | _ => throw .badCode

/-- Whether a digit is one of base eight. -/
def isOctal (c : Char) : Bool := '0' ≤ c && c ≤ '7'

/-- The class that a property stands for. -/
def classOf? (name : String) : Option String :=
  match name with
  | "L" | "L&" => some "alpha"
  | "Lu" | "Lt" => some "upper"
  | "Ll" => some "lower"
  | "N" | "Nd" => some "digit"
  | "P" | "S" | "Po" => some "punct"
  | "Z" | "Zs" | "Xps" | "Xsp" => some "space"
  | "C" | "Cc" => some "cntrl"
  | "Xwd" => some "word"
  | "Xan" => some "alnum"
  | "Any" => some "any"
  | _ => none

/-- A property after its letter. -/
def propertyOf (negated : Bool) (cs : List Char) : Reading Member := do
  let (name, rest) : List Char × List Char ← match cs with
    | '\x7b' :: rest => match rest.span (· != '\x7d') with
      | (name, _ :: rest) => pure (name, rest)
      | _ => throw .badProperty
    | c :: rest => pure ([c], rest)
    | [] => throw .badProperty
  let (negated, name) : Bool × List Char := match name with
    | '^' :: name => (!negated, name)
    | name => (negated, name)
  match classOf? (String.ofList name) with
  | some c =>
    goOn rest
    return .property c negated
  | none => throw .unknownProperty

/-- The class that a letter after a backslash stands for. -/
def letterClass? (c : Char) : Option Member :=
  match c with
  | 'd' => some (.plain "digit" false)
  | 'D' => some (.plain "digit" true)
  | 'w' => some (.plain "word" false)
  | 'W' => some (.plain "word" true)
  | 's' => some (.plain "space" false)
  | 'S' => some (.plain "space" true)
  | 'h' => some (.plain "blank" false)
  | 'H' => some (.plain "blank" true)
  | 'v' => some (.plain "line" false)
  | 'V' => some (.plain "line" true)
  | _ => none

/-- The character that a letter after a backslash stands for; the letter is the first of what is left. -/
def escapedCharacter (inSet : Bool) : Reading Char := do
  match (← get).left with
  | [] => throw .trailingBackslash
  | c :: rest =>
    goOn rest
    match c with
    | 't' => return '\t'
    | 'n' => return '\n'
    | 'r' => return '\r'
    | 'f' => return '\x0c'
    | 'e' => return '\x1b'
    | 'a' => return '\x07'
    | 'b' => if inSet then return '\x08' else throw .unknownEscape
    | 'c' => match rest with
      | [] => throw .trailingControl
      | d :: rest =>
        goOn rest
        return Char.ofNat (d.toUpper.toNat ^^^ 64)
    | 'x' => match rest with
      | '\x7b' :: rest => bracedCode 16 Decimal.isHexDigit rest
      | rest =>
        let digits := (rest.take 2).takeWhile Decimal.isHexDigit
        skip digits.length
        coded (Decimal.natOf 16 digits)
    | 'o' => match rest with
      | '\x7b' :: rest => bracedCode 8 isOctal rest
      | _ => throw .openBrace
    | c =>
      if isOctal c then
        let digits := (c :: rest).take 3 |>.takeWhile isOctal
        goOn ((c :: rest).drop digits.length)
        coded (Decimal.natOf 8 digits)
      else if c.isAlphanum then throw .unknownEscape
      else return c

/-! ## Sets -/

/-- The name of a class in a set, and what follows. -/
def className? (cs : List Char) : Option (String × List Char) :=
  match cs.span fun c => c.isAlpha || c == '^' with
  | (name, ':' :: ']' :: rest) => some (String.ofList name, rest)
  | _ => none

/-- One member of a set. -/
def member : Reading Member := do
  match (← get).left with
  | [] => throw .openSet
  | '[' :: ':' :: rest =>
    match className? rest with
    | none =>
      skip 1
      return .one '['
    | some (name, rest) =>
      goOn rest
      let (negated, name) := if name.startsWith "^" then (true, (name.drop 1).toString) else (false, name)
      if Text.SetItem.isClass name then return .plain name negated else throw .badClass
  | '[' :: sign :: rest =>
    let isNamed : Bool := (sign == '.' || sign == '=') && (match rest.span (· != sign) with
      | (_, _ :: ']' :: _) => true
      | _ => false)
    if isNamed then throw .collating
    skip 1
    return .one '['
  | '\\' :: c :: rest =>
    match letterClass? c with
    | some m =>
      goOn rest
      return m
    | none =>
      if c = 'p' ∨ c = 'P' then
        propertyOf (c == 'P') rest
      else
        skip 1
        return .one (← escapedCharacter true)
  | ['\\'] => throw .trailingBackslash
  | c :: rest =>
    goOn rest
    return .one c

/-- The members of a set up to its closing bracket, onto those that were read. -/
def members : Nat → Bool → List Member → Reading (List Member)
  | 0, _, _ => throw .openSet
  | n + 1, first, read => do
    match (← get).left with
    | [] => throw .openSet
    | '\\' :: 'E' :: _ =>
      skip 2
      members n false read
    | '\\' :: 'Q' :: rest =>
      skip 2
      let text := quotedPart rest
      skip (text.length + 2)
      members n false (text.map Member.one ++ read)
    | ']' :: _ =>
      if ¬ first then
        skip 1
        return read
      else one n read
    | _ => one n read
where
  /-- The characters up to the end of a quotation. -/
  quotedPart : List Char → List Char
    | [] => []
    | '\\' :: 'E' :: _ => []
    | c :: rest => c :: quotedPart rest
  /-- A member or a range, and the members after it. -/
  one (n : Nat) (read : List Member) : Reading (List Member) := do
    let m ← member
    match (← get).left with
    | '-' :: after =>
      match after with
      | ']' :: _ | [] => members n false (m :: read)
      | _ =>
        match m with
        | .one c =>
          goOn after
          match ← member with
          | .one last =>
            if last < c then throw .disorderedRange
            members n false (.range c last :: read)
          | _ => throw .badRange
        | _ =>
          goOn after
          match after with
          | '\\' :: _ | '[' :: _ => throw .badRange
          | _ => members n false (.one '-' :: m :: read)
    | _ => members n false (m :: read)

/-- A set after its opening bracket. -/
def setOf : Reading Rich := do
  let s ← get
  let negated := s.left.head? == some '^'
  if negated then skip 1
  let found ← members (s.left.length + 1) true []
  return .set negated s.flags.folds found

/-! ## Parts -/

/-- The numbers between braces that say how often something is repeated, and what follows. -/
def interval? (cs : List Char) : Option ((Nat × Option Nat) × List Char) :=
  match cs.span Char.isDigit with
  | ([], _) => none
  | (low, '\x7d' :: rest) => some ((Decimal.natOf 10 low, some (Decimal.natOf 10 low)), rest)
  | (low, ',' :: rest) =>
    match rest.span Char.isDigit with
    | ([], '\x7d' :: rest) => some ((Decimal.natOf 10 low, none), rest)
    | (high, '\x7d' :: rest) => some ((Decimal.natOf 10 low, some (Decimal.natOf 10 high)), rest)
    | _ => none
  | _ => none

/-- The most repetitions that can be asked for. -/
def mostRepeats : Nat := 65535

/-- How often the next sign repeats what is before it, and what follows; none if it is no such sign. -/
def quantifier? (cs : List Char) : Option ((Nat × Option Nat) × List Char) :=
  match cs with
  | '*' :: rest => some ((0, none), rest)
  | '+' :: rest => some ((1, none), rest)
  | '?' :: rest => some ((0, some 1), rest)
  | '\x7b' :: rest => interval? rest
  | _ => none

/-- An expression with the sign after it that repeats it. -/
def quantified (r : Rich) : Reading Rich := do
  match quantifier? (← get).left with
  | none => return r
  | some ((least, most), rest) =>
    if mostRepeats < least ∨ most.any (mostRepeats < ·) then throw .bigNumber
    if most.any (· < least) then throw .disordered
    match rest with
    | '?' :: rest =>
      goOn rest
      return .repeated r least most .least
    | '+' :: rest =>
      goOn rest
      return .repeated r least most .all
    | rest =>
      goOn rest
      return .repeated r least most .most

/-- A name up to its closing sign. -/
def nameUpTo (closing : Char) (cs : List Char) : Reading String := do
  match cs with
  | [] => throw .noName
  | c :: _ =>
    if c.isDigit then throw .digitName
    match cs.span fun c => c.isAlphanum || c == '_' with
    | ([], _) => throw .noName
    | (name, d :: rest) =>
      if d ≠ closing then throw .openName
      goOn rest
      return String.ofList name
    | _ => throw .openName

/-- What has to come again, by the number or the name of its group. -/
def reference (wanted : Nat ⊕ String) : Reading Rich := do
  let s ← get
  modify fun s => { s with wanted := wanted :: s.wanted }
  match wanted with
  | .inl n => return .again n s.flags.folds
  | .inr name => match s.names.find? fun (m, _) => m == name with
    | some (_, n) => return .again n s.flags.folds
    | none => throw .noGroup

/-- What a group stands for, by its number or its name. -/
def called (wanted : Nat ⊕ String) : Reading Rich := do
  match ← reference wanted with
  | .again n _ => return .call n
  | r => return r

/-- What a text in braces or a number after a letter asks for. -/
def numberedReference : Reading Rich := do
  let s ← get
  let byNumber (relative : Bool) (digits rest : List Char) : Reading Rich := do
    let n := Decimal.natOf 10 digits
    goOn rest
    if n = 0 ∨ (relative ∧ s.groups < n) then throw .noGroup
    reference (.inl (if relative then s.groups + 1 - n else n))
  match s.left with
  | '\x7b' :: rest =>
    let (relative, digits) := match rest with
      | '-' :: rest => (true, rest)
      | rest => (false, rest)
    match digits.span Char.isDigit with
    | (_ :: _, '\x7d' :: after) => byNumber relative (digits.takeWhile Char.isDigit) after
    | _ =>
      let name ← nameUpTo '\x7d' rest
      reference (.inr name)
  | '-' :: rest =>
    match rest.span Char.isDigit with
    | ([], _) => throw .badReference
    | (digits, after) => byNumber true digits after
  | rest =>
    match rest.span Char.isDigit with
    | ([], _) => throw .badReference
    | (digits, after) => byNumber false digits after

/-- What stands after a backslash, and whether it can be repeated. -/
def afterBackslash : Reading (Rich × Bool) := do
  let s ← get
  match s.left with
  | [] => throw .trailingBackslash
  | c :: rest =>
    match letterClass? c with
    | some m =>
      goOn rest
      return (.set false false [m], true)
    | none =>
      let anchor (r : Rich) : Reading (Rich × Bool) := do
        goOn rest
        return (r, false)
      match c with
      | 'b' => anchor (.wordBound false)
      | 'B' => anchor (.wordBound true)
      | 'A' => anchor .textStart
      | 'G' => anchor .empty
      | 'z' => anchor .textEnd
      | 'Z' => anchor .lastEnd
      | 'K' => anchor .keep
      | 'E' => anchor .empty
      | 'N' =>
        goOn rest
        return (.any false, true)
      | 'C' | 'X' =>
        goOn rest
        return (.any true, true)
      | 'R' =>
        goOn rest
        return (.atomic (.either (.sequence (.one '\r' false) (.one '\n' false)) (.set false false [.plain "line" false])), true)
      | 'p' | 'P' => do
        let m ← propertyOf (c == 'P') rest
        pure (.set false s.flags.folds [m], true)
      | 'k' => do
        let closing ← match rest with
          | '<' :: _ => pure '>'
          | '\x27' :: _ => pure '\x27'
          | '\x7b' :: _ => pure '\x7d'
          | _ => throw .badReference
        let name ← nameUpTo closing (rest.drop 1)
        pure (← reference (.inr name), true)
      | 'g' =>
        goOn rest
        return (← numberedReference, true)
      | c =>
        if '1' ≤ c ∧ c ≤ '9' then
          let digits := s.left.takeWhile Char.isDigit
          let n := Decimal.natOf 10 digits
          if n < 10 ∨ n ≤ s.groups ∨ c = '8' ∨ c = '9' then
            goOn (s.left.drop digits.length)
            return (← reference (.inl n), true)
        return (.one (← escapedCharacter false) s.flags.folds, true)

/-- Flags after a question mark: those that hold from here on, and what closes them. -/
def flagsFrom : Nat → Bool → Flags → Reading (Flags × Char)
  | 0, _, _ => throw .openGroup
  | n + 1, on, f => do
    match (← get).left with
    | [] => throw .openGroup
    | c :: rest =>
      goOn rest
      match c with
      | 'i' => flagsFrom n on { f with folds := on }
      | 'x' => flagsFrom n on { f with spaced := on }
      | 's' => flagsFrom n on { f with whole := on }
      | 'm' => flagsFrom n on { f with lines := on }
      | 'n' | 'J' | 'U' => flagsFrom n on f
      | '-' => flagsFrom n false f
      | '^' => flagsFrom n on { folds := false }
      | ')' | ':' => return (f, c)
      | _ => throw .badFlag

/-- The rest of a group up to its closing parenthesis; flags that are set in it hold no longer after it. -/
def closed (inner : Reading Rich) : Reading Rich := do
  let flags := (← get).flags
  modify fun s => { s with depth := s.depth + 1 }
  let r ← inner
  match (← get).left with
  | ')' :: rest =>
    modify fun s => { s with left := rest, flags, depth := s.depth - 1 }
    return r
  | _ => throw .openGroup

/-- A group with a number, and with a name if it has one. -/
def numbered (name : Option String) (inner : Reading Rich) : Reading Rich := do
  let s ← get
  let n := s.groups + 1
  let names ← match name with
    | none => pure s.names
    | some name =>
      if s.names.any fun (m, _) => m == name then throw .sameName
      pure ((name, n) :: s.names)
  modify fun s => { s with groups := n, names }
  return .group n (← closed inner)

/-- What comes before, whose length has to be known. -/
def behindOf (negated : Bool) (inner : Reading Rich) : Reading Rich := do
  let r ← closed inner
  if r.widths.isNone then throw .variableBehind
  return .behind negated r

/-- A group after its opening parenthesis, and whether it can be repeated. -/
def groupOf (inner : Reading Rich) : Reading (Rich × Bool) := do
  let s ← get
  match s.left with
  | '?' :: rest =>
    match rest with
    | '#' :: rest =>
      match rest.dropWhile (· != ')') with
      | [] => throw .openComment
      | _ :: rest =>
        goOn rest
        return (.empty, false)
    | ':' :: rest | '|' :: rest =>
      goOn rest
      return (← closed inner, true)
    | '>' :: rest =>
      goOn rest
      return (.atomic (← closed inner), true)
    | '=' :: rest =>
      goOn rest
      return (.ahead false (← closed inner), true)
    | '!' :: rest =>
      goOn rest
      return (.ahead true (← closed inner), true)
    | '<' :: '=' :: rest =>
      goOn rest
      return (← behindOf false inner, true)
    | '<' :: '!' :: rest =>
      goOn rest
      return (← behindOf true inner, true)
    | '<' :: rest | 'P' :: '<' :: rest => do
      let name ← nameUpTo '>' rest
      pure (← numbered (some name) inner, true)
    | '\x27' :: rest => do
      let name ← nameUpTo '\x27' rest
      pure (← numbered (some name) inner, true)
    | 'P' :: '=' :: rest => do
      let name ← nameUpTo ')' rest
      pure (← reference (.inr name), true)
    | 'P' :: '>' :: rest | '&' :: rest => do
      let name ← nameUpTo ')' rest
      pure (← called (.inr name), true)
    | 'R' :: ')' :: rest =>
      goOn rest
      return (.call 0, true)
    | '(' :: _ => throw .noGroup
    | ['P'] => throw .openGroup
    | rest =>
      match rest.span Char.isDigit with
      | (digits@(_ :: _), ')' :: after) =>
        goOn after
        return (← called (.inl (Decimal.natOf 10 digits)), true)
      | _ => pure ()
      goOn rest
      let (flags, closing) ← flagsFrom (rest.length + 1) true s.flags
      if closing = ')' then
        modify fun s => { s with flags }
        return (.empty, false)
      else
        let before := s.flags
        modify fun s => { s with flags }
        let r ← closed inner
        modify fun s => { s with flags := before }
        return (r, true)
  | _ => return (← numbered none inner, true)

/-- Passes over blanks and remarks, if they do not count. -/
def skipSpaced : Nat → Reading Unit
  | 0 => return
  | n + 1 => do
    let s ← get
    if ¬ s.flags.spaced then return
    match s.left with
    | '#' :: rest =>
      goOn ((rest.dropWhile (· != '\n')).drop 1)
      skipSpaced n
    | c :: rest =>
      if isPlain "space" c then
        goOn rest
        skipSpaced n
    | [] => return

/-- The parts up to the end of an alternative, the last first. -/
def parts (inner : Reading Rich) : Nat → List Rich → Reading (List Rich)
  | 0, read => return read
  | n + 1, read => do
    skipSpaced n
    let s ← get
    let add (found : Rich × Bool) : Reading (List Rich) := do
      let (r, repeats) := found
      skipSpaced n
      if repeats then parts inner n ((← quantified r) :: read) else parts inner n (r :: read)
    match s.left with
    | [] | '|' :: _ => return read
    | ')' :: _ => if s.depth = 0 then throw .closeGroup else return read
    | '\\' :: 'Q' :: rest =>
      let text := members.quotedPart rest
      goOn (rest.drop (text.length + 2))
      match text.reverse with
      | [] => parts inner n read
      | last :: before =>
        let one (c : Char) : Rich := .one c s.flags.folds
        let r ← quantified (one last)
        parts inner n (r :: (before.map one ++ read))
    | c :: rest =>
      if (quantifier? s.left).isSome then throw .nothingToRepeat
      goOn rest
      match c with
      | '.' => add (.any s.flags.whole, true)
      | '^' => add (.lineStart s.flags.lines, false)
      | '$' => add (.lineEnd s.flags.lines, false)
      | '\\' => add (← afterBackslash)
      | '(' => add (← groupOf inner)
      | '[' =>
        match rest with
        | ':' :: more => match className? more with
          | some _ => throw .bareClass
          | none => add (← setOf, true)
        | _ => add (← setOf, true)
      | c => add (.one c s.flags.folds, true)

/-- The parts in a row, given the last first. -/
def joined : List Rich → Rich
  | [] => .empty
  | r :: rest => rest.foldl (fun after r => .sequence r after) r

/-- The alternatives of an expression. -/
def alternatives : Nat → Reading Rich
  | 0 => throw .openGroup
  | n + 1 => do
    let r := joined (← parts (alternatives n) ((← get).left.length + 1) [])
    match (← get).left with
    | '|' :: rest =>
      goOn rest
      return .either r (← alternatives n)
    | _ => return r

/-- Takes away what an expression may begin with to say how it is read. -/
def withoutVerbs : Nat → List Char → List Char
  | 0, cs => cs
  | n + 1, cs =>
    match cs with
    | '(' :: '*' :: rest =>
      match rest.span fun c => c.isUpper || c == '_' || c.isDigit with
      | (name, ')' :: after) =>
        if ["UTF", "UTF8", "UCP", "ANYCRLF", "CR", "LF", "CRLF"].contains (String.ofList name) then withoutVerbs n after else cs
      | _ => cs
    | cs => cs

/-- Reads an expression. -/
def ofList (folds : Bool) (cs : List Char) : Except Fault Rich :=
  match (alternatives (cs.length + 2)).run { left := withoutVerbs 8 cs, flags := { folds } } with
  | .ok r s =>
    let isThere (w : Nat ⊕ String) : Bool := match w with
      | .inl n => n ≤ s.groups
      | .inr _ => true
    if s.wanted.all isThere then .ok r else .error .noGroup
  | .error f _ => .error f

end TaskRunner.Regex.Rich
