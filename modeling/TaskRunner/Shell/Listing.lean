import TaskRunner.Shell.Syntax
import TaskRunner.Shell.Quoting

/-!
# How commands are written

Words and commands written out again: on one line, or, inside a function, on lines that are set in by
their depth. The texts of several lines that commands read wait until the line that they follow is
written, which is the reason for what a page remembers.
-/

namespace TaskRunner.Shell.Listing

/-- Whether commands are on lines of their own, how far they are set in, and how much further those in them are. -/
structure Layout where
  lines : Bool
  depth : Nat
  step : Nat

/-- One step further in. -/
def Layout.inner (l : Layout) : Layout := { l with depth := l.depth + l.step }

/-- Commands on lines of their own. -/
def listed (l : Layout) : Layout := { l with lines := true }

/-- All on one line. -/
def Layout.flat : Layout := ⟨false, 0, 4⟩

/-- The blanks at the beginning of a line. -/
def Layout.margin (l : Layout) : String := String.ofList (List.replicate l.depth ' ')

/-- What has been written. -/
structure Page where
  text : String := ""
  /-- Texts of several lines that are still to be written. -/
  waiting : List Document := []
  /-- Whether what was written last is a text of several lines, so that no mark need end the command. -/
  documented : Bool := false
  /-- Whether a command that is left running comes next whose texts stand before the mark that says so. -/
  hurried : Bool := false
  /-- How many commands that are joined with others are being written. -/
  joined : Nat := 0

/-- Writing onto a page. -/
abbrev Writing := StateM Page Unit

/-- Writes a text. -/
def put (s : String) : Writing := modify fun p => { p with text := p.text ++ s }

/-- Begins a new line. -/
def newline (l : Layout) (s : String) : Writing := put ("\n" ++ l.margin ++ s)

/-- Writes a semicolon, unless what comes before needs none. -/
def finish : Writing := modify fun p =>
  if p.text.endsWith "&" ∨ p.text.endsWith "\n" then p else { p with text := p.text ++ ";" }

/-- Writes texts of several lines. -/
def bodies (ds : List Document) : Writing := do
  put ("\n" ++ String.join (ds.map fun d => d.text ++ d.mark.text ++ "\n"))
  modify fun p => { p with documented := true }

/-- Writes a sign between commands, and then the texts that have been waiting. -/
def sign (s : String) : Writing := do
  put s
  let p ← get
  if ¬ p.waiting.isEmpty then
    bodies p.waiting
    if s ≠ "" then put " "
    modify fun p => { p with waiting := [] }

/-- Writes what parts a command from the next one. -/
def part (l : Layout) : Writing := do
  let p ← get
  if ¬ p.waiting.isEmpty then sign ""
  else if p.documented then set { p with documented := false }
  else put ";"
  if l.lines then newline l "" else put " "

/-- Writes commands that are joined. -/
def joining (w : Writing) : Writing := do
  modify fun p => { p with joined := p.joined + 1 }
  w
  sign ""
  modify fun p => { p with joined := p.joined - 1 }

/-- A descriptor, unless it is the usual one. -/
def descriptor (usual n : Nat) : String := if n = usual then "" else toString n

/-- What stands between a parameter and its operands, and between these. -/
def signs (colon : Bool) : Form → String × String
  | .value | .length | .names _ | .keys | .transform _ | .bad => ("", "")
  | .default => ((if colon then ":" else "") ++ "-", "")
  | .assign => ((if colon then ":" else "") ++ "=", "")
  | .demand => ((if colon then ":" else "") ++ "?", "")
  | .alternative => ((if colon then ":" else "") ++ "+", "")
  | .trimStart longest => (if longest then "##" else "#", "")
  | .trimEnd longest => (if longest then "%%" else "%", "")
  | .slice => (":", ":")
  | .replace place => (if place = ' ' then "/" else "/" ++ String.singleton place, "/")
  | .casing kind all => (String.ofList (List.replicate (if all then 2 else 1) kind), "")

/-- What stands after the names of parameters without operands. -/
def suffix : Form → String
  | .names separately => if separately then "@" else "*"
  | .transform letter => "@" ++ String.singleton letter
  | _ => ""

/-- A command in parentheses, which do not stand next to other ones. -/
def parenthesized (s : String) : String := if s.startsWith "(" then "( " ++ s ++ ")" else "(" ++ s ++ ")"

/-- The end of a loop. -/
def closed (l : Layout) : Writing := do
  sign ""
  finish
  newline l "done"

/-- What ends a text of several lines, after the sign that begins it. -/
def endMark (m : EndMark) : String :=
  (if m.stripsTabs then "-" else "") ++ (if m.isQuoted then Quoting.single m.text else m.text)

/-- Writes redirections that are given as they are written, and then the texts of several lines among them; these wait if
the command is joined with others. -/
def following (ds : Array Document) (rs : List Redirect) (written : List String) : Writing := do
  put (" ".intercalate written)
  let found := rs.filterMap (documentOf ds)
  let p ← get
  if found.isEmpty then set { p with documented := false }
  else if 0 < p.joined then set { p with documented := false, waiting := found }
  else bodies found
where
  /-- The text of several lines that a redirection is of. -/
  documentOf (ds : Array Document) : Redirect → Option Document
    | .document _ number => ds[number]?
    | .named _ r => documentOf ds r
    | _ => none

/-- Whether a command is left running. -/
def isBackground : Command → Bool
  | .background _ => true
  | _ => false

/-- Whether redirections follow a command of several in braces. -/
def isRedirected : Command → Bool
  | .redirected _ (.group _) _ => true
  | _ => false

/-- Whether a command is one of several in braces, perhaps with redirections after it. -/
def isGroup : Command → Bool
  | .group _ => true
  | c => isRedirected c

/-- Whether a command ends in one that is left running. -/
def endsInBackground : Command → Bool
  | .background _ => true
  | .sequence _ b => endsInBackground b
  | _ => false

mutual

/-- A piece of a word. -/
def piece (ds : Array Document) : Piece → String
  | .text s => s
  | .escaped c => "\\" ++ String.singleton c
  | .quote single => if single then "\x27" else "\""
  | .parameter name subscript indirect form colon operands =>
    let head := name ++ place ds subscript
    let (sign, between) := signs colon form
    let after := suffix form ++ sign ++ between.intercalate (wordsOf ds operands)
    match form with
    | .value =>
      if indirect then "$\x7b!" ++ head ++ "\x7d"
      else if colon ∨ head ≠ name then "$\x7b" ++ head ++ "\x7d"
      else "$" ++ name
    | .length => "$\x7b#" ++ head ++ "\x7d"
    | .names _ | .keys => "$\x7b!" ++ head ++ after ++ "\x7d"
    | _ => "$\x7b" ++ (if indirect then "!" else "") ++ head ++ after ++ "\x7d"
  | .command c old => match old with
    | some s => "\x60" ++ s ++ "\x60"
    | none => "$" ++ parenthesized ((optional ds .flat c).run {}).2.text
  | .arithmetic w => "$((" ++ pieces ds w ++ "))"
  | .connected reads c => (if reads then "<" else ">") ++ parenthesized ((optional ds .flat c).run {}).2.text

/-- A place in an array. -/
def place (ds : Array Document) : Option (List Piece) → String
  | some w => "[" ++ pieces ds w ++ "]"
  | none => ""

/-- The pieces of a word. -/
def pieces (ds : Array Document) : List Piece → String
  | [] => ""
  | p :: rest => piece ds p ++ pieces ds rest

/-- Words. -/
def wordsOf (ds : Array Document) : List (List Piece) → List String
  | [] => []
  | w :: rest => pieces ds w :: wordsOf ds rest

/-- The words that are gone through, or all parameters. -/
def choices (ds : Array Document) : Option (List (List Piece)) → String
  | some ws => " ".intercalate (wordsOf ds ws)
  | none => "\"$@\""

/-- A redirection, without the text of several lines that it may be of. -/
def redirect (ds : Array Document) : Redirect → String
  | .file n .input name => descriptor 0 n ++ "< " ++ pieces ds name
  | .file n .output name => descriptor 1 n ++ "> " ++ pieces ds name
  | .file n .clobber name => descriptor 1 n ++ ">| " ++ pieces ds name
  | .file n .append name => descriptor 1 n ++ ">> " ++ pieces ds name
  | .file n .inputAndOutput name => descriptor 0 n ++ "<> " ++ pieces ds name
  | .duplicate n true target => toString n ++ ">&" ++ pieces ds target
  | .duplicate n false target => toString n ++ "<&" ++ pieces ds target
  | .document n number => descriptor 0 n ++ "<<" ++ ((ds[number]?).map fun d => endMark d.mark).getD ""
  | .line n w => descriptor 0 n ++ "<<< " ++ pieces ds w
  | .both false name => "&> " ++ pieces ds name
  | .both true name => "&>> " ++ pieces ds name
  | .named label r => "\x7b" ++ label ++ "\x7d" ++ redirect ds r

/-- Redirections. -/
def redirectsOf (ds : Array Document) : List Redirect → List String
  | [] => []
  | r :: rest => redirect ds r :: redirectsOf ds rest

/-- An assignment. -/
def assignment (ds : Array Document) : Assignment → String
  | .scalar name subscript append value => name ++ place ds subscript ++ (if append then "+=" else "=") ++ pieces ds value
  | .array name append items => name ++ (if append then "+=(" else "=(") ++ " ".intercalate (itemsOf ds items) ++ ")"

/-- The items of an array. -/
def itemsOf (ds : Array Document) : List (Option (List Piece) × List Piece) → List String
  | [] => []
  | (some w, value) :: rest => ("[" ++ pieces ds w ++ "]=" ++ pieces ds value) :: itemsOf ds rest
  | (none, value) :: rest => pieces ds value :: itemsOf ds rest

/-- Assignments. -/
def assignmentsOf (ds : Array Document) : List Assignment → List String
  | [] => []
  | a :: rest => assignment ds a :: assignmentsOf ds rest

/-- A condition. -/
def condition (ds : Array Document) : Condition → String
  | .word w => "-n " ++ pieces ds w
  | .unary operator w => operator ++ " " ++ pieces ds w
  | .binary a operator b => pieces ds a ++ " " ++ operator ++ " " ++ pieces ds b
  | .negation c => "! " ++ condition ds c
  | .both a b => condition ds a ++ " && " ++ condition ds b
  | .either a b => condition ds a ++ " || " ++ condition ds b
  | .grouped c => "( " ++ condition ds c ++ " )"

/-- A command, without the margin of its first line. -/
def command (ds : Array Document) (l : Layout) : Command → Writing
  | .simple _ assignments ws redirects _ => do
    let before := assignmentsOf ds assignments ++ wordsOf ds ws
    put (" ".intercalate before)
    if ¬ redirects.isEmpty then
      if ¬ before.isEmpty then put " "
      following ds redirects (redirectsOf ds redirects)
  | .pipeline cs => pipeline ds l cs
  | .negation c => do
    put "! "
    command ds l c
  | .timed posix c => do
    put (if posix then "time -p " else "time ")
    optional ds l c
  | .sequence a b => joining do
    command ds l a
    if endsInBackground a then
      put " "
      modify fun p => { p with hurried := isBackground b }
      command ds l b
    else
      part l
      command ds l b
  | .both a b => joining do
    command ds l a
    sign " && "
    command ds l b
  | .either a b => joining do
    command ds l a
    sign " || "
    command ds l b
  | .background c => do
    let p ← get
    set { p with hurried := false }
    joining do
      command ds l c
      if p.hurried then sign ""
      sign " &"
  | .group c =>
    if l.lines then do
      put ("\x7b \n" ++ l.inner.margin)
      command ds l.inner c
      sign ""
      newline l "\x7d"
    else do
      put "\x7b "
      command ds l c
      sign ""
      finish
      put " \x7d"
  | .subshell _ c => do
    put "( "
    command ds l c
    sign ""
    put " )"
  | .redirected _ c redirects => do
    command ds l c
    put " "
    following ds redirects (redirectsOf ds redirects)
  | .branch a yes no => do
    put "if "
    command ds l a
    finish
    put (" then\n" ++ l.inner.margin)
    command ds l.inner yes
    sign ""
    finish
    otherwise ds l no
    newline l "fi"
  | .loop negated a body => do
    put (if negated then "until " else "while ")
    command ds l a
    sign ""
    finish
    put (" do\n" ++ l.inner.margin)
    command ds l.inner body
    closed l
  | .each _ name values body => do
    put ("for " ++ name ++ " in " ++ choices ds values ++ ";")
    newline l ("do\n" ++ l.inner.margin)
    command ds l.inner body
    closed l
  | .counted _ first test next body => do
    put ("for ((" ++ pieces ds first ++ "; " ++ pieces ds test ++ "; " ++ pieces ds next ++ "))")
    newline l ("do\n" ++ l.inner.margin)
    command ds l.inner body
    closed l
  | .choice _ name values body => do
    put ("select " ++ name ++ " in " ++ choices ds values ++ ";")
    newline l ("do\n" ++ l.inner.margin)
    command ds l.inner body
    closed l
  | .select _ subject cases => do
    put ("case " ++ pieces ds subject ++ " in ")
    casesOf ds l.inner cases
    newline l "esac"
  | .define _ name body => do
    put ("function " ++ name ++ " () ")
    newline l ""
    if isGroup body then command ds (listed l) body
    else
      put ("\x7b \n" ++ l.inner.margin)
      command ds (listed l.inner) body
      sign ""
      newline l "\x7d"
    if ¬ isRedirected body then modify fun p => { p with documented := false }
  | .arithmetic _ e => put ("((" ++ pieces ds e ++ "))")
  | .condition _ c => put ("[[ " ++ condition ds c ++ " ]]")
  | .coprocess _ name c => do
    put ("coproc " ++ pieces ds name ++ " ")
    command ds l c

/-- A command, if there is one. -/
def optional (ds : Array Document) (l : Layout) : Option Command → Writing
  | some c => command ds l c
  | none => pure ()

/-- The other branch, if there is one. -/
def otherwise (ds : Array Document) (l : Layout) : Option Command → Writing
  | some c => do
    newline l ("else\n" ++ l.inner.margin)
    command ds l.inner c
    sign ""
    finish
  | none => pure ()

/-- The commands of a pipeline. -/
def pipeline (ds : Array Document) (l : Layout) : List Command → Writing
  | [] => pure ()
  | [c] => command ds l c
  | c :: rest => joining do
    command ds l c
    sign " |"
    put " "
    pipeline ds l rest

/-- The cases of a choice. -/
def casesOf (ds : Array Document) (l : Layout) : List (List (List Piece) × Option Command × CaseEnd) → Writing
  | [] => pure ()
  | (patterns, body, e) :: rest => do
    newline l (" | ".intercalate (wordsOf ds patterns) ++ ")\n" ++ (if body.isSome then l.inner.margin else ""))
    optional ds l.inner body
    sign ""
    newline l (match e with
      | .leaves => ";;"
      | .fallsThrough => ";&"
      | .goesOn => ";;&")
    casesOf ds l rest

end

/-- A word. -/
def word (w : Word) : String := pieces #[] w

/-- Words with blanks between them. -/
def words (ws : List Word) : String := " ".intercalate (wordsOf #[] ws)

/-- The commands of a function, with what comes after them. -/
def inside (ds : Array Document) (l : Layout) (body : Command) : Writing := do
  put l.margin
  let (inner, after) : Command × List Redirect := match body with
    | .group c => (c, [])
    | .redirected _ (.group c) redirects => (c, redirects)
    | c => (c, [])
  command ds l inner
  sign ""
  put "\n\x7d"
  if ¬ after.isEmpty then
    put " "
    following ds after (redirectsOf ds after)

/-- What is written onto an empty page. -/
def textOf (w : Writing) : String := (w.run {}).2.text

/-- A function. -/
def function (ds : Array Document) (name : String) (body : Command) : String :=
  textOf do
    put (name ++ " () \n\x7b \n")
    inside ds ⟨true, 4, 4⟩ body

/-- A function without its name, as other shells are told it. -/
def exported (ds : Array Document) (body : Command) : String :=
  textOf do
    put "() \x7b "
    inside ds ⟨true, 1, 0⟩ body

/-- A command on one line. -/
def line (ds : Array Document) (c : Command) : String := textOf (command ds .flat c)

end TaskRunner.Shell.Listing
