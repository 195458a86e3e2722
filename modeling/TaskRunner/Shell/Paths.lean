import TaskRunner.FileSystem.Walk
import TaskRunner.Shell.Pattern

/-!
# Words that stand for paths

A word with a pattern in it stands for the paths that match it, in order. Names are matched one
directory after another; a name that begins with a dot has to be asked for.
-/

namespace TaskRunner.Shell.Paths

/-- How paths are looked for. -/
structure Manner where
  style : Glob.Style
  /-- Whether names that begin with a dot match like others. -/
  dots : Bool
  /-- Whether two stars stand for any number of directories. -/
  stars : Bool
  /-- The patterns of paths that are left out. -/
  left : List (List Glob.Cell)

/-- The names in a directory as bytes; with the two that every directory has. -/
def namesIn (fs : FileSystem) (place : FileSystem.Place) (path : String) : List String :=
  let text := Text.Octets.toText (if path = "" then "." else path)
  match fs.enter place text with
  | .error _ => []
  | .ok p =>
    if fs.holds p then "." :: ".." :: (fs.names p.location).map Text.Octets.ofName else []

/-- Whether a path leads to something, a link being something itself. -/
def leads (fs : FileSystem) (place : FileSystem.Place) (path : String) : Bool :=
  (fs.walk (path.endsWith "/") place (Text.Octets.toText path)).isOk

/-- Whether a path leads to a directory. -/
def isDirectory (fs : FileSystem) (place : FileSystem.Place) (path : String) : Bool :=
  match fs.lookup place (Text.Octets.toText path) with
  | .ok (some (.directory _)) => true
  | _ => false

/-- Cells cut at slashes; every piece keeps the slashes that come after it. -/
def pieces : List Glob.Cell → List (List Glob.Cell × String)
  | [] => []
  | c :: cs =>
    if c.1 = '/' then
      match pieces cs with
      | ([], slashes) :: rest => ([], slashes.push '/') :: rest
      | rest => ([], "/") :: rest
    else match pieces cs with
      | (name, slashes) :: rest => (c :: name, slashes) :: rest
      | [] => [([c], "")]

/-- The text that cells are without what makes them patterns. -/
def literal (cells : List Glob.Cell) : String :=
  let rec go : List Glob.Cell → List Char
    | [] => []
    | ('\x5c', false) :: (c, _) :: rest => c :: go rest
    | (c, _) :: rest => c :: go rest
  String.ofList (go cells)

/-- The names of a directory that a piece of a pattern matches. -/
def matching (m : Manner) (names : List String) (cells : List Glob.Cell) : List String :=
  let pattern := Glob.read m.style cells
  let asksForDot := match cells with
    | ('.', _) :: _ => true
    | ('\x5c', false) :: ('.', _) :: _ => true
    | _ => false
  names.filter fun name =>
    let hidden := name.startsWith "."
    let special := name == "." || name == ".."
    let seen :=
      if special then asksForDot && m.style.dialect == .plain
      else if hidden then asksForDot || m.dots
      else true
    seen && Glob.matchAll pattern (m.style.locale.characters name)

/-- All directories below one, and itself, as beginnings of paths. -/
def below (fs : FileSystem) (place : FileSystem.Place) (dots : Bool) : Nat → String → List String
  | 0, start => [start]
  | n + 1, start =>
    let names := (namesIn fs place start).filter fun name =>
      name != "." && name != ".." && (dots || !name.startsWith ".")
    let isReal (path : String) : Bool := match fs.walk false place (Text.Octets.toText path) with
      | .ok l => fs.isDirectory l
      | .error _ => false
    start :: (names.mergeSort (· ≤ ·)).flatMap fun name =>
      if isReal (start ++ name) then below fs place dots n (start ++ name ++ "/") else []

/-- The paths that pieces match, after a beginning. -/
def search (m : Manner) (fs : FileSystem) (place : FileSystem.Place) :
    List (List Glob.Cell × String) → String → List String
  | [], start => if leads fs place start then [start] else []
  | (cells, slashes) :: rest, start =>
    if cells = [] then search m fs place rest (start ++ slashes)
    else if m.stars ∧ cells = [('*', false), ('*', false)] then
      let starts := below fs place m.dots 64 start
      if slashes = "" then
        let all := starts.flatMap fun s => (matching m (namesIn fs place s) [('*', false)]).map (s ++ ·)
        (if start = "" then all else start :: all)
      else starts.flatMap (search m fs place rest)
    else if Glob.isSpecial m.style.groups cells then
      let found := matching m (namesIn fs place start) cells
      if rest = [] ∧ slashes = "" then found.map (start ++ ·)
      else
        (found.filter fun name => isDirectory fs place (start ++ name)).flatMap fun name =>
          search m fs place rest (start ++ name ++ slashes)
    else search m fs place rest (start ++ literal cells ++ slashes)

/-- Whether a pattern of a path matches a path, slash by slash. -/
def matchesPath (m : Manner) (pattern : List Glob.Cell) (path : String) : Bool :=
  let patterns := ((pieces pattern).map Prod.fst).filter (· != [])
  let names := (path.splitOn "/").filter (· != "")
  (pattern.head?.map Prod.fst == some '/') == path.startsWith "/" && patterns.length == names.length
    && (patterns.zip names).all fun (cells, name) => Glob.matchesText m.style cells name

/-- Whether a path is left out. -/
def isLeft (m : Manner) (path : String) : Bool :=
  let last := (path.splitOn "/").getLast?.getD ""
  m.left != [] && (last == "." || last == ".." || m.left.any fun pattern => matchesPath m pattern path)

/-- The patterns that a text lists with colons between them, those inside brackets being part of a pattern. -/
def listed (text : String) : List (List Glob.Cell) :=
  let rec go (inside : Bool) (read : List Char) : List Char → List (List Char)
    | [] => [read.reverse]
    | c :: cs =>
      if c = ':' ∧ ¬ inside then read.reverse :: go false [] cs
      else if c = '[' ∧ cs.contains ']' then go true (c :: read) cs
      else if c = ']' ∧ cs.head? ≠ some ']' then go false (c :: read) cs
      else go inside (c :: read) cs
  ((go false [] text.toList).filter (· != [])).map fun cs => cs.map fun c => (c, false)

/-- The paths that cells stand for, in order; none if they are no pattern or nothing matches. -/
def find (m : Manner) (fs : FileSystem) (place : FileSystem.Place) (cells : List Glob.Cell) : List String :=
  if ¬ Glob.isSpecial m.style.groups cells then []
  else ((search m fs place (pieces cells) "").filter fun path => !isLeft m path).mergeSort (· ≤ ·)

end TaskRunner.Shell.Paths
