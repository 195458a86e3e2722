/-!
# Paths

A path is written as names between slashes. What it says does not depend on repeated slashes, on a
slash at the end or on names that are a single dot, and `Path.ofString` drops them; two dots are
kept, since what they lead to depends on the files. A path starts at the root if it begins with a
slash; exactly two slashes at the beginning are kept as two.

A `Location` is a place in the tree of directories itself: the names on the way down from the root,
the innermost first, so that the directory around a place is the tail of its list.
-/

namespace TaskRunner

/-- A path as written: how many slashes it begins with, and its names. -/
structure Path where
  slashes : Nat
  names : List String
  deriving DecidableEq, Repr

/-- A place in the tree of directories: the names from the root down to it, innermost first. -/
abbrev Location := List String

/-- The pieces of a text between separators; a text without a separator is one piece. -/
def splitOn (separator : Char) : List Char → List (List Char)
  | [] => [[]]
  | c :: rest =>
    if c = separator then [] :: splitOn separator rest
    else match splitOn separator rest with
      | [] => [[c]]
      | piece :: pieces => (c :: piece) :: pieces

namespace Path

/-- The names in a text between slashes, empty ones included. -/
def pieces (s : String) : List String := (splitOn '/' s.toList).map String.ofList

/-- Reads a path as written. -/
def ofString (s : String) : Path where
  slashes := match s.toList with
    | '/' :: '/' :: '/' :: _ => 1
    | '/' :: '/' :: _ => 2
    | '/' :: _ => 1
    | _ => 0
  names := (pieces s).filter fun name => name ≠ "" ∧ name ≠ "."

/-- Whether a path starts at the root. -/
def isAbsolute (p : Path) : Bool := p.slashes ≠ 0

/-- Writes a path; the path without names is a dot, or the slashes it begins with. -/
def toString (p : Path) : String :=
  if p.slashes = 0 ∧ p.names = [] then "."
  else String.ofList (List.replicate p.slashes '/') ++ "/".intercalate p.names

instance : ToString Path := ⟨toString⟩

/-- The path of a name below a path. -/
def child (p : Path) (name : String) : Path := { p with names := p.names ++ [name] }

/-- The path around a path; the root and the empty path are around themselves. -/
def parent (p : Path) : Path := { p with names := p.names.dropLast }

end Path

namespace Location

/-- The absolute path of a location. -/
def path (l : Location) : Path := ⟨1, l.reverse⟩

/-- The location as text. -/
def toString (l : Location) : String := l.path.toString

/-- Goes through names by themselves, without a look at any file: a dot stays, two dots go up. -/
def descend (l : Location) : List String → Location
  | [] => l
  | name :: rest =>
    if name = "." then descend l rest
    else if name = ".." then descend l.tail rest
    else descend (name :: l) rest

end Location

end TaskRunner
