import TaskRunner.Shell.Pattern

/-!
# Patterns in arguments

Programs take the patterns of the shell as arguments too; there a slash or a dot is a character like any
other.
-/

namespace TaskRunner.Tools

/-- A pattern. -/
abbrev Wildcard := List Shell.Glob

namespace Wildcard

/-- Reads a pattern. -/
def ofString (s : String) : Wildcard :=
  Shell.Glob.read ⟨.extended, .unicode, false, false⟩ (s.toList.map fun c => (c, false))

/-- Whether a pattern matches a name. -/
def isMatch (w : Wildcard) (s : String) : Bool := Shell.Glob.matchAll w (Text.Octets.characters s)

end Wildcard

end TaskRunner.Tools
