import TaskRunner.FileSystem.Change
import TaskRunner.Tools.Options

/-!
# Files that are put aside

A program that puts a file in the place of another one may keep the old one under a name of its own: the name with an
ending, or with a number that is greater than those of all that were kept before.
-/

namespace TaskRunner.Tools

open Processes

/-- How names of files that are put aside are made. -/
inductive Backup where
  | numbered
  /-- With an ending; with a number instead, where files with numbers are, if that is said. -/
  | ending (suffix : String) (mayNumber : Bool)
  deriving DecidableEq

namespace Backup

/-- The words for the ways to put files aside; those of a group mean the same. -/
def kinds : List (List String) := [["none", "off"], ["simple", "never"], ["existing", "nil"], ["numbered", "t"]]

/-- The options that ask for it. -/
def options : List Known := [wordMayTake "backup", flag "b", taking "S" "suffix"]

/-- How files are put aside, if the options ask for that. -/
def of (g : Given) : Tool (Option Backup) := do
  if ¬ (g.has "b" ∨ g.has "backup" ∨ g.has "S") then return none
  let suffix := (g.last? "S") <|> (← Tool.setting "SIMPLE_BACKUP_SUFFIX")
  let suffix := match suffix with
    | some s => if s = "" ∨ s.toList.contains '/' then "~" else s
    | none => "~"
  let kind ← match (g.last? "backup").filter (· ≠ "") with
    | some s => Options.choice 1 "backup type" kinds s
    | none => match (← Tool.setting "VERSION_CONTROL").filter (· ≠ "") with
      | some s => Options.choice 1 "$VERSION_CONTROL" kinds s
      | none => pure "existing"
  match kind with
  | "none" => return none
  | "numbered" => return some .numbered
  | kind => return some (.ending suffix (kind == "existing"))

/-- The greatest number of a file that was put aside under a path. -/
def greatest (path : String) : Tool Nat := do
  let (fs, place) ← Proc.files
  let (around, name) := match (path.splitOn "/").reverse with
    | name :: above => (if above = [] then "." else "/".intercalate above.reverse ++ "/", name)
    | [] => (".", path)
  match fs.walk true place (Text.Octets.toText around) with
  | .error _ => return 0
  | .ok l =>
    let number (other : String) : Nat :=
      if other.startsWith (name ++ ".~") ∧ other.endsWith "~" then
        let digits := ((other.drop (name.length + 2)).dropEnd 1).toString
        if digits.startsWith "0" then 0 else digits.toNat?.getD 0
      else 0
    return (fs.names l).foldl (fun n other => max n (number (Text.Octets.ofName other))) 0

/-- The name under which a file is put aside. -/
def nameFor (b : Backup) (path : String) : Tool String := do
  let path := String.ofList (path.toList.reverse.dropWhile (· == '/')).reverse
  let counted (n : Nat) : String := path ++ ".~" ++ toString (n + 1) ++ "~"
  match b with
  | .numbered => return counted (← greatest path)
  | .ending suffix mayNumber =>
    let n ← if mayNumber then greatest path else pure 0
    return if n = 0 then path ++ suffix else counted n

/-- Puts a file aside: where it went. -/
def putAside (b : Backup) (path : String) : Tool (Except Refusal String) := do
  let name ← b.nameFor path
  match ← Proc.changeFiles fun fs place => fs.renameAt place (Text.Octets.toText path) (Text.Octets.toText name) with
  | .ok () => return .ok name
  | .error r => return .error r

end Backup

end TaskRunner.Tools
