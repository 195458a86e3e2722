import TaskRunner.FileSystem.Canonical
import TaskRunner.Tools.Backups
import TaskRunner.Tools.Making

/-!
# Programs that make links

A file gets one more name, or something is made that leads to a path. What has the name already is removed or put aside,
if that is asked for.
-/

namespace TaskRunner.Tools.Linking

open Processes
open Making (known inside consents)

/-- Gives a file one more name. -/
def link (args : List String) : Tool Nat := do
  let g ← Options.read { known := [] } args
  match g.operands with
  | [a, b] =>
    match ← Proc.changeFiles fun fs place => fs.linkAt false place (Text.Octets.toText a) (Text.Octets.toText b) with
    | .ok () => return 0
    | .error r =>
      Tool.fail 1 ("cannot create link " ++ Quoting.always b ++ " to " ++ Quoting.always a ++ ": " ++ r.message)
  | _ :: _ :: extra :: _ => Options.extra 1 extra
  | few => Options.missingAfter 1 "operand" few

/-- The path from one directory to a location. -/
def relativePath (start target : Location) : String :=
  let rec strip : List String → List String → List String × List String
    | a :: as, b :: bs => if a = b then strip as bs else (a :: as, b :: bs)
    | as, bs => (as, bs)
  let (up, down) := strip start.reverse target.reverse
  let names := up.map (fun _ => "..") ++ down
  if names = [] then "." else Text.Octets.ofName ("/".intercalate names)

/-- How links are made. -/
structure Manner where
  symbolic : Bool
  /-- Whether the path in a link starts where the link is. -/
  relative : Bool
  /-- Whether symbolic links get no name of their own. -/
  logical : Bool
  /-- Whether what has the name is removed. -/
  force : Bool
  /-- Whether that is asked about. -/
  asks : Bool
  backup : Option Backup
  verbose : Bool

/-- What became of a name that was taken. -/
inductive Cleared where
  /-- Nothing is made. -/
  | stopped (status : Nat)
  /-- Something may be made in its place, perhaps because it was put aside. -/
  | ready (aside : Option String)

/-- Makes a link or gives a file the name. -/
def makeAt (m : Manner) (source path : String) : Tool (Except Refusal Unit) := Proc.changeFiles fun fs place =>
  if m.symbolic then fs.symlinkAt place (Text.Octets.toText source) (Text.Octets.toText path)
  else fs.linkAt m.logical place (Text.Octets.toText source) (Text.Octets.toText path)

/-- Says why nothing is made. -/
def stop (message : String) : Tool Cleared := do
  Tool.say message
  return .stopped 1

/-- Makes a name ready that something has. -/
def clear (m : Manner) (made : List (String × Nat)) (source path : String) : Tool Cleared := do
  match ← known false path with
  | .error .noEntry => return .ready none
  | .error r => stop ("failed to access " ++ Quoting.always path ++ ": " ++ r.message)
  | .ok (l, j) =>
    if j.kind = .directory then return ← stop (Quoting.file path ++ ": cannot overwrite directory")
    if made.contains (path, j.serial) then
      return ← stop ("will not overwrite just-created " ++ Quoting.always path ++ " with " ++ Quoting.always source)
    if m.backup.isNone ∨ ¬ m.symbolic then
      match ← known (m.symbolic || m.logical) source, ← known false source with
      | .ok (_, i), .ok (k, _) =>
        if i.serial = j.serial ∧ (i.names = 1 ∨ k = l) then
          return ← stop (Quoting.always source ++ " and " ++ Quoting.always path ++ " are the same file")
      | _, _ => pure ()
    if m.asks then
      if ¬ (← consents ((← Tool.name) ++ ": replace " ++ Quoting.always path ++ "? ")) then return .stopped 0
    match m.backup with
    | some b =>
      match ← b.putAside path with
      | .ok name => return .ready (some name)
      | .error r => stop ("cannot backup " ++ Quoting.always path ++ ": " ++ r.message)
    | none => return .ready none

/-- The path to something from the directory around a path. -/
def relativeTo (source path : String) : Tool String := do
  let (fs, place) ← Proc.files
  let real (path : String) := fs.canonical .nothing true place (Text.Octets.toText path)
  match real (Words.around path), real source with
  | .ok start, .ok goal => return relativePath start goal
  | _, _ => return source

/-- Shows a link that was made. -/
def shown (m : Manner) (source path : String) (aside : Option String) : Tool Unit := do
  if m.verbose then
    let before := match aside with
      | some b => Quoting.always b ++ " ~ "
      | none => ""
    Tool.emitLine (before ++ Quoting.always path ++ (if m.symbolic then " -> " else " => ") ++ Quoting.always source)

/-- Says that a link cannot be made. -/
def unmade (m : Manner) (source path : String) (r : Refusal) : Tool Unit :=
  let whole := if m.symbolic then source == "" || r == .nameTooLong else !([Refusal.entryExists, .noSpace]).contains r
  let arrow := if m.symbolic then " -> " else " => "
  Tool.say ("failed to create " ++ (if m.symbolic then "symbolic" else "hard") ++ " link " ++ Quoting.always path
    ++ (if whole then arrow ++ Quoting.always source else "") ++ ": " ++ r.message)

/-- Makes a link under a path: the status. `made` are the names that were given by now, with the serial numbers. -/
def linkTo (m : Manner) (made : List (String × Nat)) (source path : String) : Tool Nat := do
  let first ← if m.symbolic ∧ m.relative then pure (.error .entryExists) else makeAt m source path
  match first with
  | .ok () =>
    shown m source path none
    return 0
  | .error r =>
    if ¬ m.symbolic then
      match ← known m.logical source with
      | .error r =>
        Tool.say ("failed to access " ++ Quoting.always source ++ ": " ++ r.message)
        return 1
      | .ok (_, i) =>
        if i.kind = .directory then
          Tool.say (Quoting.file source ++ ": hard link not allowed for directory")
          return 1
    let source ← if m.relative then relativeTo source path else pure source
    let clears := m.force || m.asks || m.backup.isSome
    match ← if clears then clear m made source path else pure (.ready none) with
    | .stopped status => return status
    | .ready aside =>
      let wasTaken := r = .entryExists
      let again : Except Refusal Unit ← do
        if ¬ clears ∧ ¬ m.relative then pure (.error r)
        else
          match ← makeAt m source path with
          | .ok () => pure (.ok ())
          | .error .entryExists =>
            if ¬ (clears ∧ wasTaken) then pure (.error .entryExists)
            else
              -- Two names of one file stay as they are.
              match ← known m.logical source, ← known false path with
              | .ok (_, i), .ok (_, j) =>
                if ¬ m.symbolic ∧ i.serial = j.serial then pure (.ok ())
                else
                  discard <| Proc.changeFiles fun fs place => fs.unlinkAt place (Text.Octets.toText path)
                  makeAt m source path
              | _, _ =>
                discard <| Proc.changeFiles fun fs place => fs.unlinkAt place (Text.Octets.toText path)
                makeAt m source path
          | .error r => pure (.error r)
      match again with
      | .ok () =>
        shown m source path aside
        return 0
      | .error r =>
        unmade m source path r
        if let some name := aside then
          match ← Proc.changeFiles fun fs place => fs.renameAt place (Text.Octets.toText name) (Text.Octets.toText path) with
          | .ok () => pure ()
          | .error r => Tool.say ("cannot un-backup " ++ Quoting.always path ++ ": " ++ r.message)
        return 1

/-- Makes links for all of some paths in a directory: the status. -/
def linkAll (m : Manner) (target : String) (protects : Bool) : List (String × Nat) → List String → Tool Nat
  | _, [] => return 0
  | made, source :: rest => do
    let path := inside target (Words.lastName source)
    let status ← linkTo m made source path
    let made ← if protects ∧ status = 0 then
        match ← known false path with
        | .ok (_, i) => pure ((path, i.serial) :: made)
        | .error _ => pure made
      else pure made
    return max status (← linkAll m target protects made rest)

/-- Makes links. -/
def ln (args : List String) : Tool Nat := do
  let g ← Options.read
    { known := Backup.options ++ [flag "d" "directory", flag "F", flag "f" "force", flag "i" "interactive",
        flag "L" "logical", flag "n" "no-dereference", flag "P" "physical", flag "r" "relative", flag "s" "symbolic",
        taking "t" "target-directory", flag "T" "no-target-directory", flag "v" "verbose"] } args
  if let d :: more := g.all "t" then
    match ← known true d with
    | .error r => Tool.fail 1 ("failed to access " ++ Quoting.always d ++ ": " ++ r.message)
    | .ok (_, i) => if i.kind ≠ .directory then Tool.fail 1 ("target " ++ Quoting.always d ++ " is not a directory")
    if more ≠ [] then Tool.fail 1 "multiple target directories specified"
  if g.operands = [] then Tool.misuse 1 "missing file operand"
  let symbolic := g.has "s"
  if g.has "r" ∧ ¬ symbolic then Tool.fail 1 "cannot do --relative without --symbolic"
  let manner (backup : Option Backup) : Manner :=
    { symbolic, relative := g.has "r", logical := g.lastOf? ["L", "P"] == some "L"
      force := g.lastOf? ["f", "i"] == some "f", asks := g.lastOf? ["f", "i"] == some "i", backup, verbose := g.has "v" }
  let last := g.operands.getLast?.getD ""
  let directory (path : String) : Tool (Option Refusal) := do
    match ← known (!g.has "n") path with
    | .error r => return some r
    | .ok (_, i) => return if i.kind = .directory then none else some .notDirectory
  let target : Option String ←
    if g.has "T" then
      if g.has "t" then Tool.fail 1 "cannot combine --target-directory and --no-target-directory"
      match g.operands with
      | [one] => Tool.misuse 1 ("missing destination file operand after " ++ Quoting.always one)
      | _ :: _ :: extra :: _ => Tool.misuse 1 ("extra operand " ++ Quoting.always extra)
      | _ => pure none
    else match g.last? "t", g.operands with
      | none, [_] => pure (some ".")
      | some d, _ =>
        match ← directory d with
        | none => pure (some d)
        | some r => Tool.fail 1 ("target " ++ Quoting.always d ++ ": " ++ r.message)
      | none, many =>
        match ← directory last with
        | none => pure (some last)
        | some r =>
          if 2 < many.length then Tool.fail 1 ("target " ++ Quoting.always last ++ ": " ++ r.message)
          pure none
  let m := manner (← Backup.of g)
  match target with
  | some target =>
    let sources := if g.has "t" ∨ g.operands.length = 1 then g.operands else g.operands.dropLast
    let protects := 2 ≤ sources.length ∧ m.force ∧ ¬ symbolic ∧ m.backup ≠ some .numbered
    linkAll m target protects [] sources
  | none => linkTo m [] (g.operands.headD "") last

end TaskRunner.Tools.Linking
