import TaskRunner.FileSystem.Canonical
import TaskRunner.Tools.Backups
import TaskRunner.Tools.Making

/-!
# Putting files in other places

A file is copied, moved or given another name, and directories are copied with all that is in them. What is at the target
already is written anew, removed or put aside first, unless that would destroy what is to be copied.
-/

namespace TaskRunner.Tools.Copying

open Processes
open Making (known inside consents)

/-! ## Manners -/

/-- What is done with a file. -/
inductive Deed where
  | copies
  /-- The target becomes one more name of the file. -/
  | links
  /-- The target becomes a symbolic link to the file. -/
  | points
  | moves
  deriving DecidableEq

/-- Which symbolic links are followed to what they lead to. -/
inductive Following where
  | none
  /-- Those among the arguments. -/
  | arguments
  | all
  deriving DecidableEq

/-- What is done about a file that is at the target already. -/
inductive Standing where
  | replaced
  | askedAbout
  | kept
  deriving DecidableEq

/-- How files are put in other places. -/
structure Manner where
  deed : Deed := .copies
  follows : Following := .all
  /-- Whether directories are taken. -/
  recursive : Bool := false
  /-- Whether what is no file, but can be read, is copied as a file. -/
  readsAll : Bool := true
  keepsMode : Bool := false
  /-- Whether copies get the permissions of new files. -/
  dropsMode : Bool := false
  keepsTimes : Bool := false
  /-- Whether names of one file become names of one copy. -/
  keepsNames : Bool := false
  /-- The permissions of copies, if they are given. -/
  mode : Option (List Modes.Change) := none
  standing : Standing := .replaced
  /-- Whether what cannot be opened at the target is removed. -/
  force : Bool := false
  /-- Whether what is at the target is removed in any case. -/
  removesFirst : Bool := false
  onlyNewer : Bool := false
  verbose : Bool := false
  backup : Option Backup := none
  attributesOnly : Bool := false
  /-- What is said about directories that are not taken. -/
  omits : String := "-r not specified; omitting directory "

/-- What has been done by now. -/
structure Progress where
  /-- Where arguments were found. -/
  taken : List Location := []
  /-- What was made for arguments, with the serial numbers. -/
  made : List (String × Nat) := []
  /-- Where there are copies: the serial number of what was copied, and the path of the copy. -/
  copies : List (Nat × String) := []
  /-- Whether a directory was made for the current argument. -/
  hasTree : Bool := false

/-- A computation that puts files in other places. -/
abbrev Work (α : Type) := StateT Progress (Proc Nat State) α

/-- How it went with something. -/
inductive Outcome where
  | done
  | failed
  /-- A directory was about to be copied into itself. -/
  | circular
  deriving DecidableEq

/-- The path of bytes as a path of text. -/
def text (path : String) : String := Text.Octets.toText path

/-- Whether something is a symbolic link. -/
def isLink (i : FileSystem.Info) : Bool :=
  match i.kind with
  | .link _ => true
  | _ => false

/-- Says what went wrong. -/
def failing (message : String) : Tool Outcome := do
  Tool.say message
  return .failed

/-- Says that something cannot be done to a path. -/
def cannot (what path : String) (r : Refusal) : Tool Outcome :=
  failing ("cannot " ++ what ++ " " ++ Quoting.always path ++ ": " ++ r.message)

/-- Two paths with a word between them. -/
def both (a word b : String) : String := Quoting.always a ++ word ++ Quoting.always b

/-- Shows what was put where. -/
def shown (source target : String) (aside : Option String) : Tool Unit :=
  let kept := match aside with
    | some name => " (backup: " ++ Quoting.always name ++ ")"
    | none => ""
  Tool.emitLine (both source " -> " target ++ kept)

/-- Where a path is, links at its end not followed. -/
def placeOf (path : String) : Tool (Option Location) := do
  match ← known false path with
  | .ok (l, _) => return some l
  | .error _ => return none

/-- Whether two paths are the same name of the same thing. -/
def isSameName (a b : String) : Tool Bool := do
  let place ← placeOf a
  return place.isSome && place == (← placeOf b)

/-- Removes what a path names. -/
def remove (m : Manner) (path : String) : Tool (Except Refusal Unit) := do
  match ← Proc.changeFiles fun fs place => fs.unlinkAt place (text path) with
  | .error r => return .error r
  | .ok () =>
    if m.verbose then Tool.emitLine ("removed " ++ Quoting.always path)
    return .ok ()

/-! ## What is at the target -/

/-- Whether something may take the place of what is at the target. -/
inductive Fit where
  | fine
  | nothingToDo
  | sameFile
  deriving DecidableEq

/-- Whether what leads to the same file as the target may take its place. -/
def fitOfSame (m : Manner) (source target : String) (i a b : FileSystem.Info) : Tool Fit := do
  let removes := m.deed == .moves || m.removesFirst
  if removes ∧ isLink b then return .fine
  if removes ∧ a.serial = b.serial ∧ 1 < b.names then
    if ¬ (← isSameName source target) then return if m.deed = .moves then .sameFile else .fine
  if ¬ isLink a ∧ ¬ isLink b then
    if a.serial ≠ b.serial then return .fine
    if m.deed = .links then return .nothingToDo
  if m.deed = .moves ∧ isLink i ∧ 1 < b.names then
    let (fs, place) ← Proc.files
    if let .ok l := fs.canonical .all true place (text source) then
      return if some l = (← placeOf target) then .sameFile else .fine
  if m.deed = .points ∧ isLink b then return .fine
  if m.follows ≠ .none then return .sameFile
  match ← known true source, ← known true target with
  | .ok (_, a'), .ok (_, b') =>
    if a'.serial ≠ b'.serial then return .fine
    if m.deed = .links then return if isLink b then .fine else .nothingToDo
    return .sameFile
  | _, _ => return .fine

/-- Whether what is at the source, as it is taken, may take the place of what is found at the target. -/
def fitOf (m : Manner) (source target : String) (i j : FileSystem.Info) : Tool Fit := do
  let same := i.serial == j.serial
  if same ∧ m.deed = .links then return .nothingToDo
  if m.follows = .none then
    if isLink i ∧ isLink j then
      if ← isSameName source target then return .sameFile
      if m.backup.isNone ∧ same then return if m.deed = .moves then .sameFile else .nothingToDo
      return .fine
    if m.backup.isSome then return if same && (← isSameName source target) then .sameFile else .fine
    fitOfSame m source target i i j
  else
    if ¬ same then return .fine
    match ← known false source, ← known false target with
    | .ok (_, a), .ok (_, b) =>
      if isLink a ∧ isLink b ∧ m.removesFirst then return .fine
      if m.backup.isSome then return if ← isSameName source target then .sameFile else .fine
      fitOfSame m source target i a b
    | _, _ => return .fine

/-- What is known about the target. -/
structure Ground where
  /-- What is still there. -/
  held : Option FileSystem.Info
  /-- Where that what was there has been put. -/
  aside : Option String
  /-- Whether there was something. -/
  wasThere : Bool

/-- Whether putting aside what is at the target would destroy the source. -/
def destroys (b : Backup) (source target : String) (i : FileSystem.Info) : Tool Bool := do
  match b with
  | .numbered => return false
  | .ending suffix _ =>
    let kept := Words.withoutSlashes target ++ suffix
    if Words.lastName source ≠ Words.lastName kept then return false
    match ← known true kept with
    | .ok (_, k) => return k.serial == i.serial
    | .error _ => return false

/-- Puts aside or removes what is at the target, if that has to be. -/
def cleared (m : Manner) (source target : String) (i j : FileSystem.Info) : Tool (Except Outcome Ground) := do
  let isTree := j.kind == .directory
  let name := Words.lastName source
  match m.backup with
  | some b =>
    if name ≠ "." ∧ name ≠ ".." ∧ (m.deed = .moves ∨ ¬ isTree) then
      if ← destroys b source target i then
        let deed := if m.deed = .moves then " not moved" else " not copied"
        return .error (← failing ("backing up " ++ both target " might destroy source;  " source ++ deed))
      match ← b.putAside target with
      | .ok kept => return .ok ⟨none, some kept, true⟩
      | .error r => return .error (← cannot "backup" target r)
  | none => pure ()
  let clears := m.removesFirst || (!m.attributesOnly &&
    ((m.keepsNames && 1 < j.names) || (m.follows == .none && i.kind != .file)))
  if ¬ isTree ∧ m.deed ≠ .moves ∧ clears then
    match ← remove m target with
    | .ok () | .error .noEntry => return .ok ⟨none, none, true⟩
    | .error r => return .error (← cannot "remove" target r)
  return .ok ⟨some j, none, true⟩

/-- Makes the target ready for what is at the source. -/
def groundFor (m : Manner) (first : Bool) (source target : String) (i : FileSystem.Info) : Work (Except Outcome Ground) := do
  let isTree := i.kind == .directory
  let isOdd := i.kind != .file && (!m.readsAll || isTree || isLink i)
  match ← known (!(isOdd || m.deed != .copies || m.backup.isSome || m.removesFirst)) target with
  | .error .noEntry => return .ok ⟨none, none, false⟩
  | .error r =>
    if r = .tooManyLinks ∧ m.force then
      match ← known false target with
      | .ok (_, j) => return .ok ⟨some j, none, true⟩
      | .error r => return .error (← cannot "stat" target r)
    return .error (← cannot "stat" target r)
  | .ok (_, j) =>
    let fit ← if m.standing = .kept then pure .fine else fitOf m source target i j
    if fit = .sameFile then return .error (← failing (both source " and " target ++ " are the same file"))
    if m.onlyNewer ∧ ¬ isTree ∧ i.modified ≤ j.modified then return .error .done
    if m.deed = .moves ∨ ¬ isTree then
      if m.standing = .kept then return .error .done
      if m.standing = .askedAbout then
        if ¬ (← consents ((← Tool.name) ++ ": overwrite " ++ Quoting.always target ++ "? ")) then return .error .done
    if fit = .nothingToDo then return .error .done
    let mayChangeKind := m.deed = .moves ∧ m.backup.isSome
    if j.kind ≠ .directory then
      if isTree ∧ ¬ mayChangeKind then
        return .error (← failing ("cannot overwrite non-directory " ++ both target " with directory " source))
      if first ∧ m.backup ≠ some .numbered ∧ (← get).made.contains (target, j.serial) then
        return .error (← failing ("will not overwrite just-created " ++ both target " with " source))
    else if ¬ isTree ∧ ¬ mayChangeKind then
      return .error (← failing ("cannot overwrite directory " ++ Quoting.always target ++ " with non-directory"))
    cleared m source target i j

/-- Puts back what was put aside, as nothing has come in its place. -/
def restored (m : Manner) (target : String) (aside : Option String) : Tool Unit := do
  match aside with
  | none => return
  | some kept =>
    match ← Proc.changeFiles fun fs place => fs.renameAt place (text kept) (text target) with
    | .ok () => if m.verbose then Tool.emitLine (both kept " -> " target ++ " (unbackup)")
    | .error r => Tool.say ("cannot un-backup " ++ Quoting.always target ++ ": " ++ r.message)

/-- Remembers what was made for an argument. -/
def record (target : String) : Work Unit := do
  if let .ok (_, i) := ← known false target then
    modify fun p => { p with made := (target, i.serial) :: p.made }

/-! ## Making copies -/

/-- The permissions that a copy of something is made with. -/
def modeFor (m : Manner) (i : FileSystem.Info) : Tool Nat := do
  let whole := if m.dropsMode then (if i.kind = .directory then 0o777 else 0o666) else i.mode &&& 0o777
  return whole &&& (0o7777 ^^^ (← Making.mask))

/-- Gives what a path leads to permissions. -/
def permit (path : String) (mode : Nat) : Tool Unit := discard <| Proc.changeFiles fun fs place => do
  return fs.chmodAt (← fs.walk true place (text path)) mode

/-- The names in the directory that a path leads to. -/
def namesIn (path : String) : Tool (List String) := do
  let (fs, place) ← Proc.files
  return match fs.walk true place (text path) with
    | .ok l => fs.names l
    | .error _ => []

/-- Gives a copy the permissions and times of what it was copied from. -/
def finished (m : Manner) (i : FileSystem.Info) (target : String) : Tool Unit := do
  discard <| Proc.changeFiles fun fs place => do
    let l ← fs.walk (!isLink i) place (text target)
    let fs := match m.mode with
      | some changes => fs.chmodAt l (Modes.adjusted changes (i.kind == .directory) 0 0)
      | none => if m.keepsMode && !isLink i then fs.chmodAt l i.mode else fs
    return if m.keepsTimes then (fs.setTimeAt l i.modified).setUseAt l i.accessed else fs

/-- Writes bytes over what is at a path, or to a new file there. -/
def written (m : Manner) (isNew : Bool) (target : String) (bytes : ByteArray) : Tool (Except Refusal Bool) := do
  let fresh : Tool (Except Refusal Bool) := do
    if target.endsWith "/" then return .error .notDirectory
    return (← Tool.writeFile { writes := true, create := true } target bytes).map fun () => true
  if isNew then return ← fresh
  match ← Tool.writeFile { writes := true, truncate := !m.attributesOnly } target bytes with
  | .ok () => return .ok false
  | .error .noEntry => fresh
  | .error r =>
    if ¬ m.force then return .error r
    match ← remove m target with
    | .ok () => fresh
    | .error r => return .error r

/-- Copies the bytes of a file to a path. -/
def copyBytes (m : Manner) (source : String) (i : FileSystem.Info) (target : String) (isNew : Bool) : Tool Outcome := do
  let found ← if m.attributesOnly then pure (.ok ByteArray.empty) else Tool.contentOf (if source = "-" then "./-" else source)
  match found with
  | .error r => failing ("cannot open " ++ Quoting.always source ++ " for reading: " ++ r.message)
  | .ok bytes =>
    let through ← if isNew then (match · with
        | .ok (_, j) => isLink j
        | .error _ => false) <$> known false target else pure false
    if through ∧ (← Tool.setting "POSIXLY_CORRECT").isNone then
      return ← failing ("not writing through dangling symlink " ++ Quoting.always target)
    match ← written m isNew target bytes with
    | .error r => cannot "create regular file" target r
    | .ok fresh =>
      if fresh then
        permit target (← modeFor m i)
      finished m i target
      return .done

/-- Makes a symbolic link, in place of what is there if that is allowed. -/
def pointTo (m : Manner) (goal target : String) : Tool (Except Refusal Unit) := do
  let make : Tool (Except Refusal Unit) := Proc.changeFiles fun fs place => fs.symlinkAt place goal (text target)
  match ← make with
  | .error .entryExists =>
    if ¬ m.force then return .error .entryExists
    discard <| Proc.changeFiles fun fs place => fs.unlinkAt place (text target)
    make
  | other => return other

/-- Makes a path one more name of a file. -/
def nameAgain (follows replaces : Bool) (source target : String) : Tool (Except Refusal Bool) := do
  let make : Tool (Except Refusal Unit) := Proc.changeFiles fun fs place => fs.linkAt follows place (text source) (text target)
  match ← make with
  | .ok () => return .ok false
  | .error .entryExists =>
    if ¬ replaces then return .error .entryExists
    if let (.ok (_, a), .ok (_, b)) := (← known follows source, ← known false target) then
      if a.serial = b.serial then return .ok false
    discard <| Proc.changeFiles fun fs place => fs.unlinkAt place (text target)
    return (← make).map fun () => true
  | .error r => return .error r

/-- Says that a file cannot get one more name. -/
def notLinked (source target : String) (r : Refusal) : Tool Outcome :=
  failing ("cannot create hard link " ++ both target " to " source ++ ": " ++ r.message)

/-- Makes a symbolic link to a file, the path of which has to lead there from the link. -/
def pointAt (m : Manner) (source target : String) : Tool Outcome := do
  let here ← known true "."
  let around ← known true (Words.around target)
  let isHere : Bool := match here, around with
    | .ok (_, a), .ok (_, b) => a.serial == b.serial
    | _, _ => true
  if ¬ source.startsWith "/" ∧ ¬ isHere then
    return ← failing (Quoting.file target ++ ": can make relative symbolic links only in current directory")
  match ← pointTo m (text source) target with
  | .ok () => return .done
  | .error r => failing ("cannot create symbolic link " ++ both target " to " source ++ ": " ++ r.message)

/-- Copies what is no directory to a target that is ready for it. -/
def copyOne (m : Manner) (follows : Bool) (source : String) (i : FileSystem.Info) (target : String) (g : Ground) :
    Tool Outcome := do
  if m.deed = .points then return ← pointAt m source target
  if m.deed = .links then
    match ← nameAgain follows (m.force || m.standing == .askedAbout) source target with
    | .ok _ => return .done
    | .error r => return ← notLinked source target r
  match i.kind with
  | .link goal =>
    match ← pointTo m goal target with
    | .error r => cannot "create symbolic link" target r
    | .ok () =>
      finished m i target
      return .done
  | .pipe =>
    if m.readsAll then return ← copyBytes m source i target g.held.isNone
    let mode := i.mode &&& (0o7777 ^^^ (← Making.mask))
    match ← Proc.changeFiles fun fs place => fs.makePipeAt place mode (text target) with
    | .error r => cannot "create fifo" target r
    | .ok () =>
      finished m i target
      return .done
  | _ => copyBytes m source i target g.held.isNone

/-- The copy of something that was copied before; it is remembered if there is none. -/
def earlier (serial : Nat) (path : String) : Work (Option String) := do
  match (← get).copies.find? fun (n, _) => n == serial with
  | some (_, copy) => return some copy
  | none =>
    modify fun p => { p with copies := (serial, path) :: p.copies }
    return none

/-- Forgets that there is a copy. -/
def forget (serial : Nat) : Work Unit := modify fun p => { p with copies := p.copies.filter fun (n, _) => n != serial }

/-- What is done about a directory that was met before; it is copied all the same if there is nothing. -/
def metAgain (m : Manner) (top : String × String) (first : Bool) (source target copy : String) : Tool (Option Outcome) := do
  if ← isSameName source copy then
    Tool.say ("cannot copy a directory, " ++ both top.1 ", into itself, " top.2)
    return some .circular
  if ← isSameName target copy then
    Tool.say ("warning: source directory " ++ Quoting.always top.1 ++ " specified more than once")
    return some .done
  if m.follows = .all ∨ (first ∧ m.follows = .arguments) then return none
  some <$> failing ("will not create hard link " ++ both target " to directory " (inside top.2 copy))

mutual

/-- Copies what is at a path to another path. `top` are the argument and its target, `around` the serial numbers of the
directories that are being copied. -/
def copyAt (m : Manner) (top : String × String) : Nat → Bool → List Nat → String → String → Work Outcome
  | 0, _, _, _, _ => return .failed
  | n + 1, first, around, source, target => do
    (Proc.step : Tool Unit)
    let follows := m.follows = .all ∨ (first ∧ m.follows = .arguments)
    match ← known follows source with
    | .error r => cannot "stat" source r
    | .ok (_, i) =>
      let isTree := i.kind == .directory
      if isTree ∧ ¬ m.recursive then return ← failing (m.omits ++ Quoting.always source)
      if first then
        if let some l ← placeOf source then
          if ¬ isTree ∧ m.backup.isNone ∧ (← get).taken.contains l then
            Tool.say ("warning: source file " ++ Quoting.always source ++ " specified more than once")
            return .done
          modify fun p => { p with taken := l :: p.taken }
      match ← groundFor m first source target i with
      | .error outcome => return outcome
      | .ok g =>
        if first ∧ m.backup.isNone then
          if let .ok (_, j) := ← known false target then
            if isLink j ∧ (← get).made.contains (target, j.serial) then
              return ← failing ("will not copy " ++ both source " through just-created symlink " target)
        if m.verbose ∧ ¬ isTree then shown source target g.aside
        let sharesNames := m.keepsNames && m.deed != .links &&
          (1 < i.names || (first && m.follows == .arguments) || m.follows == .all)
        let copy ←
          if isTree then
            if first then earlier i.serial target
            else pure (((← get).copies.find? fun (n, _) => n == i.serial).map Prod.snd)
          else if sharesNames then earlier i.serial target
          else pure none
        let again : Option Outcome ← match copy with
          | none => pure none
          | some copy =>
            if isTree then metAgain m top first source target copy
            else match ← nameAgain follows true copy target with
              | .ok removed =>
                if removed ∧ m.verbose then Tool.emitLine ("removed " ++ Quoting.always target)
                pure (some .done)
              | .error r => some <$> notLinked copy target r
        let outcome ← match again with
          | some outcome => pure outcome
          | none =>
            if isTree then copyTree m top n around source i target g
            else
              let outcome ← copyOne m follows source i target g
              if outcome = .failed then forget i.serial
              pure outcome
        if outcome = .done ∧ first then record target
        if outcome ≠ .done then restored m target g.aside
        return outcome

/-- Copies a directory to a target that is ready for it. -/
def copyTree (m : Manner) (top : String × String) (n : Nat) (around : List Nat) (source : String) (i : FileSystem.Info)
    (target : String) (g : Ground) : Work Outcome := do
  if around.contains i.serial then return ← failing ("cannot copy cyclic symbolic link " ++ Quoting.always source)
  let mode ← modeFor m i
  if g.held.isNone then
    match ← Making.makeOne target (0o700 ||| mode) with
    | .error r =>
      forget i.serial
      return ← cannot "create directory" target r
    | .ok () =>
      if ¬ (← get).hasTree then
        if let .ok (_, j) := ← known true target then discard <| earlier j.serial target
        modify fun p => { p with hasTree := true }
      if m.verbose then shown source target none
  let names ← namesIn source
  let inner := { m with follows := if m.follows = .arguments then .none else m.follows }
  let outcome ← children inner top n (i.serial :: around) source target names
  if g.held.isNone then permit target (if m.keepsMode then i.mode else mode)
  finished m i target
  return outcome

/-- Copies what is in a directory. -/
def children (m : Manner) (top : String × String) (n : Nat) (around : List Nat) (source target : String) :
    List String → Work Outcome
  | [] => return .done
  | name :: rest =>
    match n with
    | 0 => return .failed
    | n + 1 => do
      let name := Text.Octets.ofName name
      match ← copyAt m top n false around (inside source name) (inside target name) with
      | .circular => return .circular
      | .done => children m top (n + 1) around source target rest
      | .failed =>
        let outcome ← children m top (n + 1) around source target rest
        return if outcome = .done then .failed else outcome

end

/-- Gives what is at a path another name. -/
def moveAt (m : Manner) (source target : String) : Work Outcome := do
  let rename : Tool (Except Refusal Unit) := Proc.changeFiles fun fs place => fs.renameAt place (text source) (text target)
  let ended (aside : Option String) : Work Outcome := do
    if m.verbose then
      Tool.emit "renamed "
      shown source target aside
    record target
    return .done
  let stuck (r : Refusal) : Tool Outcome :=
    if r = .invalid then failing ("cannot move " ++ both source " to a subdirectory of itself, " target)
    else failing ("cannot move " ++ both source " to " target ++ ": " ++ r.message)
  let plain ← match ← known false source, ← known false target with
    | .ok _, .ok _ => pure (.error .entryExists)
    | _, _ => rename
  match plain with
  | .ok () => ended none
  | .error refusal =>
    if refusal = .entryExists ∧ m.standing = .kept then return .done
    match ← known false source with
    | .error r => cannot "stat" source r
    | .ok (_, i) =>
      match ← groundFor m true source target i with
      | .error outcome => return outcome
      | .ok g =>
        if ¬ g.wasThere then return ← stuck refusal
        match ← rename with
        | .ok () => ended g.aside
        | .error r => stuck r

end TaskRunner.Tools.Copying
