import TaskRunner.FileSystem.Change
import TaskRunner.FileSystem.Info
import TaskRunner.FileSystem.Resolve
import TaskRunner.Tools.Dates
import TaskRunner.Tools.Modes
import TaskRunner.Tools.Words

/-!
# Programs that make and remove files

Programs that make directories and files, remove them, and change what files have besides their
bytes. A file that cannot be changed is told about, and the others are changed all the same.
-/

namespace TaskRunner.Tools.Making

open Processes

/-! ## Asking about files -/

/-- What is known about what a path leads to, which may be what a descriptor stands for. -/
def known (follow : Bool) (path : String) : Tool (Except Refusal (Location × FileSystem.Info)) := do
  let (fs, place) ← Proc.files
  match Kernel.ownDescriptor? path with
  | some d =>
    let channel ← Proc.observe fun pid k => ((k.index? pid d).bind fun i => k.descriptions[i]?).map Description.channel
    return match channel with
      | some (.file node) => .ok (["fd"], fs.infoOf ["fd"] (.file node))
      | some (.directory l) => .ok (l, fs.infoOf l ((fs.held? l).getD (.directory 0)))
      | some (.device d) => .ok (["fd"], fs.infoOf ["fd"] (.device d))
      | some c => .ok (["fd"], fs.infoOf ["fd"] (.pipe c.serial))
      | none => .error .noEntry
  | none => return fs.info follow place (Text.Octets.toText path)

/-- Whether a path leads to a directory. -/
def isDirectory (path : String) : Tool Bool := do
  match ← known true path with
  | .ok (_, i) => return i.kind == .directory
  | .error _ => return false

/-- The permissions that new files do not get. -/
def mask : Tool Nat := Proc.observe fun pid k => ((k.process? pid).map Process.mask).getD 0

/-- Asks a question on the error output; the answer is a line of the input. -/
def consents (question : String) : Tool Bool := do
  Tool.flush
  Tool.note question
  match ← Proc.readThrough 0 10 with
  | .ok bytes => return !bytes.isEmpty && (bytes.get! 0 == 121 || bytes.get! 0 == 89)
  | .error _ => return false

/-- The name of a kind of file. -/
def kindName (i : FileSystem.Info) : String :=
  match i.kind with
  | .directory => "directory"
  | .link _ => "symbolic link"
  | .device _ => "character special file"
  | .pipe => "fifo"
  | .file => if i.size = 0 then "regular empty file" else "regular file"

/-- A path below a directory. -/
def inside (directory name : String) : String := if directory.endsWith "/" then directory ++ name else directory ++ "/" ++ name

/-- The permissions that an argument names. -/
def modeOf (s : String) : Tool (List Modes.Change) := do
  match Modes.read s with
  | some changes => return changes
  | none => Tool.fail 1 ("invalid mode " ++ Quoting.local_ s)

/-! ## Directories -/

/-- Makes a directory with permissions. -/
def makeOne (path : String) (mode : Nat) : Tool (Except Refusal Unit) :=
  Proc.changeFiles fun fs place => do
    let path := Text.Octets.toText path
    let fs ← fs.makeDirectoryAt place path
    match fs.walk false place path with
    | .ok l => return fs.chmodAt l mode
    | .error _ => return fs

/-- The beginnings of a path that end before a slash, the shortest first. -/
def beginnings (path : String) : List String :=
  let rec go : Nat → List Char → List Char → List String
    | 0, _, _ => []
    | n + 1, read, cs =>
      let (slashes, rest) := cs.span (· == '/')
      let (name, rest) := rest.span (· != '/')
      if name = [] then []
      else
        let here := name.reverse ++ (slashes.reverse ++ read)
        if rest.all (· == '/') then [] else String.ofList here.reverse :: go n here rest
  go (path.length + 1) [] path.toList

/-- Makes directories that lead to a path, where there are none. -/
def makeAround (verbose : String → Tool Unit) (complain : String → Refusal → Tool Unit) : List String → Tool Bool
  | [] => return true
  | path :: rest => do
    match ← known true path with
    | .ok (_, i) =>
      if i.kind = .directory then makeAround verbose complain rest
      else
        complain path .notDirectory
        return false
    | .error _ =>
      match ← makeOne path (0o777 &&& (0o7777 ^^^ (← mask)) ||| 0o300) with
      | .ok () =>
        verbose path
        makeAround verbose complain rest
      | .error r =>
        complain path r
        return false

/-- Makes directories. -/
def mkdir (args : List String) : Tool Nat := do
  let g ← Options.read
    { known := [flag "Z", wordMayTake "context", taking "m" "mode", flag "p" "parents", flag "v" "verbose"] } args
  if g.operands = [] then Tool.misuse 1 "missing operand"
  let changes ← match g.last? "m" with
    | some s => some <$> modeOf s
    | none => pure none
  let mask ← mask
  let mode := match changes with
    | some cs => Modes.adjusted cs true mask 0o777
    | none => 0o777 &&& (0o7777 ^^^ mask)
  let complain (path : String) (r : Refusal) : Tool Unit :=
    Tool.say ("cannot create directory " ++ Quoting.local_ path ++ ": " ++ r.message)
  let verbose (path : String) : Tool Unit := do
    if g.has "v" then Tool.emitLine ((← Tool.name) ++ ": created directory " ++ Quoting.always path)
  Tool.worst (fun path => do
    let around ← if g.has "p" then makeAround verbose complain (beginnings path) else pure true
    if ¬ around then return 1
    match ← makeOne path mode with
    | .ok () =>
      verbose path
      return 0
    | .error r =>
      if g.has "p" ∧ r = .entryExists ∧ (← isDirectory path) then return 0
      complain path r
      return 1) g.operands

/-- Makes pipes. -/
def mkfifo (args : List String) : Tool Nat := do
  let g ← Options.read { known := [flag "Z", wordMayTake "context", taking "m" "mode"] } args
  if g.operands = [] then Tool.misuse 1 "missing operand"
  let changes ← match g.last? "m" with
    | some s => match Modes.read s with
      | some cs => pure (some cs)
      | none => Tool.fail 1 "invalid mode"
    | none => pure none
  let mask ← mask
  let mode := match changes with
    | some cs => Modes.adjusted cs false mask 0o666
    | none => 0o666 &&& (0o7777 ^^^ mask)
  if 0o777 < mode then Tool.fail 1 "mode must specify only file permission bits"
  Tool.worst (fun path => do
    match ← Proc.changeFiles fun fs place => fs.makePipeAt place mode (Text.Octets.toText path) with
    | .ok () => return 0
    | .error r =>
      Tool.say ("cannot create fifo " ++ Quoting.always path ++ ": " ++ r.message)
      return 1) g.operands

/-- Removes an empty directory. -/
def removeDirectory (path : String) : Tool (Except Refusal Unit) :=
  Proc.changeFiles fun fs place => fs.removeDirectoryAt place (Text.Octets.toText path)

/-- Removes empty directories. -/
def rmdir (args : List String) : Tool Nat := do
  let g ← Options.read
    { known := [flag "p" "parents", word "ignore-fail-on-non-empty", flag "v" "verbose"] } args
  if g.operands = [] then Tool.misuse 1 "missing operand"
  let verbose (path : String) : Tool Unit := do
    if g.has "v" then Tool.emitLine ((← Tool.name) ++ ": removing directory, " ++ Quoting.always path)
  let ignored (r : Refusal) : Bool := g.has "ignore-fail-on-non-empty" && r == .notEmpty
  Tool.worst (fun path => do
    verbose path
    match ← removeDirectory path with
    | .error r =>
      if ignored r then return 0
      let isLink ← if path.endsWith "/" then do
          match ← known false (Words.withoutSlashes path) with
          | .ok (_, i) => pure (match i.kind with
            | .link _ => true
            | _ => false)
          | .error _ => pure false
        else pure false
      Tool.say ("failed to remove " ++ Quoting.always path ++ ": " ++ (if isLink then "Symbolic link not followed" else r.message))
      return 1
    | .ok () =>
      if g.has "p" then
        Tool.worst (fun around => do
          verbose around
          match ← removeDirectory around with
          | .ok () => return 0
          | .error r =>
            if ¬ ignored r then
              Tool.say ("failed to remove directory " ++ Quoting.always around ++ ": " ++ r.message)
              throw 1
            return 0) (beginnings path).reverse
      else return 0) g.operands

/-! ## Removing -/

/-- How files are removed. -/
structure Removal where
  recursive : Bool
  emptyDirectories : Bool
  force : Bool
  asks : Bool
  verbose : Bool

/-- Says that a path cannot be removed. -/
def unremoved (path : String) (r : Refusal) : Tool Nat := do
  Tool.say ("cannot remove " ++ Quoting.always path ++ ": " ++ r.message)
  return 1

/-- Asks whether a file is to be removed. -/
def mayRemove (o : Removal) (path what : String) : Tool Bool := do
  if ¬ o.asks then return true
  consents ((← Tool.name) ++ ": " ++ what ++ " " ++ Quoting.always path ++ "? ")

/-- Removes what is at a path, and all below it: the status, and whether it is gone. -/
def removeAt (o : Removal) : Nat → String → Tool (Nat × Bool)
  | 0, _ => return (1, false)
  | n + 1, path => do
    Proc.step
    match ← known false path with
    | .error r =>
      if o.force ∧ (r = .noEntry ∨ r = .notDirectory) then return (0, true)
      return (← unremoved path r, false)
    | .ok (l, i) =>
      if i.kind = .directory then
        let (fs, _) ← Proc.files
        let names := fs.names l
        if ¬ o.recursive ∧ ¬ o.emptyDirectories then return (← unremoved path .isDirectory, false)
        if ¬ o.recursive ∧ names ≠ [] then return (← unremoved path .notEmpty, false)
        if names ≠ [] then
          if ¬ (← mayRemove o path "descend into directory") then return (0, false)
        let (status, gone) ← children n path names
        if ¬ gone then return (status, false)
        if ¬ (← mayRemove o path "remove directory") then return (0, false)
        match ← removeDirectory path with
        | .ok () =>
          if o.verbose then Tool.emitLine ("removed directory " ++ Quoting.always path)
          return (status, true)
        | .error r => return (← unremoved path r, false)
      else
        if ¬ (← mayRemove o path ("remove " ++ kindName i)) then return (0, false)
        match ← Proc.changeFiles fun fs place => fs.unlinkAt place (Text.Octets.toText path) with
        | .ok () =>
          if o.verbose then Tool.emitLine ("removed " ++ Quoting.always path)
          return (0, true)
        | .error r =>
          if o.force ∧ (r = .noEntry ∨ r = .notDirectory) then return (0, true)
          return (← unremoved path r, false)
where
  /-- Removes what is in a directory: the status, and whether all of it is gone. -/
  children (n : Nat) (path : String) : List String → Tool (Nat × Bool)
    | [] => return (0, true)
    | name :: rest => do
      let (status, gone) ← removeAt o n (inside path (Text.Octets.ofName name))
      let (more, allGone) ← children n path rest
      return (max status more, gone && allGone)

/-- How deep the files are. -/
def depth : Tool Nat := do
  let (fs, _) ← Proc.files
  return fs.entries.keys.foldl (fun n l => max n l.length) 0 + 2

/-- Removes files. -/
def rm (args : List String) : Tool Nat := do
  let g ← Options.read
    { known := [flag "f" "force", flag "i", flag "I", wordMayTake "interactive", word "one-file-system",
        word "no-preserve-root", wordMayTake "preserve-root", flag "r" "recursive", flag "R", flag "d" "dir",
        flag "v" "verbose"] } args
  let last := g.options.reverse.find? fun (k, _) => ["f", "i", "I", "interactive"].contains k
  let manner : String := match last with
    | some ("f", _) => "f"
    | some ("i", _) => "i"
    | some ("I", _) => "I"
    | some (_, some w) => if w = "never" ∨ w = "no" ∨ w = "none" then "f" else if w = "once" then "I" else "i"
    | some (_, none) => "i"
    | none => ""
  let o : Removal :=
    { recursive := g.has "r" || g.has "R", emptyDirectories := g.has "d", force := g.has "f" && manner == "f"
      asks := manner == "i", verbose := g.has "v" }
  if g.operands = [] then
    if o.force then return 0
    Tool.misuse 1 "missing operand"
  let count := g.operands.length
  if manner = "I" ∧ (o.recursive ∨ 3 < count) then
    let plural := if count = 1 then " argument" else " arguments"
    let question := (← Tool.name) ++ ": remove " ++ toString count ++ plural ++ (if o.recursive then " recursively? " else "? ")
    if ¬ (← consents question) then return 0
  let depth ← depth
  Tool.worst (fun path => do
    let last := Words.lastName path
    if o.recursive ∧ (last = "." ∨ last = "..") then
      Tool.say ("refusing to remove " ++ Quoting.always "." ++ " or " ++ Quoting.always ".." ++ " directory: skipping "
        ++ Quoting.always path)
      return 1
    if o.recursive ∧ ¬ g.has "no-preserve-root" then
      match ← known false path with
      | .ok ([], i) =>
        if i.kind = .directory then
          let more := if path = "/" then "" else " (same as '/')"
          Tool.say ("it is dangerous to operate recursively on " ++ Quoting.always path ++ more)
          Tool.note ((← Tool.name) ++ ": use --no-preserve-root to override this failsafe\n")
          return 1
      | _ => pure ()
    let throughLink ← if o.recursive ∧ path.endsWith "/" then do
        match ← known false (Words.withoutSlashes path) with
        | .ok (_, i) => pure (match i.kind with
          | .link _ => true
          | _ => false)
        | .error _ => pure false
      else pure false
    if throughLink then unremoved path .notDirectory
    else return (← removeAt o depth path).1) g.operands

/-- Removes one name of a file. -/
def unlink (args : List String) : Tool Nat := do
  let g ← Options.read { known := [] } args
  match g.operands with
  | [] => Tool.misuse 1 "missing operand"
  | _ :: extra :: _ => Options.extra 1 extra
  | [path] =>
    match ← Proc.changeFiles fun fs place => fs.unlinkAt place (Text.Octets.toText path) with
    | .ok () => return 0
    | .error r => Tool.fail 1 ("cannot unlink " ++ Quoting.always path ++ ": " ++ r.message)

/-! ## Times and permissions -/

/-- Makes files, or changes the times of those that are there. -/
def touch (args : List String) : Tool Nat := do
  let g ← Options.read
    { known := [flag "a", flag "c" "no-create", taking "d" "date", flag "f", flag "h" "no-dereference", flag "m",
        taking "r" "reference", taking "t", wordTaking "time"] } args
  let zone ← Dates.zone
  let now ← Proc.now
  let seconds : Int := now / Dates.perSecond
  let wrong {α : Type} (s : String) : Tool α := Tool.fail 1 ("invalid date format " ++ Quoting.local_ s)
  let ofPair (t : Int × Nat) : Nat := t.1.toNat * Dates.perSecond + t.2
  if (g.has "t" ∧ (g.has "d" ∨ g.has "r")) then
    Tool.misuse 1 "cannot specify times from more than one source"
  let kind ← match g.last? "time" with
    | some s => some <$> Options.choice 1 "--time" [["atime", "access", "use"], ["mtime", "modify"]] s
    | none => pure none
  let uses := g.has "a" || kind == some "atime"
  let changes := g.has "m" || kind == some "mtime"
  let (uses, changes) := if uses || changes then (uses, changes) else (true, true)
  let base ← match g.last? "r" with
    | some path => do
      match ← known (!g.has "h") path with
      | .ok (_, i) => pure (some (i.accessed, i.modified))
      | .error r => Tool.fail 1 ("failed to get attributes of " ++ Quoting.always path ++ ": " ++ r.message)
    | none => pure none
  let given ← match g.last? "t", g.last? "d" with
    | some s, _ => match Calendar.readDigits zone seconds false s with
      | some t => pure (some (ofPair (t, 0), ofPair (t, 0)))
      | none => wrong s
    | none, some s =>
      let (used, changed) := base.getD (now, now)
      let near (start : Nat) : Option (Int × Nat) :=
        Calendar.read zone (start / Dates.perSecond : Nat) (start % Dates.perSecond) s
      match near used, near changed with
      | some t, some u => pure (some (ofPair t, ofPair u))
      | _, _ => wrong s
    | none, none => pure base
  if g.operands = [] then Tool.misuse 1 "missing file operand"
  Tool.worst (fun path => do
    if path = "-" then return 0
    let put (l : Location) : Tool Unit := do
      let now ← Proc.now
      let (used, changed) := given.getD (now, now)
      discard <| Proc.changeFiles fun fs _ =>
        let fs := if uses then fs.setUseAt l used else fs
        .ok (if changes then fs.setTimeAt l changed else fs)
    match ← known (!g.has "h") path with
    | .ok (l, _) =>
      put l
      return 0
    | .error r =>
      if (g.has "c" ∨ g.has "h") ∧ r = .noEntry then
        if g.has "c" then return 0
        Tool.say ("setting times of " ++ Quoting.always path ++ ": " ++ r.message)
        return 1
      if path.endsWith "/" then
        Tool.say ("setting times of " ++ Quoting.always path ++ ": " ++ r.message)
        return 1
      match ← Tool.writeFile { writes := true, create := true } path ByteArray.empty with
      | .error r =>
        Tool.say ("cannot touch " ++ Quoting.always path ++ ": " ++ r.message)
        return 1
      | .ok () =>
        match ← known true path with
        | .ok (l, _) =>
          if given.isSome then put l
          return 0
        | .error _ => return 0) g.operands

/-- Changes the permissions of a location and of all below it. -/
def chmodFrom (recursive : Bool) (show_ : String → Nat → Nat → Tool Unit) (newMode : FileSystem.Info → Nat) :
    Nat → String → Tool Unit
  | 0, _ => return
  | n + 1, path => do
    match ← known true path with
    | .error _ => return
    | .ok (l, i) =>
      let mode := newMode i
      discard <| Proc.changeFiles fun fs _ => .ok (fs.chmodAt l mode)
      show_ path i.mode mode
      if recursive ∧ i.kind = .directory then
        let (fs, _) ← Proc.files
        for name in fs.names l do
          let isLink : Bool := match fs.held? (name :: l) with
            | some (.link _ _) => true
            | _ => false
          if ¬ isLink then chmodFrom recursive show_ newMode n (inside path (Text.Octets.ofName name))

/-- Changes permissions. -/
def chmod (args : List String) : Tool Nat := do
  -- Permissions may begin with a hyphen.
  let isMode (a : String) : Bool := match a.toList with
    | '-' :: c :: _ => ['r', 'w', 'x', 'X', 's', 't', 'u', 'g', 'o', 'a', ',', '+', '='].contains c || c.isDigit
    | _ => false
  let own := (args.takeWhile (· ≠ "--")).find? isMode
  let args := match own with
    | some a => args.erase a
    | none => args
  let g ← Options.read
    { known := [flag "c" "changes", flag "f" "silent", ⟨"f", some "quiet", .none⟩, flag "v" "verbose", flag "R" "recursive",
        word "preserve-root", word "no-preserve-root", wordTaking "reference"] } args
  let (mode, files) ← match own, g.last? "reference", g.operands with
    | some m, _, files => pure (some m, files)
    | none, some _, files => pure (none, files)
    | none, none, m :: files => pure (some m, files)
    | none, none, [] => pure (none, [])
  if files = [] then
    match mode with
    | some m => Tool.misuse 1 ("missing operand after " ++ Quoting.local_ m)
    | none => Tool.misuse 1 "missing operand"
  let changes ← match mode, g.last? "reference" with
    | some m, _ => match Modes.read m with
      | some cs => pure cs
      | none => Tool.misuse 1 ("invalid mode: " ++ Quoting.local_ m)
    | none, some path => do
      match ← known true path with
      | .ok (_, i) => pure [⟨'=', 0o7777, .bits i.mode, 0o7777⟩]
      | .error r => Tool.fail 1 ("failed to get attributes of " ++ Quoting.always path ++ ": " ++ r.message)
    | none, none => pure []
  let mask ← mask
  let shown (path : String) (old new : Nat) : Tool Unit := do
    let text (m : Nat) : String := Modes.octal 4 m ++ " (" ++ Modes.letters m ++ ")"
    if old ≠ new ∧ (g.has "v" ∨ g.has "c") then
      Tool.emitLine ("mode of " ++ Quoting.always path ++ " changed from " ++ text old ++ " to " ++ text new)
    else if g.has "v" then Tool.emitLine ("mode of " ++ Quoting.always path ++ " retained as " ++ text old)
  let depth ← depth
  Tool.worst (fun path => do
    match ← known true path with
    | .ok _ =>
      chmodFrom (g.has "R") shown (fun i => Modes.adjusted changes (i.kind == .directory) mask i.mode) depth path
      return 0
    | .error r =>
      if ¬ g.has "f" then
        match r, ← known false path with
        | .noEntry, .ok _ => Tool.say ("cannot operate on dangling symlink " ++ Quoting.always path)
        | r, _ => Tool.say ("cannot access " ++ Quoting.always path ++ ": " ++ r.message)
      return 1) files

/-! ## Sizes and names -/

/-- Makes bytes so many, with zeros at the end if there are too few. -/
def resized (bytes : ByteArray) (size : Nat) : ByteArray :=
  if size ≤ bytes.size then bytes.extract 0 size else bytes ++ ⟨Array.replicate (size - bytes.size) 0⟩

/-- Sets the sizes of files. -/
def truncate (args : List String) : Tool Nat := do
  let g ← Options.read
    { known := [flag "c" "no-create", flag "o" "io-blocks", taking "r" "reference", taking "s" "size"] } args
  if ¬ g.has "s" ∧ ¬ g.has "r" then
    Tool.misuse 1 ("you must specify either " ++ Quoting.local_ "--size" ++ " or " ++ Quoting.local_ "--reference")
  let (sign, amount) ← match g.last? "s" with
    | none => pure (none, 0)
    | some s => do
      let cs := s.toList.dropWhile (· == ' ')
      let (sign, digits) : Option Char × List Char := match cs with
        | c :: rest => if ['<', '>', '/', '%', '+', '-'].contains c then (some c, rest) else (none, cs)
        | [] => (none, [])
      match Numbers.size (String.ofList digits) with
      | .ok n => pure (some (sign.getD '='), n)
      | .error _ => Tool.fail 1 ("Invalid number: " ++ Quoting.local_ s)
  if sign = some '/' ∨ sign = some '%' then
    if amount = 0 then Tool.fail 1 "division by zero"
  let base ← match g.last? "r" with
    | some path => do
      match ← known true path with
      | .ok (_, i) => pure (some i.size)
      | .error r => Tool.fail 1 ("cannot stat " ++ Quoting.always path ++ ": " ++ r.message)
    | none => pure none
  if g.operands = [] then Tool.misuse 1 "missing file operand"
  Tool.worst (fun path => do
    if g.has "c" then
      match ← known true path with
      | .error .noEntry => return 0
      | _ => pure ()
    match ← Tool.writeFile { writes := true, create := true } path ByteArray.empty with
    | .error r =>
      Tool.say ("cannot open " ++ Quoting.always path ++ " for writing: " ++ r.message)
      return 1
    | .ok () =>
      discard <| Proc.changeFiles fun fs place => do
        match fs.held? (← fs.walk true place (Text.Octets.toText path)) with
        | some (.file node) =>
          let bytes := fs.content node
          let old := base.getD bytes.size
          let new := match sign with
            | none => old
            | some '+' => old + amount
            | some '-' => old - amount
            | some '<' => min old amount
            | some '>' => max old amount
            | some '/' => old / amount * amount
            | some '%' => (old + amount - 1) / amount * amount
            | _ => amount
          return fs.write node (resized bytes new)
        | _ => return fs
      return 0) g.operands

/-- Letters in place of the marks of a template. -/
def randomName (seed : Nat) : Nat → String
  | 0 => ""
  | n + 1 =>
    let letters := "abcdefghijklmnopqrstuvwxyzABCDEFGHIJKLMNOPQRSTUVWXYZ0123456789".toList
    let next := (seed * 6364136223846793005 + 1442695040888963407) % 18446744073709551616
    String.singleton ((letters[(next / 65536) % letters.length]?).getD 'x') ++ randomName next n

/-- Makes a file with a name that no other has. -/
def mktemp (args : List String) : Tool Nat := do
  let g ← Options.read
    { known := [flag "d" "directory", taking "p", wordMayTake "tmpdir", flag "q" "quiet", wordTaking "suffix", flag "t",
        flag "u" "dry-run", flag "V"] } args
  let template ← match g.operands with
    | [] => pure none
    | [t] => pure (some t)
    | _ => Tool.misuse 1 "too many templates"
  let text := template.getD "tmp.XXXXXXXXXX"
  let (before, suffix) ← match g.last? "suffix" with
    | some s =>
      if ¬ text.endsWith "X" then
        Tool.fail 1 ("with --suffix, template " ++ Quoting.local_ text ++ " must end in X")
      pure (text, s)
    | none =>
      let cs := text.toList.reverse
      let after := cs.takeWhile (· != 'X')
      pure (String.ofList (cs.drop after.length).reverse, String.ofList after.reverse)
  if suffix.toList.contains '/' then
    Tool.fail 1 ("invalid suffix " ++ Quoting.local_ suffix ++ ", contains directory separator")
  let marks := (before.toList.reverse.takeWhile (· == 'X')).length
  if marks < 3 then Tool.fail 1 ("too few X's in template " ++ Quoting.local_ text)
  let own := (← Tool.setting "TMPDIR").filter (· ≠ "")
  let usual := own.getD "/tmp"
  let directory : Option String :=
    if g.has "t" then some ((own <|> g.last? "p").getD "/tmp")
    else if g.has "p" then g.last? "p"
    else if g.has "tmpdir" then some ((g.last? "tmpdir").getD usual)
    else if template.isNone then some usual
    else none
  if directory.isSome ∧ text.startsWith "/" ∧ template.isSome then
    Tool.fail 1 ("invalid template, " ++ Quoting.local_ text ++ "; with --tmpdir, it may not be absolute")
  let whole (name : String) : String := match directory with
    | some d => inside d name
    | none => name
  let stem := (before.dropEnd marks).toString
  let name := whole (stem ++ randomName (← Proc.now) marks ++ suffix)
  let done : Except Refusal Unit ←
    if g.has "u" then pure (.ok ())
    else if g.has "d" then makeOne name 0o700
    else do
      match ← Tool.writeFile { writes := true, create := true, exclusive := true } name ByteArray.empty with
      | .error r => pure (.error r)
      | .ok () => Proc.changeFiles fun fs place => do return fs.chmodAt (← fs.walk true place (Text.Octets.toText name)) 0o600
  match done with
  | .ok () =>
    Tool.emitLine name
    return 0
  | .error r =>
    if g.has "q" then return 1
    Tool.fail 1 ("failed to create " ++ (if g.has "d" then "directory" else "file") ++ " via template "
      ++ Quoting.local_ (whole text) ++ ": " ++ r.message)

end TaskRunner.Tools.Making
