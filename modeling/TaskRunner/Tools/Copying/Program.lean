import TaskRunner.Tools.Accounts
import TaskRunner.Tools.Copying

/-!
# Programs that put files in other places

The last argument is a directory that everything goes into, or the new name of the only file.
-/

namespace TaskRunner.Tools.Copying

open Processes
open Making (known inside)

/-! ## Where things go -/

/-- The things that go somewhere, and whether that is a directory which they go into. -/
structure Route where
  sources : List String
  target : String
  isInside : Bool

/-- Stops because there are not enough operands. -/
def needOperands (given : List String) (needed : Nat) : Tool Unit := do
  if given = [] then Tool.misuse 1 "missing file operand"
  match given with
  | [one] => if 1 < needed then Tool.misuse 1 ("missing destination file operand after " ++ Quoting.always one)
  | _ => return

/-- Finds out where things go; a directory that is named by an option may be missing if that is said. -/
def routeOf (g : Given) (failing : String) (mayMiss : Bool) : Tool Route := do
  if 1 < (g.all "t").length then Tool.fail 1 "multiple target directories specified"
  needOperands g.operands (if g.has "t" then 1 else 2)
  match g.last? "t" with
  | some d =>
    if g.has "T" then Tool.fail 1 "cannot combine --target-directory (-t) and --no-target-directory (-T)"
    let refusal : Option Refusal := match ← known true d with
      | .error .noEntry => if mayMiss then none else some .noEntry
      | .error r => some r
      | .ok (_, i) => if i.kind = .directory then none else some .notDirectory
    match refusal with
    | some r => Tool.fail 1 (failing ++ Quoting.always d ++ ": " ++ r.message)
    | none => return ⟨g.operands, d, true⟩
  | none =>
    let last := g.operands.getLast?.getD ""
    if g.has "T" then
      match g.operands.drop 2 with
      | extra :: _ => Tool.misuse 1 ("extra operand " ++ Quoting.always extra)
      | [] => return ⟨g.operands.dropLast, last, false⟩
    let refusal : Option Refusal := match ← known true last with
      | .error r => some r
      | .ok (_, i) => if i.kind = .directory then none else some .notDirectory
    match refusal with
    | none => return ⟨g.operands.dropLast, last, true⟩
    | some r =>
      if 2 < g.operands.length then Tool.fail 1 ("target " ++ Quoting.always last ++ ": " ++ r.message)
      return ⟨g.operands.dropLast, last, false⟩

/-- Does something for all things that go somewhere: the status. -/
def Route.follow (r : Route) (pathFor : String → String) (action : String → String → Work Outcome) : Tool Nat := do
  let go (source : String) : Work Nat := do
    modify fun p => { p with hasTree := false }
    return if (← action source (if r.isInside then inside r.target (pathFor source) else r.target)) = .done then 0 else 1
  let work : Work (List Nat) := r.sources.mapM go
  return (← (work.run {})).1.foldl max 0

/-- How files are put aside; `never` tells whether nothing is ever written over, which excludes it. -/
def backupOf (g : Given) (never : Bool) : Tool (Option Backup) := do
  if never ∧ (g.has "b" ∨ g.has "backup" ∨ g.has "S") then
    Tool.misuse 1 "options --backup and --no-clobber are mutually exclusive"
  Backup.of g

/-! ## Copying -/

/-- The attributes that may be kept. -/
def attributes : List (List String) :=
  [["mode"], ["timestamps"], ["ownership"], ["links"], ["context"], ["xattr"], ["all"]]

/-- What options say about attributes, one after the other: which are kept, and whether permissions are dropped. -/
def keptBy : List (String × Option String) → Tool (List String × Bool)
  | [] => return ([], false)
  | (key, value) :: earlier => do
    let (kept, drops) ← keptBy earlier
    let whole := ["mode", "timestamps", "ownership", "links", "xattr"]
    match key with
    | "p" => return (["mode", "timestamps", "ownership"] ++ kept, drops)
    | "d" => return ("links" :: kept, drops)
    | "a" => return (whole ++ kept, drops)
    | "preserve" | "no-preserve" =>
      let keeps := key == "preserve"
      let words ← match value with
        | none => pure ["mode", "timestamps", "ownership"]
        | some list => (list.splitOn ",").mapM fun w => Options.choice 1 ("--" ++ key) attributes w
      let named := words.flatMap fun w => if w = "all" then whole else [w]
      let drops := if named.contains "mode" && value.isSome then !keeps else drops
      return (if keeps then (named ++ kept, drops) else (kept.filter fun w => !named.contains w, drops))
    | _ => return (kept, drops)

/-- The directories around a path that are made in another directory too, the outermost first. -/
def madeAround (m : Manner) (directory : String) : List String → Tool Bool
  | [] => return true
  | path :: rest => do
    let copy := inside directory (String.ofList (path.toList.dropWhile (· == '/')))
    let there ← known true copy
    let isMissing : Bool := match there with
      | .ok _ => false
      | .error _ => true
    if isMissing ∨ m.keepsMode ∨ m.keepsTimes then
      let refusal : Option Refusal := match ← known true path with
        | .error r => some r
        | .ok (_, i) => if i.kind = .directory then none else some .notDirectory
      if let some r := refusal then
        discard <| failing ("failed to get attributes of " ++ Quoting.always path ++ ": " ++ r.message)
        return false
    match there with
    | .ok (_, i) =>
      if i.kind = .directory then madeAround m directory rest
      else
        discard <| failing (Quoting.always copy ++ " exists but is not a directory")
        return false
    | .error _ =>
      let mode : Nat := match ← known true path with
        | .ok (_, i) => i.mode
        | .error _ => 0o777
      match ← Making.makeOne copy (mode &&& (0o7777 ^^^ (← Making.mask)) ||| 0o700) with
      | .ok () =>
        if m.verbose then Tool.emitLine (path ++ " -> " ++ copy)
        madeAround m directory rest
      | .error r =>
        discard <| cannot "make directory" copy r
        return false

/-- How `cp` copies. -/
def mannerOf (g : Given) : Tool Manner := do
  let recursive := g.has "r" || g.has "R" || g.has "a"
  let (kept, drops) ← keptBy g.options.reverse
  for s in g.all "sparse" do discard <| Options.choice 1 "--sparse" [["never"], ["auto"], ["always"]] s
  for s in g.all "reflink" do discard <| Options.choice 1 "--reflink" [["auto"], ["always"], ["never"]] s
  let asking := g.lastOf? ["i", "n"]
  if g.has "l" ∧ g.has "s" then Tool.misuse 1 "cannot make both hard and symbolic links"
  let never := asking == some "n"
  let backup ← backupOf g never
  if kept.contains "context" ∨ g.has "Z" then
    if g.has "Z" then Tool.note ((← Tool.name) ++ ": warning: ignoring --context; it requires an SELinux-enabled kernel\n")
    else Tool.fail 1 "cannot preserve security context without an SELinux-enabled kernel"
  return {
    deed := if g.has "l" then .links else if g.has "s" then .points else .copies
    follows := match g.lastOf? ["L", "P", "H", "d", "a"] with
      | some "L" => .all
      | some "H" => .arguments
      | some _ => .none
      | none => if recursive && !g.has "l" then .none else .all
    recursive
    readsAll := !recursive || g.has "copy-contents"
    keepsMode := kept.contains "mode", dropsMode := drops, keepsTimes := kept.contains "timestamps"
    keepsNames := kept.contains "links"
    standing := if never then .kept else if asking == some "i" then .askedAbout else .replaced
    force := g.has "f", removesFirst := g.has "remove-destination", onlyNewer := g.has "u" && !never
    verbose := g.has "v", backup, attributesOnly := g.has "attributes-only" }

/-- Copies files. -/
def cp (args : List String) : Tool Nat := do
  let known' := [flag "a" "archive", word "attributes-only", word "copy-contents", flag "d", flag "f" "force", flag "H",
    flag "i" "interactive", flag "l" "link", flag "L" "dereference", flag "n" "no-clobber", flag "P" "no-dereference",
    flag "p", wordMayTake "preserve", wordTaking "no-preserve", word "parents", flag "r" "recursive", flag "R" "recursive",
    wordMayTake "reflink", word "remove-destination", wordTaking "sparse", word "strip-trailing-slashes",
    flag "s" "symbolic-link", taking "t" "target-directory", flag "T" "no-target-directory", flag "u" "update",
    flag "v" "verbose", flag "x" "one-file-system", flag "Z", wordMayTake "context"]
  let g ← Options.read { known := known' ++ Backup.options } args
  let m ← mannerOf g
  let route ← routeOf g "target directory " false
  let strip (s : String) : String := if g.has "strip-trailing-slashes" then Words.withoutSlashes s else s
  let route := { route with sources := route.sources.map strip }
  let parents := g.has "parents"
  if parents ∧ ¬ route.isInside then Tool.misuse 1 "with --parents, the destination must be a directory"
  let fuel := 3 * (← Making.depth) + 10
  -- A file may be put aside under its own name: the copy is what is put aside then.
  if let (some b, true, [source]) := (m.backup, m.force, route.sources) then
    if ¬ route.isInside ∧ source = route.target then
      if let .ok (_, i) := ← known true source then
        if i.kind = .file then
          let aside ← b.nameFor source
          return ← { route with target := aside }.follow id fun source target =>
            copyAt { m with backup := none } (source, target) fuel true [] source target
  let name (source : String) : String :=
    if parents then String.ofList ((Words.withoutSlashes source).toList.dropWhile (· == '/'))
    else
      let last := Words.lastName source
      if last = ".." then "." else if last = "/" then "" else last
  route.follow name fun source target => do
    if parents then
      let around := Making.beginnings (Words.withoutSlashes source)
      let isThere : Bool := match ← known true (Words.around target) with
        | .ok (_, i) => i.kind == .directory
        | .error _ => false
      if ¬ isThere ∨ m.keepsMode ∨ m.keepsTimes then
        if ¬ (← madeAround m route.target around) then return .failed
    copyAt m (source, target) fuel true [] source target

/-! ## Moving -/

/-- Moves files. -/
def mv (args : List String) : Tool Nat := do
  let known' := [flag "f" "force", flag "i" "interactive", flag "n" "no-clobber", word "strip-trailing-slashes",
    taking "t" "target-directory", flag "T" "no-target-directory", flag "u" "update", flag "v" "verbose", flag "Z" "context"]
  let g ← Options.read { known := known' ++ Backup.options } args
  let asking := g.lastOf? ["i", "n", "f"]
  let never := asking == some "n"
  let route ← routeOf g "target directory " false
  let backup ← backupOf g never
  let m : Manner :=
    { deed := .moves, follows := .none, recursive := true, readsAll := false
      standing := if never then .kept else if asking == some "i" then .askedAbout else .replaced
      onlyNewer := g.has "u" && !never, verbose := g.has "v", backup }
  let strip (s : String) : String := if g.has "strip-trailing-slashes" then Words.withoutSlashes s else s
  { route with sources := route.sources.map strip }.follow Words.lastName (moveAt m)

/-! ## Installing -/

/-- Whether a file is a copy of another one already, with the permissions that it has to have. -/
def isInstalled (source target : String) (mode : Nat) : Tool Bool := do
  match ← known false source, ← known false target with
  | .ok (_, i), .ok (_, j) =>
    if i.kind ≠ .file ∨ j.kind ≠ .file ∨ 0o777 < i.mode ∨ j.mode ≠ mode ∨ i.size ≠ j.size then return false
    match ← Tool.contentOf source, ← Tool.contentOf target with
    | .ok a, .ok b => return a == b
    | _, _ => return false
  | _, _ => return false

/-- Copies files and gives them permissions, or makes directories with permissions. -/
def install (args : List String) : Tool Nat := do
  let known' := [flag "c", flag "C" "compare", flag "d" "directory", flag "D", taking "g" "group", taking "m" "mode",
    taking "o" "owner", flag "p" "preserve-timestamps", flag "s" "strip", wordTaking "strip-program",
    taking "t" "target-directory", flag "T" "no-target-directory", flag "v" "verbose", flag "Z", wordMayTake "context",
    word "preserve-context"]
  let g ← Options.read { known := known' ++ Backup.options } args
  let makes := g.has "d"
  if makes ∧ g.has "s" then Tool.fail 1 "the strip option may not be used when installing a directory"
  if makes ∧ g.has "t" then Tool.fail 1 "target directory not allowed when installing a directory"
  let backup ← Backup.of g
  let route ← if makes then needOperands g.operands 1 *> pure ⟨[], "", false⟩ else routeOf g "failed to access " (g.has "D")
  let changes ← Making.modeOf ((g.last? "m").getD "755")
  let mode := Modes.adjusted changes false 0 0
  if g.has "strip-program" ∧ ¬ g.has "s" then
    Tool.say "WARNING: ignoring --strip-program option as -s option was not specified"
  if g.has "C" then
    if g.has "p" then Tool.misuse 1 "options --compare (-C) and --preserve-timestamps are mutually exclusive"
    if g.has "s" then Tool.misuse 1 "options --compare (-C) and --strip are mutually exclusive"
    if 0o777 < mode then
      Tool.say "the --compare (-C) option is ignored when you specify a mode with non-permission bits"
  if let some user := g.last? "o" then
    if (Accounts.numberIn Accounts.users user).isNone then Tool.fail 1 ("invalid user " ++ Quoting.always user)
  if let some group := g.last? "g" then
    if (Accounts.numberIn Accounts.groupNames group).isNone then Tool.fail 1 ("invalid group " ++ Quoting.always group)
  let verbose (path : String) : Tool Unit := do
    if g.has "v" then Tool.emitLine ((← Tool.name) ++ ": creating directory " ++ Quoting.always path)
  let complain (path : String) (r : Refusal) : Tool Unit :=
    let shown := if makes then Quoting.local_ path else Quoting.always path
    Tool.say ("cannot create directory " ++ shown ++ ": " ++ r.message)
  if makes then
    return ← Tool.worst (fun path => do
      if ¬ (← Making.makeAround verbose complain (Making.beginnings path)) then return 1
      match ← Making.makeOne path (Modes.adjusted changes true 0 0) with
      | .ok () =>
        verbose path
        return 0
      | .error r =>
        if r = .entryExists ∧ (← Making.isDirectory path) then
          permit path (Modes.adjusted changes true 0 0)
          return 0
        complain path r
        return 1) g.operands
  let m : Manner :=
    { mode := some changes, removesFirst := true, verbose := g.has "v", keepsTimes := g.has "p", backup
      omits := "omitting directory " }
  route.follow Words.lastName fun source target => do
    if g.has "D" then
      if ¬ (← Making.makeAround verbose complain (Making.beginnings target)) then return .failed
    if g.has "p" then
      if let .error r := ← known true source then return ← cannot "stat" source r
    if g.has "C" ∧ mode ≤ 0o777 then
      if ← isInstalled source target mode then return .done
    copyAt m (source, target) 3 true [] source target

end TaskRunner.Tools.Copying
