import TaskRunner.Shell.Builtins.Usage
import TaskRunner.Shell.Quoting
import TaskRunner.Shell.Test

/-!
# Commands of the shell for directories

The directory that a shell stands in is known by the way that led there, so that two dots lead back along it.
The extended language keeps a stack of directories; the one that the shell stands in counts as its top.
-/

namespace TaskRunner.Shell.Builtins

open Processes

/-! ## The present directory -/

/-- The name of the directory that a process stands in, links resolved, if it is still there. -/
def physicalDirectory : Sh (Option String) := do
  let (fs, place) ← Proc.files
  return if fs.holds place then some (Text.Octets.ofName (Location.toString place.location)) else none

/-- Writes the directory that the shell stands in. -/
def pwd (args : List String) : Sh Nat := do
  let (flags, _) ← readOptions "LP" args
  let s ← get
  let physical := (flags.getLast?.map Prod.fst) = some 'P' || (s.dialect = .extended && Sh.isOn s "physical" && flags.isEmpty)
  let here ← physicalDirectory
  let shown := if physical then here else if s.directory = "" then here else some s.directory
  match shown, s.dialect with
  | some d, _ =>
    Sh.put (d ++ "\n")
    return 0
  | none, .plain =>
    Sh.put "\n"
    return 0
  | none, .extended =>
    discard <| Proc.write 2 (Sh.bytes ("pwd: error retrieving current directory: getcwd: cannot access parent directories: "
      ++ "No such file or directory\n"))
    return 1

/-- A path from the root with its dots and slashes taken away, two dots taking away the name before them. Two slashes
at its beginning stay if just these are there. -/
def tidy (path : String) : String :=
  let names := (path.splitOn "/").foldl (fun (found : List String) name =>
    if name = "" ∨ name = "." then found
    else if name = ".." then found.drop 1
    else name :: found) []
  let lead := if path.startsWith "//" ∧ ¬ path.startsWith "///" then "//" else "/"
  lead ++ "/".intercalate names.reverse

/-- Goes to another directory. -/
def cd (args : List String) : Sh Nat := do
  let (flags, args) ← readOptions (if ← Sh.isExtended then "LPe@" else "LP") args
  let s ← get
  let physical := (flags.getLast?.map Prod.fst) = some 'P' || Sh.isOn s "physical"
  if s.dialect = .extended ∧ 1 < args.length then
    Sh.complainAbout "too many arguments"
    return 1
  let back := args.head? = some "-"
  let given : Except String String := match args with
    | [] => match Sh.value? s "HOME", s.dialect with
      | some h, _ => .ok h
      | none, .plain => .ok ""
      | none, .extended => .error "HOME not set"
    | "-" :: _ => match Sh.value? s "OLDPWD", s.dialect with
      | some h, _ => .ok h
      | none, .plain => .ok ""
      | none, .extended => .error "OLDPWD not set"
    | path :: _ => .ok path
  match given with
  | .error why =>
    Sh.complainAbout why
    return 1
  | .ok path =>
    if path = "" then
      if back ∧ s.dialect = .plain then Sh.put (s.directory ++ "\n")
      return 0
    let relative := !path.startsWith "/"
    let searches := relative ∧ path ≠ "." ∧ path ≠ ".." ∧ ¬ path.startsWith "./" ∧ ¬ path.startsWith "../"
    let around := if searches then ((Sh.value? s "CDPATH").getD "").splitOn ":" else []
    let candidates := (around.filter (· ≠ "")).map (fun d => (d ++ "/" ++ path, true)) ++ [(path, false)]
    let named : Option String := if s.dialect = .extended ∧ Sh.isOn s "cdable_vars" ∧ args ≠ [] then Sh.value? s path else none
    go s physical back path (candidates ++ (named.toList.map fun d => (d, true)))
where
  /-- Tries paths one after another. -/
  go (s : State) (physical back : Bool) (path : String) : List (String × Bool) → Sh Nat
    | [] => do
      match s.dialect with
      | .plain => Sh.fail ("can't cd to " ++ path)
      | .extended => return 1
    | (candidate, shows) :: rest => do
      let absolute := candidate.startsWith "/"
      let start := if s.directory.endsWith "/" then s.directory else s.directory ++ "/"
      let logical := if absolute then tidy candidate else if s.directory = "" then "" else tidy (start ++ candidate)
      let target := if physical ∨ logical = "" then candidate else logical
      let first ← Proc.enter target
      let entered ← match first with
        | .ok () => pure first
        | .error _ => if s.dialect = .extended ∧ target ≠ candidate then Proc.enter candidate else pure first
      match entered with
      | .error r =>
        if rest = [] ∧ s.dialect = .extended then
          Sh.complainAbout (path ++ ": " ++ Sh.reason r)
          return 1
        else go s physical back path rest
      | .ok () =>
        let here := (← physicalDirectory).getD ""
        let directory := if physical ∨ logical = "" then here else logical
        modify fun s => { s with directory }
        Sh.assignExported "OLDPWD" s.directory
        Sh.assignExported "PWD" directory
        if back ∨ shows then Sh.put (directory ++ "\n")
        return 0

/-! ## The stack -/

/-- A directory as it is shown: with a tilde for the home of the user. -/
def shortened (s : State) (directory : String) : String :=
  let home := Sh.valueOf s "HOME"
  if home ≠ "" ∧ (directory = home ∨ directory.startsWith (home ++ "/")) then "~" ++ (directory.drop home.length).toString
  else directory

/-- Writes the stack in one line. -/
def showStack : Sh Nat := do
  let s ← get
  Sh.put (" ".intercalate ((s.directory :: s.directories).map (shortened s)) ++ "\n")
  return 0

/-- The number after a sign, if a word is one. -/
def stackNumber? (word : String) : Option Int :=
  match word.toList with
  | '+' :: _ | '-' :: _ => Test.number? (word.drop 1).toString
  | _ => none

/-- The place in the stack that a number after a sign stands for: counted from the top, or from the bottom. -/
def stackPlace? (s : State) (word : String) : Option Nat :=
  (stackNumber? word).bind fun n =>
    let size := s.directories.length
    if n < 0 ∨ (size : Int) < n then none
    else some (if word.startsWith "-" then size - n.toNat else n.toNat)

/-- Says that there is no such place in the stack. -/
def noPlace (s : State) (word : String) : Sh Nat := do
  Sh.complainAbout (if s.directories = [] then "directory stack empty" else word ++ ": directory stack index out of range")
  return 1

/-- Says that a word makes no sense. -/
def badWord (word why : String) : Sh Nat := do
  Sh.complainAbout (word ++ ": " ++ why)
  sayUsage
  return 2

/-- How the stack is shown. -/
structure Showing where
  clears : Bool := false
  long : Bool := false
  lines : Bool := false
  numbers : Bool := false
  /-- The word that says which directory alone is shown. -/
  place : Option String := none

/-- Shows the stack. -/
def dirs (args : List String) : Sh Nat := go args {}
where
  /-- Reads the options one after another. -/
  go : List String → Showing → Sh Nat
    | "-l" :: rest, o => go rest { o with long := true }
    | "-c" :: rest, o => go rest { o with clears := true }
    | "-p" :: rest, o => go rest { o with lines := true }
    | "-v" :: rest, o => go rest { o with lines := true, numbers := true }
    | [], o | "--" :: _, o => «show» o
    | word :: rest, o => do
      if (stackNumber? word).isSome then go rest { o with place := some word }
      else badWord word (if word.startsWith "-" ∨ word.startsWith "+" then "invalid number" else "invalid option")
  /-- Shows what is asked for. -/
  «show» (o : Showing) : Sh Nat := do
    let s ← get
    if o.clears then
      set { s with directories := [] }
      return 0
    let all := (s.directory :: s.directories).map fun d => if o.long then d else shortened s d
    let numbered (n : Nat) (d : String) : String :=
      if o.numbers then String.ofList (List.replicate (2 - (toString n).length) ' ') ++ toString n ++ "  " ++ d else d
    match o.place with
    | none =>
      Sh.put ((if o.lines then "\n" else " ").intercalate (all.zipIdx.map fun (d, n) => numbered n d) ++ "\n")
      return 0
    | some word =>
      match stackPlace? s word with
      | some n =>
        Sh.put (numbered n ((all[n]?).getD "") ++ "\n")
        return 0
      | none => noPlace s (word.drop 1).toString

/-- Goes to a directory and lets the stack below it be others. -/
def goWith (enters : Bool) (directory : String) (below : List String) : Sh Nat := do
  let s ← get
  if enters then
    let status ← cd [directory]
    if status ≠ 0 then return status
  modify fun t => { t with directories := below, out := s.out }
  showStack

/-- Puts a directory on the stack, or turns the stack. -/
def pushd (args : List String) : Sh Nat := go true args
where
  /-- Reads the options one after another; `enters` says whether the shell goes to the new top. -/
  go (enters : Bool) : List String → Sh Nat
    | "-n" :: rest => go false rest
    | "--" :: rest => push enters rest
    | word :: rest => do
      let s ← get
      if word = "-" then push enters (word :: rest)
      else if (stackNumber? word).isSome then
        match stackPlace? s word with
        | none => noPlace s word
        | some n =>
          let all := s.directory :: s.directories
          let turned := all.drop n ++ all.take n
          if enters then goWith true (turned.headD "") (turned.drop 1)
          else
            set { s with directories := turned.drop 1 }
            return 0
      else if word.startsWith "-" ∨ word.startsWith "+" then badWord word "invalid number"
      else push enters (word :: rest)
    | [] => push enters []
  /-- Puts a directory on the stack, or exchanges the two at its top. -/
  push (enters : Bool) (words : List String) : Sh Nat := do
    let s ← get
    match words, s.directories with
    | [], [] =>
      if ¬ enters then return 0
      Sh.complainAbout "no other directory"
      return 1
    | [], d :: rest => if enters then goWith true d (s.directory :: rest) else return 0
    | [d], below => if enters then goWith true d (s.directory :: below) else goWith false "" (d :: below)
    | _, _ =>
      Sh.complainAbout "too many arguments"
      return 1

/-- Takes a directory from the stack. -/
def popd (args : List String) : Sh Nat := go true "+0" args
where
  /-- Reads the options one after another. -/
  go (enters : Bool) (place : String) : List String → Sh Nat
    | "-n" :: rest => go false place rest
    | [] | "--" :: _ => do
      let s ← get
      match stackPlace? s place, s.directories with
      | some 0, d :: rest => goWith enters d rest
      | some (n + 1), _ :: _ => goWith false "" (s.directories.eraseIdx n)
      | _, _ => noPlace s (if place = "+0" then "" else place)
    | word :: rest => do
      if (stackNumber? word).isSome then go enters word rest
      else badWord word (if word.startsWith "-" ∨ word.startsWith "+" then "invalid number" else "invalid argument")

end TaskRunner.Shell.Builtins
