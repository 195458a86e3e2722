import TaskRunner.Log
import TaskRunner.Machine
import TaskRunner.Toml.Reader

/-!
# Settings

What a project may set: the shell that runs its commands, whether commands are shown before they
run, and the level of the log. `ofTable` reads settings from a table and refuses names that no
setting has before it looks at any value; `toTable` writes them, without a shell if none is set.

The settings of a directory are the table `tool.runx` of the settings document in it. A directory
without such a document, or whose document has no such table, sets nothing.
-/

namespace TaskRunner

/-- The settings of a project. -/
structure Settings where
  shell : Option String
  echoCommands : Bool
  logLevel : String
  deriving DecidableEq, Repr

namespace Settings

/-- The settings of a project that sets nothing. -/
def default : Settings := ⟨none, false, "WARNING"⟩

instance : Inhabited Settings := ⟨default⟩

/-- The names of the settings. -/
def keys : List String := ["shell", "echo_commands", "log_level"]

/-- The names of a table that no setting has, each once, in order. -/
def unknownKeys (table : List (String × Data)) : List String :=
  ((table.map Prod.fst).filter fun key => !keys.contains key).mergeSort fun a b => a ≤ b

/-- The shell that a table sets. -/
def shellOf (table : List (String × Data)) : Except SettingsFault (Option String) :=
  match table.lookup "shell" with
  | none | some .null => .ok none
  | some (.text s) => .ok (some s)
  | some _ => .error .shellNotText

/-- Whether a table has commands shown. -/
def echoOf (table : List (String × Data)) : Except SettingsFault Bool :=
  match table.lookup "echo_commands" with
  | none => .ok default.echoCommands
  | some (.flag b) => .ok b
  | some _ => .error .echoNotFlag

/-- What a table gives for the level. -/
def levelData (table : List (String × Data)) : Data := (table.lookup "log_level").getD (.text default.logLevel)

/-- The level that a table sets, in upper case. -/
def levelOf (table : List (String × Data)) : Except SettingsFault String :=
  let given := (levelData table).display
  let level := Text.upper given
  match Log.levelOf? level with
  | some _ => .ok level
  | none => .error (.unknownLevel given)

/-- The settings of a table. -/
def ofTable (table : List (String × Data)) : Except SettingsFault Settings :=
  match unknownKeys table with
  | [] => do
    let shell ← shellOf table
    let echoCommands ← echoOf table
    let logLevel ← levelOf table
    return { shell, echoCommands, logLevel }
  | unknown => .error (.unknownKeys unknown)

/-- Reads settings from a table. What is given for the level has to be written out to be looked for, or to be told, and a number in
it that is too long for this is a failure of its own. -/
def read (table : List (String × Data)) : Except Failure Settings :=
  match ofTable table with
  | .ok settings => .ok settings
  | .error (.unknownLevel given) =>
    if (levelData table).hasLongNumber then .error (.longNumber none) else .error (.settings (.unknownLevel given))
  | .error fault => .error (.settings fault)

theorem read_eq_ok_iff {table : List (String × Data)} {settings : Settings} :
    read table = .ok settings ↔ ofTable table = .ok settings := by
  unfold read
  cases ofTable table with
  | ok s => simp only [Except.ok.injEq]
  | error fault =>
    cases fault with
    | unknownLevel given =>
      dsimp only
      split <;> simp only [reduceCtorEq]
    | unknownKeys | shellNotText | echoNotFlag | notTable | malformed | stated => simp only [reduceCtorEq]

/-- The table of settings. -/
def toTable (s : Settings) : List (String × Data) :=
  [("echo_commands", .flag s.echoCommands), ("log_level", .text s.logLevel)] ++
    match s.shell with
    | some shell => [("shell", .text shell)]
    | none => []

/-! ## Settings documents -/

/-- The name of the settings document in a directory. -/
def documentName : String := "pyproject.toml"

/-- The field of a value that has fields; a missing field is an empty table. -/
def member (name : String) : Data → Except Failure Data
  | .table fields => .ok ((fields.lookup name).getD (.table []))
  | d => .error (.noMember d.kindName "get")

/-- The settings of a document that has been read. -/
def ofDocument (fields : List (String × Data)) : Except Failure Settings := do
  let tool ← member "tool" (.table fields)
  match ← member "runx" tool with
  | .table table => read table
  | _ => throw (.settings .notTable)

/-- The settings of a directory. -/
def load (m : Machine) (directory : Path) : Except Failure Settings := do
  let path := directory.child documentName
  if ← m.pathExists path.toString then
    let text ← m.readText path.toString
    match Toml.read text with
    | .ok fields => ofDocument fields
    | .error fault =>
      match fault.reason with
      | .longNumber digits => throw (.longNumber (some digits))
      | _ => throw (.settings (.malformed path fault))
  else return default

end Settings

end TaskRunner
