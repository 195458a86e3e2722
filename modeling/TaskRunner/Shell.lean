import TaskRunner.FileSystem
import TaskRunner.Host
import TaskRunner.Processes.Schedule
import TaskRunner.Tools.Load

/-!
# Running commands by a shell

The host that gives a command to a shell: the one that the project names, or the plain one. A name
with a slash is a path, and any other name is looked for on the search path of the environment. A
shell that cannot be started is a failure that names it.
-/

namespace TaskRunner.Shell

/-!
## What a machine starts with

The directories, programs and devices that are there before anything runs, and the environment of a process.
-/

/-- The directories, every one after the one around it. -/
def directories : List Location :=
  [["usr"], ["bin", "usr"], ["sbin", "usr"], ["lib", "usr"], ["local", "usr"], ["bin", "local", "usr"], ["etc"], ["dev"],
    ["home"], ["root"], ["tmp"], ["var"], ["tmp", "var"], ["mnt"], ["opt"], ["run"], ["srv"], ["proc"], ["sys"]]

/-- The names of the programs, all in one directory. -/
def programs : List String :=
  ["[", "arch", "awk", "b2sum", "base32", "base64", "basename", "bash", "cat", "chgrp", "chmod", "chown", "cksum",
    "cmp", "comm", "cp", "cut", "dash", "date", "dd", "diff", "diff3", "dir", "dirname", "du", "echo", "egrep", "env",
    "expand", "expr", "factor", "false", "fgrep", "find", "fmt", "fold", "getopt", "grep", "groups", "head", "hostid",
    "hostname", "id", "install", "join", "kill", "link", "ln", "logname", "ls", "mawk", "md5sum", "mkdir", "mkfifo",
    "mktemp", "mv", "nice", "nl", "nohup", "nproc", "numfmt", "od", "paste", "pathchk", "pr", "printenv", "printf",
    "pwd", "readlink", "realpath", "rev", "rm", "rmdir", "sdiff", "sed", "seq", "setsid", "sha1sum", "sha224sum",
    "sha256sum", "sha384sum", "sha512sum", "shuf", "sleep", "sort", "split", "stat", "stdbuf", "sum", "sync", "tac",
    "tail", "tee", "test", "timeout", "touch", "tr", "true", "truncate", "tsort", "tty", "uname", "unexpand", "uniq",
    "unlink", "users", "vdir", "wc", "which", "who", "whoami", "xargs", "yes"]

/-- The devices. -/
def devices : List (String × Device) := [("null", .null), ("zero", .zero), ("full", .full), ("random", .random), ("urandom", .random)]

/-- The files of a machine on which nothing has run. -/
def installed : FileSystem :=
  let bare := directories.foldl FileSystem.makeDirectory FileSystem.empty
  let filled := programs.foldl (fun fs name => fs.put [name, "bin", "usr"] (.program name)) bare
  let equipped := devices.foldl (fun fs (name, d) => fs.put [name, "dev"] (.device d)) filled
  (((((equipped.makeLink ["sh", "bin", "usr"] "dash").makeLink ["bin"] "usr/bin").makeLink ["sbin"] "usr/sbin").makeLink
    ["lib"] "usr/lib").makeLink ["rbash", "bin", "usr"] "bash")

/-- The environment of a process that was told nothing else. -/
def defaultEnvironment : List (String × String) :=
  [("PATH", "/usr/local/bin:/usr/local/sbin:/usr/bin:/usr/sbin:/bin:/sbin"), ("HOME", "/root"), ("LANG", "C.UTF-8")]

/-! ## Commands -/

open Processes

/-- The paths at which a program may be found. -/
def candidates (environment : Assoc String String) (name : String) : List String :=
  if name.toList.contains '/' then [name]
  else
    let path := (environment.find? "PATH").getD "/bin:/usr/bin"
    (path.splitOn ":").map fun d => if d = "" ∨ d.endsWith "/" then d ++ name else d ++ "/" ++ name

/-- The environment of a command as bytes. -/
def environmentOf (spawn : Spawn) : List (String × String) :=
  spawn.environment.toList.map fun (name, value) => (Text.Octets.ofText name, Text.Octets.ofText value)

/-- What the first of some paths that can be executed comes to. If there is none, the refusal is the first that says
more than that there is no such file, or else the last. -/
def firstImage (spawn : Spawn) (m : Machine) (refusal : Refusal) (telling : Bool) : List String → Except Refusal Image
  | [] => .error refusal
  | path :: paths =>
    let args := "-c" :: spawn.command.map Text.Octets.ofText
    match Executable.image m.files m.place (Text.Octets.ofText path) (Text.Octets.ofText spawn.name) args
        (environmentOf spawn) with
    | .ok image => .ok image
    | .error r =>
      if telling then firstImage spawn m refusal true paths
      else firstImage spawn m r (r ≠ .noEntry ∧ r ≠ .notDirectory) paths

/-- What executing the shell of a command comes to, or why it cannot be started. -/
def shellOf (spawn : Spawn) (m : Machine) : Except Failure Image := do
  let name := spawn.shell.getD Spawn.usualShell
  match firstImage spawn m .noEntry false (candidates spawn.environment name) with
  | .ok image => return image
  | .error r => throw (.refused r (some name))

/-- The number of the process that a command begins with. -/
def firstPid : Nat := 1000

/-- What processes share when a command begins: its input is a file that nothing names. -/
def kernelOf (m : Machine) : Nat × Kernel :=
  let (node, files) := m.files.newNode FileSystem.fileMode ⟨m.input.rest.toArray⟩
  let process : Process :=
    { parent := 0, descriptors := ⟨[(0, 0), (1, 1), (2, 2)]⟩, place := m.place, mask := 0o022
      ignored := [], caught := [], arrived := [], fatal := none, wake := none, ended := none }
  (node, {
    files
    descriptions := #[⟨.file node, 0, false, true, false⟩, ⟨.sink 0, 0, false, false, true⟩, ⟨.sink 1, 0, false, false, true⟩]
    pipes := #[]
    sinks := #[#[], #[]]
    processes := Assoc.empty.insert firstPid process
    nextProcess := firstPid + 1 })

/-- How the first process ended, if it has. -/
def ending? (k : Kernel) : Option Ending := (k.process? firstPid).bind Process.ended

/-- How often processes may take turns. -/
def mostTurns : Nat := 1000000000000

/-- The time in which what goes on after a command can still be seen. -/
def graceTime : Nat := 5000000

/-- Runs a command to its end, and a moment longer. What is collected ends only when nobody can write to it. -/
def settle (capture : Bool) (image : Image) (k : Kernel) : Kernel :=
  let isDone (k : Kernel) : Bool :=
    (ending? k).isSome && !(capture && (k.isReached (.sink 0) || k.isReached (.sink 1)))
  let (running, k) := schedule Tools.load isDone mostTurns [⟨firstPid, .become image⟩] k
  (schedule Tools.load (fun now => k.files.clock + graceTime ≤ now.files.clock) mostTurns running k).2

/-- The return code of a command: its status, or the number of the signal that ended it below zero. -/
def returnCode : Option Ending → Int
  | some (.exited status) => ((status % 256 : Nat) : Int)
  | some (.killed signal) => -signal
  | none => 0

/-- The host that runs commands by a shell. -/
def host : Host := fun spawn capture m =>
  match shellOf spawn m with
  | .error failure => ⟨.error failure, ByteArray.empty, ByteArray.empty, m.files, m.input.rest⟩
  | .ok image =>
    let (node, k) := kernelOf m
    let k := settle capture image k
    let read := ((k.descriptions[0]?).map Description.offset).getD 0
    let content := k.files.content node
    let files := { k.files with nodes := k.files.nodes.erase node }
    ⟨.ok (returnCode (ending? k)), k.collected 0, k.collected 1, files, (content.extract read content.size).toList⟩

end TaskRunner.Shell
