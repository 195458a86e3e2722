import TaskRunner.Failure
import TaskRunner.Task

/-!
# The table of tasks

The tasks of all loaded Runfiles under their keys, in the order in which they came. A batch of tasks
is taken whole or not at all: a task whose key is in the table, or comes earlier in the batch, is a
duplicate. The help is one line per task, with the documentation in one column.
-/

namespace TaskRunner

/-- Tasks under their keys. -/
structure Registry where
  table : Assoc String Task

namespace Registry

/-- The table without tasks. -/
def empty : Registry := ⟨Assoc.empty⟩

/-- The tasks in order. -/
def tasks (r : Registry) : List Task := r.table.values

/-- The number of tasks. -/
def size (r : Registry) : Nat := r.table.size

/-- The task of a name, in whatever case the name is spelled. -/
def find? (r : Registry) (name : String) : Option Task := r.table.find? (keyOf name)

/-- Whether there is a task of a name. -/
def contains (r : Registry) (name : String) : Bool := r.table.contains (keyOf name)

/-- The tasks of a batch under their keys; the first that has the key of a task in the table or of an
earlier one is a duplicate. -/
def collect (r : Registry) (incoming : Assoc String Task) : List Task → Except Failure (Assoc String Task)
  | [] => .ok incoming
  | t :: rest =>
    if r.table.contains t.key ∨ incoming.contains t.key then .error (.duplicateTask t.name)
    else collect r (incoming.insert t.key t) rest

/-- Takes a batch of tasks; gives the new table and the number of tasks that came. -/
def merge (r : Registry) (batch : List Task) : Except Failure (Registry × Nat) := do
  let incoming ← r.collect Assoc.empty batch
  return (⟨r.table.insertAll incoming.toList⟩, incoming.size)

/-- The first line of the help. -/
def helpHeader : String := "Tasks:"

/-- The least space between a name and its documentation. -/
def helpGutter : Nat := 6

/-- The length of the longest name. -/
def nameWidth (r : Registry) : Nat := r.tasks.foldl (fun w t => max w t.name.length) 0

/-- The line of a task: its name after two spaces, its documentation in the column after the longest name. -/
def helpLine (width : Nat) (t : Task) : String :=
  "  " ++ t.name ++ String.ofList (List.replicate (width - t.name.length + helpGutter) ' ') ++ t.doc.getD ""

/-- The lines of the help. -/
def help (r : Registry) : List String := helpHeader :: r.tasks.map (helpLine r.nameWidth)

end Registry

end TaskRunner
