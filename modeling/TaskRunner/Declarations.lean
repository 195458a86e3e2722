import TaskRunner.Failure
import TaskRunner.Task

/-!
# Declarations

While a Runfile is loaded, its declarations build up a table of tasks. A text of documentation is
held until the next declaration of a task takes it. A task is declared with its body, or by its name
alone: the name is then reserved, with the documentation and the place in the order, until a body is
given to the reservation. Two declarations of one key are refused, whether the first is a task or a
reservation. Once the Runfile has been loaded the declarations are closed and nothing is accepted.
-/

namespace TaskRunner

/-- A name that was declared without a body, with the documentation that it took. -/
structure Reservation where
  key : String
  name : String
  doc : Option String
  deriving DecidableEq, Repr

/-- The declarations of one Runfile. -/
structure Declarations where
  /-- The directory that the tasks run in. -/
  directory : Path
  /-- The scope that the bodies of the tasks see. -/
  scope : ScopeId
  /-- The tasks, under their keys. -/
  committed : Assoc String Task
  /-- The keys in the order of their declarations. -/
  order : List String
  /-- The keys that wait for a body, with the names as they were spelled. -/
  reserved : Assoc String String
  /-- The documentation that waits for a task. -/
  pending : Option String
  /-- Whether the Runfile has been loaded. -/
  closed : Bool

/-- What a declaration leads to. -/
inductive Declared where
  | task (t : Task)
  | reservation (r : Reservation)

namespace Declarations

/-- No declarations yet. -/
def initial (directory : Path) (scope : ScopeId) : Declarations where
  directory
  scope
  committed := Assoc.empty
  order := []
  reserved := Assoc.empty
  pending := none
  closed := false

/-- The tasks in the order of their declarations, each once. -/
def tasks (d : Declarations) : List Task := d.order.eraseDups.filterMap d.committed.find?

/-- Holds a text of documentation for the next task. -/
def describe (d : Declarations) (text : String) : Except Failure Declarations :=
  if d.closed then .error .closed else .ok { d with pending := some text }

/-- The order with a key at its end, unless the key is already in it. -/
def placeKey (order : List String) (key : String) : List String :=
  if key ∈ order then order else order ++ [key]

/-- Makes a task of a name, its documentation and its body. -/
def commit (d : Declarations) (name : String) (doc : Option String) (body : Body) :
    Except Failure (Task × Declarations) :=
  if d.closed then .error .closed
  else if !body.isCallable then .error (.illFormedTask name "body is not callable")
  else
    let key := keyOf name
    if d.committed.contains key then .error (.duplicateTask name)
    else
      let task : Task := { name, doc, body, directory := d.directory, scope := d.scope }
      .ok (task, { d with order := placeKey d.order key, committed := d.committed.insert key task })

/-- Whether a key is taken, by a task or by a reservation. -/
def isTaken (d : Declarations) (key : String) : Bool := d.committed.contains key || d.reserved.contains key

/-- Declares a task, with a body or by its name alone; the documentation is taken before the body is looked at. -/
def declare (d : Declarations) (name : String) (body : Option Body) : Except Failure Declared × Declarations :=
  if d.closed then (.error .closed, d)
  else
    let key := keyOf name
    if d.isTaken key then (.error (.duplicateTask name), d)
    else
      let doc := d.pending
      let d := { d with pending := none }
      match body with
      | some body =>
        match d.commit name doc body with
        | .ok (task, d) => (.ok (.task task), d)
        | .error e => (.error e, d)
      | none =>
        (.ok (.reservation ⟨key, name, doc⟩),
          { d with reserved := d.reserved.insert key name, order := d.order ++ [key] })

/-- Gives a body to a reservation; the key waits no longer, whatever becomes of the task. -/
def apply (d : Declarations) (r : Reservation) (body : Body) : Except Failure Task × Declarations :=
  let d := { d with reserved := d.reserved.erase r.key }
  match d.commit r.name r.doc body with
  | .ok (task, d) => (.ok task, d)
  | .error e => (.error e, d)

/-- Accepts nothing more. -/
def close (d : Declarations) : Declarations := { d with closed := true }

/-- The tasks, if no reservation waits for a body; else the first that does is ill formed. -/
def settle (d : Declarations) : Except Failure (List Task) :=
  match d.reserved.values with
  | [] => .ok d.tasks
  | name :: _ => .error (.illFormedTask name "has no body")

end Declarations

end TaskRunner
