import TaskRunner.Task

/-!
# The statements of a Runfile

A Runfile is a list of statements. Some declare tasks, through whatever the names `doc` and `run` are
bound to; the others bind names, look names up, raise failures, catch them, write and change the
directory.
-/

namespace TaskRunner.Runfile

/-- A statement of a Runfile. -/
inductive Statement where
  /-- Gives documentation to the next task. -/
  | doc (text : Data)
  /-- Declares a task with a body; a null body is none. -/
  | run (name : Data) (body : Body)
  /-- Declares a task by its name and keeps what comes of it under a handle. -/
  | declare (name : Data) (handle : String)
  /-- Gives a body to what is kept under a handle. -/
  | apply (handle : String) (body : Body)
  /-- Declares several names and gives the one body to all, the last name first. -/
  | deco (names : List Data) (body : Body)
  | set (name : String) (value : Data)
  /-- Binds a name to a function that gives the list of its arguments. -/
  | define (name : String)
  | get (name : String)
  | raise (label : String) (args : List Data)
  /-- Statements up to the first failure, which is caught. -/
  | attempt (body : List Statement)
  | print (text : Data)
  | chdir (path : String)

end TaskRunner.Runfile
