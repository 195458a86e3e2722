import TaskRunner.Shell.Pattern

/-!
# Fields

What the pieces of a word stand for is a row of parts. Where the parts came from a parameter or a command
and are not quoted, they are cut into fields at the separators. Separators that are blanks count once
however many there are; any other separator ends a field, be it empty.
-/

namespace TaskRunner.Shell

/-- A part of what a word stands for. -/
inductive Part where
  /-- Bytes: whether they are quoted, and whether they are cut into fields. -/
  | text (s : String) (quoted splits : Bool)
  /-- A new field begins. -/
  | gap
  deriving Repr

namespace Fields

/-- A field: bytes, and which of them are quoted. -/
abbrev Field := List (String × Bool)

/-- A byte that separates fields whatever the separators are. -/
def hardSeparator : Char := '\x00'

/-- The state of cutting: the fields, the field that is being read, and whether it has begun. -/
structure Cut where
  fields : List Field
  field : Field
  run : String
  begun : Bool
  /-- Separators that come now belong to one that came before; it says whether that was a blank. -/
  after : Option Bool

namespace Cut

/-- Nothing has been read. -/
def start : Cut := ⟨[], [], "", false, none⟩

/-- The bytes of a run become part of the field. -/
def flush (c : Cut) : Cut := if c.run = "" then c else { c with field := (c.run, false) :: c.field, run := "" }

/-- The field ends. -/
def emit (c : Cut) : Cut :=
  let c := c.flush
  { c with fields := c.field.reverse :: c.fields, field := [], begun := false }

/-- Reads a byte of a part that is cut. -/
def feed (separators : List Char) (c : Cut) (b : Char) : Cut :=
  let isSeparator := b == hardSeparator || separators.contains b
  let isBlank := b == ' ' || b == '\t' || b == '\n' || b == hardSeparator
  let plain (c : Cut) : Cut :=
    if ¬ isSeparator then { c with run := c.run.push b, begun := true }
    else if isBlank ∧ ¬ c.begun then c
    else { c.emit with after := some isBlank }
  match c.after with
  | none => plain c
  | some blank =>
    if ¬ isSeparator then plain { c with after := none }
    else if isBlank then c
    else if blank then { c with after := some false }
    else plain { c with after := none }

/-- Reads a part. -/
def read (separators : List Char) (c : Cut) : Part → Cut
  | .gap => { c.emit with after := none }
  | .text s quoted splits =>
    if splits then { s.foldl (feed separators) { c with after := none } with after := none }
    else
      let c := c.flush
      { c with field := (s, quoted) :: c.field, begun := c.begun || quoted || s != "", after := none }

/-- The fields. -/
def finish (c : Cut) : List Field :=
  let c := if c.begun then c.emit else c
  c.fields.reverse

end Cut

/-- The fields of parts. -/
def cut (separators : String) (parts : List Part) : List Field :=
  (parts.foldl (Cut.read separators.toList) Cut.start).finish

/-- The bytes of a field. -/
def bytes (f : Field) : String := String.join (f.map Prod.fst)

/-- The cells of a field. -/
def cells (f : Field) : List Glob.Cell := f.flatMap fun (s, quoted) => s.toList.map fun c => (c, quoted)

/-- The bytes of parts that are not cut. -/
def joined (parts : List Part) : String :=
  parts.foldl (fun s p => match p with
    | .text t _ _ => s ++ t
    | .gap => s.push ' ') ""

/-- The cells of parts that are not cut. -/
def cellsOf (parts : List Part) : List Glob.Cell :=
  parts.flatMap fun
    | .text s quoted _ => s.toList.map fun c => (c, quoted)
    | .gap => [(' ', true)]

end Fields

end TaskRunner.Shell
