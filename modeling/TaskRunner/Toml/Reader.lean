import TaskRunner.Toml.Scan

/-!
# Reading a settings document

A document is a list of lines: a field (`key = value`), the header of a table (`[key]`), the header
of one more table of a list (`[[key]]`), or nothing. `read` gives the table that the lines build, or
the first fault. Besides the table it keeps which keys may not be declared again: `declared` holds
the tables that a header opened or dots went through, `frozen` the arrays and tables that were
written as one value, which nothing may add to.
-/

namespace TaskRunner.Toml

/-- The fields of a table. -/
abbrev Fields := List (String × Data)

/-- Applies a change to the table that a key leads to, with the tables on the way made where they are
missing; through a list the way goes on in its last table, if it may. -/
def within (throughLists : Bool) (change : Fields → Except Reason Fields) : List String → Fields → Except Reason Fields
  | [], fields => change fields
  | name :: rest, fields =>
    match fields.lookup name with
    | none => do return Data.putField name (.table (← within throughLists change rest [])) fields
    | some (.table inner) => do return Data.putField name (.table (← within throughLists change rest inner)) fields
    | some (.list items) =>
      match throughLists, items.getLast? with
      | true, some (.table inner) => do
        let inner ← within throughLists change rest inner
        return Data.putField name (.list (items.dropLast ++ [.table inner])) fields
      | _, _ => throw .overwritten
    | some _ => throw .overwritten

/-- Adds a field that is not there yet. -/
def addField (name : String) (value : Data) (orElse : Reason) (fields : Fields) : Except Reason Fields :=
  match fields.lookup name with
  | none => .ok (Data.putField name value fields)
  | some _ => .error orElse

/-- Adds an empty table to the list of a name. -/
def addToList (name : String) (fields : Fields) : Except Reason Fields :=
  match fields.lookup name with
  | none => .ok (Data.putField name (.list [.table []]) fields)
  | some (.list items) => .ok (Data.putField name (.list (items ++ [.table []])) fields)
  | some _ => .error .overwritten

/-- Whether a value is written as one and may not be added to. -/
def isClosed : Data → Bool
  | .list _ | .table _ => true
  | _ => false

/-- Whether a key is one of the given keys or lies below one. -/
def isBelow (keys : List (List String)) (key : List String) : Bool :=
  keys.any fun k => k.isPrefixOf key

/-- A reason as a refusal at the given characters. -/
def located {α : Type} (cs : List Char) (result : Except Reason α) : Except Stuck α :=
  result.mapError fun reason => ⟨reason, cs.length⟩

mutual

/-- A value; every step down or along uses up one of the given steps. -/
def value : Nat → List Char → Except Stuck (Data × List Char)
  | 0, cs => stuck .badValue cs
  | n + 1, cs =>
    match text? cs with
    | some result => result.map fun (s, rest) => (.text s, rest)
    | none =>
      match cs with
      | 't' :: 'r' :: 'u' :: 'e' :: rest => .ok (.flag true, rest)
      | 'f' :: 'a' :: 'l' :: 's' :: 'e' :: rest => .ok (.flag false, rest)
      | '[' :: rest => do
        let rest ← skipArraySpace (rest.length + 1) rest
        let (items, rest) ← arrayFrom n [] rest
        return (.list items, rest)
      | '\x7b' :: rest => do
        match skipSpace rest with
        | '\x7d' :: rest => return (.table [], rest)
        | rest =>
          let (fields, rest) ← inlineFrom n [] [] rest
          return (.table fields, rest)
      | _ =>
        match moment? cs with
        | some (m, rest) => if inCalendar m then .ok (.moment m, rest) else stuck .badDate cs
        | none =>
          match clock? cs with
          | some (t, rest) => .ok (.moment (.clock t), rest)
          | none =>
            match number? cs with
            | some found => if isLongDecimal cs found.1 then stuck (.longNumber (decimalSize found.1)) cs else .ok found
            | none => (special? cs).elim (stuck .badValue cs) .ok

/-- The values up to the closing bracket of an array; `read` holds those before, the last first. -/
def arrayFrom : Nat → List Data → List Char → Except Stuck (List Data × List Char)
  | 0, _, cs => stuck .openArray cs
  | n + 1, read, cs =>
    match cs with
    | ']' :: rest => .ok (read.reverse, rest)
    | _ => do
      let (d, rest) ← value n cs
      let rest ← skipArraySpace (rest.length + 1) rest
      match rest with
      | ']' :: rest => return ((d :: read).reverse, rest)
      | ',' :: rest =>
        let rest ← skipArraySpace (rest.length + 1) rest
        arrayFrom n (d :: read) rest
      | rest => stuck .openArray rest

/-- The fields up to the closing brace of a table on one line; `frozen` holds the keys whose values are
written as one. -/
def inlineFrom : Nat → List (List String) → Fields → List Char → Except Stuck (Fields × List Char)
  | 0, _, _, cs => stuck .openInlineTable cs
  | n + 1, frozen, fields, cs => do
    let (names, d, rest) ← pair n cs
    if isBelow frozen names then stuck (.immutable names) rest
    let stem := names.getLast?.getD ""
    let fields ← located rest (within false (addField stem d (.duplicateInline stem)) names.dropLast fields)
    match skipSpace rest with
    | '\x7d' :: rest => return (fields, rest)
    | ',' :: more => inlineFrom n (if isClosed d then names :: frozen else frozen) fields (skipSpace more)
    | rest => stuck .openInlineTable rest

/-- A key, an equals sign and a value. -/
def pair : Nat → List Char → Except Stuck (List String × Data × List Char)
  | 0, cs => stuck .badKey cs
  | n + 1, cs => do
    let (names, rest) ← key cs
    match rest with
    | '=' :: rest =>
      let (d, rest) ← value n (skipSpace rest)
      return (names, d, rest)
    | rest => stuck .noEquals rest

end

/-- A document as far as it has been read. -/
structure Document where
  fields : Fields
  /-- The key of the table that fields are added to. -/
  header : List String
  /-- The tables that may not be opened by a header. -/
  declared : List (List String)
  /-- The tables that dots went through since the last header; after the next they count as declared. -/
  passed : List (List String)
  /-- The arrays and tables that were written as one value. -/
  frozen : List (List String)

namespace Document

/-- The document without lines. -/
def empty : Document := ⟨[], [], [], [], []⟩

/-- The keys of the tables that the dots of a key go through. -/
def ways (header : List String) (names : List String) : List (List String) :=
  (List.range (names.length - 1)).map fun i => header ++ names.take (i + 1)

/-- The tables that dots go through, each in turn checked for a header of its own and noted. -/
def pass (d : Document) : List (List String) → Except Reason Document
  | [] => .ok d
  | way :: rest =>
    if d.declared.contains way then .error (.redefined way)
    else pass { d with passed := way :: d.passed } rest

/-- Adds a field to the table of the last header. -/
def addField (d : Document) (names : List String) (value : Data) : Except Reason Document := do
  let d ← d.pass (ways d.header names)
  let around := d.header ++ names.dropLast
  if isBelow d.frozen around then throw (.immutable around)
  let stem := names.getLast?.getD ""
  let fields ← within true (Toml.addField stem value .overwritten) around d.fields
  return { d with fields, frozen := if isClosed value then (d.header ++ names) :: d.frozen else d.frozen }

/-- What comes before every header: the tables that dots went through count as declared. -/
def settle (d : Document) : Document := { d with declared := d.passed ++ d.declared, passed := [] }

/-- Opens a table. -/
def openTable (d : Document) (names : List String) : Except Reason Document := do
  if d.declared.contains names ∨ isBelow d.frozen names then throw (.declaredTwice names)
  let fields ← within true .ok names d.fields
  return { d with fields, header := names, declared := names :: d.declared }

/-- Opens one more table of a list: what lies below it is free again. -/
def openListTable (d : Document) (names : List String) : Except Reason Document := do
  if isBelow d.frozen names then throw (.immutable names)
  let free (keys : List (List String)) := keys.filter fun k => !names.isPrefixOf k
  let fields ← within true (addToList (names.getLast?.getD "")) names.dropLast d.fields
  return { d with fields, header := names, declared := names :: free d.declared, frozen := free d.frozen }

end Document

/-- A header, after its opening bracket or brackets. -/
def header (d : Document) (ofList : Bool) (cs : List Char) : Except Stuck (Document × List Char) := do
  let (names, rest) ← key (skipSpace cs)
  if ofList then
    let d ← located rest (d.openListTable names)
    match rest with
    | ']' :: ']' :: rest => return (d, rest)
    | _ => stuck .openTableList rest
  else
    let d ← located rest (d.openTable names)
    match rest with
    | ']' :: rest => return (d, rest)
    | _ => stuck .openTable rest

/-- What stands on a line before its comment. -/
def statement (d : Document) (cs : List Char) : Except Stuck (Document × List Char) :=
  match cs with
  | '[' :: '[' :: rest => header d.settle true rest
  | '[' :: rest => header d.settle false rest
  | '#' :: _ => .ok (d, cs)
  | c :: _ =>
    if isKeyChar c ∨ c = '\x22' ∨ c = '\x27' then do
      let (names, value, rest) ← pair (2 * cs.length + 4) cs
      let d ← located rest (d.addField names value)
      return (d, rest)
    else stuck .badStatement cs
  | [] => .ok (d, [])

/-- The lines of a document, at most `n` of them. -/
def lines : Nat → Document → List Char → Except Stuck Document
  | 0, d, _ => .ok d
  | n + 1, d, cs =>
    match skipSpace cs with
    | [] => .ok d
    | '\n' :: rest => lines n d rest
    | cs => do
      let (d, rest) ← statement d cs
      match ← comment (skipSpace rest) with
      | [] => return d
      | '\n' :: rest => lines n d rest
      | rest => stuck .noLineEnd rest

/-- The line and column of the character before which `left` characters are left. -/
def placeOf (source : List Char) (left : Nat) : Option (Nat × Nat) :=
  if left = 0 then none
  else
    let before := source.take (source.length - left)
    some (before.count '\n' + 1, (before.reverse.takeWhile (· != '\n')).length + 1)

/-- A carriage return before a line feed belongs to the line end. -/
def joinLineEnds : List Char → List Char
  | '\r' :: '\n' :: rest => '\n' :: joinLineEnds rest
  | c :: rest => c :: joinLineEnds rest
  | [] => []

/-- The table that a document describes, or its first fault. -/
def read (source : String) : Except Fault Fields :=
  let cs := joinLineEnds source.toList
  match lines (cs.length + 1) .empty cs with
  | .ok d => .ok d.fields
  | .error e => .error ⟨e.reason, placeOf cs e.left⟩

end TaskRunner.Toml
