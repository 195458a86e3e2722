import TaskRunner.Shell.State

/-!
# Arrays

Variables with several texts. Places that have numbers are in the order of the numbers; places that have
names are in an order that only the names decide, by a sum of their bytes.
-/

namespace TaskRunner.Shell.Arrays

/-- The sum that decides where a name comes. -/
def rank (name : String) : Nat :=
  name.toList.foldl (fun sum c => ((sum * 16777619) % 4294967296) ^^^ c.toNat) 2166136261 % 1024

/-- The items of a table in order. -/
def inOrder (items : Assoc String String) : List (String × String) :=
  items.toList.reverse.mergeSort fun a b => rank a.1 ≤ rank b.1

/-- The texts of a value with their places. -/
def itemsOf : Option Content → List (String × String)
  | none => []
  | some (.scalar s) => [("0", s)]
  | some (.array items) => items.map fun (n, s) => (toString n, s)
  | some (.table items) => inOrder items

/-- The items of a variable. -/
def items (s : State) (name : String) : List (String × String) :=
  itemsOf ((Sh.binding? s name).bind Variable.content)

/-- Whether the places of a variable have names. -/
def isTable (s : State) (name : String) : Bool :=
  match (Sh.binding? s name).bind Variable.content with
  | some (.table _) => true
  | _ => false

/-- The place that a number stands for; numbers below zero count from the end. -/
def placeOf (items : List (Nat × String)) (n : Int) : Option Nat :=
  if 0 ≤ n then some n.toNat
  else
    let size : Nat := match items.getLast? with
      | some (k, _) => k + 1
      | none => 0
    if (size : Int) + n < 0 then none else some (size + n).toNat

/-- The text in a place that is a number. -/
def at? (c : Option Content) (n : Int) : Option String :=
  match c with
  | some (.scalar s) => if n = 0 ∨ n = -1 then some s else none
  | some (.array items) => (placeOf items n).bind fun k => (items.find? fun (m, _) => m == k).map Prod.snd
  | _ => none

/-- Puts a text in a place that is a number. -/
def putAt (name : String) (n : Int) (append : Bool) (value : String) : Sh Bool := do
  let s ← get
  let items := match (Sh.binding? s name).bind Variable.content with
    | some (.array items) => items
    | some (.scalar s) => [(0, s)]
    | _ => []
  match placeOf items n with
  | none => return false
  | some k =>
    let old := if append then ((items.find? fun (m, _) => m == k).map Prod.snd).getD "" else ""
    Sh.change name fun v => { v with content := some (.array (Sh.putItem k (Sh.cased v (old ++ value)) items)) }
    return true

/-- Puts a text in a place that has a name. -/
def putUnder (name key : String) (append : Bool) (value : String) : Sh Unit := do
  let s ← get
  let items := match (Sh.binding? s name).bind Variable.content with
    | some (.table items) => items
    | _ => Assoc.empty
  let old := if append then (items.find? key).getD "" else ""
  Sh.change name fun v => { v with content := some (.table (items.insert key (Sh.cased v (old ++ value)))) }

/-- Puts texts in an array, from the first place on. -/
def putAll (name : String) (values : List String) : Sh Unit :=
  Sh.change name fun v => { v with content := some (.array (values.zipIdx.map fun (s, i) => (i, s))) }

end TaskRunner.Shell.Arrays
