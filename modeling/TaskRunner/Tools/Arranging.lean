import TaskRunner.Tools.Fields

/-!
# No order, and half an order

A program that puts lines in no order at all, and one that makes an order of which item comes before
which other one.
-/

namespace TaskRunner.Tools.Arranging

open Processes

/-! ## No order -/

/-- Numbers that look like any others. -/
def nextRandom (n : Nat) : Nat := (n * 6364136223846793005 + 1442695040888963407) % 18446744073709551616

/-- Takes items out of an array at random. -/
def shuffled {α : Type} : Nat → Nat → Array α → List α
  | 0, _, _ => []
  | n + 1, seed, items =>
    if items.size = 0 then []
    else
      let seed := nextRandom seed
      let i := (seed / 65536) % items.size
      match items[i]?, items.back? with
      | some a, some last => a :: shuffled n seed ((items.set! i last).pop)
      | _, _ => []

/-- Writes lines in any order. -/
def shuf (args : List String) : Tool Nat := do
  let g ← Options.read
    { known := [flag "e" "echo", taking "i" "input-range", taking "n" "head-count", taking "o" "output",
        wordTaking "random-source", flag "r" "repeat", flag "z" "zero-terminated"] } args
  let most ← match g.last? "n" with
    | none => pure none
    | some s => match Numbers.whole s with
      | .ok n => pure (some n)
      | .error _ => Tool.fail 1 ("invalid line count: " ++ Quoting.local_ s)
  let ending : UInt8 := if g.has "z" then 0 else 10
  let items ← match g.last? "i" with
    | some range =>
      let wrong := "invalid input range: " ++ Quoting.local_ range
      match range.splitOn "-" with
      | [a, b] => match Numbers.whole a, Numbers.whole b with
        | .ok a, .ok b =>
          if b + 1 < a then Tool.fail 1 wrong
          match g.operands with
          | extra :: _ => Options.extra 1 extra
          | [] => pure ((List.range (b + 1 - a)).map fun n => toString (a + n))
        | _, _ => Tool.fail 1 wrong
      | _ => Tool.fail 1 wrong
    | none =>
      if g.has "e" then pure g.operands
      else match g.operands with
        | _ :: extra :: _ => Options.extra 1 extra
        | paths =>
          let path := paths.headD "-"
          match ← Tool.contentOf path with
          | .ok bytes => pure ((Tool.linesOf ending bytes).1.map Text.Octets.ofBytes)
          | .error r =>
            Tool.fail 1 ((if r = .isDirectory ∨ path = "-" then "read error" else Quoting.file path) ++ ": " ++ r.message)
  match g.last? "o" with
  | some path =>
    match ← Proc.openAs 1 Kernel.OpenMode.output path with
    | .ok () => pure ()
    | .error r => Tool.fail 1 (Quoting.file path ++ ": " ++ r.message)
  | none => pure ()
  let seed := (← Proc.now) / 1000
  let write (s : String) : Tool Unit := Tool.emit (s.push (Char.ofNat ending.toNat))
  if g.has "r" then
    if most ≠ some 0 ∧ items = [] then Tool.fail 1 "no lines to repeat"
    let rec again : Nat → Nat → Tool Unit
      | 0, _ => pure ()
      | n + 1, seed => do
        let seed := nextRandom seed
        write ((items[(seed / 65536) % items.length]?).getD "")
        Proc.step
        again n seed
    again (most.getD Proc.endless) seed
  else
    for s in shuffled (min items.length (most.getD items.length)) seed items.toArray do write s
  return 0

/-! ## Half an order -/

/-- An item of half an order: how many have to come before it, and those that come after it. -/
structure Item where
  before : Nat
  after : List String

/-- The items of half an order by their names. -/
abbrev Items := Assoc String Item

/-- Notes that one item comes before another. -/
def relate (items : Items) (a b : String) : Items :=
  let known (items : Items) (s : String) : Items := if items.contains s then items else items.insert s ⟨0, []⟩
  let items := known (known items a) b
  if a = b then items
  else
    let first := (items.find? a).getD ⟨0, []⟩
    let items := items.insert a { first with after := b :: first.after }
    let second := (items.find? b).getD ⟨0, []⟩
    items.insert b { second with before := second.before + 1 }

/-- Writes items that nothing has to come before any more, and all that follow from them. -/
def release : Nat → List String → Items → Tool Items
  | 0, _, items => return items
  | _, [], items => return items
  | n + 1, name :: queue, items => do
    Tool.emitLine name
    let after := ((items.find? name).getD ⟨0, []⟩).after
    let (freed, items) := after.foldl (fun ((freed : List String), (items : Items)) s =>
      let item := (items.find? s).getD ⟨0, []⟩
      let items := items.insert s { item with before := item.before - 1 }
      (if item.before = 1 then s :: freed else freed, items)) ([], items.erase name)
    release n (queue ++ freed.reverse) items

/-- A loop that can be found going back from an item: the items on the way. -/
def loopFrom (items : Items) : Nat → List String → Option (List String)
  | 0, _ => none
  | _, [] => none
  | n + 1, name :: path =>
    match items.toList.find? fun (_, item) => item.after.contains name with
    | none => none
    | some (other, _) =>
      match (name :: path).idxOf? other with
      | some i => some ((name :: path).take (i + 1))
      | none => loopFrom items n (other :: name :: path)

/-- Writes half an order as an order; loops are told about and broken. -/
def arrange (path : String) : Nat → Bool → Items → Tool Bool
  | 0, whole, _ => return whole
  | n + 1, whole, items => do
    let free := (items.toList.filter fun (_, i) => i.before == 0).map Prod.fst
    let items ← release (items.toList.length + 1) (free.mergeSort fun a b => decide (a ≤ b)) items
    match (items.keys.mergeSort fun a b => decide (a ≤ b)).head? with
    | none => return whole
    | some first =>
      Tool.say (Quoting.file path ++ ": input contains a loop:")
      match loopFrom items (items.toList.length + 1) [first] with
      | none => return false
      | some loop =>
        for name in loop.reverse do Tool.note ((← Tool.name) ++ ": " ++ name ++ "\n")
        -- The last item no longer has to come before the first one.
        let last := loop.headD ""
        let next := loop.getLast?.getD ""
        let item := (items.find? last).getD ⟨0, []⟩
        let target := (items.find? next).getD ⟨0, []⟩
        let items := (items.insert last { item with after := item.after.erase next }).insert next
          { target with before := target.before - 1 }
        arrange path n false items

/-- Writes half an order as an order. -/
def tsort (args : List String) : Tool Nat := do
  let g ← Options.read { known := [] } args
  let path ← match g.operands with
    | [] => pure "-"
    | [path] => pure path
    | _ :: extra :: _ => Options.extra 1 extra
  match ← Tool.contentOf path with
  | .error r => Tool.fail 1 (Quoting.file path ++ ": " ++ (if r = .isDirectory ∨ path = "-" then "read error: " else "") ++ r.message)
  | .ok bytes =>
    let words := ((Text.Octets.ofBytes bytes).split fun c => c == ' ' || c == '\t' || c == '\n').toList.map (·.toString)
      |>.filter (· ≠ "")
    if words.length % 2 = 1 then Tool.fail 1 (Quoting.file path ++ ": input contains an odd number of tokens")
    let rec pairs : List String → Items → Items
      | a :: b :: rest, items => pairs rest (relate items a b)
      | _, items => items
    let whole ← arrange path (words.length + 1) true (pairs words Assoc.empty)
    return if whole then 0 else 1

end TaskRunner.Tools.Arranging
