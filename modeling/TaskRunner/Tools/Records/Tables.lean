import Std.Data.HashMap

/-!
# Arrays with texts as keys

The keys of an array come in the order of the lists that they are kept in, one list for every remainder of
what is computed from a key; a key that is used comes to the front of its list. Keys that are numbers are
kept in lists of their own too, and join the others only when the keys are wanted as texts. An array that
was made by splitting a text has neither as long as it is only asked for its parts.
-/

namespace TaskRunner.Tools.Records

/-- The lists of an array. -/
inductive Lists where
  /-- Nothing has been put in yet. -/
  | none
  /-- The keys are the numbers up to the size. -/
  | parts
  /-- One list for every remainder: the texts, if keys are kept as texts too, and the numbers. -/
  | kept (hasTexts : Bool) (texts : Array (List String)) (numbers : Array (List Int))

/-- An array. -/
structure Table (α : Type) where
  values : Std.HashMap String α
  lists : Lists
  /-- The numbers that keys are known as, by their texts. -/
  known : Std.HashMap String Int

namespace Table

variable {α : Type}

/-- An array without keys. -/
def empty : Table α := ⟨{}, .none, {}⟩

instance : Inhabited (Table α) := ⟨empty⟩

/-- How many keys an array has. -/
def size (t : Table α) : Nat := t.values.size

/-- How many lists an array has first. -/
def firstCount : Nat := 64

/-- How many keys there are for a list before there are more lists. -/
def mostPerList : Nat := 12

/-- What is computed from a key. -/
def hash (key : String) : Nat :=
  (key.foldl (fun (h : UInt32) c => (h ^^^ c.toNat.toUInt32) * 16777619) 2166136261).toNat

/-- The place of the list of a text. -/
def textPlace (count : Nat) (key : String) : Nat := hash key % count

/-- The place of the list of a number. -/
def numberPlace (count : Nat) (n : Int) : Nat := (n % (count : Int)).toNat

/-- How many lists there are for a number of keys, at least as many as there were. -/
def countFor (size : Nat) : Nat → Nat → Nat
  | 0, count => count
  | n + 1, count => if mostPerList * count < size then countFor size n (2 * count) else count

/-- Puts an item at the front of its list. -/
def pushAt {β : Type} (lists : Array (List β)) (place : Nat) (b : β) : Array (List β) := lists.modify place (b :: ·)

/-- Takes an item to the front of its list. -/
def toFront {β : Type} [BEq β] (lists : Array (List β)) (place : Nat) (b : β) : Array (List β) :=
  lists.modify place fun l => if l.head? == some b then l else b :: l.erase b

/-- The lists of an array that has none, or whose keys are numbers up to its size. -/
def opened (t : Table α) : Table α :=
  match t.lists with
  | .kept .. => t
  | .none => { t with lists := .kept false (.replicate firstCount []) (.replicate firstCount []) }
  | .parts =>
    let count := countFor t.size 40 firstCount
    let parts := (List.range t.size).map fun i => Int.ofNat (i + 1)
    let numbers := parts.foldl (fun ls n => pushAt ls (numberPlace count n) n) (Array.replicate count [])
    let known := parts.foldl (fun m n => m.insert (toString n) n) t.known
    { t with lists := .kept false (.replicate count []) numbers, known }

/-- Keeps all keys as texts too. -/
def withTexts (t : Table α) : Table α :=
  let t := t.opened
  match t.lists with
  | .kept false texts numbers =>
    let texts := numbers.foldl (fun texts l => l.foldl (fun texts n =>
      pushAt texts (textPlace texts.size (toString n)) (toString n)) texts) texts
    { t with lists := .kept true texts numbers }
  | _ => t

/-- Twice as many lists, if there are too many keys for those that there are. -/
def grown (t : Table α) : Table α :=
  match t.lists with
  | .kept hasTexts texts numbers =>
    if t.size ≤ mostPerList * texts.size then t
    else
      let count := 2 * texts.size
      let spread {β : Type} (place : β → Nat) (lists : Array (List β)) : Array (List β) :=
        let out := lists.foldl (fun out l => l.foldl (fun out b => pushAt out (place b) b) out) (Array.replicate count [])
        out.map List.reverse
      { t with lists := .kept hasTexts (spread (textPlace count) texts) (spread (numberPlace count) numbers) }
  | _ => t

/-- An array in which a text is asked for; it becomes a key with a value if there is one to give. -/
def useText (t : Table α) (key : String) (fresh : Option α) : Table α :=
  match t.lists, fresh with
  | .none, none => t
  | _, _ =>
    let t := t.withTexts
    match t.lists with
    | .kept hasTexts texts numbers =>
      if t.values.contains key then
        { t with lists := .kept hasTexts (toFront texts (textPlace texts.size key) key) numbers }
      else match fresh with
        | none => t
        | some a =>
          let t := { t with values := t.values.insert key a }.grown
          match t.lists with
          | .kept hasTexts texts numbers =>
            { t with lists := .kept hasTexts (pushAt texts (textPlace texts.size key) key) numbers }
          | _ => t
    | _ => t

/-- An array in which a number is asked for. -/
def useNumber (t : Table α) (n : Int) (fresh : Option α) : Table α :=
  let key := toString n
  match t.lists, fresh with
  | .none, none => t
  | .parts, fresh =>
    if t.values.contains key then t
    else match fresh with
      | none => t
      | some _ => inLists t.opened key fresh
  | _, fresh => inLists t.opened key fresh
where
  /-- The same, in the lists. -/
  inLists (t : Table α) (key : String) (fresh : Option α) : Table α :=
    match t.lists with
    | .kept hasTexts texts numbers =>
      if t.known.contains key then
        { t with lists := .kept hasTexts texts (toFront numbers (numberPlace numbers.size n) n) }
      else
        let (t, found) : Table α × Bool :=
          if hasTexts then
            let t := t.useText key fresh
            (t, t.values.contains key)
          else match fresh with
            | some a => ({ t with values := t.values.insert key a }.grown, true)
            | none => (t, false)
        if ¬ found then t
        else match t.lists with
          | .kept hasTexts texts numbers =>
            { t with
              lists := .kept hasTexts texts (pushAt numbers (numberPlace numbers.size n) n)
              known := t.known.insert key n }
          | _ => t
    | _ => t

/-- The value of a key. -/
def get? (t : Table α) (key : String) : Option α := t.values[key]?

/-- Gives a key that is there a value. -/
def set (t : Table α) (key : String) (a : α) : Table α := { t with values := t.values.insert key a }

/-- An array without a key. -/
def erase (t : Table α) (key : String) : Table α :=
  if ¬ t.values.contains key then t
  else
    let t := t.opened
    let values := t.values.erase key
    if values.isEmpty then empty
    else match t.lists with
      | .kept hasTexts texts numbers =>
        let texts := if hasTexts then texts.modify (textPlace texts.size key) (·.erase key) else texts
        let numbers := match t.known[key]? with
          | some n => numbers.modify (numberPlace numbers.size n) (·.erase n)
          | none => numbers
        ⟨values, .kept hasTexts texts numbers, t.known.erase key⟩
      | lists => ⟨values, lists, t.known⟩

/-- The keys in order, and the array from then on. -/
def keys (t : Table α) : List String × Table α :=
  match t.lists with
  | .none => ([], t)
  | _ =>
    let t := t.withTexts
    match t.lists with
    | .kept _ texts _ => (texts.foldr (fun l found => l ++ found) [], t)
    | _ => ([], t)

/-- The array of the parts of a text, by their numbers. -/
def ofParts (parts : List α) : Table α :=
  if parts.isEmpty then empty
  else ⟨(parts.foldl (fun (m, i) a => (m.insert (toString i) a, i + 1)) (({} : Std.HashMap String α), 1)).1, .parts, {}⟩

end Table

end TaskRunner.Tools.Records
