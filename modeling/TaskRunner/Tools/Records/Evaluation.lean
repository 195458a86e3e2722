import TaskRunner.Tools.Records.Sessions
import TaskRunner.Tools.Records.Tokens

/-!
# Running programs that go through records

Expressions have values, and may change names, fields and arrays on the way; statements are done one after
the other. Arrays are handed to functions themselves, all else by its value.
-/

namespace TaskRunner.Tools.Records

open Processes

/-! ## Numbers -/

/-- Some number, as a whole number times a power of two; nothing if it is not finite. -/
def parts? (x : Float) : Option (Bool × Nat × Int) :=
  match Decimal.Reading.ofBits x.toBits with
  | .finite negative m q _ => some (negative, m, q)
  | _ => none

/-- What is left of a number when another one has been taken from it as often as it can. -/
def remainder (x y : Float) : Float :=
  match parts? x, parts? y with
  | some (negative, m, q), some (_, k, p) =>
    if k = 0 then 0 / 0
    else
      let least := min q p
      let r := (m * Nat.pow 2 (q - least).toNat) % (k * Nat.pow 2 (p - least).toNat)
      let r := Float.scaleB (Float.ofNat r) least
      if negative then -r else r
  | some _, none => if y.isNaN then y else x
  | none, _ => 0 / 0

/-- The value of an operation. -/
def Operation.apply : Operation → Float → Float → Float
  | add, x, y => x + y
  | subtract, x, y => x - y
  | multiply, x, y => x * y
  | divide, x, y => x / y
  | remainder, x, y => Records.remainder x y
  | power, x, y => Float.pow x y

/-- A number without its fraction. -/
def whole_ (x : Float) : Float := if x < 0 then x.ceil else x.floor

/-- A number rounded to the nearest whole number, to the even one of two. -/
def rounded (x : Float) : Float :=
  let low := x.floor
  let part := x - low
  if part < 0.5 then low else if 0.5 < part then low + 1 else if remainder low 2 == 0 then low else low + 1

/-! ## Texts -/

/-- The part of a text from a place on, of some length. -/
def partOf (s : String) (start : Float) (size : Option Float) : String :=
  if start.isNaN then ""
  else
    let first := rounded start
    let stop := match size with
      | some n => rounded (start + n)
      | none => 1e18
    if stop.isNaN then ""
    else
      let low := wordOf (if first < 1 then 1 else first)
      let high := wordOf (if 1e18 < stop then 1e18 else stop)
      if high ≤ low then "" else ((s.drop (low - 1).toNat).take (high - low).toNat).toString

/-- The place of a text in another one, counted from one. -/
def placeIn (t : List Char) : Nat → List Char → Nat
  | n, [] => if t = [] then n else 0
  | n, c :: cs => if t.isPrefixOf (c :: cs) then n else placeIn t (n + 1) cs

/-- What takes the place of a match: the match itself stands for a sign unless it is quoted, and two backslashes right
before a sign are one. `held` counts the backslashes that were just read. -/
def replacement (found : List Char) : Nat → List Char → List Char
  | held, [] => List.replicate held '\\'
  | held, '\\' :: rest => replacement found (held + 1) rest
  | held, '&' :: rest =>
    List.replicate (held / 2) '\\' ++ (if held % 2 = 1 then ['&'] else found) ++ replacement found 0 rest
  | held, c :: rest => List.replicate held '\\' ++ c :: replacement found 0 rest

/-- Replaces matches in a text, all of them or the first: the pieces of the result, the last first, and how many there
were. `free` says whether a match may be empty where it begins. -/
def replaceFrom (p : Pattern) (t : Regex.Subject) (cs : Array Char) (by_ : List Char) (all : Bool) :
    Nat → Nat → Bool → List Char → Nat → List Char × Nat
  | 0, _, _, out, count => (out.reverse, count)
  | n + 1, start, free, out, count =>
    let rest (from_ : Nat) (out : List Char) : List Char := out.reverse ++ (cs.extract from_ cs.size).toList
    match if cs.size < start then none else p.regex.search t false start with
    | none => (rest start out, count)
    | some m =>
      if m.stop = m.start ∧ m.start = start ∧ ¬ free then
        match cs[start]? with
        | some c => replaceFrom p t cs by_ all n (start + 1) true (c :: out) count
        | none => (out.reverse, count)
      else
        let before := (cs.extract start m.start).toList
        let put := replacement (cs.extract m.start m.stop).toList 0 by_
        let out := put.reverse ++ before.reverse ++ out
        if ¬ all then (rest m.stop out, count + 1)
        else if m.stop = m.start then
          match cs[m.start]? with
          | some c => replaceFrom p t cs by_ all n (m.start + 1) true (c :: out) (count + 1)
          | none => (out.reverse, count + 1)
        else replaceFrom p t cs by_ all n m.stop false out (count + 1)

/-- Replaces matches in a text. -/
def replaced (p : Pattern) (by_ : String) (all : Bool) (s : String) : String × Nat :=
  let cs := s.toList.toArray
  let (out, count) := replaceFrom p (Pattern.subject s) cs by_.toList all (2 * cs.size + 4) 0 true [] 0
  (String.ofList out, count)

/-- Changes the case of plain letters. -/
def cased (upper : Bool) (s : String) : String := s.map fun c => if upper then c.toUpper else c.toLower

/-! ## Expressions -/

/-- How a row of statements ended. -/
inductive Flow where
  | on
  | broken
  | again
  | returned (v : Value)

/-- The number of a condition. -/
def truth (b : Bool) : Value := Value.ofBool b

/-- What joins keys. -/
def joinKeys (keys : List Value) : Work Value := do
  match keys with
  | [v] => return v
  | keys => return .text ((← textOf (← global "SUBSEP")).intercalate (← keys.mapM textOf))

/-- Puts a record that was read where it belongs; the value of reading it. -/
def took (found : Option (Option String)) (put : String → Work Unit) : Work Value := do
  match found with
  | none => return .number (-1)
  | some none => return .number 0
  | some (some text) =>
    put text
    return .number 1

/-- Writes by a format; what could be written before something was wrong is handed on. -/
def formatted (function : String) (args : List Value) (emit : String → Work Unit) : Work String := do
  match args with
  | [] => return ""
  | form :: args =>
    let form ← textOf form
    match format (← conversion) form args with
    | .ok s => return s
    | .error (fault, out) =>
      emit out
      match fault with
      | .arguments => stopRunning ("not enough arguments passed to " ++ function ++ "(\"" ++ form ++ "\")")
      | .directive n =>
        stopRunning ("improper conversion(number " ++ toString n ++ ") in " ++ function ++ "(\"" ++ form ++ "\")")

/-- The next number of a row that looks random. -/
def nextRandom (n : Nat) : Nat := (n * 6364136223846793005 + 1442695040888963407) % Nat.pow 2 64

/-- The value of a function that needs nothing but values. -/
def simple (b : Builtin) (args : List Value) : Work Value := do
  let first := args.headD .missing
  let real (f : Float → Float) : Work Value := return .number (f first.toNumber)
  match b, args with
  | .length, [] => return .number (Float.ofNat (← textOf (← recordValue)).length)
  | .length, _ => return .number (Float.ofNat (← textOf first).length)
  | .index, [a, b] => return .number (Float.ofNat (placeIn (← textOf b).toList 1 (← textOf a).toList))
  | .substr, a :: start :: size =>
    return .text (partOf (← textOf a) start.toNumber (size.head?.map Value.toNumber))
  | .sprintf, args => return .text (← formatted "sprintf" args fun _ => pure ())
  | .sin, _ => real Float.sin
  | .cos, _ => real Float.cos
  | .exp, _ => real Float.exp
  | .log, _ => real Float.log
  | .sqrt, _ => real Float.sqrt
  | .int, _ => real whole_
  | .atan2, [a, b] => return .number (Float.atan2 a.toNumber b.toNumber)
  | .toupper, _ => return .text (cased true (← textOf first))
  | .tolower, _ => return .text (cased false (← textOf first))
  | .rand, _ =>
    let s ← get
    let n := nextRandom s.random
    set { s with random := n }
    return .number (Float.ofNat (n / Nat.pow 2 11) / Float.ofNat (Nat.pow 2 53))
  | .srand, args =>
    let s ← get
    let seed ← match args with
      | [v] => pure v
      | _ => pure (.number (Float.ofNat ((← Proc.now) / Dates.perSecond)))
    set { s with seed, random := nextRandom (wordOf seed.toNumber % Nat.pow 2 64).toNat }
    return s.seed
  | .close, _ => closeNamed (← textOf first)
  | .system, _ =>
    let child ← beginCommand (← textOf first) (pure ())
    return endingValue (← Proc.reap child)
  | .fflush, [] =>
    tool Tool.flush
    return .number 0
  | .fflush, _ =>
    let name ← textOf first
    if name = "" ∨ name = "/dev/stdout" then
      flushAll
      return .number 0
    let known := (← get).drains.any fun d => d.name == name
    flushAll
    return .number (if known then 0 else -1)
  | .systime, _ => return .number (Float.ofNat ((← Proc.now) / Dates.perSecond))
  | .strftime, args =>
    let now ← Proc.now
    let form ← match args with
      | f :: _ => textOf f
      | [] => pure "%c"
    let seconds : Int := match args with
      | _ :: t :: _ => wordOf t.toNumber
      | _ => (now / Dates.perSecond : Nat)
    let utc := ((args.drop 2).head?.map Value.holds).getD false
    let zone ← if utc then pure Calendar.universal else tool Dates.zone
    return .text (Calendar.written (Calendar.partsOf zone seconds 0) form)
  | .mktime, _ =>
    let numbers := ((← textOf first).splitOn " ").filterMap fun w => Numbers.integer? w
    match numbers with
    | year :: month :: day :: hour :: minute :: second :: _ =>
      let zone ← tool Dates.zone
      let guess := Calendar.dayOf year month day * 86400 + hour * 3600 + minute * 60 + second
      return .number (Float.ofInt ((zone.timeOf guess).getD (guess - (zone.clockAt guess).ahead)))
    | _ => return .number (-1)
  | _, _ => return .missing

/-- Cuts a text into the elements of an array. -/
def splitInto (a text : String) (sep : Separator) : Work Value := do
  let pieces := sep.pieces text
  setTable (← arrayOf a) (Table.ofParts (pieces.map Value.read))
  return .number (Float.ofNat pieces.length)

mutual

/-- The value of an expression. -/
def evaluate : Nat → Expr → Work Value
  | 0, _ => return .missing
  | n + 1, e => do
    match e with
    | .number x => return .number x
    | .text s => return .text s
    | .pattern p => return truth (Pattern.isMatch p (← textOf (← recordValue)))
    | .group e => evaluate n e
    | .place p => valueAt n p
    | .assign p e =>
      let v ← evaluate n e
      putAt n p v
      return v
    | .update p op e =>
      let amount := (← evaluate n e).toNumber
      let v := Value.number (op.apply (← valueAt n p).toNumber amount)
      putAt n p v
      return v
    | .step p up before =>
      let old := (← valueAt n p).toNumber
      let new := if up then old + 1 else old - 1
      putAt n p (.number new)
      return .number (if before then new else old)
    | .choice c a b => if (← evaluate n c).holds then evaluate n a else evaluate n b
    | .both a b => if (← evaluate n a).holds then truth <$> (Value.holds <$> evaluate n b) else return truth false
    | .either a b => if (← evaluate n a).holds then return truth true else truth <$> (Value.holds <$> evaluate n b)
    | .not e => return truth (!(← evaluate n e).holds)
    | .negative e => return .number (-(← evaluate n e).toNumber)
    | .positive e => return .number (← evaluate n e).toNumber
    | .arithmetic op a b =>
      let x := (← evaluate n a).toNumber
      let y := (← evaluate n b).toNumber
      return .number (op.apply x y)
    | .compare c a b =>
      let v ← evaluate n a
      let w ← evaluate n b
      return truth (v.holdsFor (← conversion) c w)
    | .join a b =>
      let s ← textOf (← evaluate n a)
      let t ← textOf (← evaluate n b)
      return .text (s ++ t)
    | .matching negated a b =>
      let s ← textOf (← evaluate n a)
      let p ← patternAt n b
      return truth (Pattern.isMatch p s != negated)
    | .member keys array =>
      let key ← keyOf (← joinKeys (← evaluateAll n keys))
      let id ← arrayOf array
      let t ← table id
      setTable id (used t key none)
      return truth (t.get? key.2).isSome
    | .call b args => callBuiltin n b args
    | .invoke function args => invoke n function args
    | .nextRecord dest => do
      let found ← nextRecord unescape Proc.endless
      took (some found) (putRecord n dest)
    | .recordOf file dest =>
      let name ← textOf (← evaluate n file)
      took (← recordFrom name false) (putRecord n dest)
    | .recordFrom command dest =>
      let name ← textOf (← evaluate n command)
      took (← recordFrom name true) (putRecord n dest)

/-- The values of expressions. -/
def evaluateAll : Nat → List Expr → Work (List Value)
  | 0, _ => return []
  | _, [] => return []
  | n + 1, e :: rest => do
    let v ← evaluate n e
    return v :: (← evaluateAll n rest)

/-- The pattern that an expression stands for. -/
def patternAt : Nat → Expr → Work Pattern
  | 0, _ => patternOf ""
  | n + 1, e => do
    match e with
    | .pattern p => return p
    | e => patternOf (← textOf (← evaluate n e))

/-- The value in a place. -/
def valueAt : Nat → Place → Work Value
  | 0, _ => return .missing
  | n + 1, p => do
    match p with
    | .name s => scalar s
    | .field e => field (wordOf (← evaluate n e).toNumber)
    | .element array keys =>
      let key ← keyOf (← joinKeys (← evaluateAll n keys))
      let id ← arrayOf array
      let t := used (← table id) key (some .missing)
      setTable id t
      return (t.get? key.2).getD .missing

/-- Puts a value in a place. -/
def putAt : Nat → Place → Value → Work Unit
  | 0, _, _ => return
  | n + 1, p, v => do
    match p with
    | .name s => setScalar s v
    | .field e => setField (wordOf (← evaluate n e).toNumber) v
    | .element array keys =>
      let key ← keyOf (← joinKeys (← evaluateAll n keys))
      let id ← arrayOf array
      let t := used (← table id) key (some .missing)
      setTable id (t.set key.2 v)

/-- Puts a record in a place, or in that of the record. -/
def putRecord : Nat → Option Place → String → Work Unit
  | 0, _, _ => return
  | n + 1, dest, text => do
    match dest with
    | some p => putAt n p (.read text)
    | none => setRecord (.read text)

/-- The value of a function that every program has. -/
def callBuiltin : Nat → Builtin → List Expr → Work Value
  | 0, _, _ => return .missing
  | n + 1, b, args => do
    match b, args with
    | .length, [.place (.name s)] =>
      let st ← get
      let own := (st.frame.find? fun (m, _) => m == s).map Prod.snd
      let array : Option Nat := match own with
        | some (.array id) => some id
        | some _ => none
        | none => st.names[s]?
      match array with
      | some id => return .number (Float.ofNat (← table id).size)
      | none => simple .length [← scalar s]
    | .split, s :: .place (.name a) :: by_ =>
      let text ← textOf (← evaluate n s)
      let sep ← match by_ with
        | [.pattern p] => pure (Separator.pattern p)
        | e :: _ => separatorOf (← textOf (← evaluate n e))
        | [] => return ← splitInto a text (← get).separator
      splitInto a text sep
    | .match_, [s, p] =>
      let text ← textOf (← evaluate n s)
      let p ← patternAt n p
      let (start, size) : Float × Float := match p.regex.search (Pattern.subject text) false 0 with
        | some m => (Float.ofNat (m.start + 1), Float.ofNat (m.stop - m.start))
        | none => (0, -1)
      setScalar "RSTART" (.number start)
      setScalar "RLENGTH" (.number size)
      return .number start
    | .sub, p :: by_ :: on => replaceIn n false p by_ on
    | .gsub, p :: by_ :: on => replaceIn n true p by_ on
    | b, args => simple b (← evaluateAll n args)

/-- Replaces matches in a place. -/
def replaceIn : Nat → Bool → Expr → Expr → List Expr → Work Value
  | 0, _, _, _, _ => return .missing
  | n + 1, all, p, by_, on => do
    let p ← patternAt n p
    let by_ ← textOf (← evaluate n by_)
    let place : Place := match on with
      | [.place q] => q
      | _ => .field (.number 0)
    let (s, count) := replaced p by_ all (← textOf (← valueAt n place))
    if count ≠ 0 then putAt n place (.text s)
    return .number (Float.ofNat count)

/-- The value of a function of the program. -/
def invoke : Nat → String → List Expr → Work Value
  | 0, _, _ => return .missing
  | n + 1, name, args => do
    let code := (← get).code
    match code.functions.find? fun f => f.name == name with
    | none => return .missing
    | some f =>
      let kinds := ((code.kinds.find? fun (g, _) => g == name).map Prod.snd).getD []
      let slots ← slotsOf n (f.parameters.zip kinds) args
      let s ← get
      set { s with frame := slots }
      Proc.step
      let flow ← executeAll n f.body
      modify fun t => { t with frame := s.frame }
      match flow with
      | .returned v => return v
      | _ => return .missing

/-- What the parameters of a function stand for. -/
def slotsOf : Nat → List (String × Option Kind) → List Expr → Work (List (String × Slot))
  | 0, _, _ => return []
  | _, [], _ => return []
  | n + 1, (name, kind) :: rest, args => do
    let slot ← match kind, args with
      | some .array, .place (.name s) :: _ => Slot.array <$> arrayOf s
      | some .array, _ => Slot.array <$> newArray .empty
      | _, e :: _ => Slot.value <$> evaluate n e
      | _, [] => pure (Slot.value .missing)
    return (name, slot) :: (← slotsOf n rest (args.drop 1))

/-- Does a statement. -/
def execute : Nat → Stmt → Work Flow
  | 0, _ => return .on
  | n + 1, s => do
    Proc.step
    match s with
    | .nothing => return .on
    | .expr e =>
      discard <| evaluate n e
      return .on
    | .print args dest =>
      let values ← evaluateAll n args
      let form ← textOf (← global "OFMT")
      let text ← match values with
        | [] => textOf (← recordValue)
        | values => do
          let between ← textOf (← global "OFS")
          pure (between.intercalate (values.map fun v => v.toText form))
      send n (text ++ (← textOf (← global "ORS"))) dest
      return .on
    | .printf args dest =>
      let values ← evaluateAll n args
      let text ← formatted "printf" values fun s => send n s dest
      send n text dest
      return .on
    | .block body => executeAll n body
    | .if_ c a b => if (← evaluate n c).holds then execute n a else execute n b
    | .while_ c body => whileHolds n c body none
    | .repeat_ body c =>
      match ← execute n body with
      | .broken => return .on
      | .returned v => return .returned v
      | _ => whileHolds n c body none
    | .for_ start c next body =>
      match start with
      | some e => discard <| evaluate n e
      | none => pure ()
      whileHolds n (c.getD (.number 1)) body next
    | .forIn name array body =>
      let id ← arrayOf array
      let (keys, t) := (← table id).keys
      setTable id t
      forKeys n name keys body
    | .next => throw .next
    | .nextFile => throw .nextFile
    | .exit e =>
      match e with
      | some e =>
        let v ← evaluate n e
        modify fun s => { s with status := (wordOf v.toNumber % 256).toNat }
      | none => pure ()
      throw .exit
    | .return_ e =>
      match e with
      | some e => return .returned (← evaluate n e)
      | none => return .returned .missing
    | .break_ => return .broken
    | .continue_ => return .again
    | .delete array keys =>
      let key ← keyOf (← joinKeys (← evaluateAll n keys))
      let id ← arrayOf array
      setTable id ((used (← table id) key none).erase key.2)
      return .on
    | .clear array =>
      setTable (← arrayOf array) .empty
      return .on

/-- Does statements one after the other. -/
def executeAll : Nat → List Stmt → Work Flow
  | 0, _ => return .on
  | _, [] => return .on
  | n + 1, s :: rest => do
    match ← execute n s with
    | .on => executeAll n rest
    | flow => return flow

/-- Does a statement as long as a condition holds, with an expression after every time. -/
def whileHolds : Nat → Expr → Stmt → Option Expr → Work Flow
  | 0, _, _, _ => return .on
  | n + 1, c, body, next => do
    if ¬ (← evaluate n c).holds then return .on
    match ← execute n body with
    | .broken => return .on
    | .returned v => return .returned v
    | _ =>
      match next with
      | some e => discard <| evaluate n e
      | none => pure ()
      whileHolds n c body next

/-- Does a statement for keys. -/
def forKeys : Nat → String → List String → Stmt → Work Flow
  | 0, _, _, _ => return .on
  | _, _, [], _ => return .on
  | n + 1, name, key :: rest, body => do
    setScalar name (.text key)
    match ← execute n body with
    | .broken => return .on
    | .returned v => return .returned v
    | _ => forKeys n name rest body

/-- Writes a text where it belongs. -/
def send : Nat → String → Destination → Work Unit
  | 0, _, _ => return
  | n + 1, text, dest => do
    match dest with
    | .output => tool (Tool.emit text)
    | .file e => writeTo (← textOf (← evaluate n e)) text false false
    | .append e => writeTo (← textOf (← evaluate n e)) text false true
    | .command e => writeTo (← textOf (← evaluate n e)) text true false

end

end TaskRunner.Tools.Records
