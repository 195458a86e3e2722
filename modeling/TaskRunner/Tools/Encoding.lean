import TaskRunner.Tools.Numbers
import TaskRunner.Tools.Options

/-!
# Bytes written in letters and digits

A code writes a group of bytes in characters that stand for a few bits each; the last group is filled up
with signs that stand for none. What is decoded may be cut into lines.
-/

namespace TaskRunner.Tools.Encoding

open Processes

/-- A code: its characters in the order of what they stand for, and how many bits one of them stands for. -/
structure Code where
  characters : List Char
  bits : Nat

/-- The code with six bits to a character. -/
def sixBits : Code := ⟨"ABCDEFGHIJKLMNOPQRSTUVWXYZabcdefghijklmnopqrstuvwxyz0123456789+/".toList, 6⟩

/-- The code with five bits to a character. -/
def fiveBits : Code := ⟨"ABCDEFGHIJKLMNOPQRSTUVWXYZ234567".toList, 5⟩

/-- The sign that fills up a group. -/
def filler : Char := '='

namespace Code

/-- How many bytes a group has. -/
def bytes (c : Code) : Nat := if c.bits % 2 = 0 then c.bits / 2 else c.bits

/-- How many characters a group has. -/
def size (c : Code) : Nat := c.bytes * 8 / c.bits

/-- The characters of a group of bytes, of which some may be missing at the end. -/
def encode (c : Code) (group : List UInt8) : List Char :=
  let n := group.foldl (fun n b => n * 256 + b.toNat) 0 * Nat.pow 256 (c.bytes - group.length)
  let used := (group.length * 8 + c.bits - 1) / c.bits
  (List.range c.size).map fun i =>
    if i < used then c.characters[n / Nat.pow 2 (c.bits * (c.size - 1 - i)) % Nat.pow 2 c.bits]?.getD filler else filler

/-- What a character stands for. -/
def value? (c : Code) (d : Char) : Option Nat := c.characters.idxOf? d

/-- The bytes that a group of characters stands for, and whether it is a group at all. A group cut short stands for what
can be told of it if the code has groups of four. -/
def decode (c : Code) (group : List Char) : List UInt8 × Bool :=
  let digits := (group.takeWhile fun d => (c.value? d).isSome).filterMap c.value?
  let count := digits.length
  let n := digits.foldl (fun n v => n * Nat.pow 2 c.bits + v) 0 * Nat.pow 2 (c.bits * (c.size - count))
  let whole := count * c.bits / 8
  let bytes := (List.range whole).map fun i => (n / Nat.pow 256 (c.bytes - 1 - i) % 256).toUInt8
  let isFilled := (group.drop count).all (· == filler)
  if group.length < c.size then (if c.size = 4 then bytes else [], false)
  else (bytes, isFilled && (count - 1) * c.bits / 8 < whole)

end Code

/-- Characters cut into lines, the last first, and how far the last line has come. -/
def wrap (width : Nat) : Nat → List Char → ByteArray → Nat × ByteArray
  | column, [], out => (column, out)
  | column, c :: cs, out =>
    if width ≠ 0 ∧ column = width then wrap width 1 cs ((out.push 10).push c.toNat.toUInt8)
    else wrap width (column + 1) cs (out.push c.toNat.toUInt8)

/-- The characters of bytes, group by group. -/
def encodeAll (c : Code) (bytes : ByteArray) (width : Nat) : Nat → Nat → Nat → ByteArray → Nat × ByteArray
  | 0, _, column, out => (column, out)
  | n + 1, place, column, out =>
    if bytes.size ≤ place then (column, out)
    else
      let (column, out) := wrap width column (c.encode (bytes.extract place (place + c.bytes)).toList) out
      encodeAll c bytes width n (place + c.bytes) column out

/-- Encodes what a descriptor has, after some bytes that are held. -/
def encodeFrom (c : Code) (descriptor width : Nat) : Nat → ByteArray → Nat → Tool (Except Refusal Unit)
  | 0, _, _ => return .ok ()
  | n + 1, held, column => do
    match ← Proc.read descriptor Proc.blockSize with
    | .error r => return .error r
    | .ok bytes =>
      let all := held ++ bytes
      let whole := if bytes.isEmpty then all.size else all.size - all.size % c.bytes
      let now := all.extract 0 whole
      let (column, out) := encodeAll c now width (now.size + 1) 0 column (ByteArray.emptyWithCapacity (now.size * 2))
      Tool.emitBytes out
      if bytes.isEmpty then
        if width ≠ 0 ∧ column ≠ 0 then Tool.emit "\n"
        return .ok ()
      encodeFrom c descriptor width n (all.extract whole all.size) column

/-- The bytes of whole groups, whether all were groups, and the characters that are left. -/
def decodeAll (c : Code) (last : Bool) : Nat → List Char → ByteArray → ByteArray × Bool × List Char
  | 0, cs, out => (out, true, cs)
  | n + 1, cs, out =>
    let group := cs.take c.size
    if group = [] ∨ (group.length < c.size ∧ ¬ last) then (out, true, cs)
    else
      let (bytes, isGroup) := c.decode group
      let out := bytes.foldl ByteArray.push out
      if isGroup then decodeAll c last n (cs.drop c.size) out else (out, false, [])

/-- Decodes what a descriptor has, after some characters that are held; whether it could be decoded. -/
def decodeFrom (c : Code) (ignores : Bool) (descriptor : Nat) : Nat → List Char → Tool (Except Refusal Bool)
  | 0, _ => return .ok true
  | n + 1, held => do
    match ← Proc.read descriptor Proc.blockSize with
    | .error r => return .error r
    | .ok bytes =>
      let read := (Text.Octets.ofBytes bytes).toList.filter fun d =>
        d != '\n' && (!ignores || d == filler || (c.value? d).isSome)
      let cs := held ++ read
      let (out, isRight, left) := decodeAll c bytes.isEmpty (cs.length + 1) cs ByteArray.empty
      Tool.emitBytes out
      if ¬ isRight then return .ok false
      if bytes.isEmpty then return .ok true
      decodeFrom c ignores descriptor n left

/-- Writes a file in a code, or what a file in it stands for. -/
def recode (c : Code) (args : List String) : Tool Nat := do
  let g ← Options.read { known := [flag "d" "decode", flag "i" "ignore-garbage", taking "w" "wrap"] } args
  let mut width := 76
  for s in g.all "w" do
    match Numbers.whole s with
    | .ok n => width := n
    | .error .tooLarge => width := 0
    | .error .invalid => Tool.fail 1 ("invalid wrap size: " ++ Quoting.local_ s)
  match g.operands.drop 1 with
  | extra :: _ => Options.extra 1 extra
  | [] => pure ()
  let path := g.operands.headD "-"
  match ← Tool.openInput path with
  | .error r => Tool.fail 1 (Quoting.file path ++ ": " ++ r.message)
  | .ok d =>
    let unread (r : Refusal) : Tool Nat := Tool.fail 1 ("read error: " ++ r.message)
    if g.has "d" then
      match ← decodeFrom c (g.has "i") d Proc.endless [] with
      | .error r => unread r
      | .ok true => return 0
      | .ok false => Tool.fail 1 "invalid input"
    else
      match ← encodeFrom c d width Proc.endless ByteArray.empty 0 with
      | .error r => unread r
      | .ok () => return 0

end TaskRunner.Tools.Encoding
