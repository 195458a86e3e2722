/-!
# Text as bytes

`decode` reads bytes as text and names the first place where it cannot: the bytes there, and why.
`showBytes` never fails: a byte that belongs to no character is written by its value.
-/

namespace TaskRunner.Text.Utf8

/-- Why bytes are no text. -/
inductive Reason where
  /-- The byte starts no character. -/
  | badStart
  /-- A byte that must continue a character does not. -/
  | badContinuation
  /-- The bytes end inside a character. -/
  | endsEarly
  deriving DecidableEq, Repr

/-- The first place where bytes are no text: its position, how many bytes it spans, and its first byte. -/
structure Fault where
  position : Nat
  size : Nat
  byte : UInt8
  reason : Reason
  deriving DecidableEq, Repr

/-- What the reason says. -/
def Reason.message : Reason → String
  | .badStart => "invalid start byte"
  | .badContinuation => "invalid continuation byte"
  | .endsEarly => "unexpected end of data"

/-- A byte in two hexadecimal digits. -/
def hexByte (b : UInt8) : String :=
  String.ofList [Nat.digitChar (b.toNat / 16), Nat.digitChar (b.toNat % 16)]

/-- What the fault says. -/
def Fault.message (f : Fault) : String :=
  if f.size = 1 then
    s!"'utf-8' codec can't decode byte 0x{hexByte f.byte} in position {f.position}: {f.reason.message}"
  else
    s!"'utf-8' codec can't decode bytes in position {f.position}-{f.position + f.size - 1}: {f.reason.message}"

/-- Whether a byte continues a character. -/
def isContinuation (b : UInt8) : Bool := 0x80 ≤ b && b < 0xC0

/-- Whether `second` may follow the first byte of a character of several bytes. -/
def maySecond (start second : UInt8) : Bool :=
  isContinuation second &&
    !(start == 0xE0 && second < 0xA0) && !(start == 0xED && 0xA0 ≤ second) &&
    !(start == 0xF0 && second < 0x90) && !(start == 0xF4 && 0x90 ≤ second)

/-- How many bytes the character has that starts with a byte; none if no character does. -/
def sizeOf? (start : UInt8) : Option Nat :=
  if start < 0x80 then some 1
  else if start < 0xC2 then none
  else if start < 0xE0 then some 2
  else if start < 0xF0 then some 3
  else if start < 0xF5 then some 4
  else none

/-- Checks the bytes after the first two of a character: how many are left to come, and how many were read. -/
def checkTail (left read : Nat) : List UInt8 → Except (Nat × Reason) Nat
  | rest =>
    match left, rest with
    | 0, _ => .ok read
    | _ + 1, [] => .error (read, .endsEarly)
    | n + 1, b :: rest => if isContinuation b then checkTail n (read + 1) rest else .error (read, .badContinuation)

/-- The size of the character that the bytes start with, or how many of them are wrong and why. -/
def firstSize : List UInt8 → Except (Nat × Reason) Nat
  | [] => .error (0, .endsEarly)
  | start :: rest =>
    match sizeOf? start, rest with
    | none, _ => .error (1, .badStart)
    | some 0, _ => .ok 1
    | some 1, _ => .ok 1
    | some (_ + 2), [] => .error (1, .endsEarly)
    | some (n + 2), second :: rest =>
      if maySecond start second then checkTail n 2 rest else .error (1, .badContinuation)

/-- The first fault at or after a position, within the given number of steps. -/
def firstFault (position : Nat) : Nat → List UInt8 → Option Fault
  | 0, _ => none
  | _, [] => none
  | steps + 1, bytes@(b :: rest) =>
    match firstSize bytes with
    | .ok size => firstFault (position + size) steps (rest.drop (size - 1))
    | .error (size, reason) => some ⟨position, size, b, reason⟩

/-- The bytes as text, or the first fault. -/
def decode (bytes : ByteArray) : Except Fault String :=
  match String.fromUTF8? bytes with
  | some s => .ok s
  | none => .error ((firstFault 0 bytes.size bytes.toList).getD ⟨0, bytes.size, 0, .endsEarly⟩)

/-- The text of some bytes, a byte that belongs to no character written by its value; `steps` bounds the length. -/
def showFrom (shown : String) : Nat → List UInt8 → String
  | 0, _ => shown
  | _, [] => shown
  | steps + 1, bytes@(b :: rest) =>
    match firstSize bytes with
    | .ok size =>
      let char := (String.fromUTF8? ⟨(bytes.take size).toArray⟩).getD ""
      showFrom (shown ++ char) steps (rest.drop (size - 1))
    | .error _ => showFrom (shown ++ "\\x" ++ hexByte b) steps rest

/-- The bytes as text; a byte that belongs to no character is written by its value. -/
def showBytes (bytes : ByteArray) : String :=
  match String.fromUTF8? bytes with
  | some s => s
  | none => showFrom "" bytes.size bytes.toList

end TaskRunner.Text.Utf8
