import TaskRunner.Text.Utf8

/-!
# Text as a row of bytes

Processes know no characters, only bytes. Here a row of bytes is a text in which every character stands
for one byte, so that it can be taken apart like any text. `ofText` spells a text out in its bytes,
`characters` puts the bytes together to characters again; a byte that belongs to none stands for
itself, far away from all characters that a text is likely to hold.
-/

namespace TaskRunner.Text.Octets

/-- The bytes of a byte array. -/
def ofBytes (bytes : ByteArray) : String :=
  bytes.foldl (fun s b => s.push (Char.ofNat b.toNat)) ""

/-- The byte array of bytes. -/
def toBytes (s : String) : ByteArray :=
  s.foldl (fun bytes c => bytes.push c.toNat.toUInt8) (ByteArray.emptyWithCapacity s.length)

/-- Whether a text has only characters of one byte each. -/
def isPlain (s : String) : Bool := s.utf8ByteSize == s.length

/-- The bytes of a text. -/
def ofText (s : String) : String := if isPlain s then s else ofBytes s.toUTF8

/-- What a byte that belongs to no character stands for. -/
def stray (b : Nat) : Char := Char.ofNat (0x10FF00 + b)

/-- The byte that a character stands for that is none. -/
def strayByte? (c : Char) : Option Nat := if 0x10FF80 ≤ c.toNat ∧ c.toNat ≤ 0x10FFFF then some (c.toNat - 0x10FF00) else none

/-- What a byte stands for that is a character of its own, and nothing is known about it. -/
def lone (b : Nat) : Char := Char.ofNat (0x10FE00 + b)

/-- The byte that a character stands for that is a byte alone, whether that is a character or not. -/
def byte? (c : Char) : Option Nat :=
  if 0x10FE80 ≤ c.toNat ∧ c.toNat ≤ 0x10FEFF then some (c.toNat - 0x10FE00) else strayByte? c

/-- How many bytes the character has that the bytes start with; one that is none has a single byte. -/
def firstSize (bytes : List UInt8) : Option Nat :=
  match Utf8.firstSize (bytes.take 4) with
  | .ok size => some size
  | .error _ => none

/-- The number of a character of several bytes. -/
def codeOf : List UInt8 → Nat
  | [a, b] => (a.toNat - 0xC0) * 64 + (b.toNat - 0x80)
  | [a, b, c] => ((a.toNat - 0xE0) * 64 + (b.toNat - 0x80)) * 64 + (c.toNat - 0x80)
  | [a, b, c, d] => (((a.toNat - 0xF0) * 64 + (b.toNat - 0x80)) * 64 + (c.toNat - 0x80)) * 64 + (d.toNat - 0x80)
  | _ => 0

/-- Puts bytes together to characters, the first of them last; `read` holds those before. -/
def gather (read : List Char) : Nat → List Char → List Char
  | 0, _ => read
  | _, [] => read
  | n + 1, c :: rest =>
    if c.toNat < 128 then gather (c :: read) n rest
    else
      let start := (c :: rest.take 3).map fun c => c.toNat.toUInt8
      match firstSize start with
      | some size => gather (Char.ofNat (codeOf (start.take size)) :: read) n (rest.drop (size - 1))
      | none => gather (stray c.toNat :: read) n rest

/-- The characters that bytes make up. -/
def characters (s : String) : List Char :=
  if isPlain s then s.toList else (gather [] s.length s.toList).reverse

/-- The bytes of a character; those of a byte alone are the one byte. -/
def ofChar (c : Char) : String :=
  match byte? c with
  | some b => String.singleton (Char.ofNat b)
  | none => ofText (String.singleton c)

/-- The bytes of characters. -/
def ofCharacters (cs : List Char) : String :=
  if cs.all fun c => c.toNat < 128 then String.ofList cs
  else cs.foldl (fun s c => s ++ ofChar c) ""

/-- The text that bytes make up. -/
def toText (s : String) : String := if isPlain s then s else String.ofList (characters s)

/-- The bytes of a text that bytes made up. -/
def ofName (s : String) : String := if isPlain s then s else ofCharacters s.toList

/-- The pieces of bytes between line feeds; a last line need not end in one. -/
def lines (bytes : ByteArray) : List String :=
  let (found, last) := bytes.foldl (fun (found, line) b =>
    if b = 10 then (line :: found, "") else (found, line.push (Char.ofNat b.toNat))) (([] : List String), "")
  (if last = "" then found else last :: found).reverse

/-- Whether bytes end in the middle of a line. -/
def endsOpen (bytes : ByteArray) : Bool := 0 < bytes.size && bytes.get! (bytes.size - 1) != 10

end TaskRunner.Text.Octets
