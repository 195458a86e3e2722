import TaskRunner.Data

/-!
# Writing data as text

The text of a value that the reader reads back as the same value. A point in time has no written
form of its own and is written as its text.
-/

namespace TaskRunner.Json

/-- One character of a text between double quotes. -/
def encodeChar (c : Char) : List Char :=
  if c = '\x22' then ['\x5c', '\x22']
  else if c = '\x5c' then ['\x5c', '\x5c']
  else if c.toNat < 32 ∨ c.toNat = 127 then '\x5c' :: 'u' :: Text.Quoted.hex 4 c.toNat
  else [c]

/-- A text between double quotes. -/
def renderText (s : String) : String :=
  String.ofList ('\x22' :: s.toList.flatMap encodeChar ++ ['\x22'])

/-- A number that was written with a point or an exponent. -/
def renderFloat (bits : UInt64) : String :=
  match Decimal.Reading.ofBits bits with
  | .undefined _ => "NaN"
  | .infinite negative => if negative then "-Infinity" else "Infinity"
  | .finite .. => Decimal.plain.render bits

mutual

/-- The written form of a value. -/
def render : Data → String
  | .null => "null"
  | .flag b => if b then "true" else "false"
  | .int n => toString n
  | .float bits => renderFloat bits
  | .text s => renderText s
  | .moment m => renderText m.display
  | .list items => "[" ++ ", ".intercalate (renderItems items) ++ "]"
  | .table fields => "\x7b" ++ ", ".intercalate (renderFields fields) ++ "\x7d"

/-- The written forms of the items of a list. -/
def renderItems : List Data → List String
  | [] => []
  | d :: rest => render d :: renderItems rest

/-- The written forms of the fields of a table. -/
def renderFields : List (String × Data) → List String
  | [] => []
  | (key, value) :: rest => (renderText key ++ ": " ++ render value) :: renderFields rest

end

end TaskRunner.Json
