import TaskRunner.Text.Visible

/-!
# Quoted text

A text between quotes, on one line and with visible characters only. Single quotes are used unless
the text holds a single quote and no double quote. Backslash and the quote in use are written after
a backslash, tab, line feed and carriage return by their letters, and a character without a visible
form by its code point in two, four or eight hexadecimal digits.
-/

namespace TaskRunner.Text

namespace Quoted

/-- The last `count` hexadecimal digits of a number, in lower case. -/
def hex (count n : Nat) : List Char :=
  match count with
  | 0 => []
  | k + 1 => hex k (n / 16) ++ [Nat.digitChar (n % 16)]

/-- One character of a quoted text. -/
def encodeChar (quote c : Char) : List Char :=
  if c = quote ∨ c = '\x5c' then ['\x5c', c]
  else if c = '\t' then ['\x5c', 't']
  else if c = '\n' then ['\x5c', 'n']
  else if c = '\r' then ['\x5c', 'r']
  else if isVisible c then [c]
  else if c.toNat < 0x100 then '\x5c' :: 'x' :: hex 2 c.toNat
  else if c.toNat < 0x10000 then '\x5c' :: 'u' :: hex 4 c.toNat
  else '\x5c' :: 'U' :: hex 8 c.toNat

/-- The quote for a text: the double one exactly when the text holds the single one and not the double one. -/
def quoteFor (cs : List Char) : Char :=
  if cs.contains '\x27' && !cs.contains '\x22' then '\x22' else '\x27'

end Quoted

/-- A text between quotes. -/
def quoted (s : String) : String :=
  let quote := Quoted.quoteFor s.toList
  String.ofList (quote :: s.toList.flatMap (Quoted.encodeChar quote) ++ [quote])

end TaskRunner.Text
