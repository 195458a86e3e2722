import TaskRunner.Decimal.Shortest

/-!
# Digits and the numbers they write

A run of digits in a base up to sixteen, read as a whole number, and the 64 bits of a number written
with a whole part, a fraction and an exponent.
-/

namespace TaskRunner.Decimal

/-- The value of a digit, letters for ten to fifteen in either case. -/
def digitValue (c : Char) : Nat :=
  if '0' ≤ c ∧ c ≤ '9' then c.toNat - 48
  else if 'a' ≤ c ∧ c ≤ 'f' then c.toNat - 87
  else if 'A' ≤ c ∧ c ≤ 'F' then c.toNat - 55
  else 0

/-- Whether a character is a digit in base sixteen. -/
def isHexDigit (c : Char) : Bool :=
  ('0' ≤ c && c ≤ '9') || ('a' ≤ c && c ≤ 'f') || ('A' ≤ c && c ≤ 'F')

/-- The number that digits write in a base, the first digit the highest. -/
def natOf (base : Nat) (digits : List Char) : Nat :=
  digits.foldl (fun n c => n * base + digitValue c) 0

/-- The number that decimal digits after an optional sign write. -/
def intOf : List Char → Int
  | '-' :: digits => -(natOf 10 digits : Int)
  | '+' :: digits => natOf 10 digits
  | digits => natOf 10 digits

/-- The 64 bits of a number with the given whole digits, digits after the point, and exponent. -/
def bitsOf (negative : Bool) (whole fraction : List Char) (exponent : Int) : UInt64 :=
  toBits negative (natOf 10 (whole ++ fraction)) (exponent - fraction.length)

end TaskRunner.Decimal
