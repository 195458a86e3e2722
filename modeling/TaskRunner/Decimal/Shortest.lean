/-!
# The shortest decimal of a binary number

A number of 64 bits is a whole number `significand` times a power of two. The reals that round to it
form an interval, its ends included when the significand is even. `shortest` looks for a decimal in
that interval with one digit, then with two, and so on; on each grid the two neighbours of the value
are tested, the nearer wins, and of two equally near the one with the even last digit. Everything is
exact: ends are compared by multiplying out.
-/

namespace TaskRunner.Decimal

/-- What 64 bits stand for. -/
inductive Reading where
  /-- No number, which has a sign all the same. -/
  | undefined (negative : Bool)
  | infinite (negative : Bool)
  /-- `significand * 2 ^ scale`; `narrow` when the gap below is half the gap above. -/
  | finite (negative : Bool) (significand : Nat) (scale : Int) (narrow : Bool)

/-- Reads a sign bit, eleven bits of exponent and 52 bits of fraction. -/
def Reading.ofBits (bits : UInt64) : Reading :=
  let n := bits.toNat
  let negative := n / Nat.pow 2 63 = 1
  let exponent : Nat := n / Nat.pow 2 52 % Nat.pow 2 11
  let fraction := n % Nat.pow 2 52
  if exponent = 2047 then
    if fraction = 0 then .infinite negative else .undefined negative
  else if exponent = 0 then .finite negative fraction (-1074) false
  else .finite negative (Nat.pow 2 52 + fraction) ((exponent : Int) - 1075) (fraction = 0 && 1 < exponent)

/-- `n * base ^ e` for a non-negative `e`, and `n` otherwise. -/
def scaleUp (n base : Nat) (e : Int) : Nat := n * Nat.pow base e.toNat

/-- Whether `a * 10 ^ d < b * 2 ^ q`. -/
def decimalLt (a : Nat) (d : Int) (b : Nat) (q : Int) : Bool :=
  scaleUp (scaleUp a 10 d) 2 (-q) < scaleUp (scaleUp b 2 q) 10 (-d)

/-- Whether `b * 2 ^ q < a * 10 ^ d`. -/
def binaryLt (b : Nat) (q : Int) (a : Nat) (d : Int) : Bool :=
  scaleUp (scaleUp b 2 q) 10 (-d) < scaleUp (scaleUp a 10 d) 2 (-q)

/-- Whether the decimal `digits * 10 ^ d` rounds to the number `m * 2 ^ q`. -/
def readsBack (m : Nat) (q : Int) (narrow : Bool) (digits : Nat) (d : Int) : Bool :=
  let low := 4 * m - (if narrow then 1 else 2)
  let high := 4 * m + 2
  let inside := !decimalLt digits d low (q - 2) && !binaryLt high (q - 2) digits d
  let atEnd := !binaryLt low (q - 2) digits d || !decimalLt digits d high (q - 2)
  inside && (m % 2 = 0 || !atEnd)

/-- The least `k` with `m * 2 ^ q < 10 ^ k`, searched upwards from an estimate. -/
def magnitude (m : Nat) (q : Int) : Int :=
  let estimate := ((Nat.log2 m : Int) + q) * 30103 / 100000 - 1
  let candidates := [estimate, estimate + 1, estimate + 2, estimate + 3]
  (candidates.find? fun k => binaryLt m q 1 k).getD (estimate + 4)

/-- The whole part of `m * 2 ^ q / 10 ^ d`. -/
def floorOn (m : Nat) (q : Int) (d : Int) : Nat :=
  scaleUp (scaleUp m 2 q) 10 (-d) / scaleUp (scaleUp 1 10 d) 2 (-q)

/-- The decimal on the grid `10 ^ d` that rounds to the number and is nearest to it, if there is one. -/
def onGrid (m : Nat) (q : Int) (narrow : Bool) (d : Int) : Option Nat :=
  let below := floorOn m q d
  let above := below + 1
  match readsBack m q narrow below d, readsBack m q narrow above d with
  | false, false => none
  | true, false => some below
  | false, true => some above
  | true, true =>
    if binaryLt (2 * m) q (below + above) d then some below
    else if decimalLt (below + above) d (2 * m) q then some above
    else some (if below % 2 = 0 then below else above)

/-- Moves trailing zeros of the digits into the exponent. -/
def strip (digits : Nat) (d : Int) : Nat → Nat × Int
  | 0 => (digits, d)
  | n + 1 => if digits ≠ 0 ∧ digits % 10 = 0 then strip (digits / 10) (d + 1) n else (digits, d)

/-- The fewest digits, and their exponent, that round to `m * 2 ^ q`. -/
def shortest (m : Nat) (q : Int) (narrow : Bool) : Nat × Int :=
  let k := magnitude m q
  let found := (List.range 17).findSome? fun (n : Nat) =>
    let d := k - (Int.ofNat n + 1)
    (onGrid m q narrow d).map fun digits => (digits, d)
  let (digits, d) := found.getD (floorOn m q (k - 17), k - 17)
  strip digits d 20

/-- How the digits of a number are laid out: where positional notation begins and ends. -/
structure Layout where
  /-- The point is written as such if it stands after more than `least` places, counted from the first digit … -/
  least : Int
  /-- … and after at most `most` places. -/
  most : Int
  /-- Digits of an exponent, at least. -/
  exponentWidth : Nat

/-- Digits with the point after `point` of them, zeros filled in on either side and at least one place on each. -/
def positional (digits : List Char) (point : Int) : List Char :=
  if point ≤ 0 then '0' :: '.' :: List.replicate (-point).toNat '0' ++ digits
  else
    let whole := point.toNat
    if digits.length ≤ whole then digits ++ List.replicate (whole - digits.length) '0' ++ ['.', '0']
    else digits.take whole ++ '.' :: digits.drop whole

/-- Digits with one place before the point and an exponent. -/
def exponential (width : Nat) (digits : List Char) (point : Int) : List Char :=
  let exponent := point - 1
  let sign := if exponent < 0 then '-' else '+'
  let written := Nat.toDigits 10 exponent.natAbs
  let fraction := match digits.drop 1 with
    | [] => []
    | more => '.' :: more
  digits.take 1 ++ fraction ++ 'e' :: sign :: List.replicate (width - written.length) '0' ++ written

/-- The text of a number of 64 bits. -/
def Layout.render (layout : Layout) (bits : UInt64) : String :=
  match Reading.ofBits bits with
  | .undefined _ => "nan"
  | .infinite negative => if negative then "-inf" else "inf"
  | .finite negative m q narrow =>
    let body :=
      if m = 0 then ['0', '.', '0']
      else
        let (n, d) := shortest m q narrow
        let digits := Nat.toDigits 10 n
        let point := digits.length + d
        if layout.least < point ∧ point ≤ layout.most then positional digits point
        else exponential layout.exponentWidth digits point
    String.ofList (if negative then '-' :: body else body)

/-- Positional from four zeros after the point up to sixteen places before it, otherwise an exponent of two digits. -/
def plain : Layout := ⟨-4, 16, 2⟩

/-- The 64 bits of `digits * 10 ^ exponent`, rounded to nearest; far beyond the range, infinity or zero. -/
def toBits (negative : Bool) (digits : Nat) (exponent : Int) : UInt64 :=
  let size := (Nat.toDigits 10 digits).length + exponent
  let magnitude : UInt64 :=
    if digits = 0 ∨ size < -400 then 0
    else if 400 < size then 0x7FF0000000000000
    else (Float.ofScientific digits (exponent < 0) exponent.natAbs).toBits
  if negative then magnitude + 0x8000000000000000 else magnitude

end TaskRunner.Decimal
