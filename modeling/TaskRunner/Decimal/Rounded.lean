import TaskRunner.Decimal.Digits

/-!
# Numbers of a given precision

The number nearest to a decimal among those with a given number of binary digits, and the decimal
notations of such a number: with a number of places after the point, with an exponent, or whichever of
the two is shorter. Everything is exact until it is rounded, and of two nearest the even one is taken.
-/

namespace TaskRunner.Decimal

/-- `a / b` rounded to the nearest whole number, to the even one of two. -/
def divideRounded (a b : Nat) : Nat :=
  let q := a / b
  let r := a % b
  if 2 * r < b then q else if b < 2 * r then q + 1 else if q % 2 = 0 then q else q + 1

/-- The number with `bits` binary digits that is nearest to `a / b`. -/
def nearest (bits : Nat) (negative : Bool) (a b : Nat) : Reading :=
  if a = 0 ∨ b = 0 then .finite negative 0 0 false
  else
    let shift : Int := (Nat.log2 a : Int) - Nat.log2 b - bits + 1
    let quotient (s : Int) : Nat := if 0 ≤ s then divideRounded a (b * Nat.pow 2 s.toNat) else divideRounded (a * Nat.pow 2 (-s).toNat) b
    let shift := if quotient shift < Nat.pow 2 (bits - 1) then shift - 1 else shift
    let shift := max shift (if bits = 53 then -1074 else -16445)
    let m := quotient shift
    if (if bits = 53 then 1024 else 16384) < shift + Nat.log2 m + 1 then .infinite negative
    else .finite negative m shift false

/-- The number with `bits` binary digits that is nearest to `digits * 10 ^ exponent`. -/
def nearestDecimal (bits : Nat) (negative : Bool) (digits : Nat) (exponent : Int) : Reading :=
  let size := (Nat.toDigits 10 digits).length + exponent
  if digits = 0 ∨ size < -5000 then .finite negative 0 0 false
  else if 5000 < size then .infinite negative
  else if 0 ≤ exponent then nearest bits negative (digits * Nat.pow 10 exponent.toNat) 1
  else nearest bits negative digits (Nat.pow 10 (-exponent).toNat)

/-- Takes off blanks at the beginning. -/
def skipBlanks (cs : List Char) : List Char := cs.dropWhile fun c => c == ' ' || ('\t' ≤ c && c ≤ '\r')

/-- The exponent after a letter, if digits follow it. -/
def exponentAt (letters : List Char) (cs : List Char) : Option (Int × List Char) :=
  match cs with
  | c :: rest =>
    if ¬ letters.contains c then none
    else
      let (negative, rest) := match rest with
        | '-' :: rest => (true, rest)
        | '+' :: rest => (false, rest)
        | rest => (false, rest)
      match rest.span Char.isDigit with
      | ([], _) => none
      | (digits, after) =>
        let n : Int := min (natOf 10 digits) 100000
        some (if negative then -n else n, after)
  | [] => none

/-- The number that a text begins with, and what follows it; none if it begins with no number. -/
def readNumber (bits : Nat) (text : List Char) : Option (Reading × List Char) :=
  let cs := skipBlanks text
  let (negative, cs) := match cs with
    | '-' :: rest => (true, rest)
    | '+' :: rest => (false, rest)
    | cs => (false, cs)
  let lower := (cs.take 8).map Char.toLower
  if "infinity".toList.isPrefixOf lower then some (.infinite negative, cs.drop 8)
  else if "inf".toList.isPrefixOf lower then some (.infinite negative, cs.drop 3)
  else if "nan".toList.isPrefixOf lower then
    match cs.drop 3 with
    | '(' :: rest =>
      match rest.span fun c => c.isAlphanum || c == '_' with
      | (_, ')' :: after) => some (.undefined negative, after)
      | _ => some (.undefined negative, '(' :: rest)
    | after => some (.undefined negative, after)
  else
    let hexadecimal : Option (Reading × List Char) := match cs with
      | '0' :: x :: rest =>
        if x = 'x' ∨ x = 'X' then
          let (whole, after) := rest.span isHexDigit
          let (fraction, after) := match after with
            | '.' :: more => more.span isHexDigit
            | after => ([], after)
          if whole = [] ∧ fraction = [] then none
          else
            let (e, after) := (exponentAt ['p', 'P'] after).getD (0, after)
            let scale := e - 4 * fraction.length
            let n := natOf 16 (whole ++ fraction)
            let value := if 0 ≤ scale then nearest bits negative (n * Nat.pow 2 scale.toNat) 1
              else nearest bits negative n (Nat.pow 2 (-scale).toNat)
            some (value, after)
        else none
      | _ => none
    match hexadecimal with
    | some found => some found
    | none =>
      let (whole, after) := cs.span Char.isDigit
      let (fraction, after) := match after with
        | '.' :: more =>
          let (fraction, rest) := more.span Char.isDigit
          if whole = [] ∧ fraction = [] then ([], after) else (fraction, rest)
        | after => ([], after)
      if whole = [] ∧ fraction = [] then none
      else
        let (e, after) := (exponentAt ['e', 'E'] after).getD (0, after)
        some (nearestDecimal bits negative (natOf 10 (whole ++ fraction)) (e - fraction.length), after)

/-! ## Notations -/

/-- The whole number nearest to `m * 2 ^ q * 10 ^ d`. -/
def scaled (m : Nat) (q d : Int) : Nat :=
  divideRounded (scaleUp (scaleUp m 2 q) 10 d) (scaleUp (scaleUp 1 2 (-q)) 10 (-d))

/-- Digits with zeros before them up to a number of places. -/
def padded (width : Nat) (n : Nat) : List Char :=
  let digits := Nat.toDigits 10 n
  List.replicate (width - digits.length) '0' ++ digits

/-- With a number of places after the point; `point` says whether the point is written without any. -/
def fixed (places : Nat) (point : Bool) (m : Nat) (q : Int) : List Char :=
  let digits := padded (places + 1) (scaled m q places)
  let whole := digits.take (digits.length - places)
  let fraction := digits.drop (digits.length - places)
  if places = 0 then (if point then whole ++ ['.'] else whole) else whole ++ '.' :: fraction

/-- The digits with one place before the point, and the exponent. -/
def digitsAndExponent (places : Nat) (m : Nat) (q : Int) : List Char × Int :=
  if m = 0 then (List.replicate (places + 1) '0', 0)
  else
    let k := magnitude m q - 1
    let n := scaled m q (places - k)
    if n < Nat.pow 10 (places + 1) then (Nat.toDigits 10 n, k) else (Nat.toDigits 10 (n / 10), k + 1)

/-- An exponent of at least two digits after a letter. -/
def exponentText (letter : Char) (e : Int) : List Char :=
  letter :: (if e < 0 then '-' else '+') :: padded 2 e.natAbs

/-- With an exponent. -/
def scientific (places : Nat) (point : Bool) (m : Nat) (q : Int) : List Char :=
  let (digits, e) := digitsAndExponent places m q
  let fraction := digits.drop 1
  let tail := if fraction = [] then (if point then ['.'] else []) else '.' :: fraction
  digits.take 1 ++ tail ++ exponentText 'e' e

/-- Takes off zeros at the end of a fraction, and the point if nothing is left after it. -/
def stripFraction (cs : List Char) : List Char :=
  if cs.contains '.' then
    match cs.reverse.dropWhile (· == '0') with
    | '.' :: rest => rest.reverse
    | rest => rest.reverse
  else cs

/-- Whichever notation is shorter, with a number of digits that count. -/
def general (precision : Nat) (keepZeros : Bool) (m : Nat) (q : Int) : List Char :=
  let p := max precision 1
  let (digits, e) := digitsAndExponent (p - 1) m q
  if -4 ≤ e ∧ e < p then
    let text := fixed ((p : Int) - 1 - e).toNat keepZeros m q
    if keepZeros then text else stripFraction text
  else
    let mantissa := digits.take 1 ++ (if digits.length ≤ 1 then (if keepZeros then ['.'] else []) else '.' :: digits.drop 1)
    (if keepZeros then mantissa else stripFraction mantissa) ++ exponentText 'e' e

/-- In base sixteen with `bits` binary digits; the first digit is as large as it can be. -/
def hexadecimal (bits : Nat) (places : Option Nat) (m : Nat) (q : Int) : List Char :=
  if m = 0 then "0x0p+0".toList
  else
    let lead := if bits = 64 then 4 else 1
    let size := Nat.log2 m + 1
    let shift := (lead + 60 : Nat) - size
    let m := m * Nat.pow 2 shift
    let q := q - shift
    let digits := Nat.toDigits 16 m
    let e := q + 60
    let digits := match places with
      | some p => if p < digits.length - 1 then Nat.toDigits 16 (divideRounded m (Nat.pow 16 (digits.length - 1 - p))) else
          digits ++ List.replicate (p + 1 - digits.length) '0'
      | none => (digits.take 1) ++ ((digits.drop 1).reverse.dropWhile (· == '0')).reverse
    let fraction := digits.drop 1
    "0x".toList ++ digits.take 1 ++ (if fraction = [] then [] else '.' :: fraction) ++ 'p' :: (if e < 0 then '-' else '+')
      :: Nat.toDigits 10 e.natAbs

/-- A number as one of the letters `e`, `f`, `g` and `a` says, without its sign. -/
def written (letter : Char) (precision : Option Nat) (alternative : Bool) (bits : Nat) (r : Reading) : String :=
  let text := match r with
    | .undefined _ => "nan".toList
    | .infinite _ => "inf".toList
    | .finite _ m q _ =>
      match letter.toLower with
      | 'e' => scientific (precision.getD 6) alternative m q
      | 'g' => general (precision.getD 6) alternative m q
      | 'a' => hexadecimal bits precision m q
      | _ => fixed (precision.getD 6) alternative m q
  let text := String.ofList text
  if letter.isUpper then text.toUpper else text

/-- Whether a number is below zero. -/
def Reading.isNegative : Reading → Bool
  | .undefined negative | .infinite negative | .finite negative _ _ _ => negative

/-- A number as the plainest of ways with a number of digits that count. -/
def Reading.general (precision : Nat) (r : Reading) : String :=
  (if r.isNegative then "-" else "") ++ written 'g' (some precision) false 53 r

/-- The number of 64 bits nearest to what a text begins with; zero if it begins with no number. -/
def floatOf (cs : List Char) : Float :=
  match readNumber 53 cs with
  | none => 0
  | some (.undefined _, _) => 0 / 0
  | some (.infinite negative, _) => if negative then -1 / 0 else 1 / 0
  | some (.finite negative m q _, _) =>
    let x := Float.scaleB (Float.ofNat m) q
    if negative then -x else x

end TaskRunner.Decimal
