import TaskRunner.Tools.Fields

/-!
# Prime factors

Small factors are found by division. What is left is a prime if no base shows that it is not, and is
otherwise taken apart by a walk that comes back to where it has been sooner in one of its factors.
-/

namespace TaskRunner.Tools.Factors

open Processes

/-- A power of a number, modulo another one. -/
def powerMod (modulus base exponent : Nat) : Nat :=
  let step (state : Nat × Nat) (i : Nat) : Nat × Nat :=
    (if exponent.testBit i then state.1 * state.2 % modulus else state.1, state.2 * state.2 % modulus)
  ((List.range (exponent.log2 + 1)).foldl step (1 % modulus, base % modulus)).1

/-- Whether one is the square, so often squared, of a number that is next to it. -/
def squaresToBefore (n : Nat) : Nat → Nat → Bool
  | 0, _ => false
  | k + 1, x => x == n - 1 || squaresToBefore n k (x * x % n)

/-- How often two divides a number, and what is left. -/
def halves : Nat → Nat → Nat × Nat → Nat × Nat
  | 0, n, (k, _) => (k, n)
  | f + 1, n, (k, _) => if n % 2 = 0 ∧ n ≠ 0 then halves f (n / 2) (k + 1, n / 2) else (k, n)

/-- The bases by which numbers are put to the test. -/
def bases : List Nat := [2, 3, 5, 7, 11, 13, 17, 19, 23, 29, 31, 37, 41]

/-- Whether a number passes for a prime with every base. -/
def isPrime (n : Nat) : Bool :=
  if n < 2 then false
  else if bases.contains n then true
  else
    let (k, odd) := halves (n.log2 + 1) (n - 1) (0, n - 1)
    bases.all fun b =>
      n % b != 0 && (let x := powerMod n b odd; x == 1 || squaresToBefore n k x)

/-- Takes out what divides a number from a divisor on, the divisors after it by twos; the factors, the last first, and what
is left. -/
def divideOut : Nat → Nat → Nat → List Nat → List Nat × Nat
  | 0, n, _, found => (found, n)
  | f + 1, n, d, found =>
    if n < d * d then (if 1 < n then (n :: found, 1) else (found, 1))
    else if n % d = 0 then divideOut f (n / d) d (d :: found)
    else divideOut f n (if d = 2 then 3 else d + 2) found

/-- Walks at two speeds until a factor shows. -/
def walk (n add : Nat) : Nat → Nat → Nat → Option Nat
  | 0, _, _ => none
  | f + 1, slow, fast =>
    let next (x : Nat) : Nat := (x * x + add) % n
    let slow := next slow
    let fast := next (next fast)
    let d := Nat.gcd (if slow < fast then fast - slow else slow - fast) n
    if d = 1 then walk n add f slow fast
    else if d = n then none
    else some d

/-- The prime factors of a number without small ones; `fuel` bounds how often it is taken apart. -/
def split : Nat → Nat → List Nat
  | 0, n => [n]
  | fuel + 1, n =>
    if n ≤ 1 then []
    else if isPrime n then [n]
    else
      match (List.range 20).findSome? fun i => walk n (i + 1) 3000000 2 2 with
      | some d => split fuel d ++ split fuel (n / d)
      | none => [n]

/-- The prime factors of a number, from the least on. -/
def ofNumber (n : Nat) : List Nat :=
  if n = 0 then []
  else
    let (small, rest) := divideOut 5000 n 2 []
    (small ++ split (n.log2 + 1) rest).mergeSort

/-- Writes the factors of the number that a text stands for. -/
def line (text : String) : Tool Nat := do
  let digits := match text.toList.dropWhile (· == ' ') with
    | '+' :: rest => rest
    | cs => cs
  if digits = [] ∨ ¬ digits.all Char.isDigit then
    Tool.say (Quoting.local_ text ++ " is not a valid positive integer")
    return 1
  let n := Decimal.natOf 10 digits
  Tool.emitLine (toString n ++ ":" ++ String.join ((ofNumber n).map fun p => " " ++ toString p))
  return 0

/-- Writes the factors of numbers. -/
def main (args : List String) : Tool Nat := do
  let g ← Options.read { known := [] } args
  if g.operands ≠ [] then Tool.worst line g.operands
  else
    match ← Tool.contentOf "-" with
    | .error r =>
      Tool.say ("error reading input: " ++ r.message)
      return 1
    | .ok bytes =>
      let isBlank (c : Char) : Bool := c == ' ' || c == '\t' || c == '\n'
      Tool.worst line (((Text.Octets.ofBytes bytes).split isBlank).toList.map (·.toString) |>.filter (· ≠ ""))

end TaskRunner.Tools.Factors
