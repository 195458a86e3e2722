import TaskRunner.Decimal.Rounded

/-!
# Numbers with 64 binary digits

Arithmetic on numbers that keep 64 binary digits: the result of every operation is the nearest of these
numbers to the exact result. Whole numbers come from them by cutting off or by going to a neighbour.
-/

namespace TaskRunner.Decimal

/-- The number `parts * 2 ^ scale`. -/
structure Wide where
  parts : Int
  scale : Int
  deriving Repr

namespace Wide

/-- The number nearest to `a / b`. -/
def ofRatio (a : Int) (b : Nat) : Wide :=
  match nearest 64 (a < 0) a.natAbs b with
  | .finite negative m q _ => ⟨if negative then -(m : Int) else m, q⟩
  | _ => ⟨0, 0⟩

/-- The number nearest to a whole one. -/
def ofInt (n : Int) : Wide := ofRatio n 1

/-- The numerator and the denominator. -/
def ratio (w : Wide) : Int × Nat :=
  if 0 ≤ w.scale then (w.parts * Int.pow 2 w.scale.toNat, 1) else (w.parts, Nat.pow 2 (-w.scale).toNat)

/-- The sum of two numbers. -/
def plus (a b : Wide) : Wide :=
  let (m, c) := a.ratio
  let (n, d) := b.ratio
  ofRatio (m * d + n * c) (c * d)

/-- A number so many times. -/
def times (w : Wide) (n : Nat) : Wide :=
  let (a, b) := w.ratio
  ofRatio (a * n) b

/-- One of so many parts of a number. -/
def dividedBy (w : Wide) (n : Nat) : Wide :=
  let (a, b) := w.ratio
  ofRatio a (b * n)

/-- Whether a number is at least as far from zero as a whole one. -/
def reaches (w : Wide) (n : Nat) : Bool :=
  let (a, b) := w.ratio
  n * b ≤ a.natAbs

/-- The number with another sign. -/
def negated (w : Wide) : Wide := ⟨-w.parts, w.scale⟩

/-- The greatest whole number that is not greater. -/
def floor (w : Wide) : Int :=
  let (a, b) := w.ratio
  Int.fdiv a b

/-- The least whole number that is not less. -/
def ceiling (w : Wide) : Int :=
  let (a, b) := w.ratio
  Int.neg (Int.fdiv (-a) b)

/-- The nearest whole number; of two, the one that is farther from zero. -/
def closest (w : Wide) : Int :=
  let (a, b) := w.ratio
  let half : Int := if a < 0 then -(b : Int) else (b : Int)
  Int.tdiv (2 * a + half) (2 * (b : Int))

/-- The number for the notations of numbers. -/
def reading (w : Wide) : Reading := .finite (w.parts < 0) w.parts.natAbs w.scale false

/-- With a number of places after the point. -/
def toFixed (w : Wide) (places : Nat) : String :=
  (if w.parts < 0 then "-" else "") ++ written 'f' (some places) false 64 w.reading

end Wide

end TaskRunner.Decimal
