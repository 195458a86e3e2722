import TaskRunner.Decimal.Digits

/-!
# Numbers in arguments

Whole numbers with a letter for what they are counted in, and decimal numbers that are kept exactly.
-/

namespace TaskRunner.Tools.Numbers

/-- Why a text is not a number that can be used. -/
inductive Fault where
  | invalid
  | tooLarge
  deriving DecidableEq

/-- What a suffix multiplies by. -/
def factor? : String → Option Nat
  | "" => some 1
  | "b" => some 512
  | "c" => some 1
  | "kB" | "KB" => some 1000
  | "k" | "K" | "KiB" => some 1024
  | "MB" => some 1000000
  | "M" | "MiB" | "m" => some 1048576
  | "GB" => some 1000000000
  | "G" | "GiB" => some 1073741824
  | "TB" => some 1000000000000
  | "T" | "TiB" => some 1099511627776
  | "P" | "PiB" => some 1125899906842624
  | "E" | "EiB" => some 1152921504606846976
  | _ => none

/-- The greatest number. -/
def most : Nat := 18446744073709551615

/-- A number with a suffix. -/
def size (s : String) : Except Fault Nat :=
  let cs := match s.toList.dropWhile (· == ' ') with
    | '+' :: rest => rest
    | cs => cs
  let (digits, suffix) := cs.span Char.isDigit
  match factor? (String.ofList suffix) with
  | none => .error .invalid
  | some f =>
    if digits = [] then .error .invalid
    else
      let n := Decimal.natOf 10 digits * f
      if most < n then .error .tooLarge else .ok n

/-- A whole number without a suffix. -/
def whole (s : String) : Except Fault Nat :=
  if (s.toList.getLast?.map Char.isDigit).getD false then size s else .error .invalid

/-- A whole number that may be below zero. -/
def integer? (s : String) : Option Int :=
  match s.toList with
  | '-' :: cs => if cs ≠ [] ∧ cs.all Char.isDigit then some (-(Decimal.natOf 10 cs : Int)) else none
  | '+' :: cs | cs => if cs ≠ [] ∧ cs.all Char.isDigit then some (Decimal.natOf 10 cs : Int) else none

/-- A decimal number: a whole number of parts of which a power of ten makes one. -/
structure Exact where
  parts : Int
  places : Nat

/-- The number of parts if there are more places. -/
def Exact.scaled (e : Exact) (places : Nat) : Int := e.parts * Int.pow 10 (places - e.places)

/-- A decimal number, perhaps with an exponent, or a hexadecimal whole number. -/
def decimal? (s : String) : Option Exact :=
  let cs := s.toList.dropWhile (· == ' ')
  let (negative, cs) := match cs with
    | '-' :: rest => (true, rest)
    | '+' :: rest => (false, rest)
    | cs => (false, cs)
  let sign (n : Nat) : Int := if negative then -(n : Int) else n
  match cs with
  | '0' :: 'x' :: rest | '0' :: 'X' :: rest =>
    if rest ≠ [] ∧ rest.all Decimal.isHexDigit then some ⟨sign (Decimal.natOf 16 rest), 0⟩ else none
  | cs =>
    let (whole, rest) := cs.span Char.isDigit
    let (fraction, rest) := match rest with
      | '.' :: more => more.span Char.isDigit
      | rest => ([], rest)
    if whole = [] ∧ fraction = [] then none
    else
      let n := Decimal.natOf 10 (whole ++ fraction)
      match rest with
      | [] => some ⟨sign n, fraction.length⟩
      | e :: rest =>
        if e ≠ 'e' ∧ e ≠ 'E' then none
        else
          let (below, digits) := match rest with
            | '-' :: ds => (true, ds)
            | '+' :: ds => (false, ds)
            | ds => (false, ds)
          if digits = [] ∨ ¬ digits.all Char.isDigit then none
          else
            let power := Decimal.natOf 10 digits
            if below then some ⟨sign n, fraction.length + power⟩
            else some ⟨sign n * Int.pow 10 (power - fraction.length), fraction.length - power⟩

/-- A number of parts written out. -/
def Exact.toText (e : Exact) : String :=
  let digits := toString e.parts.natAbs
  let digits := String.ofList (List.replicate (e.places + 1 - digits.length) '0') ++ digits
  let whole := (digits.dropEnd e.places).toString
  let fraction := (digits.drop (digits.length - e.places)).toString
  (if e.parts < 0 then "-" else "") ++ whole ++ (if e.places = 0 then "" else "." ++ fraction)

/-- A number of something, at the right of so many places. -/
def right (width : Nat) (s : String) : String := String.ofList (List.replicate (width - s.length) ' ') ++ s

/-- A text at the left of so many places. -/
def left (width : Nat) (s : String) : String := s ++ String.ofList (List.replicate (width - s.length) ' ')

end TaskRunner.Tools.Numbers
