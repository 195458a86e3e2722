import TaskRunner.Shell.Syntax

/-!
# Alternatives in braces

A word of the extended language with alternatives in braces stands for several words. What is quoted
in it, or stands for something else, is never looked into.
-/

namespace TaskRunner.Shell.Braces

/-- A part of a word: a byte that counts, or something that does not. -/
inductive Atom where
  | char (c : Char)
  | piece (p : Piece)

/-- The atoms of a word. -/
def atomsOf : Bool → Word → List Atom
  | _, [] => []
  | quoted, .quote single :: rest => .piece (.quote single) :: atomsOf (!quoted) rest
  | false, .text s :: rest => s.toList.map Atom.char ++ atomsOf false rest
  | quoted, p :: rest => .piece p :: atomsOf quoted rest

/-- The word of atoms. -/
def wordOf (atoms : List Atom) : Word :=
  let (pieces, run) := atoms.foldl (fun (pieces, run) a => match a with
    | .char c => (pieces, String.push run c)
    | .piece p => (p :: (if run = "" then pieces else .text run :: pieces), "")) (([] : List Piece), "")
  (if run = "" then pieces else .text run :: pieces).reverse

/-- The alternatives up to the closing brace, and what follows it; none if there is no closing brace. -/
def split : Nat → List Atom → List (List Atom) → List Atom → Option (List (List Atom) × List Atom)
  | _, _, _, [] => none
  | depth, read, found, .char c :: rest =>
    if c = '\x7b' then split (depth + 1) (.char c :: read) found rest
    else if c = '\x7d' then
      match depth with
      | 0 => some ((read.reverse :: found).reverse, rest)
      | depth + 1 => split depth (.char c :: read) found rest
    else if c = ',' ∧ depth = 0 then split depth [] (read.reverse :: found) rest
    else split depth (.char c :: read) found rest
  | depth, read, found, a :: rest => split depth (a :: read) found rest

/-- The text of atoms that are all bytes. -/
def text? (atoms : List Atom) : Option String :=
  (atoms.foldlM (fun s a => match a with
    | .char c => some (String.push s c)
    | .piece _ => none) "")

/-- A number, and how many digits it has been given if they begin with a zero. -/
def number? (s : String) : Option (Int × Nat) :=
  let digits := if s.startsWith "-" ∨ s.startsWith "+" then (s.drop 1).toString else s
  if digits = "" ∨ ¬ digits.toList.all Char.isDigit then none
  else (digits.toNat?).map fun n =>
    let padded := digits.length > 1 && digits.startsWith "0"
    (if s.startsWith "-" then -(n : Int) else n, if padded then s.length else 0)

/-- The numbers from one to another. -/
def numbers (first last step : Int) : List Int :=
  let step := if step = 0 then 1 else step.natAbs
  let count := (last - first).natAbs / step + 1
  (List.range count).map fun i => if first ≤ last then first + (i * step : Nat) else first - (i * step : Nat)

/-- A number in at least so many places, filled up with zeros. -/
def padded (width : Nat) (n : Int) : String :=
  let digits := toString n.natAbs
  let sign := if n < 0 then "-" else ""
  sign ++ String.ofList (List.replicate (width - sign.length - digits.length) '0') ++ digits

/-- The texts that a sequence stands for. -/
def sequence? (s : String) : Option (List String) :=
  match s.splitOn ".." with
  | [a, b] => go a b "1"
  | [a, b, c] => go a b c
  | _ => none
where
  /-- The texts between two ends. -/
  go (a b c : String) : Option (List String) := do
    let (step, _) ← number? c
    match number? a, number? b with
    | some (x, w), some (y, v) => some ((numbers x y step).map (padded (max w v)))
    | _, _ =>
      match a.toList, b.toList with
      | [x], [y] =>
        if x.isAlpha ∧ y.isAlpha then
          some ((numbers x.toNat y.toNat step).map fun n => String.singleton (Char.ofNat n.toNat))
        else none
      | _, _ => none

/-- The words that atoms stand for. -/
def expandAtoms : Nat → List Atom → List (List Atom)
  | 0, atoms => [atoms]
  | _, [] => [[]]
  | n + 1, .char '\x7b' :: rest =>
    match split 0 [] [] rest with
    | none => (expandAtoms n rest).map (.char '\x7b' :: ·)
    | some ([one], after) =>
      match (text? one).bind sequence? with
      | some items =>
        let tails := expandAtoms n after
        items.flatMap fun item => tails.map (item.toList.map Atom.char ++ ·)
      | none => (expandAtoms n rest).map (.char '\x7b' :: ·)
    | some (alternatives, after) =>
      let tails := expandAtoms n after
      let heads := alternatives.flatMap (expandAtoms n)
      heads.flatMap fun head => tails.map (head ++ ·)
  | n + 1, a :: rest => (expandAtoms n rest).map (a :: ·)

/-- The words that a word stands for. -/
def expand (w : Word) : List Word :=
  let hasBrace := w.any fun
    | .text s => s.toList.contains '\x7b'
    | _ => false
  if ¬ hasBrace then [w]
  else
    let atoms := atomsOf false w
    (expandAtoms (atoms.length + 1) atoms).map wordOf

end TaskRunner.Shell.Braces
