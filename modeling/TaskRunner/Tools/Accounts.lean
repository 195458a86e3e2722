/-!
# The users and groups that are known

Every user and every group has a name and a number. A program may be told either of them.
-/

namespace TaskRunner.Tools.Accounts

/-- The users with their numbers. -/
def users : List (String × Nat) :=
  [("root", 0), ("daemon", 1), ("bin", 2), ("sys", 3), ("sync", 4), ("games", 5), ("man", 6), ("lp", 7), ("mail", 8),
    ("news", 9), ("uucp", 10), ("proxy", 13), ("www-data", 33), ("backup", 34), ("list", 38), ("irc", 39),
    ("nobody", 65534)]

/-- The groups with their numbers. -/
def groupNames : List (String × Nat) :=
  [("root", 0), ("daemon", 1), ("bin", 2), ("sys", 3), ("adm", 4), ("tty", 5), ("disk", 6), ("lp", 7), ("mail", 8),
    ("news", 9), ("uucp", 10), ("man", 12), ("proxy", 13), ("sudo", 27), ("www-data", 33), ("backup", 34), ("staff", 50),
    ("games", 60), ("users", 100), ("nogroup", 65534)]

/-- The number of a name, which may be a number itself. -/
def numberIn (names : List (String × Nat)) (s : String) : Option Nat :=
  match names.find? fun (name, _) => name == s with
  | some (_, n) => some n
  | none =>
    let digits := if s.startsWith "+" then (s.drop 1).toString else s
    if digits ≠ "" ∧ digits.toList.all Char.isDigit then digits.toNat? else none

/-- The name of a number; the number itself if it has none. -/
def nameIn (names : List (String × Nat)) (n : Nat) : String :=
  ((names.find? fun (_, m) => m == n).map Prod.fst).getD (toString n)

/-- The first group of a user. -/
def groupOf (user : Nat) : Nat :=
  if user = 5 then 60 else if user = 6 then 12 else if user = 4 then 65534 else user

end TaskRunner.Tools.Accounts
