import TaskRunner.Text.Octets

/-!
# Locales

A locale says which bytes are characters. There are two: in the plain one every byte is a character of its
own, and beyond ASCII none of them is a letter or anything else; in the other one characters are written in
UTF-8. Programs choose one by the variables of their environment.
-/

namespace TaskRunner.Text

/-- How bytes are taken as characters. -/
inductive Locale where
  | plain
  | unicode
  deriving DecidableEq, Repr

namespace Locale

/-- The locale with a name, if there is one. -/
def ofName? (name : String) : Option Locale :=
  match name.splitOn "." with
  | ["C"] | ["POSIX"] => some .plain
  | ["C", charset] =>
    if (charset.toList.filter Char.isAlphanum).map Char.toLower = ['u', 't', 'f', '8'] then some .unicode else none
  | _ => none

/-- The name of the locale for a category, by the variables that say it: the first one that is not empty. -/
def nameFor (valueOf : String → Option String) (category : String) : String :=
  ((["LC_ALL", category, "LANG"].filterMap valueOf).find? (· != "")).getD "C"

/-- The locale for a category; the plain one if there is none with the name. -/
def ofVariables (valueOf : String → Option String) (category : String) : Locale :=
  (ofName? (nameFor valueOf category)).getD .plain

/-- The variables for the categories of a locale. -/
def categories : List String :=
  ["LC_CTYPE", "LC_NUMERIC", "LC_TIME", "LC_COLLATE", "LC_MONETARY", "LC_MESSAGES", "LC_PAPER", "LC_NAME", "LC_ADDRESS",
    "LC_TELEPHONE", "LC_MEASUREMENT", "LC_IDENTIFICATION"]

/-- The locale of a program that uses that of its environment: the plain one if any category asks for one that does not
exist. -/
def ofEnvironment (valueOf : String → Option String) : Locale :=
  if categories.all fun c => (ofName? (nameFor valueOf c)).isSome then ofVariables valueOf "LC_CTYPE" else .plain

/-- The characters that bytes are. -/
def characters : Locale → String → List Char
  | .plain, s => if Octets.isPlain s then s.toList else s.toList.map fun c => if c.toNat < 128 then c else Octets.lone c.toNat
  | .unicode, s => Octets.characters s

end Locale

end TaskRunner.Text
