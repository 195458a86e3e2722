import TaskRunner.FileSystem.Info
import TaskRunner.Calendar.Reading
import TaskRunner.Tools.Numbers
import TaskRunner.Tools.Options

/-!
# The program that tells the time

The time, or a time that the arguments name, written by a format.
-/

namespace TaskRunner.Tools.Dates

open Processes

/-- A billionth of a second. -/
def perSecond : Nat := 1000000000

/-- The zone of the program. -/
def zone : Tool Calendar.Zone := return Calendar.zoneOf (← Tool.setting "TZ")

/-- The formats of a standard, by their words. -/
def standardWords : List (List String) := [["hours"], ["minutes"], ["date"], ["seconds"], ["ns"]]

/-- The format of the standard with a letter between day and time. -/
def isoFormat : String → String
  | "hours" => "%Y-%m-%dT%H%:z"
  | "minutes" => "%Y-%m-%dT%H:%M%:z"
  | "seconds" => "%Y-%m-%dT%H:%M:%S%:z"
  | "ns" => "%Y-%m-%dT%H:%M:%S,%N%:z"
  | _ => "%Y-%m-%d"

/-- The format of the standard with a blank between day and time. -/
def plainFormat : String → String
  | "seconds" => "%Y-%m-%d %H:%M:%S%:z"
  | "ns" => "%Y-%m-%d %H:%M:%S.%N%:z"
  | _ => "%Y-%m-%d"

/-- Writes a time. -/
def date (args : List String) : Tool Nat := do
  let g ← Options.read
    { known := [taking "d" "date", word "debug", taking "f" "file", mayTake "I" "iso-8601", taking "r" "reference",
        flag "R" "rfc-email", ⟨"R", some "rfc-2822", .none⟩, wordTaking "rfc-3339", taking "s" "set", flag "u" "utc",
        ⟨"u", some "universal", .none⟩] } args
  let zone ← if g.has "u" then pure Calendar.universal else zone
  let iso ← match g.options.find? fun (k, _) => k == "I" with
    | some (_, some w) => some <$> Options.choice 1 "--iso-8601" standardWords w
    | some (_, none) => pure (some "date")
    | none => pure none
  let plain ← match g.last? "rfc-3339" with
    | some w => some <$> Options.choice 1 "--rfc-3339" [["date"], ["seconds"], ["ns"]] w
    | none => pure none
  let standard : Option String := match plain, iso with
    | some w, _ => some (plainFormat w)
    | none, some w => some (isoFormat w)
    | none, none => if g.has "R" then some "%a, %d %b %Y %H:%M:%S %z" else none
  let sources := ["d", "f", "r"].filter g.has
  if 1 < sources.length then Tool.misuse 1 "the options to specify dates for printing are mutually exclusive"
  let (own, digits) ← match g.operands with
    | [] => pure (none, none)
    | a :: rest => do
      match rest with
      | extra :: _ => Options.extra 1 extra
      | [] => pure ()
      if a.startsWith "+" then
        if standard.isSome then Tool.fail 1 "multiple output formats specified"
        pure (some (a.drop 1).toString, none)
      else if sources ≠ [] ∨ g.has "s" then
        Tool.misuse 1 ("the argument " ++ Quoting.local_ a ++ " lacks a leading '+';\nwhen using an option to specify date(s), "
          ++ "any non-option\nargument must be a format string beginning with '+'")
      else pure (none, some a)
  let form := (own <|> standard).getD "%a %b %e %H:%M:%S %Z %Y"
  let now ← Proc.now
  let seconds : Int := now / perSecond
  let nanos := now % perSecond
  let show_ (t : Int × Nat) : Tool Unit := Tool.emitLine (Calendar.written (Calendar.partsOf zone t.1 t.2) form)
  let named (s : String) : Tool Nat := do
    match Calendar.read zone seconds nanos s with
    | some t =>
      show_ t
      return 0
    | none =>
      Tool.say ("invalid date " ++ Quoting.local_ s)
      return 1
  match g.last? "f", g.last? "r", g.last? "d" <|> g.last? "s", digits with
  | some path, _, _, _ =>
    match ← Tool.contentOf path with
    | .error r => Tool.fail 1 (Quoting.file (if path = "-" then "standard input" else path) ++ ": " ++ r.message)
    | .ok bytes => Tool.worst (fun line => named (Text.Octets.ofBytes line)) (Tool.linesOf 10 bytes).1
  | none, some path, _, _ =>
    let (fs, place) ← Proc.files
    match fs.info true place (Text.Octets.toText path) with
    | .ok (_, i) =>
      show_ ((i.modified / perSecond : Nat), i.modified % perSecond)
      return 0
    | .error r => Tool.fail 1 (Quoting.file path ++ ": " ++ r.message)
  | none, none, some s, _ => named s
  | none, none, none, some a =>
    match Calendar.readDigits zone seconds true a with
    | some t =>
      show_ (t, 0)
      return 0
    | none => Tool.fail 1 ("invalid date " ++ Quoting.local_ a)
  | none, none, none, none =>
    show_ (seconds, nanos)
    return 0

end TaskRunner.Tools.Dates
