import TaskRunner.Calendar.Written
import TaskRunner.Shell.Options

/-!
# Prompts

A prompt is a text in which a backslash and a letter stand for what is going on: the user, the directory,
the time, and so on. What parameters and commands in it stand for is found afterwards.
-/

namespace TaskRunner.Shell.Prompts

/-- A directory with a tilde for the one that is home, and only its last names if there are to be no more. -/
def shortened (s : State) (path : String) : String :=
  let home := Sh.valueOf s "HOME"
  let path :=
    if home = "" ∨ home = "/" then path
    else if path = home then "~"
    else if path.startsWith (home ++ "/") then "~" ++ (path.drop home.length).toString
    else path
  match (Sh.value? s "PROMPT_DIRTRIM").bind String.toNat? with
  | none | some 0 => path
  | some n =>
    let (lead, names) := if path.startsWith "~" then ("~/", (path.splitOn "/").drop 1) else ("", (path.splitOn "/").drop 1)
    if names.length ≤ n then path else lead ++ ".../" ++ "/".intercalate (names.drop (names.length - n))

/-- A text that stands for itself although what follows is looked for in it. -/
def guarded (text : String) : String :=
  String.join (text.toList.map fun c =>
    if c = '$' ∨ c = '\x60' ∨ c = '\x5c' ∨ c = '\x22' then "\\" ++ String.singleton c else String.singleton c)

/-- The last name of a path. -/
def lastName (path : String) : String := ((path.splitOn "/").getLast?).getD path

/-- What a letter after a backslash stands for. -/
def letter (s : State) (parts : Calendar.Parts) : Char → Option String
  | 'a' => some "\x07"
  | 'e' => some "\x1b"
  | 'n' => some "\n"
  | 'r' => some "\r"
  | 'd' => some (Calendar.written parts "%a %b %d")
  | 't' => some (Calendar.written parts "%H:%M:%S")
  | 'T' => some (Calendar.written parts "%I:%M:%S")
  | '@' => some (Calendar.written parts "%I:%M %p")
  | 'A' => some (Calendar.written parts "%H:%M")
  | 's' => some (guarded (lastName s.zero))
  | 'v' => some "5.2"
  | 'V' => some "5.2.15"
  | 'u' => some "root"
  | 'h' => some (((Sh.valueOf s "HOSTNAME").splitOn ".").headD "")
  | 'H' => some (Sh.valueOf s "HOSTNAME")
  | 'w' => some (guarded (shortened s s.directory))
  | 'W' =>
    let path := shortened s s.directory
    some (guarded (if path = "~" ∨ path = "/" ∨ path = "//" then path else lastName path))
  | '!' => some "1"
  | '#' => some "0"
  | '$' => some "#"
  | 'j' => some (toString s.jobs.length)
  | 'l' => some "tty"
  | '[' | ']' => some ""
  | _ => none

/-- A prompt with what its letters stand for. -/
def decode (s : State) (now : Nat) (text : String) : String :=
  let parts := Calendar.partsOf (Calendar.zoneOf (Sh.exportedValue? s "TZ")) (now / 1000000000 : Nat) 0
  go parts (text.length + 1) text.toList
where
  /-- Goes through the text. -/
  go (parts : Calendar.Parts) : Nat → List Char → String
    | 0, _ => ""
    | _, [] => ""
    | n + 1, '\x5c' :: rest =>
      match rest with
      | [] => "\\"
      | '\x5c' :: rest => "\\" ++ go parts n rest
      | 'D' :: '\x7b' :: rest =>
        let (form, after) := rest.span (· != '\x7d')
        Calendar.written parts (if form = [] then "%X" else String.ofList form) ++ go parts n (after.drop 1)
      | c :: rest =>
        let isOctal (c : Char) : Bool := '0' ≤ c && c ≤ '7'
        if isOctal c then
          let digits := (c :: rest).take 3 |>.takeWhile isOctal
          String.singleton (Char.ofNat (Decimal.natOf 8 digits % 256)) ++ go parts n ((c :: rest).drop digits.length)
        else match letter s parts c with
          | some text => text ++ go parts n rest
          | none => "\\" ++ String.singleton c ++ go parts n rest
    | n + 1, c :: rest => String.singleton c ++ go parts n rest

end TaskRunner.Shell.Prompts
