import TaskRunner.Calendar.Places
import TaskRunner.Decimal.Digits

/-!
# Times by a format

A time is a number of seconds from the beginning of 1970. Its parts are what its clocks and calendar say in
a zone, and a format says which of them are written, and how.
-/

namespace TaskRunner.Calendar

/-!
## Zones

What the clocks of a zone show at a time, and which time it is when they show something. A zone is named, or
described by the names of its clocks, how far they are behind, and the days on which they are changed.
-/

/-! ## Clocks at a time -/

/-- The day in a year on which a change comes. -/
def ChangeDay.dayIn (year : Int) : ChangeDay → Int
  | .ordinal n => dayOf year 1 1 + n
  | .julian n =>
    let isLeap := dayOf year 3 1 - dayOf year 2 1 == 29
    dayOf year 1 1 + n - 1 + (if isLeap ∧ 60 ≤ n then 1 else 0)
  | .weekday month week ofWeek =>
    let first := dayOf year month 1
    let start := first + ((ofWeek + 7 - weekdayOf first) % 7 : Nat)
    let last := dayOf year (month + 1) 1
    let day := start + 7 * ((week : Int) - 1)
    if last ≤ day then day - 7 else day
  | .onOrAfter month day ofWeek =>
    let first := dayOf year month day
    first + ((ofWeek + 7 - weekdayOf first) % 7 : Nat)

/-- The time of a change in a year, by clocks that are ahead by so much before it. -/
def Change.timeIn (year ahead : Int) (c : Change) : Int :=
  c.day.dayIn year * 86400 + c.time - (if c.isUniversal then 0 else ahead)

/-- The clock that holds when there is no summer time. -/
def Zone.standardAt (z : Zone) (time : Int) : Clock :=
  (z.steps.foldl (fun clock (start, next) => if start ≤ time then next else clock) z.first)

/-- The clock at a time. -/
def Zone.clockAt (z : Zone) (time : Int) : Clock :=
  let standard := z.standardAt time
  let (year, _, _) := civilOf ((time + standard.ahead).fdiv 86400)
  match z.seasons.find? fun s => s.first ≤ year && s.last.all (year ≤ ·) with
  | none => standard
  | some s =>
    let start := s.start.timeIn year standard.ahead
    let finish := s.finish.timeIn year s.clock.ahead
    let isSummer := if start ≤ finish then start ≤ time && time < finish else start ≤ time || time < finish
    if isSummer then s.clock else standard

/-- The time at which clocks show what they would show at a time of the prime meridian; none if they never do. -/
def Zone.timeOf (z : Zone) (shown : Int) : Option Int :=
  let go (t : Int) : Int := shown - (z.clockAt t).ahead
  let one := go shown
  let two := go one
  if one = two then some one
  else
    let three := go two
    if two = three then some two else none

/-! ## Descriptions -/

/-- The name of a clock at the beginning of a description, and what follows. -/
def clockName (cs : List Char) : Option (String × List Char) :=
  match cs with
  | '<' :: rest =>
    match rest.span (· != '>') with
    | (name, _ :: after) => some (String.ofList name, after)
    | _ => none
  | cs =>
    let (name, after) := cs.span Char.isAlpha
    if name.length < 3 then none else some (String.ofList name, after)

/-- Hours, minutes and seconds at the beginning of a text, and what follows. -/
def clockTime (cs : List Char) : Option (Int × List Char) :=
  let (negative, cs) := match cs with
    | '-' :: rest => (true, rest)
    | '+' :: rest => (false, rest)
    | rest => (false, rest)
  let (hours, rest) := cs.span Char.isDigit
  if hours = [] then none
  else
    let part (cs : List Char) : Nat × List Char := match cs with
      | ':' :: rest => let (ds, after) := rest.span Char.isDigit; (Decimal.natOf 10 ds, after)
      | cs => (0, cs)
    let (minutes, rest) := part rest
    let (seconds, rest) := part rest
    let total : Int := min (Decimal.natOf 10 hours) 24 * 3600 + min minutes 59 * 60 + min seconds 59
    some (if negative then -total else total, rest)

/-- A change at the beginning of a text, and what follows. -/
def changeAt (cs : List Char) : Option (Change × List Char) := do
  let number (cs : List Char) : Option (Nat × List Char) :=
    let (ds, after) := cs.span Char.isDigit
    if ds = [] then none else some (Decimal.natOf 10 ds, after)
  let dot (cs : List Char) : Option (List Char) := match cs with
    | '.' :: rest => some rest
    | _ => none
  let (day, rest) ← match cs with
    | 'M' :: rest => do
      let (month, rest) ← number rest
      let (week, rest) ← number (← dot rest)
      let (weekday, rest) ← number (← dot rest)
      some (ChangeDay.weekday month week weekday, rest)
    | 'J' :: rest => (number rest).map fun (n, rest) => (ChangeDay.julian n, rest)
    | rest => (number rest).map fun (n, rest) => (ChangeDay.ordinal n, rest)
  match rest with
  | '/' :: rest => (clockTime rest).map fun (time, rest) => (⟨day, time, false⟩, rest)
  | rest => some (⟨day, 7200, false⟩, rest)

/-- The zone that a text describes. What makes no sense is left out. -/
def zoneFrom (text : String) : Zone :=
  match clockName text.toList with
  | none => { first := ⟨"", 0⟩ }
  | some (name, rest) =>
    match clockTime rest with
    | none => { first := ⟨name, 0⟩ }
    | some (behind, rest) =>
      let standard : Clock := ⟨name, -behind⟩
      match clockName rest with
      | none => { first := standard }
      | some (name, rest) =>
        let (ahead, rest) := match clockTime rest with
          | some (behind, rest) => (-behind, rest)
          | none => (standard.ahead + 3600, rest)
        let usual : Change × Change := (americanStart, americanFinish)
        let changes : Change × Change := match rest with
          | ',' :: rest =>
            match changeAt rest with
            | some (start, ',' :: rest) => match changeAt rest with
              | some (finish, _) => (start, finish)
              | none => usual
            | _ => usual
          | _ => usual
        { first := standard, seasons := [⟨-100000, none, ⟨name, ahead⟩, changes.1, changes.2⟩] }

/-- The zone that a setting names. -/
def zoneOf (setting : Option String) : Zone :=
  match setting with
  | none | some "" | some ":" => universal
  | some s =>
    let name := if s.startsWith ":" then (s.drop 1).toString else s
    (place? name).getD (zoneFrom name)

/-! ## Times -/

/-- A time taken apart. -/
structure Parts where
  seconds : Int
  nanos : Nat
  clock : Clock
  days : Int
  year : Int
  month : Nat
  day : Nat
  /-- The second of the day. -/
  ofDay : Nat

/-- Takes a time apart. -/
def partsOf (zone : Zone) (seconds : Int) (nanos : Nat) : Parts :=
  let clock := zone.clockAt seconds
  let local_ := seconds + clock.ahead
  let days := local_.fdiv 86400
  let (year, month, day) := civilOf days
  ⟨seconds, nanos, clock, days, year, month, day, (local_.fmod 86400).toNat⟩

/-- What is written for a letter: a text; or a number with its places and what fills them. -/
inductive Piece where
  | text (s : String)
  | number (n : Int) (width : Nat) (fill : Char)
  /-- Other letters. -/
  | format (s : String)

/-- A number with two places. -/
def two (n : Nat) : Piece := .number n 2 '0'

/-- How far clocks are ahead, with so many colons. -/
def aheadText (clock : Clock) (colons : Nat) : String :=
  let pad (n : Nat) : String := (if n < 10 then "0" else "") ++ toString n
  let n := clock.ahead.natAbs
  let (h, m, s) := (pad (n / 3600), pad (n / 60 % 60), pad (n % 60))
  (if clock.ahead < 0 then "-" else "+") ++ match colons with
    | 0 => h ++ m
    | 1 => h ++ ":" ++ m
    | 2 => h ++ ":" ++ m ++ ":" ++ s
    | _ => h ++ (if n / 60 % 60 = 0 ∧ n % 60 = 0 then "" else ":" ++ m)

/-- What a letter stands for. -/
def pieceOf (p : Parts) (colons : Nat) : Char → Option Piece
  | 'a' => some (.text (((dayNames[weekdayOf p.days]?).getD "").take 3).toString)
  | 'A' => some (.text ((dayNames[weekdayOf p.days]?).getD ""))
  | 'b' | 'h' => some (.text (((monthNames[p.month - 1]?).getD "").take 3).toString)
  | 'B' => some (.text ((monthNames[p.month - 1]?).getD ""))
  | 'c' => some (.format "%a %b %e %H:%M:%S %Y")
  | 'C' => some (.number (p.year.fdiv 100) 2 '0')
  | 'd' => some (two p.day)
  | 'D' | 'x' => some (.format "%m/%d/%y")
  | 'e' => some (.number p.day 2 ' ')
  | 'F' => some (.format "%Y-%m-%d")
  | 'g' => some (.number ((weekOf p.days).1.fmod 100) 2 '0')
  | 'G' => some (.number (weekOf p.days).1 4 '0')
  | 'H' => some (two (p.ofDay / 3600))
  | 'I' => some (two ((p.ofDay / 3600 + 11) % 12 + 1))
  | 'j' => some (.number (p.days - dayOf p.year 1 1 + 1) 3 '0')
  | 'k' => some (.number (p.ofDay / 3600 : Nat) 2 ' ')
  | 'l' => some (.number ((p.ofDay / 3600 + 11) % 12 + 1 : Nat) 2 ' ')
  | 'm' => some (two p.month)
  | 'M' => some (two (p.ofDay / 60 % 60))
  | 'n' => some (.text "\n")
  | 'p' => some (.text (if p.ofDay < 43200 then "AM" else "PM"))
  | 'P' => some (.text (if p.ofDay < 43200 then "am" else "pm"))
  | 'q' => some (.number ((p.month + 2) / 3 : Nat) 1 '0')
  | 'r' => some (.format "%I:%M:%S %p")
  | 'R' => some (.format "%H:%M")
  | 's' => some (.number p.seconds 1 '0')
  | 'S' => some (two (p.ofDay % 60))
  | 't' => some (.text "\t")
  | 'T' | 'X' => some (.format "%H:%M:%S")
  | 'u' => some (.number ((weekdayOf p.days + 6) % 7 + 1 : Nat) 1 '0')
  | 'U' => some (.number ((p.days - dayOf p.year 1 1 + 7 - weekdayOf p.days) / 7) 2 '0')
  | 'V' => some (.number (weekOf p.days).2 2 '0')
  | 'w' => some (.number (weekdayOf p.days) 1 '0')
  | 'W' => some (.number ((p.days - dayOf p.year 1 1 + 7 - ((weekdayOf p.days + 6) % 7 : Nat)) / 7) 2 '0')
  | 'y' => some (.number (p.year.fmod 100) 2 '0')
  | 'Y' => some (.number p.year 4 '0')
  | 'z' => some (.text (aheadText p.clock colons))
  | 'Z' => some (.text p.clock.name)
  | '%' => some (.text "%")
  | _ => none

/-- Fills a text up to a number of places. -/
def fill (c : Char) (width : Nat) (s : String) : String := String.ofList (List.replicate (width - s.length) c) ++ s

/-- Writes a time by a format. -/
def format (p : Parts) : Nat → List Char → String
  | 0, _ => ""
  | _, [] => ""
  | n + 1, c :: rest =>
    if c ≠ '%' then String.singleton c ++ format p n rest
    else
      let (flags, after) := rest.span fun c => ['-', '_', '0', '^', '#', '+'].contains c
      let (digits, after) := after.span Char.isDigit
      let (colons, after) := after.span (· == ':')
      let after := match after with
        | 'E' :: d :: more | 'O' :: d :: more => if d.isAlpha then d :: more else after
        | after => after
      let width : Option Nat := if digits = [] then none else some (Decimal.natOf 10 digits)
      let filler := flags.reverse.find? fun c => c == '-' || c == '_' || c == '0' || c == '+'
      let cased (letter : Char) (s : String) : String :=
        if flags.contains '^' then s.toUpper
        else if flags.contains '#' then (if letter = 'p' ∨ letter = 'Z' then s.toLower else s.toUpper)
        else s
      match after with
      | [] => String.ofList (c :: rest)
      | 'N' :: after =>
        let all := fill '0' 9 (toString p.nanos)
        let places := width.getD 9
        (if places ≤ 9 then (all.take places).toString else all ++ String.ofList (List.replicate (places - 9) '0')) ++ format p n after
      | letter :: after =>
        let shown : Option String := match pieceOf p colons.length letter with
          | none => none
          | some (.text s) => some (fill (if filler = some '0' then '0' else ' ') (width.getD 0) (cased letter s))
          | some (.format s) => some (fill (if filler = some '0' then '0' else ' ') (width.getD 0) (cased letter (format p n s.toList)))
          | some (.number k places usual) =>
            let c := match filler with
              | some '_' => ' '
              | some '0' | some '+' => '0'
              | _ => usual
            let places := if filler = some '-' then width.getD 0 else width.getD places
            let digits := toString k.natAbs
            let sign := if k < 0 then "-" else ""
            some (if c = '0' then sign ++ fill '0' (places - sign.length) digits else fill c places (sign ++ digits))
        match shown with
        | some s => s ++ format p n after
        | none => "%" ++ format p n rest

/-- Writes a time by a format. -/
def written (p : Parts) (s : String) : String := format p (4 * s.length + 60) s.toList

end TaskRunner.Calendar
