import TaskRunner.Calendar.Written

/-!
# Times from words

What a person may write for a time: dates, times of the day, names of days and months, zones, and distances
from other times.
-/

namespace TaskRunner.Calendar

/-- A word, a number or a sign in a time. -/
inductive Token where
  | word (s : String)
  /-- A number with its sign, its digits, and the billionths after a point. -/
  | number (sign : Option Bool) (digits : List Char) (nanos : Option Nat)
  | sign (c : Char)

/-- What has been read of a time. -/
structure Found where
  seconds : Option (Int × Nat) := none
  date : Option (Int × Int × Int) := none
  /-- A day of a month of a year that is not said yet. -/
  monthDay : Option (Int × Int) := none
  time : Option (Nat × Nat × Nat × Nat) := none
  zone : Option Int := none
  weekday : Option (Int × Nat) := none
  years : Int := 0
  months : Int := 0
  days : Int := 0
  shift : Int := 0
  /-- Whether there was a distance. -/
  related : Bool := false

/-- Cuts a text into tokens. -/
def tokens : Nat → List Char → Option (List Token)
  | 0, _ => some []
  | _, [] => some []
  | n + 1, c :: rest =>
    let billionths (cs : List Char) : Nat := Decimal.natOf 10 ((cs ++ List.replicate 9 '0').take 9)
    let number (sign : Option Bool) (cs : List Char) : Option (List Token) :=
      let (digits, after) := cs.span Char.isDigit
      match after with
      | '.' :: d :: more =>
        if d.isDigit then
          let (fraction, after) := (d :: more).span Char.isDigit
          (tokens n after).map (.number sign digits (some (billionths fraction)) :: ·)
        else (tokens n after).map (.number sign digits none :: ·)
      | _ => (tokens n after).map (.number sign digits none :: ·)
    if c = ' ' ∨ c = '\t' ∨ c = '\n' then tokens n rest
    else if c.isDigit then number none (c :: rest)
    else if c = '+' ∨ c = '-' then
      match rest.dropWhile (· == ' ') with
      | d :: more => if d.isDigit then number (some (c == '-')) (d :: more) else tokens n rest
      | [] => some []
    else if c.isAlpha then
      let (word, after) := (c :: rest).span fun c => c.isAlpha || c == '.'
      (tokens n after).map (.word ((String.ofList (word.filter (· != '.'))).toLower) :: ·)
    else if c = '(' then tokens n ((rest.dropWhile (· != ')')).drop 1)
    else (tokens n rest).map (.sign c :: ·)

/-- The number of a month by its name, perhaps cut short. -/
def monthOf? (s : String) : Option Nat :=
  (monthNames.findIdx? fun m => m.toLower == s || (m.toLower.take 3).toString == s || (s == "sept" && m == "September")).map (· + 1)

/-- The number of a day by its name, perhaps cut short. -/
def weekdayOf? (s : String) : Option Nat :=
  dayNames.findIdx? fun d => d.toLower == s || (d.toLower.take 3).toString == s || (s.length == 4 && d.toLower.startsWith s)

/-- How a number of a unit moves a time. -/
def unitOf? (s : String) : Option (Found → Int → Found) :=
  let one := if s.endsWith "s" ∧ 3 < s.length then (s.dropEnd 1).toString else s
  match one with
  | "year" => some fun f n => { f with years := f.years + n, related := true }
  | "month" => some fun f n => { f with months := f.months + n, related := true }
  | "fortnight" => some fun f n => { f with days := f.days + 14 * n, related := true }
  | "week" => some fun f n => { f with days := f.days + 7 * n, related := true }
  | "day" => some fun f n => { f with days := f.days + n, related := true }
  | "hour" => some fun f n => { f with shift := f.shift + 3600 * n, related := true }
  | "minute" | "min" => some fun f n => { f with shift := f.shift + 60 * n, related := true }
  | "second" | "sec" => some fun f n => { f with shift := f.shift + n, related := true }
  | _ => none

/-- The number that a word stands for. -/
def ordinalOf? : String → Option Int
  | "last" => some (-1)
  | "this" => some 0
  | "next" | "first" => some 1
  | "third" => some 3
  | "fourth" => some 4
  | "fifth" => some 5
  | "sixth" => some 6
  | "seventh" => some 7
  | "eighth" => some 8
  | "ninth" => some 9
  | "tenth" => some 10
  | "eleventh" => some 11
  | "twelfth" => some 12
  | _ => none

/-- How many seconds the clocks of a named zone are ahead. -/
def namedZone? : String → Option Int
  | "utc" | "gmt" | "ut" | "z" | "wet" => some 0
  | "est" => some (-5 * 3600)
  | "edt" => some (-4 * 3600)
  | "cst" => some (-6 * 3600)
  | "cdt" => some (-5 * 3600)
  | "mst" => some (-7 * 3600)
  | "mdt" => some (-6 * 3600)
  | "pst" => some (-8 * 3600)
  | "pdt" => some (-7 * 3600)
  | "cet" | "met" | "bst" => some 3600
  | "cest" | "eet" | "mest" => some 7200
  | "msk" => some 10800
  | "jst" => some 32400
  | s => match s.toList with
    | [c] =>
      if 'a' ≤ c ∧ c ≤ 'i' then some ((c.toNat - 96 : Nat) * 3600)
      else if 'k' ≤ c ∧ c ≤ 'm' then some ((c.toNat - 97 : Nat) * 3600)
      else if 'n' ≤ c ∧ c ≤ 'y' then some (-((c.toNat - 109 : Nat) : Int) * 3600)
      else none
    | _ => none

/-- A year by its digits: two of them are of this or the last century. -/
def yearOf (digits : List Char) : Int :=
  let n := Decimal.natOf 10 digits
  if 2 < digits.length then n else if n < 69 then n + 2000 else n + 1900

/-- The hours of a clock with two halves of a day. -/
def hourOf? (h : Nat) (half : String) : Option Nat :=
  if h = 0 ∨ 12 < h then none else some (h % 12 + if half = "pm" then 12 else 0)

/-- A zone by a sign and digits: hours, or hours and minutes. -/
def aheadOf (negative : Bool) (digits : List Char) (minutes : Option (List Char)) : Option Int :=
  let n := Decimal.natOf 10 digits
  let total : Nat := match minutes with
    | some m => n * 60 + Decimal.natOf 10 m
    | none => if digits.length ≤ 2 then n * 60 else n / 100 * 60 + n % 100
  if 24 * 60 < total then none else some ((if negative then -(total : Int) else total) * 60)

/-- Reads the next item, onto what has been found; gives the tokens after it. -/
def readItem (f : Found) (ts : List Token) : Option (Found × List Token) :=
  let setDate (f : Found) (y m d : Int) : Option Found :=
    if f.date.isSome ∨ f.monthDay.isSome then none else some { f with date := some (y, m, d) }
  let setTime (f : Found) (h m s nanos : Nat) : Option Found :=
    if f.time.isSome ∨ 23 < h ∨ 59 < m ∨ 59 < s then none else some { f with time := some (h, m, s, nanos) }
  let setZone (f : Found) (z : Int) : Option Found := if f.zone.isSome then none else some { f with zone := some z }
  -- What may follow the minutes or seconds of a time.
  let afterTime (f : Found) (ts : List Token) : Option (Found × List Token) :=
    match ts with
    | .number (some negative) ds none :: .sign ':' :: .number none ms none :: rest =>
      (aheadOf negative ds (some ms)).bind fun z => (setZone f z).bind fun f => some (f, rest)
    | .number (some negative) ds none :: rest =>
      (aheadOf negative ds none).bind fun z => (setZone f z).bind fun f => some (f, rest)
    | ts => some (f, ts)
  let related (apply : Found → Int → Found) (k : Int) (rest : List Token) : Option (Found × List Token) :=
    match rest with
    | .word "ago" :: rest => some (apply f (-k), rest)
    | .word "hence" :: rest => some (apply f k, rest)
    | rest => some (apply f k, rest)
  let signed (sign : Option Bool) (ds : List Char) : Int :=
    if sign = some true then -(Decimal.natOf 10 ds : Int) else Decimal.natOf 10 ds
  match ts with
  | .sign '@' :: .number sign ds nanos :: [] =>
    let k := signed sign ds
    let part := nanos.getD 0
    some ({ f with seconds := some (if sign = some true ∧ part ≠ 0 then (k - 1, 1000000000 - part) else (k, part)) }, [])
  | .number none y none :: .number (some true) m none :: .number (some true) d none :: rest =>
    (setDate f (yearOf y) (Decimal.natOf 10 m) (Decimal.natOf 10 d)).bind fun f =>
      match rest with
      | .word "t" :: rest => some (f, rest)
      | rest => some (f, rest)
  | .number none d none :: .word w :: .number (some true) y none :: rest =>
    match monthOf? w with
    | some m => (setDate f (yearOf y) m (Decimal.natOf 10 d)).bind fun f => some (f, rest)
    | none => match unitOf? w with
      | some apply => related apply (Decimal.natOf 10 d) (.number (some true) y none :: rest)
      | none => none
  | .number none a none :: .sign '/' :: .number none b none :: .sign '/' :: .number none c none :: rest =>
    let found := if 4 ≤ a.length then setDate f (yearOf a) (Decimal.natOf 10 b) (Decimal.natOf 10 c)
      else setDate f (yearOf c) (Decimal.natOf 10 a) (Decimal.natOf 10 b)
    found.bind fun f => some (f, rest)
  | .number none a none :: .sign '/' :: .number none b none :: rest =>
    if f.monthDay.isSome ∨ f.date.isSome then none
    else some ({ f with monthDay := some (Decimal.natOf 10 a, Decimal.natOf 10 b) }, rest)
  | .number none h none :: .sign ':' :: .number none m none :: .sign ':' :: .number none s nanos :: .word half :: rest =>
    if half = "am" ∨ half = "pm" then
      (hourOf? (Decimal.natOf 10 h) half).bind fun h =>
        (setTime f h (Decimal.natOf 10 m) (Decimal.natOf 10 s) (nanos.getD 0)).bind fun f => some (f, rest)
    else (setTime f (Decimal.natOf 10 h) (Decimal.natOf 10 m) (Decimal.natOf 10 s) (nanos.getD 0)).bind fun f =>
      some (f, .word half :: rest)
  | .number none h none :: .sign ':' :: .number none m none :: .sign ':' :: .number none s nanos :: rest =>
    (setTime f (Decimal.natOf 10 h) (Decimal.natOf 10 m) (Decimal.natOf 10 s) (nanos.getD 0)).bind fun f => afterTime f rest
  | .number none h none :: .sign ':' :: .number none m none :: .word half :: rest =>
    if half = "am" ∨ half = "pm" then
      (hourOf? (Decimal.natOf 10 h) half).bind fun h =>
        (setTime f h (Decimal.natOf 10 m) 0 0).bind fun f => some (f, rest)
    else (setTime f (Decimal.natOf 10 h) (Decimal.natOf 10 m) 0 0).bind fun f => some (f, .word half :: rest)
  | .number none h none :: .sign ':' :: .number none m none :: rest =>
    (setTime f (Decimal.natOf 10 h) (Decimal.natOf 10 m) 0 0).bind fun f => afterTime f rest
  | .number sign ds none :: .word w :: rest =>
    let k := signed sign ds
    match monthOf? w, sign with
    | some m, none =>
      match rest with
      | .number none y none :: more =>
        let isTime : Bool := match more with
          | .sign ':' :: _ => true
          | _ => false
        if 2 < y.length ∧ ¬ isTime then
          (setDate f (yearOf y) m k).bind fun f => some (f, more)
        else if f.monthDay.isSome ∨ f.date.isSome then none
        else some ({ f with monthDay := some (m, k) }, rest)
      | rest => if f.monthDay.isSome ∨ f.date.isSome then none else some ({ f with monthDay := some (m, k) }, rest)
    | _, _ =>
      match unitOf? w with
      | some apply => related apply k rest
      | none =>
        if (w = "am" ∨ w = "pm") ∧ sign = none then
          (hourOf? (Decimal.natOf 10 ds) w).bind fun h => (setTime f h 0 0 0).bind fun f => some (f, rest)
        else match weekdayOf? w, sign with
          | some d, none => if f.weekday.isSome then none else some ({ f with weekday := some (k, d) }, rest)
          | _, _ => if sign = none then plain f ds (.word w :: rest) else none
  | .number none ds none :: rest => plain f ds rest
  | .word w :: rest =>
    match monthOf? w with
    | some m =>
      match rest with
      | .number none d none :: .sign ',' :: .number none y none :: rest =>
        (setDate f (yearOf y) m (Decimal.natOf 10 d)).bind fun f => some (f, rest)
      | .number none d none :: .number none y none :: rest =>
        let isTime : Bool := match rest with
          | .sign ':' :: _ => true
          | _ => false
        if y.length = 4 ∧ ¬ isTime then (setDate f (yearOf y) m (Decimal.natOf 10 d)).bind fun f => some (f, rest)
        else if f.monthDay.isSome ∨ f.date.isSome then none
        else some ({ f with monthDay := some (m, Decimal.natOf 10 d) }, .number none y none :: rest)
      | .number (some true) d none :: .number (some true) y none :: rest =>
        (setDate f (yearOf y) m (Decimal.natOf 10 d)).bind fun f => some (f, rest)
      | .number none d none :: rest =>
        if f.monthDay.isSome ∨ f.date.isSome then none
        else some ({ f with monthDay := some (m, Decimal.natOf 10 d) }, rest)
      | _ => none
    | none =>
      match w with
      | "now" | "today" => some ({ f with related := true }, rest)
      | "yesterday" => some ({ f with days := f.days - 1, related := true }, rest)
      | "tomorrow" => some ({ f with days := f.days + 1, related := true }, rest)
      | w =>
        match ordinalOf? w, rest with
        | some k, .word u :: more =>
          match unitOf? u, weekdayOf? u with
          | some apply, _ => related apply k more
          | none, some d => if f.weekday.isSome then none else some ({ f with weekday := some (k, d) }, more)
          | none, none => none
        | _, _ =>
          match unitOf? w with
          | some apply => related apply 1 rest
          | none => match weekdayOf? w with
            | some d =>
              let rest := match rest with
                | .sign ',' :: rest => rest
                | rest => rest
              if f.weekday.isSome then none else some ({ f with weekday := some (0, d) }, rest)
            | none => match namedZone? w with
              | some z => (setZone f z).bind fun f => afterZone f rest
              | none => if w = "t" then some (f, rest) else none
  | _ => none
where
  /-- A number that stands alone: a year, a day, or a time. -/
  plain (f : Found) (ds : List Char) (rest : List Token) : Option (Found × List Token) :=
    match f.monthDay with
    | some (m, d) =>
      if ¬ f.related ∧ (f.time.isSome ∨ 2 < ds.length) then
        some ({ f with date := some (yearOf ds, m, d), monthDay := none }, rest)
      else clock f ds rest
    | none =>
      if 4 < ds.length then
        let size := ds.length
        if f.date.isSome then none
        else some ({ f with date := some (yearOf (ds.take (size - 4)), Decimal.natOf 10 ((ds.drop (size - 4)).take 2),
          Decimal.natOf 10 (ds.drop (size - 2))) }, rest)
      else clock f ds rest
  /-- Hours, or hours and minutes, without a sign between them. -/
  clock (f : Found) (ds : List Char) (rest : List Token) : Option (Found × List Token) :=
    let k := Decimal.natOf 10 ds
    let (h, m) := if ds.length ≤ 2 then (k, 0) else (k / 100, k % 100)
    if f.time.isSome ∨ 23 < h ∨ 59 < m ∨ 4 < ds.length then none else some ({ f with time := some (h, m, 0, 0) }, rest)
  /-- What may follow the name of a zone. -/
  afterZone (f : Found) (rest : List Token) : Option (Found × List Token) :=
    match rest with
    | .number (some negative) ds none :: .word w :: rest =>
      if (unitOf? w).isSome then some (f, .number (some negative) ds none :: .word w :: rest)
      else (aheadOf negative ds none).bind fun z => some ({ f with zone := some (f.zone.getD 0 + z) }, .word w :: rest)
    | .number (some negative) ds none :: rest =>
      (aheadOf negative ds none).bind fun z => some ({ f with zone := some (f.zone.getD 0 + z) }, rest)
    | rest => some (f, rest)

/-- Reads tokens, onto what has been found. -/
def readTokens : Nat → Found → List Token → Option Found
  | 0, _, _ => none
  | _, f, [] => some f
  | n + 1, f, ts => (readItem f ts).bind fun (f, rest) => readTokens n f rest

/-- The time that was found, given the zone and the time now. -/
def timeOf (zone : Zone) (now : Int) (nanosNow : Nat) (f : Found) : Option (Int × Nat) := do
  match f.seconds with
  | some found => some found
  | none =>
    let today := partsOf zone now nanosNow
    let date : Int × Int × Int := match f.date, f.monthDay with
      | some d, _ => d
      | none, some (m, d) => (today.year, m, d)
      | none, none => (today.year, today.month, today.day)
    let (y, m, d) := date
    let base := dayOf y m d
    let isDay : Bool := civilOf base == (y, m.toNat, d.toNat) && 0 < m && 0 < d
    if ¬ isDay then none
    else
      let dated := f.date.isSome || f.monthDay.isSome
      let keepsTime := f.related && !dated && f.weekday.isNone
      let (h, mi, s, nanos) : Nat × Nat × Nat × Nat := match f.time with
        | some t => t
        | none => if keepsTime then (today.ofDay / 3600, today.ofDay / 60 % 60, today.ofDay % 60, nanosNow) else (0, 0, 0, 0)
      let base : Int := match f.weekday with
        | some (k, w) =>
          if dated then base
          else
            let away : Int := ((w + 7 - weekdayOf base) % 7 : Nat)
            base + away + 7 * (k - if 0 < k ∧ w ≠ weekdayOf base then 1 else 0)
        | none => base
      let (y, m, d) := civilOf base
      let day := dayOf (y + f.years) (m + f.months) d + f.days
      let local_ : Int := day * 86400 + (h * 3600 + mi * 60 + s : Nat)
      let base ← match f.zone with
        | some ahead => some (local_ - ahead)
        | none => zone.timeOf local_
      some (base + f.shift, nanos)

/-- The zone that a time names in front, between marks, and what follows; the zone given if it names none. -/
def zoneBefore (zone : Zone) (s : String) : Zone × String :=
  let text := s.trimAsciiStart.toString
  if text.startsWith "TZ=\x22" then
    let rec go (read : List Char) : List Char → Option (List Char × List Char)
      | '\x5c' :: c :: rest => go (c :: read) rest
      | '\x22' :: rest => some (read.reverse, rest)
      | c :: rest => go (c :: read) rest
      | [] => none
    match go [] (text.toList.drop 4) with
    | some (name, rest) => (zoneOf (some (String.ofList name)), String.ofList rest)
    | none => (zone, s)
  else (zone, s)

/-- Reads a time. -/
def read (zone : Zone) (now : Int) (nanosNow : Nat) (s : String) : Option (Int × Nat) := do
  let (zone, s) := zoneBefore zone s
  let ts ← tokens (s.length + 1) s.toList
  let f ← readTokens (ts.length + 1) {} ts
  timeOf zone now nanosNow f

/-- Reads a time that is written as digits: month, day, hour and minute, perhaps after or before a year, and seconds
after a point. -/
def readDigits (zone : Zone) (now : Int) (yearLast : Bool) (s : String) : Option Int := do
  let (digits, rest) := s.toList.span Char.isDigit
  let seconds ← match rest with
    | [] => some 0
    | '.' :: ds => if ds.length = 2 ∧ ds.all Char.isDigit then some (Decimal.natOf 10 ds) else none
    | _ => none
  let extra := digits.length - 8
  if digits.length < 8 ∨ ¬ [0, 2, 4].contains extra then none
  else
    let (year, rest) := if yearLast then (digits.drop 8, digits.take 8) else (digits.take extra, digits.drop extra)
    let y : Int := if year = [] then (partsOf zone now 0).year else yearOf year
    let part (i : Nat) : Nat := Decimal.natOf 10 ((rest.drop (2 * i)).take 2)
    let (m, d, h, mi) := (part 0, part 1, part 2, part 3)
    let day := dayOf y m d
    if civilOf day ≠ (y, m, d) ∨ 23 < h ∨ 59 < mi ∨ 60 < seconds then none
    else zone.timeOf (day * 86400 + (h * 3600 + mi * 60 + seconds : Nat))

end TaskRunner.Calendar
