import TaskRunner.Decimal.Digits

/-!
# Places and their clocks

How far the clocks of places are ahead of those of the prime meridian, what these clocks are called, and
when they are put forward for the summer.
-/

namespace TaskRunner.Calendar

/-!
## Days

A day is a number of days from the beginning of 1970. Here are the year, month and day of a day, and the way
back.
-/

/-- The day of a year, month and day; months and days beyond their ends go on into the next. -/
def dayOf (year : Int) (month day : Int) : Int :=
  let year := year + (month - 1).fdiv 12
  let month := (month - 1).fmod 12 + 1
  -- Years are counted from March, so that the leap day is the last one.
  let y := if month ≤ 2 then year - 1 else year
  let era := y.fdiv 400
  let ofEra := y - era * 400
  let ofYear := (153 * ((month + 9).fmod 12) + 2) / 5 + day - 1
  era * 146097 + ofEra * 365 + ofEra / 4 - ofEra / 100 + ofYear - 719468

/-- The year, month and day of a day. -/
def civilOf (days : Int) : Int × Nat × Nat :=
  let z := days + 719468
  let era := z.fdiv 146097
  let ofEra := z - era * 146097
  let yearOfEra := (ofEra - ofEra / 1460 + ofEra / 36524 - ofEra / 146096) / 365
  let ofYear := ofEra - (365 * yearOfEra + yearOfEra / 4 - yearOfEra / 100)
  let m := (5 * ofYear + 2) / 153
  let day := ofYear - (153 * m + 2) / 5 + 1
  let month := if m < 10 then m + 3 else m - 9
  (yearOfEra + era * 400 + (if month ≤ 2 then 1 else 0), month.toNat, day.toNat)

/-- The day of the week, beginning with Sunday. -/
def weekdayOf (days : Int) : Nat := (days + 4).fmod 7 |>.toNat

/-- The names of the days. -/
def dayNames : List String := ["Sunday", "Monday", "Tuesday", "Wednesday", "Thursday", "Friday", "Saturday"]

/-- The names of the months. -/
def monthNames : List String :=
  ["January", "February", "March", "April", "May", "June", "July", "August", "September", "October", "November", "December"]

/-- The first day of the first week of a year: the week that has its first Thursday. -/
def firstWeek (year : Int) : Int :=
  let fourth := dayOf year 1 4
  fourth - ((weekdayOf fourth + 6) % 7 : Nat)

/-- The year that a day belongs to by its week, and the number of the week. -/
def weekOf (days : Int) : Int × Nat :=
  let (year, _, _) := civilOf days
  let year := if firstWeek (year + 1) ≤ days then year + 1 else if days < firstWeek year then year - 1 else year
  (year, ((days - firstWeek year) / 7).toNat + 1)

/-! ## Clocks -/

/-- A clock: its name, and by how many seconds it is ahead. -/
structure Clock where
  name : String
  ahead : Int
  deriving DecidableEq

/-- The day of a year on which clocks are changed. -/
inductive ChangeDay where
  /-- So many days after the first one. -/
  | ordinal (n : Nat)
  /-- A day by its number in a year without a leap day, the first one being one. -/
  | julian (n : Nat)
  /-- A day of a week of a month; the fifth week is the last one. -/
  | weekday (month week weekday : Nat)
  /-- The first such day of the week from a day of a month on. -/
  | onOrAfter (month day weekday : Nat)

/-- When clocks are changed in a year: a day, and a time by these clocks or by those of the prime meridian. -/
structure Change where
  day : ChangeDay
  time : Int := 7200
  isUniversal : Bool := false

/-- Years in which clocks are put forward for a part of the year. -/
structure Season where
  first : Int
  last : Option Int
  clock : Clock
  start : Change
  finish : Change

/-- A zone: its clocks from times on, and the years in which they are changed. -/
structure Zone where
  first : Clock
  steps : List (Int × Clock) := []
  seasons : List Season := []

/-- The zone of the prime meridian. -/
def universal : Zone := { first := ⟨"UTC", 0⟩ }

/-! ## When clocks are changed -/

/-- The second Sunday of March, as in North America. -/
def americanStart : Change := ⟨.weekday 3 2 0, 7200, false⟩

/-- The first Sunday of November, as in North America. -/
def americanFinish : Change := ⟨.weekday 11 1 0, 7200, false⟩

/-- So many hours. -/
def hours (n : Int) : Int := n * 3600

/-- The years of North America with a summer time. -/
def american (clock : Clock) : List Season :=
  let lastSunday (month : Nat) : Change := ⟨.weekday month 5 0, 7200, false⟩
  [⟨2007, none, clock, americanStart, americanFinish⟩,
    ⟨1987, some 2006, clock, ⟨.weekday 4 1 0, 7200, false⟩, lastSunday 10⟩,
    ⟨1976, some 1986, clock, lastSunday 4, lastSunday 10⟩,
    ⟨1975, some 1975, clock, ⟨.weekday 2 4 0, 7200, false⟩, lastSunday 10⟩,
    ⟨1974, some 1974, clock, ⟨.onOrAfter 1 6 0, 7200, false⟩, lastSunday 10⟩,
    ⟨1967, some 1973, clock, lastSunday 4, lastSunday 10⟩]

/-- A zone of North America by its hours and its names. -/
def americanZone (ahead : Int) (standard summer : String) : Zone :=
  { first := ⟨standard, hours ahead⟩, seasons := american ⟨summer, hours ahead + 3600⟩ }

/-- The last Sunday of a month, at one of the prime meridian, as in Europe. -/
def europeanChange (month : Nat) : Change := ⟨.weekday month 5 0, 3600, true⟩

/-- The years of Europe with a common summer time. -/
def european (first : Int) (clock : Clock) : List Season :=
  [⟨1996, none, clock, europeanChange 3, europeanChange 10⟩,
    ⟨max first 1979, some 1995, clock, europeanChange 3, europeanChange 9⟩]
    ++ if first < 1979 then [⟨1978, some 1978, clock, ⟨.weekday 4 1 0, 3600, true⟩, ⟨.onOrAfter 10 1 0, 3600, true⟩⟩,
      ⟨1977, some 1977, clock, ⟨.weekday 4 1 0, 3600, true⟩, europeanChange 9⟩] else []

/-- A zone of Europe by its hours, its names, and the first year of a summer time. -/
def europeanZone (ahead : Int) (standard summer : String) (first : Int) : Zone :=
  { first := ⟨standard, hours ahead⟩, seasons := european first ⟨summer, hours ahead + 3600⟩ }

/-- The zones of the middle of Europe. -/
def central (first : Int) : Zone := europeanZone 1 "CET" "CEST" first

/-- The zones of the British Isles, whose clocks stayed ahead for some years. -/
def british (summer : String) : Zone :=
  let clock : Clock := ⟨summer, 3600⟩
  { first := clock, steps := [(57722400, ⟨"GMT", 0⟩)]
    seasons :=
      [⟨1996, none, clock, europeanChange 3, europeanChange 10⟩,
        ⟨1990, some 1995, clock, europeanChange 3, ⟨.onOrAfter 10 22 0, 3600, true⟩⟩,
        ⟨1981, some 1989, clock, europeanChange 3, ⟨.onOrAfter 10 23 0, 3600, true⟩⟩,
        ⟨1972, some 1980, clock, ⟨.onOrAfter 3 16 0, 7200, true⟩, ⟨.onOrAfter 10 23 0, 7200, true⟩⟩] }

/-- The years of the southeast of Australia with a summer time. -/
def australian (clock : Clock) : List Season :=
  let sunday (month week : Nat) : Change := ⟨.weekday month week 0, 7200, false⟩
  let finish (month week : Nat) : Change := ⟨.weekday month week 0, 10800, false⟩
  [⟨2008, none, clock, sunday 10 1, finish 4 1⟩, ⟨2001, some 2007, clock, sunday 10 5, finish 3 5⟩,
    ⟨1987, some 2000, clock, sunday 10 5, finish 3 5⟩, ⟨1972, some 1986, clock, sunday 10 5, finish 3 1⟩]

/-- A zone whose clocks are never changed. -/
def fixed (name : String) (ahead : Int) : Zone := { first := ⟨name, ahead⟩ }

/-- The zones of a table, by the names of places. -/
def places : List (List String × Zone) :=
  [(["UTC", "Etc/UTC", "Etc/UCT", "UCT", "Universal", "Etc/Universal", "Zulu", "Etc/Zulu"], universal),
    (["GMT", "Etc/GMT", "GMT0", "Etc/GMT0", "Greenwich", "Etc/Greenwich", "Africa/Abidjan", "Africa/Accra", "Atlantic/Reykjavik",
      "Iceland"], fixed "GMT" 0),
    (["EST", "America/Panama", "America/Jamaica", "Jamaica"], fixed "EST" (hours (-5))),
    (["MST", "America/Phoenix", "US/Arizona"], fixed "MST" (hours (-7))),
    (["HST", "Pacific/Honolulu", "US/Hawaii"], fixed "HST" (hours (-10))),
    (["EST5EDT", "America/New_York", "US/Eastern", "America/Toronto", "Canada/Eastern", "America/Detroit"],
      americanZone (-5) "EST" "EDT"),
    (["CST6CDT", "America/Chicago", "US/Central", "America/Winnipeg", "Canada/Central"], americanZone (-6) "CST" "CDT"),
    (["MST7MDT", "America/Denver", "US/Mountain", "America/Boise", "America/Edmonton"], americanZone (-7) "MST" "MDT"),
    (["PST8PDT", "America/Los_Angeles", "US/Pacific", "America/Vancouver", "Canada/Pacific"], americanZone (-8) "PST" "PDT"),
    (["America/Anchorage", "US/Alaska"],
      ⟨⟨"AHST", hours (-10)⟩, [(436359600, ⟨"YST", hours (-9)⟩), (439030800, ⟨"AKST", hours (-9)⟩)],
        (american ⟨"AKDT", hours (-8)⟩).take 3⟩),
    (["America/Halifax", "Canada/Atlantic"], americanZone (-4) "AST" "ADT"),
    (["America/St_Johns", "Canada/Newfoundland"],
      ⟨⟨"NST", -12600⟩, [],
        american ⟨"NDT", -9000⟩⟩),
    (["America/Sao_Paulo", "Brazil/East", "America/Argentina/Buenos_Aires", "America/Buenos_Aires", "America/Montevideo"],
      fixed "-03" (hours (-3))),
    (["America/Bogota", "America/Lima"], fixed "-05" (hours (-5))),
    (["America/Caracas", "America/La_Paz"], fixed "-04" (hours (-4))),
    (["America/Mexico_City", "Mexico/General"],
      ⟨⟨"CST", hours (-6)⟩, [],
        [⟨1996, some 2022, ⟨"CDT", hours (-5)⟩, ⟨.weekday 4 1 0, 7200, false⟩, ⟨.weekday 10 5 0, 7200, false⟩⟩]⟩),
    (["America/Santiago", "Chile/Continental"],
      ⟨⟨"-04", hours (-4)⟩, [],
        [⟨2023, none, ⟨"-03", hours (-3)⟩, ⟨.onOrAfter 9 2 0, 14400, true⟩, ⟨.onOrAfter 4 2 0, 10800, true⟩⟩]⟩),
    (["Europe/London", "GB", "Europe/Belfast", "Europe/Jersey", "Europe/Guernsey", "Europe/Isle_of_Man",
      "GB-Eire"], british "BST"),
    (["Europe/Dublin", "Eire"], british "IST"),
    (["WET", "Europe/Lisbon", "Portugal", "Atlantic/Canary"], europeanZone 0 "WET" "WEST" 1977),
    (["CET", "Europe/Brussels", "Europe/Amsterdam", "Europe/Luxembourg", "Europe/Monaco", "Europe/Warsaw",
      "Poland"], central 1977),
    (["Europe/Paris", "Europe/Madrid", "Europe/Rome", "Europe/Vatican", "Europe/San_Marino"], central 1977),
    (["Europe/Berlin", "Europe/Vienna", "Europe/Stockholm", "Europe/Oslo", "Europe/Copenhagen", "Europe/Prague",
      "Europe/Bratislava",
      "Europe/Budapest"], central 1980),
    (["Europe/Zurich", "Europe/Vaduz", "Europe/Belgrade", "Europe/Zagreb", "Europe/Ljubljana", "Europe/Sarajevo", "Europe/Malta"],
      central 1981),
    (["MET"], europeanZone 1 "MET" "MEST" 1977),
    (["EET", "Europe/Athens", "Europe/Bucharest", "Europe/Sofia"], europeanZone 2 "EET" "EEST" 1977),
    (["Europe/Helsinki", "Europe/Kiev", "Europe/Kyiv", "Europe/Riga", "Europe/Tallinn", "Europe/Vilnius"],
      europeanZone 2 "EET" "EEST" 1981),
    (["Europe/Istanbul", "Turkey", "Asia/Istanbul"],
      ⟨⟨"EET", hours 2⟩, [(1473206400, ⟨"+03", hours 3⟩)],
        [⟨1985, some 2015, ⟨"EEST", hours 3⟩, europeanChange 3, europeanChange 10⟩]⟩),
    (["Europe/Moscow", "W-SU"],
      ⟨⟨"MSK", hours 3⟩, [(1301180400, ⟨"MSK", hours 4⟩), (1414274400, ⟨"MSK", hours 3⟩)],
        [⟨1996, some 2010, ⟨"MSD", hours 4⟩, ⟨.weekday 3 5 0, 7200, false⟩, ⟨.weekday 10 5 0, 10800, false⟩⟩,
          ⟨1985, some 1995, ⟨"MSD", hours 4⟩, ⟨.weekday 3 5 0, 7200, false⟩, ⟨.weekday 9 5 0, 10800, false⟩⟩]⟩),
    (["Asia/Tokyo", "Japan"], fixed "JST" (hours 9)), (["Asia/Seoul", "ROK"], fixed "KST" (hours 9)),
    (["Asia/Shanghai", "PRC", "Asia/Taipei", "ROC", "Asia/Macau", "Asia/Chongqing"], fixed "CST" (hours 8)),
    (["Asia/Hong_Kong", "Hongkong"], fixed "HKT" (hours 8)),
    (["Asia/Singapore", "Singapore", "Asia/Kuala_Lumpur"],
      ⟨⟨"+0730", 27000⟩, [(378664200, ⟨"+08", hours 8⟩)], []⟩),
    (["Asia/Kolkata", "Asia/Calcutta"], fixed "IST" 19800),
    (["Asia/Dubai", "Asia/Muscat", "Asia/Baku", "Asia/Tbilisi", "Asia/Yerevan", "Indian/Mauritius"], fixed "+04" (hours 4)),
    (["Asia/Karachi"],
      ⟨⟨"+05", hours 5⟩, [(38775600, ⟨"PKT", hours 5⟩)], []⟩),
    (["Asia/Tashkent", "Asia/Yekaterinburg", "Indian/Maldives"], fixed "+05" (hours 5)),
    (["Asia/Kathmandu", "Asia/Katmandu"],
      ⟨⟨"+0530", 19800⟩, [(504901800, ⟨"+0545", 20700⟩)], []⟩),
    (["Asia/Dhaka", "Asia/Almaty", "Asia/Omsk"], fixed "+06" (hours 6)),
    (["Asia/Yangon", "Asia/Rangoon"], fixed "+0630" 23400),
    (["Asia/Bangkok", "Asia/Ho_Chi_Minh", "Asia/Saigon", "Asia/Novosibirsk"], fixed "+07" (hours 7)),
    (["Asia/Jakarta"], fixed "WIB" (hours 7)), (["Asia/Manila"], fixed "PST" (hours 8)),
    (["Asia/Tehran", "Iran"], fixed "+0330" 12600), (["Asia/Kabul"], fixed "+0430" 16200),
    (["Asia/Riyadh", "Asia/Baghdad", "Asia/Kuwait", "Asia/Qatar"], fixed "+03" (hours 3)),
    (["Asia/Jerusalem", "Asia/Tel_Aviv", "Israel"],
      ⟨⟨"IST", hours 2⟩, [],
        [⟨2013, none, ⟨"IDT", hours 3⟩, ⟨.onOrAfter 3 23 5, 7200, false⟩, ⟨.weekday 10 5 0, 7200, false⟩⟩]⟩),
    (["Australia/Sydney", "Australia/Melbourne", "Australia/Hobart", "Australia/Canberra", "Australia/NSW", "Australia/Victoria",
      "Australia/ACT"],
      ⟨⟨"AEST", hours 10⟩, [],
        australian ⟨"AEDT", hours 11⟩⟩),
    (["Australia/Brisbane", "Australia/Queensland"], fixed "AEST" (hours 10)),
    (["Australia/Perth", "Australia/West"], fixed "AWST" (hours 8)),
    (["Australia/Adelaide", "Australia/South"],
      ⟨⟨"ACST", 34200⟩, [],
        australian ⟨"ACDT", 37800⟩⟩),
    (["Australia/Darwin", "Australia/North"], fixed "ACST" 34200),
    (["Pacific/Auckland", "NZ", "Antarctica/McMurdo"],
      ⟨⟨"NZST", hours 12⟩, [],
        [⟨2008, none, ⟨"NZDT", hours 13⟩, ⟨.weekday 9 5 0, 7200, false⟩, ⟨.weekday 4 1 0, 10800, false⟩⟩,
        ⟨1990, some 2007, ⟨"NZDT", hours 13⟩, ⟨.weekday 10 1 0, 7200, false⟩, ⟨.onOrAfter 3 15 0, 10800, false⟩⟩]⟩),
    (["Africa/Johannesburg"], fixed "SAST" (hours 2)), (["Africa/Lagos", "Africa/Algiers"], fixed "WAT" (hours 1)),
    (["Africa/Nairobi", "Africa/Addis_Ababa"], fixed "EAT" (hours 3)), (["Africa/Harare", "Africa/Maputo"], fixed "CAT" (hours 2)),
    (["Africa/Cairo", "Egypt"],
      ⟨⟨"EET", hours 2⟩, [],
        [⟨2023, none, ⟨"EEST", hours 3⟩, ⟨.weekday 4 5 5, 0, false⟩, ⟨.weekday 10 5 4, 86400, false⟩⟩]⟩)]

/-- The zone with a name, if there is one. -/
def place? (name : String) : Option Zone :=
  match places.find? fun (names, _) => names.contains name with
  | some (_, zone) => some zone
  | none =>
    match (name.dropPrefix? "Etc/GMT").map (·.toString.toList) with
    | some (sign :: digits) =>
      let n := Decimal.natOf 10 digits
      if digits = [] ∨ ¬ digits.all Char.isDigit ∨ ¬ [some '+', some '-'].contains (some sign) ∨ 14 < n then none
      else
        let shown := (if n < 10 then "0" else "") ++ toString n
        some (if sign = '+' then fixed ("-" ++ shown) (hours (-n)) else fixed ("+" ++ shown) (hours n))
    | _ => none

end TaskRunner.Calendar
