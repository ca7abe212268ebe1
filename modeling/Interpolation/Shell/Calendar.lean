import Interpolation.Shell.Octets

/-!
# Dates and times

A moment is a number of nanoseconds on the clock, seen in a zone. It is written by a format, field
by field, in the calendar that has a leap year every fourth year but for three in four hundred.
-/

namespace Interpolation.Shell

/-- The fields of a date and a time. -/
structure Calendar where
  year : Int
  month : Nat
  day : Nat
  hour : Nat := 0
  minute : Nat := 0
  second : Nat := 0
  nanosecond : Nat := 0
  deriving DecidableEq, Repr

/-- How far a zone is ahead of the common time, in seconds, and its name. -/
structure Zone where
  ahead : Int := 0
  name : Octets := "UTC".toList
  deriving DecidableEq, Repr

namespace Calendar

def dayNumber (year : Int) (month day : Nat) : Int :=
  let shifted := year + (((month : Int) - 3).fdiv 12)
  let months := ((month : Int) - 3).fmod 12
  365 * shifted + shifted.fdiv 4 - shifted.fdiv 100 + shifted.fdiv 400 +
    (153 * months + 2).fdiv 5 + day - 719469

def ofDayNumber (n : Int) : Int × Nat × Nat :=
  let n := n + 719468
  let era := n.fdiv 146097
  let rest := (n - 146097 * era).toNat
  let years := (rest - rest / 1460 + rest / 36524 - rest / 146096) / 365
  let inYear := rest - (365 * years + years / 4 - years / 100)
  let months := (5 * inYear + 2) / 153
  let day := inYear - (153 * months + 2) / 5 + 1
  let month := if months < 10 then months + 3 else months - 9
  (years + 400 * era + (if month ≤ 2 then 1 else 0), month, day)

def daySeconds : Int :=
  86400

def ofSeconds (seconds : Int) (nanosecond : Nat) : Calendar :=
  let inDay := (seconds.fmod daySeconds).toNat
  let (year, month, day) := ofDayNumber (seconds.fdiv daySeconds)
  { year, month, day, hour := inDay / 3600, minute := inDay / 60 % 60, second := inDay % 60
    nanosecond }

def seconds (c : Calendar) : Int :=
  daySeconds * dayNumber c.year c.month c.day + 3600 * c.hour + 60 * c.minute + c.second

def weekday (c : Calendar) : Nat :=
  ((dayNumber c.year c.month c.day + 4).fmod 7).toNat

def yearDay (c : Calendar) : Nat :=
  (dayNumber c.year c.month c.day - dayNumber c.year 1 1).toNat

def yearLength (year : Int) : Nat :=
  (dayNumber (year + 1) 1 1 - dayNumber year 1 1).toNat

def week (c : Calendar) : Int × Nat :=
  let thursday := (c.yearDay : Int) + 3 - ((c.weekday + 6) % 7 : Nat)
  if thursday < 0 then
    (c.year - 1, ((thursday + yearLength (c.year - 1)) / 7 + 1).toNat)
  else if thursday < yearLength c.year then (c.year, (thursday / 7 + 1).toNat)
  else (c.year + 1, 1)

def weekdays : List String :=
  ["Sunday", "Monday", "Tuesday", "Wednesday", "Thursday", "Friday", "Saturday"]

def months : List String :=
  ["January", "February", "March", "April", "May", "June", "July", "August", "September", "October",
    "November", "December"]

/-! ## Writing -/

structure Form where
  fill : Option Char := none
  isUpper : Bool := false
  isSwapped : Bool := false
  width : Option Nat := none

def Form.number (f : Form) (usual : Nat) (usualFill : Char) (n : Int) : Octets :=
  let digits := Text.ofNat n.natAbs
  let sign := if n < 0 then ['-'] else []
  let width := f.width.getD usual
  match f.fill.getD usualFill with
  | '-' => sign ++ digits
  | '0' => sign ++ Text.padLeft '0' (width - sign.length) digits
  | _ => Text.padLeft ' ' width (sign ++ digits)

def Form.word (f : Form) (w : Octets) : Octets :=
  let w := if f.isUpper || f.isSwapped then w.map Char.toUpper else w
  Text.padLeft (if f.fill = some '0' then '0' else ' ') (f.width.getD 0) w

def Form.zone (f : Form) (colons : Nat) (ahead : Int) : Octets :=
  let n := ahead.natAbs
  let two (n : Nat) : Octets := Text.padLeft '0' 2 (Text.ofNat n)
  let (hours, minutes, seconds) := (n / 3600, n / 60 % 60, n % 60)
  let rest := match colons with
    | 0 => two minutes
    | 1 => ':' :: two minutes
    | 2 => ':' :: two minutes ++ ':' :: two seconds
    | _ =>
      if seconds != 0 then ':' :: two minutes ++ ':' :: two seconds
      else if minutes != 0 then ':' :: two minutes
      else []
  let sign := if ahead < 0 then '-' else '+'
  let hour := Text.padLeft '0' ((f.width.getD 0) - 1 - rest.length)
    (if f.fill = some '-' then Text.ofNat hours else two hours)
  sign :: hour ++ rest

def shortcut? (letter : Char) : Option String :=
  match letter with
  | 'c' => some "%a %b %e %H:%M:%S %Y"
  | 'D' | 'x' => some "%m/%d/%y"
  | 'F' => some "%Y-%m-%d"
  | 'R' => some "%H:%M"
  | 'r' => some "%I:%M:%S %p"
  | 'T' | 'X' => some "%H:%M:%S"
  | _ => none

def field? (c : Calendar) (zone : Zone) (f : Form) (colons : Nat) (letter : Char) :
    Option Octets :=
  let half := (c.hour + 11) % 12 + 1
  let two (n : Nat) : Option Octets := some (f.number 2 '0' n)
  let noon (am pm : String) : Octets := (if c.hour < 12 then am else pm).toList
  match letter with
  | 'a' => some (f.word (((weekdays.getD c.weekday "").toList).take 3))
  | 'A' => some (f.word (weekdays.getD c.weekday "").toList)
  | 'b' | 'h' => some (f.word (((months.getD (c.month - 1) "").toList).take 3))
  | 'B' => some (f.word (months.getD (c.month - 1) "").toList)
  | 'C' => some (f.number 2 '0' (c.year.fdiv 100))
  | 'd' => two c.day
  | 'e' => some (f.number 2 ' ' c.day)
  | 'g' => some (f.number 2 '0' (c.week.1.fmod 100))
  | 'G' => some (f.number 4 '0' c.week.1)
  | 'H' => two c.hour
  | 'I' => two half
  | 'j' => some (f.number 3 '0' (c.yearDay + 1))
  | 'k' => some (f.number 2 ' ' c.hour)
  | 'l' => some (f.number 2 ' ' half)
  | 'm' => two c.month
  | 'M' => two c.minute
  | 'n' => some ['\n']
  | 'N' =>
    let digits := Text.padLeft '0' 9 (Text.ofNat c.nanosecond)
    match f.width with
    | some w => some (if w ≤ 9 then digits.take w else digits ++ List.replicate (w - 9) '0')
    | none => some (if f.fill = some '-' then Text.dropTrailing '0' digits else digits)
  | 'p' =>
    let word := noon "AM" "PM"
    some ({ f with isUpper := false, isSwapped := false }.word
      (if f.isSwapped then word.map Char.toLower else word))
  | 'P' => some (f.word (noon "am" "pm"))
  | 'q' => some (f.number 1 '0' ((c.month + 2) / 3))
  | 's' => some (f.number 1 '0' (c.seconds - zone.ahead))
  | 'S' => two c.second
  | 't' => some ['\t']
  | 'u' => some (f.number 1 '0' ((c.weekday + 6) % 7 + 1))
  | 'U' => two ((c.yearDay + 7 - c.weekday) / 7)
  | 'V' => two c.week.2
  | 'w' => some (f.number 1 '0' c.weekday)
  | 'W' => two ((c.yearDay + 7 - (c.weekday + 6) % 7) / 7)
  | 'y' => some (f.number 2 '0' (c.year.fmod 100))
  | 'Y' => some (f.number 4 '0' c.year)
  | 'z' => some (f.zone colons zone.ahead)
  | 'Z' => some ({ f with isSwapped := false }.word
      (if f.isSwapped then zone.name.map Char.toLower else zone.name))
  | '%' => some ['%']
  | _ => none

structure Conversion where
  form : Form := {}
  colons : Nat := 0
  read : Octets := ['%']

def formatUpTo (depth : Nat) (c : Calendar) (zone : Zone) :
    Option Conversion → Octets → Octets
  | none, [] => []
  | some conversion, [] => conversion.read.reverse
  | none, '%' :: rest => formatUpTo depth c zone (some {}) rest
  | none, d :: rest => d :: formatUpTo depth c zone none rest
  | some conversion, d :: rest =>
    let next := { conversion with read := d :: conversion.read }
    let form := conversion.form
    if form.width.isNone && (d == '-' || d == '_' || d == '0' || d == '+') then
      let fill := if d == '_' then ' ' else if d == '+' then '0' else d
      formatUpTo depth c zone (some { next with form := { form with fill := some fill } }) rest
    else if form.width.isNone && d == '^' then
      formatUpTo depth c zone (some { next with form := { form with isUpper := true } }) rest
    else if form.width.isNone && d == '#' then
      formatUpTo depth c zone (some { next with form := { form with isSwapped := true } }) rest
    else if d.isDigit then
      let width := min 4096 (10 * form.width.getD 0 + (d.toNat - '0'.toNat))
      formatUpTo depth c zone (some { next with form := { form with width := some width } }) rest
    else if d == ':' then
      formatUpTo depth c zone (some { next with colons := next.colons + 1 }) rest
    else if d == 'E' || d == 'O' then formatUpTo depth c zone (some next) rest
    else
      let written := match depth, shortcut? d with
        | depth + 1, some format =>
          some (form.word (formatUpTo depth c zone none format.toList))
        | _, _ =>
          if conversion.colons != 0 && d != 'z' then none
          else c.field? zone form conversion.colons d
      written.getD next.read.reverse ++ formatUpTo depth c zone none rest
  termination_by _ rest => (depth, rest.length)

/-- Write a time by a format. -/
def format (c : Calendar) (zone : Zone) (spec : Octets) : Octets :=
  formatUpTo 1 c zone none spec

end Calendar

namespace Zone

def ofVariable (value : Option Octets) : Zone :=
  match value with
  | none | some [] => {}
  | some spec =>
    let name := spec.takeWhile Char.isAlpha
    let rest := spec.drop name.length
    let (isAhead, rest) := match rest with
      | '-' :: rest => (true, rest)
      | '+' :: rest => (false, rest)
      | rest => (false, rest)
    let (hourDigits, hours, rest) := Octets.takeDigits 10 rest
    let (_, minutes, _) := match rest with
      | ':' :: rest => Octets.takeDigits 10 rest
      | _ => (0, 0, [])
    let ahead : Int := 3600 * hours + 60 * minutes
    if name.length < 3 || spec.contains '/' then {}
    else if hourDigits = 0 then { name }
    else { ahead := if isAhead then ahead else -ahead, name }

end Zone

/-- The fields of a time in nanoseconds, seen in a zone. -/
def Calendar.ofTime (zone : Zone) (time : Int) : Calendar :=
  .ofSeconds (time.fdiv 1000000000 + zone.ahead) (time.fmod 1000000000).toNat

end Interpolation.Shell
