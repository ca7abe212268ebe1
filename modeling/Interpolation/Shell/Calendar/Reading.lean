import Interpolation.Shell.Calendar

/-!
# Reading dates and times

A time may be written as a date, a time of day, a day of the week, a distance from now, or by
several of these together. What is not said is as it is now, or zero for a time of day where a day
is given.
-/

namespace Interpolation.Shell.Calendar

inductive Piece where
  | number (sign : Option Bool) (digits n : Nat) (fraction : Octets)
  | word (w : Octets)
  | mark (c : Char)
  deriving DecidableEq, Repr

def pieces : Nat → Nat → Octets → List Piece
  | 0, _, _ => []
  | _, _, [] => []
  | fuel + 1, depth, c :: rest =>
    if c == '(' then pieces fuel (depth + 1) rest
    else if 0 < depth then pieces fuel (if c == ')' then depth - 1 else depth) rest
    else if Octets.isSpace c then pieces fuel 0 rest
    else if c.isAlpha then
      let w := (c :: rest).takeWhile fun c => c.isAlpha || c == '.'
      .word ((w.filter (· != '.')).map Char.toLower) ::
        pieces fuel 0 ((c :: rest).drop w.length)
    else
      let (sign, digits) := match c, rest.dropWhile Octets.isSpace with
        | '-', d :: digits => if d.isDigit then (some false, d :: digits) else (none, [])
        | '+', d :: digits => if d.isDigit then (some true, d :: digits) else (none, [])
        | d, _ => (none, if d.isDigit then c :: rest else [])
      if digits.isEmpty then .mark c :: pieces fuel 0 rest
      else
        let (count, n, rest) := Octets.takeDigits 10 digits
        match rest with
        | p :: d :: more =>
          if (p == '.' || p == ',') && d.isDigit then
            let fraction := (d :: more).takeWhile Char.isDigit
            .number sign count n fraction :: pieces fuel 0 ((d :: more).drop fraction.length)
          else .number sign count n [] :: pieces fuel 0 rest
        | _ => .number sign count n [] :: pieces fuel 0 rest

structure Reading where
  clock : Option (Int × Nat) := none
  date : Option (Option Int × Nat × Nat) := none
  time : Option (Nat × Nat × Nat × Nat) := none
  zone : Option Int := none
  weekday : Option (Int × Nat) := none
  years : Int := 0
  months : Int := 0
  days : Int := 0
  seconds : Int := 0
  nanoseconds : Int := 0
  isRelative : Bool := false

def nanosecondsOf (fraction : Octets) : Nat :=
  let digits := (fraction.take 9).map fun c => c.toNat - '0'.toNat
  (digits ++ List.replicate (9 - digits.length) 0).foldl (fun n d => 10 * n + d) 0

def nameIndex? (names : List String) (w : Octets) : Option Nat :=
  names.findIdx? fun name =>
    let name := name.toList.map Char.toLower
    name == w || name.take 3 == w

def month? (w : Octets) : Option Nat :=
  if w == "sept".toList then some 9 else (nameIndex? Calendar.months w).map (· + 1)

def weekday? (w : Octets) : Option Nat :=
  match String.ofList w with
  | "tues" => some 2
  | "wednes" => some 3
  | "thur" | "thurs" => some 4
  | _ => nameIndex? Calendar.weekdays w

def yearOf (digits n : Nat) : Int :=
  if 2 < digits then n else if 69 ≤ n then n + 1900 else n + 2000

inductive Unit where
  | years
  | months
  | days (n : Int)
  | seconds (n : Int)
  deriving DecidableEq, Repr

def unit? (w : Octets) : Option Unit :=
  let w := if w.getLast? == some 's' && 1 < w.length then w.dropLast else w
  match String.ofList w with
  | "year" => some .years
  | "month" => some .months
  | "fortnight" => some (.days 14)
  | "week" => some (.days 7)
  | "day" => some (.days 1)
  | "hour" => some (.seconds 3600)
  | "minute" | "min" => some (.seconds 60)
  | "second" | "sec" => some (.seconds 1)
  | _ => none

def ordinals : List (String × Int) :=
  [("last", -1), ("this", 0), ("next", 1), ("first", 1), ("third", 3), ("fourth", 4), ("fifth", 5),
    ("sixth", 6), ("seventh", 7), ("eighth", 8), ("ninth", 9), ("tenth", 10), ("eleventh", 11),
    ("twelfth", 12)]

def ordinal? (w : Octets) : Option Int :=
  (ordinals.find? fun (name, _) => name.toList == w).map Prod.snd

def zones : List (String × Int) :=
  [("gmt", 0), ("ut", 0), ("utc", 0), ("z", 0), ("wet", 0), ("est", -5), ("edt", -4), ("cst", -6),
    ("cdt", -5), ("mst", -7), ("mdt", -6), ("pst", -8), ("pdt", -7), ("cet", 1), ("cest", 2),
    ("eet", 2), ("eest", 3), ("msk", 3), ("jst", 9), ("ist", 5)]

def zone? (w : Octets) : Option Int :=
  (zones.find? fun (name, _) => name.toList == w).map fun (name, hours) =>
    3600 * hours + if name == "ist" then 1800 else 0

namespace Reading

def add (r : Reading) (n : Int) (fraction : Nat) : Unit → Reading
  | .years => { r with years := r.years + n, isRelative := true }
  | .months => { r with months := r.months + n, isRelative := true }
  | .days m => { r with days := r.days + m * n, isRelative := true }
  | .seconds m =>
    { r with
      seconds := r.seconds + m * n, nanoseconds := r.nanoseconds + (if m = 1 then fraction else 0)
      isRelative := true }

def setDate (r : Reading) (year : Option Int) (month day : Nat) : Option Reading :=
  if r.date.isSome then none else some { r with date := some (year, month, day) }

def setTime (r : Reading) (hour minute second nanosecond : Nat) : Option Reading :=
  if r.time.isSome then none else some { r with time := some (hour, minute, second, nanosecond) }

def setZone (r : Reading) (ahead : Int) : Option Reading :=
  if r.zone.isSome then none else some { r with zone := some ahead }

def halfHour? (hour : Nat) (w : Octets) : Option Nat :=
  if hour = 0 || 12 < hour then none
  else if w == "am".toList then some (hour % 12)
  else if w == "pm".toList then some (hour % 12 + 12)
  else none

def setClock (r : Reading) (hour minute second nanosecond : Nat) :
    List Piece → Option (Reading × List Piece)
  | .word w :: rest =>
    match halfHour? hour w with
    | some hour => (r.setTime hour minute second nanosecond).map (·, rest)
    | none => (r.setTime hour minute second nanosecond).map (·, .word w :: rest)
  | .number (some isAhead) digits n [] :: .mark ':' :: .number none _ m [] :: rest => do
    if 2 < digits then none
    let r ← r.setTime hour minute second nanosecond
    let ahead : Int := 3600 * n + 60 * m
    (← r.setZone (if isAhead then ahead else -ahead), rest)
  | .number (some isAhead) digits n [] :: rest => do
    let r ← r.setTime hour minute second nanosecond
    match rest with
    | .word w :: _ =>
      if (unit? w).isSome then some (r, .number (some isAhead) digits n [] :: rest)
      else none
    | _ =>
      let ahead : Int := if digits ≤ 2 then 3600 * n else 3600 * (n / 100) + 60 * (n % 100)
      (← r.setZone (if isAhead then ahead else -ahead), rest)
  | rest => (r.setTime hour minute second nanosecond).map (·, rest)

def alone (r : Reading) (digits n : Nat) : Option Reading :=
  match r.date with
  | some (none, month, day) =>
    if !r.isRelative && (r.time.isSome || 2 < digits) then
      some { r with date := some (some (yearOf digits n), month, day) }
    else r.setTime (if digits ≤ 2 then n else n / 100) (if digits ≤ 2 then 0 else n % 100) 0 0
  | _ =>
    if 4 < digits then
      r.setDate (some (yearOf (digits - 4) (n / 10000))) (n / 100 % 100) (n % 100)
    else r.setTime (if digits ≤ 2 then n else n / 100) (if digits ≤ 2 then 0 else n % 100) 0 0

def word (r : Reading) (w : Octets) (rest : List Piece) : Option (Reading × List Piece) :=
  match month? w, weekday? w, unit? w, ordinal? w, zone? w with
  | some month, _, _, _, _ =>
    match rest with
    | .number none _ day [] :: .mark ',' :: .number none digits year [] :: rest =>
      (r.setDate (some (yearOf digits year)) month day).map (·, rest)
    | .number (some false) _ day [] :: .number (some false) digits year [] :: rest =>
      (r.setDate (some (yearOf digits year)) month day).map (·, rest)
    | .number none _ day [] :: rest => (r.setDate none month day).map (·, rest)
    | _ => none
  | _, some day, _, _, _ =>
    let rest := match rest with
      | .mark ',' :: rest => rest
      | rest => rest
    if r.weekday.isSome then none else some ({ r with weekday := some (0, day) }, rest)
  | _, _, some unit, _, _ =>
    match rest with
    | .word ['a', 'g', 'o'] :: rest => some (r.add (-1) 0 unit, rest)
    | rest => some (r.add 1 0 unit, rest)
  | _, _, _, some n, _ =>
    match rest with
    | .word next :: rest =>
      match weekday? next, unit? next with
      | some day, _ => some ({ r with weekday := some (n, day) }, rest)
      | _, some unit =>
        match rest with
        | .word ['a', 'g', 'o'] :: rest => some (r.add (-n) 0 unit, rest)
        | rest => some (r.add n 0 unit, rest)
      | _, _ => none
    | _ => none
  | _, _, _, _, some ahead =>
    match rest with
    | .number (some isAhead) digits n [] :: rest => do
      let more : Int := if digits ≤ 2 then 3600 * n else 3600 * (n / 100) + 60 * (n % 100)
      (← r.setZone (ahead + if isAhead then more else -more), rest)
    | rest => (r.setZone ahead).map (·, rest)
  | none, none, none, none, none =>
    match String.ofList w with
    | "now" | "today" => some ({ r with isRelative := true }, rest)
    | "yesterday" => some (r.add (-1) 0 (.days 1), rest)
    | "tomorrow" => some (r.add 1 0 (.days 1), rest)
    | "noon" => (r.setTime 12 0 0 0).map (·, rest)
    | "midnight" => (r.setTime 0 0 0 0).map (·, rest)
    | "t" => some (r, rest)
    | _ => none

def step (r : Reading) : List Piece → Option (Reading × List Piece)
  | [] => none
  | .mark '@' :: .number sign _ n fraction :: rest =>
    let nano := nanosecondsOf fraction
    let seconds : Int := if sign = some false then -(n : Int) else n
    if sign = some false && nano != 0 then
      some ({ r with clock := some (seconds - 1, 1000000000 - nano) }, rest)
    else some ({ r with clock := some (seconds, nano) }, rest)
  | .number none _ hour [] :: .mark ':' :: .number none _ minute [] :: .mark ':' ::
      .number none _ second fraction :: rest =>
    r.setClock hour minute second (nanosecondsOf fraction) rest
  | .number none _ hour [] :: .mark ':' :: .number none _ minute [] :: rest =>
    r.setClock hour minute 0 0 rest
  | .number none digits a [] :: .mark '/' :: .number none _ b [] :: .mark '/' ::
      .number none last c [] :: rest =>
    if 4 ≤ digits then (r.setDate (some a) b c).map (·, rest)
    else (r.setDate (some (yearOf last c)) a b).map (·, rest)
  | .number none _ month [] :: .mark '/' :: .number none _ day [] :: rest =>
    (r.setDate none month day).map (·, rest)
  | .number none digits year [] :: .number (some false) _ month [] ::
      .number (some false) _ day [] :: rest =>
    (r.setDate (some (yearOf digits year)) month day).map (·, rest)
  | .number none _ day [] :: .mark '-' :: .word w :: .number (some false) digits year [] :: rest =>
    (month? w).bind fun month =>
      (r.setDate (some (yearOf digits year)) month day).map (·, rest)
  | .number sign digits n fraction :: .word w :: rest =>
    match unit? w, month? w, halfHour? n w, sign with
    | some unit, _, _, _ =>
      let (isAgo, rest) := match rest with
        | .word ['a', 'g', 'o'] :: rest => (true, rest)
        | rest => (false, rest)
      let isNegative := (sign = some false) != isAgo
      let n : Int := n
      some (r.add (if isNegative then -n else n) (nanosecondsOf fraction) unit, rest)
    | _, some month, _, none =>
      match rest with
      | .number none digits year [] :: .mark ':' :: more =>
        (r.setDate none month n).map (·, .number none digits year [] :: .mark ':' :: more)
      | .number none digits year [] :: rest =>
        if 2 < digits then (r.setDate (some (yearOf digits year)) month n).map (·, rest)
        else (r.setDate none month n).map (·, .number none digits year [] :: rest)
      | rest => (r.setDate none month n).map (·, rest)
    | _, _, some hour, none => (r.setTime hour 0 0 0).map (·, rest)
    | _, _, _, none =>
      match weekday? w with
      | some day => some ({ r with weekday := some (n, day) }, rest)
      | none => (r.alone digits n).map (·, .word w :: rest)
    | _, _, _, _ => none
  | .number none digits n [] :: rest => (r.alone digits n).map (·, rest)
  | .word w :: rest => r.word w rest
  | .mark ',' :: rest => some (r, rest)
  | _ => none

def all : Nat → Reading → List Piece → Option Reading
  | _, r, [] => some r
  | 0, _, _ => none
  | fuel + 1, r, pieces => (r.step pieces).bind fun (r, rest) => all fuel r rest

def isDay (year : Int) (month day : Nat) : Bool :=
  1 ≤ month && month ≤ 12 && 1 ≤ day &&
    Calendar.ofDayNumber (Calendar.dayNumber year month day) == (year, month, day)

def time? (r : Reading) (zone : Zone) (now : Int) : Option Int := do
  match r.clock with
  | some (seconds, nanosecond) =>
    if r.date.isSome || r.time.isSome then none
    some ((seconds + r.seconds + Calendar.daySeconds * r.days) * 1000000000 + nanosecond)
  | none =>
    let ahead := r.zone.getD zone.ahead
    let here := Calendar.ofTime { zone with ahead := zone.ahead } now
    let (year, month, day) := match r.date with
      | some (year, month, day) => (year.getD here.year, month, day)
      | none => (here.year, here.month, here.day)
    if !isDay year month day then none
    let (hour, minute, second, nanosecond) := match r.time with
      | some time => time
      | none =>
        if r.date.isSome || (r.weekday.isSome && !r.isRelative) then (0, 0, 0, 0)
        else (here.hour, here.minute, here.second, here.nanosecond)
    if 23 < hour || 59 < minute || 60 < second then none
    let months := (month : Int) - 1 + r.months
    let number := Calendar.dayNumber (year + r.years + months.fdiv 12)
      ((months.fmod 12).toNat + 1) day
    let number := match r.weekday, r.date with
      | some (n, weekday), none =>
        let distance := ((weekday : Int) - (number + 4)).fmod 7
        let n := if 0 < n && distance != 0 then n - 1 else n
        number + distance + 7 * n
      | _, _ => number
    let seconds := Calendar.daySeconds * (number + r.days) + 3600 * hour + 60 * minute + second -
      ahead + r.seconds
    some (seconds * 1000000000 + nanosecond + r.nanoseconds)

end Reading

/-- The time that is written, in nanoseconds. -/
def read? (zone : Zone) (now : Int) (written : Octets) : Option Int :=
  let ps := pieces (written.length + 1) 0 written
  (Reading.all ps.length {} ps).bind fun r =>
    ({ r with
      time := if ps.isEmpty then some (0, 0, 0, 0) else r.time } : Reading).time? zone now

end Interpolation.Shell.Calendar
