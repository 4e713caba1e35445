import StoryBlanks.Text.Basic

/-!
# Calendar

Dates of the Gregorian calendar and moments within a day, with or without an offset from
universal time, and their two texts: the plain one and the one shown inside lists and mappings.
-/
namespace StoryBlanks.Calendar

structure Date where
  year : Nat
  month : Nat
  day : Nat
  deriving DecidableEq, Repr

/-- A moment of a day, to the microsecond. The offset from universal time is in minutes. -/
structure Moment where
  date : Date
  hour : Nat
  minute : Nat
  second : Nat
  microsecond : Nat
  offset : Option Int
  deriving DecidableEq, Repr

inductive RangeError where
  | year (year : Nat)
  | month
  | day
  | hour
  | minute
  | second
  | offset (minutes : Int)
  deriving DecidableEq, Repr

def isLeapYear (year : Nat) : Bool := year % 4 = 0 && (year % 100 ≠ 0 || year % 400 = 0)

def monthLength (year month : Nat) : Nat :=
  if month = 2 then if isLeapYear year then 29 else 28
  else if month = 4 || month = 6 || month = 9 || month = 11 then 30
  else 31

/-- A span of whole minutes as days and seconds, the seconds not negative. -/
def daysAndSeconds (minutes : Int) : Int × Int := (minutes / 1440, minutes % 1440 * 60)

/-- A span of whole minutes as it is shown inside lists and mappings. -/
def spanText (minutes : Int) : Text :=
  let (days, seconds) := daysAndSeconds minutes
  let parts := (if days = 0 then [] else ["days=" ++ Text.ofInt days]) ++
    (if seconds = 0 then [] else ["seconds=" ++ Text.ofInt seconds])
  "datetime.timedelta(" ++ (if parts.isEmpty then ['0'] else Text.joinWith ", " parts) ++ ")"

def RangeError.message : RangeError → Text
  | .year y => "year " ++ Text.ofNat y ++ " is out of range"
  | .month => "month must be in 1..12"
  | .day => "day is out of range for month"
  | .hour => "hour must be in 0..23"
  | .minute => "minute must be in 0..59"
  | .second => "second must be in 0..59"
  | .offset m =>
    "offset must be a timedelta strictly between -timedelta(hours=24) and timedelta(hours=24), not "
      ++ spanText m ++ "."

/-- A date from its parts, which are checked from the largest to the smallest. -/
def date (year month day : Nat) : Except RangeError Date :=
  if year = 0 || 9999 < year then .error (.year year)
  else if month = 0 || 12 < month then .error .month
  else if day = 0 || monthLength year month < day then .error .day
  else .ok ⟨year, month, day⟩

/-- A moment from its parts. The offset is checked before everything else. -/
def moment (year month day hour minute second microsecond : Nat) (offset : Option Int) :
    Except RangeError Moment := do
  if let some m := offset then
    if 1440 ≤ m.natAbs then throw (.offset m)
  let d ← date year month day
  if 23 < hour then throw .hour
  if 59 < minute then throw .minute
  if 59 < second then throw .second
  return ⟨d, hour, minute, second, microsecond, offset⟩

def daysBeforeYear (year : Nat) : Nat :=
  let y := year - 1
  y * 365 + y / 4 - y / 100 + y / 400

/-- The number of a day, counted from the first day of the year one. -/
def Date.ordinal (d : Date) : Nat :=
  (List.range (d.month - 1)).foldl (fun days m => days + monthLength d.year (m + 1))
    (daysBeforeYear d.year) + d.day

/-- The number of a moment's minute, on its own clock. -/
def Moment.minutes (m : Moment) : Int := (m.date.ordinal * 24 + m.hour) * 60 + m.minute

/-- Whether two moments are the same: with an offset by the instant that they name, and otherwise
by their parts. -/
def Moment.isSameAs (a b : Moment) : Bool :=
  match a.offset, b.offset with
  | none, none => a = b
  | some x, some y =>
    a.minutes - x = b.minutes - y && a.second = b.second && a.microsecond = b.microsecond
  | _, _ => false

def zeroPadded (width n : Nat) : Text :=
  let digits := Text.ofNat n
  List.replicate (width - digits.length) '0' ++ digits

def Date.text (d : Date) : Text :=
  zeroPadded 4 d.year ++ '-' :: zeroPadded 2 d.month ++ '-' :: zeroPadded 2 d.day

def offsetText (minutes : Int) : Text :=
  (if minutes < 0 then '-' else '+') :: zeroPadded 2 (minutes.natAbs / 60) ++
    ':' :: zeroPadded 2 (minutes.natAbs % 60)

def Moment.text (m : Moment) : Text :=
  m.date.text ++ ' ' :: zeroPadded 2 m.hour ++ ':' :: zeroPadded 2 m.minute ++
    ':' :: zeroPadded 2 m.second ++
    (if m.microsecond = 0 then [] else '.' :: zeroPadded 6 m.microsecond) ++
    (match m.offset with
      | none => []
      | some o => offsetText o)

def Date.shown (d : Date) : Text :=
  "datetime.date(" ++ Text.joinWith ", " ([d.year, d.month, d.day].map Text.ofNat) ++ ")"

/-- A moment as it is shown inside lists and mappings: seconds and microseconds are left out from
the end while they are zero. -/
def Moment.shown (m : Moment) : Text :=
  let clock :=
    if m.microsecond ≠ 0 then [m.hour, m.minute, m.second, m.microsecond]
    else if m.second ≠ 0 then [m.hour, m.minute, m.second]
    else [m.hour, m.minute]
  let zone := match m.offset with
    | none => []
    | some 0 => [("tzinfo=datetime.timezone.utc" : Text)]
    | some o => ["tzinfo=datetime.timezone(" ++ spanText o ++ ")"]
  "datetime.datetime(" ++
    Text.joinWith ", " (([m.date.year, m.date.month, m.date.day] ++ clock).map Text.ofNat ++ zone)
    ++ ")"

end StoryBlanks.Calendar
