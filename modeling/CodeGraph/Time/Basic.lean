/-!
Calendar time in UTC, proleptic Gregorian, to the nanosecond. A second may be a leap second, whose nanoseconds run on
past one billion.
-/
namespace CodeGraph

structure Date where
  year : Int
  month : Nat
  day : Nat
  deriving DecidableEq, Repr

namespace Date

def isLeapYear (y : Int) : Bool := y % 4 == 0 && (y % 100 != 0 || y % 400 == 0)

def daysInMonth (y : Int) : Nat → Nat
  | 2 => if isLeapYear y then 29 else 28
  | 4 | 6 | 9 | 11 => 30
  | _ => 31

def minYear : Int := -262143
def maxYear : Int := 262142

def isValid (d : Date) : Bool :=
  minYear ≤ d.year && d.year ≤ maxYear && 1 ≤ d.month && d.month ≤ 12 && 1 ≤ d.day
    && d.day ≤ daysInMonth d.year d.month

/-- The day after; none after the last day of the calendar. -/
def next? (d : Date) : Option Date :=
  if d.day < daysInMonth d.year d.month then some { d with day := d.day + 1 }
  else if d.month < 12 then some { d with month := d.month + 1, day := 1 }
  else if d.year < maxYear then some ⟨d.year + 1, 1, 1⟩
  else none

/-- The day before; none before the first day of the calendar. -/
def prev? (d : Date) : Option Date :=
  if 1 < d.day then some { d with day := d.day - 1 }
  else if 1 < d.month then some { d with month := d.month - 1, day := daysInMonth d.year (d.month - 1) }
  else if minYear < d.year then some ⟨d.year - 1, 12, 31⟩
  else none

/-- Days of the months before this one in a year that starts in March. -/
def daysBeforeMonth (month : Nat) : Nat := (153 * ((month + 9) % 12) + 2) / 5

/-- Days since the first of March of the year zero. -/
def number (d : Date) : Int :=
  let y := if d.month ≤ 2 then d.year - 1 else d.year
  365 * y + y / 4 - y / 100 + y / 400 + daysBeforeMonth d.month + d.day - 1

end Date

/-- A moment in UTC: `second` counts the seconds of the day, `nano` those of the second. -/
structure Time where
  date : Date
  second : Nat
  nano : Nat
  deriving DecidableEq, Repr

namespace Time

def secondsPerDay : Nat := 86400
def nanosPerSecond : Nat := 1000000000

instance : Inhabited Time := ⟨⟨⟨1970, 1, 1⟩, 0, 0⟩⟩

/-- Nanoseconds since the first of March of the year zero. -/
def instant (t : Time) : Int :=
  (t.date.number * secondsPerDay + t.second) * nanosPerSecond + t.nano

/-- The moment one microsecond later; the last second of the calendar does not end. -/
def tick (t : Time) : Time :=
  let nano := t.nano + 1000
  if nano < nanosPerSecond then { t with nano := nano }
  else if t.second + 1 < secondsPerDay then { t with second := t.second + 1, nano := nano % nanosPerSecond }
  else match t.date.next? with
    | some d => ⟨d, 0, nano % nanosPerSecond⟩
    | none => t

/-- A wall-clock time at a given offset (in seconds, east positive, under a day) as UTC; none beyond the
calendar. -/
def ofLocal? (date : Date) (second nano : Nat) (offset : Int) : Option Time :=
  let s := (second : Int) - offset
  if s < 0 then date.prev?.map (⟨·, (s + secondsPerDay).toNat, nano⟩)
  else if s < secondsPerDay then some ⟨date, s.toNat, nano⟩
  else date.next?.map (⟨·, (s - secondsPerDay).toNat, nano⟩)

end Time
end CodeGraph
