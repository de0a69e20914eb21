import DeviceHarness.Text.Integer
import DeviceHarness.Toml.Reader

/-! Dates and times, alone or together, with or without an offset from Greenwich. In a document they are
read more strictly than in a string that stands for one: there, a day may end with hour 24, and an
offset may take a whole day. -/

namespace DeviceHarness.Toml.Moment

open Reader

/-- So many digits, whose value lies between bounds. -/
def number (digits least greatest : Nat) : Reader (List Char) := do
  let written ← times Integer.isDigit digits
  if least ≤ Integer.value written && Integer.value written ≤ greatest then return written else fail

def isLeapYear (year : Nat) : Bool := year % 4 == 0 && (year % 100 != 0 || year % 400 == 0)

def daysOf (year month : Nat) : Nat :=
  if month == 2 then (if isLeapYear year then 29 else 28)
  else if [4, 6, 9, 11].contains month then 30
  else 31

def date : Reader (List Char) := do
  let year ← number 4 0 9999
  char '-'
  let month ← number 2 1 12
  char '-'
  let day ← number 2 1 (daysOf (Integer.value year) (Integer.value month))
  return year ++ '-' :: month ++ '-' :: day

/-- A time of day, which may be a leap second. -/
def time (lastHour : Nat) : Reader (List Char) := do
  let hour ← number 2 0 lastHour
  char ':'
  let minute ← number 2 0 59
  char ':'
  let second ← number 2 0 60
  let fraction ← optional do
    char '.'
    span1 Integer.isDigit
  return hour ++ ':' :: minute ++ ':' :: second ++ (fraction.map ('.' :: ·)).getD []

/-- An offset whose hours, minutes and sum of minutes are bounded. -/
def offset (lastHour lastMinute most : Nat) : Reader (List Char) :=
  orElse ((fun _ => ['Z']) <$> one fun c => c == 'Z' || c == 'z') do
    let sign ← one fun c => c == '+' || c == '-'
    let hour ← number 2 0 lastHour
    char ':'
    let minute ← number 2 0 lastMinute
    if most < 60 * Integer.value hour + Integer.value minute then fail
    else return sign :: hour ++ ':' :: minute

/-- A date, a time, or a date with a time. Only both together have an offset. -/
def reader (lastHour : Nat) (offset : Reader (List Char)) : Reader String :=
  String.ofList <$> orElse (do
    let date ← date
    let rest ← optional do
      let _ ← one fun c => c == 'T' || c == 't' || c == ' '
      let time ← time lastHour
      let offset ← optional offset
      return 'T' :: time ++ offset.getD []
    return date ++ rest.getD []) (time lastHour)

/-- A moment as documents write it. -/
def written : Reader String := reader 23 (offset 23 59 1439)

/-- The moment that a string stands for, if it stands for one and holds nothing else. -/
def ofString? (text : String) : Option String :=
  match reader 24 (offset 99 99 1440) text.toList with
  | some (moment, []) => some moment
  | _ => none

end DeviceHarness.Toml.Moment
