import ImportLookup.Text.Bytes

/-!
# Dates and times in texts

Which texts write a day, a time of day or a zone. A day has to exist in its month; a fraction of a
second may have any number of digits. Each reader gives what follows the part that it accepts.
-/

namespace ImportLookup

namespace Timestamp

/-- One or two digits; both are needed if `fixed`. -/
def number? (fixed : Bool) : Bytes → Option (Nat × Bytes)
  | a :: b :: rest =>
    if !Bytes.isDigit a then none
    else if Bytes.isDigit b then some ((a.toNat - 48) * 10 + (b.toNat - 48), rest)
    else if fixed then none
    else some (a.toNat - 48, b :: rest)
  | [a] => if fixed || !Bytes.isDigit a then none else some (a.toNat - 48, [])
  | [] => none

/-- A certain byte. -/
def byte? (b : UInt8) : Bytes → Option Bytes
  | c :: rest => if c = b then some rest else none
  | [] => none

/-- Whether a year has a day more. -/
def isLeap (year : Nat) : Bool := year % 4 == 0 && (year % 100 != 0 || year % 400 == 0)

/-- How many days a month has. -/
def daysIn (year month : Nat) : Nat :=
  if month = 2 then (if isLeap year then 29 else 28)
  else if month = 4 || month = 6 || month = 9 || month = 11 then 30
  else 31

/-- A day: four digits, two and two, with dashes between them. -/
def date? (text : Bytes) : Option Bytes := do
  let year ← Bytes.readNat? 10 (text.take 4)
  guard ((text.take 4).length = 4)
  let rest ← byte? 45 (text.drop 4)
  let (month, rest) ← number? true rest
  guard (1 ≤ month ∧ month ≤ 12)
  let rest ← byte? 45 rest
  let (day, rest) ← number? true rest
  guard (1 ≤ day ∧ day ≤ daysIn year month)
  return rest

/-- A fraction of a second, which may be absent. -/
def fraction : Bytes → Bytes
  | p :: d :: rest =>
    if (p = 46 || p = 44) && Bytes.isDigit d then rest.dropWhile Bytes.isDigit else p :: d :: rest
  | text => text

/-- A time of day with seconds; the hour needs two digits if `fixed`. -/
def clock? (fixed : Bool) (text : Bytes) : Option Bytes := do
  let (hour, rest) ← number? fixed text
  guard (hour < 24)
  let rest ← byte? 58 rest
  let (minute, rest) ← number? true rest
  guard (minute < 60)
  let rest ← byte? 58 rest
  let (second, rest) ← number? true rest
  guard (second < 60)
  return fraction rest

/-- A zone: `Z`, or how far it is off in hours and minutes. -/
def zone? : Bytes → Option Bytes
  | [] => none
  | c :: rest =>
    if c = 90 then some rest
    else if c = 43 || c = 45 then do
      let (hours, rest) ← number? true rest
      guard (hours ≤ 24)
      let rest ← byte? 58 rest
      let (minutes, rest) ← number? true rest
      guard (minutes ≤ 60)
      return rest
    else none

/-- Hours and minutes alone, each of one or two digits. -/
def shortClock? (text : Bytes) : Option Bytes := do
  let (hour, rest) ← number? false text
  guard (hour < 24)
  let rest ← byte? 58 rest
  let (minute, rest) ← number? false rest
  guard (minute < 60)
  return rest

end Timestamp

end ImportLookup
