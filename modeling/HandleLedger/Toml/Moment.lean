import HandleLedger.Text.Hexadecimal
import HandleLedger.Toml.Number

/-!
# Dates and times

A moment is a date of the calendar, a time of day, or both with an optional offset. A day has to
exist in its month, a second may be a leap second. Moments are kept as they are written.
-/

set_option autoImplicit false

namespace HandleLedger.Toml.Moment

open Reader

/-- This many decimal digits. -/
def figures (n : Nat) : Reader (List Char) := times n (satisfying Number.isDigit)

/-- A number of this many digits within bounds. -/
def bounded (n low high : Nat) : Reader (List Char) := do
  let cs ← figures n
  let value := Number.valueOf 10 cs
  guarded (low ≤ value && value ≤ high)
  return cs

/-- Whether February of the year has a leap day. -/
def isLeap (year : Nat) : Bool := year % 4 == 0 && (year % 100 != 0 || year % 400 == 0)

/-- The number of days of a month. -/
def daysOf (year month : Nat) : Nat :=
  if month = 2 then if isLeap year then 29 else 28
  else if month ∈ [4, 6, 9, 11] then 30
  else 31

/-- A date of the calendar. -/
def date : Reader (List Char) := do
  let y ← figures 4
  let _ ← char '-'
  let m ← bounded 2 1 12
  let _ ← char '-'
  let d ← bounded 2 1 (daysOf (Number.valueOf 10 y) (Number.valueOf 10 m))
  return y ++ '-' :: m ++ '-' :: d

/-- A time of day. -/
def time : Reader (List Char) := do
  let h ← bounded 2 0 23
  let _ ← char ':'
  let m ← bounded 2 0 59
  let _ ← char ':'
  let s ← bounded 2 0 60
  let f ← optional do
    let _ ← char '.'
    several (satisfying Number.isDigit)
  return h ++ ':' :: m ++ ':' :: s ++ (f.elim [] ('.' :: ·))

/-- The offset of a time. -/
def offset : Reader (List Char) :=
  either
    (do
      let c ← satisfying fun c => c == 'Z' || c == 'z'
      return [c])
    (do
      let s ← satisfying fun c => c == '+' || c == '-'
      let h ← bounded 2 0 23
      let _ ← char ':'
      let m ← bounded 2 0 59
      return s :: h ++ ':' :: m)

/-- The time that may follow a date. -/
def timeOfDate : Reader (List Char) := do
  let c ← satisfying fun c => c == 'T' || c == 't' || c == ' '
  let t ← time
  let o ← optional offset
  return c :: t ++ o.getD []

/-- A date, a time, or both. -/
def moment : Reader String :=
  either
    (do
      let d ← date
      let t ← optional timeOfDate
      return String.ofList (d ++ t.getD []))
    (do return String.ofList (← time))

end HandleLedger.Toml.Moment
