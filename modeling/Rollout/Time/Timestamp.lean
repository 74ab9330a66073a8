import Rollout.Text.Decimal
import Rollout.Time.Date
import Rollout.Time.Duration

/-!
# Points in time

A timestamp counts seconds from 1970-01-01T00:00:00Z and nanoseconds within the second. During a leap second the count
of seconds stands still and the nanoseconds run on from 10^9.

It is written in UTC as RFC 3339 has it, with a fraction of 3, 6 or 9 digits, the fewest that lose nothing, or none.
-/

namespace Rollout

structure Timestamp where
  seconds : Int
  nanos : Nat
  nanos_lt : nanos < 2000000000
deriving DecidableEq

namespace Timestamp

def epoch : Timestamp := ⟨0, 0, by decide⟩

instance : Inhabited Timestamp := ⟨epoch⟩

/-- The point in time at instant `t` of a clock that was started at the epoch. -/
def ofInstant (t : Instant) : Timestamp :=
  ⟨t / 1000000000, t % 1000000000, by omega⟩

/-- The point in time that a date, a time of day and an offset from UTC in seconds stand for. It has to lie within the
years that are kept in UTC too. -/
def ofCivil? (date : Date) (hour minute second nanos : Nat) (offset : Int) : Option Timestamp :=
  if date.isValid ∧ hour < 24 ∧ minute < 60 ∧ second ≤ 60 ∧ nanos < 1000000000 then
    let (s, n) := if second = 60 then (59, nanos + 1000000000) else (second, nanos)
    let seconds := date.toDays * 86400 + hour * 3600 + minute * 60 + s - offset
    let day := seconds / 86400
    if h : n < 2000000000 then
      if Date.firstDay ≤ day ∧ day ≤ Date.lastDay then some ⟨seconds, n, h⟩ else none
    else none
  else none

def fraction (n : Nat) : String :=
  if n = 0 then ""
  else if n % 1000000 = 0 then "." ++ Text.Decimal.padded 3 (n / 1000000)
  else if n % 1000 = 0 then "." ++ Text.Decimal.padded 6 (n / 1000)
  else "." ++ Text.Decimal.padded 9 n

/-- A year has four digits; one that needs more, or lies before year 0, carries its sign. -/
def writeYear (y : Int) : String :=
  if 0 ≤ y ∧ y ≤ 9999 then Text.Decimal.padded 4 y.toNat
  else (if y < 0 then "-" else "+") ++ Text.Decimal.padded 4 y.natAbs

def write (t : Timestamp) : String :=
  let date := Date.ofDays (t.seconds / 86400)
  let ofDay := (t.seconds % 86400).toNat
  let (second, nanos) :=
    if t.nanos < 1000000000 then (ofDay % 60, t.nanos) else (ofDay % 60 + 1, t.nanos - 1000000000)
  let two := Text.Decimal.padded 2
  writeYear date.year ++ "-" ++ two date.month ++ "-" ++ two date.day ++ "T" ++ two (ofDay / 3600) ++ ":" ++
    two (ofDay / 60 % 60) ++ ":" ++ two second ++ fraction nanos ++ "Z"

instance : ToString Timestamp := ⟨write⟩

end Timestamp

end Rollout
