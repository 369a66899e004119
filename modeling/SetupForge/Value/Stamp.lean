/-! # Dates and times

A stamp is a date, or a point in time. A point in time with a zone is the same as any other
that names the same instant, in whatever zone; without a zone it is a matter of its fields.
-/

namespace SetupForge

structure TimeOfDay where
  hour : Nat
  minute : Nat
  second : Nat
  micros : Nat
  /-- The distance from universal time in minutes, if it is known. -/
  zone : Option Int
deriving DecidableEq, Repr

/-- A date, or a point in time. -/
structure Stamp where
  year : Nat
  month : Nat
  day : Nat
  time : Option TimeOfDay
deriving DecidableEq, Repr

def isLeapYear (year : Nat) : Bool := year % 4 = 0 && (year % 100 != 0 || year % 400 = 0)

def daysIn (year month : Nat) : Nat :=
  if month = 2 then (if isLeapYear year then 29 else 28)
  else if month ∈ [4, 6, 9, 11] then 30
  else 31

namespace Stamp

/-- How far a zone can be from universal time, in minutes. -/
def zoneBound : Nat := 24 * 60

def isOnCalendar (stamp : Stamp) : Bool :=
  1 ≤ stamp.year && 1 ≤ stamp.month && stamp.month ≤ 12 && 1 ≤ stamp.day &&
    stamp.day ≤ daysIn stamp.year stamp.month &&
    (match stamp.time with
      | none => true
      | some time =>
          time.hour < 24 && time.minute < 60 && time.second < 60 &&
            (match time.zone with
              | none => true
              | some minutes => minutes.natAbs < zoneBound))

/-- How many days a date is after the first of all. -/
def dayNumber (stamp : Stamp) : Nat :=
  let years := stamp.year - 1
  let before := (List.range (stamp.month - 1)).foldl (fun days month =>
    days + daysIn stamp.year (month + 1)) 0
  years * 365 + years / 4 - years / 100 + years / 400 + before + (stamp.day - 1)

/-- The microseconds of universal time at a point in time with a zone. -/
def instant? (stamp : Stamp) : Option Int := do
  let time ← stamp.time
  let zone ← time.zone
  let minutes : Int := (stamp.dayNumber * 24 + time.hour) * 60 + time.minute - zone
  some ((minutes * 60 + time.second) * 1000000 + time.micros)

def isSame (a b : Stamp) : Bool :=
  match a.instant?, b.instant? with
  | some a, some b => a == b
  | none, none => a == b
  | _, _ => false

end Stamp

end SetupForge
