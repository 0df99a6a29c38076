/-!
# Instants

Points in time to the nanosecond, as the date and the time of day in UTC. The calendar is the
Gregorian one, extended to all years of its range. Any minute may end in a leap second, which is its
second number 60.
-/
namespace Connectivity

/-- Every fourth year, but of the full centuries only every fourth. -/
def isLeapYear (year : Int) : Bool := year % 4 = 0 && (year % 100 ≠ 0 || year % 400 = 0)

def daysInMonth (year : Int) (month : Nat) : Nat :=
  if month = 2 then if isLeapYear year then 29 else 28
  else if month = 4 ∨ month = 6 ∨ month = 9 ∨ month = 11 then 30
  else 31

/-- A day of the calendar. -/
structure Date where
  year : Int
  month : Nat
  day : Nat
  year_mem : -262143 ≤ year ∧ year ≤ 262142
  month_mem : 1 ≤ month ∧ month ≤ 12
  day_mem : 1 ≤ day ∧ day ≤ daysInMonth year month
  deriving DecidableEq, Repr

namespace Date

/-- The day with these numbers, if there is one. -/
def of? (year : Int) (month day : Nat) : Option Date :=
  if hy : -262143 ≤ year ∧ year ≤ 262142 then
    if hm : 1 ≤ month ∧ month ≤ 12 then
      if hd : 1 ≤ day ∧ day ≤ daysInMonth year month then some ⟨year, month, day, hy, hm, hd⟩
      else none
    else none
  else none

@[simp] theorem of?_self (d : Date) : of? d.year d.month d.day = some d := by
  simp [of?, d.year_mem, d.month_mem, d.day_mem]

/-- The day after, unless it is the last day. -/
def next? (d : Date) : Option Date :=
  if d.day < daysInMonth d.year d.month then of? d.year d.month (d.day + 1)
  else if d.month < 12 then of? d.year (d.month + 1) 1
  else of? (d.year + 1) 1 1

/-- The day before, unless it is the first day. -/
def previous? (d : Date) : Option Date :=
  if 1 < d.day then of? d.year d.month (d.day - 1)
  else if 1 < d.month then of? d.year (d.month - 1) (daysInMonth d.year (d.month - 1))
  else of? (d.year - 1) 12 31

end Date

/-- A time of day, to the nanosecond. -/
structure TimeOfDay where
  minuteOfDay : Nat
  second : Nat
  nanosecond : Nat
  minuteOfDay_lt : minuteOfDay < 1440
  second_le : second ≤ 60
  nanosecond_lt : nanosecond < 1000000000
  deriving DecidableEq, Repr

namespace TimeOfDay

def of? (hour minute second nanosecond : Nat) : Option TimeOfDay :=
  if h : hour < 24 ∧ minute < 60 ∧ second ≤ 60 ∧ nanosecond < 1000000000 then
    some ⟨60 * hour + minute, second, nanosecond, by omega, h.2.2.1, h.2.2.2⟩
  else none

def hour (t : TimeOfDay) : Nat := t.minuteOfDay / 60

def minute (t : TimeOfDay) : Nat := t.minuteOfDay % 60

@[simp] theorem of?_self (t : TimeOfDay) :
    of? t.hour t.minute t.second t.nanosecond = some t := by
  have hm := t.minuteOfDay_lt
  have hh : t.hour < 24 := by simp only [hour]; omega
  have hs : t.minute < 60 := by simp only [minute]; omega
  have he : 60 * t.hour + t.minute = t.minuteOfDay := by simp only [hour, minute]; omega
  rw [of?, dif_pos ⟨hh, hs, t.second_le, t.nanosecond_lt⟩]
  simp only [he]

end TimeOfDay

structure Instant where
  date : Date
  time : TimeOfDay
  deriving DecidableEq, Repr

namespace Instant

/-- The beginning of 1970. -/
def epoch : Instant :=
  ⟨⟨1970, 1, 1, by decide, by decide, by decide⟩, ⟨0, 0, 0, by decide, by decide, by decide⟩⟩

/-- The instant of a local date and time that is `offset` minutes ahead of UTC. -/
def ofLocal? (date : Date) (time : TimeOfDay) (offset : Int) : Option Instant := do
  let minutes := (time.minuteOfDay : Int) - offset
  let date ←
    if minutes < 0 then date.previous?
    else if minutes < 1440 then some date
    else date.next?
  let minuteOfDay := (minutes % 1440).toNat
  return ⟨date, { time with minuteOfDay, minuteOfDay_lt := by omega }⟩

@[simp] theorem ofLocal?_zero (date : Date) (time : TimeOfDay) :
    ofLocal? date time 0 = some ⟨date, time⟩ := by
  have h := time.minuteOfDay_lt
  have h0 : ¬ ((time.minuteOfDay : Int) - 0 < 0) := by omega
  have h1 : (time.minuteOfDay : Int) - 0 < 1440 := by omega
  have h2 : (((time.minuteOfDay : Int) - 0) % 1440).toNat = time.minuteOfDay := by omega
  simp only [ofLocal?, if_neg h0, if_pos h1, h2]
  rfl

end Instant

end Connectivity
