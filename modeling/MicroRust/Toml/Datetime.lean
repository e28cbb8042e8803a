/-! Dates and times of day as they are written, and whether calendar and clock have them. -/

namespace MicroRust.Toml

structure Date where
  year : Nat
  month : Nat
  day : Nat
deriving DecidableEq, Repr

structure Clock where
  hour : Nat
  minute : Nat
  second : Nat
deriving DecidableEq, Repr

structure Zone where
  text : String
  hours : Nat := 0
  minutes : Nat := 0
deriving DecidableEq, Repr

structure Datetime where
  date : Option Date := none
  clock : Option Clock := none
  zone : Option Zone := none
deriving DecidableEq, Repr

inductive DatetimeFault where
  | month | hour | minute | second | day
  | zone (text : String)
deriving DecidableEq, Repr

def DatetimeFault.message : DatetimeFault → String
  | .month => "month out of range"
  | .hour => "hour out of range"
  | .minute => "minute out of range"
  | .second => "second out of range"
  | .day => "day out of range"
  | .zone text => s!"extra text: \"{text}\""

def isLeap (year : Nat) : Bool := year % 4 = 0 && (year % 100 ≠ 0 || year % 400 = 0)

def daysIn (year month : Nat) : Nat :=
  match month with
  | 2 => if isLeap year then 29 else 28
  | 4 | 6 | 9 | 11 => 30
  | _ => 31

def Date.hasMonth (d : Date) : Bool := 1 ≤ d.month && d.month ≤ 12

def Date.hasDay (d : Date) : Bool := 1 ≤ d.day && d.day ≤ daysIn d.year d.month

def Clock.fault? (c : Clock) : Option DatetimeFault :=
  if 24 ≤ c.hour then some .hour
  else if 60 ≤ c.minute then some .minute
  else if 60 ≤ c.second then some .second
  else none

/-- A zone may be a whole day away, and its minutes may make up an hour. -/
def Zone.isInRange (z : Zone) : Bool := z.hours ≤ 24 && z.minutes ≤ 60

def Datetime.fault? (t : Datetime) : Option DatetimeFault :=
  if !t.date.all Date.hasMonth then some .month
  else match t.clock.bind Clock.fault? with
    | some fault => some fault
    | none =>
      let hasDay := t.date.all Date.hasDay
      match t.zone with
      | some z => if hasDay && z.isInRange then none else some (.zone z.text)
      | none => if hasDay then none else some .day

end MicroRust.Toml
