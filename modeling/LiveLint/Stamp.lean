/-!
# Dates and times

What a configuration file may call a date, a time, or both together, and how they are written.
-/

namespace LiveLint

structure Day where
  year : Nat
  month : Nat
  day : Nat
  deriving DecidableEq, Repr

structure DayTime where
  hour : Nat
  minute : Nat
  second : Nat
  micro : Nat := 0
  deriving DecidableEq, Repr

/-- A date, a time, or both. Both together may name how many minutes their clock is ahead. -/
inductive Stamp where
  | day (d : Day)
  | time (t : DayTime)
  | both (d : Day) (t : DayTime) (ahead : Option Int)
  deriving DecidableEq, Repr

/-- A number with zeros in front of it up to a width. -/
def paddedDigits (width n : Nat) : String :=
  String.ofList (List.replicate (width - (Nat.toDigits 10 n).length) '0' ++ Nat.toDigits 10 n)

namespace Day

def isLeap (year : Nat) : Bool := year % 4 == 0 && (year % 100 != 0 || year % 400 == 0)

def monthLength (year month : Nat) : Nat :=
  if month == 2 then if isLeap year then 29 else 28
  else if [4, 6, 9, 11].contains month then 30
  else 31

def isValid (d : Day) : Bool :=
  1 ≤ d.year && 1 ≤ d.month && d.month ≤ 12 && 1 ≤ d.day && d.day ≤ monthLength d.year d.month

/-- A day with hyphens between its parts. -/
def text (d : Day) : String :=
  paddedDigits 4 d.year ++ "-" ++ paddedDigits 2 d.month ++ "-" ++ paddedDigits 2 d.day

def parts (d : Day) : List Nat := [d.year, d.month, d.day]

end Day

namespace DayTime

/-- A time with colons between its parts. Whole seconds have no fraction. -/
def text (t : DayTime) : String :=
  paddedDigits 2 t.hour ++ ":" ++ paddedDigits 2 t.minute ++ ":" ++ paddedDigits 2 t.second ++
    if t.micro == 0 then "" else "." ++ paddedDigits 6 t.micro

/-- The parts of a time, without zeros at the end except for the minutes. -/
def parts (t : DayTime) : List Nat :=
  [t.hour, t.minute] ++
    if t.micro != 0 then [t.second, t.micro] else if t.second != 0 then [t.second] else []

end DayTime

namespace Stamp

def typeName : Stamp → String
  | .day _ => "datetime.date"
  | .time _ => "datetime.time"
  | .both .. => "datetime.datetime"

/-- How far a clock is ahead, in hours and minutes. -/
def aheadText (minutes : Int) : String :=
  (if minutes < 0 then "-" else "+") ++ paddedDigits 2 (minutes.natAbs / 60) ++ ":" ++
    paddedDigits 2 (minutes.natAbs % 60)

/-- The text of a date, a time, or both with a blank between them. -/
def text : Stamp → String
  | .day d => d.text
  | .time t => t.text
  | .both d t ahead => d.text ++ " " ++ t.text ++ (ahead.map aheadText).getD ""

/-- How far a clock is ahead, as messages show it: in days and seconds, the seconds never negative. -/
def shownAhead (minutes : Int) : String :=
  let days := minutes.fdiv 1440
  let seconds := 60 * minutes.fmod 1440
  let named (name : String) (n : Int) : List String :=
    if n == 0 then [] else [name ++ "=" ++ toString n]
  if minutes == 0 then "datetime.timezone.utc"
  else
    "datetime.timezone(datetime.timedelta(" ++
      ", ".intercalate (named "days" days ++ named "seconds" seconds) ++ "))"

/-- A date or a time as messages show it: the name of its type with its parts. -/
def shown (s : Stamp) : String :=
  let parts :=
    match s with
    | .day d => d.parts.map toString
    | .time t => t.parts.map toString
    | .both d t ahead =>
      (d.parts ++ t.parts).map toString ++ (ahead.map fun m => "tzinfo=" ++ shownAhead m).toList
  s.typeName ++ "(" ++ ", ".intercalate parts ++ ")"

end Stamp

end LiveLint
