import SchemaAlgebra.Format.Calendar
import SchemaAlgebra.Json.Key

/-!
Dates and moments in YAML: a day of the calendar, alone or with a time of day that may have a distance
to universal time. JSON has neither, so they are foreign values.
-/

namespace SchemaAlgebra.Yaml

/-- A moment on a day, with its distance to universal time in minutes if it has one. -/
structure Clock where
  hour : Nat
  minute : Nat
  second : Nat
  micro : Nat
  shift : Option Int

/-- A day, alone or with a moment. -/
structure Moment where
  year : Nat
  month : Nat
  day : Nat
  clock : Option Clock

namespace Moment

/-- Why a moment does not exist: the part that is out of its range. -/
inductive Error
  | noYear (year : Nat)
  | noMonth
  | noDay
  | noHour
  | noMinute
  | noSecond
  | longShift (minutes : Int)
  deriving DecidableEq

/-- The seconds of a distance in minutes: whole days, which may be below zero, and seconds. -/
def spanLiteral (minutes : Int) : String :=
  let days := minutes.fdiv 1440
  let seconds := (minutes.fmod 1440) * 60
  let parts := (if days = 0 then [] else [s!"days={days}"]) ++
    (if seconds = 0 then [] else [s!"seconds={seconds}"])
  "datetime.timedelta(" ++ (if parts.isEmpty then "0" else ", ".intercalate parts) ++ ")"

/-- The wording of an error. -/
def Error.message : Error → String
  | .noYear year => s!"year {year} is out of range"
  | .noMonth => "month must be in 1..12"
  | .noDay => "day is out of range for month"
  | .noHour => "hour must be in 0..23"
  | .noMinute => "minute must be in 0..59"
  | .noSecond => "second must be in 0..59"
  | .longShift minutes =>
      "offset must be a timedelta strictly between -timedelta(hours=24) and timedelta(hours=24), " ++
        "not " ++ spanLiteral minutes ++ "."

/-- Read between `least` and `most` digits at the front of a text. -/
def number? (least most : Nat) (text : List Char) : Option (Nat × List Char) :=
  let digits := (text.take most).takeWhile Char.isDigit
  if digits.length < least then none
  else some (Nat.ofDigitChars 10 digits 0, text.drop digits.length)

/-- Read a character at the front of a text. -/
def skip? (c : Char) : List Char → Option (List Char)
  | [] => none
  | first :: rest => if first = c then some rest else none

/-- Read a fraction of a second: its first six digits count. -/
def fraction (text : List Char) : Nat × List Char :=
  match text with
  | '.' :: rest =>
      let digits := rest.takeWhile Char.isDigit
      (Nat.ofDigitChars 10 ((digits ++ List.replicate 6 '0').take 6) 0, rest.drop digits.length)
  | _ => (0, text)

/-- Read a distance to universal time, with blanks before it: none if nothing stands there. -/
def shift (text : List Char) : Option Int × List Char :=
  let distance := fun (negative : Bool) (rest : List Char) =>
    match number? 1 2 rest with
    | none => (none, text)
    | some (hours, rest) =>
        let (minutes, rest) :=
          match skip? ':' rest with
          | none => (0, rest)
          | some after => (number? 2 2 after).getD (0, rest)
        let total : Int := 60 * hours + minutes
        (some (if negative then -total else total), rest)
  match text.dropWhile fun c => c = ' ' || c = '\t' with
  | 'Z' :: rest => (some 0, rest)
  | '+' :: rest => distance false rest
  | '-' :: rest => distance true rest
  | _ => (none, text)

/-- Read the time of day behind a day. -/
def clock? (text : List Char) : Option (Clock × List Char) := do
  let body ← match text with
    | 'T' :: rest | 't' :: rest => some rest
    | _ =>
        let rest := text.dropWhile fun c => c = ' ' || c = '\t'
        if rest.length < text.length then some rest else none
  let (hour, rest) ← number? 1 2 body
  let (minute, rest) ← number? 2 2 (← skip? ':' rest)
  let (second, rest) ← number? 2 2 (← skip? ':' rest)
  let (micro, rest) := fraction rest
  let (distance, rest) := shift rest
  return (⟨hour, minute, second, micro, distance⟩, rest)

/-- Whether a text is at its end, but for one line end. -/
def isOver (text : List Char) : Bool :=
  text = [] || text = ['\n']

/-- Read a day, alone or with a time of day. -/
def ofText? (text : List Char) : Option Moment := do
  let (year, rest) ← number? 4 4 text
  let (month, rest) ← number? 1 2 (← skip? '-' rest)
  let (day, rest) ← number? 1 2 (← skip? '-' rest)
  if isOver rest then return ⟨year, month, day, none⟩
  else
    let (clock, rest) ← clock? rest
    if isOver rest then return ⟨year, month, day, some clock⟩ else none

/-- Why a day does not exist, if it does not. -/
def dayError? (moment : Moment) : Option Error :=
  if moment.year = 0 then some (.noYear moment.year)
  else if moment.month = 0 ∨ 12 < moment.month then some .noMonth
  else if moment.day = 0 ∨ Format.daysInMonth moment.year moment.month < moment.day then some .noDay
  else none

/-- Why a time of day does not exist, if it does not. -/
def clockError? (clock : Clock) : Option Error :=
  if 23 < clock.hour then some .noHour
  else if 59 < clock.minute then some .noMinute
  else if 59 < clock.second then some .noSecond
  else none

/-- Why a distance to universal time is too large, if it is. -/
def shiftError? (clock : Clock) : Option Error :=
  match clock.shift with
  | some minutes => if minutes.natAbs < 1440 then none else some (.longShift minutes)
  | none => none

/-- Why a moment does not exist, if it does not; the distance is looked at first. -/
def error? (moment : Moment) : Option Error :=
  match moment.clock with
  | none => moment.dayError?
  | some clock => (shiftError? clock).or (moment.dayError?.or (clockError? clock))

/-- A number with leading zeros. -/
def padded (width n : Nat) : String :=
  let digits := Nat.toDigits 10 n
  String.ofList (List.replicate (width - digits.length) '0' ++ digits)

/-- The literal form of a distance to universal time. -/
def shiftLiteral (minutes : Int) : String :=
  if minutes = 0 then "datetime.timezone.utc"
  else "datetime.timezone(" ++ spanLiteral minutes ++ ")"

/-- The literal form of a moment; zeros at the end of the time are left out. -/
def literal (moment : Moment) : String :=
  let day := [toString moment.year, toString moment.month, toString moment.day]
  match moment.clock with
  | none => "datetime.date(" ++ ", ".intercalate day ++ ")"
  | some clock =>
      let seconds := if clock.micro = 0 then
          (if clock.second = 0 then [] else [toString clock.second])
        else [toString clock.second, toString clock.micro]
      let place := match clock.shift with
        | some minutes => ["tzinfo=" ++ shiftLiteral minutes]
        | none => []
      "datetime.datetime(" ++ ", ".intercalate
        (day ++ [toString clock.hour, toString clock.minute] ++ seconds ++ place) ++ ")"

/-- A moment as running text. -/
def display (moment : Moment) : String :=
  let day := padded 4 moment.year ++ "-" ++ padded 2 moment.month ++ "-" ++ padded 2 moment.day
  match moment.clock with
  | none => day
  | some clock =>
      let micro := if clock.micro = 0 then "" else "." ++ padded 6 clock.micro
      let place := match clock.shift with
        | some minutes =>
            (if minutes < 0 then "-" else "+") ++ padded 2 (minutes.natAbs / 60) ++ ":" ++
              padded 2 (minutes.natAbs % 60)
        | none => ""
      day ++ " " ++ padded 2 clock.hour ++ ":" ++ padded 2 clock.minute ++ ":" ++
        padded 2 clock.second ++ micro ++ place

/-- A moment as a foreign value. -/
def toForeign (moment : Moment) : Foreign :=
  ⟨if moment.clock.isSome then .moment else .date, moment.literal, moment.display⟩

example : (ofText? "2001-12-14t21:59:43.10-05:00".toList).map display =
    some "2001-12-14 21:59:43.100000-05:00" := by decide

end Moment

end SchemaAlgebra.Yaml
