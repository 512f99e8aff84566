import SchemaAlgebra.Text.Character

/-!
Dates and times of day. A date is written with four, two and two Basic Latin digits and names a day
that exists; a time of day has one or two digits, of any script, for hours, minutes and seconds.
-/

namespace SchemaAlgebra.Format

/-- Whether a year has a leap day. -/
def isLeapYear (year : Nat) : Bool :=
  year % 4 = 0 && (year % 100 ≠ 0 || year % 400 = 0)

/-- How many days a month has. -/
def daysInMonth (year month : Nat) : Nat :=
  if month = 2 then (if isLeapYear year then 29 else 28)
  else if month ∈ [4, 6, 9, 11] then 30
  else 31

/-- The number that Basic Latin digits denote. -/
def latinNumber? (digits : List Char) : Option Nat :=
  if digits.all Char.isDigit then some (digits.foldl (fun n c => 10 * n + (c.toNat - 48)) 0)
  else none

/-- Whether a text is a date. -/
def isDate (text : List Char) : Bool :=
  match text with
  | [a, b, c, d, '-', e, f, '-', g, h] =>
      match latinNumber? [a, b, c, d], latinNumber? [e, f], latinNumber? [g, h] with
      | some year, some month, some day =>
          1 ≤ year && 1 ≤ month && month ≤ 12 && 1 ≤ day && day ≤ daysInMonth year month
      | _, _, _ => false
  | _ => false

/-- The readings of a field of a time of day at the front of a text: two digits or one, in the order
in which they are tried. Two digits make a field only if they are a `pair`. -/
def timeField (pair : Char → Char → Bool) (text : List Char) : List (Nat × List Char) :=
  match text with
  | [] => []
  | a :: rest =>
      match Text.digitValue? a with
      | none => []
      | some x =>
          let single := [(x, rest)]
          match rest with
          | b :: more =>
              match Text.digitValue? b with
              | some y =>
                  if pair a b then (10 * x + y, more) :: single else single
              | none => single
          | [] => single

/-- The first reading of hours, minutes and seconds at the front of a text: the seconds and what is
left. -/
def timeAtFront? (text : List Char) : Option (Nat × List Char) :=
  let afterColon := fun (reading : Nat × List Char) =>
    match reading.2 with
    | ':' :: rest => some rest
    | _ => none
  let hours := timeField
    (fun a b => a = '0' || a = '1' || (a = '2' && '0' ≤ b && b ≤ '3')) text
  let minutes := (hours.filterMap afterColon).flatMap
    (timeField fun a _ => '0' ≤ a && a ≤ '5')
  let seconds := (minutes.filterMap afterColon).flatMap
    (timeField fun a b => ('0' ≤ a && a ≤ '5') || (a = '6' && (b = '0' || b = '1')))
  seconds.head?

/-- Whether a text is a time of day. -/
def isTime (text : List Char) : Bool :=
  match timeAtFront? text with
  | some (seconds, rest) => rest.isEmpty && seconds < 60
  | none => false

example : isDate "2024-02-29".toList = true ∧ isDate "2023-02-29".toList = false := by decide

end SchemaAlgebra.Format
